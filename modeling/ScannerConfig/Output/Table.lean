namespace ScannerConfig.Table

def columnWidth (rows : List (List String)) (column : Nat) : Nat :=
  (rows.map fun row => (row.getD column "").length).foldl max 0

/-- The widths of the columns of a table, its head being the first row. -/
def widths (head : List String) (rows : List (List String)) : List Nat :=
  (List.range head.length).map (columnWidth (head :: rows))

def rule (left middle right : String) (widths : List Nat) : String :=
  left ++ middle.intercalate (widths.map fun width => "".pushn '─' (width + 2)) ++ right

def cell (width : Nat) (text : String) : String :=
  " " ++ text.pushn ' ' (width - text.length) ++ " "

def line (widths : List Nat) (row : List String) : String :=
  "│" ++ "│".intercalate (List.zipWith cell widths row) ++ "│"

def render (head : List String) (rows : List (List String)) : String :=
  let widths := widths head rows
  "\n".intercalate (
    [rule "╭" "┬" "╮" widths, line widths head, rule "├" "┼" "┤" widths] ++
    rows.map (line widths) ++ [rule "╰" "┴" "╯" widths])

end ScannerConfig.Table
