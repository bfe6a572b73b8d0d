import ScannerConfig.Entries
import ScannerConfig.Toml.Value

namespace ScannerConfig.Toml

/-- How a table came to be. -/
inductive Origin where
  /-- By a header of its own. -/
  | header
  /-- On the way to a table with a header. -/
  | passed
  /-- By dotted keys. -/
  | dotted
  deriving DecidableEq, Repr

inductive Part where
  | value (value : Value)
  | table (origin : Origin) (entries : List (String × Part))
  /-- Tables under one header each, the last of which is open. -/
  | tables (closed : List (List (String × Part))) (last : List (String × Part))

abbrev Parts := List (String × Part)

/-- Puts a value under a dotted key. A table that dotted keys did not make takes no value from
them; `direct` tells whether the table at hand does. -/
def Parts.put (key : String) (value : Value) (direct : Bool) : List String → Parts → Option Parts
  | [], parts =>
    if direct && !Entries.has parts key then some (parts ++ [(key, .value value)]) else none
  | name :: path, parts =>
    match Entries.get? parts name with
    | none => do
      let made ← Parts.put key value true path []
      some (parts ++ [(name, .table .dotted made)])
    | some (.table .dotted inner) => do
      let inner ← Parts.put key value true path inner
      some (Entries.insert parts name (.table .dotted inner))
    | some (.table .passed inner) => do
      let inner ← Parts.put key value false path inner
      some (Entries.insert parts name (.table .passed inner))
    | some (.tables closed last) => do
      let last ← Parts.put key value false path last
      some (Entries.insert parts name (.tables closed last))
    | some (.table .header _) | some (.value _) => none

/-- A line of a table: a dotted key and its value. -/
structure Line where
  path : List String
  value : Value

/-- Puts lines into a table. -/
def Parts.fill (parts : Parts) (lines : List Line) : Option Parts :=
  lines.foldlM (fun parts line =>
    match line.path.getLast? with
    | none => none
    | some key => Parts.put key line.value true line.path.dropLast parts) parts

/-- Changes the table at a path of headers. -/
def Parts.at (change : Parts → Option Parts) : List String → Parts → Option Parts
  | [], parts => change parts
  | name :: path, parts =>
    match Entries.get? parts name with
    | none => do
      let made ← Parts.at change path []
      some (parts ++ [(name, .table .passed made)])
    | some (.table origin inner) => do
      let inner ← Parts.at change path inner
      some (Entries.insert parts name (.table origin inner))
    | some (.tables closed last) => do
      let last ← Parts.at change path last
      some (Entries.insert parts name (.tables closed last))
    | some (.value _) => none

/-- Opens a table under its header and fills it. -/
def Parts.openTable (key : String) (lines : List Line) (parts : Parts) : Option Parts :=
  match Entries.get? parts key with
  | none => do
    let made ← Parts.fill [] lines
    some (parts ++ [(key, .table .header made)])
  | some (.table .passed inner) => do
    let inner ← Parts.fill inner lines
    some (Entries.insert parts key (.table .header inner))
  | some _ => none

/-- Adds a table to those under one header. -/
def Parts.addTable (key : String) (lines : List Line) (parts : Parts) : Option Parts := do
  let made ← Parts.fill [] lines
  match Entries.get? parts key with
  | none => some (parts ++ [(key, .tables [] made)])
  | some (.tables closed last) =>
    some (Entries.insert parts key (.tables (closed ++ [last]) made))
  | some _ => none

mutual

def Part.toValue : Part → Value
  | .value value => value
  | .table _ entries => .table (valueEntries entries)
  | .tables closed last => .list (valueTables closed ++ [.table (valueEntries last)])

def valueEntries : List (String × Part) → List (String × Value)
  | [] => []
  | (key, part) :: rest => (key, part.toValue) :: valueEntries rest

def valueTables : List (List (String × Part)) → List Value
  | [] => []
  | entries :: rest => .table (valueEntries entries) :: valueTables rest

end

/-- The table that lines of dotted keys make up. -/
def tableOfLines? (lines : List Line) : Option Value :=
  (Parts.fill [] lines).map fun parts => .table (valueEntries parts)

end ScannerConfig.Toml
