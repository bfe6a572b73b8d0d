import ScannerConfig.Toml.Moment
import ScannerConfig.Toml.Number
import ScannerConfig.Toml.Table
import ScannerConfig.Toml.Text

namespace ScannerConfig.Toml

section

variable (item : List Char → Option (Value × List Char))

/-- The items of a list up to its end. A comma may follow the last one. -/
def items? : Nat → List Char → Option (List Value × List Char)
  | 0, _ => none
  | fuel + 1, cs =>
    match skipLines (cs.length + 1) cs with
    | ']' :: rest => some ([], rest)
    | cs => do
      let (value, rest) ← item cs
      match skipLines (rest.length + 1) rest with
      | ',' :: rest => do
        let (more, rest) ← items? fuel rest
        some (value :: more, rest)
      | ']' :: rest => some ([value], rest)
      | _ => none

/-- A dotted key, an equals sign and a value. -/
def line? (cs : List Char) : Option (Line × List Char) := do
  let (path, rest) ← path? cs
  let rest ← expect? '=' rest
  let (value, rest) ← item (skipBlanks rest)
  some (⟨path, value⟩, rest)

/-- The lines of a table in braces, of which there is at least one. -/
def inlineLines? : Nat → List Char → Option (List Line × List Char)
  | 0, _ => none
  | fuel + 1, cs => do
    let (line, rest) ← line? item cs
    match skipBlanks rest with
    | ',' :: rest => do
      let (more, rest) ← inlineLines? fuel rest
      some (line :: more, rest)
    | '\x7d' :: rest => some ([line], rest)
    | _ => none

def inlineTable? (cs : List Char) : Option (Value × List Char) :=
  match skipBlanks cs with
  | '\x7d' :: rest => some (.table [], rest)
  | cs => do
    let (lines, rest) ← inlineLines? item (cs.length + 1) cs
    let table ← tableOfLines? lines
    some (table, rest)

end

/-- A value in which lists and tables are nested at most `depth` levels deep. -/
def value? (depth : Nat) (cs : List Char) : Option (Value × List Char) :=
  match cs with
  | [] => none
  | c :: rest =>
    if c = '"' ∨ c = '\'' then do
      let (text, rest) ← string? cs
      some (.string text, rest)
    else if c = '[' then
      match depth with
      | 0 => none
      | depth + 1 => do
        let (items, rest) ← items? (value? depth) (rest.length + 1) rest
        some (.list items, rest)
    else if c = '\x7b' then
      match depth with
      | 0 => none
      | depth + 1 => inlineTable? (value? depth) rest
    else match cs with
      | 't' :: 'r' :: 'u' :: 'e' :: rest => some (.bool true, rest)
      | 'f' :: 'a' :: 'l' :: 's' :: 'e' :: rest => some (.bool false, rest)
      | _ => (moment? cs).or ((decimal? cs).or ((special? cs).or (integer? cs)))

/-- How deep lists and tables may be nested inside a value. -/
def nestingLimit : Nat := 79

inductive Header where
  | table (path : List String)
  | tables (path : List String)

structure Section where
  header : Header
  lines : List Line

/-- A header after its opening bracket. -/
def header? : List Char → Option (Header × List Char)
  | '[' :: rest => do
    let (path, rest) ← path? rest
    let rest ← expect? ']' rest
    let rest ← expect? ']' rest
    some (.tables path, rest)
  | cs => do
    let (path, rest) ← path? cs
    let rest ← expect? ']' rest
    some (.table path, rest)

/-- The lines before the next header, and the sections from there on. -/
def sections? : Nat → List Char → Option (List Line × List Section)
  | 0, _ => none
  | fuel + 1, cs =>
    match skipLines (cs.length + 1) cs with
    | [] => some ([], [])
    | '[' :: rest => do
      let (header, rest) ← header? rest
      let rest ← lineEnd? rest
      let (lines, sections) ← sections? fuel rest
      some ([], ⟨header, lines⟩ :: sections)
    | cs =>
      match skipComment cs with
      | [] => some ([], [])
      | _ => do
        let (line, rest) ← line? (value? nestingLimit) cs
        let rest ← lineEnd? rest
        let (lines, sections) ← sections? fuel rest
        some (line :: lines, sections)

/-- Adds a section to what was read before it. -/
def addSection (parts : Parts) (part : Section) : Option Parts :=
  match part.header with
  | .table path => do
    let key ← path.getLast?
    Parts.at (Parts.openTable key part.lines) path.dropLast parts
  | .tables path => do
    let key ← path.getLast?
    Parts.at (Parts.addTable key part.lines) path.dropLast parts

/-- The table that a document spells, which a byte-order mark may open. -/
def document? (text : String) : Option (List (String × Value)) := do
  let cs := match text.toList with
    | '\ufeff' :: rest => rest
    | cs => cs
  let (lines, sections) ← sections? (cs.length + 1) cs
  let root ← Parts.fill [] lines
  let parts ← sections.foldlM addSection root
  some (valueEntries parts)

end ScannerConfig.Toml
