import ScannerConfig.Entries
import ScannerConfig.Text.Quoted
import ScannerConfig.Toml.Document

namespace ScannerConfig

/-- A value of a layer. -/
inductive Layer where
  | string (text : String)
  | bool (value : Bool)
  | signed (value : Int)
  | unsigned (value : Nat)
  | float (value : Real64)
  | list (items : List Layer)
  | dict (entries : List (String × Layer))
  deriving Repr

namespace Layer

mutual

/-- Dictionaries are merged, any other value gives way to the new one. -/
def override (old : Layer) : Layer → Layer
  | .dict new =>
    match old with
    | .dict entries => .dict (overrideEntries entries new)
    | _ => .dict new
  | new => new

def overrideEntries (old : List (String × Layer)) : List (String × Layer) → List (String × Layer)
  | [] => old
  | (key, new) :: rest =>
    let value := match Entries.get? old key with
      | some value => override value new
      | none => new
    overrideEntries (Entries.insert old key value) rest

end

/-- A value under a path of keys. -/
def nest (path : List String) (value : Layer) : Layer :=
  path.foldr (fun key value => .dict [(key, value)]) value

mutual

/-- The layer of a document. A moment is a dictionary of its one text. -/
def ofToml : Toml.Value → Layer
  | .string text => .string text
  | .integer value => .signed value
  | .float value => .float value
  | .bool value => .bool value
  | .moment text => .dict [("$__toml_private_datetime", .string text)]
  | .list items => .list (itemsOfToml items)
  | .table entries => .dict (entriesOfToml entries)

def itemsOfToml : List Toml.Value → List Layer
  | [] => []
  | item :: items => ofToml item :: itemsOfToml items

def entriesOfToml : List (String × Toml.Value) → List (String × Layer)
  | [] => []
  | (key, value) :: entries => (key, ofToml value) :: entriesOfToml entries

end

/-- Floats in messages are written out in full. -/
def floatStyle : DecimalStyle := ⟨-400, 400, false, false⟩

def floatText : Real64 → String
  | .finite value => floatStyle.write value
  | .infinite negative => if negative then "-inf" else "inf"
  | .nan => "NaN"

/-- A value as a message names it. -/
def phrase : Layer → String
  | string text => "string " ++ Quoted.write text
  | bool value => if value then "bool true" else "bool false"
  | signed value => "signed int `" ++ toString value ++ "`"
  | unsigned value => "unsigned int `" ++ toString value ++ "`"
  | float value => "float `" ++ floatText value ++ "`"
  | list _ => "sequence"
  | dict _ => "map"

end Layer

end ScannerConfig
