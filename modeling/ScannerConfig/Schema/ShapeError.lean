import ScannerConfig.Json.Printer
import ScannerConfig.Text.Quoted

namespace ScannerConfig

/-- A value as a message names it. -/
inductive Found where
  | null
  | bool (value : Bool)
  | number (value : Json.Number)
  | string (value : String)
  | list
  | map
  deriving DecidableEq, Repr

def Found.ofJson : Json → Found
  | .null => null
  | .bool value => bool value
  | .number value => number value
  | .string value => string value
  | .array _ => list
  | .object _ => map

def Found.phrase : Found → String
  | null => "null"
  | bool value => if value then "boolean `true`" else "boolean `false`"
  | number (.integer value) => "integer `" ++ toString value ++ "`"
  | number (.float value) => "floating point `" ++ Json.floatStyle.write value ++ "`"
  | string value => "string " ++ Quoted.write value
  | list => "sequence"
  | map => "map"

inductive RecordKind where
  | config
  | options
  | entity
  | system
  | unit
  | talkgroup
  deriving DecidableEq, Repr

/-- What a place asks for. -/
inductive Expected where
  | unsigned (bits : Nat)
  | text
  | toggle
  | list
  | record (kind : RecordKind)
  deriving DecidableEq, Repr

def RecordKind.name : RecordKind → String
  | config => "Config"
  | options => "Options"
  | entity => "Entity"
  | system => "System"
  | unit => "Unit"
  | talkgroup => "Talkgroup"

def Expected.phrase : Expected → String
  | unsigned bits => "u" ++ toString bits
  | .text => "a string"
  | toggle => "a boolean"
  | list => "a sequence"
  | record kind => "struct " ++ kind.name

inductive ShapeError where
  | kind (found : Found) (expected : Expected)
  | range (value : Int) (expected : Expected)
  | missing (key : String)
  deriving DecidableEq, Repr

def ShapeError.message : ShapeError → String
  | kind found expected => "invalid type: " ++ found.phrase ++ ", expected " ++ expected.phrase
  | range value expected =>
    "invalid value: integer `" ++ toString value ++ "`, expected " ++ expected.phrase
  | missing key => "missing field `" ++ key ++ "`"

namespace ShapeError

def mismatch {α : Type} (value : Json) (expected : Expected) : Except ShapeError α :=
  .error (.kind (Found.ofJson value) expected)

/-- The entries of a value that has to be a record. -/
def asRecord (which : RecordKind) : Json → Except ShapeError (Entries Json)
  | .object entries => .ok entries
  | other => mismatch other (.record which)

/-- The items of a value that has to be a list. -/
def asList : Json → Except ShapeError (List Json)
  | .array items => .ok items
  | other => mismatch other .list

/-- Null stands for a value that is not there. -/
def optional {α : Type} (read : Json → Except ShapeError α) : Json → Except ShapeError (Option α)
  | .null => .ok none
  | value => (read value).map some

def given : Json → Option Json
  | .null => none
  | value => some value

end ShapeError

end ScannerConfig
