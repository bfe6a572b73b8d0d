import ScannerConfig.Json.Value
import ScannerConfig.Yaml.Scalar

namespace ScannerConfig.Yaml

/-- Floats are written out from `1e-5` up to `1e16`, otherwise with an exponent that carries no
plus sign. -/
def floatStyle : DecimalStyle := ⟨-4, 16, true, false⟩

def numberChars : Json.Number → List Char
  | .integer value =>
    if value < 0 then '-' :: Nat.toDigits 10 value.natAbs else Nat.toDigits 10 value.natAbs
  | .float value => (floatStyle.write value).toList

/-- Ends a line that is still open. -/
def closeLine (cs : List Char) : List Char :=
  if endsWith isBreak cs then cs else cs ++ ['\n']

/-- Whether a key can stand before a colon on one line. -/
def isSimpleKey (key : String) : Bool :=
  !key.toList.any isBreak && key.utf8ByteSize ≤ 128

/-- Items one below the other, each set in by `indent` blanks but the first, which stands where
the line has already come to. -/
def joinLines (indent : Nat) : List (List Char) → List Char
  | [] => []
  | [item] => item
  | item :: items => closeLine item ++ blanks indent ++ joinLines indent items

/-- Where a value stands: at the start of an item, or behind the colon of a simple key. -/
inductive Spot where
  | item
  | behindKey
  deriving DecidableEq, Repr

/-- A value that stays on the line. -/
def Spot.inline (spot : Spot) (text : List Char) : List Char :=
  match spot with
  | .item => text
  | .behindKey => ' ' :: text

/-- The line break before a collection, whose items are set in by `indent` blanks. -/
def Spot.break (spot : Spot) (indent : Nat) : List Char :=
  match spot with
  | .item => []
  | .behindKey => '\n' :: blanks indent

/-- How far the items of a list are set in: behind a key they stand right under it. -/
def Spot.listIndent (spot : Spot) (indent : Nat) : Nat :=
  match spot with
  | .item => indent
  | .behindKey => indent - 2

mutual

/-- The text of a value. Entries and further lines of a string are set in by `indent` blanks. -/
def chars (spot : Spot) (indent : Nat) : Json → List Char
  | .null => spot.inline "null".toList
  | .bool true => spot.inline "true".toList
  | .bool false => spot.inline "false".toList
  | .number value => spot.inline (numberChars value)
  | .string text => spot.inline (stringChars indent text)
  | .array [] => spot.inline "[]".toList
  | .array (item :: items) =>
    spot.break (spot.listIndent indent) ++
      joinLines (spot.listIndent indent) (itemTexts (spot.listIndent indent) (item :: items))
  | .object [] => spot.inline ['\x7b', '\x7d']
  | .object (entry :: entries) =>
    spot.break indent ++ joinLines indent (entryTexts indent (entry :: entries))

def itemTexts (indent : Nat) : List Json → List (List Char)
  | [] => []
  | item :: items => ('-' :: ' ' :: chars .item (indent + 2) item) :: itemTexts indent items

/-- The texts of entries. A key that needs more than a line is marked as a key. -/
def entryTexts (indent : Nat) : List (String × Json) → List (List Char)
  | [] => []
  | (key, value) :: entries =>
    let keyText := stringChars (indent + 2) key
    let entry :=
      if isSimpleKey key then keyText ++ ':' :: chars .behindKey (indent + 2) value
      else
        closeLine ('?' :: ' ' :: keyText) ++ blanks indent ++
          ':' :: ' ' :: chars .item (indent + 2) value
    entry :: entryTexts indent entries

end

/-- The text of a document, which ends its last line. -/
def render (document : Json) : String :=
  let text := match document with
    | .array _ | .object _ => chars .item 0 document
    | other => chars .item 2 other
  String.ofList (closeLine text)

end ScannerConfig.Yaml
