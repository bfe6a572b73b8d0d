import ScannerConfig.Json.Value

namespace ScannerConfig.Json

/-- Floats are written out from `1e-5` up to `1e16`, otherwise with a signed exponent. -/
def floatStyle : DecimalStyle := ⟨-4, 16, true, true⟩

def Number.chars : Number → List Char
  | .integer value =>
    if value < 0 then '-' :: Nat.toDigits 10 value.natAbs else Nat.toDigits 10 value.natAbs
  | .float value => (floatStyle.write value).toList

/-- Two lower-case hexadecimal digits. -/
def hexPair (n : Nat) : List Char :=
  [Nat.digitChar (n / 16 % 16), Nat.digitChar (n % 16)]

/-- Quotes, backslashes and control characters are escaped, all else stands for itself. -/
def escapeChar (c : Char) : List Char :=
  if c = '"' then ['\\', '"']
  else if c = '\\' then ['\\', '\\']
  else if c = '\x08' then ['\\', 'b']
  else if c = '\x0c' then ['\\', 'f']
  else if c = '\n' then ['\\', 'n']
  else if c = '\r' then ['\\', 'r']
  else if c = '\t' then ['\\', 't']
  else if c.toNat < 0x20 then ['\\', 'u', '0', '0'] ++ hexPair c.toNat
  else [c]

def stringChars (text : String) : List Char :=
  '"' :: text.toList.flatMap escapeChar ++ ['"']

inductive Layout where
  | compact
  | indented
  deriving DecidableEq, Repr

/-- The line break before an item at a level of nesting. -/
def Layout.line : Layout → Nat → List Char
  | .compact, _ => []
  | .indented, level => '\n' :: List.replicate (2 * level) ' '

def Layout.colon : Layout → List Char
  | .compact => [':']
  | .indented => [':', ' ']

mutual

def chars (layout : Layout) (level : Nat) : Json → List Char
  | .null => ['n', 'u', 'l', 'l']
  | .bool true => ['t', 'r', 'u', 'e']
  | .bool false => ['f', 'a', 'l', 's', 'e']
  | .number value => value.chars
  | .string text => stringChars text
  | .array [] => ['[', ']']
  | .array (item :: items) =>
    '[' :: itemChars layout (level + 1) (item :: items) ++ layout.line level ++ [']']
  | .object [] => ['{', '}']
  | .object (entry :: entries) =>
    '{' :: entryChars layout (level + 1) (entry :: entries) ++ layout.line level ++ ['}']

def itemChars (layout : Layout) (level : Nat) : List Json → List Char
  | [] => []
  | [item] => layout.line level ++ chars layout level item
  | item :: items =>
    layout.line level ++ chars layout level item ++ ',' :: itemChars layout level items

def entryChars (layout : Layout) (level : Nat) : List (String × Json) → List Char
  | [] => []
  | [(key, value)] =>
    layout.line level ++ stringChars key ++ layout.colon ++ chars layout level value
  | (key, value) :: entries =>
    layout.line level ++ stringChars key ++ layout.colon ++ chars layout level value ++
      ',' :: entryChars layout level entries

end

def render (layout : Layout) (value : Json) : String :=
  String.ofList (chars layout 0 value)

def compact (value : Json) : String :=
  value.render .compact

def pretty (value : Json) : String :=
  value.render .indented

end ScannerConfig.Json
