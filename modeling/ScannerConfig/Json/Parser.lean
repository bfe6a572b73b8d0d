import ScannerConfig.Json.Value
import ScannerConfig.Text.Utf8

namespace ScannerConfig.Json

/-- Why a text is not JSON. -/
inductive Cause where
  | endInValue
  | endInList
  | endInObject
  | endInString
  | expectedValue
  | expectedIdentifier
  | expectedListCommaOrEnd
  | expectedObjectCommaOrEnd
  | expectedColon
  | keyNotString
  | trailingComma
  | trailingCharacters
  | invalidNumber
  | numberOutOfRange
  | invalidEscape
  | loneSurrogate
  | unfinishedSurrogatePair
  | invalidCodePoint
  | controlCharacter
  | tooDeep
  deriving DecidableEq, Repr

def Cause.message : Cause → String
  | .endInValue => "EOF while parsing a value"
  | .endInList => "EOF while parsing a list"
  | .endInObject => "EOF while parsing an object"
  | .endInString => "EOF while parsing a string"
  | .expectedValue => "expected value"
  | .expectedIdentifier => "expected ident"
  | .expectedListCommaOrEnd => "expected `,` or `]`"
  | .expectedObjectCommaOrEnd => "expected `,` or `\x7d`"
  | .expectedColon => "expected `:`"
  | .keyNotString => "key must be a string"
  | .trailingComma => "trailing comma"
  | .trailingCharacters => "trailing characters"
  | .invalidNumber => "invalid number"
  | .numberOutOfRange => "number out of range"
  | .invalidEscape => "invalid escape"
  | .loneSurrogate => "lone leading surrogate in hex escape"
  | .unfinishedSurrogatePair => "unexpected end of hex escape"
  | .invalidCodePoint => "invalid unicode code point"
  | .controlCharacter => "control character (\\u0000-\\u001F) found while parsing a string"
  | .tooDeep => "recursion limit exceeded"

/-- A cause with the bytes taken before it, as a line and a column in it. -/
structure SyntaxError where
  cause : Cause
  line : Nat
  column : Nat
  deriving DecidableEq, Repr

def SyntaxError.message (e : SyntaxError) : String :=
  s!"{e.cause.message} at line {e.line} column {e.column}"

/-- A cause with the bytes that were not taken. Readers take bytes from the front and answer
what they found with the bytes they left. -/
structure Stop where
  cause : Cause
  rest : List UInt8
  deriving DecidableEq, Repr

/-- The cause and place of a stop, in the text that was read. -/
def Stop.locate (text : List UInt8) (s : Stop) : SyntaxError :=
  let taken := text.take (text.length - s.rest.length)
  ⟨s.cause, 1 + taken.count 0x0A, (taken.reverse.takeWhile (· ≠ 0x0A)).length⟩

namespace Parser

def stop {α : Type} (cause : Cause) (rest : List UInt8) : Except Stop α :=
  .error ⟨cause, rest⟩

def isSpace (b : UInt8) : Bool :=
  b == 0x20 || b == 0x0A || b == 0x09 || b == 0x0D

def skipSpace (bytes : List UInt8) : List UInt8 :=
  bytes.dropWhile isSpace

/-- The rest of a name such as `null`. -/
def identifier : List UInt8 → List UInt8 → Except Stop (List UInt8)
  | [], bytes => .ok bytes
  | _ :: _, [] => stop .endInValue []
  | expected :: more, b :: bytes =>
    if b = expected then identifier more bytes else stop .expectedIdentifier bytes

def isDigit (b : UInt8) : Bool :=
  0x30 ≤ b && b ≤ 0x39

def startsWithDigit (bytes : List UInt8) : Bool :=
  (bytes.head?.map isDigit).getD false

/-- Appends digits to a number while it stays within the limit. -/
def absorb (limit : Nat) (number : Nat) : List UInt8 → Nat × List UInt8
  | [] => (number, [])
  | b :: bytes =>
    let next := number * 10 + (b.toNat - 0x30)
    if isDigit b && next ≤ limit then absorb limit next bytes else (number, b :: bytes)

def maxUnsigned : Nat := 0xFFFFFFFFFFFFFFFF

def maxExponentDigits : Nat := 0x7FFFFFFF

def powerOfTen (n : Nat) : Binary64 :=
  (Binary64.ofQuotient (Nat.pow 10 n) 1).getD .zero

/-- `x · 10 ^ -n`, in steps of at most `10 ^ 308`, rounded after each. -/
def scaleDown (x : Binary64) (n : Nat) : Binary64 :=
  if n ≤ 308 then (x.div (powerOfTen n)).getD .zero
  else if x.isZero then x
  else scaleDown ((x.div (powerOfTen 308)).getD .zero) (n - 308)
termination_by n

/-- `digits · 10 ^ exponent`: the digits are rounded first and then the scaled number. -/
def scale (digits : Nat) (exponent : Int) : Option Binary64 :=
  let x := (Binary64.ofQuotient digits 1).getD .zero
  if exponent < 0 then some (scaleDown x exponent.natAbs)
  else if exponent.natAbs ≤ 308 then x.mul (powerOfTen exponent.natAbs)
  else if x.isZero then some x
  else none

def signed (negative : Bool) (x : Binary64) : Number :=
  .float (if negative then x.neg else x)

def finishFloat (negative : Bool) (digits : Nat) (exponent : Int) (rest : List UInt8) :
    Except Stop (Number × List UInt8) :=
  match scale digits exponent with
  | some x => .ok (signed negative x, rest)
  | none => stop .numberOutOfRange rest

/-- The part after an exponent mark. -/
def exponentPart (negative : Bool) (digits : Nat) (exponent : Int) (bytes : List UInt8) :
    Except Stop (Number × List UInt8) :=
  let (down, bytes) := match bytes with
    | 0x2B :: rest => (false, rest)
    | 0x2D :: rest => (true, rest)
    | bytes => (false, bytes)
  match bytes with
  | [] => stop .endInValue []
  | b :: rest =>
    if isDigit b then
      let (value, rest) := absorb maxExponentDigits (b.toNat - 0x30) rest
      if startsWithDigit rest then
        if digits ≠ 0 ∧ !down then stop .numberOutOfRange (rest.drop 1)
        else .ok (signed negative .zero, rest.dropWhile isDigit)
      else finishFloat negative digits (if down then exponent - value else exponent + value) rest
    else stop .invalidNumber rest

/-- An exponent mark, or the end of the number. -/
def exponentOrEnd (negative : Bool) (digits : Nat) (exponent : Int) (bytes : List UInt8) :
    Except Stop (Number × List UInt8) :=
  match bytes with
  | 0x65 :: rest => exponentPart negative digits exponent rest
  | 0x45 :: rest => exponentPart negative digits exponent rest
  | rest => finishFloat negative digits exponent rest

/-- The part after the point. Digits that no longer fit are dropped. -/
def fractionPart (negative : Bool) (digits : Nat) (exponent : Int) (bytes : List UInt8) :
    Except Stop (Number × List UInt8) :=
  if startsWithDigit bytes then
    let (digits, rest) := absorb maxUnsigned digits bytes
    let places := bytes.length - rest.length
    exponentOrEnd negative digits (exponent - places) (rest.dropWhile isDigit)
  else if bytes.isEmpty then stop .endInValue []
  else stop .invalidNumber (bytes.drop 1)

/-- A number without point or exponent. Minus zero and what lies below the signed range become
floats. -/
def wholeNumber (negative : Bool) (digits : Nat) : Number :=
  if !negative then .integer digits
  else if digits = 0 ∨ 1 <<< 63 < digits then
    signed true ((Binary64.ofQuotient digits 1).getD .zero)
  else .integer (-digits)

/-- The part after the integer digits. -/
def numberTail (negative : Bool) (digits : Nat) (bytes : List UInt8) :
    Except Stop (Number × List UInt8) :=
  if startsWithDigit bytes then
    let rest := bytes.dropWhile isDigit
    let exponent := bytes.length - rest.length
    match rest with
    | 0x2E :: rest => fractionPart negative digits exponent rest
    | rest => exponentOrEnd negative digits exponent rest
  else match bytes with
    | 0x2E :: rest => fractionPart negative digits 0 rest
    | 0x65 :: rest => exponentPart negative digits 0 rest
    | 0x45 :: rest => exponentPart negative digits 0 rest
    | rest => .ok (wholeNumber negative digits, rest)

/-- A number after its sign. -/
def number (negative : Bool) (bytes : List UInt8) : Except Stop (Number × List UInt8) :=
  match bytes with
  | [] => stop .endInValue []
  | b :: rest =>
    if b = 0x30 then
      if startsWithDigit rest then stop .invalidNumber (rest.drop 1)
      else numberTail negative 0 rest
    else if isDigit b then
      let (digits, rest) := absorb maxUnsigned 0 (b :: rest)
      numberTail negative digits rest
    else stop .invalidNumber rest

def hexDigit? (b : UInt8) : Option Nat :=
  if isDigit b then some (b.toNat - 0x30)
  else if 0x41 ≤ b && b ≤ 0x46 then some (b.toNat - 0x37)
  else if 0x61 ≤ b && b ≤ 0x66 then some (b.toNat - 0x57)
  else none

/-- Four hexadecimal digits. -/
def hexQuad : List UInt8 → Except Stop (Nat × List UInt8)
  | a :: b :: c :: d :: rest =>
    match hexDigit? a, hexDigit? b, hexDigit? c, hexDigit? d with
    | some a, some b, some c, some d => .ok (((a * 16 + b) * 16 + c) * 16 + d, rest)
    | _, _, _, _ => stop .invalidEscape rest
  | _ => stop .endInString []

/-- The second half of a surrogate pair, after the first half. -/
def lowSurrogate (high : Nat) : List UInt8 → Except Stop (Char × List UInt8)
  | [] => stop .endInString []
  | 0x5C :: [] => stop .endInString []
  | 0x5C :: 0x75 :: rest => do
    let (low, rest) ← hexQuad rest
    if 0xDC00 ≤ low ∧ low ≤ 0xDFFF then
      pure (Char.ofNat ((high - 0xD800) * 0x400 + (low - 0xDC00) + 0x10000), rest)
    else stop .loneSurrogate rest
  | 0x5C :: _ :: rest => stop .unfinishedSurrogatePair rest
  | _ :: rest => stop .unfinishedSurrogatePair rest

/-- A character given by its number. -/
def unicodeEscape (bytes : List UInt8) : Except Stop (Char × List UInt8) := do
  let (unit, rest) ← hexQuad bytes
  if 0xDC00 ≤ unit ∧ unit ≤ 0xDFFF then stop .loneSurrogate rest
  else if 0xD800 ≤ unit ∧ unit ≤ 0xDBFF then lowSurrogate unit rest
  else pure (Char.ofNat unit, rest)

/-- The part of an escape after the backslash. -/
def escape : List UInt8 → Except Stop (Char × List UInt8)
  | [] => stop .endInString []
  | b :: rest =>
    if b = 0x22 then .ok ('"', rest)
    else if b = 0x5C then .ok ('\\', rest)
    else if b = 0x2F then .ok ('/', rest)
    else if b = 0x62 then .ok ('\x08', rest)
    else if b = 0x66 then .ok ('\x0c', rest)
    else if b = 0x6E then .ok ('\n', rest)
    else if b = 0x72 then .ok ('\r', rest)
    else if b = 0x74 then .ok ('\t', rest)
    else if b = 0x75 then unicodeEscape rest
    else stop .invalidEscape rest

/-- The bytes that a string spells, up to its closing quote. -/
def stringBytes : Nat → List UInt8 → Except Stop (List UInt8 × List UInt8)
  | 0, _ => stop .endInString []
  | _ + 1, [] => stop .endInString []
  | fuel + 1, b :: rest =>
    if b = 0x22 then .ok ([], rest)
    else if b = 0x5C then do
      let (c, rest) ← escape rest
      let (more, left) ← stringBytes fuel rest
      pure (String.utf8EncodeChar c ++ more, left)
    else if b < 0x20 then stop .controlCharacter rest
    else do
      let (more, left) ← stringBytes fuel rest
      pure (b :: more, left)

/-- The text of a string after its opening quote, in fewer than `limit` steps. A fault in its
encoding is placed as many bytes before the closing quote as the string spells from there on;
with no escape behind the fault this is where it stands. -/
def stringText (limit : Nat) (bytes : List UInt8) : Except Stop (String × List UInt8) := do
  let (spelled, rest) ← stringBytes limit bytes
  match Utf8.decode spelled with
  | .ok cs => pure (String.ofList cs, rest)
  | .error fault =>
    let behind := spelled.length - fault.index + rest.length
    stop .invalidCodePoint (bytes.drop (bytes.length - behind))

section

variable (limit : Nat) (item : List UInt8 → Except Stop (Json × List UInt8))

/-- The items of a list up to its end; all but the first follow a comma. -/
def items : Nat → Bool → List UInt8 → Except Stop (List Json × List UInt8)
  | 0, _, bytes => stop .endInList bytes
  | fuel + 1, first, bytes =>
    match skipSpace bytes with
    | [] => stop .endInList []
    | b :: rest =>
      if b = 0x5D then .ok ([], rest)
      else do
        let bytes ←
          if first then pure (b :: rest)
          else if b = 0x2C then
            match skipSpace rest with
            | [] => stop .endInValue []
            | 0x5D :: rest => stop .trailingComma rest
            | bytes => pure bytes
          else stop .expectedListCommaOrEnd rest
        let (value, bytes) ← item bytes
        let (more, bytes) ← items fuel false bytes
        pure (value :: more, bytes)

/-- A key, its colon and its value, after the opening quote of the key. -/
def member (bytes : List UInt8) : Except Stop ((String × Json) × List UInt8) := do
  let (key, bytes) ← stringText limit bytes
  match skipSpace bytes with
  | [] => stop .endInObject []
  | b :: rest =>
    if b = 0x3A then do
      let (value, rest) ← item rest
      pure ((key, value), rest)
    else stop .expectedColon rest

/-- The entries of an object up to its end; all but the first follow a comma. -/
def members : Nat → Bool → List UInt8 → Except Stop (List (String × Json) × List UInt8)
  | 0, _, bytes => stop .endInObject bytes
  | fuel + 1, first, bytes =>
    match skipSpace bytes with
    | [] => stop .endInObject []
    | b :: rest =>
      if b = 0x7D then .ok ([], rest)
      else do
        let bytes ←
          if first then
            if b = 0x22 then pure rest else stop .keyNotString rest
          else if b = 0x2C then
            match skipSpace rest with
            | [] => stop .endInValue []
            | 0x22 :: rest => pure rest
            | 0x7D :: rest => stop .trailingComma rest
            | _ :: rest => stop .keyNotString rest
          else stop .expectedObjectCommaOrEnd rest
        let (entry, bytes) ← member limit item bytes
        let (more, bytes) ← members fuel false bytes
        pure (entry :: more, bytes)

end

/-- A value in which lists and objects are nested at most `depth` levels deep. The text has
fewer than `limit` bytes. -/
def value (limit depth : Nat) (bytes : List UInt8) : Except Stop (Json × List UInt8) :=
  match skipSpace bytes with
  | [] => stop .endInValue []
  | b :: rest =>
    if b = 0x6E then do
      let rest ← identifier [0x75, 0x6C, 0x6C] rest
      pure (.null, rest)
    else if b = 0x74 then do
      let rest ← identifier [0x72, 0x75, 0x65] rest
      pure (.bool true, rest)
    else if b = 0x66 then do
      let rest ← identifier [0x61, 0x6C, 0x73, 0x65] rest
      pure (.bool false, rest)
    else if b = 0x2D then do
      let (n, rest) ← number true rest
      pure (.number n, rest)
    else if isDigit b then do
      let (n, rest) ← number false (b :: rest)
      pure (.number n, rest)
    else if b = 0x22 then do
      let (text, rest) ← stringText limit rest
      pure (.string text, rest)
    else if b = 0x5B then
      match depth with
      | 0 => stop .tooDeep rest
      | depth + 1 => do
        let (found, rest) ← items (value limit depth) limit true rest
        pure (.array found, rest)
    else if b = 0x7B then
      match depth with
      | 0 => stop .tooDeep rest
      | depth + 1 => do
        let (found, rest) ← members limit (value limit depth) limit true rest
        pure (.object (Entries.ofList found), rest)
    else stop .expectedValue rest

/-- How deep lists and objects may be nested. -/
def maxDepth : Nat := 127

/-- A value with nothing but space around it. -/
def document (bytes : List UInt8) : Except Stop Json := do
  let (found, rest) ← value (bytes.length + 1) maxDepth bytes
  match skipSpace rest with
  | [] => pure found
  | _ :: rest => stop .trailingCharacters rest

end Parser

/-- The value that a text spells. -/
def parse (text : List UInt8) : Except SyntaxError Json :=
  (Parser.document text).mapError (Stop.locate text)

end ScannerConfig.Json
