import ScannerConfig.Decimal.Text
import ScannerConfig.Toml.Value

namespace ScannerConfig.Toml

/-- Digits with single underscores between them, the underscores left out. -/
def digits (isDigit : Char → Bool) : List Char → List Char × List Char
  | [] => ([], [])
  | c :: rest =>
    if isDigit c then
      let (more, rest) := digits isDigit rest
      (c :: more, rest)
    else if c = '_' then
      match rest with
      | next :: _ =>
        if isDigit next then digits isDigit rest else ([], c :: rest)
      | [] => ([], [c])
    else ([], c :: rest)

/-- Digits that begin with one. -/
def digits? (isDigit : Char → Bool) (cs : List Char) : Option (List Char × List Char) :=
  match cs with
  | [] => none
  | c :: _ => if isDigit c then some (digits isDigit cs) else none

/-- The digits of a whole decimal number: a zero stands alone. -/
def whole? : List Char → Option (List Char × List Char)
  | '0' :: rest => some (['0'], rest)
  | cs => digits? isDecimalDigit cs

def minInteger : Int := -0x8000000000000000

def maxInteger : Int := 0x7FFFFFFFFFFFFFFF

def integerValue? (value : Int) : Option Value :=
  if minInteger ≤ value ∧ value ≤ maxInteger then some (.integer value) else none

def based? (base : Nat) (cs : List Char) : Option (Value × List Char) := do
  let (digits, rest) ← digits? (fun c => (digitOf? base c).isSome) cs
  let value ← natOf? base digits
  let value ← integerValue? value
  some (value, rest)

def integer? : List Char → Option (Value × List Char)
  | '0' :: 'x' :: rest => based? 16 rest
  | '0' :: 'o' :: rest => based? 8 rest
  | '0' :: 'b' :: rest => based? 2 rest
  | cs => do
    let (negative, rest) := signOf cs
    let (digits, rest) ← whole? rest
    let n ← natOf? 10 digits
    let value ← integerValue? (if negative then -(n : Int) else n)
    some (value, rest)

/-- The exponent of a number and what follows it; zero if there is none. -/
def exponent? : List Char → Option (Int × List Char)
  | c :: rest =>
    if c = 'e' ∨ c = 'E' then do
      let (negative, rest) := signOf rest
      let (digits, rest) ← digits? isDecimalDigit rest
      let n ← natOf? 10 digits
      some (if negative then -(n : Int) else n, rest)
    else some (0, c :: rest)
  | [] => some (0, [])

/-- The value of a decimal: past the largest number only a negative one is taken, as minus
infinity. -/
def decimalValue? (negative : Bool) (decimal : Decimal) : Option Value :=
  match decimal.toBinary64? with
  | some magnitude => some (.float (.finite (if negative then magnitude.neg else magnitude)))
  | none => if negative then some (.float (.infinite true)) else none

/-- A number with a fraction or an exponent. -/
def decimal? (cs : List Char) : Option (Value × List Char) := do
  let (negative, rest) := signOf cs
  let (whole, rest) ← whole? rest
  match rest with
  | '.' :: rest => do
    let (fraction, rest) ← digits? isDecimalDigit rest
    let (exponent, rest) ← exponent? rest
    let n ← natOf? 10 (whole ++ fraction)
    let value ← decimalValue? negative ⟨n, exponent - fraction.length⟩
    some (value, rest)
  | c :: _ =>
    if c = 'e' ∨ c = 'E' then do
      let (exponent, rest) ← exponent? rest
      let n ← natOf? 10 whole
      let value ← decimalValue? negative ⟨n, exponent⟩
      some (value, rest)
    else none
  | [] => none

/-- Infinity, or what is no number. -/
def special? (cs : List Char) : Option (Value × List Char) :=
  let (negative, rest) := signOf cs
  match rest with
  | 'i' :: 'n' :: 'f' :: rest => some (.float (.infinite negative), rest)
  | 'n' :: 'a' :: 'n' :: rest => some (.float .nan, rest)
  | _ => none

end ScannerConfig.Toml
