import ScannerConfig.Decimal.Shortest

namespace ScannerConfig

/-- The value of a digit to a base up to 16, whose letters are small or capital. -/
def digitOf? (base : Nat) (c : Char) : Option Nat :=
  let value :=
    if '0' ≤ c ∧ c ≤ '9' then c.toNat - '0'.toNat
    else if 'a' ≤ c ∧ c ≤ 'f' then c.toNat - 'a'.toNat + 10
    else if 'A' ≤ c ∧ c ≤ 'F' then c.toNat - 'A'.toNat + 10
    else base
  if value < base then some value else none

/-- The number that digits write, none if there are none or if something else is among them. -/
def natOf? (base : Nat) (cs : List Char) : Option Nat :=
  if cs.isEmpty then none
  else cs.foldlM (fun n c => (digitOf? base c).map (n * base + ·)) 0

def isDecimalDigit (c : Char) : Bool :=
  '0' ≤ c && c ≤ '9'

/-- A sign in front, if there is one: whether it is a minus, and what follows. -/
def signOf : List Char → Bool × List Char
  | '-' :: rest => (true, rest)
  | '+' :: rest => (false, rest)
  | cs => (false, cs)

namespace Decimal

/-- The exponent behind a mark, or zero at the end of the text. -/
def exponentOf? : List Char → Option Int
  | [] => some 0
  | c :: rest =>
    if c = 'e' ∨ c = 'E' then
      let (negative, digits) := signOf rest
      (natOf? 10 digits).map fun n => if negative then -(n : Int) else n
    else none

/-- A magnitude: digits with an optional point among or beside them, and an optional exponent. -/
def ofMagnitude? (cs : List Char) : Option Decimal := do
  let whole := cs.takeWhile isDecimalDigit
  let rest := cs.dropWhile isDecimalDigit
  let (fraction, rest) := match rest with
    | '.' :: rest => (rest.takeWhile isDecimalDigit, rest.dropWhile isDecimalDigit)
    | _ => ([], rest)
  let digits ← natOf? 10 (whole ++ fraction)
  let exponent ← exponentOf? rest
  return ⟨digits, exponent - fraction.length⟩

/-- Whether a number is negative, and its magnitude. -/
def ofChars? (cs : List Char) : Option (Bool × Decimal) :=
  let (negative, magnitude) := signOf cs
  (ofMagnitude? magnitude).map fun decimal => (negative, decimal)

/-- The nearest number of 64 bits; none past the largest one. -/
def toBinary64? (decimal : Decimal) : Option Binary64 :=
  Binary64.ofDecimal decimal.digits decimal.exponent

end Decimal

/-- The number of 64 bits nearest to a decimal text. -/
def Binary64.ofChars? (cs : List Char) : Option Binary64 := do
  let (negative, decimal) ← Decimal.ofChars? cs
  let magnitude ← decimal.toBinary64?
  return if negative then magnitude.neg else magnitude

end ScannerConfig
