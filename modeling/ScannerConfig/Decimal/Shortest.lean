import ScannerConfig.Decimal.Binary64

namespace ScannerConfig

/-- `digits · 10 ^ exponent`. -/
structure Decimal where
  digits : Nat
  exponent : Int
  deriving DecidableEq, Repr

namespace Decimal

/-- Takes up to `fuel` zeros off the end of the digits. -/
def trimZeros : Nat → Decimal → Decimal
  | 0, d => d
  | fuel + 1, d =>
    if d.digits ≠ 0 ∧ d.digits % 10 = 0 then trimZeros fuel ⟨d.digits / 10, d.exponent + 1⟩ else d

/-- The number of digits before the point of `num / den`; below one, minus the number of zeros
after the point. -/
def order (num den : Nat) : Int :=
  let places := fun n : Nat => (Nat.toDigits 10 n).length
  if den ≤ num then places (num / den)
  else
    let shift := places den - places num
    let shift := if den ≤ num * Nat.pow 10 shift then shift else shift + 1
    1 - (shift : Int)

/-- The numbers that round to a magnitude lie between `low / den` and `high / den`. -/
structure Interval where
  low : Nat
  value : Nat
  high : Nat
  den : Nat
  closed : Bool

/-- Half a place to either side, but a quarter below a power of two. The ends belong to it when
the mantissa is even. -/
def Interval.around (x : Binary64) : Interval :=
  let place := fun n => Binary64.scaled n 1 (2 - x.exponent)
  let below := if x.mantissa = 1 <<< 52 ∧ Binary64.minExponent < x.exponent then 1 else 2
  let (value, den) := place (4 * x.mantissa)
  ⟨(place (4 * x.mantissa - below)).1, value, (place (4 * x.mantissa + 2)).1, den,
    x.mantissa % 2 == 0⟩

/-- Whether `digits · 10 ^ exponent` lies in the interval. -/
def Interval.holds (i : Interval) (d : Decimal) : Bool :=
  let (n, m) :=
    if d.exponent < 0 then (d.digits, Nat.pow 10 d.exponent.natAbs)
    else (d.digits * Nat.pow 10 d.exponent.natAbs, 1)
  let scaled := n * i.den
  if i.closed then i.low * m ≤ scaled && scaled ≤ i.high * m
  else i.low * m < scaled && scaled < i.high * m

/-- Of the two points of a decimal grid next to the value, the nearer one in the interval. Of
two at the same distance the even one is taken. -/
def Interval.onGrid (i : Interval) (exponent : Int) : Option Decimal :=
  let (num, den) :=
    if exponent < 0 then (i.value * Nat.pow 10 exponent.natAbs, i.den)
    else (i.value, i.den * Nat.pow 10 exponent.natAbs)
  let lower : Decimal := ⟨num / den, exponent⟩
  let upper : Decimal := ⟨num / den + 1, exponent⟩
  let twice := 2 * (num % den)
  let lowerNearer := twice < den || (twice == den && lower.digits % 2 == 0)
  match i.holds lower, i.holds upper with
  | true, true => some (if lowerNearer then lower else upper)
  | true, false => some lower
  | false, true => some upper
  | false, false => none

/-- The shortest decimal that reads back as the magnitude of `x`. -/
def shortest (x : Binary64) : Decimal :=
  let i := Interval.around x
  let top := order i.value i.den
  match (List.range 17).findSome? fun (n : Nat) => i.onGrid (top - (n + 1 : Nat)) with
  | some d => trimZeros 17 d
  | none => ⟨0, 0⟩

end Decimal

/-- How a decimal is written. With the point `leastPoint` to `greatestPoint` places after the
start of the digits it is written out, otherwise with an exponent. -/
structure DecimalStyle where
  leastPoint : Int
  greatestPoint : Int
  /-- Whole numbers written out end in `.0`. -/
  fraction : Bool
  /-- Positive exponents carry a plus sign. -/
  plus : Bool

namespace DecimalStyle

/-- The magnitude of a number that is not zero. -/
def writeDecimal (style : DecimalStyle) (d : Decimal) : String :=
  let digits := Nat.toDigits 10 d.digits
  let point := (digits.length : Int) + d.exponent
  let zeros := fun n : Int => List.replicate n.toNat '0'
  let text : List Char :=
    if style.leastPoint ≤ point ∧ point ≤ style.greatestPoint then
      if point ≤ 0 then ['0', '.'] ++ zeros (-point) ++ digits
      else if digits.length ≤ point then
        digits ++ zeros (point - digits.length) ++ (if style.fraction then ['.', '0'] else [])
      else digits.take point.toNat ++ ['.'] ++ digits.drop point.toNat
    else
      let exponent := point - 1
      let mark := if exponent < 0 then ['-'] else if style.plus then ['+'] else []
      digits.take 1 ++ (if digits.length = 1 then [] else '.' :: digits.drop 1) ++ ['e'] ++ mark ++
        Nat.toDigits 10 exponent.natAbs
  String.ofList text

def write (style : DecimalStyle) (x : Binary64) : String :=
  let magnitude :=
    if x.isZero then (if style.fraction then "0.0" else "0")
    else style.writeDecimal (Decimal.shortest x)
  if x.negative then "-" ++ magnitude else magnitude

end DecimalStyle

end ScannerConfig
