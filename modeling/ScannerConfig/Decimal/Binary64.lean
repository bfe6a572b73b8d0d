/-!
Binary floating point numbers of 64 bits as exact integers. A magnitude is a whole number
`mantissa` times a power of two; rounding is to the nearest one, a half going to the even
neighbour, and is done on quotients of natural numbers.
-/

namespace ScannerConfig

/-- A finite number of 64 bits: `± mantissa · 2 ^ exponent`, with the mantissa as long as the
format allows. -/
structure Binary64 where
  negative : Bool
  mantissa : Nat
  exponent : Int
  deriving DecidableEq, Repr

namespace Binary64

/-- The exponent of the last place of the smallest numbers. -/
def minExponent : Int := -1074

/-- The exponent of the last place of the largest numbers. -/
def maxExponent : Int := 971

def zero : Binary64 := ⟨false, 0, minExponent⟩

def isZero (x : Binary64) : Bool :=
  x.mantissa == 0

def neg (x : Binary64) : Binary64 :=
  { x with negative := !x.negative }

/-- Equality of the values: the two zeros count as one number. -/
def sameValue (x y : Binary64) : Bool :=
  x == y || (x.isZero && y.isZero)

/-- The whole number nearest to `num / den`, a half going to the even neighbour. -/
def roundDiv (num den : Nat) : Nat :=
  let quotient := num / den
  let twice := 2 * (num % den)
  if den < twice || (twice == den && quotient % 2 == 1) then quotient + 1 else quotient

/-- `num / den` as a quotient with the power `2 ^ exponent` taken out. -/
def scaled (num den : Nat) (exponent : Int) : Nat × Nat :=
  if exponent < 0 then (num <<< exponent.natAbs, den) else (num, den <<< exponent.natAbs)

/-- The exponent at which `num / den` has 53 binary digits before the point, held above the
smallest one. -/
def exponentFor (num den : Nat) : Int :=
  let guess : Int := (num.log2 : Int) - (den.log2 : Int) - 52
  let (n, d) := scaled num den guess
  let exact := if n < d <<< 52 then guess - 1 else guess
  max exact minExponent

/-- The number nearest to `num / den`; none if it lies past the largest one. -/
def ofQuotient (num den : Nat) : Option Binary64 :=
  if num = 0 then some zero
  else
    let exponent := exponentFor num den
    let (n, d) := scaled num den exponent
    let mantissa := roundDiv n d
    let (mantissa, exponent) :=
      if mantissa = 1 <<< 53 then (1 <<< 52, exponent + 1) else (mantissa, exponent)
    if maxExponent < exponent then none else some ⟨false, mantissa, exponent⟩

/-- The number nearest to `digits · 10 ^ exponent`; none past the largest one. An exponent far
outside the range is answered without building the power. -/
def ofDecimal (digits : Nat) (exponent : Int) : Option Binary64 :=
  if digits = 0 then some zero
  else
    let order : Int := ((Nat.toDigits 10 digits).length : Int) + exponent
    if order < -400 then some zero
    else if 400 < order then none
    else if exponent < 0 then ofQuotient digits (Nat.pow 10 exponent.natAbs)
    else ofQuotient (digits * Nat.pow 10 exponent.natAbs) 1

/-- The magnitude as a quotient of natural numbers. -/
def quotient (x : Binary64) : Nat × Nat :=
  scaled x.mantissa 1 (-x.exponent)

/-- The rounded product of the magnitudes. -/
def mul (x y : Binary64) : Option Binary64 :=
  let (a, b) := x.quotient
  let (c, d) := y.quotient
  ofQuotient (a * c) (b * d)

/-- The rounded quotient of the magnitudes, for a divisor that is not zero. -/
def div (x y : Binary64) : Option Binary64 :=
  let (a, b) := x.quotient
  let (c, d) := y.quotient
  ofQuotient (a * d) (b * c)

end Binary64

end ScannerConfig
