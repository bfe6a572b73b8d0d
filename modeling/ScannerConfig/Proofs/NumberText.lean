import Mathlib.Algebra.Group.Int.Defs
import Mathlib.Algebra.Group.Nat.Defs
import ScannerConfig.Json.Parser
import ScannerConfig.Json.Printer
import ScannerConfig.Proofs.Utf8

namespace ScannerConfig.Json

/-- An integer of at most 64 bits, signed or unsigned. -/
def Number.isInteger : Number → Bool
  | .integer value => decide (-2 ^ 63 ≤ value) && decide (value < 2 ^ 64)
  | .float _ => false

namespace Parser

/-- What can stand behind a number without continuing it. -/
def EndsNumber (rest : List UInt8) : Prop :=
  ∀ b ∈ rest.head?, isDigit b = false ∧ b ≠ 0x2E ∧ b ≠ 0x65 ∧ b ≠ 0x45

/-- The decimal digits of a number as bytes. -/
def digitBytes (n : Nat) : List UInt8 :=
  Utf8.encode (Nat.toDigits 10 n)

def digitByte (d : Nat) : UInt8 :=
  UInt8.ofNat (0x30 + d)

theorem encode_digitChar {d : Nat} (single : d < 10) :
    Utf8.encode [Nat.digitChar d] = [digitByte d] := by
  have all : ∀ d < 10, Utf8.encode [Nat.digitChar d] = [digitByte d] := by decide
  exact all d single

theorem isDigit_digitByte {d : Nat} (single : d < 10) : isDigit (digitByte d) = true := by
  have all : ∀ d < 10, isDigit (digitByte d) = true := by decide
  exact all d single

theorem toNat_digitByte {d : Nat} (single : d < 10) : (digitByte d).toNat - 0x30 = d := by
  have all : ∀ d < 10, (digitByte d).toNat - 0x30 = d := by decide
  exact all d single

theorem digitByte_ne_zero {d : Nat} (single : d < 10) (notZero : d ≠ 0) : digitByte d ≠ 0x30 := by
  have all : ∀ d < 10, d ≠ 0 → digitByte d ≠ 0x30 := by decide
  exact all d single notZero

theorem digitBytes_of_lt {n : Nat} (single : n < 10) : digitBytes n = [digitByte n] := by
  rw [digitBytes, Nat.toDigits_of_lt_base single, encode_digitChar single]

theorem digitBytes_of_le {n : Nat} (more : 10 ≤ n) :
    digitBytes n = digitBytes (n / 10) ++ [digitByte (n % 10)] := by
  rw [digitBytes, Nat.toDigits_of_base_le (by decide) more, Utf8.encode_append,
    encode_digitChar (Nat.mod_lt n (by decide)), digitBytes]

theorem absorb_digit {limit number d : Nat} (single : d < 10) (fits : number * 10 + d ≤ limit)
    (rest : List UInt8) :
    absorb limit number (digitByte d :: rest) = absorb limit (number * 10 + d) rest := by
  simp [absorb, isDigit_digitByte single, toNat_digitByte single, fits]

/-- Digits are taken up as long as the number stays within the limit. -/
theorem absorb_digitBytes {limit n : Nat} (fits : n ≤ limit) (rest : List UInt8) :
    absorb limit 0 (digitBytes n ++ rest) = absorb limit n rest := by
  induction n using Nat.strongRecOn generalizing rest with
  | ind n ih =>
    by_cases single : n < 10
    · rw [digitBytes_of_lt single, List.singleton_append, absorb_digit single (by omega)]
      simp
    · have whole : n / 10 * 10 + n % 10 = n := by omega
      rw [digitBytes_of_le (by omega), List.append_assoc, ih (n / 10) (by omega) (by omega),
        List.singleton_append, absorb_digit (by omega) (by omega), whole]

theorem absorb_of_endsNumber {limit n : Nat} {rest : List UInt8} (ends : EndsNumber rest) :
    absorb limit n rest = (n, rest) := by
  cases rest with
  | nil => rfl
  | cons b rest => simp [absorb, (ends b rfl).1]

theorem numberTail_of_endsNumber {negative : Bool} {n : Nat} {rest : List UInt8}
    (ends : EndsNumber rest) : numberTail negative n rest = .ok (wholeNumber negative n, rest) := by
  cases rest with
  | nil => rfl
  | cons b rest =>
    obtain ⟨noDigit, noPoint, noExponent, noCapital⟩ := ends b rfl
    have stops : startsWithDigit (b :: rest) = false := noDigit
    simp [numberTail, stops, noPoint, noExponent, noCapital]

/-- Only zero starts with the digit zero. -/
theorem digitBytes_head (n : Nat) :
    ∃ d rest, d < 10 ∧ digitBytes n = digitByte d :: rest ∧ (d = 0 → n = 0 ∧ rest = []) := by
  induction n using Nat.strongRecOn with
  | ind n ih =>
    by_cases single : n < 10
    · exact ⟨n, [], single, digitBytes_of_lt single, fun zero => ⟨zero, rfl⟩⟩
    · obtain ⟨d, rest, bound, same, zero⟩ := ih (n / 10) (by omega)
      refine ⟨d, rest ++ [digitByte (n % 10)], bound, ?_, fun first => ?_⟩
      · rw [digitBytes_of_le (by omega), same, List.cons_append]
      · have impossible := (zero first).1
        omega

theorem number_digitBytes {negative : Bool} {n : Nat} (fits : n ≤ maxUnsigned) {rest : List UInt8}
    (ends : EndsNumber rest) :
    number negative (digitBytes n ++ rest) = .ok (wholeNumber negative n, rest) := by
  obtain ⟨d, more, bound, same, zero⟩ := digitBytes_head n
  have digit := isDigit_digitByte bound
  have read := absorb_digitBytes fits rest
  rw [absorb_of_endsNumber ends] at read
  rw [same, List.cons_append] at read ⊢
  rw [number]
  by_cases first : d = 0
  · obtain ⟨rfl, rfl⟩ := zero first
    subst first
    have stops : startsWithDigit ([] ++ rest) = false := by
      cases rest with
      | nil => rfl
      | cons b rest => simp [startsWithDigit, (ends b rfl).1]
    rw [if_pos (by decide), stops]
    exact numberTail_of_endsNumber ends
  · rw [if_neg (digitByte_ne_zero bound first), if_pos digit, read]
    exact numberTail_of_endsNumber ends

/-- The sign that stands in front of a number, if there is one. -/
def signBytes (negative : Bool) : List UInt8 :=
  if negative then [0x2D] else []

/-- An integer is written as its sign and digits, and read from them. -/
theorem integer_text {n : Number} (integer : n.isInteger = true) :
    ∃ negative digits, Utf8.encode n.chars = signBytes negative ++ digitBytes digits ∧
      ∀ rest, EndsNumber rest → number negative (digitBytes digits ++ rest) = .ok (n, rest) := by
  cases n with
  | float value => simp [Number.isInteger] at integer
  | integer value =>
    simp only [Number.isInteger, Bool.and_eq_true, decide_eq_true_eq] at integer
    obtain ⟨lower, upper⟩ := integer
    have fits : value.natAbs ≤ maxUnsigned := by
      rw [maxUnsigned]
      omega
    by_cases negative : value < 0
    · refine ⟨true, value.natAbs, ?_, fun rest ends => ?_⟩
      · rw [Number.chars, if_pos negative]
        rfl
      · have whole : wholeNumber true value.natAbs = .integer value := by
          have inRange : ¬(value.natAbs = 0 ∨ 1 <<< 63 < value.natAbs) := by omega
          have same : -(value.natAbs : Int) = value := by omega
          simp only [wholeNumber, Bool.not_true, Bool.false_eq_true, if_false, if_neg inRange, same]
        rw [number_digitBytes fits ends, whole]
    · refine ⟨false, value.natAbs, ?_, fun rest ends => ?_⟩
      · rw [Number.chars, if_neg negative]
        rfl
      · have same : (value.natAbs : Int) = value := by omega
        rw [number_digitBytes fits ends]
        simp [wholeNumber, same]

end Parser

end ScannerConfig.Json
