import Mathlib.Tactic.SplitIfs
import ScannerConfig.Text.Utf8

namespace ScannerConfig.Utf8

/-- The bytes of a number that is no surrogate: the more bits it needs, the more bytes. -/
inductive Encoded (n : Nat) : List UInt8 → Prop
  | one {a : UInt8} : n < 0x80 → a.toNat = n → Encoded n [a]
  | two {a b : UInt8} : 0x80 ≤ n → n < 0x800 → a.toNat = n / 64 + 0xC0 →
      b.toNat = n % 64 + 0x80 → Encoded n [a, b]
  | three {a b c : UInt8} : 0x800 ≤ n → n < 0x10000 → ¬(0xD800 ≤ n ∧ n < 0xE000) →
      a.toNat = n / 4096 + 0xE0 → b.toNat = n / 64 % 64 + 0x80 → c.toNat = n % 64 + 0x80 →
      Encoded n [a, b, c]
  | four {a b c d : UInt8} : 0x10000 ≤ n → n < 0x110000 → a.toNat = n / 262144 + 0xF0 →
      b.toNat = n / 4096 % 64 + 0x80 → c.toNat = n / 64 % 64 + 0x80 → d.toNat = n % 64 + 0x80 →
      Encoded n [a, b, c, d]

theorem encoded_utf8EncodeChar (c : Char) : Encoded c.toNat (String.utf8EncodeChar c) := by
  have valid : c.toNat < 0xD800 ∨ 0xDFFF < c.toNat ∧ c.toNat < 0x110000 := c.valid
  have same : c.val.toNat = c.toNat := rfl
  have fits : ∀ {m : Nat}, m < 256 → (UInt8.ofNat m).toNat = m := fun small =>
    UInt8.toNat_ofNat_of_lt small
  rw [String.utf8EncodeChar]
  simp only [same]
  split
  · exact .one (by omega) (fits (by omega))
  split
  · have high : c.toNat / 64 % 32 = c.toNat / 64 := by omega
    rw [high]
    exact .two (by omega) (by omega) (fits (by omega)) (fits (by omega))
  split
  · have high : c.toNat / 4096 % 16 = c.toNat / 4096 := by omega
    rw [high]
    exact .three (by omega) (by omega) (by omega) (fits (by omega)) (fits (by omega))
      (fits (by omega))
  · have high : c.toNat / 262144 % 8 = c.toNat / 262144 := by omega
    rw [high]
    exact .four (by omega) (by omega) (fits (by omega)) (fits (by omega)) (fits (by omega))
      (fits (by omega))

/-- A character is its own byte in ASCII, and beyond ASCII none of its bytes is in ASCII. -/
theorem Encoded.ascii_or_beyond {n : Nat} {bytes : List UInt8} (encoded : Encoded n bytes) :
    (∃ a : UInt8, bytes = [a] ∧ a.toNat = n ∧ n < 0x80) ∨ ∀ b ∈ bytes, 0x80 ≤ b.toNat := by
  cases encoded with
  | @one a small value => exact .inl ⟨a, rfl, value, small⟩
  | two | three | four =>
    right
    simp only [List.forall_mem_cons, List.not_mem_nil, false_implies, implies_true, and_true]
    omega

section Bytes

variable {lead b : UInt8}

theorem width_eq (lead : UInt8) :
    width lead =
      if lead.toNat < 0x80 then 1 else if lead.toNat < 0xC2 then 0
      else if lead.toNat < 0xE0 then 2 else if lead.toNat < 0xF0 then 3
      else if lead.toNat < 0xF5 then 4 else 0 := by
  simp [width, UInt8.lt_iff_toNat_lt]

theorem isContinuation_iff : isContinuation b = true ↔ 0x80 ≤ b.toNat ∧ b.toNat ≤ 0xBF := by
  simp [isContinuation, UInt8.le_iff_toNat_le]

theorem maySecond_iff :
    maySecond lead b = true ↔
      (if lead.toNat = 0xE0 then 0xA0 else if lead.toNat = 0xF0 then 0x90 else 0x80) ≤ b.toNat ∧
        b.toNat ≤ (if lead.toNat = 0xED then 0x9F else if lead.toNat = 0xF4 then 0x8F else 0xBF) := by
  simp only [maySecond, isContinuation, UInt8.le_iff_toNat_le, ← UInt8.toNat_inj]
  simp only [UInt8.reduceToNat]
  split_ifs <;> simp <;> omega

end Bytes

/-- In front of an encoded number the reader takes the number and goes on behind it. -/
theorem decodeFrom_encoded {n : Nat} {bytes : List UInt8} (encoded : Encoded n bytes)
    (index : Nat) (rest : List UInt8) :
    decodeFrom index (bytes ++ rest) =
      (decodeFrom (index + bytes.length) rest).map (Char.ofNat n :: ·) := by
  cases encoded with
  | @one a small value =>
    have lead : width a = 1 := by rw [width_eq]; split_ifs <;> omega
    simp [decodeFrom, lead, value]
  | @two a b lower upper first second =>
    have lead : width a = 2 := by rw [width_eq]; split_ifs <;> omega
    have next : isContinuation b = true := isContinuation_iff.mpr (by omega)
    have whole : a.toNat % 0x20 * 0x40 + b.toNat % 0x40 = n := by omega
    simp [decodeFrom, lead, next, payload, whole]
  | @three a b c lower upper noSurrogate first second third =>
    have lead : width a = 3 := by rw [width_eq]; split_ifs <;> omega
    -- Lead bytes at the ends of the range take fewer second bytes.
    have next : maySecond a b = true := by rw [maySecond_iff]; split_ifs <;> omega
    have last : isContinuation c = true := isContinuation_iff.mpr (by omega)
    have whole : (a.toNat % 0x10 * 0x40 + b.toNat % 0x40) * 0x40 + c.toNat % 0x40 = n := by omega
    simp [decodeFrom, lead, next, last, payload, whole]
  | @four a b c d lower upper first second third fourth =>
    have lead : width a = 4 := by rw [width_eq]; split_ifs <;> omega
    have next : maySecond a b = true := by rw [maySecond_iff]; split_ifs <;> omega
    have middle : isContinuation c = true := isContinuation_iff.mpr (by omega)
    have last : isContinuation d = true := isContinuation_iff.mpr (by omega)
    have whole : ((a.toNat % 0x08 * 0x40 + b.toNat % 0x40) * 0x40 + c.toNat % 0x40) * 0x40 +
        d.toNat % 0x40 = n := by omega
    simp [decodeFrom, lead, next, middle, last, payload, whole]

@[simp] theorem encode_nil : encode [] = [] :=
  rfl

@[simp] theorem encode_cons (c : Char) (cs : List Char) :
    encode (c :: cs) = String.utf8EncodeChar c ++ encode cs :=
  rfl

@[simp] theorem encode_append (cs others : List Char) :
    encode (cs ++ others) = encode cs ++ encode others :=
  List.flatMap_append

theorem decodeFrom_encode (index : Nat) (cs : List Char) :
    decodeFrom index (encode cs) = .ok cs := by
  induction cs generalizing index with
  | nil => rfl
  | cons c cs ih =>
    rw [encode_cons, decodeFrom_encoded (encoded_utf8EncodeChar c), ih]
    simp [Except.map]

theorem decode_encode (cs : List Char) : decode (encode cs) = .ok cs :=
  decodeFrom_encode 0 cs

end ScannerConfig.Utf8
