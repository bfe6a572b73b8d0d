import ScannerConfig.Json.Parser
import ScannerConfig.Json.Printer
import ScannerConfig.Proofs.Utf8

namespace ScannerConfig.Json.Parser

/-- The bytes up to a closing quote spell a text, with as many steps as there are bytes. -/
def Spells (bytes text left : List UInt8) : Prop :=
  ∀ fuel, bytes.length < fuel → stringBytes fuel bytes = .ok (text, left)

variable {bytes text left : List UInt8}

theorem spells_quote (rest : List UInt8) : Spells (0x22 :: rest) [] rest := by
  intro fuel enough
  cases fuel with
  | zero => omega
  | succ fuel => simp [stringBytes]

theorem Spells.plain {b : UInt8} (spells : Spells bytes text left) (noControl : 0x20 ≤ b.toNat)
    (noQuote : b ≠ 0x22) (noEscape : b ≠ 0x5C) : Spells (b :: bytes) (b :: text) left := by
  intro fuel enough
  cases fuel with
  | zero => omega
  | succ fuel =>
    have later := spells fuel (by simpa using enough)
    have high : ¬b < 0x20 := by simpa [UInt8.lt_iff_toNat_lt] using noControl
    simp [stringBytes, noQuote, noEscape, high, later, bind, Except.bind, pure, Except.pure]

/-- Bytes of characters beyond ASCII stand for themselves. -/
theorem Spells.high {plain : List UInt8} (spells : Spells bytes text left)
    (beyond : ∀ b ∈ plain, 0x80 ≤ b.toNat) : Spells (plain ++ bytes) (plain ++ text) left := by
  induction plain with
  | nil => exact spells
  | cons b plain ih =>
    obtain ⟨here, later⟩ := List.forall_mem_cons.mp beyond
    have different : ∀ c : UInt8, c.toNat < 0x80 → b ≠ c := by
      rintro c low rfl
      omega
    exact (ih later).plain (by omega) (different _ (by decide)) (different _ (by decide))

theorem Spells.escaped {c : Char} (spells : Spells bytes text left) (rest : List UInt8)
    (escaped : escape rest = .ok (c, bytes)) (shorter : bytes.length ≤ rest.length) :
    Spells (0x5C :: rest) (String.utf8EncodeChar c ++ text) left := by
  intro fuel enough
  cases fuel with
  | zero => omega
  | succ fuel =>
    have later := spells fuel (by simp only [List.length_cons] at enough; omega)
    simp [stringBytes, escaped, later, bind, Except.bind, pure, Except.pure]

def hexByte (d : Nat) : UInt8 :=
  UInt8.ofNat (Nat.digitChar d).toNat

theorem encode_hexChar {d : Nat} (single : d < 16) :
    Utf8.encode [Nat.digitChar d] = [hexByte d] := by
  have all : ∀ d < 16, Utf8.encode [Nat.digitChar d] = [hexByte d] := by decide
  exact all d single

theorem hexDigit?_hexByte {d : Nat} (single : d < 16) : hexDigit? (hexByte d) = some d := by
  have all : ∀ d < 16, hexDigit? (hexByte d) = some d := by decide
  exact all d single

theorem encode_hexPair (n : Nat) :
    Utf8.encode (hexPair n) = [hexByte (n / 16 % 16), hexByte (n % 16)] := by
  have high := encode_hexChar (Nat.mod_lt (n / 16) (by decide : 0 < 16))
  have low := encode_hexChar (Nat.mod_lt n (by decide : 0 < 16))
  calc Utf8.encode (hexPair n)
      = Utf8.encode [Nat.digitChar (n / 16 % 16)] ++ Utf8.encode [Nat.digitChar (n % 16)] :=
        Utf8.encode_append [Nat.digitChar (n / 16 % 16)] [Nat.digitChar (n % 16)]
    _ = [hexByte (n / 16 % 16), hexByte (n % 16)] := by rw [high, low]; rfl

/-- A control character without an escape of its own is written by its number. -/
theorem escape_control {c : Char} (control : c.toNat < 0x20) (rest : List UInt8) :
    escape (0x75 :: 0x30 :: 0x30 :: (Utf8.encode (hexPair c.toNat) ++ rest)) = .ok (c, rest) := by
  have high : hexDigit? (hexByte (c.toNat / 16 % 16)) = some (c.toNat / 16 % 16) :=
    hexDigit?_hexByte (by omega)
  have low : hexDigit? (hexByte (c.toNat % 16)) = some (c.toNat % 16) :=
    hexDigit?_hexByte (by omega)
  have zero : hexDigit? 0x30 = some 0 := by decide
  have whole : ((0 * 16 + 0) * 16 + c.toNat / 16 % 16) * 16 + c.toNat % 16 = c.toNat := by omega
  have quad : hexQuad (0x30 :: 0x30 :: (Utf8.encode (hexPair c.toNat) ++ rest)) =
      .ok (c.toNat, rest) := by
    rw [encode_hexPair]
    simp only [List.cons_append, List.nil_append, hexQuad, zero, high, low, whole]
  have noLow : ¬(0xDC00 ≤ c.toNat ∧ c.toNat ≤ 0xDFFF) := by omega
  have noHigh : ¬(0xD800 ≤ c.toNat ∧ c.toNat ≤ 0xDBFF) := by omega
  have unit : unicodeEscape (0x30 :: 0x30 :: (Utf8.encode (hexPair c.toNat) ++ rest)) =
      .ok (c, rest) := by
    rw [unicodeEscape, quad]
    simp only [bind, Except.bind, if_neg noLow, if_neg noHigh, Char.ofNat_toNat]
    rfl
  rw [← unit]
  rfl

theorem Spells.char (spells : Spells bytes text left) (c : Char) :
    Spells (Utf8.encode (escapeChar c) ++ bytes) (String.utf8EncodeChar c ++ text) left := by
  rw [escapeChar]
  split_ifs with quote backslash backspace feed line carriage tab control
  · subst quote
    exact spells.escaped (0x22 :: bytes) rfl (by simp)
  · subst backslash
    exact spells.escaped (0x5C :: bytes) rfl (by simp)
  · subst backspace
    exact spells.escaped (0x62 :: bytes) rfl (by simp)
  · subst feed
    exact spells.escaped (0x66 :: bytes) rfl (by simp)
  · subst line
    exact spells.escaped (0x6E :: bytes) rfl (by simp)
  · subst carriage
    exact spells.escaped (0x72 :: bytes) rfl (by simp)
  · subst tab
    exact spells.escaped (0x74 :: bytes) rfl (by simp)
  · exact spells.escaped _ (escape_control control bytes) (by simp; omega)
  · have single : Utf8.encode [c] = String.utf8EncodeChar c := List.append_nil _
    rw [single]
    rcases (Utf8.encoded_utf8EncodeChar c).ascii_or_beyond with ⟨a, same, value, _⟩ | beyond
    · have different : ∀ d : Char, c ≠ d → a.toNat ≠ d.toNat := by
        rintro d other equal
        exact other (Char.toNat_inj.mp (value.symm.trans equal))
      rw [same]
      refine spells.plain (by omega) ?_ ?_
      · rintro rfl
        exact different '"' quote rfl
      · rintro rfl
        exact different '\\' backslash rfl
    · exact spells.high beyond

theorem spells_chars (cs : List Char) (rest : List UInt8) :
    Spells (Utf8.encode (cs.flatMap escapeChar) ++ 0x22 :: rest) (Utf8.encode cs) rest := by
  induction cs with
  | nil => exact spells_quote rest
  | cons c cs ih =>
    rw [List.flatMap_cons, Utf8.encode_append, List.append_assoc, Utf8.encode_cons]
    exact ih.char c

/-- A text behind its opening quote, up to the closing one. -/
def quotedTail (text : String) : List UInt8 :=
  Utf8.encode (text.toList.flatMap escapeChar) ++ [0x22]

theorem encode_stringChars (text : String) :
    Utf8.encode (stringChars text) = 0x22 :: quotedTail text := by
  rw [stringChars, List.cons_append, Utf8.encode_cons, Utf8.encode_append]
  rfl

theorem stringText_quotedTail {limit : Nat} {text : String} {rest : List UInt8}
    (enough : (quotedTail text ++ rest).length < limit) :
    stringText limit (quotedTail text ++ rest) = .ok (text, rest) := by
  rw [quotedTail, List.append_assoc] at enough ⊢
  have read := spells_chars text.toList rest limit enough
  rw [stringText]
  simp [read, bind, Except.bind, Utf8.decode_encode, pure, Except.pure]

end ScannerConfig.Json.Parser
