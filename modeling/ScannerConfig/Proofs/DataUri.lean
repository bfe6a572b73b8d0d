import Mathlib.Data.List.DropRight
import ScannerConfig.Proofs.Base64
import ScannerConfig.Proofs.Utf8
import ScannerConfig.Transfer.DataUri

namespace ScannerConfig

namespace Blank

/-- Trimming takes away the blanks around a text that neither starts nor ends with one. -/
theorem trim_surrounded {before middle after front back : List Char} {first last : Char}
    (starts : middle = first :: back) (ends : middle = front ++ [last])
    (visibleFirst : isBlank first = false) (visibleLast : isBlank last = false)
    (blankBefore : ∀ c ∈ before, isBlank c = true) (blankAfter : ∀ c ∈ after, isBlank c = true) :
    trim (before ++ middle ++ after) = middle := by
  have left : (before ++ middle ++ after).dropWhile isBlank = middle ++ after := by
    rw [List.append_assoc, List.dropWhile_append_of_pos blankBefore, starts]
    exact List.dropWhile_cons_of_neg (by simpa using visibleFirst)
  have right : (middle ++ after).reverse.dropWhile isBlank = middle.reverse := by
    have blank : ∀ c ∈ after.reverse, isBlank c = true := fun c member =>
      blankAfter c (List.mem_reverse.mp member)
    rw [List.reverse_append, List.dropWhile_append_of_pos blank, ends, List.reverse_concat]
    exact List.dropWhile_cons_of_neg (by simpa using visibleLast)
  rw [trim, left, right, List.reverse_reverse]

end Blank

namespace DataUri

section FirstOccurrence

variable {c : Char} {mark before rest : List Char}

/-- A part whose first character does not come again in it is found where it first stands: no two
of its occurrences overlap. -/
theorem after?_first (fresh : c ∉ mark) (absent : ¬(c :: mark) <:+: before) (rest : List Char) :
    after? (c :: mark) (before ++ ((c :: mark) ++ rest)) = some rest := by
  induction before with
  | nil =>
    have starts : (c :: mark).isPrefixOf (c :: (mark ++ rest)) = true := by
      rw [List.isPrefixOf_iff_prefix]
      exact List.prefix_append (c :: mark) rest
    rw [List.nil_append, List.cons_append, after?, if_pos starts]
    simp
  | cons d before ih =>
    have noStart : ¬(c :: mark) <+: d :: (before ++ ((c :: mark) ++ rest)) := by
      intro starts
      rw [← List.cons_append] at starts
      rcases List.prefix_or_prefix_of_prefix starts (List.prefix_append _ _) with
        inside | ⟨more, beyond⟩
      · exact absent inside.isInfix
      · -- The occurrence would run over the end of what stands before, into the next one.
        cases more with
        | nil =>
          rw [List.append_nil] at beyond
          exact absent (beyond ▸ List.infix_refl _)
        | cons e more =>
          rw [← beyond, List.prefix_append_right_inj, beyond, List.cons_append,
            List.cons_prefix_cons] at starts
          rw [List.cons_append, List.cons.injEq] at beyond
          refine fresh ?_
          rw [← beyond.2, ← starts.1]
          simp
    have later := ih fun inside => absent (inside.trans (List.suffix_cons d before).isInfix)
    rw [List.cons_append, after?, if_neg (by rwa [List.isPrefixOf_iff_prefix]), later]

theorem exists_of_after? {text : List Char} (found : after? (c :: mark) text = some rest) :
    ∃ before, ¬(c :: mark) <:+: before ∧ text = before ++ ((c :: mark) ++ rest) := by
  induction text with
  | nil => cases found
  | cons d text ih =>
    rw [after?] at found
    split at found
    · rename_i starts
      obtain ⟨more, whole⟩ := List.isPrefixOf_iff_prefix.mp starts
      rw [← whole, List.drop_left] at found
      cases found
      exact ⟨[], by simp, whole.symm⟩
    · rename_i noStart
      obtain ⟨before, absent, rfl⟩ := ih found
      refine ⟨d :: before, fun inside => ?_, rfl⟩
      rcases List.infix_cons_iff.mp inside with starts | later
      · refine noStart (List.isPrefixOf_iff_prefix.mpr ?_)
        exact starts.trans (List.prefix_append (d :: before) _)
      · exact absent later

end FirstOccurrence

/-- The characters of ASCII bytes spell these bytes. -/
theorem encode_ascii {bytes : List UInt8} (ascii : ∀ b ∈ bytes, b.toNat < 0x80) :
    Utf8.encode (bytes.map fun b => Char.ofNat b.toNat) = bytes := by
  have each : ∀ n < 0x80, String.utf8EncodeChar (Char.ofNat n) = [UInt8.ofNat n] := by decide
  induction bytes with
  | nil => rfl
  | cons b bytes ih =>
    obtain ⟨here, later⟩ := List.forall_mem_cons.mp ascii
    rw [List.map_cons, Utf8.encode_cons, each _ here, ih later, UInt8.ofNat_toNat]
    rfl

theorem not_blank_of_visible {b : UInt8} (visible : Base64.IsVisible b) :
    Blank.isBlank (Char.ofNat b.toNat) = false := by
  have each : ∀ n < 0x7F, 0x20 < n → Blank.isBlank (Char.ofNat n) = false := by decide
  exact each _ visible.2 visible.1

theorem scheme_eq : scheme = ['d', 'a', 't', 'a', ':'] := by
  decide

theorem marker_eq : marker = [';', 'b', 'a', 's', 'e', '6', '4', ','] := by
  decide

theorem after?_marker_eq_some_iff {text rest : List Char} :
    after? marker text = some rest ↔
      ∃ before, ¬marker <:+: before ∧ text = before ++ (marker ++ rest) := by
  rw [marker_eq]
  refine ⟨exists_of_after?, ?_⟩
  rintro ⟨before, absent, rfl⟩
  exact after?_first (by decide) absent rest

/-- The symbols of base64 for some bytes, as characters. -/
def symbols (bytes : List UInt8) : List Char :=
  (Base64.encode bytes).map fun b => Char.ofNat b.toNat

theorem encode_symbols (bytes : List UInt8) : Utf8.encode (symbols bytes) = Base64.encode bytes := by
  refine encode_ascii fun b member => ?_
  exact Nat.lt_succ_of_lt (Base64.visible_encode bytes b member).2

/-- Only the symbols of some bytes are read as these bytes. -/
theorem decode_payload_eq_ok_iff {payload : List Char} {bytes : List UInt8} :
    Base64.decode (Utf8.encode payload) = .ok bytes ↔ payload = symbols bytes := by
  rw [Base64.decode_eq_ok_iff, ← encode_symbols]
  refine ⟨fun same => ?_, fun same => congrArg Utf8.encode same⟩
  have read := Utf8.decode_encode payload
  rw [same, Utf8.decode_encode] at read
  exact (Except.ok.inj read).symm

/-- What stands behind the media type: the marker and the payload. -/
def body (bytes : List UInt8) : List Char :=
  marker ++ symbols bytes

theorem encode_eq (mime : String) (bytes : List UInt8) :
    encode mime bytes = scheme ++ (mime.toList ++ body bytes) := by
  simp [encode, body, symbols]

theorem body_visible (bytes : List UInt8) : ∀ c ∈ body bytes, Blank.isBlank c = false := by
  have mark : marker.all (fun c => !Blank.isBlank c) = true := by decide
  intro c member
  rcases List.mem_append.mp member with here | symbol
  · simpa using List.all_eq_true.mp mark c here
  · obtain ⟨b, there, rfl⟩ := List.mem_map.mp symbol
    exact not_blank_of_visible (Base64.visible_encode bytes b there)

/-- Blanks around a data URI are all that trimming takes away. -/
theorem trim_encode (mime : String) (bytes : List UInt8) {before after : List Char}
    (blankBefore : ∀ c ∈ before, Blank.isBlank c = true)
    (blankAfter : ∀ c ∈ after, Blank.isBlank c = true) :
    Blank.trim (before ++ encode mime bytes ++ after) = encode mime bytes := by
  have notEmpty : body bytes ≠ [] := by simp [body, marker_eq]
  have starts : encode mime bytes = 'd' :: (['a', 't', 'a', ':'] ++ (mime.toList ++ body bytes)) := by
    rw [encode_eq, scheme_eq, List.cons_append]
  have ends : encode mime bytes =
      (scheme ++ (mime.toList ++ (body bytes).dropLast)) ++ [(body bytes).getLast notEmpty] := by
    rw [encode_eq, List.append_assoc, List.append_assoc, List.dropLast_append_getLast]
  exact Blank.trim_surrounded starts ends (by decide)
    (body_visible bytes _ (List.getLast_mem notEmpty)) blankBefore blankAfter

/-- A text with a payload: without the blanks around it a scheme, a media type and, behind the first
marker, the payload. -/
def Carries (text payload : List Char) : Prop :=
  ∃ mime : List Char, ¬marker <:+: mime ∧ Blank.trim text = scheme ++ mime ++ marker ++ payload

theorem carries_iff {text payload : List Char} :
    Carries text payload ↔
      scheme.isPrefixOf (Blank.trim text) = true ∧
        after? marker ((Blank.trim text).drop scheme.length) = some payload := by
  rw [after?_marker_eq_some_iff, List.isPrefixOf_iff_prefix]
  constructor
  · rintro ⟨mime, plain, whole⟩
    rw [whole, List.append_assoc, List.append_assoc, List.drop_left]
    exact ⟨List.prefix_append _ _, mime, plain, rfl⟩
  · rintro ⟨⟨more, whole⟩, mime, plain, behind⟩
    rw [← whole, List.drop_left] at behind
    exact ⟨mime, plain, by rw [← whole, behind, List.append_assoc, List.append_assoc]⟩

theorem Carries.unique {text payload other : List Char} (carries : Carries text payload)
    (carriesOther : Carries text other) : payload = other := by
  have found := (carries_iff.mp carries).2
  rw [(carries_iff.mp carriesOther).2] at found
  exact (Option.some.inj found).symm

theorem carries_encode {mime : String} (plain : ¬marker <:+: mime.toList) (bytes : List UInt8)
    {text : List Char} (trimmed : Blank.trim text = encode mime bytes) :
    Carries text (symbols bytes) :=
  ⟨mime.toList, plain, trimmed⟩

/-- A data URI is read as some bytes if its payload is the base64 of these bytes. -/
theorem decode_eq_ok_iff {text : List Char} {bytes : List UInt8} :
    decode text = .ok bytes ↔ Carries text (symbols bytes) := by
  rw [carries_iff]
  simp only [decode]
  split
  · rename_i starts
    split
    · rename_i payload found
      rw [mapError_eq_ok_iff, decode_payload_eq_ok_iff, found, Option.some.injEq,
        and_iff_right starts]
    · rename_i none
      simp [none]
  · rename_i noStart
    simp [noStart]

/-- The payload of a data URI with blanks around it is what was put into it. -/
theorem decode_encode {mime : String} (plain : ¬marker <:+: mime.toList) (bytes : List UInt8)
    {before after : List Char} (blankBefore : ∀ c ∈ before, Blank.isBlank c = true)
    (blankAfter : ∀ c ∈ after, Blank.isBlank c = true) :
    decode (before ++ encode mime bytes ++ after) = .ok bytes :=
  decode_eq_ok_iff.mpr (carries_encode plain bytes (trim_encode mime bytes blankBefore blankAfter))

theorem spells_iff {payload : List Char} {bytes : List UInt8} :
    Base64.Spells payload bytes ↔ payload = symbols bytes := by
  refine ⟨fun spells => spells.unique (Base64.spells_encode bytes), ?_⟩
  rintro rfl
  exact Base64.spells_encode bytes

theorem decode_eq_ok_iff_spells {text : List Char} {bytes : List UInt8} :
    decode text = .ok bytes ↔ ∃ payload, Base64.Spells payload bytes ∧ Carries text payload := by
  simp only [decode_eq_ok_iff, spells_iff, exists_eq_left]

/-- Reading a data URI is inverse to writing one: it succeeds exactly on the texts whose payload
spells some bytes in base 64, with these bytes, so that no two payloads are read as the same. -/
theorem decode_canonical (text : List Char) :
    (∀ bytes, decode text = .ok bytes ↔
        ∃ payload, Base64.Spells payload bytes ∧ Carries text payload) ∧
      ((∀ payload bytes, Base64.Spells payload bytes → ¬Carries text payload) →
        ∃ fault, decode text = .error fault) ∧
      (∀ (mime : String) bytes, ¬marker <:+: mime.toList →
        Blank.trim text = encode mime bytes → decode text = .ok bytes) ∧
      ∀ other payload otherPayload bytes, Carries text payload → Carries other otherPayload →
        decode text = .ok bytes → decode other = .ok bytes → payload = otherPayload := by
  refine ⟨fun bytes => decode_eq_ok_iff_spells, fun foreign => ?_, ?_, ?_⟩
  · refine fails_of_not_succeeds ?_
    rintro ⟨bytes, read⟩
    obtain ⟨payload, spells, carries⟩ := decode_eq_ok_iff_spells.mp read
    exact foreign payload bytes spells carries
  · intro mime bytes plain trimmed
    exact decode_eq_ok_iff.mpr (carries_encode plain bytes trimmed)
  · intro other payload otherPayload bytes carries carriesOther read readOther
    have same : payload = symbols bytes := carries.unique (decode_eq_ok_iff.mp read)
    exact same.trans ((decode_eq_ok_iff.mp readOther).unique carriesOther)

/-- The last symbol of `TR==` has bits that belong to no byte. -/
def looseUri : List Char := "data:;base64,TR==".toList

theorem not_carries_looseUri {payload : List Char} {bytes : List UInt8}
    (spells : Base64.Spells payload bytes) : ¬Carries looseUri payload := by
  intro carries
  have refused : decode looseUri = .error (.payload (.lastSymbol 0x52 1)) := by cbv
  rw [decode_eq_ok_iff_spells.mpr ⟨payload, spells, carries⟩] at refused
  cases refused

def notedUri : List Char := " data:text/plain;base64,TQ==\n".toList

theorem decode_canonical_noted :
    (decode notedUri = .ok [0x4D] ∧
        ∃ payload, Base64.Spells payload [0x4D] ∧ Carries notedUri payload) ∧
      (∃ fault, decode looseUri = .error fault) ∧
      (Blank.trim notedUri = encode "text/plain" [0x4D] ∧
        ∀ other payload, Carries other payload → decode other = .ok [0x4D] →
          payload = symbols [0x4D]) := by
  have plain : ¬marker <:+: "text/plain".toList := by decide +kernel
  have trimmed : Blank.trim notedUri = encode "text/plain" [0x4D] := by cbv
  obtain ⟨accepted, -, inverse, injective⟩ := decode_canonical notedUri
  have read : decode notedUri = .ok [0x4D] := inverse _ _ plain trimmed
  have refused := (decode_canonical looseUri).2.1 fun _ _ => not_carries_looseUri
  refine ⟨⟨read, (accepted [0x4D]).mp read⟩, refused, trimmed, ?_⟩
  intro other payload carriesOther readOther
  have carries := carries_encode plain [0x4D] trimmed
  exact (injective other _ payload _ carries carriesOther read readOther).symm

end DataUri

end ScannerConfig
