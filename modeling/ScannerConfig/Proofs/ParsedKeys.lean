import ScannerConfig.Json.Parser
import ScannerConfig.Proofs.Equality
import ScannerConfig.Proofs.Nesting

namespace ScannerConfig

theorem Entries.WellKeyed.insertAll {record new : Entries Json} (keyed : record.WellKeyed)
    (values : ∀ entry ∈ new, entry.2.wellKeyed = true) : (record.insertAll new).WellKeyed := by
  induction new generalizing record with
  | nil => exact keyed
  | cons entry rest ih =>
    obtain ⟨here, later⟩ := List.forall_mem_cons.mp values
    exact ih (keyed.insert entry.1 here) later

namespace Json.Parser

section Finds

variable {α β : Type} {property : α → Prop}

/-- What a reader finds, if it finds anything, has a property. -/
def Finds (property : α → Prop) (result : Except Stop (α × List UInt8)) : Prop :=
  ∀ found rest, result = .ok (found, rest) → property found

theorem finds_stop (cause : Cause) (rest : List UInt8) : Finds property (stop cause rest) :=
  fun _ _ read => by cases read

theorem finds_ok {found : α} {rest : List UInt8} (holds : property found) :
    Finds property (.ok (found, rest)) := by
  intro _ _ read
  cases read
  exact holds

theorem finds_bind {first : Except Stop β} {next : β → Except Stop (α × List UInt8)}
    (each : ∀ read, first = .ok read → Finds property (next read)) :
    Finds property (first >>= next) := by
  cases first with
  | error fault => exact fun _ _ read => by cases read
  | ok read => exact each read rfl

end Finds

section Values

variable {property : Json → Prop} {limit : Nat}
  {item : List UInt8 → Except Stop (Json × List UInt8)}

/-- An item and then those behind it. -/
theorem finds_item_then {more : List UInt8 → Except Stop (List Json × List UInt8)}
    (each : ∀ bytes, Finds property (item bytes))
    (others : ∀ bytes, Finds (fun found => ∀ value ∈ found, property value) (more bytes))
    (bytes : List UInt8) :
    Finds (fun found => ∀ value ∈ found, property value) (do
      let (value, bytes) ← item bytes
      let (others, bytes) ← more bytes
      pure (value :: others, bytes)) := by
  refine finds_bind fun read readValue => finds_bind fun left readMore => finds_ok ?_
  exact List.forall_mem_cons.mpr
    ⟨each bytes read.1 read.2 readValue, others read.2 left.1 left.2 readMore⟩

theorem finds_items (each : ∀ bytes, Finds property (item bytes))
    (fuel : Nat) (first : Bool) (bytes : List UInt8) :
    Finds (fun found => ∀ value ∈ found, property value) (items item fuel first bytes) := by
  induction fuel generalizing first bytes with
  | zero => exact finds_stop _ _
  | succ fuel ih =>
    rw [items]
    split
    · exact finds_stop _ _
    · split
      · exact finds_ok (fun _ member => absurd member List.not_mem_nil)
      · have onward := finds_item_then each (ih false)
        dsimp only
        split
        · exact finds_bind fun bytes _ => onward bytes
        · split
          · split <;> exact finds_bind fun bytes _ => onward bytes
          · exact finds_bind fun bytes _ => onward bytes

theorem finds_member (each : ∀ bytes, Finds property (item bytes))
    (bytes : List UInt8) :
    Finds (fun entry => property entry.2) (member limit item bytes) := by
  refine finds_bind fun (key, bytes) _ => ?_
  dsimp only
  split
  · exact finds_stop _ _
  · split
    · exact finds_bind fun (value, rest) readValue => finds_ok (each _ value rest readValue)
    · exact finds_stop _ _

theorem finds_member_then (limit : Nat)
    {more : List UInt8 → Except Stop (List (String × Json) × List UInt8)}
    (each : ∀ bytes, Finds property (item bytes))
    (others : ∀ bytes, Finds (Entries.Each property) (more bytes)) (bytes : List UInt8) :
    Finds (Entries.Each property) (do
      let (entry, bytes) ← member limit item bytes
      let (others, bytes) ← more bytes
      pure (entry :: others, bytes)) := by
  refine finds_bind fun read readEntry => finds_bind fun left readMore => finds_ok ?_
  exact List.forall_mem_cons.mpr
    ⟨finds_member each bytes read.1 read.2 readEntry, others read.2 left.1 left.2 readMore⟩

theorem finds_members (each : ∀ bytes, Finds property (item bytes))
    (fuel : Nat) (first : Bool) (bytes : List UInt8) :
    Finds (Entries.Each property)
      (members limit item fuel first bytes) := by
  induction fuel generalizing first bytes with
  | zero => exact finds_stop _ _
  | succ fuel ih =>
    rw [members]
    split
    · exact finds_stop _ _
    · split
      · exact finds_ok (fun _ member => absurd member List.not_mem_nil)
      · have onward := finds_member_then limit each (ih false)
        dsimp only
        split
        · split <;> exact finds_bind fun bytes _ => onward bytes
        · split
          · split <;> exact finds_bind fun bytes _ => onward bytes
          · exact finds_bind fun bytes _ => onward bytes

/-- What the reader makes of a text at a depth: no repeated keys, and no deeper than that. -/
structure Fits (depth : Nat) (found : Json) : Prop where
  keyed : found.wellKeyed = true
  shallow : found.depth ≤ depth

theorem fits_array {depth : Nat} {found : List Json} (each : ∀ value ∈ found, Fits depth value) :
    Fits (depth + 1) (.array found) where
  keyed := wellKeyed_array.mpr fun value member => (each value member).keyed
  shallow := depth_array_le.mpr fun value member => (each value member).shallow

theorem fits_object {depth : Nat} {found : List (String × Json)}
    (each : Entries.Each (Fits depth) found) :
    Fits (depth + 1) (.object (Entries.ofList found)) where
  keyed := by
    have values : ∀ entry ∈ found, entry.2.wellKeyed = true := fun entry member =>
      (each entry member).keyed
    exact wellKeyed_object.mpr (Entries.WellKeyed.nil.insertAll values)
  shallow := by
    have none : Entries.Each (fun value => value.depth ≤ depth) [] := fun _ member =>
      absurd member List.not_mem_nil
    exact depth_object_le.mpr (none.insertAll fun entry member => (each entry member).shallow)

/-- Only lists and objects nest, and what is inside them has one level less to go. -/
theorem finds_value_of {depth : Nat} (inside : ∀ less, depth = less + 1 → ∀ bytes,
      Finds (Fits less) (value limit less bytes)) (bytes : List UInt8) :
    Finds (Fits depth) (value limit depth bytes) := by
  have flat : ∀ {found : Json}, found.wellKeyed = true → found.depth = 0 → Fits depth found :=
    fun keyed same => ⟨keyed, by omega⟩
  rw [value]
  split
  · exact finds_stop _ _
  split
  · exact finds_bind fun _ _ => finds_ok (flat rfl rfl)
  split
  · exact finds_bind fun _ _ => finds_ok (flat rfl rfl)
  split
  · exact finds_bind fun _ _ => finds_ok (flat rfl rfl)
  split
  · exact finds_bind fun _ _ => finds_ok (flat rfl rfl)
  split
  · exact finds_bind fun _ _ => finds_ok (flat rfl rfl)
  split
  · exact finds_bind fun _ _ => finds_ok (flat rfl rfl)
  split
  · cases depth with
    | zero => exact finds_stop _ _
    | succ less =>
      refine finds_bind fun (found, rest) read => finds_ok ?_
      exact fits_array (finds_items (inside less rfl) limit true _ found rest read)
  split
  · cases depth with
    | zero => exact finds_stop _ _
    | succ less =>
      refine finds_bind fun (found, rest) read => finds_ok ?_
      exact fits_object (finds_members (inside less rfl) limit true _ found rest read)
  · exact finds_stop _ _

theorem finds_value (limit depth : Nat) (bytes : List UInt8) :
    Finds (Fits depth) (value limit depth bytes) := by
  induction depth generalizing bytes with
  | zero => exact finds_value_of (fun less impossible => absurd impossible less.succ_ne_zero.symm) bytes
  | succ depth ih =>
    refine finds_value_of (fun less same => ?_) bytes
    cases same
    exact ih

theorem fits_document {bytes : List UInt8} {found : Json} (read : document bytes = .ok found) :
    Fits maxDepth found := by
  rw [document] at read
  cases reading : value (bytes.length + 1) maxDepth bytes with
  | error fault => simp [reading, bind, Except.bind] at read
  | ok result =>
    have fits := finds_value _ _ bytes result.1 result.2 reading
    simp only [reading, bind, Except.bind] at read
    split at read
    · cases read
      exact fits
    · cases read

end Values

end Json.Parser

/-- No object in a document that was read from text has a key twice, and the document is not
nested too deep to be read again. -/
theorem Json.fits_of_parse {text : List UInt8} {found : Json} (read : Json.parse text = .ok found) :
    Parser.Fits Parser.maxDepth found := by
  rw [Json.parse] at read
  cases reading : Json.Parser.document text with
  | error fault => simp [reading, Except.mapError] at read
  | ok document =>
    rw [reading] at read
    cases read
    exact Json.Parser.fits_document reading

end ScannerConfig
