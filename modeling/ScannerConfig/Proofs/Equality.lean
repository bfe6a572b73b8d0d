import Mathlib.Data.List.Forall2
import Mathlib.Data.Option.Basic
import ScannerConfig.Json.Value
import ScannerConfig.Normalization.Revision
import ScannerConfig.Proofs.Lookup

namespace ScannerConfig

/-- Related lists with what is known of the items of each. -/
theorem forall₂_with_members {α β : Type} {relation : α → β → Prop} {left : α → Prop}
    {right : β → Prop} {items : List α} {others : List β}
    (onLeft : ∀ item ∈ items, left item) (onRight : ∀ other ∈ others, right other)
    (related : List.Forall₂ relation items others) :
    List.Forall₂ (fun item other => left item ∧ right other ∧ relation item other) items others := by
  have withRight := (List.forall₂_and_left others items).mpr ⟨onRight, related.flip⟩
  exact (List.forall₂_and_left items others).mpr ⟨onLeft, withRight.flip⟩

namespace Json

/-- Induction over a document: a list may use its items and an object its values. -/
@[elab_as_elim]
theorem nestedInduction {motive : Json → Prop} (value : Json)
    (null : motive .null) (bool : ∀ b, motive (.bool b)) (number : ∀ n, motive (.number n))
    (string : ∀ s, motive (.string s))
    (array : ∀ items, (∀ item ∈ items, motive item) → motive (.array items))
    (object : ∀ entries, (∀ entry ∈ entries, motive entry.2) → motive (.object entries)) :
    motive value := by
  refine @Json.rec motive (fun items => ∀ item ∈ items, motive item)
    (fun entries => ∀ entry ∈ entries, motive entry.2) (fun entry => motive entry.2)
    null bool number string array object ?_ ?_ ?_ ?_ ?_ value
  · simp
  · exact fun item rest first later => List.forall_mem_cons.mpr ⟨first, later⟩
  · simp
  · exact fun entry rest first later => List.forall_mem_cons.mpr ⟨first, later⟩
  · exact fun key value here => here

mutual

/-- Whether no object of the document has a key twice. -/
def wellKeyed : Json → Bool
  | .array items => wellKeyedItems items
  | .object entries => decide (Entries.Distinct entries) && wellKeyedEntries entries
  | .null | .bool _ | .number _ | .string _ => true

def wellKeyedItems : List Json → Bool
  | [] => true
  | item :: rest => wellKeyed item && wellKeyedItems rest

def wellKeyedEntries : List (String × Json) → Bool
  | [] => true
  | (_, value) :: rest => wellKeyed value && wellKeyedEntries rest

end

theorem wellKeyed_array {items : List Json} :
    (Json.array items).wellKeyed = true ↔ ∀ item ∈ items, item.wellKeyed = true := by
  rw [wellKeyed]
  induction items with
  | nil => simp [wellKeyedItems]
  | cons item rest ih => simp [wellKeyedItems, ih]

theorem wellKeyedEntries_iff {entries : Entries Json} :
    wellKeyedEntries entries = true ↔ ∀ entry ∈ entries, entry.2.wellKeyed = true := by
  induction entries with
  | nil => simp [wellKeyedEntries]
  | cons entry rest ih => simp [wellKeyedEntries, ih]

end Json

/-- The keys of a record are distinct, and so are those of all objects inside. -/
structure Entries.WellKeyed (record : Entries Json) : Prop where
  distinct : record.Distinct
  value {key : String} {value : Json} : record.get? key = some value → value.wellKeyed = true

/-- What was found, if anything, is free of repeated keys. -/
def KeyedValue (value : Option Json) : Prop :=
  ∀ found, value = some found → found.wellKeyed = true

theorem Entries.WellKeyed.keyedValue {record : Record} (keyed : record.WellKeyed) (key : String) :
    KeyedValue (record.get? key) :=
  fun _ found => keyed.value found

namespace Json

theorem wellKeyed_object {record : Record} :
    (Json.object record).wellKeyed = true ↔ record.WellKeyed := by
  rw [wellKeyed, Bool.and_eq_true, decide_eq_true_iff, wellKeyedEntries_iff]
  constructor
  · rintro ⟨distinct, values⟩
    exact ⟨distinct, fun found => values _ (Entries.mem_of_get? found)⟩
  · intro keyed
    exact ⟨keyed.distinct, fun entry member => keyed.value (Entries.get?_of_mem keyed.distinct member)⟩

end Json

namespace Entries.WellKeyed

variable {record : Record}

theorem erase (keyed : record.WellKeyed) (key : String) : (record.erase key).WellKeyed := by
  refine ⟨keyed.distinct.erase key, fun {other value} found => ?_⟩
  rw [get?_erase keyed.distinct] at found
  split at found
  · simp at found
  · exact keyed.value found

theorem insert (keyed : record.WellKeyed) (key : String) {value : Json}
    (inside : value.wellKeyed = true) : (record.insert key value).WellKeyed := by
  refine ⟨keyed.distinct.insert key value, fun {other value} found => ?_⟩
  rw [get?_insert] at found
  split at found
  · simp only [Option.some.injEq] at found
    rwa [← found]
  · exact keyed.value found

theorem nil : WellKeyed ([] : Record) :=
  ⟨List.nodup_nil, fun found => by simp [get?] at found⟩

end Entries.WellKeyed

namespace Json

theorem same_array {items others : List Json} :
    (Json.array items).same (.array others) = true ↔
      List.Forall₂ (fun item other => item.same other = true) items others := by
  rw [same]
  induction items generalizing others with
  | nil => cases others <;> simp [sameItems]
  | cons item rest ih => cases others <;> simp [sameItems, ih]

theorem sameEntries_iff {entries : Entries Json} {others : Entries Json} :
    sameEntries entries others = true ↔
      ∀ entry ∈ entries, ∃ found, others.get? entry.1 = some found ∧ entry.2.same found = true := by
  induction entries with
  | nil => simp [sameEntries]
  | cons entry rest ih =>
    obtain ⟨key, value⟩ := entry
    cases found : others.get? key <;> simp [sameEntries, found, ih]

/-- Equal values were found, or nothing on either side. -/
def SameFound (value other : Option Json) : Prop :=
  Option.Rel (fun found counterpart => found.same counterpart = true) value other

@[simp] theorem sameFound_some {value other : Json} :
    SameFound (some value) (some other) ↔ value.same other = true :=
  Option.rel_some_some

theorem SameFound.isSome_eq {value other : Option Json} (same : SameFound value other) :
    value.isSome = other.isSome := by
  cases same <;> rfl

/-- Two objects are equal if every key finds equal values in both, or nothing in either. -/
theorem same_object {record other : Record} (distinct : record.Distinct)
    (distinctOther : other.Distinct) :
    (Json.object record).same (.object other) = true ↔
      ∀ key, SameFound (record.get? key) (other.get? key) := by
  rw [same, Bool.and_eq_true, beq_iff_eq, sameEntries_iff]
  constructor
  · rintro ⟨length, counterparts⟩ key
    cases found : record.get? key with
    | some value =>
      obtain ⟨counterpart, there, equal⟩ := counterparts _ (Entries.mem_of_get? found)
      rw [there]
      exact .some equal
    | none =>
      -- As many keys on both sides, and every key of the first is in the second.
      have inside : record.keys ⊆ other.keys := by
        intro k member
        obtain ⟨entry, here, rfl⟩ := List.mem_map.mp member
        obtain ⟨counterpart, there, _⟩ := counterparts entry here
        exact Entries.has_iff_mem_keys.mp (Entries.has_eq_true_iff.mpr ⟨counterpart, there⟩)
      have equalLength : other.keys.length ≤ record.keys.length := by
        simp [Entries.keys, length]
      have perm := (List.subperm_of_subset distinct inside).perm_of_length_le equalLength
      have absent := Entries.get?_eq_none_iff.mp found
      rw [Entries.get?_eq_none_iff.mpr fun member => absent (perm.mem_iff.mpr member)]
      exact .none
  · intro equal
    constructor
    · have perm := Entries.keys_perm_of_get? distinct distinctOther fun key => (equal key).isSome_eq
      simpa [Entries.keys] using perm.length_eq
    · intro entry member
      have lookup := equal entry.1
      rw [Entries.get?_of_mem distinct member] at lookup
      cases there : other.get? entry.1 with
      | none =>
        rw [there] at lookup
        cases lookup
      | some found =>
        rw [there, sameFound_some] at lookup
        exact ⟨found, rfl, lookup⟩

theorem Number.same_refl (n : Number) : n.same n = true := by
  cases n <;> simp [Number.same, Binary64.sameValue]

theorem same_refl (value : Json) (keyed : value.wellKeyed = true) : value.same value = true := by
  induction value using nestedInduction with
  | null => rfl
  | bool b => simp [same]
  | number n => exact n.same_refl
  | string s => simp [same]
  | array items ih =>
    rw [same_array, List.forall₂_same]
    exact fun item member => ih item member (wellKeyed_array.mp keyed item member)
  | object entries ih =>
    have record := wellKeyed_object.mp keyed
    rw [same_object record.distinct record.distinct]
    intro key
    cases found : Entries.get? entries key with
    | none => exact .none
    | some value => exact .some (ih _ (Entries.mem_of_get? found) (record.value found))

/-- What was found is equal to itself, and so is nothing. -/
theorem sameFound_refl {value : Option Json} (keyed : KeyedValue value) :
    SameFound value value := by
  cases value with
  | none => exact .none
  | some found => exact .some (same_refl found (keyed found rfl))

/-- Objects with the same look-ups are equal. -/
theorem same_of_get? {record other : Record} (keyed : record.WellKeyed)
    (distinctOther : other.Distinct) (lookups : ∀ key, other.get? key = record.get? key) :
    (Json.object record).same (.object other) = true := by
  rw [same_object keyed.distinct distinctOther]
  intro key
  rw [lookups key]
  exact sameFound_refl (keyed.keyedValue key)

end Json

end ScannerConfig
