import ScannerConfig.Proofs.OptionOrder

namespace ScannerConfig.Normalization

open Revision

/-- The options given by what stands under their key: none where that is nothing or null. Anything
else that is no record gives none to read. -/
def givenOptions? : Option Json → Option Record
  | none | some .null => some []
  | some (.object options) => some options
  | some _ => none

/-- The given options over the defaults, without the obsolete ones and with the canonical ones in
front. -/
structure CompletedOptions (given completed : Record) : Prop where
  distinct : completed.Distinct
  keys (key : String) :
    key ∈ completed.keys ↔ (key ∈ optionKeys ∨ key ∈ given.keys) ∧ key ∉ obsoleteOptions
  kept (key : String) (value : Json) : key ∉ obsoleteOptions → given.get? key = some value →
    completed.get? key = some value
  filled : ∀ row ∈ optionTable, given.get? row.key = none →
    completed.get? row.key = some row.default.toJson
  inFront : completed.keys.take 26 = optionKeys

/-- The root of a document after its options have been merged. -/
structure MergedRoot (root merged : Record) : Prop where
  completed (given : Record) : givenOptions? (root.get? optionsKey) = some given →
    ∃ options, merged.get? optionsKey = some (.object options) ∧ CompletedOptions given options
  unreadable : givenOptions? (root.get? optionsKey) = none →
    merged.get? optionsKey = root.get? optionsKey
  others : Entries.SameOutside [optionsKey] root merged

/-- Records have the same values, whatever their order; anything else is the same. -/
inductive SameValues : Json → Json → Prop
  | record {record other : Record} : (∀ key, other.get? key = record.get? key) →
      SameValues (.object record) (.object other)
  | other {value : Json} : (∀ record, value ≠ .object record) → SameValues value value

/-- No value differs, inside the options or beside them. -/
structure SameSettings (before after : Record) : Prop where
  options : Option.Rel SameValues (before.get? optionsKey) (after.get? optionsKey)
  others : Entries.SameOutside [optionsKey] before after

variable {options root : Record}

theorem completedOptions_completeOptions (keyed : options.WellKeyed) :
    CompletedOptions options (completeOptions options).value := by
  refine ⟨(keepsKeyed_completeOptions options keyed).distinct, fun key => ?_,
    fun key value kept found => ?_, fun row member absent => ?_, ?_⟩
  · rw [← Entries.has_iff_mem_keys, ← Entries.has_iff_mem_keys, ← has_defaultOptions_iff]
    simp only [Entries.has, get?_completeOptions keyed]
    by_cases obsolete : key ∈ obsoleteOptions
    · simp [obsolete]
    · simp [obsolete, Option.isSome_or, or_comm]
  · rw [get?_completeOptions keyed, if_neg kept, found, Option.some_or]
  · have kept : row.key ∉ obsoleteOptions := fun obsolete =>
      obsolete_not_canonical row.key obsolete (List.mem_map_of_mem member)
    rw [get?_completeOptions keyed, if_neg kept, absent, Option.none_or, get?_defaultOptions member]
  · obtain ⟨canonical, further, arranged⟩ := arrangement_completeOptions keyed
    rw [arranged.split, Entries.keys_append, arranged.inFront]
    rfl

theorem mergedOptions_of_given {value : Option Json} {given : Record}
    (read : givenOptions? value = some given) :
    mergedOptions value = .object (completeOptions given).value := by
  unfold givenOptions? at read
  split at read <;> cases read <;> rfl

theorem mergedOptions_of_unreadable {value : Option Json} (unread : givenOptions? value = none) :
    value = some (mergedOptions value) := by
  unfold givenOptions? at unread
  split at unread
  · cases unread
  · cases unread
  · cases unread
  · rename_i other noNull noRecord
    cases other with
    | null => exact absurd rfl noNull
    | object options => exact absurd rfl (noRecord options)
    | _ => rfl

theorem keyed_of_given {value : Option Json} {given : Record} (keyed : KeyedValue value)
    (read : givenOptions? value = some given) : given.WellKeyed := by
  unfold givenOptions? at read
  split at read <;> cases read
  · exact .nil
  · exact .nil
  · exact Json.wellKeyed_object.mp (keyed _ rfl)

theorem mergedRoot_mergeOptions (keyed : root.WellKeyed) :
    MergedRoot root (mergeOptions root).value := by
  have options := get?_mergeOptions keyed optionsKey
  rw [if_pos rfl] at options
  refine ⟨fun given read => ?_, fun unread => ?_, fun key outside => ?_⟩
  · rw [mergedOptions_of_given read] at options
    exact ⟨_, options, completedOptions_completeOptions (keyed_of_given (keyed.keyedValue _) read)⟩
  · rw [options, ← mergedOptions_of_unreadable unread]
  · rw [get?_mergeOptions keyed, if_neg (by simpa using outside)]

theorem sameValues_mergedOptions_again {value : Option Json} (keyed : KeyedValue value) :
    SameValues (mergedOptions value) (mergedOptions (some (mergedOptions value))) := by
  cases read : givenOptions? value with
  | none =>
    have same := mergedOptions_of_unreadable read
    rw [← same]
    refine .other fun record equal => ?_
    rw [same, equal] at read
    cases read
  | some given =>
    have keyedGiven := keyed_of_given keyed read
    rw [mergedOptions_of_given read]
    exact .record (get?_completeOptions_of_silent (keepsKeyed_completeOptions given keyedGiven)
      (changes_completeOptions_again keyedGiven))

/-- Merging lays the options over their defaults and drops the obsolete ones; what is merged needs
no change, and keeps all its values in another merge. -/
theorem mergeOptions_overlay (keyed : root.WellKeyed) :
    let merged := (mergeOptions root).value
    MergedRoot root merged ∧ (mergeOptions merged).changes = [] ∧
      SameSettings merged (mergeOptions merged).value := by
  intro merged
  have keyedMerged : merged.WellKeyed := keepsKeyed_mergeOptions root keyed
  have options : merged.get? optionsKey = some (mergedOptions (root.get? optionsKey)) := by
    rw [get?_mergeOptions keyed, if_pos rfl]
  refine ⟨mergedRoot_mergeOptions keyed, ?_, ?_, ?_⟩
  · rw [changes_mergeOptions, options]
    exact optionChanges_again (keyed.keyedValue _)
  · rw [get?_mergeOptions keyedMerged, if_pos rfl, options]
    exact .some (sameValues_mergedOptions_again (keyed.keyedValue _))
  · exact (mergedRoot_mergeOptions keyedMerged).others

theorem mergeOptions_overlay_site :
    let root : Record := [("version", .string "6.6.3"), ("options", .object [
      ("siteName", .string "county"), ("tagsToggle", .bool true), ("maxClients", .null),
      ("pruneDays", .string "7"), ("afsSystems", .string "")])]
    let merged := (mergeOptions root).value
    root.WellKeyed ∧ MergedRoot root merged ∧ (mergeOptions merged).changes = [] ∧
      SameSettings merged (mergeOptions merged).value := by
  intro root merged
  have keyed : root.WellKeyed := Json.wellKeyed_object.mp (by decide)
  exact ⟨keyed, mergeOptions_overlay keyed⟩

end ScannerConfig.Normalization
