import ScannerConfig.Normalization.Options
import ScannerConfig.Proofs.Revising

namespace ScannerConfig.Normalization

open Revision

variable {options : Record}

section Taking

/-- The canonical options with the values of the document, or else their defaults. -/
def takenOptions (rows : List OptionRow) (options : Record) : Record :=
  rows.map fun row => (row.key, (options.get? row.key).getD row.default.toJson)

theorem takeOptions_cons (row : OptionRow) (rows : List OptionRow) (options : Record) :
    takeOptions (row :: rows) options =
      let later := takeOptions rows (options.erase row.key)
      ⟨((row.key, (options.get? row.key).getD row.default.toJson) :: later.value.1, later.value.2),
        (if options.has row.key then [] else [.optionFilled]) ++ later.changes, later.notices⟩ := by
  cases found : options.get? row.key with
  | none =>
    have erased := Entries.erase_of_get?_none found
    simp [takeOptions, Entries.pop?_of_get?_none found, Entries.has, found, erased, Bind.bind,
      andThen, changed, keep]
  | some value =>
    simp [takeOptions, Entries.pop?_of_get?_some found, Entries.has, found, Bind.bind, andThen,
      keep]

variable {rows : List OptionRow}

theorem get?_erase_row (keyed : options.WellKeyed) {row : OptionRow}
    (fresh : row.key ∉ rows.map OptionRow.key) {other : OptionRow} (member : other ∈ rows) :
    (options.erase row.key).get? other.key = options.get? other.key := by
  have different : row.key ≠ other.key := fun same => fresh (same ▸ List.mem_map_of_mem member)
  rw [Entries.get?_erase keyed.distinct, if_neg different]

theorem taken_takeOptions (distinct : (rows.map OptionRow.key).Nodup) (keyed : options.WellKeyed) :
    (takeOptions rows options).value.1 = takenOptions rows options := by
  induction rows generalizing options with
  | nil => rfl
  | cons row rows ih =>
    obtain ⟨fresh, distinctRest⟩ := List.nodup_cons.mp distinct
    rw [takeOptions_cons]
    simp only [ih distinctRest (keyed.erase row.key), takenOptions, List.map_cons]
    refine congrArg _ (List.map_congr_left fun other member => ?_)
    rw [get?_erase_row keyed fresh member]

theorem get?_left_takeOptions (keyed : options.WellKeyed) (key : String) :
    (takeOptions rows options).value.2.get? key =
      if key ∈ rows.map OptionRow.key then none else options.get? key := by
  induction rows generalizing options with
  | nil => simp [takeOptions]
  | cons row rows ih =>
    rw [takeOptions_cons]
    simp only [ih (keyed.erase row.key), Entries.get?_erase keyed.distinct, List.map_cons,
      List.mem_cons]
    by_cases here : key = row.key
    · simp [here]
    · simp [here, Ne.symm here]

theorem keyed_left_takeOptions (keyed : options.WellKeyed) :
    (takeOptions rows options).value.2.WellKeyed := by
  induction rows generalizing options with
  | nil => exact keyed
  | cons row rows ih =>
    rw [takeOptions_cons]
    exact ih (keyed.erase row.key)

theorem changes_takeOptions (distinct : (rows.map OptionRow.key).Nodup)
    (keyed : options.WellKeyed) :
    (takeOptions rows options).changes =
      (rows.filter fun row => !options.has row.key).map fun _ => .optionFilled := by
  induction rows generalizing options with
  | nil => rfl
  | cons row rows ih =>
    obtain ⟨fresh, distinctRest⟩ := List.nodup_cons.mp distinct
    have others : ∀ other ∈ rows,
        (!(options.erase row.key).has other.key) = !options.has other.key := by
      intro other member
      rw [Entries.has, Entries.has, get?_erase_row keyed fresh member]
    rw [takeOptions_cons]
    simp only [ih distinctRest (keyed.erase row.key), List.filter_congr others]
    by_cases present : options.has row.key <;> simp [present]

end Taking

section Pruning

variable {keys : List String}

theorem get?_pruneOptions (keyed : options.WellKeyed) (key : String) :
    (pruneOptions keys options).value.get? key =
      if key ∈ keys then none else options.get? key := by
  induction keys generalizing options with
  | nil => simp [pruneOptions]
  | cons obsolete keys ih =>
    cases found : options.get? obsolete with
    | none =>
      rw [pruneOptions, Entries.pop?_of_get?_none found, ih keyed]
      by_cases here : key = obsolete <;> simp [here, found]
    | some value =>
      rw [pruneOptions, Entries.pop?_of_get?_some found, value_bind, value_changed,
        ih (keyed.erase obsolete), Entries.get?_erase keyed.distinct]
      by_cases here : key = obsolete
      · simp [here]
      · simp [here, Ne.symm here]

theorem keepsKeyed_pruneOptions : KeepsKeyed (pruneOptions keys) := by
  induction keys with
  | nil => exact fun _ keyed => keyed
  | cons obsolete keys ih =>
    intro options keyed
    cases found : options.get? obsolete with
    | none =>
      rw [pruneOptions, Entries.pop?_of_get?_none found]
      exact ih options keyed
    | some value =>
      rw [pruneOptions, Entries.pop?_of_get?_some found]
      exact ih _ (keyed.erase obsolete)

theorem changes_pruneOptions (distinct : keys.Nodup) (keyed : options.WellKeyed) :
    (pruneOptions keys options).changes =
      (keys.filter fun key => options.has key).map fun _ => .optionPruned := by
  induction keys generalizing options with
  | nil => rfl
  | cons obsolete keys ih =>
    obtain ⟨fresh, distinctRest⟩ := List.nodup_cons.mp distinct
    have others : ∀ key ∈ keys, (options.erase obsolete).has key = options.has key := by
      intro key member
      have different : obsolete ≠ key := fun same => fresh (same ▸ member)
      rw [Entries.has, Entries.has, Entries.get?_erase keyed.distinct, if_neg different]
    cases found : options.get? obsolete with
    | none =>
      have absent := Entries.has_eq_false_iff.mpr found
      rw [pruneOptions, Entries.pop?_of_get?_none found]
      simp [ih distinctRest keyed, absent]
    | some value =>
      have present := Entries.has_eq_true_iff.mpr ⟨value, found⟩
      rw [pruneOptions, Entries.pop?_of_get?_some found]
      simp [ih distinctRest (keyed.erase obsolete), List.filter_congr others, present]

end Pruning

section Completing

theorem keys_takenOptions : (takenOptions optionTable options).keys = optionKeys := by
  simp [takenOptions, Entries.keys, optionKeys]

theorem distinct_takenOptions : (takenOptions optionTable options).Distinct := by
  rw [Entries.Distinct, keys_takenOptions]
  exact optionKeys_nodup

/-- The canonical options are looked up in the document first and then among the defaults. -/
theorem get?_takenOptions (rows : List OptionRow) (options : Record) (key : String) :
    (takenOptions rows options).get? key =
      if key ∈ rows.map OptionRow.key then
        (options.get? key).or ((takenOptions rows []).get? key) else none := by
  induction rows with
  | nil => rfl
  | cons row rows ih =>
    by_cases here : row.key = key
    · subst here
      cases found : options.get? row.key <;> simp [takenOptions, Entries.get?, found]
    · have tail := ih
      simp only [takenOptions] at tail
      simp [takenOptions, Entries.get?, here, Ne.symm here, tail]

theorem takenOptions_nil : takenOptions optionTable [] = defaultOptions :=
  rfl

theorem get?_defaultOptions_of_not_mem {key : String} (noCanonical : key ∉ optionKeys) :
    defaultOptions.get? key = none := by
  rwa [Entries.get?_eq_none_iff, ← takenOptions_nil, keys_takenOptions]

theorem get?_defaultOptions {row : OptionRow} (member : row ∈ optionTable) :
    defaultOptions.get? row.key = some row.default.toJson := by
  refine Entries.get?_of_mem ?_ (List.mem_map_of_mem member)
  exact takenOptions_nil ▸ distinct_takenOptions

theorem has_defaultOptions_iff {key : String} :
    defaultOptions.has key = true ↔ key ∈ optionKeys := by
  rw [Entries.has_iff_mem_keys, ← takenOptions_nil, keys_takenOptions]

theorem completeOptions_eq (options : Record) :
    completeOptions options =
      takeOptions optionTable options >>= fun parts =>
        pruneOptions obsoleteOptions (parts.1.insertAll parts.2) :=
  rfl

theorem value_completeOptions (keyed : options.WellKeyed) :
    (completeOptions options).value =
      (pruneOptions obsoleteOptions ((takenOptions optionTable options).insertAll
        (takeOptions optionTable options).value.2)).value := by
  rw [completeOptions_eq, value_bind, taken_takeOptions optionKeys_nodup keyed]

theorem get?_collected (keyed : options.WellKeyed) (key : String) :
    ((takenOptions optionTable options).insertAll
      (takeOptions optionTable options).value.2).get? key =
        (options.get? key).or (defaultOptions.get? key) := by
  rw [Entries.get?_insertAll (keyed_left_takeOptions keyed).distinct, get?_left_takeOptions keyed,
    get?_takenOptions, takenOptions_nil]
  by_cases canonical : key ∈ optionTable.map OptionRow.key
  · simp [canonical]
  · simp [canonical, get?_defaultOptions_of_not_mem canonical]

theorem keyed_collected (keyed : options.WellKeyed) :
    ((takenOptions optionTable options).insertAll
      (takeOptions optionTable options).value.2).WellKeyed := by
  refine ⟨distinct_takenOptions.insertAll _, fun {key value} found => ?_⟩
  rw [get?_collected keyed, Option.or_eq_some_iff] at found
  rcases found with here | ⟨_, byDefault⟩
  · exact keyed.value here
  · have inside : defaultOptions.all (fun entry => entry.2.wellKeyed) = true := by decide
    exact List.all_eq_true.mp inside _ (Entries.mem_of_get? byDefault)

theorem keepsKeyed_completeOptions : KeepsKeyed completeOptions := by
  intro options keyed
  rw [value_completeOptions keyed]
  exact keepsKeyed_pruneOptions _ (keyed_collected keyed)

/-- Obsolete options are gone; for all others the document wins over the defaults. -/
theorem get?_completeOptions (keyed : options.WellKeyed) (key : String) :
    (completeOptions options).value.get? key =
      if key ∈ obsoleteOptions then none
      else (options.get? key).or (defaultOptions.get? key) := by
  rw [value_completeOptions keyed, get?_pruneOptions (keyed_collected keyed), get?_collected keyed]

theorem has_completeOptions_canonical (keyed : options.WellKeyed) {key : String}
    (member : key ∈ optionKeys) : (completeOptions options).value.has key = true := by
  have kept : key ∉ obsoleteOptions := fun obsolete => obsolete_not_canonical key obsolete member
  have default : (defaultOptions.get? key).isSome = true := has_defaultOptions_iff.mpr member
  rw [Entries.has, get?_completeOptions keyed, if_neg kept, Option.isSome_or, default,
    Bool.or_true]

theorem has_completeOptions_obsolete (keyed : options.WellKeyed) {key : String}
    (member : key ∈ obsoleteOptions) : (completeOptions options).value.has key = false := by
  rw [Entries.has, get?_completeOptions keyed, if_pos member, Option.isSome_none]

theorem changes_completeOptions (keyed : options.WellKeyed) :
    (completeOptions options).changes =
      ((optionTable.filter fun row => !options.has row.key).map fun _ => .optionFilled) ++
        (obsoleteOptions.filter fun key => options.has key).map fun _ => .optionPruned := by
  have obsolete : ∀ key ∈ obsoleteOptions, ((takenOptions optionTable options).insertAll
      (takeOptions optionTable options).value.2).has key = options.has key := by
    intro key member
    have noDefault := get?_defaultOptions_of_not_mem (obsolete_not_canonical key member)
    rw [Entries.has, get?_collected keyed, noDefault, Option.or_none, Entries.has]
  rw [completeOptions_eq, changes_bind, taken_takeOptions optionKeys_nodup keyed,
    changes_takeOptions optionKeys_nodup keyed,
    changes_pruneOptions (by decide) (keyed_collected keyed), List.filter_congr obsolete]

/-- Options are complete if none is missing and none is obsolete. -/
theorem changes_completeOptions_eq_nil (keyed : options.WellKeyed) :
    (completeOptions options).changes = [] ↔
      (∀ key ∈ optionKeys, options.has key = true) ∧
        ∀ key ∈ obsoleteOptions, options.has key = false := by
  rw [changes_completeOptions keyed, List.append_eq_nil_iff, List.map_eq_nil_iff,
    List.map_eq_nil_iff, List.filter_eq_nil_iff, List.filter_eq_nil_iff]
  simp [optionKeys]

theorem changes_completeOptions_again (keyed : options.WellKeyed) :
    (completeOptions (completeOptions options).value).changes = [] :=
  (changes_completeOptions_eq_nil (keepsKeyed_completeOptions options keyed)).mpr
    ⟨fun _ => has_completeOptions_canonical keyed, fun _ => has_completeOptions_obsolete keyed⟩

/-- Options without a change are found as they were, whatever their order. -/
theorem get?_completeOptions_of_silent (keyed : options.WellKeyed)
    (silent : (completeOptions options).changes = []) (key : String) :
    (completeOptions options).value.get? key = options.get? key := by
  obtain ⟨complete, noObsolete⟩ := (changes_completeOptions_eq_nil keyed).mp silent
  rw [get?_completeOptions keyed]
  split
  · rename_i obsolete
    exact (Entries.has_eq_false_iff.mp (noObsolete key obsolete)).symm
  · cases found : options.get? key with
    | some value => rw [Option.some_or]
    | none =>
      have noCanonical : key ∉ optionKeys := fun member => by
        have present := complete key member
        rw [Entries.has_eq_false_iff.mpr found] at present
        exact Bool.noConfusion present
      rw [get?_defaultOptions_of_not_mem noCanonical, Option.none_or]

theorem same_completeOptions_of_silent (keyed : options.WellKeyed)
    (silent : (completeOptions options).changes = []) :
    (Json.object (completeOptions options).value).same (.object options) = true :=
  Json.same_of_get? (keepsKeyed_completeOptions options keyed) keyed.distinct
    fun key => (get?_completeOptions_of_silent keyed silent key).symm

end Completing

section Merging

/-- What stands under the options afterwards. -/
def mergedOptions : Option Json → Json
  | some (.object options) => .object (completeOptions options).value
  | none | some .null => .object (completeOptions []).value
  | some other => other

def optionChanges : Option Json → List Change
  | some (.object options) => (completeOptions options).changes
  | none | some .null => (completeOptions []).changes
  | some _ => []

/-- Merged options need no change. -/
theorem optionChanges_again {options : Option Json} (keyed : KeyedValue options) :
    optionChanges (some (mergedOptions options)) = [] := by
  rcases options with _ | value
  · exact changes_completeOptions_again .nil
  · cases value with
    | null => exact changes_completeOptions_again .nil
    | object given => exact changes_completeOptions_again (Json.wellKeyed_object.mp (keyed _ rfl))
    | _ => rfl

/-- Where no change is told of there were options, and they are equal afterwards. -/
theorem same_mergedOptions_of_silent {options : Option Json} (keyed : KeyedValue options)
    (silent : optionChanges options = []) :
    Json.SameFound (some (mergedOptions options)) options := by
  have filled : (completeOptions []).changes ≠ [] := by
    rw [changes_completeOptions .nil]
    decide
  rcases options with _ | value
  · exact absurd silent filled
  · cases value with
    | null => exact absurd silent filled
    | object given =>
      exact .some (same_completeOptions_of_silent (Json.wellKeyed_object.mp (keyed _ rfl)) silent)
    | _ => exact .some (Json.same_refl _ (keyed _ rfl))

/-- Options that are equal afterwards went through without a change. -/
theorem telling_mergedOptions {options : Option Json} (keyed : KeyedValue options)
    (same : Json.SameFound (some (mergedOptions options)) options) :
    optionChanges options = [] := by
  rcases options with _ | value
  · cases same
  · rw [Json.sameFound_some] at same
    cases value with
    | null => simp [mergedOptions, Json.same] at same
    | object given =>
      have keyedGiven := Json.wellKeyed_object.mp (keyed _ rfl)
      have completed := keepsKeyed_completeOptions given keyedGiven
      have alike : ∀ key, (completeOptions given).value.has key = Entries.has given key := fun key =>
        ((Json.same_object completed.distinct keyedGiven.distinct).mp same key).isSome_eq
      refine (changes_completeOptions_eq_nil keyedGiven).mpr ⟨fun key member => ?_, fun key member => ?_⟩
      · rw [← alike, has_completeOptions_canonical keyedGiven member]
      · rw [← alike, has_completeOptions_obsolete keyedGiven member]
    | _ => rfl

variable {root : Record}

theorem value_mergeOptions (root : Record) :
    (mergeOptions root).value =
      (root.erase optionsKey).insert optionsKey (mergedOptions (root.get? optionsKey)) := by
  cases found : root.get? optionsKey with
  | none =>
    rw [mergeOptions, Entries.pop?_of_get?_none found, Entries.erase_of_get?_none found]
    rfl
  | some value =>
    rw [mergeOptions, Entries.pop?_of_get?_some found]
    cases value <;> rfl

theorem changes_mergeOptions (root : Record) :
    (mergeOptions root).changes = optionChanges (root.get? optionsKey) := by
  cases found : root.get? optionsKey with
  | none =>
    rw [mergeOptions, Entries.pop?_of_get?_none found]
    exact List.append_nil _
  | some value =>
    rw [mergeOptions, Entries.pop?_of_get?_some found]
    cases value with
    | object | null => exact List.append_nil _
    | _ => rfl

theorem get?_mergeOptions (keyed : root.WellKeyed) (key : String) :
    (mergeOptions root).value.get? key =
      if key = optionsKey then some (mergedOptions (root.get? optionsKey)) else root.get? key := by
  rw [value_mergeOptions, Entries.get?_insert, Entries.get?_erase keyed.distinct]
  by_cases here : key = optionsKey
  · simp [here]
  · simp [here, Ne.symm here]

theorem wellKeyed_mergedOptions {options : Option Json} (keyed : KeyedValue options) :
    (mergedOptions options).wellKeyed = true := by
  have completed := fun {record} => keepsKeyed_completeOptions record
  rcases options with _ | value
  · exact Json.wellKeyed_object.mpr (completed .nil)
  · cases value with
    | object record =>
      exact Json.wellKeyed_object.mpr (completed (Json.wellKeyed_object.mp (keyed _ rfl)))
    | null => exact Json.wellKeyed_object.mpr (completed .nil)
    | _ => exact keyed _ rfl

/-- Merging again may reorder the options, but it leaves them equal. -/
theorem same_mergedOptions_again {options : Option Json} (keyed : KeyedValue options) :
    (mergedOptions (some (mergedOptions options))).same (mergedOptions options) = true := by
  have keyedMerged := wellKeyed_mergedOptions keyed
  have same := same_mergedOptions_of_silent
    (fun _ found => Option.some.inj found ▸ keyedMerged) (optionChanges_again keyed)
  rwa [Json.sameFound_some] at same

theorem keepsKeyed_mergeOptions : KeepsKeyed mergeOptions := by
  intro root keyed
  rw [value_mergeOptions]
  exact (keyed.erase optionsKey).insert optionsKey
    (wellKeyed_mergedOptions fun value found => keyed.value found)

end Merging

end ScannerConfig.Normalization
