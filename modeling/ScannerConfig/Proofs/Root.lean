import ScannerConfig.Proofs.LabelSort
import ScannerConfig.Proofs.OptionMerge
import ScannerConfig.Proofs.RootKeys
import ScannerConfig.Proofs.Systems

namespace ScannerConfig.Normalization

open Revision

variable {root : Record}

section Collections

theorem collection_key_injective {a b : Collection} (same : a.key = b.key) : a = b := by
  revert same
  cases a <;> cases b <;> decide

theorem get?_reconcileEach {collections : List Collection} (distinct : collections.Nodup)
    (root : Record) (key : String) :
    (reconcileEach collections root).value.get? key =
      if key ∈ collections.map Collection.key then
        (root.get? key).map (revisedItems reconcileSimple)
      else root.get? key := by
  induction collections generalizing root with
  | nil => rfl
  | cons collection collections ih =>
    obtain ⟨fresh, distinctRest⟩ := List.nodup_cons.mp distinct
    rw [reconcileEach, value_bind, ih distinctRest, get?_under]
    by_cases here : collection.key = key
    · subst here
      have gone : collection.key ∉ collections.map Collection.key := by
        intro member
        obtain ⟨other, inside, same⟩ := List.mem_map.mp member
        exact fresh (collection_key_injective same ▸ inside)
      simp [gone]
    · simp [here, Ne.symm here]

theorem changes_reconcileEach {collections : List Collection} (distinct : collections.Nodup)
    (root : Record) :
    (reconcileEach collections root).changes =
      collections.flatMap fun collection =>
        itemChanges reconcileSimple (root.get? collection.key) := by
  induction collections generalizing root with
  | nil => rfl
  | cons collection collections ih =>
    obtain ⟨fresh, distinctRest⟩ := List.nodup_cons.mp distinct
    rw [reconcileEach, changes_bind, ih distinctRest, changes_under, List.flatMap_cons]
    refine congrArg _ (List.flatMap_congr fun other member => ?_)
    have different : collection.key ≠ other.key := fun same =>
      fresh (collection_key_injective same ▸ member)
    rw [get?_under, if_neg different]

theorem keepsKeyed_reconcileEach (collections : List Collection) :
    KeepsKeyed (reconcileEach collections) := by
  induction collections with
  | nil => exact fun _ keyed => keyed
  | cons collection collections ih => exact (keepsKeyed_reconcileSimple.under _ _).bind ih

theorem accounted_reconcileEach (collections : List Collection) :
    Accounted (reconcileEach collections) := by
  induction collections with
  | nil => exact fun _ _ => rfl
  | cons collection collections ih => exact (accounted_reconcileSimple.under _ _).bind ih

end Collections

section Sorting

/-- A value after sorting: only arrays are sorted. -/
def sortedItems : Json → Json
  | .array items => .array (sortByLabel items)
  | other => other

theorem sortCollections_eq (root : Record) :
    sortCollections root =
      (root.modify Collection.groups.key sortedItems).modify Collection.tags.key sortedItems := by
  have same : sortedItems = fun
      | .array items => .array (sortByLabel items)
      | other => other := by
    funext value
    cases value <;> rfl
  rw [same]
  rfl

theorem get?_sortCollections (root : Record) (key : String) :
    (sortCollections root).get? key =
      if key = Collection.groups.key ∨ key = Collection.tags.key then
        (root.get? key).map sortedItems
      else root.get? key := by
  have apart : Collection.tags.key ≠ Collection.groups.key := by decide
  rw [sortCollections_eq, Entries.get?_modify, Entries.get?_modify]
  by_cases tags : key = Collection.tags.key
  · simp [tags, Ne.symm apart]
  · rw [if_neg (Ne.symm tags), Entries.get?_modify]
    by_cases groups : key = Collection.groups.key
    · simp [groups]
    · simp [groups, tags, Ne.symm groups]

theorem wellKeyed_sortedItems {value : Json} (keyed : value.wellKeyed = true) :
    (sortedItems value).wellKeyed = true := by
  cases value with
  | array items =>
    rw [sortedItems, Json.wellKeyed_array]
    intro item member
    exact Json.wellKeyed_array.mp keyed item
      ((stablySorted_sortByLabel items).perm.mem_iff.mp member)
  | _ => exact keyed

theorem mem_recordsOf_sortedItems {value : Json} {record : Record} :
    record ∈ recordsOf (some (sortedItems value)) ↔ record ∈ recordsOf (some value) := by
  cases value with
  | array items =>
    simp [sortedItems, mem_recordsOf, (stablySorted_sortByLabel items).perm.mem_iff]
  | _ => rfl

theorem sortedItems_again (value : Json) : sortedItems (sortedItems value) = sortedItems value := by
  cases value with
  | array items =>
    rw [sortedItems, sortedItems, sortByLabel_of_sorted (sorted_sortByLabel items)]
  | _ => rfl

theorem wellKeyed_sortCollections (keyed : root.WellKeyed) : (sortCollections root).WellKeyed := by
  refine ⟨?_, fun {key value} found => ?_⟩
  · rw [sortCollections_eq]
    exact (keyed.distinct.modify _ _).modify _ _
  · rw [get?_sortCollections] at found
    split at found
    · obtain ⟨before, there, rfl⟩ := Option.map_eq_some_iff.mp found
      exact wellKeyed_sortedItems (keyed.value there)
    · exact keyed.value found

end Sorting

section Stages

/-- What becomes of the value of a collection. -/
def collectionAfter (collection : Collection) (value : Json) : Json :=
  if collection.isLabelSorted then sortedItems (revisedItems reconcileSimple value)
  else revisedItems reconcileSimple value

/-- Sorting keeps the records that a collection holds. -/
theorem mem_recordsOf_collectionAfter {collection : Collection} {value : Json} {record : Record} :
    record ∈ recordsOf (some (collectionAfter collection value)) ↔
      record ∈ recordsOf (some (revisedItems reconcileSimple value)) := by
  rw [collectionAfter]
  split
  · exact mem_recordsOf_sortedItems
  · rfl

/-- The keys of the root that the rules are about. -/
def ruledKeys : List String :=
  aliases.map Prod.fst ++ Collection.all.map Collection.key ++ [systemsKey, optionsKey]

theorem ruledKeys_cases (key : String) :
    key ∉ ruledKeys ∨ key ∈ aliases.map Prod.fst ∨ (∃ collection : Collection, key = collection.key) ∨
      key = systemsKey ∨ key = optionsKey := by
  by_cases ruled : key ∈ ruledKeys
  · simp only [ruledKeys, List.mem_append, List.mem_cons, List.not_mem_nil, or_false] at ruled
    rcases ruled with (spelling | collectionKey) | other
    · exact .inr (.inl spelling)
    · obtain ⟨collection, _, same⟩ := List.mem_map.mp collectionKey
      exact .inr (.inr (.inl ⟨collection, same.symm⟩))
    · exact .inr (.inr (.inr other))
  · exact .inl ruled

theorem alias_keys_subset : aliases.map Prod.snd ⊆ Collection.all.map Collection.key := by decide

theorem accounted_fixSystems : Accounted fixSystems :=
  accounted_fixSystem.under _ _

theorem keepsKeyed_fixSystems : KeepsKeyed fixSystems :=
  keepsKeyed_fixSystem.under _ _

/-- The root with its records revised, before sorting. -/
def reviseRecords (root : Record) : Revision Record :=
  renameKeys root >>= fun root => reconcileCollections root >>= fixSystems

theorem normalizeRoot_eq (root : Record) :
    normalizeRoot root =
      reviseRecords root >>= fun root => mergeOptions (sortCollections root) := by
  simp only [reviseRecords, normalizeRoot, bind_assoc]

theorem keepsKeyed_reviseRecords : KeepsKeyed reviseRecords := by
  have keys : KeepsKeyed renameKeys := keepsKeyed_renameEach
  have collections : KeepsKeyed reconcileCollections := keepsKeyed_reconcileEach _
  exact keys.bind (collections.bind keepsKeyed_fixSystems)

theorem accounted_reviseRecords : Accounted reviseRecords := by
  have keys : Accounted renameKeys := accounted_renameEach
  have collections : Accounted reconcileCollections := accounted_reconcileEach _
  exact keys.bind (collections.bind accounted_fixSystems)

theorem keepsKeyed_normalizeRoot : KeepsKeyed normalizeRoot := by
  intro root keyed
  rw [normalizeRoot_eq, value_bind]
  exact keepsKeyed_mergeOptions _ (wellKeyed_sortCollections (keepsKeyed_reviseRecords root keyed))

theorem get?_reviseRecords (root : Record) (key : String) :
    (reviseRecords root).value.get? key =
      let renamed := (renameKeys root).value.get? key
      if key = systemsKey then renamed.map (revisedItems fixSystem)
      else if key ∈ Collection.all.map Collection.key then
        renamed.map (revisedItems reconcileSimple)
      else renamed := by
  have noCollection : systemsKey ∉ Collection.all.map Collection.key := by decide
  simp only [reviseRecords, value_bind, fixSystems, get?_under, reconcileCollections,
    get?_reconcileEach (by decide : Collection.all.Nodup)]
  by_cases systems : key = systemsKey
  · simp [systems, noCollection]
  · simp [systems, Ne.symm systems]

theorem get?_normalizeRoot (keyed : root.WellKeyed) (key : String) :
    (normalizeRoot root).value.get? key =
      if key = optionsKey then some (mergedOptions ((reviseRecords root).value.get? optionsKey))
      else if key = Collection.groups.key ∨ key = Collection.tags.key then
        ((reviseRecords root).value.get? key).map sortedItems
      else (reviseRecords root).value.get? key := by
  have revised := keepsKeyed_reviseRecords root keyed
  rw [normalizeRoot_eq, value_bind, get?_mergeOptions (wellKeyed_sortCollections revised),
    get?_sortCollections, get?_sortCollections,
    if_neg (by decide : ¬(optionsKey = Collection.groups.key ∨ optionsKey = Collection.tags.key))]

theorem normalizeRoot_collection (keyed : root.WellKeyed) (collection : Collection) :
    (normalizeRoot root).value.get? collection.key =
      (collection.value? root).map (collectionAfter collection) := by
  have inside : collection.key ∈ Collection.all.map Collection.key :=
    List.mem_map_of_mem (Collection.mem_all collection)
  have noSystems : collection.key ≠ systemsKey := by cases collection <;> decide
  have noOptions : collection.key ≠ optionsKey := by cases collection <;> decide
  have revised : (reviseRecords root).value.get? collection.key =
      (collection.value? root).map (revisedItems reconcileSimple) := by
    simp only [get?_reviseRecords, if_neg noSystems, if_pos inside,
      get?_renameKeys_collection keyed]
  have sorted : (collection.key = Collection.groups.key ∨ collection.key = Collection.tags.key) ↔
      collection.isLabelSorted = true := by cases collection <;> decide
  simp only [get?_normalizeRoot keyed, if_neg noOptions, revised, sorted]
  cases collection.value? root with
  | none => exact ite_self _
  | some value => simp only [Option.map_some, collectionAfter, apply_ite some]

theorem normalizeRoot_systems (keyed : root.WellKeyed) :
    (normalizeRoot root).value.get? systemsKey =
      (root.get? systemsKey).map (revisedItems fixSystem) := by
  have kept : (renameKeys root).value.get? systemsKey = root.get? systemsKey :=
    get?_renameEach_outside keyed separate_aliases (by decide) (by decide)
  simp only [get?_normalizeRoot keyed, get?_reviseRecords, kept, if_true]
  rw [if_neg (by decide), if_neg (by decide)]

theorem normalizeRoot_options (keyed : root.WellKeyed) :
    (normalizeRoot root).value.get? optionsKey = some (mergedOptions (root.get? optionsKey)) := by
  have kept : (renameKeys root).value.get? optionsKey = root.get? optionsKey :=
    get?_renameEach_outside keyed separate_aliases (by decide) (by decide)
  simp only [get?_normalizeRoot keyed, get?_reviseRecords, kept, if_true]
  rw [if_neg (by decide), if_neg (by decide)]

theorem normalizeRoot_spelling (keyed : root.WellKeyed) {key : String}
    (member : key ∈ aliases.map Prod.fst) : (normalizeRoot root).value.get? key = none := by
  have gone : (renameKeys root).value.get? key = none :=
    get?_renameEach_spelling keyed separate_aliases member
  have noOptions : key ≠ optionsKey := ne_of_mem_of_not_mem member (by decide)
  simp only [get?_normalizeRoot keyed, get?_reviseRecords, gone, if_neg noOptions, Option.map_none,
    ite_self]

theorem normalizeRoot_outside (keyed : root.WellKeyed) :
    Entries.SameOutside ruledKeys root (normalizeRoot root).value := by
  intro key outside
  simp only [ruledKeys, List.mem_append, not_or] at outside
  obtain ⟨⟨noSpelling, noCollection⟩, noOther⟩ := outside
  have noSystems : key ≠ systemsKey := fun same => noOther (by simp [same])
  have noOptions : key ≠ optionsKey := fun same => noOther (by simp [same])
  have unsorted : ¬(key = Collection.groups.key ∨ key = Collection.tags.key) := by
    rintro (same | same) <;> exact noCollection (same ▸ by decide)
  have kept : (renameKeys root).value.get? key = root.get? key :=
    get?_renameEach_outside keyed separate_aliases noSpelling
      fun member => noCollection (alias_keys_subset member)
  simp only [get?_normalizeRoot keyed, get?_reviseRecords, kept, if_neg noOptions, if_neg unsorted,
    if_neg noSystems, if_neg noCollection]

theorem changes_normalizeRoot (keyed : root.WellKeyed) :
    (normalizeRoot root).changes =
      ((aliases.filter fun pair => root.has pair.1).map fun _ => .keyRenamed) ++
        ((Collection.all.flatMap fun collection =>
            itemChanges reconcileSimple (collection.value? root)) ++
          (itemChanges fixSystem (root.get? systemsKey) ++
            optionChanges (root.get? optionsKey))) := by
  have allDistinct : Collection.all.Nodup := by decide
  have kept := fun {key} (noSpelling : key ∉ aliases.map Prod.fst)
      (noKey : key ∉ aliases.map Prod.snd) =>
    get?_renameEach_outside keyed separate_aliases noSpelling noKey
  have options : (sortCollections (reviseRecords root).value).get? optionsKey =
      root.get? optionsKey := by
    rw [get?_sortCollections, if_neg (by decide)]
    simp only [get?_reviseRecords]
    rw [if_neg (by decide), if_neg (by decide)]
    exact kept (by decide) (by decide)
  have systems : (reconcileCollections (renameKeys root).value).value.get? systemsKey =
      root.get? systemsKey := by
    rw [reconcileCollections, get?_reconcileEach allDistinct, if_neg (by decide)]
    exact kept (by decide) (by decide)
  have renamed : (renameKeys root).changes = _ := changes_renameEach keyed separate_aliases
  rw [normalizeRoot_eq, changes_bind, changes_mergeOptions, options, reviseRecords, changes_bind,
    changes_bind, renamed, fixSystems, changes_under, systems, reconcileCollections,
    changes_reconcileEach allDistinct, List.append_assoc, List.append_assoc]
  simp only [get?_renameKeys_collection keyed]

/-- Normalization is silent if every stage is. -/
theorem changes_normalizeRoot_eq_nil (keyed : root.WellKeyed) :
    (normalizeRoot root).changes = [] ↔
      (∀ spelling ∈ aliases.map Prod.fst, root.get? spelling = none) ∧
        (∀ collection : Collection,
          itemChanges reconcileSimple (collection.value? root) = []) ∧
        itemChanges fixSystem (root.get? systemsKey) = [] ∧
        optionChanges (root.get? optionsKey) = [] := by
  rw [changes_normalizeRoot keyed, List.append_eq_nil_iff, List.append_eq_nil_iff,
    List.append_eq_nil_iff, List.map_eq_nil_iff, List.filter_eq_nil_iff, List.flatMap_eq_nil_iff]
  refine and_congr ?_ (and_congr ?_ Iff.rfl)
  · simp only [List.forall_mem_map, Bool.not_eq_true, Entries.has_eq_false_iff]
  · exact ⟨fun silent collection => silent collection (Collection.mem_all collection),
      fun silent collection _ => silent collection⟩

end Stages

section Documents

theorem normalize_object (root : Record) :
    (normalize (.object root)).value = .object (normalizeRoot root).value :=
  rfl

theorem changes_normalize_object (root : Record) :
    (normalize (.object root)).changes = (normalizeRoot root).changes :=
  List.append_nil _

/-- Normalization repeats no key. -/
theorem wellKeyed_normalize {document : Json} (keyed : document.wellKeyed = true) :
    (normalize document).value.wellKeyed = true := by
  cases document with
  | object root =>
    exact Json.wellKeyed_object.mpr (keepsKeyed_normalizeRoot root (Json.wellKeyed_object.mp keyed))
  | _ => exact keyed

end Documents

end ScannerConfig.Normalization
