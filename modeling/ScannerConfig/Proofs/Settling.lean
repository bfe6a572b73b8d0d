import ScannerConfig.Proofs.Root
import ScannerConfig.Proofs.SecondPass
import ScannerConfig.Proofs.Telling

namespace ScannerConfig.Normalization

open Revision

variable {root : Record}

section Root

theorem changes_collectionAfter_again (collection : Collection) {value : Json}
    (keyed : value.wellKeyed = true) :
    itemChanges reconcileSimple (some (collectionAfter collection value)) = [] := by
  have silent : itemChanges reconcileSimple
      ((some value).map (revisedItems reconcileSimple)) = [] :=
    changes_revisedItems reconcileSimple (fun _ found => Option.some.inj found ▸ keyed)
      fun _ => changes_reconcileSimple_again
  rw [itemChanges, List.flatMap_eq_nil_iff] at silent ⊢
  exact fun record member => silent record (mem_recordsOf_collectionAfter.mp member)

theorem collectionAfter_again (collection : Collection) {value : Json}
    (keyed : value.wellKeyed = true) :
    collectionAfter collection (collectionAfter collection value) =
      collectionAfter collection value := by
  have silent := changes_collectionAfter_again collection keyed
  have revisedAgain := accounted_reconcileSimple.revisedItems silent
  rw [collectionAfter, revisedAgain]
  split
  · rename_i labelled
    rw [collectionAfter, if_pos labelled, sortedItems_again]
  · rfl

theorem value?_normalizeRoot (keyed : root.WellKeyed) (collection : Collection) :
    collection.value? (normalizeRoot root).value =
      (normalizeRoot root).value.get? collection.key :=
  value?_of_no_spelling (fun _ => normalizeRoot_spelling keyed) collection

/-- The second pass over a root revises systems and, at most, reorders the options. -/
theorem get?_normalizeRoot_again (keyed : root.WellKeyed) {key : String}
    (noOptions : key ≠ optionsKey) :
    (normalizeRoot (normalizeRoot root).value).value.get? key =
      (under systemsKey .systems fixSystem (normalizeRoot root).value).value.get? key := by
  have first := keepsKeyed_normalizeRoot root keyed
  rw [get?_under]
  rcases ruledKeys_cases key with outside | spelling | ⟨collection, rfl⟩ | rfl | rfl
  · have noSystems : systemsKey ≠ key := fun same => outside (same ▸ by decide)
    rw [if_neg noSystems, normalizeRoot_outside first key outside]
  · have noSystems : systemsKey ≠ key := (ne_of_mem_of_not_mem spelling (by decide)).symm
    rw [if_neg noSystems, normalizeRoot_spelling first spelling, normalizeRoot_spelling keyed spelling]
  · have noSystems : systemsKey ≠ collection.key := by cases collection <;> decide
    rw [if_neg noSystems, normalizeRoot_collection first, value?_normalizeRoot keyed,
      normalizeRoot_collection keyed]
    cases found : collection.value? root with
    | none => rfl
    | some value =>
      have inside := keyedValue_collection keyed collection value found
      simp only [Option.map_some, collectionAfter_again collection inside]
  · rw [if_pos rfl, normalizeRoot_systems first]
  · exact absurd rfl noOptions

theorem changes_normalizeRoot_again (keyed : root.WellKeyed) :
    (normalizeRoot (normalizeRoot root).value).changes =
      itemChanges fixSystem ((normalizeRoot root).value.get? systemsKey) := by
  have first := keepsKeyed_normalizeRoot root keyed
  have spellings : (aliases.filter fun pair => (normalizeRoot root).value.has pair.1) = [] := by
    refine List.filter_eq_nil_iff.mpr fun pair member => ?_
    rw [Entries.has, normalizeRoot_spelling keyed (List.mem_map_of_mem member)]
    simp
  have collections : (Collection.all.flatMap fun collection =>
      itemChanges reconcileSimple (collection.value? (normalizeRoot root).value)) = [] := by
    refine List.flatMap_eq_nil_iff.mpr fun collection _ => ?_
    rw [value?_normalizeRoot keyed, normalizeRoot_collection keyed]
    cases found : collection.value? root with
    | none => rfl
    | some value =>
      exact changes_collectionAfter_again collection
        (keyedValue_collection keyed collection value found)
  rw [changes_normalizeRoot first, spellings, collections, normalizeRoot_options keyed,
    optionChanges_again (keyed.keyedValue _), List.append_nil, List.map_nil,
    List.nil_append, List.nil_append]

/-- Roots that agree but for the order of their options are equal. -/
theorem same_of_get?_but_options {before after : Record} (keyed : before.WellKeyed)
    (distinct : after.Distinct)
    (lookups : ∀ key, key ≠ optionsKey → after.get? key = before.get? key)
    (options : Json.SameFound (before.get? optionsKey) (after.get? optionsKey)) :
    (Json.object before).same (.object after) = true := by
  rw [Json.same_object keyed.distinct distinct]
  intro key
  by_cases here : key = optionsKey
  · rw [here]
    exact options
  · rw [lookups key here]
    exact Json.sameFound_refl (keyed.keyedValue _)

/-- Where no change is told of, only labels and options may have been put in order. -/
theorem same_normalizeRoot_of_silent (keyed : root.WellKeyed)
    (silent : (normalizeRoot root).changes = []) :
    (Json.object (normalizeRoot root).value).same (.object (sortCollections root)) = true := by
  have sorted := wellKeyed_sortCollections keyed
  rw [normalizeRoot_eq, changes_bind, List.append_eq_nil_iff] at silent
  have unchanged := accounted_reviseRecords root silent.1
  rw [unchanged, changes_mergeOptions] at silent
  rw [normalizeRoot_eq, value_bind, unchanged]
  refine same_of_get?_but_options (keepsKeyed_mergeOptions _ sorted) sorted.distinct
    (fun key noOptions => ?_) ?_
  · rw [get?_mergeOptions sorted, if_neg noOptions]
  · rw [get?_mergeOptions sorted, if_pos rfl]
    exact same_mergedOptions_of_silent (sorted.keyedValue _) silent.2

/-- The second pass is the rule for systems and nothing else. -/
theorem same_normalizeRoot_again (keyed : root.WellKeyed) :
    (Json.object (normalizeRoot (normalizeRoot root).value).value).same
      (.object (under systemsKey .systems fixSystem (normalizeRoot root).value).value) = true := by
  have first := keepsKeyed_normalizeRoot root keyed
  have second := keepsKeyed_normalizeRoot _ first
  have revised := keepsKeyed_fixSystem.under systemsKey .systems _ first
  refine same_of_get?_but_options second revised.distinct
    (fun key noOptions => (get?_normalizeRoot_again keyed noOptions).symm) ?_
  rw [get?_under, if_neg (by decide), normalizeRoot_options first, normalizeRoot_options keyed]
  exact .some (same_mergedOptions_again (keyed.keyedValue _))

theorem revisedItems_fixSystem_third {value : Json} (keyed : value.wellKeyed = true) :
    revisedItems fixSystem (revisedItems fixSystem (revisedItems fixSystem value)) =
        revisedItems fixSystem (revisedItems fixSystem value) ∧
      itemChanges fixSystem (some (revisedItems fixSystem (revisedItems fixSystem value))) = [] := by
  have silent : itemChanges fixSystem
      (((some value).map (revisedItems fixSystem)).map (revisedItems fixSystem)) = [] := by
    rw [itemChanges, recordsOf_revisedItems, recordsOf_revisedItems, List.map_map,
      List.flatMap_map, List.flatMap_eq_nil_iff]
    exact fun system member => changes_fixSystem_third
      (wellKeyed_of_mem_recordsOf (fun _ found => Option.some.inj found ▸ keyed) member)
  exact ⟨accounted_fixSystem.revisedItems silent, silent⟩

end Root

section Documents

/-- The systems of a document. -/
def systemsOf : Json → List Record
  | .object root => recordsOf (Entries.get? root systemsKey)
  | _ => []

def talkgroupsOf (system : Record) : List Record :=
  recordsOf (system.get? talkgroupsKey)

/-- How many records have a legacy identifier but neither `id` nor a reference. -/
def bareCount (referenceKey : String) (records : List Record) : Nat :=
  records.countP fun record => (bareId? referenceKey record).isSome

/-- How many bare systems and bare talkgroups a document has. -/
def bareRecords (document : Json) : Nat :=
  bareCount systemRefKey (systemsOf document) +
    bareCount talkgroupRefKey ((systemsOf document).flatMap talkgroupsOf)

/-- Puts the identifiers of the bare records of a document into what has become of them. -/
def atBareRecords (put : String → Json → Record → Record) : Json → Json → Json :=
  zipObjects (zipUnder systemsKey (atBareSystem put))

theorem flatMap_bare (referenceKey : String) (records : List Record) :
    (records.flatMap fun record =>
        if (bareId? referenceKey record).isSome then [Change.referenceExtracted] else []) =
      List.replicate (bareCount referenceKey records) .referenceExtracted := by
  induction records with
  | nil => rfl
  | cons record rest ih =>
    rw [List.flatMap_cons, ih, bareCount, bareCount, List.countP_cons]
    split <;> simp [List.replicate_succ]

theorem changes_second_pass {systems : List Record} (keyed : ∀ system ∈ systems, system.WellKeyed) :
    (systems.flatMap fun system => (fixSystem (fixSystem system).value).changes) =
      List.replicate (bareCount systemRefKey systems +
        bareCount talkgroupRefKey (systems.flatMap talkgroupsOf)) .referenceExtracted := by
  induction systems with
  | nil => rfl
  | cons system rest ih =>
    obtain ⟨keyedSystem, keyedRest⟩ := List.forall_mem_cons.mp keyed
    have here := flatMap_bare systemRefKey [system]
    rw [List.flatMap_singleton] at here
    have total : bareCount systemRefKey (system :: rest) +
        bareCount talkgroupRefKey ((system :: rest).flatMap talkgroupsOf) =
          bareCount systemRefKey [system] + bareCount talkgroupRefKey (talkgroupsOf system) +
            (bareCount systemRefKey rest + bareCount talkgroupRefKey (rest.flatMap talkgroupsOf)) := by
      simp only [bareCount, List.flatMap_cons, List.countP_append, List.countP_cons, List.countP_nil]
      omega
    rw [List.flatMap_cons, ih keyedRest, changes_fixSystem_again keyedSystem, here, flatMap_bare,
      total, List.replicate_append_replicate, List.replicate_append_replicate]
    rfl

theorem wellKeyed_systemsOf (keyed : root.WellKeyed) :
    ∀ system ∈ systemsOf (.object root), system.WellKeyed :=
  fun _ member => wellKeyed_of_mem_recordsOf (keyed.keyedValue _) member

theorem changes_normalize_again (keyed : root.WellKeyed) :
    (normalize (.object (normalizeRoot root).value)).changes =
      List.replicate (bareRecords (.object root)) .referenceExtracted := by
  rw [changes_normalize_object, changes_normalizeRoot_again keyed, normalizeRoot_systems keyed,
    itemChanges, recordsOf_revisedItems, List.flatMap_map]
  exact changes_second_pass (wellKeyed_systemsOf keyed)

theorem zipUnder_systems (put : String → Json → Record → Record)
    (again : Record → Revision Record) (keyed : root.WellKeyed)
    (same : ∀ system, system.WellKeyed →
      atBareSystem put system (fixSystem system).value = (again (fixSystem system).value).value) :
    zipUnder systemsKey (atBareSystem put) root (normalizeRoot root).value =
      (under systemsKey .systems again (normalizeRoot root).value).value :=
  zipUnder_eq_under again .systems keyed (normalizeRoot_systems keyed) same

theorem atBareRecords_holdId (keyed : root.WellKeyed) :
    atBareRecords holdId (.object root) (.object (normalizeRoot root).value) =
      .object (normalizeRoot root).value := by
  rw [atBareRecords, zipObjects, zipUnder_systems holdId .keep keyed
    fun _ => atBareSystem_holdId_fixSystem, value_under_keep]

theorem atBareRecords_holdReference (keyed : root.WellKeyed) :
    atBareRecords holdReference (.object root) (.object (normalizeRoot root).value) =
      .object (under systemsKey .systems fixSystem (normalizeRoot root).value).value := by
  rw [atBareRecords, zipObjects, zipUnder_systems holdReference fixSystem keyed
    fun _ keyedSystem => (fixSystem_again keyedSystem).symm]

/-- The second pass leaves a document equal only if it has no change to tell of. -/
theorem same_again_iff (keyed : root.WellKeyed) :
    (Json.object (normalizeRoot (normalizeRoot root).value).value).same
        (.object (normalizeRoot root).value) = true ↔
      (normalizeRoot (normalizeRoot root).value).changes = [] := by
  have first := keepsKeyed_normalizeRoot root keyed
  have second := keepsKeyed_normalizeRoot _ first
  rw [changes_normalizeRoot_again keyed]
  constructor
  · intro same
    have systems := (Json.same_object second.distinct first.distinct).mp same systemsKey
    rw [normalizeRoot_systems first] at systems
    exact telling_fixSystem.itemChanges (first.keyedValue _) systems
  · intro silent
    have unchanged : (under systemsKey .systems fixSystem (normalizeRoot root).value).value =
        (normalizeRoot root).value :=
      accounted_fixSystem.under _ _ _ (by rw [changes_under, silent])
    have moved := same_normalizeRoot_again keyed
    rwa [unchanged] at moved

theorem third_pass (keyed : root.WellKeyed) :
    let second := (normalizeRoot (normalizeRoot root).value).value
    (Json.object (normalizeRoot second).value).same (.object second) = true ∧
      (normalizeRoot second).changes = [] := by
  have first := keepsKeyed_normalizeRoot root keyed
  have silent : (normalizeRoot (normalizeRoot (normalizeRoot root).value).value).changes = [] := by
    rw [changes_normalizeRoot_again first, normalizeRoot_systems first, normalizeRoot_systems keyed]
    cases found : root.get? systemsKey with
    | none => rfl
    | some value => exact (revisedItems_fixSystem_third (keyed.value found)).2
  exact ⟨(same_again_iff first).mpr silent, silent⟩

/-- How a document develops from its first pass to the third. -/
structure Settles (document first : Json) (second third : Revision Json) : Prop where
  unchanged : third.value.same second.value = true
  silent : (Report.ofChanges third.changes).isEmpty = true
  counts : ∀ change, (Report.ofChanges second.changes).count change =
    if change = .referenceExtracted then bareRecords document else 0
  equal_iff : second.value.same first = true ↔ bareRecords document = 0
  held : atBareRecords holdId document first = first
  moved : second.value.same (atBareRecords holdReference document first) = true

/-- Two passes settle a document, and the second does no more than to move the identifiers of
bare records. -/
theorem normalize_settles {document : Json} (keyed : document.wellKeyed = true) :
    Settles document (normalize document).value (normalize (normalize document).value)
      (normalize (normalize (normalize document).value).value) := by
  cases document with
  | object root =>
    have keyedRoot := Json.wellKeyed_object.mp keyed
    obtain ⟨unchanged, silent⟩ := third_pass keyedRoot
    have moves := changes_normalize_again keyedRoot
    simp only [normalize_object]
    refine ⟨unchanged, ?_, fun change => ?_, ?_, atBareRecords_holdId keyedRoot, ?_⟩
    · rw [changes_normalize_object, silent]
      rfl
    · simp only [moves, Report.ofChanges, List.count_replicate, beq_iff_eq]
      cases change <;> simp
    · rw [normalize_object, same_again_iff keyedRoot, ← changes_normalize_object, moves,
        List.replicate_eq_nil_iff]
    · rw [atBareRecords_holdReference keyedRoot]
      exact same_normalizeRoot_again keyedRoot
  | _ =>
    have same := Json.same_refl _ keyed
    exact ⟨same, rfl, fun change => by cases change <;> rfl, iff_of_true same rfl, rfl, same⟩

theorem normalize_settles_bare :
    let document : Json := .object [("systems", .array [
      .object [("_id", .ofNat 1), ("talkgroups", .array [
        .object [("_id", .ofNat 2), ("groupId", .ofNat 3)],
        .object [("_id", .ofNat 4), ("talkgroupRef", .ofNat 5)]])],
      .object [("_id", .ofNat 6), ("id", .ofNat 7)]])]
    document.wellKeyed = true ∧
      Settles document (normalize document).value (normalize (normalize document).value)
        (normalize (normalize (normalize document).value).value) :=
  ⟨by decide, normalize_settles (by decide)⟩

end Documents

end ScannerConfig.Normalization
