import ScannerConfig.Proofs.Frame

namespace ScannerConfig

namespace Entries

variable {α : Type} {entries others : Entries α}

/-- Entries are determined by their keys in order and by what is found under each. -/
theorem eq_of_get? (distinct : entries.Distinct) (sameKeys : entries.keys = others.keys)
    (lookups : ∀ key, entries.get? key = others.get? key) : entries = others := by
  induction entries generalizing others with
  | nil => exact (List.map_eq_nil_iff.mp sameKeys.symm).symm
  | cons entry rest ih =>
    cases others with
    | nil => exact absurd sameKeys (List.cons_ne_nil _ _)
    | cons other others =>
      obtain ⟨key, value⟩ := entry
      obtain ⟨key', found⟩ := other
      obtain ⟨rfl, laterKeys⟩ : key = key' ∧ keys rest = keys others := List.cons.inj sameKeys
      obtain ⟨fresh, distinctRest⟩ := distinct_cons.mp distinct
      have here := lookups key
      simp only [get?, if_true, Option.some.injEq] at here
      have later : ∀ asked, get? rest asked = get? others asked := by
        intro asked
        by_cases same : key = asked
        · rw [← same, get?_eq_none_iff.mpr fresh, get?_eq_none_iff.mpr (laterKeys ▸ fresh)]
        · simpa only [get?, if_neg same] using lookups asked
      rw [here, ih distinctRest laterKeys later]

theorem keys_lastFirst (entries : Entries α) :
    entries.lastFirst.keys = entries.keys.getLast?.toList ++ entries.keys.dropLast := by
  rcases List.eq_nil_or_concat entries with rfl | ⟨front, last, rfl⟩
  · rfl
  · simp [lastFirst, keys]

/-- Which keys are left, and in which order, does not depend on the values. -/
theorem keys_erase_congr (sameKeys : entries.keys = others.keys) (key : String) :
    (entries.erase key).keys = (others.erase key).keys := by
  induction entries generalizing others with
  | nil => rw [List.map_eq_nil_iff.mp sameKeys.symm]
  | cons entry rest ih =>
    cases others with
    | nil => exact absurd sameKeys (List.cons_ne_nil _ _)
    | cons other others =>
      obtain ⟨first, value⟩ := entry
      obtain ⟨first', found⟩ := other
      obtain ⟨rfl, laterKeys⟩ := List.cons.inj sameKeys
      by_cases here : first = key
      · simp only [erase, if_pos here]
        rw [keys_lastFirst, keys_lastFirst]
        exact congrArg (fun keys => keys.getLast?.toList ++ keys.dropLast) laterKeys
      · simp only [erase, if_neg here]
        exact congrArg (first :: ·) (ih laterKeys)

end Entries

namespace Revision

variable {α : Type}

/-- The same value, and the same changes in some order. -/
structure Agree (first second : Revision α) : Prop where
  value : first.value = second.value
  changes : first.changes.Perm second.changes

theorem Agree.refl (revision : Revision α) : Agree revision revision :=
  ⟨rfl, .refl _⟩

theorem Agree.trans {first second third : Revision α} (agree : Agree first second)
    (later : Agree second third) : Agree first third :=
  ⟨agree.value.trans later.value, agree.changes.trans later.changes⟩

/-- What agrees may be followed by what agrees from there. -/
theorem Agree.bind {first second : Revision α} {next after : α → Revision α}
    (agree : Agree first second) (later : Agree (next first.value) (after first.value)) :
    Agree (first >>= next) (second >>= after) := by
  refine ⟨?_, ?_⟩
  · rw [value_bind, value_bind, ← agree.value, later.value]
  · rw [changes_bind, changes_bind, ← agree.value]
    exact agree.changes.append later.changes

/-- Reports count the changes, in whatever order these are told. -/
theorem Agree.report {first second : Revision α} (agree : Agree first second) :
    Report.ofChanges first.changes = Report.ofChanges second.changes :=
  congrArg Report.mk (funext fun change => agree.changes.count_eq change)

theorem keys_under (key : String) (notice : Notice) (rule : Record → Revision Record)
    (parent : Record) : (under key notice rule parent).value.keys = parent.keys := by
  rw [value_under]
  cases found : parent.get? key with
  | none => rfl
  | some value =>
    dsimp only
    rw [Entries.keys_insert, if_pos (Entries.has_eq_true_iff.mpr ⟨value, found⟩)]

end Revision

namespace Normalization

open Revision

variable {root : Record} {key : String}

/-- The stages that follow the renaming of the root's keys. -/
inductive Stage where
  | collections
  | systems
  | labels
  | options
  deriving DecidableEq, Repr

namespace Stage

/-- The stages in the order in which a pass takes them. -/
def all : List Stage :=
  [collections, systems, labels, options]

def run : Stage → Record → Revision Record
  | collections => reconcileCollections
  | systems => fixSystems
  | labels => fun root => .keep (sortCollections root)
  | options => mergeOptions

/-- The keys under which a stage may change something. -/
def keys : Stage → List String
  | collections => Collection.all.map Collection.key
  | systems => [systemsKey]
  | labels => [Collection.groups.key, Collection.tags.key]
  | options => [optionsKey]

/-- What a stage makes of what was found under one of its keys. -/
def revise : Stage → Option Json → Option Json
  | collections => Option.map (revisedItems reconcileSimple)
  | systems => Option.map (revisedItems fixSystem)
  | labels => Option.map sortedItems
  | options => fun value => some (mergedOptions value)

/-- What is found under a key after a stage, from what was found before. -/
def effect (stage : Stage) (key : String) (value : Option Json) : Option Json :=
  if key ∈ stage.keys then stage.revise value else value

theorem effect_outside {stage : Stage} (outside : key ∉ stage.keys) (value : Option Json) :
    stage.effect key value = value :=
  if_neg outside

theorem get?_run (stage : Stage) (keyed : root.WellKeyed) (key : String) :
    (stage.run root).value.get? key = stage.effect key (root.get? key) := by
  cases stage with
  | collections => exact get?_reconcileEach (by decide) root key
  | systems =>
    simp only [run, fixSystems, get?_under, effect, keys, List.mem_singleton, eq_comm (a := key)]
    split
    · rename_i here
      rw [here, revise]
    · rfl
  | labels => simp only [run, value_keep, get?_sortCollections, effect, keys, List.mem_cons,
      List.not_mem_nil, or_false, revise]
  | options =>
    simp only [run, get?_mergeOptions keyed, effect, keys, List.mem_singleton]
    split
    · rename_i here
      rw [here, revise]
    · rfl

theorem keepsKeyed_run (stage : Stage) : KeepsKeyed stage.run := by
  cases stage with
  | collections => exact keepsKeyed_reconcileEach _
  | systems => exact keepsKeyed_fixSystems
  | labels => exact fun _ => wellKeyed_sortCollections
  | options => exact keepsKeyed_mergeOptions

/-- Two stages that share a key are the same, or the two that work on groups and tags. -/
theorem shared_key {first second : Stage} (member : key ∈ first.keys)
    (memberToo : key ∈ second.keys) :
    first = second ∨ (first = collections ∧ second = labels) ∨
      (first = labels ∧ second = collections) := by
  have disjoint : ∀ first second : Stage, first = second ∨
      (first = collections ∧ second = labels) ∨ (first = labels ∧ second = collections) ∨
        ∀ key ∈ first.keys, key ∉ second.keys := by
    intro first second
    cases first <;> cases second <;> decide
  rcases disjoint first second with same | forth | back | apart
  · exact .inl same
  · exact .inr (.inl forth)
  · exact .inr (.inr back)
  · exact absurd memberToo (apart key member)

theorem map_sorted_revised {value : Option Json} (keyed : KeyedValue value) :
    labels.revise (collections.revise value) = collections.revise (labels.revise value) := by
  cases value with
  | none => rfl
  | some value => exact congrArg some (sortedItems_revisedItems (keyed value rfl))

theorem effect_comm (first second : Stage) {value : Option Json} (keyed : KeyedValue value) :
    second.effect key (first.effect key value) = first.effect key (second.effect key value) := by
  by_cases member : key ∈ first.keys
  · by_cases memberToo : key ∈ second.keys
    · simp only [effect, if_pos member, if_pos memberToo]
      rcases shared_key member memberToo with rfl | ⟨rfl, rfl⟩ | ⟨rfl, rfl⟩
      · rfl
      · exact map_sorted_revised keyed
      · exact (map_sorted_revised keyed).symm
    · rw [effect_outside memberToo, effect_outside memberToo]
  · rw [effect_outside member, effect_outside member]

theorem keys_reconcileEach (collections : List Collection) (root : Record) :
    (reconcileEach collections root).value.keys = root.keys := by
  induction collections generalizing root with
  | nil => rfl
  | cons collection collections ih =>
    rw [reconcileEach, value_bind, ih, keys_under]

/-- Only the options move a key: their own to the end, and the last one into the gap. -/
theorem keys_run {stage : Stage} (noOptions : stage ≠ options) (root : Record) :
    (stage.run root).value.keys = root.keys := by
  cases stage with
  | collections => exact keys_reconcileEach _ root
  | systems => exact keys_under _ _ _ root
  | labels =>
    rw [run, value_keep, sortCollections_eq, Entries.keys_modify, Entries.keys_modify]
  | options => exact absurd rfl noOptions

theorem keys_mergeOptions (keyed : root.WellKeyed) :
    (mergeOptions root).value.keys = (root.erase optionsKey).keys ++ [optionsKey] := by
  have gone : (root.erase optionsKey).has optionsKey = false := by
    rw [Entries.has_eq_false_iff, Entries.get?_erase keyed.distinct, if_pos rfl]
  rw [value_mergeOptions, Entries.keys_insert, gone]
  rfl

theorem keys_options_comm {stage : Stage} (noOptions : stage ≠ options) (keyed : root.WellKeyed) :
    (stage.run (mergeOptions root).value).value.keys =
      (mergeOptions (stage.run root).value).value.keys := by
  rw [keys_run noOptions, keys_mergeOptions keyed,
    keys_mergeOptions (stage.keepsKeyed_run root keyed),
    Entries.keys_erase_congr (keys_run noOptions root)]

theorem keys_run_comm (first second : Stage) (keyed : root.WellKeyed) :
    (second.run (first.run root).value).value.keys =
      (first.run (second.run root).value).value.keys := by
  by_cases here : first = options
  · subst here
    by_cases same : second = options
    · rw [same]
    · exact keys_options_comm same keyed
  · by_cases there : second = options
    · subst there
      exact (keys_options_comm here keyed).symm
    · rw [keys_run there, keys_run here, keys_run here, keys_run there]

theorem value_run_comm (first second : Stage) (keyed : root.WellKeyed) :
    (second.run (first.run root).value).value = (first.run (second.run root).value).value := by
  have afterFirst := first.keepsKeyed_run root keyed
  have afterSecond := second.keepsKeyed_run root keyed
  refine Entries.eq_of_get? (second.keepsKeyed_run _ afterFirst).distinct
    (keys_run_comm first second keyed) fun key => ?_
  rw [get?_run _ afterFirst, get?_run _ keyed, get?_run _ afterSecond, get?_run _ keyed,
    effect_comm first second (keyed.keyedValue key)]

/-- Sorting puts the changes to the records in another order. -/
theorem itemChanges_sorted (rule : Record → Revision Record) (value : Option Json) :
    (itemChanges rule (value.map sortedItems)).Perm (itemChanges rule value) := by
  rcases value with _ | value
  · exact .refl _
  · cases value with
    | array items =>
      exact ((stablySorted_sortByLabel items).perm.filterMap record?).flatMap_right _
    | _ => exact .refl _

/-- The changes of a stage, from what it finds under its keys. -/
def told (found : String → Option Json) : Stage → List Change
  | collections =>
    Collection.all.flatMap fun collection => itemChanges reconcileSimple (found collection.key)
  | systems => itemChanges fixSystem (found systemsKey)
  | labels => []
  | options => optionChanges (found optionsKey)

theorem changes_run (stage : Stage) (root : Record) :
    (stage.run root).changes = stage.told root.get? := by
  cases stage with
  | collections => exact changes_reconcileEach (by decide) root
  | systems => exact changes_under _ _ _ root
  | labels => rfl
  | options => exact changes_mergeOptions root

/-- A stage tells the same after another one, at most in another order. -/
theorem changes_run_after {first second : Stage} (apart : first ≠ second)
    (keyed : root.WellKeyed) :
    (second.run (first.run root).value).changes.Perm (second.run root).changes := by
  rw [changes_run, changes_run, funext (get?_run first keyed)]
  cases second with
  | collections =>
    refine List.Perm.flatMap_left _ fun collection _ => ?_
    dsimp only
    have ours : collection.key ∈ keys collections :=
      List.mem_map_of_mem (Collection.mem_all collection)
    by_cases member : collection.key ∈ first.keys
    · rw [effect, if_pos member]
      rcases shared_key member ours with same | ⟨same, _⟩ | ⟨rfl, _⟩
      · exact absurd same apart
      · exact absurd same apart
      · exact itemChanges_sorted _ _
    · rw [effect_outside member]
  | systems =>
    have outside : systemsKey ∉ first.keys := by
      cases first with
      | systems => exact absurd rfl apart
      | _ => decide
    rw [told, told, effect_outside outside]
  | labels => exact .refl _
  | options =>
    have outside : optionsKey ∉ first.keys := by
      cases first with
      | options => exact absurd rfl apart
      | _ => decide
    rw [told, told, effect_outside outside]

/-- Two stages may be swapped. -/
theorem run_comm (first second : Stage) (keyed : root.WellKeyed) :
    Agree (first.run root >>= second.run) (second.run root >>= first.run) := by
  by_cases same : first = second
  · rw [same]
    exact .refl _
  · refine ⟨value_run_comm first second keyed, ?_⟩
    rw [changes_bind, changes_bind]
    have late := changes_run_after same keyed
    have early := changes_run_after (Ne.symm same) keyed
    exact (late.append_left _).trans (List.perm_append_comm.trans (early.symm.append_left _))

end Stage

/-- Takes the stages one after another and tells of all their changes. -/
def runStages : List Stage → Record → Revision Record
  | [], root => .keep root
  | stage :: later, root => do
    let root ← stage.run root
    runStages later root

theorem runStages_swap (first second : Stage) (later : List Stage) (keyed : root.WellKeyed) :
    Agree (runStages (first :: second :: later) root) (runStages (second :: first :: later) root) := by
  have swapped := (Stage.run_comm first second keyed).bind (.refl (runStages later _))
  simpa only [runStages, bind_assoc] using swapped

/-- The order of the stages does not matter. -/
theorem runStages_perm {order other : List Stage} (perm : order.Perm other)
    (keyed : root.WellKeyed) : Agree (runStages order root) (runStages other root) := by
  induction perm generalizing root with
  | nil => exact .refl _
  | cons stage _ ih => exact (Agree.refl _).bind (ih (stage.keepsKeyed_run root keyed))
  | swap first second later => exact runStages_swap second first later keyed
  | trans _ _ ih later => exact (ih keyed).trans (later keyed)

theorem normalizeRoot_stages (root : Record) :
    normalizeRoot root = renameKeys root >>= runStages Stage.all := by
  have sorting : ∀ root, mergeOptions (sortCollections root) =
      (Stage.labels.run root >>= Stage.options.run) :=
    fun root => (pure_bind (sortCollections root) mergeOptions).symm
  have last : ∀ root, (Stage.options.run root >>= Revision.keep) = Stage.options.run root :=
    fun root => bind_pure (Stage.options.run root)
  simp only [normalizeRoot, sorting, Stage.all, runStages, last]
  rfl

/-- After the renaming of the keys the stages may be taken in any order: the document is the same,
with its keys in the same places, and so is the report. -/
theorem normalize_anyOrder (keyed : root.WellKeyed) {order : List Stage}
    (complete : order.Perm Stage.all) :
    let staged := renameKeys root >>= runStages order
    Json.object staged.value = (normalize (.object root)).value ∧
      Report.ofChanges staged.changes = Report.ofChanges (normalize (.object root)).changes := by
  intro staged
  have keyedRenamed : (renameKeys root).value.WellKeyed := keepsKeyed_renameEach root keyed
  have agree := (Agree.refl (renameKeys root)).bind (runStages_perm complete keyedRenamed)
  rw [normalize_object, changes_normalize_object, normalizeRoot_stages]
  exact ⟨congrArg Json.object agree.value, agree.report⟩

theorem normalize_anyOrder_reversed :
    let root : Record := [
      ("options", .object [("siteName", .string "county")]),
      ("dirWatch", .array [.object [("_id", .ofNat 1)]]),
      ("tags", .array [.object [("_id", .ofNat 2), ("label", .string "law")],
        .object [("label", .string "fire")]])]
    let order := [Stage.options, .labels, .systems, .collections]
    let staged := renameKeys root >>= runStages order
    root.WellKeyed ∧ order.Perm Stage.all ∧
      Json.object staged.value = (normalize (.object root)).value ∧
        Report.ofChanges staged.changes = Report.ofChanges (normalize (.object root)).changes := by
  intro root order staged
  have keyed : root.WellKeyed := Json.wellKeyed_object.mp (by decide)
  have complete : order.Perm Stage.all := by decide
  exact ⟨keyed, complete, normalize_anyOrder keyed complete⟩

end Normalization

end ScannerConfig
