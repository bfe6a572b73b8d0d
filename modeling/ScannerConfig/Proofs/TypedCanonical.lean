import ScannerConfig.Proofs.Settling
import ScannerConfig.Proofs.Tally
import ScannerConfig.Proofs.TypedView

namespace ScannerConfig

open Normalization Revision

/-- A record that shows what a view has of another record. -/
structure Viewed (view : RecordView) (record written : Record) : Prop where
  keyed : record.WellKeyed
  keyedWritten : written.WellKeyed
  found : ∀ key, Json.SameFound (written.get? key) (view.found key (record.get? key))

namespace Viewed

variable {view inner : RecordView} {record written : Record} {key : String}

theorem of_same (keyed : record.WellKeyed) (keyedWritten : written.WellKeyed)
    (same : (Json.object written).same (.object (view.apply record)) = true) :
    Viewed view record written := by
  refine ⟨keyed, keyedWritten, fun key => ?_⟩
  rw [← RecordView.get?_apply keyed.distinct]
  exact (Json.same_object keyedWritten.distinct (RecordView.distinct_apply keyed.distinct)).mp same key

theorem has_eq (viewed : Viewed view record written) (key : String) :
    written.has key = (view.found key (record.get? key)).isSome :=
  (viewed.found key).isSome_eq

/-- Under a key that is neither left out nor added there is something in both or in neither. -/
theorem has_plain (viewed : Viewed view record written) (key : String) (notNullable : key ∉ view.nullable)
    (noDefault : view.defaults.get? key = none) : written.has key = record.has key := by
  rw [viewed.has_eq, Entries.has]
  cases record.get? key <;> simp [RecordView.found, notNullable, noDefault]

/-- Of a key whose null is left out there is what is not null. -/
theorem has_nullable (viewed : Viewed view record written) (key : String) (nullable : key ∈ view.nullable)
    (noDefault : view.defaults.get? key = none) :
    written.has key = (record.get? key).any fun value => !value.isNull := by
  rw [viewed.has_eq]
  cases record.get? key with
  | none => simp [RecordView.found, noDefault]
  | some value => cases null : value.isNull <;> simp [RecordView.found, nullable, null]

/-- A key with a default is always there. -/
theorem has_default (viewed : Viewed view record written) (key : String) (notNullable : key ∉ view.nullable)
    {default : Json} (fallback : view.defaults.get? key = some default) :
    written.has key = true := by
  rw [viewed.has_eq]
  cases record.get? key <;> simp [RecordView.found, notNullable, fallback]

/-- The items of a list are viewed one by one. -/
theorem records_of_same {value other : Json} (keyed : value.wellKeyed = true)
    (keyedOther : other.wellKeyed = true) (same : other.same (inner.items value) = true) :
    List.Forall₂ (Viewed inner) (recordsOf (some value)) (recordsOf (some other)) := by
  cases value with
  | array values =>
    cases other with
    | array others =>
      have keyedEach := Json.wellKeyed_array.mp keyed
      have keyedOthers := Json.wellKeyed_array.mp keyedOther
      rw [RecordView.items, Json.same_array, List.forall₂_map_right_iff] at same
      simp only [recordsOf]
      clear keyed keyedOther
      induction same with
      | nil => exact .nil
      | @cons written item others values first _ ih =>
        obtain ⟨keyedHere, keyedLater⟩ := List.forall_mem_cons.mp keyedEach
        obtain ⟨keyedThere, keyedAfter⟩ := List.forall_mem_cons.mp keyedOthers
        have later := ih keyedLater keyedAfter
        cases item with
        | object record =>
          cases written with
          | object entries =>
            exact .cons (.of_same (Json.wellKeyed_object.mp keyedHere)
              (Json.wellKeyed_object.mp keyedThere) first) later
          | _ => simp [RecordView.item, Json.same] at first
        | _ =>
          cases written with
          | object entries => simp [RecordView.item, Json.same] at first
          | _ => exact later
    | _ => simp [RecordView.items, Json.same] at same
  | _ =>
    cases other with
    | array others => simp [RecordView.items, Json.same] at same
    | _ => exact .nil

/-- What a view shows of the records under a key. -/
theorem records (viewed : Viewed view record written) (inside : view.inside key = inner.items)
    (fallback : (view.defaults.get? key).getD (.array []) = .array []) :
    List.Forall₂ (Viewed inner) (recordsOf (record.get? key)) (recordsOf (written.get? key)) := by
  have found := viewed.found key
  have keyedFound := viewed.keyedWritten.keyedValue key
  have keyedValue := viewed.keyed.keyedValue key
  cases there : record.get? key with
  | none =>
    rw [there, RecordView.found] at found
    cases default : view.defaults.get? key with
    | none =>
      rw [default] at found
      cases missing : written.get? key with
      | none => exact .nil
      | some value => rw [missing] at found; cases found
    | some value =>
      rw [default, Option.getD_some] at fallback
      rw [default, fallback] at found
      cases put : written.get? key with
      | none => exact .nil
      | some other =>
        rw [put, Json.sameFound_some] at found
        cases other with
        | array items =>
          cases Json.same_array.mp found
          exact .nil
        | _ => exact .nil
  | some value =>
    rw [there, RecordView.found] at found
    split at found
    · rename_i dropped
      cases missing : written.get? key with
      | none =>
        cases value with
        | null => exact .nil
        | _ => simp [Json.isNull] at dropped
      | some other => rw [missing] at found; cases found
    · rw [inside] at found
      cases put : written.get? key with
      | none => rw [put] at found; cases found
      | some other =>
        rw [put, Json.sameFound_some] at found
        exact records_of_same (keyedValue value there) (keyedFound other put) found

end Viewed

section Records

variable {record written : Record}

/-- A record beside whose identifier the reference is null. -/
def losesReference (referenceKey : String) (record : Record) : Bool :=
  ((record.get? idKey).any fun id => !id.isNull) &&
    (record.get? referenceKey).any fun reference => reference.isNull

/-- Nothing is told of a record whose fields call for no change. -/
def Calm (tells : Record → Change → Bool) (record : Record) : Prop :=
  ∀ change, tells record change = false

theorem calm_simple_iff : Calm simpleTells record ↔ record.has legacyIdKey = false := by
  constructor
  · intro calm
    have renamed := calm .idRenamed
    have discarded := calm .idDiscarded
    simp only [simpleTells] at renamed discarded
    cases legacy : record.has legacyIdKey <;> simp_all
  · intro noLegacy change
    cases change <;> simp [simpleTells, noLegacy]

theorem calm_system_iff :
    Calm systemTells record ↔ record.has legacyIdKey = false ∧
      (record.has idKey = true → record.has systemRefKey = true) ∧
        isMissingSites record = false := by
  constructor
  · intro calm
    have noLegacy : record.has legacyIdKey = false := calm .idRenamed
    have extracted := calm .referenceExtracted
    simp only [systemTells, noLegacy, Bool.false_or] at extracted
    exact ⟨noLegacy, fun id => by simpa [id] using extracted, calm .sitesDefaulted⟩
  · rintro ⟨noLegacy, referenced, sites⟩ change
    cases id : record.has idKey <;> cases change <;>
      simp_all [systemTells]

theorem calm_talkgroup_iff :
    Calm talkgroupTells record ↔ record.has legacyIdKey = false ∧
      (record.has idKey = true → record.has talkgroupRefKey = true) ∧
        record.has groupIdKey = false := by
  constructor
  · intro calm
    have renamed := calm .idRenamed
    have discarded := calm .idDiscarded
    have extracted := calm .referenceExtracted
    have folded := calm .groupFolded
    have dropped := calm .groupDropped
    simp only [talkgroupTells] at renamed discarded extracted folded dropped
    refine ⟨?_, fun id => by simpa [id] using extracted, by simpa [folded] using dropped⟩
    cases legacy : record.has legacyIdKey <;> simp_all
  · rintro ⟨noLegacy, referenced, noGroup⟩ change
    have noNumber : hasNumericGroup record = false := by
      rw [hasNumericGroup, Entries.has_eq_false_iff.mp noGroup]
    cases id : record.has idKey <;> cases change <;>
      simp_all [talkgroupTells]

theorem calm_unit_of_fields (noLegacy : record.has legacyIdKey = false)
    (fields : ∀ field ∈ unitFields, record.has field = true) : Calm unitTells record := by
  intro change
  have reference := fields unitRefKey (by decide)
  cases change <;> simp [unitTells, hasLoneId, noLegacy, reference]

theorem noLegacy_of_calm_unit (calm : Calm unitTells record) : record.has legacyIdKey = false := by
  have renamed := calm .idRenamed
  have discarded := calm .idDiscarded
  simp only [unitTells] at renamed discarded
  cases legacy : record.has legacyIdKey <;> simp_all

theorem Viewed.calm_simple (viewed : Viewed Entity.view record written)
    (calm : Calm simpleTells record) : Calm simpleTells written := by
  rw [calm_simple_iff] at calm ⊢
  rw [viewed.has_plain legacyIdKey (by decide) rfl, calm]

theorem Viewed.unit_fields (viewed : Viewed (RadioUnit.view true) record written) :
    ∀ field ∈ unitFields, written.has field = true := by
  intro field member
  have notNullable : field ∉ (RadioUnit.view true).nullable :=
    ne_of_mem_of_not_mem member (by decide) ∘ List.mem_singleton.mp
  have fallback : ∀ field ∈ unitFields, (RadioUnit.view true).defaults.get? field = some .null := by
    simp [unitFields, RadioUnit.view, Entries.get?, unitRefKey]
  exact viewed.has_default field notNullable (fallback field member)

theorem Viewed.calm_unit (viewed : Viewed (RadioUnit.view true) record written)
    (calm : Calm unitTells record) : Calm unitTells written := by
  refine calm_unit_of_fields ?_ viewed.unit_fields
  rw [viewed.has_plain legacyIdKey (by decide) (by decide), noLegacy_of_calm_unit calm]

/-- A reference that is null is left out, and an identifier beside it is read as the reference. -/
theorem tells_extracted {referenceKey : String}
    (referenced : record.has idKey = true → record.has referenceKey = true)
    (id : written.has idKey = (record.get? idKey).any fun value => !value.isNull)
    (reference : written.has referenceKey =
      (record.get? referenceKey).any fun value => !value.isNull) :
    (written.has idKey && !written.has referenceKey) = losesReference referenceKey record := by
  rw [id, reference, losesReference]
  cases identified : record.get? idKey with
  | none => rfl
  | some value =>
    obtain ⟨other, there⟩ :=
      Entries.has_eq_true_iff.mp (referenced (Entries.has_eq_true_iff.mpr ⟨value, identified⟩))
    simp [there]

theorem isNull_of_same_null {value : Json} (same : Json.null.same value = true) :
    value.isNull = true := by
  cases value with
  | null => rfl
  | _ => simp [Json.same] at same

theorem Viewed.sites (viewed : Viewed (RadioSystem.view true) record written)
    (present : isMissingSites record = false) : isMissingSites written = false := by
  have found := viewed.found sitesKey
  rw [isMissingSites] at present ⊢
  cases there : record.get? sitesKey with
  | none => simp [there] at present
  | some value =>
    have notNull : ((RadioSystem.view true).inside sitesKey value).isNull = false := by
      cases value <;> simp_all [RadioSystem.view, RecordView.items, Json.isNull]
    rw [there, RecordView.found, if_neg fun dropped => absurd dropped.1 (by decide)] at found
    cases put : written.get? sitesKey with
    | none => rw [put] at found; cases found
    | some other =>
      rw [put, Json.sameFound_some] at found
      cases other with
      | null => 
        rw [isNull_of_same_null found] at notNull
        exact Bool.noConfusion notNull
      | _ => rfl

theorem Viewed.systemTells (viewed : Viewed (RadioSystem.view true) record written)
    (calm : Calm systemTells record) (change : Change) :
    systemTells written change =
      (change == .referenceExtracted && losesReference systemRefKey record) := by
  obtain ⟨noLegacy, referenced, sites⟩ := calm_system_iff.mp calm
  have legacy := viewed.has_plain legacyIdKey (by decide) (by decide)
  have extracted := tells_extracted referenced (viewed.has_nullable idKey (by decide) (by decide))
    (viewed.has_nullable systemRefKey (by decide) (by decide))
  rw [noLegacy] at legacy
  cases change with
  | referenceExtracted =>
    simpa [Normalization.systemTells, legacy] using extracted
  | sitesDefaulted => exact viewed.sites sites
  | idRenamed => exact legacy
  | _ => rfl

theorem Viewed.talkgroupTells (viewed : Viewed Talkgroup.view record written)
    (calm : Calm talkgroupTells record) (change : Change) :
    talkgroupTells written change =
      (change == .referenceExtracted && losesReference talkgroupRefKey record) := by
  obtain ⟨noLegacy, referenced, noGroup⟩ := calm_talkgroup_iff.mp calm
  have legacy := viewed.has_plain legacyIdKey (by decide) rfl
  have group := viewed.has_plain groupIdKey (by decide) rfl
  have extracted := tells_extracted referenced (viewed.has_nullable idKey (by decide) rfl)
    (viewed.has_nullable talkgroupRefKey (by decide) rfl)
  rw [noLegacy] at legacy
  rw [noGroup] at group
  have noNumber : hasNumericGroup written = false := by
    rw [hasNumericGroup, Entries.has_eq_false_iff.mp group]
  cases change with
  | referenceExtracted =>
    simpa [Normalization.talkgroupTells] using extracted
  | _ => simp [Normalization.talkgroupTells, legacy, group, noNumber]

end Records

section Lists

variable {view : RecordView} {records others : List Record}

theorem countP_viewed {test check : Record → Bool}
    (viewed : List.Forall₂ (Viewed view) records others)
    (each : ∀ record ∈ records, ∀ written, Viewed view record written → check written = test record) :
    others.countP check = records.countP test := by
  induction viewed with
  | nil => rfl
  | cons first _ ih =>
    obtain ⟨here, later⟩ := List.forall_mem_cons.mp each
    rw [List.countP_cons, List.countP_cons, ih later, here _ first]

theorem Calm.of_countP {tells : Record → Change → Bool}
    (none : ∀ change, (records.countP fun record => tells record change) = 0) :
    ∀ record ∈ records, Calm tells record := by
  intro record member change
  simpa using List.countP_eq_zero.mp (none change) record member

theorem countP_calm {tells : Record → Change → Bool} (calm : ∀ record ∈ records, Calm tells record)
    (change : Change) : (records.countP fun record => tells record change) = 0 :=
  List.countP_eq_zero.mpr fun record member => by simp [calm record member change]

/-- The records of a document as the typed view writes them. -/
structure Visited.Written (visited written : Visited) : Prop where
  simple : List.Forall₂ (Viewed Entity.view) visited.simple written.simple
  systems : List.Forall₂ (Viewed (RadioSystem.view true)) visited.systems written.systems
  units : List.Forall₂ (Viewed (RadioUnit.view true)) visited.units written.units
  talkgroups : List.Forall₂ (Viewed Talkgroup.view) visited.talkgroups written.talkgroups

theorem Visited.inside_viewed {inner : RecordView} {key : String}
    (viewed : List.Forall₂ (Viewed view) records others) (inside : view.inside key = inner.items)
    (fallback : (view.defaults.get? key).getD (.array []) = .array []) :
    List.Forall₂ (Viewed inner) (Visited.inside records key) (Visited.inside others key) := by
  induction viewed with
  | nil => exact .nil
  | cons first _ ih => exact List.rel_append (first.records inside fallback) ih

theorem seeded_viewed {units others : List Record}
    (viewed : List.Forall₂ (Viewed (RadioUnit.view true)) units others) : seeded others = 0 := by
  induction viewed with
  | nil => rfl
  | @cons unit written _ _ first _ ih =>
    have none : unitFields.countP (isLacking written) = 0 := by
      refine List.countP_eq_zero.mpr fun field member => ?_
      simp [isLacking, first.unit_fields field member]
    rw [seeded] at ih ⊢
    rw [List.map_cons, List.sum_cons, none, ih]

theorem Visited.written {root written : Record}
    (viewed : Viewed (Configuration.view true) root written) :
    Visited.Written (Visited.ofRoot root) (Visited.ofRoot written) := by
  have inside : (Configuration.view true).inside systemsKey = (RadioSystem.view true).items := by
    have noCollection : systemsKey ∉ Collection.all.map Collection.key := by decide
    simp only [Configuration.view, if_neg noCollection, if_true]
  have systems : List.Forall₂ (Viewed (RadioSystem.view true))
      (recordsOf (root.get? systemsKey)) (recordsOf (written.get? systemsKey)) :=
    viewed.records inside rfl
  refine ⟨List.rel_append ?_ (inside_viewed systems rfl rfl), systems, inside_viewed systems rfl rfl,
    inside_viewed systems rfl rfl⟩
  have each : ∀ collection : Collection, List.Forall₂ (Viewed Entity.view)
      (recordsOf (root.get? collection.key)) (recordsOf (written.get? collection.key)) := by
    intro collection
    have known := List.mem_map_of_mem (f := Collection.key) (Collection.mem_all collection)
    exact viewed.records (by simp only [Configuration.view, if_pos known]) (by cases collection <;> rfl)
  induction Collection.all with
  | nil => exact .nil
  | cons collection collections ih => exact List.rel_append (each collection) ih

end Lists

section Documents

variable {root written : Record}

/-- How many systems and talkgroups of a document have an identifier beside a null reference. -/
def nullReferences (document : Json) : Nat :=
  (systemsOf document).countP (losesReference systemRefKey) +
    ((systemsOf document).flatMap talkgroupsOf).countP (losesReference talkgroupRefKey)

/-- Equal options lack the same options and have the same obsolete ones. -/
theorem options_of_same {options others : Json} (keyed : options.wellKeyed = true)
    (keyedOthers : others.wellKeyed = true) (same : others.same options = true) :
    missingOptions (some others) = missingOptions (some options) ∧
      leftoverOptions (some others) = leftoverOptions (some options) := by
  cases options with
  | object given =>
    cases others with
    | object found =>
      have keys := Json.isSome_of_same (Json.wellKeyed_object.mp keyedOthers).distinct
        (Json.wellKeyed_object.mp keyed).distinct same
      simp only [missingOptions, leftoverOptions, givenOptions, Option.elim_some, Entries.has, keys]
      trivial
    | _ => simp [Json.same] at same
  | _ =>
    cases others with
    | null | object => simp_all [Json.same]
    | _ => simp_all [Json.same, missingOptions, leftoverOptions, givenOptions]

/-- A pass over a document in which no older spelling stands visits it as it is. -/
theorem visited_renamed (keyed : root.WellKeyed)
    (noSpelling : ((aliases.map Prod.fst).countP fun spelling => root.has spelling) = 0) :
    (renameKeys root).value = root := by
  refine accounted_renameEach root ?_
  rw [changes_renameEach keyed separate_aliases, List.map_eq_nil_iff, List.filter_eq_nil_iff]
  exact fun pair member =>
    List.countP_eq_zero.mp noSpelling pair.1 (List.mem_map_of_mem member)

theorem isSome_options_of_complete {options : Option Json} (complete : missingOptions options = 0) :
    ∃ value, options = some value := by
  cases options with
  | none => exact absurd complete (by decide)
  | some value => exact ⟨value, rfl⟩

/-- A root in which nothing calls for a change. -/
structure CalmRoot (root : Record) : Prop where
  noSpelling : ((aliases.map Prod.fst).countP fun spelling => root.has spelling) = 0
  simple : ∀ record ∈ (Visited.ofRoot root).simple, Calm simpleTells record
  systems : ∀ system ∈ (Visited.ofRoot root).systems, Calm systemTells system
  units : ∀ unit ∈ (Visited.ofRoot root).units, Calm unitTells unit
  talkgroups : ∀ talkgroup ∈ (Visited.ofRoot root).talkgroups, Calm talkgroupTells talkgroup
  missing : missingOptions (root.get? optionsKey) = 0
  leftover : leftoverOptions (root.get? optionsKey) = 0

theorem calmRoot_of_silent (keyed : root.WellKeyed) (silent : (normalizeRoot root).changes = []) :
    CalmRoot root := by
  have counted := fun change => count_changes_normalizeRoot keyed change
  simp only [silent, List.count_nil] at counted
  have noSpelling : ((aliases.map Prod.fst).countP fun spelling => root.has spelling) = 0 := by
    have keys := counted .keyRenamed
    simp only [if_true] at keys
    omega
  have missing : missingOptions (root.get? optionsKey) = 0 := by
    have filled := counted .optionFilled
    simp only [if_true] at filled
    omega
  have leftover : leftoverOptions (root.get? optionsKey) = 0 := by
    have pruned := counted .optionPruned
    simp only [if_true] at pruned
    omega
  rw [visited_renamed keyed noSpelling] at counted
  refine ⟨noSpelling, ?_, ?_, ?_, ?_, missing, leftover⟩ <;> refine Calm.of_countP fun change => ?_ <;>
    have none := counted change <;> omega

theorem CalmRoot.viewed (viewed : Viewed (Configuration.view true) root written) (calm : CalmRoot root) :
    (∀ spelling ∈ aliases.map Prod.fst, written.has spelling = root.has spelling) ∧
      missingOptions (written.get? optionsKey) = 0 ∧ leftoverOptions (written.get? optionsKey) = 0 := by
  constructor
  · intro spelling member
    have noDefault : (Configuration.view true).defaults.get? spelling = none := by
      rw [Entries.get?_eq_none_iff]
      exact fun inside => absurd member (List.mem_singleton.mp inside ▸ by decide)
    exact viewed.has_plain spelling (fun inside => absurd member (by revert inside; revert spelling; decide)) noDefault
  · obtain ⟨options, given⟩ := isSome_options_of_complete calm.missing
    have found := viewed.found optionsKey
    have same : (Configuration.view true).found optionsKey (some options) = some options := by
      have notNullable : optionsKey ∉ (Configuration.view true).nullable := by decide
      have inside : (Configuration.view true).inside optionsKey options = options := by
        have noCollection : optionsKey ∉ Collection.all.map Collection.key := by decide
        have noSystems : optionsKey ≠ systemsKey := by decide
        simp only [Configuration.view, if_neg noCollection, if_neg noSystems]
      simp [RecordView.found, notNullable, inside]
    rw [given, same] at found
    cases put : written.get? optionsKey with
    | none => rw [put] at found; cases found
    | some others =>
      rw [put, Json.sameFound_some] at found
      obtain ⟨missing, leftover⟩ := options_of_same (viewed.keyed.value given)
        (viewed.keyedWritten.value put) found
      rw [missing, leftover, ← given]
      exact ⟨calm.missing, calm.leftover⟩

/-- What normalization tells of a canonical root after it went through its typed view. -/
theorem count_changes_viewed (viewed : Viewed (Configuration.view true) root written)
    (silent : (normalizeRoot root).changes = []) (change : Change) :
    (normalizeRoot written).changes.count change =
      if change = .referenceExtracted then nullReferences (.object root) else 0 := by
  have calm := calmRoot_of_silent viewed.keyed silent
  obtain ⟨keys, missing, leftover⟩ := calm.viewed viewed
  obtain ⟨simple, systems, units, talkgroups⟩ := Visited.written viewed
  have noSpelling : ((aliases.map Prod.fst).countP fun spelling => written.has spelling) = 0 := by
    rw [← calm.noSpelling]
    exact List.countP_congr fun spelling member => by rw [keys spelling member]
  have inSimple : ((Visited.ofRoot written).simple.countP fun record => simpleTells record change) = 0 := by
    rw [countP_viewed simple fun record member _ viewed => ?_, countP_calm calm.simple change]
    rw [viewed.calm_simple (calm.simple record member), calm.simple record member]
  have inUnits : ((Visited.ofRoot written).units.countP fun unit => unitTells unit change) = 0 := by
    rw [countP_viewed units fun unit member _ viewed => ?_, countP_calm calm.units change]
    rw [viewed.calm_unit (calm.units unit member), calm.units unit member]
  have seeds := seeded_viewed units
  have inSystems : ((Visited.ofRoot written).systems.countP fun system => systemTells system change) =
      if change = .referenceExtracted then
        (systemsOf (.object root)).countP (losesReference systemRefKey) else 0 := by
    rw [countP_viewed systems fun system member _ viewed =>
      viewed.systemTells (calm.systems system member) change]
    cases change <;> simp [systemsOf, Visited.ofRoot]
  have inTalkgroups : ((Visited.ofRoot written).talkgroups.countP fun talkgroup =>
      talkgroupTells talkgroup change) =
      if change = .referenceExtracted then
        ((systemsOf (.object root)).flatMap talkgroupsOf).countP (losesReference talkgroupRefKey)
      else 0 := by
    have visited : (Visited.ofRoot root).talkgroups =
        (systemsOf (.object root)).flatMap talkgroupsOf := rfl
    rw [countP_viewed talkgroups fun talkgroup member _ viewed =>
      viewed.talkgroupTells (calm.talkgroups talkgroup member) change, visited]
    cases change <;> simp
  rw [count_changes_normalizeRoot viewed.keyedWritten, visited_renamed viewed.keyedWritten noSpelling]
  simp only [noSpelling, inSimple, inUnits, seeds, inSystems, inTalkgroups, missing, leftover,
    nullReferences, ite_self]
  split <;> omega

theorem isEmpty_of_counts {changes : List Change} {references : Nat}
    (counts : ∀ change, changes.count change = if change = .referenceExtracted then references else 0) :
    (Report.ofChanges changes).isEmpty = true ↔ references = 0 := by
  simp only [Report.isEmpty, Report.ofChanges, List.all_eq_true, beq_iff_eq, counts]
  constructor
  · intro empty
    exact empty .referenceExtracted (Change.mem_all _)
  · rintro rfl change _
    exact ite_self 0

theorem exists_of_toOption {fault α : Type} {result : Except fault α}
    (readable : result.toOption.isSome = true) : ∃ value, result = .ok value := by
  cases result with
  | error fault => exact Bool.noConfusion readable
  | ok value => exact ⟨value, rfl⟩

/-- What normalization tells of the written typed view of a canonical document. -/
theorem count_changes_toJson {document : Json} {config : Configuration}
    (keyed : document.wellKeyed = true) (silent : (normalize document).changes = [])
    (read : Configuration.ofJson document = .ok config) (change : Change) :
    (normalize config.toJson).changes.count change =
      if change = .referenceExtracted then nullReferences document else 0 := by
  obtain ⟨keyedWritten, same, _⟩ := Configuration.restates keyed read
  cases document with
  | object root =>
    rw [changes_normalize_object] at silent
    have written : ∃ entries, config.toJson = .object entries := ⟨_, rfl⟩
    obtain ⟨entries, entriesEq⟩ := written
    rw [entriesEq] at keyedWritten same ⊢
    rw [changes_normalize_object]
    exact count_changes_viewed (.of_same (Json.wellKeyed_object.mp keyed)
      (Json.wellKeyed_object.mp keyedWritten) same) silent change
  | _ => simp [Configuration.ofJson, ShapeError.asRecord, ShapeError.mismatch, bind, Except.bind] at read

/-- The typed view of a canonical document is written as a canonical document, but for the
identifiers that stand beside a null reference: each of those is read as the reference. -/
theorem normalize_restated {document : Json} {config : Configuration}
    (keyed : document.wellKeyed = true)
    (canonical : (Report.ofChanges (normalize document).changes).isEmpty = true)
    (read : Configuration.ofJson document = .ok config) :
    (∀ change, (Report.ofChanges (normalize config.toJson).changes).count change =
        if change = .referenceExtracted then nullReferences document else 0) ∧
      ((Report.ofChanges (normalize config.toJson).changes).isEmpty = true ↔
        nullReferences document = 0) := by
  have counts := count_changes_toJson keyed (Report.isEmpty_ofChanges.mp canonical) read
  exact ⟨counts, isEmpty_of_counts counts⟩

theorem normalize_restated_county :
    let document : Json := .object [
      ("systems", .array [.object [("id", .ofNat 3), ("systemRef", .ofNat 42), ("sites", .array []),
        ("units", .array [.object [("unitRef", .null), ("unitFrom", .null), ("unitTo", .null)]]),
        ("talkgroups", .array [.object [("id", .ofNat 5), ("talkgroupRef", .null)]])]]),
      ("options", .object defaultOptions)]
    document.wellKeyed = true ∧ (Report.ofChanges (normalize document).changes).isEmpty = true ∧
      nullReferences document = 1 ∧ ∃ config, Configuration.ofJson document = .ok config ∧
        (∀ change, (Report.ofChanges (normalize config.toJson).changes).count change =
          if change = .referenceExtracted then nullReferences document else 0) ∧
        ((Report.ofChanges (normalize config.toJson).changes).isEmpty = true ↔
          nullReferences document = 0) := by
  intro document
  have keyed : document.wellKeyed = true := by decide
  have canonical : (Report.ofChanges (normalize document).changes).isEmpty = true := by
    decide +kernel
  have readable : (Configuration.ofJson document).toOption.isSome = true := by decide +kernel
  obtain ⟨config, read⟩ := exists_of_toOption readable
  exact ⟨keyed, canonical, by decide, config, read, normalize_restated keyed canonical read⟩

/-- A canonical document whose typed view is not canonical when it is written. -/
theorem nullReference_lost :
    let document : Json := .object [
      ("systems", .array [.object [("id", .ofNat 1), ("systemRef", .null), ("sites", .array [])]]),
      ("options", .object defaultOptions)]
    (Report.ofChanges (normalize document).changes).isEmpty = true ∧
      ∃ config, Configuration.ofJson document = .ok config ∧
        (Report.ofChanges (normalize config.toJson).changes).isEmpty = false := by
  intro document
  have keyed : document.wellKeyed = true := by decide
  have canonical : (Report.ofChanges (normalize document).changes).isEmpty = true := by
    decide +kernel
  have readable : (Configuration.ofJson document).toOption.isSome = true := by decide +kernel
  obtain ⟨config, read⟩ := exists_of_toOption readable
  have counts := count_changes_toJson keyed (Report.isEmpty_ofChanges.mp canonical) read
  have one : nullReferences document = 1 := by decide
  refine ⟨canonical, config, read, Bool.eq_false_iff.mpr fun empty => ?_⟩
  rw [isEmpty_of_counts counts, one] at empty
  exact Nat.one_ne_zero empty

end Documents

end ScannerConfig
