import Mathlib.Algebra.BigOperators.Group.List.Basic
import Mathlib.Algebra.GroupWithZero.Nat
import ScannerConfig.Proofs.Root

namespace ScannerConfig.Normalization

open Revision

variable {record root : Record}

/-- Which identifiers a simple record has decides what is told of it. -/
def simpleTells (record : Record) : Change → Bool
  | .idRenamed => record.has legacyIdKey && !record.has idKey
  | .idDiscarded => record.has legacyIdKey && record.has idKey
  | _ => false

def isMissingSites (system : Record) : Bool :=
  match system.get? sitesKey with
  | none | some .null => true
  | some _ => false

def systemTells (system : Record) : Change → Bool
  | .idRenamed => system.has legacyIdKey
  | .referenceExtracted =>
    system.has idKey && (system.has legacyIdKey || !system.has systemRefKey)
  | .sitesDefaulted => isMissingSites system
  | _ => false

/-- A unit whose `id` is read as its reference. -/
def hasLoneId (unit : Record) : Bool :=
  unit.has idKey && !unit.has unitRefKey && !unit.has legacyIdKey

def unitTells (unit : Record) : Change → Bool
  | .idRenamed => unit.has legacyIdKey && !unit.has idKey
  | .idDiscarded => unit.has legacyIdKey && unit.has idKey
  | .referenceExtracted => hasLoneId unit
  | _ => false

/-- A field that a unit is to be given: it is not there, and no `id` is read as it. -/
def isLacking (unit : Record) (field : String) : Bool :=
  !unit.has field && !(field == unitRefKey && hasLoneId unit)

/-- A talkgroup whose single group is a number. -/
def hasNumericGroup (talkgroup : Record) : Bool :=
  match talkgroup.get? groupIdKey with
  | some (.number _) => true
  | _ => false

def talkgroupTells (talkgroup : Record) : Change → Bool
  | .idRenamed =>
    talkgroup.has legacyIdKey && !(talkgroup.has idKey && talkgroup.has talkgroupRefKey)
  | .idDiscarded =>
    talkgroup.has legacyIdKey && (talkgroup.has idKey && talkgroup.has talkgroupRefKey)
  | .referenceExtracted => talkgroup.has idKey && !talkgroup.has talkgroupRefKey
  | .groupFolded => hasNumericGroup talkgroup
  | .groupDropped => talkgroup.has groupIdKey && !hasNumericGroup talkgroup
  | _ => false

/-- A rule that tells each kind of change once or not at all, as the fields call for. -/
def Tells (changes : Record → List Change) (tells : Record → Change → Bool) : Prop :=
  ∀ record, record.WellKeyed → ∀ change, (changes record).count change = (tells record change).toNat

theorem tells_simple : Tells (fun record => (reconcileSimple record).changes) simpleTells := by
  intro record keyed change
  dsimp only
  have separate : IsReference systemRefKey := by decide
  rw [(actsAs_simple separate).changes keyed]
  simp only [Identifiers.ofRecord]
  cases legacy : record.get? legacyIdKey <;> cases id : record.get? idKey <;> cases change <;>
    simp [Identifiers.simple, simpleTells, Entries.has, legacy, id]

theorem tells_system : Tells (fun system => (reconcileSystem system).changes ++
    if isMissingSites system then [.sitesDefaulted] else []) systemTells := by
  intro system keyed change
  dsimp only
  rw [actsAs_system.changes keyed]
  simp only [Identifiers.ofRecord]
  cases legacy : system.get? legacyIdKey <;> cases id : system.get? idKey <;>
    cases reference : system.get? systemRefKey <;> cases missing : isMissingSites system <;>
    cases change <;>
    simp [Identifiers.system, systemTells, Entries.has, legacy, id, reference, missing]

theorem tells_identifyUnit : Tells (fun unit => (identifyUnit unit).changes) unitTells := by
  intro unit keyed change
  dsimp only
  rw [actsAs_identifyUnit.changes keyed]
  simp only [Identifiers.ofRecord]
  cases legacy : unit.get? legacyIdKey <;> cases id : unit.get? idKey <;>
    cases reference : unit.get? unitRefKey <;> cases change <;>
    simp [Identifiers.unit, unitTells, hasLoneId, Entries.has, legacy, id, reference]

theorem tells_talkgroup : Tells (fun talkgroup => (reconcileTalkgroup talkgroup).changes) talkgroupTells := by
  intro talkgroup keyed change
  dsimp only
  rw [changes_reconcileTalkgroup keyed, List.count_append]
  have folded : (foldChanges (talkgroup.get? groupIdKey)).count change =
      (match change with
        | .groupFolded => hasNumericGroup talkgroup
        | .groupDropped => talkgroup.has groupIdKey && !hasNumericGroup talkgroup
        | _ => false).toNat := by
    rw [hasNumericGroup, Entries.has]
    rcases talkgroup.get? groupIdKey with _ | (_ | _ | _ | _ | _ | _) <;> cases change <;> rfl
  rw [folded]
  simp only [Identifiers.ofRecord]
  cases legacy : talkgroup.get? legacyIdKey <;> cases id : talkgroup.get? idKey <;>
    cases reference : talkgroup.get? talkgroupRefKey <;> cases change <;>
    simp [Identifiers.talkgroup, talkgroupTells, Entries.has, legacy, id, reference]

/-- The fields that a unit is given are those it lacks after its identifiers are settled. -/
theorem has_identifyUnit (keyed : record.WellKeyed) {field : String} (member : field ∈ unitFields) :
    (!(identifyUnit record).value.has field) = isLacking record field := by
  by_cases reference : field = unitRefKey
  · subst reference
    have fields := congrArg Identifiers.reference (actsAs_identifyUnit.value keyed)
    simp only [Identifiers.ofRecord] at fields
    rw [Entries.has, fields]
    cases legacy : record.get? legacyIdKey <;> cases id : record.get? idKey <;>
      cases reference : record.get? unitRefKey <;>
      simp [Identifiers.unit, isLacking, hasLoneId, Entries.has, legacy, id, reference]
  · have outside : field ∉ [legacyIdKey, idKey, unitRefKey] := by
      have others : ∀ field ∈ unitFields, field ≠ unitRefKey →
          field ∉ [legacyIdKey, idKey, unitRefKey] := by decide
      exact others field member reference
    rw [Entries.has, actsAs_identifyUnit.outside keyed field outside]
    simp [isLacking, Entries.has, reference]

theorem changes_reconcileUnit (keyed : record.WellKeyed) :
    (reconcileUnit record).changes = (identifyUnit record).changes ++
      (unitFields.filter (isLacking record)).map fun _ => .unitFieldSeeded := by
  have lacking : (unitFields.filter fun field => !(identifyUnit record).value.has field) =
      unitFields.filter (isLacking record) :=
    List.filter_congr fun _ member => has_identifyUnit keyed member
  rw [reconcileUnit_eq, changes_bind, changes_seedUnitFields (by decide), lacking]

theorem Tells.count_flatMap {changes : Record → List Change} {tells : Record → Change → Bool}
    {records : List Record} (told : Tells changes tells)
    (keyed : ∀ record ∈ records, record.WellKeyed) (change : Change) :
    (records.flatMap changes).count change = records.countP fun record => tells record change := by
  induction records with
  | nil => rfl
  | cons record records ih =>
    obtain ⟨here, later⟩ := List.forall_mem_cons.mp keyed
    rw [List.flatMap_cons, List.count_append, told record here change, ih later, List.countP_cons]
    cases tells record change <;> simp [Nat.add_comm]

theorem count_flatMap_append {α : Type} (records : List α) (first second : α → List Change)
    (change : Change) :
    (records.flatMap fun record => first record ++ second record).count change =
      (records.flatMap first).count change + (records.flatMap second).count change := by
  rw [← (List.flatMap_append_perm records first second).count_eq, List.count_append]

theorem countP_split {α : Type} (records : List α) (test other : α → Bool) :
    (records.countP fun record => test record && !other record) +
      (records.countP fun record => test record && other record) = records.countP test := by
  induction records with
  | nil => rfl
  | cons record records ih =>
    simp only [List.countP_cons]
    cases test record <;> cases other record <;> simp <;> omega

/-- The objects in the lists of a document that hold records, by kind. -/
structure Visited where
  simple : List Record
  systems : List Record
  units : List Record
  talkgroups : List Record

namespace Visited

def all (visited : Visited) : List Record :=
  visited.simple ++ visited.systems ++ visited.units ++ visited.talkgroups

/-- The records that systems hold under a key. -/
def inside (systems : List Record) (key : String) : List Record :=
  systems.flatMap fun system => recordsOf (system.get? key)

/-- Sites are simple records, wherever their system stands. -/
def ofRoot (root : Record) : Visited :=
  let systems := recordsOf (root.get? systemsKey)
  { simple := (Collection.all.flatMap fun collection => recordsOf (root.get? collection.key)) ++
      inside systems sitesKey
    systems
    units := inside systems unitsKey
    talkgroups := inside systems talkgroupsKey }

theorem keyed_inside {systems : List Record} (keyed : ∀ system ∈ systems, system.WellKeyed)
    (key : String) : ∀ record ∈ inside systems key, record.WellKeyed := by
  intro record member
  obtain ⟨system, there, found⟩ := List.mem_flatMap.mp member
  exact wellKeyed_of_mem_recordsOf ((keyed system there).keyedValue key) found

theorem keyed_simple (keyed : root.WellKeyed) :
    ∀ record ∈ (ofRoot root).simple, record.WellKeyed := by
  intro record member
  rcases List.mem_append.mp member with collection | site
  · obtain ⟨collection, _, found⟩ := List.mem_flatMap.mp collection
    exact wellKeyed_of_mem_recordsOf (keyed.keyedValue _) found
  · exact keyed_inside (fun _ => wellKeyed_of_mem_recordsOf (keyed.keyedValue _)) _ record site

/-- The changes in the records that systems hold under a key. -/
theorem flatMap_itemChanges (systems : List Record) (key : String)
    (rule : Record → Revision Record) :
    (systems.flatMap fun system => itemChanges rule (system.get? key)) =
      (inside systems key).flatMap fun record => (rule record).changes := by
  rw [inside, List.flatMap_assoc]
  rfl

theorem ofRoot_renamed (keyed : root.WellKeyed) :
    ofRoot (renameKeys root).value =
      { simple := (Collection.all.flatMap fun collection => recordsOf (collection.value? root)) ++
          inside (recordsOf (root.get? systemsKey)) sitesKey
        systems := recordsOf (root.get? systemsKey)
        units := inside (recordsOf (root.get? systemsKey)) unitsKey
        talkgroups := inside (recordsOf (root.get? systemsKey)) talkgroupsKey } := by
  have kept : (renameKeys root).value.get? systemsKey = root.get? systemsKey :=
    get?_renameEach_outside keyed separate_aliases (by decide) (by decide)
  simp only [ofRoot, get?_renameKeys_collection keyed, kept]

end Visited

theorem sitesChanges_eq (system : Record) :
    sitesChanges (system.get? sitesKey) =
      (if isMissingSites system then [.sitesDefaulted] else []) ++
        itemChanges reconcileSimple (system.get? sitesKey) := by
  rw [isMissingSites]
  rcases system.get? sitesKey with _ | (_ | _ | _ | _ | _ | _) <;> rfl

/-- What a system tells, sorted by the kind of record it is told of. -/
theorem changes_fixSystem_split {system : Record} (keyed : system.WellKeyed) :
    (fixSystem system).changes =
      ((reconcileSystem system).changes ++
        if isMissingSites system then [.sitesDefaulted] else []) ++
      (itemChanges reconcileSimple (system.get? sitesKey) ++
        (itemChanges reconcileUnit (system.get? unitsKey) ++
          itemChanges reconcileTalkgroup (system.get? talkgroupsKey))) := by
  rw [changes_fixSystem keyed, sitesChanges_eq, ← actsAs_system.changes keyed]
  simp only [List.append_assoc]

/-- How often a unit is given a field it lacks. -/
def seeded (units : List Record) : Nat :=
  (units.map fun unit => unitFields.countP (isLacking unit)).sum

theorem count_units {units : List Record} (keyed : ∀ unit ∈ units, unit.WellKeyed)
    (change : Change) :
    (units.flatMap fun unit => (reconcileUnit unit).changes).count change =
      (units.countP fun unit => unitTells unit change) +
        if change = .unitFieldSeeded then seeded units else 0 := by
  have apart := List.flatMap_congr fun unit member => changes_reconcileUnit (keyed unit member)
  have seeds : (units.flatMap fun unit => (unitFields.filter (isLacking unit)).map
      fun _ => Change.unitFieldSeeded).count change =
        if change = .unitFieldSeeded then seeded units else 0 := by
    rw [List.count_flatMap, seeded]
    split
    · rename_i same
      subst same
      simp [Function.comp_def, List.countP_eq_length_filter, List.map_const']
    · rename_i other
      simp [Function.comp_def, List.count_replicate, List.map_const', Ne.symm other]
  rw [apart, count_flatMap_append, tells_identifyUnit.count_flatMap keyed, seeds]

theorem count_renamedKeys (root : Record) (change : Change) :
    ((aliases.filter fun pair => root.has pair.1).map fun _ => Change.keyRenamed).count change =
      if change = .keyRenamed then (aliases.map Prod.fst).countP fun spelling => root.has spelling
      else 0 := by
  rw [List.map_const', List.count_replicate, List.countP_map, List.countP_eq_length_filter]
  cases change <;> rfl

/-- The options that a document gives: none of them where there is nothing or null. What is no
record gives no account of options at all. -/
def givenOptions : Option Json → Option Record
  | none | some .null => some []
  | some (.object options) => some options
  | some _ => none

def missingOptions (options : Option Json) : Nat :=
  (givenOptions options).elim 0 fun given => optionKeys.countP fun key => !given.has key

def leftoverOptions (options : Option Json) : Nat :=
  (givenOptions options).elim 0 fun given => obsoleteOptions.countP fun key => given.has key

theorem count_optionChanges {options : Option Json} (keyed : KeyedValue options)
    (change : Change) :
    (optionChanges options).count change =
      (if change = .optionFilled then missingOptions options else 0) +
        if change = .optionPruned then leftoverOptions options else 0 := by
  have completed : ∀ given : Record, given.WellKeyed →
      (completeOptions given).changes.count change =
        (if change = .optionFilled then optionKeys.countP fun key => !given.has key else 0) +
          if change = .optionPruned then obsoleteOptions.countP fun key => given.has key else 0 := by
    intro given keyed
    rw [changes_completeOptions keyed, List.count_append, List.map_const', List.map_const',
      List.count_replicate, List.count_replicate, optionKeys, List.countP_map,
      List.countP_eq_length_filter, List.countP_eq_length_filter]
    cases change <;> rfl
  rcases options with _ | value
  · exact completed [] .nil
  · cases value with
    | null => exact completed [] .nil
    | object given => exact completed given (Json.wellKeyed_object.mp (keyed _ rfl))
    | _ => cases change <;> rfl

/-- Every change of a normalization belongs to a key of the root, to a record that was visited
or to the options. -/
theorem count_changes_normalizeRoot (keyed : root.WellKeyed) (change : Change) :
    (normalizeRoot root).changes.count change =
      let visited := Visited.ofRoot (renameKeys root).value
      (if change = .keyRenamed then (aliases.map Prod.fst).countP fun spelling => root.has spelling
        else 0) +
        ((visited.simple.countP fun record => simpleTells record change) +
          (visited.systems.countP fun system => systemTells system change) +
          ((visited.units.countP fun unit => unitTells unit change) +
            if change = .unitFieldSeeded then seeded visited.units else 0) +
          (visited.talkgroups.countP fun talkgroup => talkgroupTells talkgroup change)) +
        ((if change = .optionFilled then missingOptions (root.get? optionsKey) else 0) +
          if change = .optionPruned then leftoverOptions (root.get? optionsKey) else 0) := by
  have keyedRenamed : (renameKeys root).value.WellKeyed := keepsKeyed_renameEach root keyed
  have keyedSimple := Visited.keyed_simple keyedRenamed
  have keyedSystems : ∀ system ∈ recordsOf (root.get? systemsKey), system.WellKeyed := fun _ =>
    wellKeyed_of_mem_recordsOf (keyed.keyedValue _)
  have keyedInside := Visited.keyed_inside keyedSystems
  have collections : (Collection.all.flatMap fun collection =>
      itemChanges reconcileSimple (collection.value? root)) =
        (Collection.all.flatMap fun collection => recordsOf (collection.value? root)).flatMap
          fun record => (reconcileSimple record).changes := by
    rw [List.flatMap_assoc]
    rfl
  have systems : itemChanges fixSystem (root.get? systemsKey) =
      (recordsOf (root.get? systemsKey)).flatMap fun system => _ :=
    List.flatMap_congr fun system member => changes_fixSystem_split (keyedSystems system member)
  have simple := tells_simple.count_flatMap keyedSimple change
  rw [Visited.ofRoot_renamed keyed] at simple ⊢
  rw [List.flatMap_append, List.count_append] at simple
  rw [changes_normalizeRoot keyed, collections, systems]
  simp only [List.count_append, count_flatMap_append, Visited.flatMap_itemChanges,
    count_renamedKeys, count_optionChanges (keyed.keyedValue optionsKey)]
  have own := tells_system.count_flatMap keyedSystems change
  rw [count_flatMap_append] at own
  rw [← simple, ← own, count_units (keyedInside unitsKey),
    tells_talkgroup.count_flatMap (keyedInside talkgroupsKey)]
  omega

/-- A report that counts what was there to rewrite: in the keys of the root, in the records that
are visited and in the options. -/
structure CountsRewrites (root : Record) (visited : Visited) (report : Report) : Prop where
  keys : report.count .keyRenamed = (aliases.map Prod.fst).countP fun spelling => root.has spelling
  identifiers : report.count .idRenamed + report.count .idDiscarded =
    visited.all.countP fun record => record.has legacyIdKey
  discarded : report.count .idDiscarded =
    ((visited.simple ++ visited.units).countP fun record =>
        record.has legacyIdKey && record.has idKey) +
      visited.talkgroups.countP fun talkgroup =>
        talkgroup.has legacyIdKey && (talkgroup.has idKey && talkgroup.has talkgroupRefKey)
  references : report.count .referenceExtracted =
    (visited.systems.countP fun system =>
        system.has idKey && (system.has legacyIdKey || !system.has systemRefKey)) +
      (visited.units.countP fun unit =>
        unit.has idKey && !unit.has unitRefKey && !unit.has legacyIdKey) +
      visited.talkgroups.countP fun talkgroup =>
        talkgroup.has idKey && !talkgroup.has talkgroupRefKey
  folded : report.count .groupFolded = visited.talkgroups.countP hasNumericGroup
  dropped : report.count .groupDropped = visited.talkgroups.countP fun talkgroup =>
    talkgroup.has groupIdKey && !hasNumericGroup talkgroup
  sites : report.count .sitesDefaulted = visited.systems.countP isMissingSites
  unitFields : report.count .unitFieldSeeded =
    (visited.units.map fun unit => unitFields.countP (isLacking unit)).sum
  filled : report.count .optionFilled = missingOptions (root.get? optionsKey)
  pruned : report.count .optionPruned = leftoverOptions (root.get? optionsKey)

/-- The report of a normalization counts exactly what was there to rewrite, with the records
found after the keys of the root are renamed. -/
theorem normalize_countsRewrites (keyed : (Json.object root).wellKeyed = true) :
    CountsRewrites root (Visited.ofRoot (renameKeys root).value)
      (Report.ofChanges (normalize (.object root)).changes) := by
  have counted := fun change =>
    count_changes_normalizeRoot (Json.wellKeyed_object.mp keyed) change
  rw [changes_normalize_object]
  generalize Visited.ofRoot (renameKeys root).value = visited at counted ⊢
  simp only [Report.ofChanges]
  constructor
  case identifiers =>
    -- Every record with a legacy identifier is told of once, renamed or discarded.
    have simple := countP_split visited.simple (·.has legacyIdKey) (·.has idKey)
    have units := countP_split visited.units (·.has legacyIdKey) (·.has idKey)
    have talkgroups := countP_split visited.talkgroups (·.has legacyIdKey)
      fun talkgroup => talkgroup.has idKey && talkgroup.has talkgroupRefKey
    simp [counted, simpleTells, systemTells, unitTells, talkgroupTells, Visited.all,
      -Bool.not_and]
    omega
  all_goals simp [counted, simpleTells, systemTells, unitTells, talkgroupTells, hasLoneId, seeded]

theorem normalize_countsRewrites_mixed :
    let root : Record := [
      ("apiKeys", .array [.object [("_id", .ofNat 1), ("id", .ofNat 2)], .null]),
      ("users", .array [.object [("_id", .ofNat 3)]]),
      ("systems", .array [.object [("_id", .ofNat 4), ("id", .ofNat 5), ("sites", .null),
        ("units", .array [.object [("id", .ofNat 8), ("unitTo", .null)]]),
        ("talkgroups", .array [.object [("_id", .ofNat 6), ("id", .ofNat 9), ("groupId", .ofNat 1)]])]]),
      ("options", .object [("tagsToggle", .bool true)])]
    let report := Report.ofChanges (normalize (.object root)).changes
    (Json.object root).wellKeyed = true ∧
      CountsRewrites root (Visited.ofRoot (renameKeys root).value) report ∧
        report.count .idRenamed = 3 ∧ report.count .unitFieldSeeded = 1 :=
  ⟨by decide, normalize_countsRewrites (by decide), by decide +kernel, by decide +kernel⟩

end ScannerConfig.Normalization
