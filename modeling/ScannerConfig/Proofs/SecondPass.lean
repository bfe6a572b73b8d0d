import ScannerConfig.Proofs.Systems

namespace ScannerConfig.Normalization

open Revision

section Tables

namespace Identifiers

/-- The legacy identifier of a record that has neither `id` nor a reference. -/
def bare? : Identifiers → Option Json
  | ⟨legacy, none, none⟩ => legacy
  | _ => none

theorem changes_simple_again (fields : Identifiers) : fields.simple.value.simple.changes = [] := by
  rcases fields with ⟨_ | _, _ | _, _⟩ <;> rfl

theorem changes_system_again (fields : Identifiers) :
    fields.system.value.system.changes =
      if fields.bare?.isSome then [.referenceExtracted] else [] := by
  rcases fields with ⟨_ | _, _ | _, _ | _⟩ <;> rfl

theorem changes_system_third (fields : Identifiers) :
    fields.system.value.system.value.system.changes = [] := by
  rcases fields with ⟨_ | _, _ | _, _ | _⟩ <;> rfl

theorem system_of_bare {fields : Identifiers} {id : Json} (bare : fields.bare? = some id) :
    fields.system.value = ⟨none, some id, none⟩ := by
  rcases fields with ⟨_ | _, _ | _, _ | _⟩ <;> simp_all [bare?, system]

theorem changes_talkgroup_again (fields : Identifiers) :
    fields.talkgroup.value.talkgroup.changes =
      if fields.bare?.isSome then [.referenceExtracted] else [] := by
  rcases fields with ⟨_ | _, _ | _, _ | _⟩ <;> rfl

theorem changes_talkgroup_third (fields : Identifiers) :
    fields.talkgroup.value.talkgroup.value.talkgroup.changes = [] := by
  rcases fields with ⟨_ | _, _ | _, _ | _⟩ <;> rfl

theorem talkgroup_of_bare {fields : Identifiers} {id : Json} (bare : fields.bare? = some id) :
    fields.talkgroup.value = ⟨none, some id, none⟩ := by
  rcases fields with ⟨_ | _, _ | _, _ | _⟩ <;> simp_all [bare?, talkgroup]

end Identifiers

end Tables

section Records

variable {referenceKey : String} {record : Record} {id : Json}

/-- What a record holds that has a legacy identifier but neither `id` nor a reference. -/
def bareId? (referenceKey : String) (record : Record) : Option Json :=
  (Identifiers.ofRecord referenceKey record).bare?

/-- The record with an identifier under `id` and without a reference. -/
def holdId (referenceKey : String) (id : Json) (record : Record) : Record :=
  (record.erase referenceKey).insert idKey id

/-- The record with an identifier in the reference field and without `id`. -/
def holdReference (referenceKey : String) (id : Json) (record : Record) : Record :=
  (record.erase idKey).insert referenceKey id

/-- Puts the identifier of a bare record into what has become of it. -/
def atBare (referenceKey : String) (put : String → Json → Record → Record)
    (before after : Record) : Record :=
  match bareId? referenceKey before with
  | some id => put referenceKey id after
  | none => after

theorem holdId_of_fields (fields : Identifiers.ofRecord referenceKey record = ⟨none, some id, none⟩) :
    holdId referenceKey id record = record := by
  have noReference : record.get? referenceKey = none := congrArg Identifiers.reference fields
  have found : record.get? idKey = some id := congrArg Identifiers.id fields
  rw [holdId, Entries.erase_of_get?_none noReference, Entries.insert_of_get? found]

/-- Where what has become of a bare record holds the identifier already, nothing is put. -/
theorem atBare_holdId {before after : Record}
    (fields : ∀ id, bareId? referenceKey before = some id →
      Identifiers.ofRecord referenceKey after = ⟨none, some id, none⟩) :
    atBare referenceKey holdId before after = after := by
  cases bare : bareId? referenceKey before with
  | none => rw [atBare, bare]
  | some id => simp only [atBare, bare, holdId_of_fields (fields id bare)]

theorem extractReference_of_fields
    (fields : Identifiers.ofRecord referenceKey record = ⟨none, some id, none⟩) :
    (if record.has idKey && !record.has referenceKey then extractReference referenceKey record
      else .keep record) = .changed .referenceExtracted (holdReference referenceKey id record) := by
  have noReference : record.get? referenceKey = none := congrArg Identifiers.reference fields
  have found : record.get? idKey = some id := congrArg Identifiers.id fields
  rw [Entries.has, Entries.has, noReference, found, extractReference,
    Entries.pop?_of_get?_some found]
  rfl

theorem keyed_holdReference (referenceKey : String) (keyed : record.WellKeyed)
    (found : record.get? idKey = some id) : (holdReference referenceKey id record).WellKeyed :=
  (keyed.erase idKey).insert referenceKey (keyed.value found)

theorem reconcileSystem_of_lone_id
    (fields : Identifiers.ofRecord systemRefKey record = ⟨none, some id, none⟩) :
    (reconcileSystem record).value = holdReference systemRefKey id record := by
  have noLegacy : record.get? legacyIdKey = none := congrArg Identifiers.legacy fields
  rw [reconcileSystem_of_no_legacyId noLegacy, extractReference_of_fields fields]
  rfl

theorem reconcileTalkgroup_of_lone_id (keyed : record.WellKeyed)
    (fields : Identifiers.ofRecord talkgroupRefKey record = ⟨none, some id, none⟩)
    (noGroup : record.get? groupIdKey = none) :
    (reconcileTalkgroup record).value = holdReference talkgroupRefKey id record := by
  have separate : IsReference talkgroupRefKey := by decide
  have extracted : Identifiers.ofRecord talkgroupRefKey (holdReference talkgroupRefKey id record) =
      ⟨none, none, some id⟩ := by
    rw [holdReference, ofRecord_insert_reference separate, ofRecord_erase_id keyed separate, fields]
  have keyedAfter := keyed_holdReference talkgroupRefKey keyed (congrArg Identifiers.id fields)
  -- After the extraction neither a legacy identifier nor a single group is left to act on.
  have later := (actsAs_rename separate).bind (actsAs_discard separate)
  have silent : (renameLegacyId (holdReference talkgroupRefKey id record) >>=
      discardLegacyId).changes = [] := by
    rw [later.changes keyedAfter, extracted]
    rfl
  have noGroupAfter : (holdReference talkgroupRefKey id record).get? groupIdKey = none := by
    rw [holdReference, Entries.get?_insert, if_neg (by decide), Entries.get?_erase keyed.distinct,
      if_neg (by decide), noGroup]
  have folded : (foldGroup (holdReference talkgroupRefKey id record)).changes = [] := by
    rw [changes_foldGroup, noGroupAfter]
    rfl
  have unchanged : (renameLegacyId (holdReference talkgroupRefKey id record) >>=
      discardLegacyId).value = holdReference talkgroupRefKey id record := later.accounted _ silent
  rw [value_bind] at unchanged
  rw [reconcileTalkgroup_eq, identifyTalkgroup, extractReference_of_fields fields]
  simp only [value_bind, value_changed, unchanged]
  exact accounted_foldGroup _ folded

theorem changes_reconcileSimple_again (keyed : record.WellKeyed) :
    (reconcileSimple (reconcileSimple record).value).changes = [] := by
  have acts := actsAs_simple (by decide : IsReference systemRefKey)
  rw [acts.changes (acts.keepsKeyed record keyed), acts.value keyed,
    Identifiers.changes_simple_again]

theorem changes_reconcileUnit_again (keyed : record.WellKeyed) :
    (reconcileUnit (reconcileUnit record).value).changes = [] := by
  rw [changes_reconcileUnit_eq_nil (keepsKeyed_reconcileUnit record keyed)]
  refine ⟨get?_legacyId_reconcileUnit keyed, fun field member => ?_⟩
  rw [Entries.has, get?_reconcileUnit, if_pos member, Option.isSome_some]

theorem changes_reconcileTalkgroup_again (keyed : record.WellKeyed) :
    (reconcileTalkgroup (reconcileTalkgroup record).value).changes =
      if (bareId? talkgroupRefKey record).isSome then [.referenceExtracted] else [] := by
  rw [changes_reconcileTalkgroup (keepsKeyed_reconcileTalkgroup record keyed),
    ofRecord_reconcileTalkgroup keyed, get?_reconcileTalkgroup keyed, if_pos rfl,
    Identifiers.changes_talkgroup_again]
  exact List.append_nil _

theorem changes_reconcileTalkgroup_third (keyed : record.WellKeyed) :
    (reconcileTalkgroup (reconcileTalkgroup (reconcileTalkgroup record).value).value).changes =
      [] := by
  have first := keepsKeyed_reconcileTalkgroup record keyed
  have second := keepsKeyed_reconcileTalkgroup _ first
  rw [changes_reconcileTalkgroup second, ofRecord_reconcileTalkgroup first,
    ofRecord_reconcileTalkgroup keyed, get?_reconcileTalkgroup first, if_pos rfl,
    Identifiers.changes_talkgroup_third]
  rfl

/-- A bare talkgroup holds its identifier under `id` after the first pass. -/
theorem atBare_holdId_reconcileTalkgroup (keyed : record.WellKeyed) :
    atBare talkgroupRefKey holdId record (reconcileTalkgroup record).value =
      (reconcileTalkgroup record).value :=
  atBare_holdId fun _ bare =>
    (ofRecord_reconcileTalkgroup keyed).trans (Identifiers.talkgroup_of_bare bare)

/-- The second pass moves the identifier of a bare talkgroup to the reference field. -/
theorem reconcileTalkgroup_again (keyed : record.WellKeyed) :
    (reconcileTalkgroup (reconcileTalkgroup record).value).value =
      atBare talkgroupRefKey holdReference record (reconcileTalkgroup record).value := by
  cases bare : bareId? talkgroupRefKey record with
  | none =>
    have silent := changes_reconcileTalkgroup_again keyed
    rw [bare] at silent
    rw [atBare, bare]
    exact accounted_reconcileTalkgroup _ silent
  | some id =>
    have fields := ofRecord_reconcileTalkgroup keyed
    rw [Identifiers.talkgroup_of_bare bare] at fields
    have noGroup : (reconcileTalkgroup record).value.get? groupIdKey = none := by
      rw [get?_reconcileTalkgroup keyed, if_pos rfl]
    rw [atBare, bare]
    exact reconcileTalkgroup_of_lone_id (keepsKeyed_reconcileTalkgroup record keyed) fields noGroup

end Records

section Lists

/-- Combines an object with what has become of it. -/
def zipObjects (combine : Record → Record → Record) : Json → Json → Json
  | .object before, .object after => .object (combine before after)
  | _, after => after

/-- Combines the records of a list, place by place. -/
def zipItems (combine : Record → Record → Record) : Json → Json → Json
  | .array before, .array after => .array (List.zipWith (zipObjects combine) before after)
  | _, after => after

/-- Combines the records that stand under a key. -/
def zipUnder (key : String) (combine : Record → Record → Record) (before after : Record) : Record :=
  match before.get? key, after.get? key with
  | some earlier, some later => after.insert key (zipItems combine earlier later)
  | _, _ => after

variable {key : String} {rule : Record → Revision Record} {combine : Record → Record → Record}

theorem changes_revisedItems (again : Record → Revision Record) {value : Option Json}
    (keyed : KeyedValue value)
    (silent : ∀ record, record.WellKeyed → (again (rule record).value).changes = []) :
    itemChanges again (value.map (revisedItems rule)) = [] := by
  rw [itemChanges, recordsOf_revisedItems, List.flatMap_map, List.flatMap_eq_nil_iff]
  exact fun record member => silent record (wellKeyed_of_mem_recordsOf keyed member)

theorem zipItems_revisedItems (again : Record → Revision Record) {value : Json} (keyed : value.wellKeyed = true)
    (same : ∀ record, record.WellKeyed →
      combine record (rule record).value = (again (rule record).value).value) :
    zipItems combine value (revisedItems rule value) =
      revisedItems again (revisedItems rule value) := by
  cases value with
  | array items =>
    simp only [zipItems, revisedItems, List.map_map, List.zipWith_map_right, List.zipWith_self]
    refine congrArg Json.array (List.map_congr_left fun item member => ?_)
    have keyedItem := Json.wellKeyed_array.mp keyed item member
    cases item with
    | object record => exact congrArg Json.object (same record (Json.wellKeyed_object.mp keyedItem))
    | _ => rfl
  | _ => rfl

/-- A rule for the records under a key, applied to what an earlier one has left there. -/
theorem zipUnder_eq_under (again : Record → Revision Record) (notice : Notice)
    {before after : Record} (keyed : before.WellKeyed)
    (revised : after.get? key = (before.get? key).map (revisedItems rule))
    (same : ∀ record, record.WellKeyed →
      combine record (rule record).value = (again (rule record).value).value) :
    zipUnder key combine before after = (under key notice again after).value := by
  rw [zipUnder, value_under]
  cases found : before.get? key with
  | none =>
    rw [found, Option.map_none] at revised
    simp only [revised]
  | some value =>
    rw [found, Option.map_some] at revised
    simp only [revised, zipItems_revisedItems again (keyed.value found) same]

theorem accounted_keep : Accounted (.keep : Record → Revision Record) :=
  fun _ _ => rfl

theorem value_under_keep (key : String) (notice : Notice) (parent : Record) :
    (under key notice .keep parent).value = parent := by
  refine accounted_keep.under key notice parent ?_
  rw [changes_under, itemChanges, List.flatMap_eq_nil_iff]
  exact fun _ _ => rfl

end Lists

section Systems

variable {system : Record}

/-- Puts the identifiers of a bare system and of its bare talkgroups into what has become of it. -/
def atBareSystem (put : String → Json → Record → Record) (before after : Record) : Record :=
  zipUnder talkgroupsKey (atBare talkgroupRefKey put) before (atBare systemRefKey put before after)

theorem sitesChanges_again {sites : Option Json} (keyed : KeyedValue sites) :
    sitesChanges (some (fixedSites sites)) = [] := by
  rcases sites_cases sites with missing | ⟨value, rfl, notNull⟩
  · rcases missing with rfl | rfl <;> rfl
  · have silent : itemChanges reconcileSimple
        ((some value).map (revisedItems reconcileSimple)) = [] :=
      changes_revisedItems reconcileSimple keyed fun _ => changes_reconcileSimple_again
    rw [(fixedSites_of_present (fixedSites_ne_null (some value))).2,
      (fixedSites_of_present notNull).1]
    exact silent

theorem unitChanges_again {units : Option Json} (keyed : KeyedValue units) :
    itemChanges reconcileUnit (units.map (revisedItems reconcileUnit)) = [] :=
  changes_revisedItems reconcileUnit keyed fun _ => changes_reconcileUnit_again

theorem reconcileSystem_again (keyed : system.WellKeyed) :
    (reconcileSystem (fixSystem system).value).value =
      atBare systemRefKey holdReference system (fixSystem system).value := by
  have fields := ofRecord_fixSystem keyed
  cases bare : bareId? systemRefKey system with
  | none =>
    have silent : (reconcileSystem (fixSystem system).value).changes = [] := by
      rw [actsAs_system.changes (keepsKeyed_fixSystem system keyed), fields,
        Identifiers.changes_system_again, show (Identifiers.bare? _) = none from bare]
      rfl
    rw [atBare, bare]
    exact actsAs_system.accounted _ silent
  | some id =>
    rw [Identifiers.system_of_bare bare] at fields
    rw [atBare, bare]
    exact reconcileSystem_of_lone_id fields

/-- A bare system, and every bare talkgroup, holds its identifier under `id` after the first pass. -/
theorem atBareSystem_holdId_fixSystem (keyed : system.WellKeyed) :
    atBareSystem holdId system (fixSystem system).value = (fixSystem system).value := by
  have identity : atBare systemRefKey holdId system (fixSystem system).value =
      (fixSystem system).value :=
    atBare_holdId fun _ bare =>
      (ofRecord_fixSystem keyed).trans (Identifiers.system_of_bare bare)
  rw [atBareSystem, identity, zipUnder_eq_under .keep (.nested talkgroupsKey) keyed
    (get?_fixSystem_talkgroups keyed) fun _ => atBare_holdId_reconcileTalkgroup, value_under_keep]

/-- What stands under the member keys is not touched by the rule for the identifiers. -/
theorem get?_reconcileSystem_again (keyed : system.WellKeyed) {key : String}
    (member : key ∈ memberKeys) :
    (reconcileSystem (fixSystem system).value).value.get? key =
      (fixSystem system).value.get? key :=
  actsAs_system.outside (keepsKeyed_fixSystem system keyed) key (memberKeys_outside member)

/-- The second pass over a system only moves identifiers of bare records. -/
theorem fixSystem_again (keyed : system.WellKeyed) :
    (fixSystem (fixSystem system).value).value =
      atBareSystem holdReference system (fixSystem system).value := by
  have identity := reconcileSystem_again keyed
  have kept := fun {key} (member : key ∈ memberKeys) => get?_reconcileSystem_again keyed member
  rw [identity] at kept
  have sites : (fixSites (atBare systemRefKey holdReference system (fixSystem system).value)).value =
      atBare systemRefKey holdReference system (fixSystem system).value := by
    refine accounted_fixSites _ ?_
    rw [changes_fixSites, kept (by decide), get?_fixSystem_sites keyed]
    exact sitesChanges_again (keyed.keyedValue _)
  have units : (under unitsKey (.nested unitsKey) reconcileUnit
      (atBare systemRefKey holdReference system (fixSystem system).value)).value =
        atBare systemRefKey holdReference system (fixSystem system).value := by
    refine accounted_reconcileUnit.under _ _ _ ?_
    rw [changes_under, kept (by decide), get?_fixSystem_units keyed]
    exact unitChanges_again (keyed.keyedValue _)
  have talkgroups := kept (by decide : talkgroupsKey ∈ memberKeys)
  rw [get?_fixSystem_talkgroups keyed] at talkgroups
  rw [fixSystem, value_bind, value_bind, value_bind, identity, sites, units, atBareSystem,
    zipUnder_eq_under reconcileTalkgroup (.nested talkgroupsKey) keyed talkgroups
      fun _ keyedTalkgroup => (reconcileTalkgroup_again keyedTalkgroup).symm]

theorem changes_fixSystem_again (keyed : system.WellKeyed) :
    (fixSystem (fixSystem system).value).changes =
      (if (bareId? systemRefKey system).isSome then [.referenceExtracted] else []) ++
        (recordsOf (system.get? talkgroupsKey)).flatMap fun talkgroup =>
          if (bareId? talkgroupRefKey talkgroup).isSome then [.referenceExtracted] else [] := by
  rw [changes_fixSystem (keepsKeyed_fixSystem system keyed), ofRecord_fixSystem keyed,
    get?_fixSystem_sites keyed, get?_fixSystem_units keyed, get?_fixSystem_talkgroups keyed,
    sitesChanges_again (keyed.keyedValue _), unitChanges_again (keyed.keyedValue _), itemChanges,
    recordsOf_revisedItems, List.flatMap_map, Identifiers.changes_system_again]
  refine congrArg _ (List.flatMap_congr fun talkgroup member => ?_)
  exact changes_reconcileTalkgroup_again
    (wellKeyed_of_mem_recordsOf (keyed.keyedValue _) member)

theorem changes_fixSystem_third (keyed : system.WellKeyed) :
    (fixSystem (fixSystem (fixSystem system).value).value).changes = [] := by
  have first := keepsKeyed_fixSystem system keyed
  have second := keepsKeyed_fixSystem _ first
  have talkgroups : itemChanges reconcileTalkgroup
      (((system.get? talkgroupsKey).map (revisedItems reconcileTalkgroup)).map
        (revisedItems reconcileTalkgroup)) = [] := by
    rw [itemChanges, recordsOf_revisedItems, recordsOf_revisedItems, List.map_map,
      List.flatMap_map, List.flatMap_eq_nil_iff]
    exact fun talkgroup member => changes_reconcileTalkgroup_third
      (wellKeyed_of_mem_recordsOf (keyed.keyedValue _) member)
  rw [changes_fixSystem second, ofRecord_fixSystem first, ofRecord_fixSystem keyed,
    Identifiers.changes_system_third, get?_fixSystem_sites first, get?_fixSystem_units first,
    get?_fixSystem_talkgroups first, get?_fixSystem_talkgroups keyed, talkgroups,
    unitChanges_again (first.keyedValue _), sitesChanges_again (first.keyedValue _)]
  rfl

end Systems

end ScannerConfig.Normalization
