import ScannerConfig.Proofs.Identity

namespace ScannerConfig.Normalization

open Revision

variable {record : Record}

section Seeding

theorem get?_seedUnitFields (fields : List String) (record : Record) (key : String) :
    (seedUnitFields fields record).value.get? key =
      if key ∈ fields then some ((record.get? key).getD .null) else record.get? key := by
  induction fields generalizing record with
  | nil => simp [seedUnitFields]
  | cons field fields ih =>
    rw [seedUnitFields]
    split
    · rename_i present
      obtain ⟨value, found⟩ := Entries.has_eq_true_iff.mp present
      rw [ih]
      by_cases same : key = field
      · simp [same, found]
      · simp [same]
    · rename_i absent
      have missing := Entries.has_eq_false_iff.mp (Bool.eq_false_iff.mpr absent)
      rw [value_bind, value_changed, ih, Entries.get?_insert]
      by_cases same : field = key
      · simp [← same, missing]
      · simp [same, Ne.symm same]

/-- One change for each field that was not there. -/
theorem changes_seedUnitFields {fields : List String} (distinct : fields.Nodup)
    (record : Record) :
    (seedUnitFields fields record).changes =
      (fields.filter fun field => !record.has field).map fun _ => .unitFieldSeeded := by
  induction fields generalizing record with
  | nil => rfl
  | cons field fields ih =>
    obtain ⟨fresh, distinctRest⟩ := List.nodup_cons.mp distinct
    rw [seedUnitFields]
    split
    · rename_i present
      simp [ih distinctRest, present]
    · rename_i absent
      have others : ∀ key ∈ fields, (!(record.insert field .null).has key) = !record.has key := by
        intro key member
        have different : field ≠ key := fun same => fresh (same ▸ member)
        simp [Entries.has, Entries.get?_insert, different]
      simp [ih distinctRest, absent, List.filter_congr others]

theorem keepsKeyed_seedUnitFields (fields : List String) : KeepsKeyed (seedUnitFields fields) := by
  induction fields with
  | nil => exact fun _ keyed => keyed
  | cons field fields ih =>
    intro record keyed
    rw [seedUnitFields]
    split
    · exact ih record keyed
    · exact ih _ (keyed.insert field rfl)

theorem accounted_seedUnitFields (fields : List String) : Accounted (seedUnitFields fields) := by
  induction fields with
  | nil => exact fun _ _ => rfl
  | cons field fields ih =>
    intro record silent
    rw [seedUnitFields] at silent ⊢
    split at silent
    · rename_i present
      rw [if_pos present]
      exact ih record silent
    · simp at silent

end Seeding

section Folding

/-- The groups of a talkgroup with its single group among them. -/
def foldedGroups : Option Json → Option Json → Option Json
  | some (.number group), groups => some (withGroup (.number group) groups)
  | _, groups => groups

def foldChanges : Option Json → List Change
  | some (.number _) => [.groupFolded]
  | some _ => [.groupDropped]
  | none => []

theorem get?_foldGroup (keyed : record.WellKeyed) (key : String) :
    (foldGroup record).value.get? key =
      if key = groupIdKey then none
      else if key = groupIdsKey then
        foldedGroups (record.get? groupIdKey) (record.get? groupIdsKey)
      else record.get? key := by
  have apart : groupIdKey ≠ groupIdsKey := by decide
  have erased := Entries.get?_erase keyed.distinct groupIdKey
  cases found : record.get? groupIdKey with
  | none =>
    rw [foldGroup, Entries.pop?_of_get?_none found]
    by_cases single : key = groupIdKey
    · simp [single, found]
    · by_cases list : key = groupIdsKey <;> simp [list, single, apart.symm, foldedGroups]
  | some group =>
    rw [foldGroup, Entries.pop?_of_get?_some found]
    cases group with
    | number group =>
      simp only [value_changed, Entries.get?_insert, erased, foldedGroups]
      by_cases single : key = groupIdKey
      · simp [single, apart.symm]
      · by_cases list : key = groupIdsKey
        · simp [list, apart, apart.symm]
        · simp [single, list, Ne.symm single, Ne.symm list]
    | _ =>
      simp only [value_changed, erased, foldedGroups]
      by_cases single : key = groupIdKey
      · simp [single]
      · by_cases list : key = groupIdsKey
        · simp [list, apart, apart.symm]
        · simp [single, list, Ne.symm single]

theorem changes_foldGroup (record : Record) :
    (foldGroup record).changes = foldChanges (record.get? groupIdKey) := by
  cases found : record.get? groupIdKey with
  | none => rw [foldGroup, Entries.pop?_of_get?_none found]; rfl
  | some group =>
    rw [foldGroup, Entries.pop?_of_get?_some found]
    cases group <;> rfl

theorem foldChanges_eq_nil {group : Option Json} : foldChanges group = [] ↔ group = none := by
  rcases group with _ | (_ | _ | _ | _ | _ | _) <;> simp [foldChanges]

theorem withGroup_wellKeyed (group : Json.Number) {groups : Option Json}
    (keyed : KeyedValue groups) :
    (withGroup (.number group) groups).wellKeyed = true := by
  have single : ([Json.number group]).all Json.wellKeyed = true := rfl
  unfold withGroup
  split
  · rename_i items
    have inside := Json.wellKeyed_array.mp (keyed _ rfl)
    split
    · exact keyed _ rfl
    · rw [Json.wellKeyed_array]
      intro item member
      rcases List.mem_append.mp member with old | new
      · exact inside item old
      · exact List.all_eq_true.mp single item new
  · exact Json.wellKeyed_array.mpr (List.all_eq_true.mp single)

theorem keepsKeyed_foldGroup : KeepsKeyed foldGroup := by
  intro record keyed
  have rest := keyed.erase groupIdKey
  cases found : record.get? groupIdKey with
  | none => simpa [foldGroup, Entries.pop?_of_get?_none found] using keyed
  | some group =>
    rw [foldGroup, Entries.pop?_of_get?_some found]
    cases group with
    | number group =>
      exact rest.insert _ (withGroup_wellKeyed group fun value there => rest.value there)
    | _ => exact rest

theorem accounted_foldGroup : Accounted foldGroup := by
  intro record silent
  rw [changes_foldGroup, foldChanges_eq_nil] at silent
  rw [foldGroup, Entries.pop?_of_get?_none silent]
  rfl

end Folding

section Unit

theorem keepsKeyed_reconcileUnit : KeepsKeyed reconcileUnit := by
  rw [funext reconcileUnit_eq]
  exact actsAs_identifyUnit.keepsKeyed.bind (keepsKeyed_seedUnitFields unitFields)

theorem accounted_reconcileUnit : Accounted reconcileUnit := by
  rw [funext reconcileUnit_eq]
  exact actsAs_identifyUnit.accounted.bind (accounted_seedUnitFields unitFields)

theorem get?_reconcileUnit (record : Record) (key : String) :
    (reconcileUnit record).value.get? key =
      if key ∈ unitFields then some (((identifyUnit record).value.get? key).getD .null)
      else (identifyUnit record).value.get? key := by
  rw [reconcileUnit_eq, value_bind, get?_seedUnitFields]

/-- The identifiers of a unit are those of the table, and the reference is there. -/
theorem ofRecord_reconcileUnit (keyed : record.WellKeyed) :
    Identifiers.ofRecord unitRefKey (reconcileUnit record).value =
      let fields := (Identifiers.unit (.ofRecord unitRefKey record)).value
      { fields with reference := some (fields.reference.getD .null) } := by
  rw [← actsAs_identifyUnit.value keyed]
  simp [Identifiers.ofRecord, get?_reconcileUnit, unitFields, legacyIdKey, idKey, unitRefKey]

theorem get?_legacyId_reconcileUnit (keyed : record.WellKeyed) :
    (reconcileUnit record).value.get? legacyIdKey = none := by
  have fields := congrArg Identifiers.legacy (ofRecord_reconcileUnit keyed)
  exact fields.trans (Identifiers.legacy_unit _)

/-- A field that is no identifier is seeded if every unit has it, and kept otherwise. -/
theorem get?_reconcileUnit_outside (keyed : record.WellKeyed) {key : String}
    (outside : key ∉ [legacyIdKey, idKey, unitRefKey]) :
    (reconcileUnit record).value.get? key =
      if key ∈ unitFields then some ((record.get? key).getD .null) else record.get? key := by
  rw [get?_reconcileUnit, actsAs_identifyUnit.outside keyed key outside]

/-- A field that every unit has keeps the value it has. -/
theorem get?_reconcileUnit_of_unitField (keyed : record.WellKeyed) {key : String} {value : Json}
    (member : key ∈ unitFields) (found : record.get? key = some value) :
    (reconcileUnit record).value.get? key = some value := by
  by_cases reference : key = unitRefKey
  · subst reference
    have fields := congrArg Identifiers.reference (ofRecord_reconcileUnit keyed)
    simp only [Identifiers.ofRecord, found] at fields
    rw [fields]
    cases record.get? legacyIdKey <;> cases record.get? idKey <;> rfl
  · have outside : key ∉ [legacyIdKey, idKey, unitRefKey] := by
      revert member reference
      simp only [unitFields, List.mem_cons, List.not_mem_nil, or_false]
      rintro (same | same | same) reference
      · exact absurd same reference
      · rw [same]; decide
      · rw [same]; decide
    rw [get?_reconcileUnit_outside keyed outside, if_pos member, found, Option.getD_some]

theorem changes_reconcileUnit_eq_nil (keyed : record.WellKeyed) :
    (reconcileUnit record).changes = [] ↔
      record.get? legacyIdKey = none ∧ ∀ field ∈ unitFields, record.has field = true := by
  rw [reconcileUnit_eq, changes_bind, List.append_eq_nil_iff,
    changes_seedUnitFields (by decide), List.map_eq_nil_iff, List.filter_eq_nil_iff]
  constructor
  · rintro ⟨silent, present⟩
    rw [actsAs_identifyUnit.accounted record silent] at present
    have there : ∀ field ∈ unitFields, record.has field = true := by simpa using present
    refine ⟨?_, there⟩
    rw [actsAs_identifyUnit.changes keyed] at silent
    cases legacy : record.get? legacyIdKey with
    | none => rfl
    | some value =>
      simp only [Identifiers.ofRecord, legacy] at silent
      cases id : record.get? idKey <;> simp [id, Identifiers.unit] at silent
  · rintro ⟨legacy, there⟩
    obtain ⟨reference, found⟩ := Entries.has_eq_true_iff.mp (there unitRefKey (by decide))
    have silent : (identifyUnit record).changes = [] := by
      rw [actsAs_identifyUnit.changes keyed]
      simp only [Identifiers.ofRecord, legacy, found]
      cases record.get? idKey <;> rfl
    refine ⟨silent, ?_⟩
    rw [actsAs_identifyUnit.accounted record silent]
    simpa using there

end Unit

section Talkgroup

theorem keepsKeyed_reconcileTalkgroup : KeepsKeyed reconcileTalkgroup := by
  rw [funext reconcileTalkgroup_eq]
  exact actsAs_identifyTalkgroup.keepsKeyed.bind keepsKeyed_foldGroup

theorem accounted_reconcileTalkgroup : Accounted reconcileTalkgroup := by
  rw [funext reconcileTalkgroup_eq]
  exact actsAs_identifyTalkgroup.accounted.bind accounted_foldGroup

theorem get?_identifyTalkgroup_group (keyed : record.WellKeyed) {key : String}
    (member : key ∈ [groupIdKey, groupIdsKey]) :
    (identifyTalkgroup record).value.get? key = record.get? key := by
  refine actsAs_identifyTalkgroup.outside keyed key ?_
  simp only [List.mem_cons, List.not_mem_nil, or_false] at member
  rcases member with rfl | rfl <;> decide

theorem get?_reconcileTalkgroup (keyed : record.WellKeyed) (key : String) :
    (reconcileTalkgroup record).value.get? key =
      if key = groupIdKey then none
      else if key = groupIdsKey then
        foldedGroups (record.get? groupIdKey) (record.get? groupIdsKey)
      else (identifyTalkgroup record).value.get? key := by
  rw [reconcileTalkgroup_eq, value_bind,
    get?_foldGroup (actsAs_identifyTalkgroup.keepsKeyed record keyed),
    get?_identifyTalkgroup_group keyed (by simp), get?_identifyTalkgroup_group keyed (by simp)]

theorem ofRecord_reconcileTalkgroup (keyed : record.WellKeyed) :
    Identifiers.ofRecord talkgroupRefKey (reconcileTalkgroup record).value =
      (Identifiers.talkgroup (.ofRecord talkgroupRefKey record)).value := by
  rw [← actsAs_identifyTalkgroup.value keyed]
  simp [Identifiers.ofRecord, get?_reconcileTalkgroup keyed, legacyIdKey, idKey, talkgroupRefKey,
    groupIdKey, groupIdsKey]

theorem get?_legacyId_reconcileTalkgroup (keyed : record.WellKeyed) :
    (reconcileTalkgroup record).value.get? legacyIdKey = none := by
  have fields := congrArg Identifiers.legacy (ofRecord_reconcileTalkgroup keyed)
  exact fields.trans (Identifiers.legacy_talkgroup _)

theorem sameOutside_reconcileTalkgroup (keyed : record.WellKeyed) :
    Entries.SameOutside [legacyIdKey, idKey, talkgroupRefKey, groupIdKey, groupIdsKey] record
      (reconcileTalkgroup record).value := by
  intro key outside
  simp only [List.mem_cons, List.not_mem_nil, or_false, not_or] at outside
  obtain ⟨legacy, id, reference, single, list⟩ := outside
  rw [get?_reconcileTalkgroup keyed, if_neg single, if_neg list]
  exact actsAs_identifyTalkgroup.outside keyed key (by simp [legacy, id, reference])

theorem changes_reconcileTalkgroup (keyed : record.WellKeyed) :
    (reconcileTalkgroup record).changes =
      (Identifiers.talkgroup (.ofRecord talkgroupRefKey record)).changes ++
        foldChanges (record.get? groupIdKey) := by
  rw [reconcileTalkgroup_eq, changes_bind, changes_foldGroup,
    get?_identifyTalkgroup_group keyed (by simp), actsAs_identifyTalkgroup.changes keyed]

end Talkgroup

end ScannerConfig.Normalization
