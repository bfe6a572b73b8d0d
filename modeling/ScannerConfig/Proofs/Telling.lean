import ScannerConfig.Proofs.Systems

namespace ScannerConfig

/-- Equal objects hold something under the same keys. -/
theorem Json.isSome_of_same {record other : Record} (distinct : record.Distinct)
    (distinctOther : other.Distinct) (same : (Json.object record).same (.object other) = true)
    (key : String) : (record.get? key).isSome = (other.get? key).isSome :=
  ((Json.same_object distinct distinctOther).mp same key).isSome_eq

namespace Revision

/-- Where a rule tells of a change, the record is another one afterwards. -/
def Telling (rule : Record → Revision Record) : Prop :=
  ∀ record, record.WellKeyed →
    (Json.object (rule record).value).same (.object record) = true → (rule record).changes = []

theorem Telling.itemChanges {rule : Record → Revision Record} (telling : Telling rule)
    {value : Option Json} (keyed : KeyedValue value)
    (same : Json.SameFound (value.map (revisedItems rule)) value) :
    itemChanges rule value = [] := by
  rw [Revision.itemChanges, List.flatMap_eq_nil_iff]
  intro record member
  have keyedRecord := wellKeyed_of_mem_recordsOf keyed member
  obtain ⟨items, rfl, inside⟩ := mem_recordsOf.mp member
  rw [Option.map_some, Json.sameFound_some, revisedItems, Json.same_array,
    List.forall₂_map_left_iff, List.forall₂_same] at same
  exact telling record keyedRecord (same _ inside)

end Revision

namespace Normalization

open Revision

namespace Identifiers

/-- Both hold a legacy identifier or neither does, and likewise for `id`. -/
def HoldAlike (fields others : Identifiers) : Prop :=
  fields.legacy.isSome = others.legacy.isSome ∧ fields.id.isSome = others.id.isSome

theorem changes_simple_of_alike {fields : Identifiers} (alike : HoldAlike fields.simple.value fields) :
    fields.simple.changes = [] := by
  rcases fields with ⟨_ | _, _ | _, _⟩ <;> simp_all [HoldAlike, simple]

theorem changes_system_of_alike {fields : Identifiers} (alike : HoldAlike fields.system.value fields) :
    fields.system.changes = [] := by
  rcases fields with ⟨_ | _, _ | _, _ | _⟩ <;> simp_all [HoldAlike, system]

theorem changes_talkgroup_of_alike {fields : Identifiers}
    (alike : HoldAlike fields.talkgroup.value fields) : fields.talkgroup.changes = [] := by
  rcases fields with ⟨_ | _, _ | _, _ | _⟩ <;> simp_all [HoldAlike, talkgroup]

theorem alike_of_same (referenceKey : String) {record other : Record} (distinct : record.Distinct)
    (distinctOther : other.Distinct) (same : (Json.object record).same (.object other) = true) :
    HoldAlike (.ofRecord referenceKey record) (.ofRecord referenceKey other) :=
  ⟨Json.isSome_of_same distinct distinctOther same _,
    Json.isSome_of_same distinct distinctOther same _⟩

end Identifiers

theorem telling_reconcileSimple : Telling reconcileSimple := by
  intro record keyed same
  have acts := actsAs_simple (by decide : IsReference systemRefKey)
  have alike := Identifiers.alike_of_same systemRefKey (acts.keepsKeyed record keyed).distinct
    keyed.distinct same
  rw [acts.value keyed] at alike
  rw [acts.changes keyed]
  exact Identifiers.changes_simple_of_alike alike

theorem telling_reconcileUnit : Telling reconcileUnit := by
  intro record keyed same
  have keys := Json.isSome_of_same (keepsKeyed_reconcileUnit record keyed).distinct keyed.distinct same
  rw [changes_reconcileUnit_eq_nil keyed]
  constructor
  · have legacy := keys legacyIdKey
    rw [get?_legacyId_reconcileUnit keyed] at legacy
    exact Option.not_isSome_iff_eq_none.mp (by simp [← legacy])
  · intro field member
    have here := keys field
    rw [get?_reconcileUnit, if_pos member] at here
    exact here.symm

theorem telling_reconcileTalkgroup : Telling reconcileTalkgroup := by
  intro record keyed same
  have distinct := (keepsKeyed_reconcileTalkgroup record keyed).distinct
  have alike := Identifiers.alike_of_same talkgroupRefKey distinct keyed.distinct same
  rw [ofRecord_reconcileTalkgroup keyed] at alike
  have group := Json.isSome_of_same distinct keyed.distinct same groupIdKey
  rw [get?_reconcileTalkgroup keyed, if_pos rfl] at group
  have noGroup : record.get? groupIdKey = none :=
    Option.not_isSome_iff_eq_none.mp (by simp [← group])
  rw [changes_reconcileTalkgroup keyed, Identifiers.changes_talkgroup_of_alike alike, noGroup]
  rfl

theorem telling_sites {sites : Option Json} (keyed : KeyedValue sites)
    (same : Json.SameFound (some (fixedSites sites)) sites) :
    sitesChanges sites = [] := by
  rcases sites_cases sites with missing | ⟨value, rfl, notNull⟩
  · rcases missing with rfl | rfl
    · cases same
    · simp [fixedSites, Json.same] at same
  · rw [(fixedSites_of_present notNull).1] at same
    rw [(fixedSites_of_present notNull).2]
    exact telling_reconcileSimple.itemChanges keyed same

theorem telling_fixSystem : Telling fixSystem := by
  intro system keyed same
  have distinct := (keepsKeyed_fixSystem system keyed).distinct
  have lookups := (Json.same_object distinct keyed.distinct).mp same
  have alike := Identifiers.alike_of_same systemRefKey distinct keyed.distinct same
  rw [ofRecord_fixSystem keyed] at alike
  have sites := lookups sitesKey
  have units := lookups unitsKey
  have talkgroups := lookups talkgroupsKey
  rw [get?_fixSystem_sites keyed] at sites
  rw [get?_fixSystem_units keyed] at units
  rw [get?_fixSystem_talkgroups keyed] at talkgroups
  rw [changes_fixSystem keyed, Identifiers.changes_system_of_alike alike,
    telling_sites (keyed.keyedValue _) sites,
    telling_reconcileUnit.itemChanges (keyed.keyedValue _) units,
    telling_reconcileTalkgroup.itemChanges (keyed.keyedValue _) talkgroups]
  rfl

end Normalization

end ScannerConfig
