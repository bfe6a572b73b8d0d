import ScannerConfig.Proofs.Members

namespace ScannerConfig.Normalization

open Revision

/-- There is an `id`, and no reference yet. -/
def Identifiers.Lone (fields : Identifiers) : Prop :=
  fields.id ≠ none ∧ fields.reference = none

/-- Systems: a legacy identifier takes the place of `id`, which becomes the reference whatever
that was; without one `id` becomes the reference only where there is none. -/
structure SystemTable (before after : Identifiers) : Prop where
  noLegacy : after.legacy = none
  pushed (legacy : Json) : before.legacy = some legacy →
    after.id = some legacy ∧ after.reference = before.id.or before.reference
  moved : before.legacy = none → before.Lone → after.id = none ∧ after.reference = before.id
  kept : before.legacy = none → ¬before.Lone →
    after.id = before.id ∧ after.reference = before.reference

/-- Units: `id` becomes the reference only where neither of the other two is there. The reference
is null where it is missing. -/
structure UnitTable (before after : Identifiers) : Prop where
  noLegacy : after.legacy = none
  moved : before.legacy = none → before.Lone → after.id = none ∧ after.reference = before.id
  kept : ¬(before.legacy = none ∧ before.Lone) →
    after.id = before.id.or before.legacy ∧
      after.reference = some (before.reference.getD .null)

/-- Talkgroups: `id` becomes the reference where there is none, and leaves its place to the legacy
identifier. -/
structure TalkgroupTable (before after : Identifiers) : Prop where
  noLegacy : after.legacy = none
  moved : before.Lone → after.id = before.legacy ∧ after.reference = before.id
  kept : ¬before.Lone → after.id = before.id.or before.legacy ∧ after.reference = before.reference

/-- A single group that is taken into what stands for the list of groups. -/
inductive GroupTaken (group : Json.Number) : Option Json → Option Json → Prop
  | member {groups : List Json} : (∃ one ∈ groups, one.same (.number group) = true) →
      GroupTaken group (some (.array groups)) (some (.array groups))
  | added {groups : List Json} : (∀ one ∈ groups, one.same (.number group) = false) →
      GroupTaken group (some (.array groups)) (some (.array (groups ++ [.number group])))
  | alone {groups : Option Json} : (∀ items, groups ≠ some (.array items)) →
      GroupTaken group groups (some (.array [.number group]))

/-- Records without a reference: `id` stays, and is the legacy identifier where it is missing. -/
structure ReconciledSimple (before after : Record) : Prop where
  noLegacy : after.get? legacyIdKey = none
  id : after.get? idKey = (before.get? idKey).or (before.get? legacyIdKey)
  others : Entries.SameOutside [legacyIdKey, idKey] before after

structure ReconciledSystem (before after : Record) : Prop where
  identifiers : SystemTable (.ofRecord systemRefKey before) (.ofRecord systemRefKey after)
  others : Entries.SameOutside [legacyIdKey, idKey, systemRefKey] before after

structure ReconciledUnit (before after : Record) : Prop where
  identifiers : UnitTable (.ofRecord unitRefKey before) (.ofRecord unitRefKey after)
  range : ∀ field ∈ ["unitFrom", "unitTo"],
    after.get? field = some ((before.get? field).getD .null)
  others : Entries.SameOutside ([legacyIdKey, idKey] ++ unitFields) before after

structure ReconciledTalkgroup (before after : Record) : Prop where
  identifiers : TalkgroupTable (.ofRecord talkgroupRefKey before) (.ofRecord talkgroupRefKey after)
  noGroup : after.get? groupIdKey = none
  taken (group : Json.Number) : before.get? groupIdKey = some (.number group) →
    GroupTaken group (before.get? groupIdsKey) (after.get? groupIdsKey)
  dropped : (∀ group, before.get? groupIdKey ≠ some (.number group)) →
    after.get? groupIdsKey = before.get? groupIdsKey
  others : Entries.SameOutside [legacyIdKey, idKey, talkgroupRefKey, groupIdKey, groupIdsKey]
    before after

namespace Identifiers

theorem id_simple (fields : Identifiers) :
    fields.simple.value.id = fields.id.or fields.legacy := by
  rcases fields with ⟨_ | _, _ | _, _⟩ <;> rfl

theorem systemTable_system (fields : Identifiers) : SystemTable fields fields.system.value := by
  rcases fields with ⟨_ | legacy, _ | id, _ | reference⟩ <;> constructor <;> simp [system, Lone]

theorem unitTable_unit (fields : Identifiers) :
    UnitTable fields
      { fields.unit.value with reference := some (fields.unit.value.reference.getD .null) } := by
  rcases fields with ⟨_ | legacy, _ | id, _ | reference⟩ <;> constructor <;> simp [unit, Lone]

theorem talkgroupTable_talkgroup (fields : Identifiers) :
    TalkgroupTable fields fields.talkgroup.value := by
  rcases fields with ⟨_ | legacy, _ | id, _ | reference⟩ <;> constructor <;> simp [talkgroup, Lone]

end Identifiers

theorem groupTaken_withGroup (group : Json.Number) (groups : Option Json) :
    GroupTaken group groups (some (withGroup (.number group) groups)) := by
  unfold withGroup
  split
  · rename_i items
    split
    · rename_i found
      exact .member (List.any_eq_true.mp found)
    · rename_i missing
      exact .added (by simpa using missing)
  · rename_i noArray
    exact .alone noArray

theorem foldedGroups_of_no_number {group : Option Json}
    (noNumber : ∀ number, group ≠ some (.number number)) (groups : Option Json) :
    foldedGroups group groups = groups := by
  unfold foldedGroups
  split
  · rename_i number
    exact absurd rfl (noNumber number)
  · rfl

section Records

variable {record : Record}

theorem reconciledSimple (keyed : record.WellKeyed) :
    ReconciledSimple record (reconcileSimple record).value := by
  have fields := (actsAs_simple (by decide : IsReference systemRefKey)).value keyed
  refine ⟨get?_legacyId_reconcileSimple keyed, ?_, sameOutside_reconcileSimple keyed⟩
  exact (congrArg Identifiers.id fields).trans (Identifiers.id_simple _)

theorem reconciledSystem (keyed : record.WellKeyed) :
    ReconciledSystem record (reconcileSystem record).value := by
  refine ⟨?_, actsAs_system.outside keyed⟩
  rw [actsAs_system.value keyed]
  exact Identifiers.systemTable_system _

theorem reconciledUnit (keyed : record.WellKeyed) :
    ReconciledUnit record (reconcileUnit record).value := by
  refine ⟨?_, ?_, ?_⟩
  · rw [ofRecord_reconcileUnit keyed]
    exact Identifiers.unitTable_unit _
  · intro field member
    have outside : field ∉ [legacyIdKey, idKey, unitRefKey] := by
      revert field
      decide
    have seeded : field ∈ unitFields := List.mem_cons_of_mem unitRefKey member
    rw [get?_reconcileUnit_outside keyed outside, if_pos seeded]
  · intro key outside
    obtain ⟨noId, noUnitField⟩ := not_or.mp (mt List.mem_append.mpr outside)
    have noReference : key ≠ unitRefKey := fun same => noUnitField (same ▸ by decide)
    have noIdentifier : key ∉ [legacyIdKey, idKey] ++ [unitRefKey] := by
      simpa [noReference] using noId
    rw [get?_reconcileUnit_outside keyed noIdentifier, if_neg noUnitField]

theorem reconciledTalkgroup (keyed : record.WellKeyed) :
    ReconciledTalkgroup record (reconcileTalkgroup record).value := by
  have groups := get?_reconcileTalkgroup keyed groupIdsKey
  rw [if_neg (by decide), if_pos rfl] at groups
  refine ⟨?_, ?_, ?_, ?_, sameOutside_reconcileTalkgroup keyed⟩
  · rw [ofRecord_reconcileTalkgroup keyed]
    exact Identifiers.talkgroupTable_talkgroup _
  · rw [get?_reconcileTalkgroup keyed, if_pos rfl]
  · intro group found
    rw [groups, found]
    exact groupTaken_withGroup group _
  · intro noNumber
    rw [groups]
    exact foldedGroups_of_no_number noNumber _

/-- Every rule for identifiers follows its table, whatever else the record holds. -/
theorem reconcile_byPresence (keyed : record.WellKeyed) :
    ReconciledSimple record (reconcileSimple record).value ∧
      ReconciledSystem record (reconcileSystem record).value ∧
      ReconciledUnit record (reconcileUnit record).value ∧
      ReconciledTalkgroup record (reconcileTalkgroup record).value :=
  ⟨reconciledSimple keyed, reconciledSystem keyed, reconciledUnit keyed,
    reconciledTalkgroup keyed⟩

theorem reconcile_byPresence_full :
    let record : Record := [("_id", .ofNat 3), ("label", .string "fire"), ("id", .ofNat 5101),
      ("groupId", .ofNat 2), ("groupIds", .array [.ofNat 1, .ofNat 2]), ("unitTo", .bool true)]
    record.WellKeyed ∧
      ReconciledSimple record (reconcileSimple record).value ∧
      ReconciledSystem record (reconcileSystem record).value ∧
      ReconciledUnit record (reconcileUnit record).value ∧
      ReconciledTalkgroup record (reconcileTalkgroup record).value := by
  intro record
  have keyed : record.WellKeyed := Json.wellKeyed_object.mp (by decide)
  exact ⟨keyed, reconcile_byPresence keyed⟩

end Records

end ScannerConfig.Normalization
