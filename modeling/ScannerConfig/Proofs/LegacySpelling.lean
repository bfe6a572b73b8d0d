import ScannerConfig.Proofs.Systems

namespace ScannerConfig.Normalization

open Revision

section Spellings

/-- A record without a reference may write its identifier under the legacy key. -/
inductive SimpleSpelling (canonical legacy : Record) : Prop
  | kept : (∀ key, legacy.get? key = canonical.get? key) → SimpleSpelling canonical legacy
  | legacyId {id : Json} : canonical.get? idKey = some id → legacy.get? legacyIdKey = some id →
      legacy.get? idKey = none → Entries.SameOutside [legacyIdKey, idKey] canonical legacy →
      SimpleSpelling canonical legacy

/-- Systems and talkgroups: `id` was the reference, beside a legacy identifier or alone. -/
inductive NetworkIdentity : Identifiers → Identifiers → Prop
  | kept (fields : Identifiers) : NetworkIdentity fields fields
  | both (id reference : Json) :
      NetworkIdentity ⟨none, some id, some reference⟩ ⟨some id, some reference, none⟩
  | reference (reference : Json) :
      NetworkIdentity ⟨none, none, some reference⟩ ⟨none, some reference, none⟩

/-- Units: a legacy identifier beside the reference, or a lone reference under `id`. -/
inductive UnitIdentity : Identifiers → Identifiers → Prop
  | kept (fields : Identifiers) : UnitIdentity fields fields
  | legacy (id : Json) (reference : Option Json) :
      UnitIdentity ⟨none, some id, reference⟩ ⟨some id, none, reference⟩
  | reference (reference : Json) :
      UnitIdentity ⟨none, none, some reference⟩ ⟨none, some reference, none⟩

structure UnitSpelling (canonical legacy : Record) : Prop where
  identity : UnitIdentity (.ofRecord unitRefKey canonical) (.ofRecord unitRefKey legacy)
  seeded : ∀ field ∈ unitFields, field ≠ unitRefKey →
    legacy.get? field = canonical.get? field ∨
      canonical.get? field = some .null ∧ legacy.get? field = none
  outside : Entries.SameOutside ([legacyIdKey, idKey] ++ unitFields) canonical legacy

/-- A list of one numeric group may be written as a single group. -/
inductive GroupSpelling (canonical legacy : Record) : Prop
  | kept : (∀ key ∈ [groupIdKey, groupIdsKey], legacy.get? key = canonical.get? key) →
      GroupSpelling canonical legacy
  | single {group : Json.Number} : canonical.get? groupIdsKey = some (.array [.number group]) →
      legacy.get? groupIdKey = some (.number group) → legacy.get? groupIdsKey = none →
      GroupSpelling canonical legacy

structure TalkgroupSpelling (canonical legacy : Record) : Prop where
  identity : NetworkIdentity (.ofRecord talkgroupRefKey canonical) (.ofRecord talkgroupRefKey legacy)
  groups : GroupSpelling canonical legacy
  outside : Entries.SameOutside [legacyIdKey, idKey, talkgroupRefKey, groupIdKey, groupIdsKey]
    canonical legacy

/-- An empty list of sites may be left out. -/
inductive SitesSpelling : Option Json → Option Json → Prop
  | kept {sites others : Option Json} : Option.Rel (RelatedItems SimpleSpelling) sites others →
      SitesSpelling sites others
  | dropped : SitesSpelling (some (.array [])) none

structure SystemSpelling (canonical legacy : Record) : Prop where
  identity : NetworkIdentity (.ofRecord systemRefKey canonical) (.ofRecord systemRefKey legacy)
  sites : SitesSpelling (canonical.get? sitesKey) (legacy.get? sitesKey)
  units : Option.Rel (RelatedItems UnitSpelling)
    (canonical.get? unitsKey) (legacy.get? unitsKey)
  talkgroups : Option.Rel (RelatedItems TalkgroupSpelling)
    (canonical.get? talkgroupsKey) (legacy.get? talkgroupsKey)
  outside : Entries.SameOutside ([legacyIdKey, idKey, systemRefKey] ++ memberKeys) canonical legacy

end Spellings

section Restoring

/-- A rule brings back a canonical record from each of its spellings. -/
def Restores (rule : Record → Revision Record) (spelling : Record → Record → Prop) : Prop :=
  ∀ {canonical legacy : Record}, canonical.WellKeyed → legacy.WellKeyed →
    (rule canonical).changes = [] → spelling canonical legacy →
    (Json.object (rule legacy).value).same (.object canonical) = true

variable {rule : Record → Revision Record} {spelling : Record → Record → Prop}

theorem Restores.items (restores : Restores rule spelling) {value other : Json}
    (keyed : value.wellKeyed = true) (keyedOther : other.wellKeyed = true)
    (silent : itemChanges rule (some value) = []) (related : RelatedItems spelling value other) :
    (revisedItems rule other).same value = true := by
  cases related with
  | other noArray =>
    rw [revisedItems_of_not_array noArray]
    exact Json.same_refl value keyed
  | @items items others related =>
    rw [itemChanges, List.flatMap_eq_nil_iff] at silent
    have known : ∀ item ∈ items, item.wellKeyed = true ∧
        ∀ record, item = .object record → (rule record).changes = [] := fun item member =>
      ⟨Json.wellKeyed_array.mp keyed item member,
        fun record same => silent record (mem_recordsOf.mpr ⟨items, rfl, same ▸ member⟩)⟩
    have members := forall₂_with_members known (Json.wellKeyed_array.mp keyedOther) related
    rw [revisedItems, Json.same_array, List.forall₂_map_left_iff]
    refine List.Forall₂.flip (members.imp fun item other facts => ?_)
    obtain ⟨⟨keyedItem, quietItem⟩, keyedOther, relatedItem⟩ := facts
    cases relatedItem with
    | record spelled =>
      exact restores (Json.wellKeyed_object.mp keyedItem) (Json.wellKeyed_object.mp keyedOther)
        (quietItem _ rfl) spelled
    | other noObject =>
      rw [flip, revised_of_not_object noObject]
      exact Json.same_refl _ keyedItem

theorem Restores.under (restores : Restores rule spelling) {value other : Option Json}
    (keyed : KeyedValue value)
    (keyedOther : KeyedValue other)
    (silent : itemChanges rule value = [])
    (related : Option.Rel (RelatedItems spelling) value other) :
    Json.SameFound (other.map (revisedItems rule)) value := by
  cases related with
  | none => exact .none
  | some related => exact .some (restores.items (keyed _ rfl) (keyedOther _ rfl) silent related)

end Restoring

section Identities

namespace Identifiers

variable {canonical legacy : Identifiers}

theorem simple_of_silent (silent : canonical.simple.changes = []) :
    canonical.simple.value = canonical := by
  rcases canonical with ⟨_ | _, _ | _, _⟩ <;> simp_all [simple]

theorem system_of_spelling (spelled : NetworkIdentity canonical legacy)
    (silent : canonical.system.changes = []) : legacy.system.value = canonical := by
  cases spelled with
  | kept fields => rcases canonical with ⟨_ | _, _ | _, _ | _⟩ <;> simp_all [system]
  | both id reference => rfl
  | reference reference => rfl

theorem talkgroup_of_spelling (spelled : NetworkIdentity canonical legacy)
    (silent : canonical.talkgroup.changes = []) : legacy.talkgroup.value = canonical := by
  cases spelled with
  | kept fields => rcases canonical with ⟨_ | _, _ | _, _ | _⟩ <;> simp_all [talkgroup]
  | both id reference => rfl
  | reference reference => rfl

/-- A canonical unit has a reference, so that a lone one is told from an identifier. -/
theorem unit_of_spelling (spelled : UnitIdentity canonical legacy)
    (noLegacy : canonical.legacy = none) (reference : canonical.reference.isSome = true) :
    legacy.unit.value = canonical := by
  cases spelled with
  | kept fields => rcases canonical with ⟨_ | _, _ | _, _ | _⟩ <;> simp_all [unit]
  | legacy id reference => rfl
  | reference reference => rfl

end Identifiers

end Identities

section Records

variable {canonical legacy : Record}

theorem get?_of_fields {referenceKey : String} {record other : Record}
    (fields : Identifiers.ofRecord referenceKey record = .ofRecord referenceKey other)
    {key : String} (inside : key ∈ [legacyIdKey, idKey, referenceKey]) :
    record.get? key = other.get? key := by
  simp only [List.mem_cons, List.not_mem_nil, or_false] at inside
  rcases inside with rfl | rfl | rfl
  · exact congrArg Identifiers.legacy fields
  · exact congrArg Identifiers.id fields
  · exact congrArg Identifiers.reference fields

theorem SimpleSpelling.outside (spelled : SimpleSpelling canonical legacy) :
    Entries.SameOutside [legacyIdKey, idKey] canonical legacy := by
  cases spelled with
  | kept same => exact fun key _ => same key
  | legacyId _ _ _ outside => exact outside

theorem SimpleSpelling.fields (spelled : SimpleSpelling canonical legacy)
    (silent : (Identifiers.ofRecord systemRefKey canonical).simple.changes = []) :
    (Identifiers.ofRecord systemRefKey legacy).simple.value = .ofRecord systemRefKey canonical := by
  have reference := spelled.outside systemRefKey (by decide)
  cases spelled with
  | kept same =>
    have kept : Identifiers.ofRecord systemRefKey legacy = .ofRecord systemRefKey canonical := by
      simp only [Identifiers.ofRecord, same]
    rw [kept, Identifiers.simple_of_silent silent]
  | @legacyId id found moved gone _ =>
    have noLegacy : canonical.get? legacyIdKey = none := by
      cases there : canonical.get? legacyIdKey with
      | none => rfl
      | some value => simp [Identifiers.ofRecord, there, found, Identifiers.simple] at silent
    simp only [Identifiers.ofRecord, found, moved, gone, noLegacy, reference]
    rfl

theorem restores_reconcileSimple : Restores reconcileSimple SimpleSpelling := by
  intro canonical legacy keyed keyedLegacy silent spelled
  have acts := actsAs_simple (by decide : IsReference systemRefKey)
  rw [acts.changes keyed] at silent
  have fields := (acts.value keyedLegacy).trans (spelled.fields silent)
  refine Json.same_of_get? (acts.keepsKeyed legacy keyedLegacy) keyed.distinct fun key => Eq.symm ?_
  by_cases inside : key ∈ [legacyIdKey, idKey]
  · exact get?_of_fields fields (List.mem_append_left [systemRefKey] inside)
  · exact (sameOutside_reconcileSimple keyedLegacy key inside).trans (spelled.outside key inside)

theorem restores_reconcileUnit : Restores reconcileUnit UnitSpelling := by
  intro canonical legacy keyed keyedLegacy silent spelled
  obtain ⟨noLegacy, present⟩ := (changes_reconcileUnit_eq_nil keyed).mp silent
  have reference := present unitRefKey (by decide)
  have identity := Identifiers.unit_of_spelling spelled.identity noLegacy reference
  have fields : Identifiers.ofRecord unitRefKey (reconcileUnit legacy).value =
      .ofRecord unitRefKey canonical := by
    obtain ⟨value, found⟩ := Entries.has_eq_true_iff.mp reference
    rw [ofRecord_reconcileUnit keyedLegacy, identity]
    simp only [Identifiers.ofRecord, found, Option.getD_some]
  refine Json.same_of_get? (keepsKeyed_reconcileUnit legacy keyedLegacy) keyed.distinct
    fun key => Eq.symm ?_
  by_cases inside : key ∈ [legacyIdKey, idKey, unitRefKey]
  · exact get?_of_fields fields inside
  · rw [get?_reconcileUnit_outside keyedLegacy inside]
    split
    · rename_i unitField
      obtain ⟨value, found⟩ := Entries.has_eq_true_iff.mp (present key unitField)
      have noReference : key ≠ unitRefKey := fun same => inside (by simp [same])
      rcases spelled.seeded key unitField noReference with same | ⟨null, gone⟩
      · rw [same, found, Option.getD_some]
      · rw [gone, null, Option.getD_none]
    · rename_i noUnitField
      refine spelled.outside key ?_
      simp only [List.mem_cons, List.not_mem_nil, or_false, not_or] at inside
      simp [inside, noUnitField]

theorem GroupSpelling.folded (spelled : GroupSpelling canonical legacy)
    (noGroup : canonical.get? groupIdKey = none) :
    foldedGroups (legacy.get? groupIdKey) (legacy.get? groupIdsKey) =
      canonical.get? groupIdsKey := by
  cases spelled with
  | kept same =>
    rw [same groupIdKey (by simp), same groupIdsKey (by simp), noGroup]
    rfl
  | single list group gone =>
    rw [list, group, gone]
    rfl

theorem restores_reconcileTalkgroup : Restores reconcileTalkgroup TalkgroupSpelling := by
  intro canonical legacy keyed keyedLegacy silent spelled
  rw [changes_reconcileTalkgroup keyed, List.append_eq_nil_iff, foldChanges_eq_nil] at silent
  obtain ⟨quiet, noGroup⟩ := silent
  have fields := (ofRecord_reconcileTalkgroup keyedLegacy).trans
    (Identifiers.talkgroup_of_spelling spelled.identity quiet)
  refine Json.same_of_get? (keepsKeyed_reconcileTalkgroup legacy keyedLegacy) keyed.distinct
    fun key => Eq.symm ?_
  by_cases inside : key ∈ [legacyIdKey, idKey, talkgroupRefKey]
  · exact get?_of_fields fields inside
  · by_cases single : key = groupIdKey
    · rw [single, get?_reconcileTalkgroup keyedLegacy, if_pos rfl, noGroup]
    · by_cases list : key = groupIdsKey
      · rw [list, get?_reconcileTalkgroup keyedLegacy, if_neg (by decide), if_pos rfl,
          spelled.groups.folded noGroup]
      · have outside : key ∉ [legacyIdKey, idKey, talkgroupRefKey, groupIdKey, groupIdsKey] := by
          simp only [List.mem_cons, List.not_mem_nil, or_false, not_or] at inside
          simp [inside, single, list]
        exact (sameOutside_reconcileTalkgroup keyedLegacy key outside).trans
          (spelled.outside key outside)

theorem SitesSpelling.restored {sites others : Option Json} (spelled : SitesSpelling sites others)
    (keyed : KeyedValue sites)
    (keyedOthers : KeyedValue others)
    (silent : sitesChanges sites = []) :
    Json.SameFound (some (fixedSites others)) sites := by
  cases spelled with
  | dropped => exact .some rfl
  | kept related =>
    rcases sites_cases sites with missing | ⟨value, rfl, notNull⟩
    · rcases missing with rfl | rfl <;> simp [sitesChanges] at silent
    · rw [(fixedSites_of_present notNull).2] at silent
      cases related with
      | @some _ other related =>
        have otherNotNull : other ≠ .null := by
          cases related with
          | items _ => exact nofun
          | other _ => exact notNull
        rw [(fixedSites_of_present otherNotNull).1]
        exact .some (restores_reconcileSimple.items (keyed _ rfl) (keyedOthers _ rfl) silent related)

theorem restores_fixSystem : Restores fixSystem SystemSpelling := by
  intro canonical legacy keyed keyedLegacy silent spelled
  rw [changes_fixSystem keyed, List.append_eq_nil_iff, List.append_eq_nil_iff,
    List.append_eq_nil_iff] at silent
  obtain ⟨quiet, quietSites, quietUnits, quietTalkgroups⟩ := silent
  have fields := (ofRecord_fixSystem keyedLegacy).trans
    (Identifiers.system_of_spelling spelled.identity quiet)
  rw [Json.same_object (keepsKeyed_fixSystem legacy keyedLegacy).distinct keyed.distinct]
  intro key
  by_cases member : key ∈ memberKeys
  · simp only [memberKeys, List.mem_cons, List.not_mem_nil, or_false] at member
    rcases member with rfl | rfl | rfl
    · rw [get?_fixSystem_sites keyedLegacy]
      exact spelled.sites.restored (keyed.keyedValue _)
        (keyedLegacy.keyedValue _) quietSites
    · rw [get?_fixSystem_units keyedLegacy]
      exact restores_reconcileUnit.under (keyed.keyedValue _)
        (keyedLegacy.keyedValue _) quietUnits spelled.units
    · rw [get?_fixSystem_talkgroups keyedLegacy]
      exact restores_reconcileTalkgroup.under (keyed.keyedValue _)
        (keyedLegacy.keyedValue _) quietTalkgroups spelled.talkgroups
  · have same : (fixSystem legacy).value.get? key = canonical.get? key := by
      by_cases identifier : key ∈ [legacyIdKey, idKey, systemRefKey]
      · exact get?_of_fields fields identifier
      · have outside : key ∉ [legacyIdKey, idKey, systemRefKey] ++ memberKeys := by
          rw [List.mem_append, not_or]
          exact ⟨identifier, member⟩
        exact (sameOutside_fixSystem keyedLegacy key outside).trans (spelled.outside key outside)
    rw [same]
    exact Json.sameFound_refl (keyed.keyedValue _)

end Records

end ScannerConfig.Normalization
