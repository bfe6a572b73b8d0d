import ScannerConfig.Proofs.Root

namespace ScannerConfig.Normalization

open Revision

/-- Every object in a list has a property; a value that is no list holds no records. -/
def EachRecord (property : Record → Prop) (value : Option Json) : Prop :=
  ∀ record ∈ recordsOf value, property record

def NoLegacyId (record : Record) : Prop :=
  record.has legacyIdKey = false

structure CanonicalSystem (system : Record) : Prop where
  noLegacyId : NoLegacyId system
  sites : ∃ value, system.get? sitesKey = some value ∧ value ≠ .null
  members : ∀ key ∈ memberKeys, EachRecord NoLegacyId (system.get? key)
  unitFields :
    EachRecord (fun unit => ∀ field ∈ unitFields, unit.has field = true) (system.get? unitsKey)
  noSingleGroup :
    EachRecord (fun talkgroup => talkgroup.has groupIdKey = false) (system.get? talkgroupsKey)

structure CompleteOptions (options : Record) : Prop where
  canonical : ∀ key ∈ optionKeys, options.has key = true
  noObsolete : ∀ key ∈ obsoleteOptions, options.has key = false

/-- A root that is left in canonical shape, where its options could be read. -/
structure CanonicalShape (before after : Record) : Prop where
  noSpelling : ∀ spelling ∈ aliases.map Prod.fst, after.has spelling = false
  collections : ∀ collection : Collection, EachRecord NoLegacyId (after.get? collection.key)
  sorted : ∀ collection : Collection, collection.isLabelSorted = true →
    ∀ items, after.get? collection.key = some (.array items) → LabelSorted items
  systems : EachRecord CanonicalSystem (after.get? systemsKey)
  options : (∀ value, before.get? optionsKey = some value →
      value = .null ∨ ∃ options, value = .object options) →
    ∃ options, after.get? optionsKey = some (.object options) ∧ CompleteOptions options

section Records

variable {property : Record → Prop} {rule : Record → Revision Record}

/-- What a rule brings about in every record holds of all records that it has revised. -/
theorem EachRecord.revised {value : Option Json} (keyed : KeyedValue value)
    (brings : ∀ record, record.WellKeyed → property (rule record).value) :
    EachRecord property (value.map (revisedItems rule)) := by
  rw [EachRecord, recordsOf_revisedItems, List.forall_mem_map]
  exact fun record member => brings record (wellKeyed_of_mem_recordsOf keyed member)

variable {record : Record}

theorem noLegacyId_reconcileSimple (keyed : record.WellKeyed) :
    NoLegacyId (reconcileSimple record).value :=
  Entries.has_eq_false_iff.mpr (get?_legacyId_reconcileSimple keyed)

theorem noLegacyId_reconcileUnit (keyed : record.WellKeyed) :
    NoLegacyId (reconcileUnit record).value :=
  Entries.has_eq_false_iff.mpr (get?_legacyId_reconcileUnit keyed)

theorem noLegacyId_reconcileTalkgroup (keyed : record.WellKeyed) :
    NoLegacyId (reconcileTalkgroup record).value :=
  Entries.has_eq_false_iff.mpr (get?_legacyId_reconcileTalkgroup keyed)

theorem noLegacyId_fixSystem (keyed : record.WellKeyed) :
    NoLegacyId (fixSystem record).value :=
  Entries.has_eq_false_iff.mpr (get?_legacyId_fixSystem keyed)

theorem has_unitField_reconcileUnit (record : Record) {field : String}
    (member : field ∈ unitFields) : (reconcileUnit record).value.has field = true := by
  rw [Entries.has, get?_reconcileUnit, if_pos member, Option.isSome_some]

theorem no_groupId_reconcileTalkgroup (keyed : record.WellKeyed) :
    (reconcileTalkgroup record).value.has groupIdKey = false := by
  rw [Entries.has, get?_reconcileTalkgroup keyed, if_pos rfl, Option.isSome_none]

end Records

section Systems

theorem eachRecord_fixedSites {sites : Option Json} (keyed : KeyedValue sites) :
    EachRecord NoLegacyId (some (fixedSites sites)) := by
  rcases sites_cases sites with missing | ⟨value, rfl, notNull⟩
  · rcases missing with rfl | rfl <;> exact nofun
  · rw [(fixedSites_of_present notNull).1]
    exact EachRecord.revised keyed fun _ => noLegacyId_reconcileSimple

theorem canonicalSystem_fixSystem {system : Record} (keyed : system.WellKeyed) :
    CanonicalSystem (fixSystem system).value := by
  have sites := get?_fixSystem_sites keyed
  have units := get?_fixSystem_units keyed
  have talkgroups := get?_fixSystem_talkgroups keyed
  refine ⟨noLegacyId_fixSystem keyed, ⟨_, sites, fixedSites_ne_null _⟩, ?_, ?_, ?_⟩
  · intro key member
    simp only [memberKeys, List.mem_cons, List.not_mem_nil, or_false] at member
    rcases member with rfl | rfl | rfl
    · rw [sites]
      exact eachRecord_fixedSites (keyed.keyedValue _)
    · rw [units]
      exact .revised (keyed.keyedValue _) fun _ => noLegacyId_reconcileUnit
    · rw [talkgroups]
      exact .revised (keyed.keyedValue _) fun _ => noLegacyId_reconcileTalkgroup
  · rw [units]
    exact .revised (keyed.keyedValue _) fun unit _ _ member =>
      has_unitField_reconcileUnit unit member
  · rw [talkgroups]
    exact .revised (keyed.keyedValue _) fun _ => no_groupId_reconcileTalkgroup

end Systems

theorem completeOptions_complete {options : Record} (keyed : options.WellKeyed) :
    CompleteOptions (completeOptions options).value :=
  ⟨fun _ => has_completeOptions_canonical keyed, fun _ => has_completeOptions_obsolete keyed⟩

theorem EachRecord.collectionAfter {property : Record → Prop} {collection : Collection}
    {value : Option Json}
    (each : EachRecord property (value.map (revisedItems reconcileSimple))) :
    EachRecord property (value.map (collectionAfter collection)) := by
  intro record member
  cases value with
  | none => simp [recordsOf] at member
  | some before => exact each record (mem_recordsOf_collectionAfter.mp member)

theorem labelSorted_collectionAfter {collection : Collection} {value : Json} {items : List Json}
    (labelled : collection.isLabelSorted = true)
    (found : collectionAfter collection value = .array items) : LabelSorted items := by
  rw [collectionAfter, if_pos labelled] at found
  cases reconciled : revisedItems reconcileSimple value with
  | array revised =>
    rw [reconciled, sortedItems, Json.array.injEq] at found
    rw [← found]
    exact sorted_sortByLabel revised
  | _ => simp [reconciled, sortedItems] at found

/-- One pass brings every document with an object at its root into canonical shape. -/
theorem normalize_canonicalShape {root : Record} (keyed : (Json.object root).wellKeyed = true) :
    ∃ after, (normalize (.object root)).value = .object after ∧ CanonicalShape root after := by
  have keyedRoot := Json.wellKeyed_object.mp keyed
  refine ⟨(normalizeRoot root).value, normalize_object root, ?_, ?_, ?_, ?_, ?_⟩
  · exact fun spelling member =>
      Entries.has_eq_false_iff.mpr (normalizeRoot_spelling keyedRoot member)
  · intro collection
    rw [normalizeRoot_collection keyedRoot]
    exact .collectionAfter <| .revised (keyedValue_collection keyedRoot collection) fun _ =>
      noLegacyId_reconcileSimple
  · intro collection labelled items found
    rw [normalizeRoot_collection keyedRoot] at found
    obtain ⟨value, _, becomes⟩ := Option.map_eq_some_iff.mp found
    exact labelSorted_collectionAfter labelled becomes
  · rw [normalizeRoot_systems keyedRoot]
    exact .revised (keyedRoot.keyedValue _) fun _ => canonicalSystem_fixSystem
  · intro readable
    rw [normalizeRoot_options keyedRoot]
    cases found : root.get? optionsKey with
    | none => exact ⟨_, rfl, completeOptions_complete .nil⟩
    | some value =>
      rcases readable value found with rfl | ⟨options, rfl⟩
      · exact ⟨_, rfl, completeOptions_complete .nil⟩
      · exact ⟨_, rfl, completeOptions_complete (Json.wellKeyed_object.mp (keyedRoot.value found))⟩

theorem normalize_canonicalShape_mixed :
    let root : Record := [
      ("apiKeys", .array [.object [("_id", .ofNat 1), ("id", .ofNat 2)], .null]),
      ("groups", .array [.object [("_id", .ofNat 3), ("label", .string "north")], .ofNat 7]),
      ("systems", .array [.object [("_id", .ofNat 4), ("id", .ofNat 5), ("sites", .null),
        ("units", .array [.object [("_id", .ofNat 6), ("id", .ofNat 8)]]),
        ("talkgroups", .array [.object [("id", .ofNat 9), ("groupId", .string "fire")]])]]),
      ("options", .object [("tagsToggle", .bool true)])]
    (Json.object root).wellKeyed = true ∧
      ∃ after, (normalize (.object root)).value = .object after ∧ CanonicalShape root after :=
  ⟨by decide, normalize_canonicalShape (by decide)⟩

end ScannerConfig.Normalization
