import ScannerConfig.Proofs.CanonicalShape
import ScannerConfig.Proofs.TypedOptions
import ScannerConfig.Proofs.TypedRecords

namespace ScannerConfig

open Normalization (systemsKey optionsKey)

namespace Configuration

def collectionSlot (which : Collection) : Slot Configuration where
  key := which.key
  field := .optional (readList Entity.read) fun items => .array (items.map Entity.write)
  get config := config.collections which
  set config items := config.withCollection which items

def systemsSlot : Slot Configuration where
  key := systemsKey
  field := .optional (readList RadioSystem.read) fun systems => .array (systems.map RadioSystem.write)
  get := systems
  set config systems := { config with systems }

def optionsSlot : Slot Configuration where
  key := optionsKey
  field := .defaulted Options.read (fun options => .object options.entries) .default
  get := options
  set config options := { config with options }

def schema : RecordSchema Configuration where
  slots := [Collection.access, .apiKeys, .dirWatch, .downstreams, .groups, .tags].map collectionSlot ++
    [systemsSlot] ++ [Collection.users, .userGroups].map collectionSlot ++ [optionsSlot]
  empty := empty
  extra := Configuration.extra
  append config entry := { config with extra := config.extra ++ [entry] }

theorem mem_slots {slot : Slot Configuration} :
    slot ∈ schema.slots ↔
      (∃ which, slot = collectionSlot which) ∨ slot = systemsSlot ∨ slot = optionsSlot := by
  simp only [schema, List.mem_append, List.mem_map, List.mem_singleton]
  constructor
  · rintro (((⟨which, _, rfl⟩ | rfl) | ⟨which, _, rfl⟩) | rfl)
    · exact .inl ⟨which, rfl⟩
    · exact .inr (.inl rfl)
    · exact .inl ⟨which, rfl⟩
    · exact .inr (.inr rfl)
  · have two : ∀ which : Collection,
        which ∈ [Collection.access, .apiKeys, .dirWatch, .downstreams, .groups, .tags] ∨
          which ∈ [Collection.users, .userGroups] := by
      intro which
      cases which <;> decide
    rintro (⟨which, rfl⟩ | rfl | rfl)
    · rcases two which with first | last
      · exact .inl (.inl (.inl ⟨which, first, rfl⟩))
      · exact .inl (.inr ⟨which, last, rfl⟩)
    · exact .inl (.inl (.inr rfl))
    · exact .inr rfl

theorem lawful_schema : schema.Lawful where
  distinct := by decide
  get_empty := by
    intro slot member
    rcases mem_slots.mp member with ⟨which, rfl⟩ | rfl | rfl <;> rfl
  extra_empty := rfl
  get_set := by
    intro slot member config _ value
    rcases mem_slots.mp member with ⟨which, rfl⟩ | rfl | rfl
    · exact if_pos rfl
    · rfl
    · rfl
  get_set_other := by
    intro slot member other memberOther different config value
    rcases mem_slots.mp member with ⟨which, rfl⟩ | rfl | rfl <;>
      rcases mem_slots.mp memberOther with ⟨another, rfl⟩ | rfl | rfl
    · exact if_neg fun same => different (congrArg Collection.key same)
    all_goals first | rfl | exact absurd rfl different
  extra_set := by
    intro slot member config value
    rcases mem_slots.mp member with ⟨which, rfl⟩ | rfl | rfl <;> rfl
  get_append := by
    intro slot member config entry
    rcases mem_slots.mp member with ⟨which, rfl⟩ | rfl | rfl <;> rfl
  extra_append _ _ := rfl

theorem extensional_schema : schema.Extensional := by
  rintro ⟨collections, systems, options, extra⟩ other slots same
  have each := fun which => slots _ (mem_slots.mpr (.inl ⟨which, rfl⟩))
  have sameSystems := slots _ (mem_slots.mpr (.inr (.inl rfl)))
  have sameOptions := slots _ (mem_slots.mpr (.inr (.inr rfl)))
  have sameCollections : collections = other.collections := funext each
  obtain ⟨⟩ := other
  cases sameCollections
  cases sameSystems
  cases sameOptions
  cases same
  rfl

theorem collection?_key (which : Collection) : collection? which.key = some which := by
  cases which <;> decide

theorem collection?_unknown {key : String} (unknown : key ∉ Collection.all.map Collection.key) :
    collection? key = none := by
  rw [collection?, List.find?_eq_none]
  intro which member same
  exact unknown (List.mem_map.mpr ⟨which, member, eq_of_beq same⟩)

theorem keys_schema {key : String} :
    key ∈ schema.keys ↔ key ∈ Collection.all.map Collection.key ∨ key = systemsKey ∨ key = optionsKey := by
  have subset : schema.keys ⊆ Collection.all.map Collection.key ++ [systemsKey, optionsKey] := by decide
  have superset : Collection.all.map Collection.key ++ [systemsKey, optionsKey] ⊆ schema.keys := by decide
  refine ⟨fun member => ?_, fun member => superset ?_⟩
  · simpa using subset member
  · simpa using member

theorem addedBy_schema : schema.AddedBy add where
  known := by
    intro slot member config value
    rcases mem_slots.mp member with ⟨which, rfl⟩ | rfl | rfl
    · simp only [add, collectionSlot, collection?_key, Field.optional]
      cases ShapeError.optional (readList Entity.read) value <;> rfl
    · have none : collection? systemsKey = none := by decide
      simp only [add, systemsSlot, none, Field.optional]
      cases ShapeError.optional (readList RadioSystem.read) value <;> rfl
    · have none : collection? optionsKey = none := by decide
      simp only [add, optionsSlot, none, Field.defaulted]
      cases Options.read value <;> rfl
  unknown := by
    rintro ⟨key, value⟩ unknown config
    rw [keys_schema, not_or, not_or] at unknown
    obtain ⟨noCollection, noSystems, noOptions⟩ := unknown
    simp only [add, collection?_unknown noCollection]
    split
    · exact absurd rfl noSystems
    · exact absurd rfl noOptions
    · rfl

/-- What is left out of a document and, with `fill`, what is added to it. -/
def view (fill : Bool) : RecordView where
  nullable := Collection.all.map Collection.key ++ [systemsKey]
  defaults := if fill then [(optionsKey, .object defaultOptions)] else []
  inside key :=
    if key ∈ Collection.all.map Collection.key then Entity.view.items
    else if key = systemsKey then (RadioSystem.view fill).items
    else fun value => value
  distinct := by cases fill <;> simp [Entries.Distinct, Entries.keys]

theorem restates : Restates ofJson toJson (view true).item := by
  refine RecordSchema.restates .config lawful_schema extensional_schema addedBy_schema
    (fun value => rfl) (fun config => ?_) (fun slot member => ?_) fun key unknown => ?_
  · simp [toJson, RecordSchema.entries, RecordSchema.slotEntries, schema, collectionSlot,
      systemsSlot, optionsSlot, collectionEntry, Field.optional, Field.defaulted, listEntry,
      givenEntry, systemsKey, optionsKey]
  · rcases mem_slots.mp member with ⟨which, rfl⟩ | rfl | rfl
    · have known := List.mem_map_of_mem (f := Collection.key) (Collection.mem_all which)
      have inside : Restates (readList Entity.read) (fun items => .array (items.map Entity.write))
          ((view true).inside which.key) := by
        simp only [view, if_pos known]
        exact Entity.restates.list
      have noDefault : (view true).defaults.get? which.key = none := by cases which <;> rfl
      exact Field.shows_optional inside (fun _ _ _ _ => rfl) (List.mem_append_left _ known) noDefault
    · exact Field.shows_optional RadioSystem.restates.list (fun _ _ _ _ => rfl) (by decide) rfl
    · exact Field.shows_defaulted Options.restates (by decide) rfl (by decide) rfl rfl
  · have inside : (view true).inside key = fun value => value := by
      rw [keys_schema, not_or, not_or] at unknown
      simp only [view, if_neg unknown.1, if_neg unknown.2.1]
    exact RecordView.found_unknown (by decide) (by decide) unknown inside

end Configuration

/-- The document without the nulls that mean the same as nothing. -/
def Json.withoutNulls (document : Json) : Json :=
  (Configuration.view false).item document

/-- The document without such nulls and with the values that the schema writes for what is
missing: no sites, null for the fields of a unit, and the options from their table. -/
def Json.completed (document : Json) : Json :=
  (Configuration.view true).item document

namespace Normalization

open Revision

variable {root system record : Record}

theorem apply_reconcileUnit (record : Record) :
    (RadioUnit.view true).apply (reconcileUnit record).value =
      (RadioUnit.view false).apply (reconcileUnit record).value := by
  refine RecordView.apply_congr rfl (fun _ _ => rfl) fun entry member => ?_
  have filled : entry ∈ unitFields.map fun field => (field, Json.null) := by
    simpa [RadioUnit.view] using member
  obtain ⟨field, inside, rfl⟩ := List.mem_map.mp filled
  exact has_unitField_reconcileUnit record inside

theorem apply_fixSystem (keyed : system.WellKeyed) :
    (RadioSystem.view true).apply (fixSystem system).value =
      (RadioSystem.view false).apply (fixSystem system).value := by
  refine RecordView.apply_congr rfl (fun entry member => ?_) fun entry member => ?_
  · obtain ⟨key, value⟩ := entry
    have found := Entries.get?_of_mem (keepsKeyed_fixSystem system keyed).distinct member
    by_cases units : key = unitsKey
    · subst units
      rw [get?_fixSystem_units keyed] at found
      obtain ⟨given, _, rfl⟩ := Option.map_eq_some_iff.mp found
      exact RecordView.items_revisedItems fun unit _ => apply_reconcileUnit unit
    · simp only [RadioSystem.view, if_neg units]
  · have filled : entry.1 = sitesKey := by
      simp only [RadioSystem.view, if_true, Bool.false_eq_true, if_false, List.append_nil,
        List.mem_singleton] at member
      rw [member]
    rw [filled, Entries.has, get?_fixSystem_sites keyed]
    rfl

/-- A normalized document has all that the schema writes. -/
theorem completed_normalize {given : Json} (keyed : given.wellKeyed = true) :
    (normalize given).value.completed = (normalize given).value.withoutNulls := by
  cases given with
  | object root =>
    have record := Json.wellKeyed_object.mp keyed
    refine congrArg Json.object ?_
    refine RecordView.apply_congr rfl (fun entry member => ?_) fun entry member => ?_
    · obtain ⟨key, value⟩ := entry
      have found := Entries.get?_of_mem (keepsKeyed_normalizeRoot root record).distinct member
      by_cases systems : key = systemsKey
      · subst systems
        rw [normalizeRoot_systems record] at found
        obtain ⟨systems, there, rfl⟩ := Option.map_eq_some_iff.mp found
        refine RecordView.items_revisedItems fun system inside => apply_fixSystem ?_
        exact wellKeyed_of_mem_recordsOf (record.keyedValue systemsKey) (there ▸ inside)
      · simp only [Configuration.view, if_neg systems]
    · have filled : entry.1 = optionsKey := by
        simp only [Configuration.view, if_true, Bool.false_eq_true, if_false, List.append_nil,
          List.mem_singleton] at member
        rw [member]
      change Entries.has (normalizeRoot root).value entry.1 = true
      rw [filled, Entries.has, normalizeRoot_options record]
      rfl
  | _ => rfl

end Normalization

/-- What the typed view of a document is written as: the document completed. It has the same
typed view, and where the document was normalized nothing had to be completed. -/
theorem Configuration.ofJson_restated {document : Json} {config : Configuration}
    (keyed : document.wellKeyed = true) (read : Configuration.ofJson document = .ok config) :
    config.toJson.wellKeyed = true ∧ config.toJson.same document.completed = true ∧
      Configuration.ofJson config.toJson = .ok config ∧
        ∀ given : Json, given.wellKeyed = true → document = (normalize given).value →
          config.toJson.same document.withoutNulls = true := by
  obtain ⟨keyedWritten, same, again⟩ := Configuration.restates keyed read
  refine ⟨keyedWritten, same, again, fun given keyedGiven normal => ?_⟩
  rw [normal, ← Normalization.completed_normalize keyedGiven, ← normal]
  exact same

theorem Configuration.ofJson_restated_county :
    let given : Json := .object [
      ("systems", .array [.object [("_id", .ofNat 3), ("id", .ofNat 42),
        ("units", .array [.object [("id", .ofNat 7001), ("label", .string "Medic")]]),
        ("talkgroups", .null)]]),
      ("users", .null), ("version", .string "7")]
    given.wellKeyed = true ∧ ∃ config, Configuration.ofJson (normalize given).value = .ok config ∧
      config.toJson.same (normalize given).value.completed = true ∧
        Configuration.ofJson config.toJson = .ok config ∧
          config.toJson.same (normalize given).value.withoutNulls = true := by
  intro given
  have keyed : given.wellKeyed = true := by decide
  have readable : (Configuration.ofJson (normalize given).value).toOption.isSome = true := by
    decide +kernel
  cases read : Configuration.ofJson (normalize given).value with
  | error fault =>
    rw [read] at readable
    exact Bool.noConfusion readable
  | ok config =>
    obtain ⟨_, same, again, onlyNulls⟩ :=
      Configuration.ofJson_restated (Normalization.wellKeyed_normalize keyed) read
    exact ⟨keyed, config, rfl, same, again, onlyNulls given keyed rfl⟩

end ScannerConfig
