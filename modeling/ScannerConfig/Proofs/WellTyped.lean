import Mathlib
import ScannerConfig.Proofs.TypedView

namespace ScannerConfig

open Normalization (systemsKey sitesKey unitsKey talkgroupsKey groupIdsKey optionsKey)

/-- A value that stands under a key, if there is one, is good. -/
def Entries.Allows (record : Record) (key : String) (good : Json → Prop) : Prop :=
  ∀ value ∈ record.get? key, good value

namespace Json

variable (good : Json → Prop)

def ListOf : Json → Prop
  | .array items => ∀ item ∈ items, good item
  | _ => False

def RecordWith (fits : Record → Prop) : Json → Prop
  | .object record => fits record
  | _ => False

/-- Null stands for a value that is not there. -/
def OrNull (value : Json) : Prop :=
  value.isNull = true ∨ good value

def IsList : Json → Prop :=
  ListOf fun _ => True

def IsRecord : Json → Prop :=
  RecordWith fun _ => True

end Json

open Json (ListOf RecordWith OrNull IsList IsRecord)

/-- Whether a value is of a kind. Numbers are integers without a sign that fit the width. -/
def SettingKind.holds : SettingKind → Json → Bool
  | .toggle, .bool _ => true
  | .text, .string _ => true
  | .number bits, .number (.integer value) => 0 ≤ value && value < 2 ^ bits
  | _, _ => false

/-- The canonical options by the kind of value that they take. -/
def optionKinds : List (SettingKind × List String) := [
  (.number 64, ["defaultSystemDelay", "dimmerDelay", "duplicateDetectionTimeFrame"]),
  (.number 32, ["maxClients", "pruneDays", "stripeGracePeriodDays"]),
  (.number 16, ["emailSmtpPort"]),
  (.text, ["baseUrl", "branding", "email", "keypadBeeps", "publicRegistrationMode",
    "stripePublishableKey", "stripeSecretKey", "emailProvider", "emailSmtpHost",
    "radioReferenceUsername"]),
  (.toggle, ["playbackGoesLive", "showListenersCount", "sortTalkgroups", "time12hFormat",
    "userRegistrationEnabled", "publicRegistrationEnabled", "stripePaywallEnabled",
    "emailServiceEnabled", "radioReferenceEnabled"])]

/-- No canonical option has a value of another kind than its own. -/
def TypedOptions (options : Record) : Prop :=
  ∀ group ∈ optionKinds, ∀ key ∈ group.2, options.Allows key fun value => group.1.holds value = true

/-- Options of their kinds, all of them. -/
@[mk_iff]
structure FullOptions (options : Record) : Prop where
  typed : TypedOptions options
  full : ∀ group ∈ optionKinds, ∀ key ∈ group.2, options.has key = true

def TypedTalkgroup (talkgroup : Record) : Prop :=
  talkgroup.Allows groupIdsKey (OrNull IsList)

@[mk_iff]
structure TypedSystem (system : Record) : Prop where
  sites : system.Allows sitesKey (ListOf IsRecord)
  units : system.Allows unitsKey (OrNull (ListOf IsRecord))
  talkgroups : system.Allows talkgroupsKey (OrNull (ListOf (RecordWith TypedTalkgroup)))

/-- A root of well-typed parts, with some requirement of its options. -/
@[mk_iff]
structure TypedRoot (fits : Record → Prop) (root : Record) : Prop where
  collections : ∀ collection : Collection, root.Allows collection.key (OrNull (ListOf IsRecord))
  systems : root.Allows systemsKey (OrNull (ListOf (RecordWith TypedSystem)))
  options : root.Allows optionsKey (RecordWith fits)

/-- A well-typed document; its options are complete, if it has options at all. -/
def Json.WellTyped : Json → Prop :=
  RecordWith (TypedRoot FullOptions)

/-- A document that is well typed but for options that it may lack. -/
def Json.WellTypedInPart : Json → Prop :=
  RecordWith (TypedRoot TypedOptions)

section Decide

instance {record : Record} {key : String} {good : Json → Prop} [DecidablePred good] :
    Decidable (record.Allows key good) :=
  inferInstanceAs (Decidable (∀ value ∈ record.get? key, good value))

instance {good : Json → Prop} [DecidablePred good] : DecidablePred (Json.ListOf good)
  | .array items => inferInstanceAs (Decidable (∀ item ∈ items, good item))
  | .null | .bool _ | .number _ | .string _ | .object _ => inferInstanceAs (Decidable False)

instance {fits : Record → Prop} [DecidablePred fits] : DecidablePred (Json.RecordWith fits)
  | .object record => inferInstanceAs (Decidable (fits record))
  | .null | .bool _ | .number _ | .string _ | .array _ => inferInstanceAs (Decidable False)

instance {good : Json → Prop} [DecidablePred good] : DecidablePred (Json.OrNull good) :=
  fun value => inferInstanceAs (Decidable (value.isNull = true ∨ good value))

instance : DecidablePred Json.IsList :=
  inferInstanceAs (DecidablePred (Json.ListOf fun _ => True))

instance : DecidablePred Json.IsRecord :=
  inferInstanceAs (DecidablePred (Json.RecordWith fun _ => True))

instance : DecidablePred TypedOptions := fun options =>
  inferInstanceAs (Decidable (∀ group ∈ optionKinds, ∀ key ∈ group.2,
    options.Allows key fun value => group.1.holds value = true))

instance : DecidablePred FullOptions := fun options =>
  decidable_of_iff' _ (fullOptions_iff options)

instance : DecidablePred TypedTalkgroup := fun talkgroup =>
  inferInstanceAs (Decidable (talkgroup.Allows groupIdsKey (OrNull IsList)))

instance : DecidablePred TypedSystem := fun system =>
  decidable_of_iff' _ (typedSystem_iff system)

instance {fits : Record → Prop} [DecidablePred fits] : DecidablePred (TypedRoot fits) := fun root =>
  have each : (∀ collection ∈ Collection.all,
      root.Allows collection.key (OrNull (ListOf IsRecord))) ↔
        ∀ collection : Collection, root.Allows collection.key (OrNull (ListOf IsRecord)) :=
    forall_congr' fun collection => imp_iff_right (Collection.mem_all collection)
  decidable_of_iff' _ ((typedRoot_iff fits root).trans (and_congr_left' each.symm))

instance : DecidablePred Json.WellTyped :=
  inferInstanceAs (DecidablePred (RecordWith (TypedRoot FullOptions)))

instance : DecidablePred Json.WellTypedInPart :=
  inferInstanceAs (DecidablePred (RecordWith (TypedRoot TypedOptions)))

end Decide

/-- A reader that succeeds on the good values and on no others. -/
def Accepts {τ : Type} (read : Json → Except ShapeError τ) (good : Json → Prop) : Prop :=
  ∀ ⦃value : Json⦄, value.wellKeyed = true → ((∃ result, read value = .ok result) ↔ good value)

section Readers

variable {τ : Type} {read : Json → Except ShapeError τ} {good : Json → Prop}

theorem accepts_any (total : ∀ value, ∃ result, read value = .ok result) :
    Accepts read fun _ => True :=
  fun value _ => iff_of_true (total value) trivial

theorem accepts_asList : Accepts ShapeError.asList IsList := by
  intro value _
  cases value with
  | array items => exact iff_of_true ⟨items, rfl⟩ fun _ _ => trivial
  | _ => exact iff_of_false (by simp [ShapeError.asList, ShapeError.mismatch]) id

theorem Accepts.list (accepts : Accepts read good) : Accepts (readList read) (ListOf good) := by
  intro value keyed
  cases value with
  | array items =>
    change (∃ results, items.mapM read = .ok results) ↔ ∀ item ∈ items, good item
    rw [mapM_succeeds_iff]
    exact forall₂_congr fun item member => accepts (Json.wellKeyed_array.mp keyed item member)
  | _ =>
    refine iff_of_false ?_ id
    simp [readList, ShapeError.asList, ShapeError.mismatch, bind, Except.bind]

theorem Accepts.optional (accepts : Accepts read good) :
    Accepts (ShapeError.optional read) (OrNull good) := by
  intro value keyed
  cases null : value.isNull with
  | true =>
    cases value with
    | null => exact iff_of_true ⟨none, rfl⟩ (.inl rfl)
    | _ => cases null
  | false =>
    rw [Field.optional_of_not_null null, map_succeeds_iff, accepts keyed, OrNull, null]
    simp

/-- A field is read from what is found under its key, and from nothing. -/
theorem Accepts.found {field : Field τ} (accepts : Accepts field.read good) {record : Record}
    (keyed : record.WellKeyed) (key : String) :
    (∃ content, field.found (record.get? key) = .ok content) ↔ record.Allows key good := by
  rw [Entries.Allows]
  cases there : record.get? key with
  | none => exact iff_of_true ⟨field.missing, rfl⟩ nofun
  | some value =>
    have here : (∃ content, field.found (some value) = .ok content) ↔ good value :=
      accepts (keyed.value there)
    simpa using here

variable {write : τ → Json} {record : Record}

theorem Accepts.found_optional (accepts : Accepts read good) (keyed : record.WellKeyed)
    (key : String) :
    (∃ content, (Field.optional read write).found (record.get? key) = .ok content) ↔
      record.Allows key (OrNull good) :=
  accepts.optional.found keyed key

theorem Accepts.found_defaulted (accepts : Accepts read good) (keyed : record.WellKeyed)
    (missing : τ) (key : String) :
    (∃ content, (Field.defaulted read write missing).found (record.get? key) = .ok content) ↔
      record.Allows key good :=
  accepts.found keyed key

/-- Of a record the typed view asks what the readers of its slots ask. -/
theorem Accepts.ofSchema (kind : RecordKind) {schema : RecordSchema τ}
    {add : τ → String × Json → Except ShapeError τ} {fits : Record → Prop} (lawful : schema.Lawful)
    (added : schema.AddedBy add)
    (reads : ∀ value, read value = ShapeError.asRecord kind value >>=
      fun entries => entries.foldlM add schema.empty)
    (each : ∀ record, record.WellKeyed →
      ((∀ slot ∈ schema.slots, ∃ content, slot.field.found (record.get? slot.key) = .ok content) ↔
        fits record)) :
    Accepts read (RecordWith fits) := by
  intro value keyed
  cases value with
  | object entries =>
    have record := Json.wellKeyed_object.mp keyed
    rw [reads]
    exact (added.accepts_iff lawful record.distinct).trans (each entries record)
  | _ =>
    refine iff_of_false ?_ id
    simp [reads, ShapeError.asRecord, ShapeError.mismatch, bind, Except.bind]

end Readers

theorem Field.accepts_scalar : Accepts Field.scalar.read fun _ => True :=
  accepts_any fun value => ⟨_, Field.read_scalar value⟩

theorem Entries.allows_any (record : Record) (key : String) : record.Allows key fun _ => True :=
  fun _ _ => trivial

theorem Entity.accepts : Accepts Entity.read IsRecord := by
  refine .ofSchema .entity lawful_schema addedBy_schema (fun value => ?_) fun record keyed => ?_
  · simp only [foldlM_ok]
    rfl
  · simp [schema, Field.accepts_scalar.found keyed, Entries.allows_any]

theorem RadioUnit.accepts : Accepts RadioUnit.read IsRecord := by
  have nullable : Accepts Field.nullable.read fun _ => True := accepts_any fun _ => ⟨_, rfl⟩
  refine .ofSchema .unit lawful_schema addedBy_schema (fun value => ?_) fun record keyed => ?_
  · simp only [foldlM_ok]
    rfl
  · simp [schema, Field.accepts_scalar.found keyed, nullable.found keyed, Entries.allows_any]

theorem Talkgroup.accepts : Accepts Talkgroup.read (RecordWith TypedTalkgroup) := by
  refine .ofSchema .talkgroup lawful_schema addedBy_schema (fun _ => rfl) fun record keyed => ?_
  simp [schema, Field.accepts_scalar.found keyed, accepts_asList.found_optional keyed,
    Entries.allows_any, TypedTalkgroup]

theorem RadioSystem.accepts : Accepts RadioSystem.read (RecordWith TypedSystem) := by
  refine .ofSchema .system lawful_schema addedBy_schema (fun _ => rfl) fun record keyed => ?_
  simp [schema, Field.accepts_scalar.found keyed, Entity.accepts.list.found_defaulted keyed,
    RadioUnit.accepts.list.found_optional keyed, Talkgroup.accepts.list.found_optional keyed,
    Entries.allows_any, typedSystem_iff]

theorem SettingKind.accepts (kind : SettingKind) :
    Accepts kind.read fun value => kind.holds value = true := by
  intro value _
  cases kind with
  | toggle => cases value <;> simp [read, holds, ShapeError.mismatch]
  | text => cases value <;> simp [read, holds, ShapeError.mismatch]
  | number bits =>
    have width : ∀ value : Int,
        0 ≤ value ∧ value.toNat < 1 <<< bits ↔ 0 ≤ value ∧ value < 2 ^ bits := by
      intro value
      refine and_congr_right fun natural => ?_
      rw [Nat.one_shiftLeft, Int.toNat_lt natural]
      norm_cast
    rcases value with _ | _ | (value | _) | _ | _ | _ <;>
      simp only [read, holds, ShapeError.mismatch, width, Bool.false_eq_true, iff_false]
    case integer =>
      by_cases fits : 0 ≤ value ∧ value < 2 ^ bits <;> simp [fits]
    all_goals simp

/-- The kinds of the options are those of the table. -/
theorem optionKinds_perm :
    (optionKinds.flatMap fun group => group.2.map fun key => (group.1, key)).Perm
      (optionTable.map fun row => (row.kind, row.key)) := by
  decide

theorem forall_option_iff (property : SettingKind → String → Prop) :
    (∀ group ∈ optionKinds, ∀ key ∈ group.2, property group.1 key) ↔
      ∀ row ∈ optionTable, property row.kind row.key := by
  have each : (∀ option ∈ optionKinds.flatMap fun group => group.2.map fun key => (group.1, key),
      property option.1 option.2) ↔
        ∀ option ∈ optionTable.map fun row => (row.kind, row.key), property option.1 option.2 :=
    forall_congr' fun option => imp_congr_left optionKinds_perm.mem_iff
  simpa only [List.forall_mem_flatMap, List.forall_mem_map] using each

namespace Options

theorem accepts_rowField (row : OptionRow) :
    Accepts (rowField row).read fun value => row.kind.holds value = true :=
  fun _ keyed => map_succeeds_iff.trans (row.kind.accepts keyed)

theorem finish_succeeds_iff {reading : Reading} :
    (∃ options, reading.finish = .ok options) ↔
      ∀ row ∈ optionTable, reading.settings.has row.key = true := by
  have each : (∃ settings, optionTable.mapM reading.setting = .ok settings) ↔
      ∀ row ∈ optionTable, reading.settings.has row.key = true := by
    simp only [mapM_succeeds_iff, setting_eq_ok_iff, Entries.has_eq_true_iff]
  rw [← each]
  have whole : reading.finish =
      (optionTable.mapM reading.setting).map fun settings => ⟨settings, reading.extra⟩ := rfl
  rw [whole]
  exact map_succeeds_iff

/-- While the options are read, a row has a setting if it has an entry. -/
theorem has_setting_iff {entries : Record} {reading : Reading}
    (holds : schema.Holds entries reading) {row : OptionRow} (member : row ∈ optionTable) :
    reading.settings.has row.key = true ↔ entries.has row.key = true := by
  have found : (rowField row).found (entries.get? row.key) = .ok (reading.settings.get? row.key) :=
    holds.slot (rowSlot row) (List.mem_map_of_mem member)
  rw [Entries.has, Entries.has]
  cases there : entries.get? row.key with
  | none =>
    rw [there] at found
    rw [← Except.ok.inj found]
    rfl
  | some value =>
    rw [there] at found
    obtain ⟨setting, -, same⟩ := map_ok found
    rw [← same]
    rfl

variable {entries : Record} (record : entries.WellKeyed)

include record

theorem readable_iff :
    (∃ reading, entries.foldlM Reading.add schema.empty = .ok reading) ↔ TypedOptions entries := by
  rw [addedBy_schema.accepts_iff lawful_schema record.distinct, TypedOptions,
    forall_option_iff fun kind key => entries.Allows key fun value => kind.holds value = true]
  simp only [schema, List.forall_mem_map]
  exact forall₂_congr fun row _ => (accepts_rowField row).found record row.key

theorem complete_iff {reading : Reading}
    (run : entries.foldlM Reading.add schema.empty = .ok reading) :
    (∃ options, reading.finish = .ok options) ↔
      ∀ group ∈ optionKinds, ∀ key ∈ group.2, entries.has key = true := by
  have holds := lawful_schema.holds_empty.run lawful_schema addedBy_schema record.distinct run
  rw [finish_succeeds_iff, forall_option_iff fun _ key => entries.has key = true]
  exact forall₂_congr fun row member => has_setting_iff holds member

omit record

theorem accepts : Accepts read (RecordWith FullOptions) := by
  intro value keyed
  cases value with
  | object entries =>
    have record := Json.wellKeyed_object.mp keyed
    change _ ↔ FullOptions entries
    rw [read_object, fullOptions_iff, ← readable_iff record]
    constructor
    · rintro ⟨options, ok⟩
      obtain ⟨reading, run, finish⟩ := bind_ok ok
      exact ⟨⟨reading, run⟩, (complete_iff record run).mp ⟨options, finish⟩⟩
    · rintro ⟨⟨reading, run⟩, full⟩
      rw [run]
      exact (complete_iff record run).mpr full
  | _ =>
    refine iff_of_false ?_ id
    simp [Options.read, ShapeError.asRecord, ShapeError.mismatch, bind, Except.bind]

end Options

/-- The typed view accepts the well-typed documents and no others. -/
theorem Configuration.accepts : Accepts ofJson Json.WellTyped := by
  refine .ofSchema .config lawful_schema addedBy_schema (fun _ => rfl) fun record keyed => ?_
  have slots : ∀ {property : Slot Configuration → Prop}, (∀ slot ∈ schema.slots, property slot) ↔
      (∀ which, property (collectionSlot which)) ∧ property systemsSlot ∧ property optionsSlot := by
    intro property
    simp only [mem_slots, or_imp, forall_and, forall_eq, forall_exists_index,
      forall_eq_apply_imp_iff]
  rw [slots, typedRoot_iff]
  refine and_congr (forall_congr' fun which => ?_) (and_congr ?_ ?_)
  · exact Entity.accepts.list.found_optional keyed which.key
  · exact RadioSystem.accepts.list.found_optional keyed systemsKey
  · exact Options.accepts.found_defaulted keyed .default optionsKey

end ScannerConfig
