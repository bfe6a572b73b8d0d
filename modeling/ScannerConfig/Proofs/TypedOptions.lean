import ScannerConfig.Proofs.RecordView

namespace ScannerConfig

/-- A setting that was read is written as the value it was read from. -/
theorem SettingKind.toJson_of_read {kind : SettingKind} {value : Json} {setting : Setting}
    (ok : kind.read value = .ok setting) : setting.toJson = value := by
  cases kind with
  | toggle =>
    cases value <;> simp [read, ShapeError.mismatch] at ok
    rw [← ok]
    rfl
  | text =>
    cases value <;> simp [read, ShapeError.mismatch] at ok
    rw [← ok]
    rfl
  | number bits =>
    rcases value with _ | _ | (value | _) | _ | _ | _ <;> simp [read, ShapeError.mismatch] at ok
    split at ok
    · rename_i fits
      cases ok
      rw [Setting.toJson, Json.ofNat, Int.toNat_of_nonneg fits.1]
    · cases ok

namespace Options

variable {row : OptionRow} {reading : Reading} {options : Options} {entries : Entries Json}

/-- A setting while it is read: null is no setting, and there is none before its entry. -/
def rowField (row : OptionRow) : Field (Option Setting) where
  read value := (row.kind.read value).map some
  missing := none
  write := Option.map Setting.toJson

def rowSlot (row : OptionRow) : Slot Reading where
  key := row.key
  field := rowField row
  get reading := reading.settings.get? row.key
  set reading setting := { reading with
    settings := reading.settings ++ setting.toList.map fun setting => (row.key, setting) }

def schema : RecordSchema Reading where
  slots := optionTable.map rowSlot
  empty := ⟨[], []⟩
  extra := Reading.extra
  append reading entry := { reading with extra := reading.extra ++ [entry] }

theorem keys_schema : schema.keys = optionKeys := by
  simp [RecordSchema.keys, schema, optionKeys, rowSlot]

theorem lawful_schema : schema.Lawful where
  distinct := by
    rw [keys_schema]
    exact optionKeys_nodup
  get_empty := by simp [schema, rowSlot, rowField, Entries.get?]
  extra_empty := rfl
  get_set := by
    simp only [schema, List.forall_mem_map]
    intro row _ reading absent setting
    change Entries.get? (reading.settings ++ _) row.key = setting
    rw [Entries.get?_append, show reading.settings.get? row.key = none from absent, Option.none_or]
    cases setting <;> simp [Entries.get?]
  get_set_other := by
    simp only [schema, List.forall_mem_map]
    intro row _ other _ different reading setting
    change Entries.get? (reading.settings ++ _) other.key = reading.settings.get? other.key
    have fresh : Entries.get? (setting.toList.map fun setting => (row.key, setting)) other.key = none := by
      have apart : row.key ≠ other.key := fun same => different same.symm
      cases setting <;> simp [Entries.get?, apart]
    rw [Entries.get?_append, fresh, Option.or_none]
  extra_set := by simp [schema, rowSlot]
  get_append := by simp [schema, rowSlot]
  extra_append _ _ := rfl

theorem row?_key (member : row ∈ optionTable) : row? row.key = some row := by
  have each : ∀ row ∈ optionTable, row? row.key = some row := by decide
  exact each row member

theorem row?_unknown {key : String} (unknown : key ∉ optionKeys) : row? key = none := by
  rw [row?, List.find?_eq_none]
  intro row member same
  exact unknown (List.mem_map.mpr ⟨row, member, eq_of_beq same⟩)

theorem addedBy_schema : schema.AddedBy Reading.add where
  known := by
    simp only [schema, List.forall_mem_map]
    intro row member reading value
    have found : row? (row.key, value).1 = some row := row?_key member
    simp only [Reading.add, rowSlot, rowField, found]
    cases row.kind.read value <;> rfl
  unknown := by
    intro entry unknown reading
    rw [keys_schema] at unknown
    rw [Reading.add, row?_unknown unknown]
    rfl

theorem shows_rowField (row : OptionRow) : (rowField row).Shows fun found => found := by
  intro found setting keyed ok
  rcases found with _ | value
  · cases ok
    exact ⟨nofun, .none, rfl⟩
  · have read : (row.kind.read value).map some = .ok setting := ok
    cases there : row.kind.read value with
    | error fault => simp [there, Except.map] at read
    | ok result =>
      rw [there] at read
      cases read
      have written : (rowField row).write (some result) = some value :=
        congrArg some (SettingKind.toJson_of_read there)
      rw [written]
      exact ⟨keyed, Json.sameFound_refl keyed, ok⟩

/-- The setting read for a row, which must be there in the end. -/
def Reading.setting (reading : Reading) (row : OptionRow) : Except ShapeError Setting :=
  match reading.settings.get? row.key with
  | some setting => .ok setting
  | none => .error (.missing row.key)

theorem setting_eq_ok_iff {row : OptionRow} {setting : Setting} :
    reading.setting row = .ok setting ↔ reading.settings.get? row.key = some setting := by
  rw [Reading.setting]
  cases reading.settings.get? row.key <;> simp

/-- Reading ends with options if every row has its setting. -/
theorem finish_eq_ok_iff :
    reading.finish = .ok options ↔
      List.Forall₂ (fun row setting => reading.settings.get? row.key = some setting) optionTable
        options.settings ∧ options.extra = reading.extra := by
  simp only [← setting_eq_ok_iff, ← mapM_eq_ok_iff]
  change (do
    let settings ← optionTable.mapM reading.setting
    pure (Options.mk settings reading.extra)) = .ok options ↔ _
  cases optionTable.mapM reading.setting with
  | error fault => simp [bind, Except.bind]
  | ok settings =>
    obtain ⟨otherSettings, extra⟩ := options
    simp [bind, Except.bind, pure, Except.pure, eq_comm]

/-- The settings are written under the keys of their rows. -/
theorem entries_of_finish (finish : reading.finish = .ok options) :
    options.entries = schema.entries reading := by
  obtain ⟨settings, extra⟩ := finish_eq_ok_iff.mp finish
  have zipped : ∀ {table : List OptionRow} {settings : List Setting},
      List.Forall₂ (fun row setting => reading.settings.get? row.key = some setting) table settings →
        (table.map OptionRow.key).zip (settings.map Setting.toJson) =
          RecordSchema.slotEntries (table.map rowSlot) reading := by
    intro table settings each
    induction each with
    | nil => rfl
    | cons here _ ih =>
      rw [List.map_cons, List.map_cons, List.zip_cons_cons, ih, List.map_cons,
        RecordSchema.slotEntries, RecordSchema.slotEntries, List.flatMap_cons]
      simp [rowSlot, rowField, here, givenEntry]
  rw [Options.entries, optionKeys, zipped settings, extra]
  rfl

theorem read_object : Options.read (.object entries) =
    entries.foldlM Reading.add schema.empty >>= Reading.finish :=
  rfl

/-- Options are written as they were read, in the order of the table. -/
theorem restates : Restates Options.read (fun options => .object options.entries) fun value => value := by
  intro value options keyed ok
  cases value with
  | object entries =>
    rw [read_object] at ok
    cases run : entries.foldlM Reading.add schema.empty with
    | error fault => simp [run, bind, Except.bind] at ok
    | ok reading =>
      have record := Json.wellKeyed_object.mp keyed
      have finish : reading.finish = .ok options := by rwa [run] at ok
      have holds : schema.Holds entries reading :=
        lawful_schema.holds_empty.run lawful_schema addedBy_schema record.distinct run
      have shows : ∀ slot ∈ schema.slots, slot.field.Shows fun found => found := by
        simp only [schema, List.forall_mem_map]
        exact fun row _ => shows_rowField row
      obtain ⟨keyedWritten, same, again⟩ := holds.shows lawful_schema record shows fun _ _ _ => rfl
      obtain ⟨result, rerun, other⟩ := addedBy_schema.reads lawful_schema keyedWritten.distinct again
      simp only [entries_of_finish finish, read_object, rerun]
      refine ⟨Json.wellKeyed_object.mpr keyedWritten,
        (Json.same_object keyedWritten.distinct record.distinct).mpr same, ?_⟩
      obtain ⟨settings, extra⟩ := finish_eq_ok_iff.mp finish
      have slots := other.slot_eq again
      simp only [schema, List.forall_mem_map] at slots
      refine finish_eq_ok_iff.mpr ⟨?_, extra.trans (again.extra.trans other.extra.symm)⟩
      exact ((List.forall₂_and_left _ _).mpr ⟨slots, settings⟩).imp fun _ _ both =>
        both.1.trans both.2
  | _ => simp [Options.read, ShapeError.asRecord, ShapeError.mismatch, bind, Except.bind] at ok

end Options

end ScannerConfig
