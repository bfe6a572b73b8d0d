import Mathlib
import ScannerConfig.Proofs.CommandRuns

namespace ScannerConfig

variable {σ : Type}

/-- How an import leaves the files. It replaces what is stored by the normalized input, in the
form in which documents are stored, or it fails and leaves what is stored as it was. -/
structure AllOrNothing (around : Surroundings) (file : String) (resolved : Except Failure Target)
    (before after : Disk) (status : Nat) : Prop where
  replaced : status = 0 → ∃ target bytes document, resolved = .ok target ∧
    Act.IsInput around file before bytes ∧ Upload.parse bytes = .ok document ∧
      after.read target.store = .ok (Utf8.encode (normalize document).value.pretty.toList) ∧
        after.read (FileStore.temporary target.store) = .error .notFound
  kept : status ≠ 0 → ∀ target, resolved = .ok target → Disk.Kept target.store before after
  unresolved : ∀ failure, resolved = .error failure → status ≠ 0 ∧ after = before

namespace Command

variable [Files (StateM σ)] {disk : σ → Disk} {start : σ}

/-- An import for review touches nothing. -/
theorem importFile_review (dependable : Dependable disk) (around : Surroundings)
    (flags : GlobalFlags) (file : String) (start : σ) :
    disk (((Command.importFile file true).run (m := StateM σ) around flags).run start).2 =
      disk start := by
  obtain ⟨found, preferred, same⟩ := Act.runs_preferences dependable around [] start
  obtain ⟨input, more, middle, taken, kept, _⟩ := Act.runs_takeInput dependable around file [] found
  rw [run_eq]
  simp only [act, Act.importFile, Act.runs_bind, preferred, taken]
  cases input with
  | error failure => exact kept.trans same
  | ok taken => exact kept.trans same

/-- A run that fails without having touched anything. -/
theorem allOrNothing_of_untouched {around : Surroundings} {file : String}
    {resolved : Except Failure Target} {before after : Disk} {status : Nat} (failed : status ≠ 0)
    (same : after = before) : AllOrNothing around file resolved before after status where
  replaced ended := absurd ended failed
  kept _ target _ := same ▸ Disk.Kept.refl target.store before
  unresolved _ _ := ⟨failed, same⟩

theorem importFile_apply (dependable : Dependable disk) (around : Surroundings)
    (flags : GlobalFlags) (file : String) (rooted : (disk start).Rooted) :
    let run := ((Command.importFile file false).run (m := StateM σ) around flags).run start
    AllOrNothing around file
      (target flags (Act.found around start) (Preferences.settingsPath around.environment))
      (disk start) (disk run.2) run.1.status := by
  obtain ⟨ready, preferred, same⟩ := Act.runs_preferences dependable around [] start
  obtain ⟨input, more, middle, took, kept, given⟩ :=
    Act.runs_takeInput dependable around file [] ready
  have untouched : disk middle = disk start := kept.trans same
  dsimp only
  rw [run_eq]
  simp only [act, Act.importFile, Act.runs_bind, preferred, took]
  cases input with
  | error failure => exact allOrNothing_of_untouched (status_ne_zero failure) untouched
  | ok taken =>
    simp only [Bool.false_eq_true, if_false, Act.runs_bind, Act.runs_ofExcept]
    generalize target flags (Act.found around start)
      (Preferences.settingsPath around.environment) = resolved
    cases resolved with
    | error failure => exact allOrNothing_of_untouched (status_ne_zero failure) untouched
    | ok target =>
      dsimp only
      cases flags.yes with
      | false => exact allOrNothing_of_untouched (status_ne_zero (.unconfirmed "import")) untouched
      | true =>
        obtain ⟨bytes, document, isInput, parsed, normal⟩ := given taken rfl
        rw [← untouched] at rooted
        obtain ⟨saved, failed⟩ := dependable.save rooted target.store taken.document
        simp only [if_true, Act.runs_bind, Act.runs_onStore]
        generalize (FileStore.save (m := StateM σ) target.store taken.document .replace).run middle =
          saving at saved failed ⊢
        obtain ⟨result, final⟩ := saving
        rw [← untouched]
        cases result with
        | error fault =>
          refine ⟨fun ended => absurd ended (status_ne_zero _), ?_, nofun⟩
          rintro _ other ⟨⟩
          exact failed fault rfl
        | ok _ =>
          obtain ⟨stored, gone⟩ := saved rfl
          refine ⟨fun _ => ⟨target, bytes, document, rfl, ?_, parsed, ?_, gone⟩, ?_, nofun⟩
          · rw [untouched, ← same]
            exact isInput
          · rw [← normal]
            exact stored
          · exact fun failed => absurd rfl failed

section Disk

variable {disk : Disk} {around : Surroundings} {flags : GlobalFlags} {file : String}
  {bytes : List UInt8} {taken : Import} {goal : Target}

/-- A confirmed import of a readable file ends as its save ends. -/
theorem run_importFile (named : file ≠ Act.standardInput) (read : disk.read file = .ok bytes)
    (prepared : prepareImport bytes = .ok taken)
    (resolved : target flags (Act.found around disk) (Preferences.settingsPath around.environment) =
      .ok goal) (confirmed : flags.yes = true) :
    let run := ((Command.importFile file false).run (m := StateM Disk) around flags).run disk
    let saving := (FileStore.save (m := StateM Disk) goal.store taken.document .replace).run disk
    run.2 = saving.2 ∧ (run.1.status = 0 ↔ saving.1 = .ok ()) := by
  obtain ⟨ready, preferred, same⟩ := Act.runs_preferences dependable_disk around [] disk
  rw [show ready = disk from same] at preferred
  have input : (Act.readInput (m := StateM Disk) around file).runs [] disk =
      ((.ok bytes, []), disk) := by
    rw [Act.readInput, if_neg named, Act.runs_bind]
    have answered : Act.runs (ExceptT.lift (StateT.lift (Files.read (m := StateM Disk) file))) [] disk =
        ((.ok (disk.read file), []), disk) := rfl
    rw [answered, read]
    rfl
  obtain ⟨more, logged⟩ := Act.runs_logAll (taken.notices.map LogEntry.ofNotice) [] disk
  have took : (Act.takeInput (m := StateM Disk) around file).runs [] disk =
      ((.ok taken, more), disk) := by
    rw [Act.takeInput, Act.runs_bind, input]
    simp only [Act.runs_bind, Act.runs_ofExcept, prepared, Except.mapError, logged]
    rfl
  dsimp only
  rw [run_eq]
  simp only [act, Act.importFile, Act.runs_bind, preferred, took, Bool.false_eq_true, if_false,
    Act.runs_ofExcept, resolved, confirmed, if_true, Act.runs_onStore]
  cases (FileStore.save (m := StateM Disk) goal.store taken.document .replace).run disk with
  | mk result final =>
    cases result with
    | ok _ => exact ⟨rfl, iff_of_true rfl rfl⟩
    | error fault => exact ⟨rfl, iff_of_false (status_ne_zero _) (by simp)⟩

end Disk

def confirmedFor (store : String) : GlobalFlags :=
  ⟨none, some store, none, .auto, 0, false, true⟩

def quietSurroundings : Surroundings := ⟨[], [], 0, false⟩

/-- A store that is given wins, unless a profile is asked for that is not there. -/
theorem target_of_store (flags : GlobalFlags) {store : String} (named : flags.store = some store)
    (unprofiled : flags.profile = none) (preferences : Preferences) (settingsPath : String) :
    ∃ folder, target flags preferences settingsPath = .ok ⟨store, folder⟩ := by
  simp [target, named, unprofiled]

theorem target_confirmedFor (store settingsPath : String) (preferences : Preferences) :
    ∃ folder, target (confirmedFor store) preferences settingsPath = .ok ⟨store, folder⟩ :=
  target_of_store (confirmedFor store) rfl rfl preferences settingsPath

/-- An import for review touches nothing; any other replaces the store as a whole or leaves it as
it was, wherever it fails. -/
theorem importFile_allOrNothing (dependable : Dependable disk) (around : Surroundings)
    (flags : GlobalFlags) (file : String) (rooted : (disk start).Rooted) :
    disk (((Command.importFile file true).run (m := StateM σ) around flags).run start).2 =
        disk start ∧
      let run := ((Command.importFile file false).run (m := StateM σ) around flags).run start
      AllOrNothing around file
        (target flags (Act.found around start) (Preferences.settingsPath around.environment))
        (disk start) (disk run.2) run.1.status :=
  ⟨importFile_review dependable around flags file start,
    importFile_apply dependable around flags file rooted⟩

/-- An input to import into a folder that is not there yet. -/
def inputDisk : Disk :=
  ⟨[(["in.json"], .file [0x7B, 0x7D])], []⟩

/-- A save makes the folder that is missing. -/
theorem save_inputDisk (document : Json) :
    ∃ final, (FileStore.save (m := StateM Disk) "data/config.json" document .replace).run inputDisk =
      (.ok (), final) := by
  have beside : FileStore.temporary "data/config.json" = "data/config.json.tmp" := by cbv
  have made : (makeFolderOf "data/config.json" : StateM Disk _).run inputDisk =
      (.ok (), inputDisk.put ["data"] .folder) := by cbv
  have wrote : ∀ content, (inputDisk.put ["data"] .folder).write "data/config.json.tmp" content =
      .ok ((inputDisk.put ["data"] .folder).put ["data", "config.json.tmp"] (.file content)) := by
    intro content
    cbv
  have moved : ∀ content, ((inputDisk.put ["data"] .folder).put ["data", "config.json.tmp"]
      (.file content)).rename "data/config.json.tmp" "data/config.json" =
        .ok ((inputDisk.put ["data"] .folder).put ["data", "config.json"] (.file content)) := by
    intro content
    cbv
  rw [← beside] at wrote moved
  exact ⟨_, FileStore.save_done made (wrote (Utf8.encode document.pretty.toList)) (moved _)⟩

theorem importFile_done :
    ((Command.importFile "in.json" false).run (m := StateM Disk) quietSurroundings
      (confirmedFor "data/config.json")).run inputDisk |>.1.status = 0 := by
  have read : inputDisk.read "in.json" = .ok [0x7B, 0x7D] := by cbv
  obtain ⟨taken, prepared⟩ : ∃ taken, prepareImport [0x7B, 0x7D] = .ok taken := ⟨_, rfl⟩
  obtain ⟨folder, resolved⟩ := target_confirmedFor "data/config.json"
    (Preferences.settingsPath quietSurroundings.environment) (Act.found quietSurroundings inputDisk)
  obtain ⟨final, saved⟩ := save_inputDisk taken.document
  obtain ⟨_, ended⟩ := run_importFile (by decide) read prepared resolved rfl
  exact ended.mpr (congrArg Prod.fst saved)

theorem importFile_allOrNothing_newFolder :
    let run := ((Command.importFile "in.json" false).run (m := StateM Disk) quietSurroundings
      (confirmedFor "data/config.json")).run inputDisk
    inputDisk.Rooted ∧ run.1.status = 0 ∧
      run.2.read "data/config.json" =
        .ok (Utf8.encode (ScannerConfig.normalize (.object [])).value.pretty.toList) ∧
      run.2.read "data/config.json.tmp" = .error .notFound := by
  have rooted : inputDisk.Rooted := ⟨FileTree.rooted_of_entries (by decide), by decide⟩
  have read : inputDisk.read "in.json" = .ok [0x7B, 0x7D] := by cbv
  obtain ⟨folder, resolved⟩ := target_confirmedFor "data/config.json"
    (Preferences.settingsPath quietSurroundings.environment) (Act.found quietSurroundings inputDisk)
  have beside : FileStore.temporary "data/config.json" = "data/config.json.tmp" := by cbv
  obtain ⟨target, bytes, document, same, input, parsed, stored, gone⟩ :=
    (importFile_allOrNothing dependable_disk quietSurroundings (confirmedFor "data/config.json")
      "in.json" rooted).2.replaced importFile_done
  cases resolved.symm.trans same
  rw [Act.IsInput, if_neg (by decide), read] at input
  cases input
  cases (show Upload.parse [0x7B, 0x7D] = .ok (.object []) from rfl).symm.trans parsed
  rw [beside] at gone
  exact ⟨rooted, importFile_done, stored, gone⟩

/-- An input to import beside another document, where no temporary file can be written. -/
def hinderedDisk : Disk :=
  ⟨[(["in.json"], .file [0x7B, 0x7D]), (["b"], .file [0x31]), (["b.tmp"], .folder)], []⟩

/-- A save that fails after its folder was made. -/
theorem save_hinderedDisk (document : Json) :
    ∃ fault, (FileStore.save (m := StateM Disk) "a/../b" document .replace).run hinderedDisk =
      (.error fault, hinderedDisk.put ["a"] .folder) := by
  have made : (makeFolderOf "a/../b" : StateM Disk _).run hinderedDisk =
      (.ok (), hinderedDisk.put ["a"] .folder) := by cbv
  have beside : (hinderedDisk.put ["a"] .folder).locate (Path.ofText (FileStore.temporary "a/../b")) =
      .ok ["b.tmp"] := by cbv
  refine FileStore.save_unwritten document made fun content after wrote => ?_
  obtain ⟨place, located, _, noFolder, _⟩ := Disk.write_ok wrote
  cases beside.symm.trans located
  exact noFolder (by decide)

/-- A failed import can let a path with a step up lead to a file for the first time, through a
folder that was made. -/
theorem importFile_opens_path :
    let run := ((Command.importFile "in.json" false).run (m := StateM Disk) quietSurroundings
      (confirmedFor "a/../b")).run hinderedDisk
    hinderedDisk.read "a/../b" = .error .notFound ∧ run.1.status ≠ 0 ∧
      run.2.read "a/../b" = .ok [0x31] := by
  have read : hinderedDisk.read "in.json" = .ok [0x7B, 0x7D] := by cbv
  have stored : (hinderedDisk.put ["a"] .folder).read "a/../b" = .ok [0x31] := by cbv
  have absent : hinderedDisk.read "a/../b" = .error .notFound := by cbv
  obtain ⟨taken, prepared⟩ : ∃ taken, prepareImport [0x7B, 0x7D] = .ok taken := ⟨_, rfl⟩
  obtain ⟨folder, resolved⟩ := target_confirmedFor "a/../b"
    (Preferences.settingsPath quietSurroundings.environment) (Act.found quietSurroundings hinderedDisk)
  obtain ⟨after, ended⟩ := run_importFile (by decide) read prepared resolved rfl
  obtain ⟨fault, saved⟩ := save_hinderedDisk taken.document
  rw [saved] at after ended
  refine ⟨absent, fun zero => (by cases ended.mp zero), ?_⟩
  rw [after]
  exact stored

end Command

end ScannerConfig
