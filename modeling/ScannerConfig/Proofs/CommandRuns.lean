import Mathlib
import ScannerConfig.Command.Run
import ScannerConfig.Proofs.SafeSaves

namespace ScannerConfig

variable {σ α β : Type}

namespace Act

/-- A run of an act from some files, with the messages told so far. -/
def runs (act : Act (StateM σ) α) (told : List Message) (start : σ) :
    (Except Failure α × List Message) × σ :=
  (act.run.run told).run start

variable {disk : σ → Disk} {start : σ} {told : List Message}

theorem runs_bind (act : Act (StateM σ) α) (next : α → Act (StateM σ) β) (told : List Message)
    (start : σ) :
    (act >>= next).runs told start =
      match act.runs told start with
      | ((.ok value, told), middle) => (next value).runs told middle
      | ((.error failure, told), middle) => ((.error failure, told), middle) := by
  change ExceptT.bindCont next (act.runs told start).1.1 (act.runs told start).1.2
    (act.runs told start).2 = _
  cases act.runs told start with
  | mk answer middle =>
    obtain ⟨result, told⟩ := answer
    cases result <;> rfl

theorem runs_onStore (step : ExceptT Fault (StateM σ) α) (told : List Message) (start : σ) :
    (onStore step).runs told start =
      (((step.run start).1.mapError Failure.ofFault, told), (step.run start).2) :=
  rfl

theorem runs_onFiles (step : StateM σ (Except FileError α)) (told : List Message) (start : σ) :
    (onFiles step).runs told start =
      (((step.run start).1.mapError Failure.file, told), (step.run start).2) :=
  rfl

theorem runs_ofExcept (result : Except Failure α) (told : List Message) (start : σ) :
    (ofExcept (m := StateM σ) result).runs told start = ((result, told), start) :=
  rfl

theorem runs_logAll_eq (entries : List LogEntry) (told : List Message) (start : σ) :
    (logAll (m := StateM σ) entries).runs told start =
      ((.ok (), told ++ entries.map Message.log), start) := by
  induction entries generalizing told with
  | nil =>
    rw [List.map_nil, List.append_nil]
    rfl
  | cons entry entries ih =>
    rw [logAll, runs_bind, List.map_cons, List.append_cons, ← ih]
    rfl

/-- Messages do not touch the files. -/
theorem runs_logAll (entries : List LogEntry) (told : List Message) (start : σ) :
    ∃ more, (logAll (m := StateM σ) entries).runs told start = ((.ok (), more), start) :=
  ⟨_, runs_logAll_eq entries told start⟩

/-- Steps behind a reading that touch nothing leave the files as the reading does. -/
theorem state_of_bind (step : StateM σ α) (next : α → StateM σ β) (start : σ)
    (pure : ∀ value middle, ((next value).run middle).2 = middle) :
    ((step >>= next).run start).2 = (step.run start).2 :=
  pure _ _

variable [Files (StateM σ)]

/-- The preferences that a run finds. -/
def found (around : Surroundings) (start : σ) : Preferences :=
  ((Preferences.current around.environment : StateM σ Preferences).run start).1

theorem disk_current (dependable : Dependable disk) (environment : List (String × String)) (start : σ) :
    disk ((Preferences.current environment : StateM σ Preferences).run start).2 = disk start := by
  have kept := (dependable.read (Preferences.settingsPath environment) start).1
  have same : ((Preferences.current environment : StateM σ Preferences).run start).2 =
      ((Files.read (Preferences.settingsPath environment) : StateM σ _).run start).2 := by
    refine state_of_bind _ _ start fun result middle => ?_
    cases result with
    | ok bytes => cases read : Utf8.text? bytes <;> simp only [read] <;> rfl
    | error fault => cases fault <;> rfl
  rw [same]
  exact kept

theorem runs_preferences (dependable : Dependable disk) (around : Surroundings)
    (told : List Message) (start : σ) :
    ∃ middle, (preferences (m := StateM σ) around).runs told start =
        ((.ok (found around start), told), middle) ∧ disk middle = disk start :=
  ⟨((Preferences.current around.environment : StateM σ Preferences).run start).2, rfl,
    disk_current dependable around.environment start⟩

/-- On a disk the preferences are found and nothing else happens. -/
theorem runs_preferences_disk (around : Surroundings) (told : List Message) (disk : Disk) :
    (preferences (m := StateM Disk) around).runs told disk = ((.ok (found around disk), told), disk) := by
  obtain ⟨middle, run, same⟩ := runs_preferences dependable_disk around told disk
  rw [run, show middle = disk from same]

/-- Whether these are the bytes of the input: all of standard input, or a file. -/
def IsInput (around : Surroundings) (file : String) (disk : Disk) (bytes : List UInt8) : Prop :=
  if file = standardInput then bytes = around.input else disk.read file = .ok bytes

theorem runs_readInput (dependable : Dependable disk) (around : Surroundings) (file : String)
    (told : List Message) (start : σ) :
    ∃ result middle, (readInput (m := StateM σ) around file).runs told start =
        ((result, told), middle) ∧ disk middle = disk start ∧
      ∀ bytes, result = .ok bytes → IsInput around file (disk start) bytes := by
  rw [readInput]
  split
  · rename_i standard
    refine ⟨.ok around.input, start, rfl, rfl, ?_⟩
    rintro bytes ⟨⟩
    rw [IsInput, if_pos standard]
  · rename_i named
    obtain ⟨kept, reads⟩ := dependable.read file start
    rw [runs_bind]
    have run : runs (ExceptT.lift (StateT.lift (Files.read file))) told start =
        ((.ok ((Files.read file : StateM σ _).run start).1, told),
          ((Files.read file : StateM σ _).run start).2) := rfl
    rw [run]
    generalize (Files.read file : StateM σ _).run start = reading at kept reads ⊢
    obtain ⟨result, middle⟩ := reading
    cases result with
    | ok bytes =>
      refine ⟨.ok bytes, middle, rfl, kept, ?_⟩
      rintro _ ⟨⟩
      rw [IsInput, if_neg named]
      exact reads bytes rfl
    | error fault =>
      cases fault <;> exact ⟨_, middle, rfl, kept, nofun⟩

/-- An import is taken without touching anything: it is the input, normalized. -/
theorem runs_takeInput (dependable : Dependable disk) (around : Surroundings) (file : String)
    (told : List Message) (start : σ) :
    ∃ result more middle, (takeInput (m := StateM σ) around file).runs told start =
        ((result, more), middle) ∧ disk middle = disk start ∧
      ∀ taken, result = .ok taken → ∃ bytes document, IsInput around file (disk start) bytes ∧
        Upload.parse bytes = .ok document ∧ taken.document = (normalize document).value := by
  obtain ⟨input, middle, run, kept, given⟩ := runs_readInput dependable around file told start
  rw [takeInput, runs_bind, run]
  cases input with
  | error failure => exact ⟨_, _, middle, rfl, kept, nofun⟩
  | ok bytes =>
    dsimp only
    rw [runs_bind]
    rw [runs_ofExcept, prepareImport]
    cases parsed : Upload.parse bytes with
    | error fault => exact ⟨_, _, middle, rfl, kept, nofun⟩
    | ok document =>
      dsimp only [Except.mapError]
      rw [runs_bind]
      obtain ⟨more, logged⟩ := runs_logAll (((normalize document).notices).map LogEntry.ofNotice) told middle
      rw [logged]
      refine ⟨_, more, middle, rfl, kept, ?_⟩
      rintro taken ⟨⟩
      exact ⟨bytes, document, given bytes rfl, parsed, rfl⟩

end Act

namespace Command

variable [Files (StateM σ)]

theorem status_ne_zero (failure : Failure) : failure.status ≠ 0 := by
  cases failure <;> exact Nat.succ_ne_zero _

theorem status_ofRun (display : Display) (result : Except Failure Unit) (messages : List Message) :
    (Outcome.ofRun display result messages).status = 0 ↔ result = .ok () := by
  cases result with
  | ok _ => exact iff_of_true rfl rfl
  | error failure => exact iff_of_false (status_ne_zero failure) nofun

theorem run_eq (around : Surroundings) (flags : GlobalFlags) (command : Command) (start : σ) :
    (command.run (m := StateM σ) around flags).run start =
      (.ofRun (display around flags) ((command.act around flags).runs [] start).1.1
        ((command.act around flags).runs [] start).1.2,
        ((command.act around flags).runs [] start).2) :=
  rfl

end Command

end ScannerConfig
