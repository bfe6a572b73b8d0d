import Mathlib
import ScannerConfig.Command.Usage
import ScannerConfig.Proofs.ExportRuns
import ScannerConfig.Proofs.RefusedSaves

namespace ScannerConfig

/-- The status of a run that rejects malformed data. -/
def malformedStatus : Nat := 65

namespace Act

variable {σ α β : Type} {disk : σ → Disk} {act : Act (StateM σ) α}
  {next : α → Act (StateM σ) β}

/-- The files are as they were, and nothing was added to standard output. -/
structure Untouched (disk : σ → Disk) (told more : List Message) (start final : σ) : Prop where
  files : disk final = disk start
  output : ∀ display, outputOf display more = outputOf display told

theorem Untouched.refl (told : List Message) (start : σ) : Untouched disk told told start start :=
  ⟨rfl, fun _ => rfl⟩

theorem Untouched.trans {told more last : List Message} {start middle final : σ}
    (first : Untouched disk told more start middle) (second : Untouched disk more last middle final) :
    Untouched disk told last start final :=
  ⟨second.files.trans first.files, fun display => (second.output display).trans (first.output display)⟩

/-- However the act ends, it has touched nothing. -/
def Quiet (disk : σ → Disk) (act : Act (StateM σ) α) : Prop :=
  ∀ told start, Untouched disk told (act.runs told start).1.2 start (act.runs told start).2

/-- The act does not fail over malformed data. -/
def Accepting (act : Act (StateM σ) α) : Prop :=
  ∀ told start failure, (act.runs told start).1.1 = .error failure → failure.status ≠ malformedStatus

/-- Where the act fails over malformed data, it has touched nothing. -/
def Careful (disk : σ → Disk) (act : Act (StateM σ) α) : Prop :=
  ∀ told start failure, (act.runs told start).1.1 = .error failure → failure.status = malformedStatus →
    Untouched disk told (act.runs told start).1.2 start (act.runs told start).2

theorem Accepting.careful (accepting : Accepting act) : Careful disk act :=
  fun told start failure failed status => absurd status (accepting told start failure failed)

theorem Quiet.bind (quiet : Quiet disk act) (later : ∀ value, Quiet disk (next value)) :
    Quiet disk (act >>= next) := by
  intro told start
  have first := quiet told start
  rw [runs_bind]
  generalize act.runs told start = run at first ⊢
  obtain ⟨⟨failure | value, more⟩, middle⟩ := run
  · exact first
  · exact first.trans (later value more middle)

theorem Accepting.bind (accepting : Accepting act) (later : ∀ value, Accepting (next value)) :
    Accepting (act >>= next) := by
  intro told start failure failed
  have first := accepting told start
  rw [runs_bind] at failed
  generalize act.runs told start = run at first failed
  obtain ⟨⟨fault | value, more⟩, middle⟩ := run
  · cases failed
    exact first _ rfl
  · exact later value more middle failure failed

/-- What is done first must touch nothing even if it ends well. -/
theorem Careful.bind (quiet : Quiet disk act) (later : ∀ value, Careful disk (next value)) :
    Careful disk (act >>= next) := by
  intro told start failure failed status
  have first := quiet told start
  rw [runs_bind] at failed ⊢
  generalize act.runs told start = run at first failed ⊢
  obtain ⟨⟨fault | value, more⟩, middle⟩ := run
  · exact first
  · exact first.trans (later value more middle failure failed status)

section Quiet

theorem quiet_ofExcept (result : Except Failure α) : Quiet disk (ofExcept (m := StateM σ) result) :=
  fun told start => .refl told start

theorem quiet_logAll (entries : List LogEntry) : Quiet disk (logAll (m := StateM σ) entries) := by
  intro told start
  rw [runs_logAll_eq]
  refine ⟨rfl, fun display => ?_⟩
  rw [outputOf_append, outputOf_silent (List.forall_mem_map.mpr fun _ _ => rfl), String.append_empty]

theorem quiet_log (entry : LogEntry) : Quiet disk (tell (m := StateM σ) (.log entry)) :=
  (quiet_logAll [entry] :)

variable [Files (StateM σ)]

theorem quiet_preferences (dependable : Dependable disk) (around : Surroundings) :
    Quiet disk (preferences (m := StateM σ) around) := by
  intro told start
  obtain ⟨middle, run, same⟩ := runs_preferences dependable around told start
  rw [run]
  exact ⟨same, fun _ => rfl⟩

theorem quiet_readInput (dependable : Dependable disk) (around : Surroundings) (file : String) :
    Quiet disk (readInput (m := StateM σ) around file) := by
  intro told start
  obtain ⟨result, middle, run, same, _⟩ := runs_readInput dependable around file told start
  rw [run]
  exact ⟨same, fun _ => rfl⟩

theorem quiet_takeInput (dependable : Dependable disk) (around : Surroundings) (file : String) :
    Quiet disk (takeInput (m := StateM σ) around file) := by
  refine (quiet_readInput dependable around file).bind fun bytes => ?_
  refine (quiet_ofExcept _).bind fun taken => ?_
  exact (quiet_logAll _).bind fun _ => quiet_ofExcept (.ok taken)

theorem quiet_load (dependable : Dependable disk) (store : String) :
    Quiet disk (onStore (FileStore.load (m := StateM σ) store)) := by
  intro told start
  rw [runs_onStore]
  exact ⟨dependable.load store start, fun _ => rfl⟩

end Quiet

section Accepting

theorem accepting_throw {failure : Failure} (other : failure.status ≠ malformedStatus) :
    Accepting (throw failure : Act (StateM σ) α) := by
  rintro told start _ ⟨⟩
  exact other

theorem accepting_pure (value : α) : Accepting (pure value : Act (StateM σ) α) :=
  nofun

theorem accepting_tell (message : Message) : Accepting (tell (m := StateM σ) message) :=
  nofun

theorem accepting_onFiles (step : StateM σ (Except FileError α)) : Accepting (onFiles step) := by
  intro told start failure failed
  have ended : (step.run start).1.mapError Failure.file = .error failure := failed
  generalize (step.run start).1 = result at ended
  cases result with
  | ok value => cases ended
  | error fault =>
    cases ended
    exact Nat.ne_of_beq_eq_false rfl

variable [Files (StateM σ)]

/-- A save that replaces what is stored looks at no data. -/
theorem accepting_save (store : String) (document : Json) :
    Accepting (onStore (FileStore.save (m := StateM σ) store document .replace)) := by
  intro told start failure failed
  rw [runs_onStore] at failed
  rcases saving : (FileStore.save (m := StateM σ) store document .replace).run start with
    ⟨fault | _, final⟩
  · obtain ⟨error, rfl⟩ := FileStore.fault_of_save saving
    rw [saving] at failed
    cases failed
    exact Nat.ne_of_beq_eq_false rfl
  · rw [saving] at failed
    cases failed

theorem accepting_savePreferences (around : Surroundings) (preferences : Preferences)
    (done : String → String) : Accepting (savePreferences (m := StateM σ) around preferences done) :=
  (accepting_onFiles _).bind fun _ => accepting_tell _

end Accepting

theorem accepting_showOptions (format : Option OutputFormat) (document : Json) (plain : String) :
    Accepting (showOptions (m := StateM σ) format document plain) := by
  cases format <;> exact accepting_tell _

variable [Files (StateM σ)]

theorem careful_normalizeFile (dependable : Dependable disk) (around : Surroundings)
    (flags : GlobalFlags) (input : String) (out : Option String) (report : Bool) :
    Careful disk (normalizeFile (m := StateM σ) around flags input out report) := by
  refine .bind (quiet_preferences dependable around) fun preferences => ?_
  refine .bind (quiet_takeInput dependable around input) fun taken => ?_
  have reported : Accepting (if report then tell (m := StateM σ) (.changes taken.report) else pure ()) := by
    split_ifs
    · exact accepting_tell _
    · exact accepting_pure ()
  cases out with
  | none => exact ((accepting_tell _).bind fun _ => reported).careful
  | some path =>
    exact ((accepting_onFiles _).bind fun _ => (accepting_tell _).bind fun _ => reported).careful

theorem careful_importFile (dependable : Dependable disk) (around : Surroundings)
    (flags : GlobalFlags) (file : String) (review : Bool) :
    Careful disk (importFile (m := StateM σ) around flags file review) := by
  refine .bind (quiet_preferences dependable around) fun preferences => ?_
  refine .bind (quiet_takeInput dependable around file) fun taken => ?_
  cases review with
  | true =>
    exact ((accepting_tell _).bind fun _ => (accepting_tell _).bind fun _ =>
      (accepting_tell _).bind fun _ => accepting_tell _).careful
  | false =>
    refine .bind (quiet_ofExcept _) fun goal => Accepting.careful ?_
    split_ifs
    · exact (accepting_save _ _).bind fun _ => (accepting_tell _).bind fun _ =>
        (accepting_tell _).bind fun _ => accepting_tell _
    · exact accepting_throw (Nat.ne_of_beq_eq_false rfl)

theorem careful_exportFile (dependable : Dependable disk) (around : Surroundings)
    (flags : GlobalFlags) (folder : Option String) (dataUri : Bool) :
    Careful disk (exportFile (m := StateM σ) around flags folder dataUri) := by
  refine .bind (quiet_preferences dependable around) fun preferences => ?_
  refine .bind (quiet_ofExcept _) fun goal => ?_
  refine .bind (quiet_load dependable goal.store) fun document => ?_
  refine .bind (quiet_log _) fun _ => Accepting.careful ?_
  split_ifs
  · exact accepting_tell _
  · exact (accepting_onFiles _).bind fun _ => (accepting_onFiles _).bind fun _ =>
      (accepting_tell _).bind fun _ => accepting_tell _

theorem careful_initProfile (dependable : Dependable disk) (around : Surroundings) (name : String)
    (store folder : Option String) :
    Careful disk (initProfile (m := StateM σ) around name store folder) := by
  refine .bind (quiet_preferences dependable around) fun preferences => Accepting.careful ?_
  split
  · exact accepting_throw (Nat.ne_of_beq_eq_false rfl)
  · exact accepting_throw (Nat.ne_of_beq_eq_false rfl)
  · exact accepting_savePreferences _ _ _

theorem careful_useProfile (dependable : Dependable disk) (around : Surroundings) (name : String) :
    Careful disk (useProfile (m := StateM σ) around name) := by
  refine .bind (quiet_preferences dependable around) fun preferences => Accepting.careful ?_
  split
  · exact accepting_throw (Nat.ne_of_beq_eq_false rfl)
  · exact accepting_savePreferences _ _ _

end Act

namespace Command

open Act

variable {σ : Type} [Files (StateM σ)] {disk : σ → Disk}

theorem careful_act (dependable : Dependable disk) (around : Surroundings) (flags : GlobalFlags)
    (command : Command) : Careful disk (command.act (m := StateM σ) around flags) := by
  cases command with
  | normalize input out report => exact careful_normalizeFile dependable around flags input out report
  | importFile file review => exact careful_importFile dependable around flags file review
  | exportFile folder dataUri => exact careful_exportFile dependable around flags folder dataUri
  | initProfile name store folder => exact careful_initProfile dependable around name store folder
  | useProfile name => exact careful_useProfile dependable around name
  | optionDefaults | optionObsolete => exact (accepting_showOptions _ _ _).careful
  | showPreferences =>
    exact .bind (quiet_preferences dependable around) fun _ => (accepting_tell _).careful
  | preferencesPath => exact (accepting_tell _).careful
  | completions shell => exact (accepting_pure ()).careful

/-- A run that rejects malformed data has touched nothing. -/
theorem run_malformed (dependable : Dependable disk) (around : Surroundings) (flags : GlobalFlags)
    (command : Command) (start : σ) :
    let run := (command.run (m := StateM σ) around flags).run start
    run.1.status = malformedStatus → disk run.2 = disk start ∧ run.1.output = "" := by
  have careful := careful_act dependable around flags command [] start
  dsimp only
  rw [run_eq]
  generalize (command.act around flags).runs [] start = run at careful ⊢
  obtain ⟨⟨failure | _, told⟩, final⟩ := run
  · intro status
    obtain ⟨files, output⟩ := careful failure rfl status
    exact ⟨files, (Outcome.output_ofRun _ _ _).trans (output _)⟩
  · exact nofun

theorem usage_accepts (fault : UsageFault) : fault.outcome.status ≠ malformedStatus := by
  cases fault <;> exact Nat.ne_of_beq_eq_false rfl

/-- Whatever the command line and whatever is around it, a run with the status of malformed data has
left every file and folder as it was and put nothing on standard output. A command line that is not
carried out never ends with this status. -/
theorem malformed_untouched (dependable : Dependable disk) (around : Surroundings)
    (arguments : List String) (start : σ) :
    match Command.ofArguments arguments around.environment with
    | .error fault => fault.outcome.status ≠ 65
    | .ok (flags, command) =>
      let run := (command.run (m := StateM σ) around flags).run start
      run.1.status = 65 → disk run.2 = disk start ∧ run.1.output = "" := by
  rcases Command.ofArguments arguments around.environment with fault | ⟨flags, command⟩
  · exact usage_accepts fault
  · exact run_malformed dependable around flags command start

/-- A store that is cut off behind its first bracket. -/
def brokenDisk : Disk :=
  ⟨[(["broken.json"], .file [0x7B])], []⟩

def brokenFlags : GlobalFlags :=
  ⟨none, some "broken.json", none, .auto, 0, false, false⟩

theorem malformed_untouched_broken :
    let arguments := ["--store", "broken.json", "export", "--dir", "out"]
    let run := ((Command.exportFile (some "out") false).run (m := StateM Disk) quietSurroundings
      brokenFlags).run brokenDisk
    Command.ofArguments arguments [] = .ok (brokenFlags, .exportFile (some "out") false) ∧
      run.1.status = 65 ∧ run.2 = brokenDisk ∧ run.1.output = "" := by
  intro arguments run
  have line : Command.ofArguments arguments [] = .ok (brokenFlags, .exportFile (some "out") false) := by
    cbv
  have read : brokenDisk.read "broken.json" = .ok [0x7B] := by cbv
  have unparsed : ∃ fault, Json.parse [0x7B] = .error fault := ⟨_, by cbv⟩
  obtain ⟨fault, parsed⟩ := unparsed
  have unloaded : ((FileStore.load (m := StateM Disk) "broken.json").run brokenDisk).1 =
      .error (.json fault) := by
    rw [FileStore.run_load, read]
    dsimp only
    rw [parsed]
    rfl
  have status : run.1.status = 65 := status_unloaded rfl rfl unloaded
  have untouched := malformed_untouched dependable_disk quietSurroundings arguments brokenDisk
  rw [show quietSurroundings.environment = [] from rfl, line] at untouched
  exact ⟨line, status, untouched status⟩

end Command

end ScannerConfig
