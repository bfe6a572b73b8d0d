import Mathlib
import ScannerConfig.Proofs.ImportRuns
import ScannerConfig.Proofs.Utf8

namespace ScannerConfig

namespace Json

theorem floatStyle_writeDecimal_ne_nil (decimal : Decimal) :
    (floatStyle.writeDecimal decimal).toList ≠ [] := by
  have digits : Nat.toDigits 10 decimal.digits ≠ [] := Nat.toDigits_ne_nil
  rw [DecimalStyle.writeDecimal, String.toList_ofList]
  dsimp only
  split_ifs <;> simp [digits]

theorem number_chars_ne_nil (number : Number) : number.chars ≠ [] := by
  cases number with
  | integer value =>
    rw [Number.chars]
    split
    · exact List.cons_ne_nil _ _
    · exact Nat.toDigits_ne_nil
  | float value =>
    have magnitude := floatStyle_writeDecimal_ne_nil (Decimal.shortest value)
    rw [Number.chars, DecimalStyle.write]
    split_ifs <;> simp_all

/-- Every value has a text. -/
theorem pretty_isEmpty (value : Json) : value.pretty.isEmpty = false := by
  have chars : value.chars .indented 0 ≠ [] := by
    cases value with
    | number number => exact number_chars_ne_nil number
    | bool b => cases b <;> exact List.cons_ne_nil _ _
    | array items => cases items <;> exact List.cons_ne_nil _ _
    | object entries => cases entries <;> exact List.cons_ne_nil _ _
    | _ => exact List.cons_ne_nil _ _
  rw [Bool.eq_false_iff, Ne, String.isEmpty_iff]
  exact fun empty => chars (String.ofList_eq_empty_iff.mp empty)

end Json

/-- Two outcomes with the same standard output and the same status. -/
def Outcome.Alike (first second : Outcome) : Prop :=
  first.output = second.output ∧ first.status = second.status

/-- A run that ended well and printed a document, and nothing else. -/
def Outcome.Prints (outcome : Outcome) (display : Display) (format : OutputFormat)
    (document : Json) : Prop :=
  outcome.status = 0 ∧
    outcome.output = (Message.output (format.render document)).outputText display

/-- What is printed as JSON is what is stored, with the end of the line behind it. -/
theorem Outcome.Prints.bytes {outcome : Outcome} {display : Display} {document : Json}
    (prints : outcome.Prints display .json document) (loud : display.quiet = false) :
    Utf8.encode outcome.output.toList = Utf8.encode document.pretty.toList ++ [0x0A] := by
  rw [prints.2, OutputFormat.render, Message.outputText, loud, document.pretty_isEmpty]
  simp only [Bool.or_false, Bool.false_eq_true, if_false, String.toList_append, Utf8.encode_append]
  rfl

/-- What messages put on standard output. -/
def outputOf (display : Display) (messages : List Message) : String :=
  String.join (messages.map (·.outputText display))

theorem outputOf_append (display : Display) (messages more : List Message) :
    outputOf display (messages ++ more) = outputOf display messages ++ outputOf display more := by
  rw [outputOf, List.map_append, String.join_append]
  rfl

theorem outputOf_silent {display : Display} {messages : List Message}
    (silent : ∀ message ∈ messages, message.outputText display = "") :
    outputOf display messages = "" := by
  induction messages with
  | nil => rfl
  | cons message messages ih =>
    obtain ⟨first, later⟩ := List.forall_mem_cons.mp silent
    rw [outputOf, List.map_cons, String.join_cons, first]
    exact ih later

/-- Behind a text that was asked for, messages of other kinds put nothing on standard output. -/
theorem outputOf_text {display : Display} (text : String) {others : List Message}
    (silent : ∀ message ∈ others, message.outputText display = "") :
    outputOf display (.output text :: others) = (Message.output text).outputText display := by
  rw [outputOf, List.map_cons, String.join_cons]
  exact (congrArg _ (outputOf_silent silent)).trans String.append_empty

theorem Outcome.output_ofRun (display : Display) (result : Except Failure Unit)
    (messages : List Message) :
    (Outcome.ofRun display result messages).output = outputOf display messages := by
  cases result <;> rfl

variable {σ : Type} [Files (StateM σ)]

namespace Act

/-- An input as a command takes it, after it has found its preferences. -/
def taking (around : Surroundings) (input : String) (start : σ) :
    (Except Failure Import × List Message) × σ :=
  (takeInput (m := StateM σ) around input).runs []
    ((Preferences.current around.environment : StateM σ Preferences).run start).2

theorem runs_preferences_bind {α : Type} (around : Surroundings) (start : σ)
    (next : Preferences → Act (StateM σ) α) :
    (preferences around >>= next).runs [] start =
      (next (found around start)).runs []
        ((Preferences.current around.environment : StateM σ Preferences).run start).2 :=
  rfl

theorem runs_normalizeFile (around : Surroundings) (flags : GlobalFlags) (input : String)
    (report : Bool) (start : σ) :
    (normalizeFile (m := StateM σ) around flags input none report).runs [] start =
      match taking around input start with
      | ((.ok taken, told), final) =>
        let text := (outputFormat flags (found around start)).render taken.document
        ((.ok (), told ++ .output text :: if report then [.changes taken.report] else []), final)
      | ((.error failure, told), final) => ((.error failure, told), final) := by
  rw [normalizeFile, runs_preferences_bind, runs_bind, taking]
  rcases (takeInput around input).runs []
    ((Preferences.current around.environment : StateM σ Preferences).run start).2 with
    ⟨⟨failure | taken, told⟩, final⟩
  · rfl
  · cases report with
    | false => rfl
    | true =>
      dsimp only
      rw [List.append_cons]
      rfl

theorem runs_importFile_review (around : Surroundings) (flags : GlobalFlags) (input : String)
    (start : σ) :
    (importFile (m := StateM σ) around flags input true).runs [] start =
      match taking around input start with
      | ((.ok taken, told), final) =>
        let text := (outputFormat flags (found around start)).render taken.document
        ((.ok (), told ++ [.output text, .log (.reviewed taken.report), .changes taken.report,
          .notice "Review only: nothing was saved."]), final)
      | ((.error failure, told), final) => ((.error failure, told), final) := by
  rw [importFile, runs_preferences_bind, runs_bind, taking]
  rcases (takeInput around input).runs []
    ((Preferences.current around.environment : StateM σ Preferences).run start).2 with
    ⟨⟨failure | taken, told⟩, final⟩
  · rfl
  · dsimp only
    rw [List.append_cons, List.append_cons, List.append_cons]
    rfl

/-- Taking an input tells nothing but the log. -/
theorem taking_logs (around : Surroundings) (input : String) (start : σ) :
    ∃ entries : List LogEntry, (taking around input start).1.2 = entries.map Message.log := by
  rw [taking]
  generalize ((Preferences.current around.environment : StateM σ Preferences).run start).2 = ready
  have silent : ((readInput (m := StateM σ) around input).runs [] ready).1.2 = [] := by
    rw [readInput]
    split
    · rfl
    · rw [runs_bind]
      have run : runs (ExceptT.lift (StateT.lift (Files.read input))) [] ready =
          ((.ok ((Files.read input : StateM σ _).run ready).1, []),
            ((Files.read input : StateM σ _).run ready).2) := rfl
      rw [run]
      rcases (Files.read input : StateM σ _).run ready with ⟨fault | bytes, middle⟩
      · cases fault <;> rfl
      · rfl
  rw [takeInput, runs_bind]
  generalize (readInput (m := StateM σ) around input).runs [] ready = reading at silent ⊢
  obtain ⟨⟨failure | bytes, told⟩, middle⟩ := reading
  · exact ⟨[], silent⟩
  · cases silent
    dsimp only
    rw [runs_bind, runs_ofExcept]
    cases prepareImport bytes with
    | error fault => exact ⟨[], rfl⟩
    | ok taken =>
      dsimp only [Except.mapError]
      rw [runs_bind, runs_logAll_eq]
      exact ⟨_, rfl⟩

end Act

namespace Command

/-- What a run prints that takes an input, tells the document and then nothing more of it. -/
theorem output_taken {around : Surroundings} {flags : GlobalFlags} {input : String}
    {start final : σ} {taken : Import} {told others : List Message}
    (took : Act.taking around input start = ((.ok taken, told), final)) (text : String)
    (silent : ∀ message ∈ others, message.outputText (display around flags) = "") :
    (Outcome.ofRun (display around flags) (.ok ()) (told ++ .output text :: others)).output =
      (Message.output text).outputText (display around flags) := by
  obtain ⟨entries, logs⟩ := Act.taking_logs around input start
  rw [took] at logs
  cases logs
  have noOutput : ∀ message ∈ entries.map Message.log,
      message.outputText (display around flags) = "" := List.forall_mem_map.mpr fun _ _ => rfl
  rw [Outcome.output_ofRun, outputOf_append, outputOf_silent noOutput, outputOf_text text silent,
    String.empty_append]

/-- A run that takes its input prints the document that it took. -/
theorem normalize_prints (around : Surroundings) (flags : GlobalFlags) (input : String)
    (report : Bool) {start final : σ} {taken : Import} {told : List Message}
    (took : Act.taking around input start = ((.ok taken, told), final)) :
    let shown := ((Command.normalize input none report).run (m := StateM σ) around flags).run start
    shown.1.Prints (display around flags) (outputFormat flags (Act.found around start))
      taken.document := by
  dsimp only
  rw [run_eq, act, Act.runs_normalizeFile, took]
  refine ⟨rfl, output_taken took _ ?_⟩
  cases report <;> simp [Message.outputText]

theorem review_prints (around : Surroundings) (flags : GlobalFlags) (input : String)
    {start final : σ} {taken : Import} {told : List Message}
    (took : Act.taking around input start = ((.ok taken, told), final)) :
    let reviewed := ((Command.importFile input true).run (m := StateM σ) around flags).run start
    reviewed.1.Prints (display around flags) (outputFormat flags (Act.found around start))
      taken.document := by
  dsimp only
  rw [run_eq, act, Act.runs_importFile_review, took]
  refine ⟨rfl, output_taken took _ ?_⟩
  simp [Message.outputText]

/-- Normalizing an input to standard output and importing it for review. -/
theorem normalize_alike_review (around : Surroundings) (flags : GlobalFlags) (input : String)
    (report : Bool) (start : σ) :
    let shown := ((Command.normalize input none report).run (m := StateM σ) around flags).run start
    let reviewed := ((Command.importFile input true).run (m := StateM σ) around flags).run start
    shown.1.Alike reviewed.1 := by
  cases took : Act.taking around input start with
  | mk answer final =>
    obtain ⟨failure | taken, told⟩ := answer
    · dsimp only
      rw [run_eq, run_eq, act, act, Act.runs_normalizeFile, Act.runs_importFile_review, took]
      exact ⟨rfl, rfl⟩
    · obtain ⟨ended, output⟩ := normalize_prints around flags input report took
      obtain ⟨endedToo, same⟩ := review_prints around flags input took
      exact ⟨output.trans same.symm, ended.trans endedToo.symm⟩

variable {disk : σ → Disk}

theorem store_of_target {flags : GlobalFlags} {preferences : Preferences} {settingsPath : String}
    {store : String} {goal : Target} (named : flags.store = some store)
    (aimed : target flags preferences settingsPath = .ok goal) : goal.store = store := by
  simp only [target, named, Option.some_or] at aimed
  split at aimed
  · cases aimed
  · cases aimed
    rfl

/-- An import that was carried out has stored the document that it took. -/
theorem importFile_stored (dependable : Dependable disk) {around : Surroundings}
    {flags : GlobalFlags} {input store : String} {start : σ} (confirmed : flags.yes = true)
    (named : flags.store = some store) :
    let applied := ((Command.importFile input false).run (m := StateM σ) around flags).run start
    applied.1.status = 0 →
      ∃ taken told final, Act.taking around input start = ((.ok taken, told), final) ∧
        (disk applied.2).read store = .ok (Utf8.encode taken.document.pretty.toList) := by
  dsimp only
  rw [run_eq, status_ofRun, act, Act.importFile, Act.runs_preferences_bind, Act.runs_bind,
    ← Act.taking]
  rcases Act.taking around input start with ⟨⟨failure | taken, told⟩, final⟩
  · intro ended
    cases ended
  · simp only [Bool.false_eq_true, if_false, Act.runs_bind, Act.runs_ofExcept]
    cases aimed : target flags (Act.found around start)
      (Preferences.settingsPath around.environment) with
    | error failure =>
      intro ended
      cases ended
    | ok goal =>
      have stored := dependable.stored final goal.store taken.document
      rw [store_of_target named aimed] at stored
      simp only [confirmed, if_true, Act.runs_bind, Act.runs_onStore, store_of_target named aimed]
      generalize (FileStore.save (m := StateM σ) store taken.document .replace).run final =
        saving at stored ⊢
      obtain ⟨fault | _, after⟩ := saving
      · intro ended
        cases ended
      · exact fun _ => ⟨taken, told, final, rfl, (stored rfl).1⟩

/-- Whatever the input, the preferences and the flags, normalizing to standard output and importing
for review end alike; and an import that is confirmed for a store leaves the document there that
the two of them print, as JSON with the very bytes. -/
theorem commands_alike (dependable : Dependable disk) (around : Surroundings)
    (flags : GlobalFlags) (input : String) (report : Bool) (start : σ) :
    let shown := ((Command.normalize input none report).run (m := StateM σ) around flags).run start
    let reviewed := ((Command.importFile input true).run (m := StateM σ) around flags).run start
    let format := outputFormat flags (Act.found around start)
    shown.1.Alike reviewed.1 ∧
      ∀ (confirmed : GlobalFlags) (store : String), confirmed.yes = true →
        confirmed.store = some store →
          let applied :=
            ((Command.importFile input false).run (m := StateM σ) around confirmed).run start
          applied.1.status = 0 →
            ∃ document stored, (disk applied.2).read store = .ok stored ∧
              stored = Utf8.encode document.pretty.toList ∧
              shown.1.Prints (display around flags) format document ∧
              reviewed.1.Prints (display around flags) format document ∧
              (format = .json → flags.quiet = false →
                Utf8.encode shown.1.output.toList = stored ++ [0x0A] ∧
                  Utf8.encode reviewed.1.output.toList = stored ++ [0x0A]) := by
  refine ⟨normalize_alike_review around flags input report start, ?_⟩
  intro confirmed store sure named applied ended
  obtain ⟨taken, told, final, took, stored⟩ := importFile_stored dependable sure named ended
  have shown := normalize_prints around flags input report took
  have reviewed := review_prints around flags input took
  refine ⟨taken.document, _, stored, rfl, shown, reviewed, fun json loud => ?_⟩
  rw [json] at shown reviewed
  exact ⟨shown.bytes loud, reviewed.bytes loud⟩

theorem commands_alike_newFolder :
    let flags : GlobalFlags := ⟨none, none, some .json, .auto, 0, false, false⟩
    let shown := ((Command.normalize "in.json" none true).run (m := StateM Disk) quietSurroundings
      flags).run inputDisk
    let reviewed := ((Command.importFile "in.json" true).run (m := StateM Disk) quietSurroundings
      flags).run inputDisk
    let applied := ((Command.importFile "in.json" false).run (m := StateM Disk) quietSurroundings
      (confirmedFor "data/config.json")).run inputDisk
    shown.1.Alike reviewed.1 ∧ applied.1.status = 0 ∧ ∃ stored,
      applied.2.read "data/config.json" = .ok stored ∧
        Utf8.encode shown.1.output.toList = stored ++ [0x0A] := by
  intro flags shown reviewed applied
  obtain ⟨alike, agree⟩ := commands_alike dependable_disk quietSurroundings flags "in.json" true
    inputDisk
  obtain ⟨_, stored, read, _, _, _, bytes⟩ :=
    agree (confirmedFor "data/config.json") "data/config.json" rfl rfl importFile_done
  exact ⟨alike, importFile_done, stored, read, (bytes rfl rfl).1⟩

end Command

end ScannerConfig
