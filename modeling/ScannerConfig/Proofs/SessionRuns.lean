import ScannerConfig.Proofs.Export
import ScannerConfig.Proofs.ImportRuns
import ScannerConfig.Proofs.Requests
import ScannerConfig.Proofs.SavedRuns

namespace ScannerConfig

namespace Session

/-- Serves requests one after another, also after one that fails. -/
def serveAll (session : Session) : List Request → List (Except Trouble Reply) × Session
  | [] => ([], session)
  | request :: rest =>
    let (answer, next) := session.serve request
    let (answers, last) := next.serveAll rest
    (answer :: answers, last)

/-- The document of a request that is an import in this mode, if it is answered with success. -/
def Request.done? (request : Request) (mode : ImportMode) : Except Trouble Reply → Option Json
  | .error _ => none
  | .ok _ => (request.document?.filter fun found => found.1 = mode).map fun found => found.2

/-- The documents of the imports in a mode that succeeded, in order. -/
def documents (mode : ImportMode) (requests : List Request)
    (answers : List (Except Trouble Reply)) : List Json :=
  (requests.zip answers).filterMap fun turn => turn.1.done? mode turn.2

/-- What goes into a file has integers only. -/
def Integral (session : Session) (requests : List Request) : Prop :=
  ∀ path, session.store = .file path → ∀ request ∈ requests, ∀ document,
    request.document? = some (.apply, document) → document.integral = true

variable {session other final : Session} {request : Request} {document : Json} {path : String}

section Runs

variable {requests before after : List Request} {trouble : Trouble}

theorem documents_cons (mode : ImportMode) (request : Request) (requests : List Request)
    (answer : Except Trouble Reply) (answers : List (Except Trouble Reply)) :
    documents mode (request :: requests) (answer :: answers) =
      (request.done? mode answer).toList ++ documents mode requests answers := by
  rw [documents, List.zip_cons_cons, List.filterMap_cons]
  cases request.done? mode answer <;> rfl

theorem serveAll_append (session : Session) (before after : List Request) :
    session.serveAll (before ++ after) =
      ((session.serveAll before).1 ++ ((session.serveAll before).2.serveAll after).1,
        ((session.serveAll before).2.serveAll after).2) := by
  induction before generalizing session with
  | nil => rfl
  | cons request rest ih =>
    rw [List.cons_append, serveAll, serveAll]
    dsimp only
    rw [ih]
    rfl

theorem done?_of_none (none : request.document? = none) (mode : ImportMode)
    (answer : Except Trouble Reply) : request.done? mode answer = .none := by
  cases answer with
  | error trouble => rfl
  | ok reply => rw [Request.done?, none]; rfl

theorem done?_of_some {other : ImportMode} (found : request.document? = some (other, document))
    (mode : ImportMode) (reply : Reply) :
    request.done? mode (.ok reply) = if other = mode then some document else none := by
  rw [Request.done?, found]
  cases other <;> cases mode <;> rfl

/-- A request shows its document for review, or nothing. -/
theorem shown_serve (session : Session) (request : Request) :
    (session.serve request).2.shown = session.shown ++
      (request.done? .review (session.serve request).1).toList.map (⟨·, true⟩) := by
  have step := served session request
  generalize (session.serve request).1 = answer at step ⊢
  generalize (session.serve request).2 = next at step ⊢
  cases step with
  | untouched none =>
    rw [done?_of_none none]
    exact (List.append_nil _).symm
  | reviewed found =>
    rw [done?_of_some found]
    rfl
  | @applied document _ _ found saved =>
    have kept := (save_keeps session document .replace).1
    rw [saved] at kept
    rw [done?_of_some found, kept]
    exact (List.append_nil _).symm
  | @refused document _ _ found saved =>
    have kept := (save_keeps session document .replace).1
    rw [saved] at kept
    exact kept.trans (List.append_nil _).symm

theorem serveAll_shown (session : Session) (requests : List Request) :
    (session.serveAll requests).2.shown = session.shown ++
      (documents .review requests (session.serveAll requests).1).map (⟨·, true⟩) := by
  induction requests generalizing session with
  | nil => exact (List.append_nil _).symm
  | cons request rest ih =>
    rw [serveAll]
    dsimp only
    rw [ih, shown_serve, documents_cons, List.map_append, List.append_assoc]

theorem fits_document? {mode : ImportMode} (found : request.document? = some (mode, document)) :
    Json.Parser.Fits Json.Parser.maxDepth document := by
  cases request with
  | load | exportFile _ => cases found
  | importUpload bytes modeName =>
    rw [Request.document?] at found
    split at found
    · rename_i parsed
      cases found
      exact Normalization.fits_afterPasses (by decide) (Upload.fits_of_parse parsed) 1
    · cases found

/-- What was applied is what is loaded. -/
theorem load_of_applied (fits : Json.Parser.Fits Json.Parser.maxDepth document)
    (integral : ∀ path, session.store = .file path → document.integral = true)
    (saved : session.save document .replace = (.ok (), final)) : final.load.1 = .ok document := by
  have result : (session.save document .replace).1 = .ok () := congrArg Prod.fst saved
  have after : (session.save document .replace).2 = final := congrArg Prod.snd saved
  rw [← after]
  obtain ⟨memory | path, disk, shown⟩ := session
  · obtain ⟨kept, accepted, held⟩ :=
      @MemoryStore.document_of_save memory ⟨document, .replace⟩ result
    cases accepted
    exact congrArg Except.ok held
  · obtain ⟨read, _⟩ := dependable_disk.stored disk path document result
    have parsed := Json.parse_render .indented fits.keyed (integral path rfl) fits.shallow
    exact congrArg Prod.fst (FileStore.load_of_read read parsed)

/-- After a request the document that it applied is stored, or what was stored before. -/
theorem Steady.load_serve (steady : session.Steady)
    (integral : ∀ path, session.store = .file path → ∀ document,
      request.document? = some (.apply, document) → document.integral = true) :
    (session.serve request).2.load.1 =
      ((request.done? .apply (session.serve request).1).map .ok).getD session.load.1 := by
  have step := served session request
  generalize (session.serve request).1 = answer at step ⊢
  generalize (session.serve request).2 = next at step ⊢
  cases step with
  | untouched none =>
    rw [done?_of_none none]
    rfl
  | reviewed found =>
    rw [done?_of_some found]
    obtain ⟨_ | path, disk, shown⟩ := session <;> rfl
  | @applied document _ _ found saved =>
    rw [done?_of_some found]
    exact load_of_applied (fits_document? found) (fun path file => integral path file _ found) saved
  | refused _ saved => exact steady.load (matches_of_refused saved)

theorem file_serve (session : Session) (request : Request) (path : String) :
    (session.serve request).2.store = .file path ↔ session.store = .file path := by
  have step := served session request
  generalize (session.serve request).1 = answer at step
  generalize (session.serve request).2 = next at step ⊢
  cases step with
  | untouched _ | reviewed _ => exact Iff.rfl
  | @applied document _ _ _ saved | @refused document _ _ _ saved =>
    have kind := (save_keeps session document .replace).2 path
    rwa [saved] at kind

/-- Without an import to apply nothing is stored: neither store nor files change. -/
theorem serveAll_unstored (session : Session) (unapplied : ∀ request ∈ requests, ∀ document,
    request.document? ≠ some (.apply, document)) :
    (session.serveAll requests).2.store = session.store ∧
      (session.serveAll requests).2.disk = session.disk := by
  induction requests generalizing session with
  | nil => exact ⟨rfl, rfl⟩
  | cons request rest ih =>
    obtain ⟨here, later⟩ := List.forall_mem_cons.mp unapplied
    obtain ⟨store, disk⟩ := ih (session.serve request).2 later
    rw [serveAll]
    dsimp only
    rw [store, disk]
    have step := served session request
    generalize (session.serve request).1 = answer at step
    generalize (session.serve request).2 = next at step ⊢
    cases step with
    | untouched _ | reviewed _ => exact ⟨rfl, rfl⟩
    | applied found _ | refused found _ => exact absurd found (here _)

/-- What is stored after a run, by induction on the requests. -/
theorem Steady.serveAll_load (steady : session.Steady) (integral : session.Integral requests) :
    (session.serveAll requests).2.load.1 =
      ((documents .apply requests (session.serveAll requests).1).getLast?.map .ok).getD
        session.load.1 := by
  induction requests generalizing session with
  | nil => rfl
  | cons request rest ih =>
    have here := steady.load_serve fun path file => integral path file request List.mem_cons_self
    have later : (session.serve request).2.Integral rest := fun path file other member =>
      integral path ((file_serve session request path).mp file) other (List.mem_cons_of_mem _ member)
    rw [serveAll]
    dsimp only
    rw [ih (steady.serve request) later, documents_cons, here]
    cases request.done? .apply (session.serve request).1 with
    | none => rfl
    | some document =>
      rw [Option.toList_some, List.singleton_append, List.getLast?_cons]
      cases (documents .apply rest ((session.serve request).2.serveAll rest).1).getLast? <;> rfl

theorem Steady.serveAll (steady : session.Steady) (requests : List Request) :
    (session.serveAll requests).2.Steady := by
  induction requests generalizing session with
  | nil => exact steady
  | cons request rest ih => exact ih (steady.serve request)

/-- Matching sessions answer a run of requests alike, by induction on the requests. -/
theorem Steady.serveAll_matched (steady : session.Steady) (matched : session.Matches other)
    (requests : List Request) :
    (other.serveAll requests).1 = (session.serveAll requests).1 ∧
      (session.serveAll requests).2.Matches (other.serveAll requests).2 := by
  induction requests generalizing session other with
  | nil => exact ⟨rfl, matched⟩
  | cons request rest ih =>
    obtain ⟨same, matchedNext⟩ := steady.serve_matched matched request
    obtain ⟨sameRest, matchedLast⟩ := ih (steady.serve request) matchedNext
    exact ⟨congrArg₂ List.cons same sameRest, matchedLast⟩

theorem length_serveAll (session : Session) (requests : List Request) :
    (session.serveAll requests).1.length = requests.length := by
  induction requests generalizing session with
  | nil => rfl
  | cons request rest ih => exact congrArg (· + 1) (ih (session.serve request).2)

/-- A request that fails and leaves no trace: without it all other answers are the same, and so is
what is shown and stored in the end, whatever is asked after it. -/
structure Traceless (session : Session) (before : List Request) (request : Request)
    (trouble : Trouble) (after : List Request) : Prop where
  answers : ∃ earlier later, earlier.length = before.length ∧
    (session.serveAll (before ++ request :: after)).1 = earlier ++ .error trouble :: later ∧
      (session.serveAll (before ++ after)).1 = earlier ++ later
  shown : (session.serveAll (before ++ request :: after)).2.shown =
    (session.serveAll (before ++ after)).2.shown
  stored : (session.serveAll (before ++ request :: after)).2.load.1 =
    (session.serveAll (before ++ after)).2.load.1

theorem Steady.traceless (steady : session.Steady)
    (failed : ((session.serveAll before).2.serve request).1 = .error trouble) :
    session.Traceless before request trouble after := by
  have start := steady.serveAll before
  -- The session after the failure matches the one before it, and so on to the end.
  obtain ⟨same, matched⟩ := start.serveAll_matched (matches_of_failed failed) after
  have run : session.serveAll (before ++ request :: after) =
      ((session.serveAll before).1 ++ .error trouble ::
          ((session.serveAll before).2.serveAll after).1,
        (((session.serveAll before).2.serve request).2.serveAll after).2) := by
    rw [serveAll_append, Session.serveAll]
    dsimp only
    rw [failed, same]
  have without := serveAll_append session before after
  refine ⟨⟨_, _, length_serveAll session before, congrArg Prod.fst run,
    congrArg Prod.fst without⟩, ?_, ?_⟩
  · rw [run, without]
    exact matched.shown
  · rw [run, without]
    exact (start.serveAll after).load matched

end Runs

/-- A session on a file is steady where the folder of the file is there, or its path is direct. -/
theorem steady_of_file (file : session.store = .file path)
    (standing : Disk.FolderThere path session.disk ∨
      session.disk.Rooted ∧ (Path.ofText path).IsDirect) : session.Steady := by
  rw [Steady, file]
  rcases standing with there | ⟨rooted, direct⟩
  · exact there.steady
  · exact Disk.steady_of_direct rooted direct

/-- Over a whole session the documents shown are those of the imports for review that succeeded, in
order and each once, and without an import to apply nothing is stored. What is stored in the end is
the document of the last import that was applied, or what was stored at first, and a request that
fails leaves no trace, unless the making of a folder interferes. -/
theorem serveAll_shown_and_stored (session : Session) :
    (∀ requests, let run := session.serveAll requests
      run.2.shown = session.shown ++ (documents .review requests run.1).map (⟨·, true⟩)) ∧
    (∀ requests, (∀ request ∈ requests, ∀ document,
        request.document? ≠ some (.apply, document)) →
      (session.serveAll requests).2.store = session.store ∧
        (session.serveAll requests).2.disk = session.disk) ∧
    (session.Steady →
      (∀ requests, session.Integral requests → let run := session.serveAll requests
        run.2.load.1 =
          ((documents .apply requests run.1).getLast?.map .ok).getD session.load.1) ∧
      ∀ before request trouble after,
        ((session.serveAll before).2.serve request).1 = .error trouble →
          session.Traceless before request trouble after) ∧
    ∀ path, session.store = .file path →
      (Disk.FolderThere path session.disk ∨ session.disk.Rooted ∧ (Path.ofText path).IsDirect) →
        session.Steady := by
  refine ⟨serveAll_shown session, fun requests => serveAll_unstored session, fun steady => ⟨?_, ?_⟩,
    fun path => steady_of_file⟩
  · exact fun requests integral => steady.serveAll_load integral
  · exact fun before request trouble after failed => steady.traceless failed

section Examples

def shownImport : Request := .importUpload [0x5B, 0x5D] "review"

def brokenImport : Request := .importUpload [0x5B] "apply"

def appliedImport : Request := .importUpload [0x5B, 0x31, 0x5D] "apply"

/-- A session on a file in a folder that is not there yet. -/
def inputSession : Session := ⟨.file "data/config.json", Command.inputDisk, []⟩

/-- A name of so many letters. -/
def letters (count : Nat) : String := String.ofList (List.replicate count 'x')

theorem size_letters (count : Nat) : (letters count).utf8ByteSize = count := by
  induction count with
  | zero => rfl
  | succ count ih =>
    rw [letters] at ih
    rw [letters, List.replicate_succ, String.ofList_cons, String.utf8ByteSize_append, ih]
    exact Nat.add_comm 1 count

/-- A file with such a name, in a folder that is not there yet. -/
def letteredPath (count : Nat) : Path := ⟨false, [.name "new", .name (letters count)], .plain⟩

def letteredSession (count : Nat) : Session := ⟨.file (letteredPath count).text, ⟨[], []⟩, []⟩

theorem serve_importUpload {bytes : List UInt8} {modeName : String} {mode : ImportMode}
    {taken : Import} (named : ImportMode.ofName? modeName = some mode)
    (prepared : prepareImport bytes = .ok taken) (session : Session) :
    session.serve (.importUpload bytes modeName) =
      (answer (session.dispatch taken mode).1 fun _ => .imported mode taken.report,
        (session.dispatch taken mode).2) := by
  rw [serve, readImport, named]
  dsimp only
  rw [prepared]

/-- An import into a file is answered as its save ends. -/
theorem serve_apply {bytes : List UInt8} {taken : Import} {disk after : Disk}
    {result : Except Fault Unit} (prepared : prepareImport bytes = .ok taken)
    (saved : (FileStore.save (m := StateM Disk) path taken.document .replace).run disk = (result, after))
    (shown : List Shown) :
    (Session.mk (.file path) disk shown).serve (.importUpload bytes "apply") =
      (answer result fun _ => .imported .apply taken.report, ⟨.file path, after, shown⟩) := by
  rw [serve_importUpload rfl prepared, dispatch, save]
  dsimp only
  rw [onDisk, saved]

theorem answers_inputSession :
    ∃ first trouble last, (inputSession.serveAll [shownImport, brokenImport, appliedImport]).1 =
      [.ok first, .error trouble, .ok last] := by
  obtain ⟨shown, readShown⟩ : ∃ taken, prepareImport [0x5B, 0x5D] = .ok taken := ⟨_, rfl⟩
  obtain ⟨taken, read⟩ : ∃ taken, prepareImport [0x5B, 0x31, 0x5D] = .ok taken := ⟨_, rfl⟩
  obtain ⟨trouble, unread⟩ : ∃ trouble, readImport [0x5B] "apply" = .error trouble := ⟨_, rfl⟩
  obtain ⟨final, saved⟩ := Command.save_inputDisk taken.document
  refine ⟨.imported .review shown.report, trouble, .imported .apply taken.report, ?_⟩
  have first : inputSession.serve shownImport = (.ok (.imported .review shown.report),
      ⟨.file "data/config.json", Command.inputDisk, [⟨shown.document, true⟩]⟩) := by
    rw [shownImport, serve_importUpload rfl readShown]
    rfl
  have broken : ∀ session : Session, session.serve brokenImport = (.error trouble, session) := by
    intro session
    rw [brokenImport, serve, unread]
  have last := serve_apply read saved [⟨shown.document, true⟩]
  rw [serveAll, first]
  dsimp only
  rw [serveAll, broken]
  dsimp only
  rw [serveAll, appliedImport, last]
  rfl

theorem letteredPath_read {count : Nat} (some : count ≠ 0) :
    (Path.ofText (letteredPath count).text).absolute = false ∧
      (Path.ofText (letteredPath count).text).steps = [.name "new", .name (letters count)] := by
  have proper : (letteredPath count).Proper := by
    have folder : (Step.name "new").Proper := by
      refine ⟨?_, ?_, ?_, ?_⟩ <;> decide
    have file : (Step.name (letters count)).Proper := by
      obtain ⟨more, rfl⟩ := Nat.exists_eq_succ_of_ne_zero some
      simp [Step.Proper, letters, List.replicate_succ]
    refine ⟨?_, by simp [letteredPath], by simp [letteredPath]⟩
    simp only [letteredPath, List.forall_mem_cons]
    exact ⟨folder, file, by simp⟩
  obtain ⟨absolute, steps, _⟩ := proper.ofText_text
  exact ⟨absolute, steps⟩

/-- A name that is too long, or whose temporary name is, is found out when its folder is made. -/
theorem serve_letteredSession {count : Nat}
    (long : FileTree.maxNameBytes < count + 4) (some : count ≠ 0) :
    ∃ trouble, (letteredSession count).serve appliedImport =
      (.error trouble, { letteredSession count with disk := ⟨[(["new"], .folder)], []⟩ }) := by
  obtain ⟨absolute, steps⟩ := letteredPath_read some
  obtain ⟨taken, read⟩ : ∃ taken, prepareImport [0x5B, 0x31, 0x5D] = .ok taken := ⟨_, rfl⟩
  have made : (makeFolderOf (letteredPath count).text : StateM Disk _).run ⟨[], []⟩ =
      (.ok (), ⟨[(["new"], .folder)], []⟩) := by
    rw [makeFolderOf, Path.parent?, steps, absolute]
    cbv
  have unwritten : ∀ content after, Disk.write ⟨[(["new"], .folder)], []⟩
      (FileStore.temporary (letteredPath count).text) content ≠ .ok after := by
    intro content after wrote
    obtain ⟨place, located, short, _⟩ := Disk.write_ok wrote
    obtain ⟨_, ⟨folder, name, given, beside⟩ | ⟨noName, _⟩⟩ :=
      Path.ofText_temporary (letteredPath count).text
    · have split : [Step.name "new"] ++ [Step.name (letters count)] = folder ++ [.name name] :=
        steps.symm.trans given
      obtain ⟨rfl, named⟩ := List.append_inj' split rfl
      cases named
      -- The name of the temporary file is four letters longer.
      have last : place.getLast? = .some (letters count ++ ".tmp") := by
        rw [Disk.locate_noUp (by simp [beside]) located, beside]
        simp [namesOf]
      rw [last, Option.getD_some, String.utf8ByteSize_append, size_letters] at short
      exact absurd long (Nat.not_lt.mpr short)
    · simp [Path.fileName?, steps] at noName
  obtain ⟨fault, saved⟩ := FileStore.save_unwritten taken.document made unwritten
  exact ⟨.fault fault, serve_apply read saved []⟩

theorem direct_letteredPath {count : Nat} (short : count ≤ FileTree.maxNameBytes)
    (some : count ≠ 0) : (Path.ofText (letteredPath count).text).IsDirect := by
  obtain ⟨_, steps⟩ := letteredPath_read some
  rw [Path.IsDirect, steps]
  simp only [List.forall_mem_cons]
  exact ⟨by decide, (size_letters count).trans_le short, nofun⟩

theorem serveAll_shown_and_stored_newFolder :
    let requests := [shownImport, brokenImport, appliedImport]
    inputSession.Steady ∧ inputSession.Integral requests ∧
      (inputSession.serveAll requests).2.shown = [⟨.array [], true⟩] ∧
      (inputSession.serveAll [shownImport, brokenImport]).2.disk = inputSession.disk ∧
      (inputSession.serveAll requests).2.load.1 = .ok (.array [.ofNat 1]) ∧
      (letteredSession 252).Steady ∧ ∃ trouble,
        ((letteredSession 252).serve appliedImport).1 = .error trouble ∧
          (letteredSession 252).Traceless [] appliedImport trouble [.load] := by
  have reviewed : shownImport.document? = some (.review, .array []) := rfl
  have unread : brokenImport.document? = none := rfl
  have applied : appliedImport.document? = some (.apply, .array [.ofNat 1]) := rfl
  have integral : inputSession.Integral [shownImport, brokenImport, appliedImport] := by
    intro path file
    have each : ∀ request ∈ [shownImport, brokenImport, appliedImport],
        ∀ found ∈ request.document?, found.2.integral = true := by
      simp only [List.forall_mem_cons, reviewed, unread, applied]
      decide
    exact fun request member document found => each request member _ found
  obtain ⟨first, trouble, last, answers⟩ := answers_inputSession
  obtain ⟨shown, unstored, stored, steady⟩ := serveAll_shown_and_stored inputSession
  have here : inputSession.Steady := steady "data/config.json" rfl
    (.inr ⟨⟨FileTree.rooted_of_entries (by decide), by decide⟩, by decide⟩)
  have shownThere := shown [shownImport, brokenImport, appliedImport]
  have storedThere := (stored here).1 [shownImport, brokenImport, appliedImport] integral
  dsimp only at shownThere storedThere
  rw [answers] at shownThere storedThere
  simp only [documents_cons, done?_of_some reviewed, done?_of_some applied,
    done?_of_none unread] at shownThere storedThere
  obtain ⟨trouble, failed⟩ := @serve_letteredSession 252 (by decide) (by decide)
  have refused := congrArg Prod.fst failed
  obtain ⟨_, _, leaves, steady⟩ := serveAll_shown_and_stored (letteredSession 252)
  have there : (letteredSession 252).Steady := steady _ rfl
    (.inr ⟨⟨FileTree.rooted_of_entries nofun, rfl⟩, direct_letteredPath (by decide) (by decide)⟩)
  have traceless := (leaves there).2 [] appliedImport trouble [.load] refused
  have unstoredThere := unstored [shownImport, brokenImport] (by simp [reviewed, unread])
  exact ⟨here, integral, shownThere, unstoredThere.2, storedThere, there, trouble, refused, traceless⟩

theorem check_letteredPath {count : Nat} (short : 4 + count ≤ Disk.maxPathBytes) :
    Disk.check (letteredPath count).text = .ok () := by
  have text : (letteredPath count).text = "new/" ++ letters count := by
    rw [← String.toList_inj, Path.toList_text]
    simp [letteredPath, Step.text]
  have noZero : ("new/" ++ letters count).contains '\x00' = false := by
    simp [letters]
  have size : ("new/" ++ letters count).utf8ByteSize = 4 + count := by
    rw [String.utf8ByteSize_append, size_letters]
    rfl
  rw [text, Disk.check, noZero, size, if_neg Bool.false_ne_true, if_neg (Nat.not_lt.mpr short)]

theorem locate_letteredPath {count : Nat} (some : count ≠ 0) (disk : Disk) :
    disk.locate (Path.ofText (letteredPath count).text) =
      disk.tree.follow disk.here [.name "new", .name (letters count)] := by
  obtain ⟨absolute, steps⟩ := letteredPath_read some
  rw [Disk.locate, absolute, steps]
  rfl

/-- A session in which an import is answered with a failure and what is stored changes. -/
structure Disturbed (session : Session) (before after : Except Fault Json) : Prop where
  failed : ∃ trouble, (session.serve appliedImport).1 = .error trouble
  stored : session.load.1 = before
  changed : (session.serve appliedImport).2.load.1 = after

theorem disturbed_climbing :
    Disturbed ⟨.file "a/../b", Command.hinderedDisk, []⟩ (.ok (.object [])) (.ok (.ofNat 1)) := by
  obtain ⟨taken, read⟩ : ∃ taken, prepareImport [0x5B, 0x31, 0x5D] = .ok taken := ⟨_, rfl⟩
  obtain ⟨fault, saved⟩ := Command.save_hinderedDisk taken.document
  have served := serve_apply read saved []
  have absent : Command.hinderedDisk.read "a/../b" = .error .notFound := by cbv
  have found : (Command.hinderedDisk.put ["a"] .folder).read "a/../b" = .ok [0x31] := by cbv
  have parsed : Json.parse [0x31] = .ok (.ofNat 1) := rfl
  refine ⟨⟨.fault fault, congrArg Prod.fst served⟩,
    congrArg Prod.fst (FileStore.load_of_missing absent), ?_⟩
  rw [appliedImport, served]
  exact congrArg Prod.fst (FileStore.load_of_read found parsed)

theorem disturbed_lettered {count : Nat} (long : FileTree.maxNameBytes < count)
    (short : 4 + count ≤ Disk.maxPathBytes) :
    (letteredSession count).Disturbed (.ok (.object [])) (.error (.file .nameTooLong)) := by
  have some : count ≠ 0 := by omega
  obtain ⟨trouble, served⟩ := serve_letteredSession (by omega) some
  have checked := check_letteredPath short
  have unlocated : Disk.locate ⟨[], []⟩ (Path.ofText (letteredPath count).text) =
      .error .notFound := (locate_letteredPath some _).trans rfl
  have absent : Disk.read ⟨[], []⟩ (letteredPath count).text = .error .notFound := by
    simp only [Disk.read, checked, unlocated, bind, Except.bind]
  have located : Disk.locate ⟨[(["new"], .folder)], []⟩ (Path.ofText (letteredPath count).text) =
      .ok ["new", letters count] := (locate_letteredPath some _).trans rfl
  have unfound : FileTree.find [(["new"], .folder)] ["new", letters count] = .error .nameTooLong := by
    rw [FileTree.find, if_pos]
    exact (size_letters count).symm ▸ long
  have refused : Disk.read ⟨[(["new"], .folder)], []⟩ (letteredPath count).text =
      .error .nameTooLong := by
    simp only [Disk.read, checked, located, unfound, bind, Except.bind]
  refine ⟨⟨trouble, congrArg Prod.fst served⟩,
    congrArg Prod.fst (FileStore.load_of_missing absent), ?_⟩
  rw [served]
  exact congrArg Prod.fst ((FileStore.run_load _ _).trans (by rw [refused]))

/-- An import that fails can change what is stored: through the folder that was made for it, a path
with a step up leads to another file, or a name is found to be too long. -/
theorem stored_changed :
    Disturbed ⟨.file "a/../b", Command.hinderedDisk, []⟩ (.ok (.object [])) (.ok (.ofNat 1)) ∧
      (letteredSession 256).Disturbed (.ok (.object [])) (.error (.file .nameTooLong)) :=
  ⟨disturbed_climbing, disturbed_lettered (by decide) (by decide)⟩

end Examples

end Session

end ScannerConfig
