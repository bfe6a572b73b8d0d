import ScannerConfig.Proofs.RepeatedSaves
import ScannerConfig.Transfer.Session

namespace ScannerConfig

theorem FileStore.run_load (path : String) (disk : Disk) :
    (FileStore.load (m := StateM Disk) path).run disk =
      (match disk.read path with
        | .error .notFound => .ok (.object [])
        | .error error => .error (.file error)
        | .ok bytes => (Json.parse bytes).mapError .json, disk) := by
  change StateT.run (Files.read path >>= _) disk = _
  rw [StateT.run_bind, show (Files.read path : StateM Disk _).run disk = (disk.read path, disk) from rfl]
  cases disk.read path with
  | ok bytes => rfl
  | error fault => cases fault <;> rfl

theorem MemoryStore.unchanged_of_refused {store : MemoryStore} {document : Json} {fault : Fault}
    (failed : (store.save document .replace).1 = .error fault) :
    (store.save document .replace).2 = store := by
  unfold MemoryStore.save at failed ⊢
  by_cases rejects : store.rejecting
  · rw [if_pos rejects]
  · rw [if_neg rejects] at failed
    cases failed

namespace Session

/-- What a session can be asked for. -/
inductive Request where
  | load
  | exportFile (seconds : Int)
  | importUpload (bytes : List UInt8) (modeName : String)

inductive Trouble where
  | unknownMode (name : String)
  | fault (fault : Fault)

inductive Reply where
  | loaded (document : Json)
  | exported (file : ExportFile)
  | imported (mode : ImportMode) (report : Report)

def answer {α : Type} (result : Except Fault α) (reply : α → Reply) : Except Trouble Reply :=
  match result with
  | .error fault => .error (.fault fault)
  | .ok value => .ok (reply value)

/-- Reads an import; its mode is looked at first. -/
def readImport (bytes : List UInt8) (modeName : String) : Except Trouble (ImportMode × Import) :=
  match ImportMode.ofName? modeName with
  | none => .error (.unknownMode modeName)
  | some mode =>
    match prepareImport bytes with
    | .error fault => .error (.fault fault)
    | .ok taken => .ok (mode, taken)

def serve (session : Session) : Request → Except Trouble Reply × Session
  | .load =>
    let (result, session) := session.load
    (answer result .loaded, session)
  | .exportFile seconds =>
    let (result, session) := session.exportFile seconds
    (answer result .exported, session)
  | .importUpload bytes modeName =>
    match readImport bytes modeName with
    | .error trouble => (.error trouble, session)
    | .ok (mode, taken) =>
      let (result, session) := session.dispatch taken mode
      (answer result fun _ => .imported mode taken.report, session)

/-- The mode of an import and the document of its upload, normalized. -/
def Request.document? : Request → Option (ImportMode × Json)
  | .load | .exportFile _ => none
  | .importUpload bytes modeName =>
    match ImportMode.ofName? modeName, Upload.parse bytes with
    | some mode, .ok given => some (mode, (normalize given).value)
    | _, _ => none

variable {session other final : Session} {request : Request} {document : Json}

section Serving

theorem load_unchanged (session : Session) : session.load.2 = session := by
  obtain ⟨_ | path, disk, shown⟩ := session
  · rfl
  · exact congrArg (Session.mk (.file path) · shown) (congrArg Prod.snd (FileStore.run_load path disk))

theorem exportFile_unchanged (session : Session) (seconds : Int) :
    (session.exportFile seconds).2 = session :=
  load_unchanged session

theorem save_keeps (session : Session) (document : Json) (mode : SaveMode) :
    (session.save document mode).2.shown = session.shown ∧
      ∀ path, (session.save document mode).2.store = .file path ↔ session.store = .file path := by
  obtain ⟨_ | file, disk, shown⟩ := session
  · exact ⟨rfl, fun _ => iff_of_false nofun nofun⟩
  · exact ⟨rfl, fun _ => Iff.rfl⟩

/-- How a session serves a request, by the document that it imports. -/
inductive Served (session : Session) (request : Request) : Except Trouble Reply → Session → Prop
  | untouched {answer : Except Trouble Reply} :
      request.document? = none → Served session request answer session
  | reviewed {document : Json} {reply : Reply} : request.document? = some (.review, document) →
      Served session request (.ok reply) { session with shown := session.shown ++ [⟨document, true⟩] }
  | applied {document : Json} {reply : Reply} {final : Session} :
      request.document? = some (.apply, document) →
        session.save document .replace = (.ok (), final) → Served session request (.ok reply) final
  | refused {document : Json} {fault : Fault} {final : Session} :
      request.document? = some (.apply, document) →
        session.save document .replace = (.error fault, final) →
          Served session request (.error (.fault fault)) final

theorem document?_importUpload (bytes : List UInt8) (modeName : String) :
    (Request.importUpload bytes modeName).document? =
      match readImport bytes modeName with
      | .error _ => none
      | .ok (mode, taken) => some (mode, taken.document) := by
  rw [Request.document?, readImport]
  cases ImportMode.ofName? modeName with
  | none => rfl
  | some mode =>
    rw [prepareImport]
    cases Upload.parse bytes <;> rfl

theorem served (session : Session) (request : Request) :
    Served session request (session.serve request).1 (session.serve request).2 := by
  cases request with
  | load =>
    have same := load_unchanged session
    rw [serve]
    dsimp only
    rw [same]
    exact .untouched rfl
  | exportFile seconds =>
    have same := exportFile_unchanged session seconds
    rw [serve]
    dsimp only
    rw [same]
    exact .untouched rfl
  | importUpload bytes modeName =>
    have carried := document?_importUpload bytes modeName
    rw [serve]
    generalize readImport bytes modeName = found at carried ⊢
    obtain trouble | ⟨mode, taken⟩ := found
    · exact .untouched carried
    · cases mode with
      | review => exact .reviewed carried
      | apply =>
        dsimp only
        rw [dispatch]
        rcases saved : session.save taken.document .replace with ⟨fault | _, final⟩
        · exact .refused carried saved
        · exact .applied carried saved

end Serving

section Matching

/-- The store is in memory, or attempts to make the folder of its file do not change it. -/
def Steady (session : Session) : Prop :=
  match session.store with
  | .memory _ => True
  | .file path => Disk.Steady path session.disk

/-- Sessions that differ at most by what failed attempts to save left behind. -/
inductive Matches (session : Session) : Session → Prop
  | same : Matches session session
  | tried {path : String} {disk : Disk} : session.store = .file path →
      Disk.Tried path session.disk disk → Matches session { session with disk := disk }

theorem Matches.shown (matched : session.Matches other) : other.shown = session.shown := by
  cases matched <;> rfl

theorem Steady.load (steady : session.Steady) (matched : session.Matches other) :
    other.load.1 = session.load.1 := by
  cases matched with
  | same => rfl
  | tried file tried =>
    obtain ⟨_, disk, shown⟩ := session
    cases file
    have reads := Disk.Steady.read_tried steady tried
    simp only [Session.load, onDisk, FileStore.run_load, reads]

theorem Steady.exportFile (steady : session.Steady) (matched : session.Matches other) (seconds : Int) :
    (other.exportFile seconds).1 = (session.exportFile seconds).1 :=
  congrArg (Except.map fun document => ExportFile.ofDocument document seconds) (steady.load matched)

theorem Steady.save_matched (steady : session.Steady) (matched : session.Matches other)
    (document : Json) :
    (other.save document .replace).1 = (session.save document .replace).1 ∧
      (session.save document .replace).2.Matches (other.save document .replace).2 := by
  cases matched with
  | same => exact ⟨rfl, .same⟩
  | tried file tried =>
    obtain ⟨_, disk, shown⟩ := session
    cases file
    obtain ⟨same, triedAfter⟩ := Disk.Steady.save_tried steady tried document
    exact ⟨same, .tried rfl triedAfter⟩

theorem Steady.save (steady : session.Steady) (document : Json) :
    (session.save document .replace).2.Steady := by
  obtain ⟨_ | file, disk, shown⟩ := session
  · trivial
  · exact Disk.Steady.save steady document

/-- A save that fails leaves a session that matches the one before. -/
theorem matches_of_refused {fault : Fault}
    (failed : session.save document .replace = (.error fault, final)) : session.Matches final := by
  have result : (session.save document .replace).1 = .error fault := congrArg Prod.fst failed
  have after : (session.save document .replace).2 = final := congrArg Prod.snd failed
  rw [← after]
  obtain ⟨memory | file, disk, shown⟩ := session
  · have same : (memory.save document .replace).2 = memory := MemoryStore.unchanged_of_refused result
    rw [Session.save]
    dsimp only
    rw [same]
    exact .same
  · exact .tried rfl (Disk.tried_of_failed result)

theorem Steady.serve (steady : session.Steady) (request : Request) :
    (session.serve request).2.Steady := by
  have step := served session request
  generalize (session.serve request).1 = answer at step
  generalize (session.serve request).2 = next at step ⊢
  cases step with
  | untouched _ | reviewed _ => exact steady
  | @applied document _ _ _ saved | @refused document _ _ _ saved =>
    have after := steady.save document
    rwa [saved] at after

/-- Matching sessions give the same answer and match afterwards. -/
theorem Steady.serve_matched (steady : session.Steady) (matched : session.Matches other)
    (request : Request) :
    (other.serve request).1 = (session.serve request).1 ∧
      (session.serve request).2.Matches (other.serve request).2 := by
  cases request with
  | load =>
    rw [Session.serve, Session.serve]
    dsimp only
    rw [load_unchanged, load_unchanged, steady.load matched]
    exact ⟨rfl, matched⟩
  | exportFile seconds =>
    rw [Session.serve, Session.serve]
    dsimp only
    rw [exportFile_unchanged, exportFile_unchanged, steady.exportFile matched]
    exact ⟨rfl, matched⟩
  | importUpload bytes modeName =>
    rw [Session.serve, Session.serve]
    rcases readImport bytes modeName with trouble | ⟨mode, taken⟩
    · exact ⟨rfl, matched⟩
    · cases mode with
      | apply =>
        obtain ⟨same, matchedAfter⟩ := steady.save_matched matched taken.document
        exact ⟨congrArg (answer · fun _ => .imported .apply taken.report) same, matchedAfter⟩
      | review =>
        refine ⟨rfl, ?_⟩
        cases matched with
        | same => exact .same
        | tried file tried => exact .tried file tried

/-- A request that fails leaves a session that matches the one before. -/
theorem matches_of_failed {trouble : Trouble}
    (failed : (session.serve request).1 = .error trouble) :
    session.Matches (session.serve request).2 := by
  have step := served session request
  rw [failed] at step
  generalize (session.serve request).2 = next at step ⊢
  cases step with
  | untouched _ => exact .same
  | refused _ saved => exact matches_of_refused saved

end Matching

end Session

end ScannerConfig
