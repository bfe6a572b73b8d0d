import Mathlib
import ScannerConfig.Proofs.FileReplacement
import ScannerConfig.Proofs.JsonText
import ScannerConfig.Proofs.ParsedKeys
import ScannerConfig.Transfer.Session

namespace ScannerConfig

/-- The entries of a document; a document that is no object has none. -/
def Json.entries : Json → Entries Json
  | .object entries => entries
  | _ => []

structure Save where
  document : Json
  mode : SaveMode

/-- What is stored after a save: the document alone, or its entries over the stored ones. -/
def afterSave (stored : Json) (save : Save) : Json :=
  match save.mode with
  | .replace => save.document
  | .merge => .object (stored.entries.overlay save.document.entries)

/-- What is stored after saves one after another, with nothing stored before. -/
def afterSaves (saves : List Save) : Json :=
  saves.foldl afterSave (.object [])

/-- The value of a key in the latest save that has it, among saves with the latest first. What
was saved before a replacement does not count. -/
def latest (key : String) : List Save → Option Json
  | [] => none
  | save :: earlier =>
    match save.document.entries.get? key, save.mode with
    | some value, _ => some value
    | none, .replace => none
    | none, .merge => latest key earlier

section Merging

variable {stored kept : Json} {save : Save} {key : String}

theorem afterSaves_append (saves : List Save) (save : Save) :
    afterSaves (saves ++ [save]) = afterSave (afterSaves saves) save :=
  List.foldl_append ..

/-- What a store makes of a save, if it accepts the save. -/
def Save.into (save : Save) (stored : Json) : Except Refusal Json :=
  match save.mode with
  | .replace => .ok save.document
  | .merge => mergeDocuments stored save.document

theorem Json.wellKeyed_entries {document : Json} (keyed : document.wellKeyed = true) :
    document.entries.WellKeyed := by
  cases document with
  | object entries => exact wellKeyed_object.mp keyed
  | _ => exact Entries.WellKeyed.nil

/-- A merge that is accepted inserts the entries into the stored ones. -/
theorem mergeDocuments_ok {incoming : Json} (merged : mergeDocuments stored incoming = .ok kept) :
    kept = .object (stored.entries.insertAll incoming.entries) := by
  cases incoming with
  | object entries => cases stored <;> cases merged <;> rfl
  | _ => cases merged

theorem into_eq_afterSave (keyed : stored.wellKeyed = true)
    (keyedSave : save.document.wellKeyed = true) (accepted : save.into stored = .ok kept) :
    kept = afterSave stored save := by
  rw [Save.into] at accepted
  rw [afterSave]
  split at accepted
  · exact (Except.ok.inj accepted).symm
  · rw [mergeDocuments_ok accepted, Entries.insertAll_eq_overlay (Json.wellKeyed_entries keyed).distinct
      (Json.wellKeyed_entries keyedSave).distinct]

theorem wellKeyed_into (keyed : stored.wellKeyed = true)
    (keyedSave : save.document.wellKeyed = true) (accepted : save.into stored = .ok kept) :
    kept.wellKeyed = true := by
  rw [Save.into] at accepted
  split at accepted
  · exact Except.ok.inj accepted ▸ keyedSave
  · rw [mergeDocuments_ok accepted]
    have record := Json.wellKeyed_entries keyedSave
    refine Json.wellKeyed_object.mpr ((Json.wellKeyed_entries keyed).insertAll fun entry member => ?_)
    exact record.value (Entries.get?_of_mem record.distinct member)

theorem Json.Layered.entries {property : Nat → Json → Prop} (layered : Layered property)
    {level : Nat} {document : Json} (holds : property (level + 1) document) :
    document.entries.Each (property level) := by
  cases document with
  | object entries => exact layered.object.mp holds
  | _ => exact fun _ member => absurd member List.not_mem_nil

theorem Json.Layered.into {property : Nat → Json → Prop} (layered : Layered property)
    (level : Nat) (holds : property (level + 1) stored)
    (holdsSave : property (level + 1) save.document) (accepted : save.into stored = .ok kept) :
    property (level + 1) kept := by
  rw [Save.into] at accepted
  split at accepted
  · exact Except.ok.inj accepted ▸ holdsSave
  · rw [mergeDocuments_ok accepted]
    exact layered.object.mpr ((layered.entries holds).insertAll (layered.entries holdsSave))

theorem get?_afterSave (keyed : stored.wellKeyed = true) (keyedSave : save.document.wellKeyed = true)
    (key : String) : (afterSave stored save).entries.get? key =
      match save.document.entries.get? key, save.mode with
      | some value, _ => some value
      | none, .replace => none
      | none, .merge => stored.entries.get? key := by
  have distinct := (Json.wellKeyed_entries keyed).distinct
  have distinctSave := (Json.wellKeyed_entries keyedSave).distinct
  rw [afterSave]
  cases save.mode with
  | replace => cases save.document.entries.get? key <;> rfl
  | merge =>
    rw [Json.entries, ← Entries.insertAll_eq_overlay distinct distinctSave,
      Entries.get?_insertAll distinctSave]
    cases save.document.entries.get? key <;> rfl

end Merging

/-- After a save the memory holds what the store made of the save. -/
theorem MemoryStore.document_of_save {store : MemoryStore} {save : Save}
    (ok : (store.save save.document save.mode).1 = .ok ()) :
    ∃ kept, save.into store.document = .ok kept ∧
      (store.save save.document save.mode).2.document = kept := by
  rw [Save.into]
  unfold MemoryStore.save at ok ⊢
  by_cases rejects : store.rejecting
  · rw [if_pos rejects] at ok
    cases ok
  · rw [if_neg rejects] at ok ⊢
    cases mode : save.mode with
    | replace => exact ⟨save.document, rfl, rfl⟩
    | merge =>
      rw [mode] at ok
      cases merging : mergeDocuments store.document save.document with
      | error refusal =>
        rw [merging] at ok
        cases ok
      | ok merged => exact ⟨merged, rfl, rfl⟩

namespace FileStore

variable {path : String} {disk final : Disk} {document stored : Json} {mode : SaveMode}

theorem onFiles_attempt_ok {step : Disk → Except FileError Disk}
    (ok : (onFiles (Disk.attempt step)).run disk = (.ok (), final)) : step disk = .ok final := by
  rw [run_onFiles, Disk.run_attempt] at ok
  cases taken : step disk with
  | ok after =>
    rw [taken] at ok
    cases ok
    rfl
  | error fault =>
    rw [taken] at ok
    cases ok

theorem load_of_missing (missing : disk.read path = .error .notFound) :
    (load (m := StateM Disk) path).run disk = (.ok (.object []), disk) := by
  simp [load, Files.read, missing, bind, StateT.bind, pure, StateT.pure]

theorem load_of_read {bytes : List UInt8} (read : disk.read path = .ok bytes)
    (parsed : Json.parse bytes = .ok stored) :
    (load (m := StateM Disk) path).run disk = (.ok stored, disk) := by
  simp [load, Files.read, read, parsed, Except.mapError, bind, StateT.bind, pure, StateT.pure]

/-- The steps of a save once it is decided what to store. -/
def store (path : String) (document : Json) : ExceptT Fault (StateM Disk) Unit := do
  onFiles (makeFolderOf path)
  onFiles (Files.write (temporary path) (Utf8.encode document.pretty.toList))
  onFiles (Files.rename (temporary path) path)

theorem read_of_store (ok : (store path document).run disk = (.ok (), final)) :
    final.read path = .ok (Utf8.encode document.pretty.toList) := by
  obtain ⟨_, prepared, _, ok⟩ := run_bind_ok ok
  obtain ⟨_, written, writes, moves⟩ := run_bind_ok ok
  exact Disk.read_of_rename (Disk.hasFile_of_write (onFiles_attempt_ok writes))
    (onFiles_attempt_ok moves)

/-- After a save the file holds the text of what the store made of the save. -/
theorem read_of_save {save : Save} (holds : (load (m := StateM Disk) path).run disk = (.ok stored, disk))
    (ok : (FileStore.save (m := StateM Disk) path save.document save.mode).run disk = (.ok (), final)) :
    ∃ kept, save.into stored = .ok kept ∧
      final.read path = .ok (Utf8.encode kept.pretty.toList) := by
  unfold FileStore.save at ok
  rw [Save.into]
  cases mode : save.mode with
  | replace =>
    rw [mode] at ok
    exact ⟨save.document, rfl, read_of_store ok⟩
  | merge =>
    rw [mode] at ok
    obtain ⟨loaded, middle, loads, ok⟩ := run_bind_ok ok
    cases holds.symm.trans loads
    cases merging : mergeDocuments stored save.document with
    | error refusal =>
      rw [merging] at ok
      cases ok
    | ok merged =>
      rw [merging] at ok
      exact ⟨merged, rfl, read_of_store ok⟩

end FileStore

/-- The documents that a store gives back as they are: all of them from memory, and from a file
those with integers only and nested no deeper than the reader goes. -/
def Store.Keeps (document : Json) : Store → Prop
  | .memory _ => True
  | .file _ => document.integral = true ∧ document.depth ≤ Json.Parser.maxDepth

theorem Store.keeps_into {store : Store} {stored kept : Json} {save : Save}
    (keeps : store.Keeps stored) (keepsSave : store.Keeps save.document)
    (accepted : save.into stored = .ok kept) : store.Keeps kept := by
  cases store with
  | memory => trivial
  | file path =>
    exact ⟨Json.layered_integral.into 126 keeps.1 keepsSave.1 accepted,
      Json.layered_depth.into 126 keeps.2 keepsSave.2 accepted⟩

namespace Session

variable {session final : Session} {document stored : Json}

/-- Nothing was saved yet: the memory holds an empty object, or there is no file. -/
def Fresh (session : Session) : Prop :=
  match session.store with
  | .memory store => store.document = .object []
  | .file path => session.disk.read path = .error .notFound

/-- Saves that all succeed, one after another and with nothing else in between. -/
inductive Saved (start : Session) : List Save → Session → Prop
  | start : Saved start [] start
  | next {saves middle save final} : Saved start saves middle →
      middle.save save.document save.mode = (.ok (), final) → Saved start (saves ++ [save]) final

/-- The session answers with a document that its store can keep. -/
structure Holds (session : Session) (document : Json) : Prop where
  load : session.load = (.ok document, session)
  keyed : document.wellKeyed = true
  keeps : session.store.Keeps document

theorem onDisk_eq_iff {α : Type} {step : ExceptT Fault (StateM Disk) α} {result : Except Fault α} :
    session.onDisk step = (result, final) ↔
      ∃ disk, step.run session.disk = (result, disk) ∧ { session with disk := disk } = final := by
  constructor
  · intro same
    have answer : (step.run session.disk).1 = result := congrArg Prod.fst same
    exact ⟨_, Prod.ext answer rfl, congrArg Prod.snd same⟩
  · rintro ⟨disk, ran, rfl⟩
    rw [onDisk, ran]

theorem holds_of_fresh (fresh : session.Fresh) : session.Holds (.object []) := by
  obtain ⟨store, disk, shown⟩ := session
  cases store with
  | memory store =>
    refine ⟨?_, rfl, trivial⟩
    exact congrArg (fun document => (Except.ok document, _)) fresh
  | file path =>
    refine ⟨?_, rfl, rfl, by decide⟩
    exact onDisk_eq_iff.mpr ⟨disk, FileStore.load_of_missing fresh, rfl⟩

/-- The kind of a store does not change with a save, and with it not what it can keep. -/
theorem keeps_save {mode : SaveMode} {result : Except Fault Unit}
    (saved : session.save document mode = (result, final)) (other : Json) :
    final.store.Keeps other ↔ session.store.Keeps other := by
  obtain ⟨store, disk, shown⟩ := session
  have after := congrArg Prod.snd saved
  cases store <;> subst after <;> exact Iff.rfl

/-- A store of either kind answers with what it made of the save, if it can keep that. -/
theorem load_of_save {save : Save} (loads : session.load = (.ok stored, session))
    (ok : session.save save.document save.mode = (.ok (), final)) :
    ∃ kept, save.into stored = .ok kept ∧
      (kept.wellKeyed = true → session.store.Keeps kept → final.load = (.ok kept, final)) := by
  obtain ⟨store, disk, shown⟩ := session
  cases store with
  | memory store =>
    have current : store.document = stored := by simpa [load] using loads
    subst current
    obtain ⟨kept, accepted, saved⟩ := MemoryStore.document_of_save (congrArg Prod.fst ok)
    refine ⟨kept, accepted, fun _ _ => ?_⟩
    subst saved
    have after : Session.mk (.memory (store.save save.document save.mode).2) disk shown = final :=
      congrArg Prod.snd ok
    rw [← after]
    rfl
  | file path =>
    obtain ⟨loaded, loads, same⟩ := onDisk_eq_iff.mp loads
    cases same
    obtain ⟨after, saves, rfl⟩ := onDisk_eq_iff.mp ok
    obtain ⟨kept, accepted, read⟩ := FileStore.read_of_save loads saves
    refine ⟨kept, accepted, fun keyed keeps => ?_⟩
    have parsed := Json.parse_render .indented keyed keeps.1 keeps.2
    exact onDisk_eq_iff.mpr ⟨after, FileStore.load_of_read read parsed, rfl⟩

theorem Holds.afterSave {save : Save} (holds : session.Holds stored)
    (keyed : save.document.wellKeyed = true) (keeps : session.store.Keeps save.document)
    (ok : session.save save.document save.mode = (.ok (), final)) :
    final.Holds (afterSave stored save) := by
  obtain ⟨kept, accepted, loads⟩ := load_of_save holds.load ok
  have keyedKept := wellKeyed_into holds.keyed keyed accepted
  have keepsKept := Store.keeps_into holds.keeps keeps accepted
  rw [← into_eq_afterSave holds.keyed keyed accepted]
  exact ⟨loads keyedKept keepsKept, keyedKept, (keeps_save ok kept).mpr keepsKept⟩

/-- What holds after a run of saves, by induction on the run. -/
theorem Saved.holds {saves : List Save} (run : session.Saved saves final) (fresh : session.Fresh)
    (keyed : ∀ save ∈ saves, save.document.wellKeyed = true)
    (keeps : ∀ save ∈ saves, session.store.Keeps save.document) :
    (∀ other, final.store.Keeps other ↔ session.store.Keeps other) ∧
      final.Holds (afterSaves saves) ∧
        ∀ key, (afterSaves saves).entries.get? key = latest key saves.reverse := by
  induction run with
  | start => exact ⟨fun _ => Iff.rfl, holds_of_fresh fresh, fun _ => rfl⟩
  | @next saves middle save final before ok ih =>
    obtain ⟨keyedBefore, keyedSave⟩ := List.forall_mem_append.mp keyed
    obtain ⟨keepsBefore, keepsSave⟩ := List.forall_mem_append.mp keeps
    obtain ⟨sameKind, holds, values⟩ := ih keyedBefore keepsBefore
    have keyedLast := keyedSave save (List.mem_singleton_self save)
    have keepsLast := (sameKind _).mpr (keepsSave save (List.mem_singleton_self save))
    rw [afterSaves_append]
    refine ⟨fun other => (keeps_save ok other).trans (sameKind other),
      holds.afterSave keyedLast keepsLast ok, fun key => ?_⟩
    rw [get?_afterSave holds.keyed keyedLast, List.reverse_append, List.reverse_singleton,
      List.singleton_append, latest, values key]

/-- After saves that all succeed, with nothing saved before, both kinds of stores answer with the
same document: that of the latest replacement with the entries of later saves laid over it, so
that each key has the value of the latest save that counts. -/
theorem load_afterSaves {saves : List Save} (fresh : session.Fresh)
    (run : session.Saved saves final) (keyed : ∀ save ∈ saves, save.document.wellKeyed = true)
    (keeps : ∀ save ∈ saves, session.store.Keeps save.document) :
    final.load = (.ok (afterSaves saves), final) ∧
      (∀ key, (afterSaves saves).entries.get? key = latest key saves.reverse) ∧
        ∀ other last : Session, other.Fresh → other.Saved saves last →
          (∀ save ∈ saves, other.store.Keeps save.document) → last.load.1 = final.load.1 := by
  obtain ⟨_, holds, values⟩ := run.holds fresh keyed keeps
  refine ⟨holds.load, values, fun other last freshOther runOther keepsOther => ?_⟩
  rw [(runOther.holds freshOther keyed keepsOther).2.1.load, holds.load]

/-- A file in a folder that is not there yet. -/
def newFile : Session := ⟨.file "data/config.json", ⟨[], []⟩, []⟩

def newMemory : Session := ⟨.memory ⟨.object [], false⟩, ⟨[], []⟩, []⟩

def firstSave : Save :=
  ⟨.object [("groups", .null), ("tags", .array [.ofNat 2])], .replace⟩

def laterSave : Save :=
  ⟨.object [("version", .string "7"), ("groups", .array [.ofNat 1])], .merge⟩

set_option maxRecDepth 10000 in
theorem saved_newFile : ∃ final, newFile.Saved [firstSave, laterSave] final := by
  have first : (newFile.save firstSave.document firstSave.mode).1 = .ok () := by cbv
  have later : ((newFile.save firstSave.document firstSave.mode).2.save
      laterSave.document laterSave.mode).1 = .ok () := by cbv
  exact ⟨_, .next (.next .start (Prod.ext first rfl)) (Prod.ext later rfl)⟩

theorem saved_newMemory : ∃ last, newMemory.Saved [firstSave, laterSave] last :=
  ⟨_, .next (.next .start rfl) rfl⟩

theorem load_afterSaves_newFile : newFile.Fresh ∧ newMemory.Fresh ∧
    ∃ final, newFile.Saved [firstSave, laterSave] final ∧
      final.load = (.ok (.object [("groups", .array [.ofNat 1]), ("tags", .array [.ofNat 2]),
        ("version", .string "7")]), final) ∧
      ∃ last, newMemory.Saved [firstSave, laterSave] last ∧ last.load.1 = final.load.1 := by
  have fresh : newFile.Fresh := by
    change newFile.disk.read "data/config.json" = .error .notFound
    cbv
  have keyed : ∀ save ∈ [firstSave, laterSave], save.document.wellKeyed = true := by decide
  have keeps : ∀ save ∈ [firstSave, laterSave], newFile.store.Keeps save.document := by
    intro save member
    have limits : ∀ save ∈ [firstSave, laterSave],
        save.document.integral = true ∧ save.document.depth ≤ Json.Parser.maxDepth := by decide
    exact limits save member
  obtain ⟨final, run⟩ := saved_newFile
  obtain ⟨last, runMemory⟩ := saved_newMemory
  obtain ⟨loads, _, agree⟩ := load_afterSaves fresh run keyed keeps
  have same := agree newMemory last rfl runMemory fun _ _ => trivial
  exact ⟨fresh, rfl, final, run, loads, last, runMemory, same⟩

end Session

end ScannerConfig
