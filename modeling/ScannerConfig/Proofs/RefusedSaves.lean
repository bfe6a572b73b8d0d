import ScannerConfig.Proofs.Requests
import ScannerConfig.Proofs.SavedRuns

namespace ScannerConfig

variable {document stored incoming : Json} {mode : SaveMode} {fault : Fault} {refusal : Refusal}

/-- Why a merge is refused: the incoming document is no object, or else the stored one is neither an
object nor null. -/
inductive MergeRefused (stored incoming : Json) : Refusal → Prop
  | incoming : (∀ entries, incoming ≠ .object entries) → MergeRefused stored incoming .incomingNotObject
  | stored (entries : List (String × Json)) : incoming = .object entries →
      (∀ entries, stored ≠ .object entries) → stored ≠ .null →
        MergeRefused stored incoming .storedNotObject

theorem mergeDocuments_eq_error_iff :
    mergeDocuments stored incoming = .error refusal ↔ MergeRefused stored incoming refusal := by
  constructor
  · intro refused
    cases incoming with
    | object entries => cases stored <;> cases refused <;> exact .stored entries rfl nofun nofun
    | _ =>
      cases refused
      exact .incoming nofun
  · rintro (noObject | ⟨entries, rfl, noObject, some⟩)
    · cases incoming with
      | object entries => exact absurd rfl (noObject entries)
      | _ => rfl
    · cases stored with
      | object other => exact absurd rfl (noObject other)
      | null => exact absurd rfl some
      | _ => rfl

/-- What becomes of a store in memory whose save failed. -/
def MemoryStore.unsaved (store : MemoryStore) : MemoryStore :=
  { store with document := if store.rejecting then store.document else .null }

theorem MemoryStore.unsaved_eq_iff {store : MemoryStore} :
    store.unsaved = store ↔ store.rejecting = true ∨ store.document = .null := by
  obtain ⟨document, rejecting⟩ := store
  cases rejecting <;> simp [unsaved, eq_comm]

/-- A save to memory fails if the store rejects all saves, or else if it is a merge that is
refused. -/
theorem MemoryStore.save_eq_error {store after : MemoryStore}
    (failed : store.save document mode = (.error fault, after)) :
    after = store.unsaved ∧
      if store.rejecting then fault = .refused .rejected
      else mode = .merge ∧ ∃ refusal,
        MergeRefused store.document document refusal ∧ fault = .refused refusal := by
  unfold save at failed
  rw [unsaved]
  split at failed <;> rename_i rejects
  · rw [if_pos rejects, if_pos rejects]
    cases failed
    exact ⟨rfl, rfl⟩
  · rw [if_neg rejects, if_neg rejects]
    cases mode with
    | replace => cases failed
    | merge =>
      cases merging : mergeDocuments store.document document with
      | ok merged =>
        rw [merging] at failed
        cases failed
      | error refusal =>
        rw [merging] at failed
        cases failed
        exact ⟨rfl, rfl, refusal, mergeDocuments_eq_error_iff.mp merging, rfl⟩

namespace FileStore

variable {path : String} {disk final : Disk}

/-- Once it is decided what to store, only the files can be in the way. -/
theorem fault_of_save {σ : Type} [Files (StateM σ)] {start final : σ}
    (failed : (save (m := StateM σ) path document .replace).run start = (.error fault, final)) :
    ∃ error, fault = .file error := by
  rw [run_save] at failed
  generalize (makeFolderOf path : StateM σ _).run start = making at failed
  rcases making with ⟨error | _, middle⟩
  · cases failed
    exact ⟨error, rfl⟩
  · dsimp only at failed
    generalize (Files.write (temporary path) (Utf8.encode document.pretty.toList) :
      StateM σ _).run middle = writing at failed
    rcases writing with ⟨error | _, written⟩
    · cases failed
      exact ⟨error, rfl⟩
    · dsimp only at failed
      generalize (Files.rename (temporary path) path : StateM σ _).run written = moving at failed
      rcases moving with ⟨error | _, moved⟩
      · cases failed
        exact ⟨error, rfl⟩
      · cases failed

/-- A file store that refuses a save has touched nothing. -/
theorem disk_of_refused
    (failed : (save (m := StateM Disk) path document mode).run disk = (.error (.refused refusal), final)) :
    final = disk := by
  have unrefused : ∀ {document disk}, (store path document).run disk ≠ (.error (.refused refusal), final) := by
    intro document disk failed
    obtain ⟨error, same⟩ := fault_of_save failed
    cases same
  cases mode with
  | replace => exact absurd failed unrefused
  | merge =>
    rw [save, run_bind] at failed
    have loaded : ((load (m := StateM Disk) path).run disk).2 = disk := congrArg Prod.snd (run_load path disk)
    generalize (load (m := StateM Disk) path).run disk = loading at loaded failed
    obtain ⟨error | stored, middle⟩ := loading
    · cases failed
      exact loaded
    · cases loaded
      dsimp only at failed
      cases merging : mergeDocuments stored document with
      | ok merged =>
        rw [merging] at failed
        exact absurd failed unrefused
      | error refusal =>
        rw [merging] at failed
        cases failed
        rfl

end FileStore

namespace Session

variable {session final : Session}

/-- A refused save leaves a session on a file as it was. -/
theorem unchanged_of_refused {path : String} (file : session.store = .file path)
    (failed : session.save document mode = (.error (.refused refusal), final)) : final = session := by
  obtain ⟨_, disk, shown⟩ := session
  cases file
  obtain ⟨after, saved, rfl⟩ := onDisk_eq_iff.mp failed
  rw [FileStore.disk_of_refused saved]

/-- What a failed save leaves of a session on memory, and why it failed. -/
structure Unsaved (session : Session) (store : MemoryStore) (document : Json) (mode : SaveMode)
    (fault : Fault) (final : Session) : Prop where
  kept : final = { session with store := .memory store.unsaved }
  load : final.load.1 = .ok (if store.rejecting then store.document else .null)
  unchanged_iff : final = session ↔ store.rejecting = true ∨ store.document = .null
  reason : if store.rejecting then fault = .refused .rejected
    else mode = .merge ∧ ∃ refusal,
      MergeRefused store.document document refusal ∧ fault = .refused refusal

theorem unsaved_of_failed {store : MemoryStore} (memory : session.store = .memory store)
    (failed : session.save document mode = (.error fault, final)) :
    session.Unsaved store document mode fault final := by
  obtain ⟨_, disk, shown⟩ := session
  cases memory
  rw [Session.save] at failed
  dsimp only at failed
  rcases saving : store.save document mode with ⟨result, after⟩
  rw [saving] at failed
  cases failed
  obtain ⟨rfl, reason⟩ := MemoryStore.save_eq_error saving
  refine ⟨rfl, rfl, ?_, reason⟩
  rw [← MemoryStore.unsaved_eq_iff]
  simp

/-- After a failed save a store in memory holds null, and only one that rejects all saves, or that
held null before, is as it was. A store in a file is as it was after every save that it refuses. -/
theorem afterFailedSave (failed : session.save document mode = (.error fault, final)) :
    (∀ store, session.store = .memory store → session.Unsaved store document mode fault final) ∧
      ∀ path refusal, session.store = .file path → fault = .refused refusal → final = session := by
  refine ⟨fun store memory => unsaved_of_failed memory failed, ?_⟩
  rintro path refusal file rfl
  exact unchanged_of_refused file failed

/-- A stored list, over which nothing can be merged. -/
def listSession : Session :=
  ⟨.memory ⟨.array [.ofNat 1], false⟩, ⟨[], []⟩, []⟩

theorem afterFailedSave_list :
    let saved := listSession.save (.object [("groups", .null)]) .merge
    saved.1 = .error (.refused .storedNotObject) ∧ saved.2.load.1 = .ok .null ∧ saved.2 ≠ listSession := by
  intro saved
  have failed : listSession.save (.object [("groups", .null)]) .merge =
      (.error (.refused .storedNotObject), saved.2) := rfl
  have unsaved := (afterFailedSave failed).1 _ rfl
  exact ⟨rfl, unsaved.load, fun same => by simpa using unsaved.unchanged_iff.mp same⟩

/-- A list cannot be merged over a stored object, and the attempt loses the object. -/
theorem refusedMerge_forgets :
    let session : Session := ⟨.memory ⟨.object [("a", .ofNat 1)], false⟩, ⟨[], []⟩, []⟩
    let saved := session.save (.array []) .merge
    session.load.1 = .ok (.object [("a", .ofNat 1)]) ∧
      saved.1 = .error (.refused .incomingNotObject) ∧ saved.2.load.1 = .ok .null :=
  ⟨rfl, rfl, rfl⟩

end Session

end ScannerConfig
