import Mathlib
import ScannerConfig.Proofs.CommandRuns
import ScannerConfig.Proofs.FailedSaves
import ScannerConfig.Proofs.Requests

namespace ScannerConfig

section Dependable

variable {σ : Type} [Files (StateM σ)] {disk : σ → Disk} {start final : σ} {store : String}
  {document : Json}

/-- A file is said to be missing only where it is. A store that is missing is taken for an empty one;
any other fault of reading ends a run. -/
def TellsMissing (disk : σ → Disk) : Prop :=
  ∀ text start, ((Files.read text : StateM σ _).run start).1 = .error .notFound →
    (disk start).read text = .error .notFound

theorem tellsMissing_disk : TellsMissing (fun disk : Disk => disk) :=
  fun _ _ missing => missing

/-- Writing a file broke off after it was opened, so that a part stands in it. Before that at most
folders were made. -/
def BrokenOff (disk : σ → Disk) (path : String) (start final : σ) : Prop :=
  ∃ new made fault bytes part, Disk.FoldersAdded new (disk start) (disk made) ∧
    (Files.write path bytes : StateM σ _).run made = (.error fault, final) ∧
      (disk made).write path part = .ok (disk final)

theorem BrokenOff.of_same {path : String} {other : σ} (broken : BrokenOff disk path other final)
    (same : disk other = disk start) : BrokenOff disk path start final := by
  rwa [BrokenOff, ← same]

theorem Dependable.written (dependable : Dependable disk) {path : String} {bytes : List UInt8} {made : σ}
    (writing : (Files.write path bytes : StateM σ _).run made = (.ok (), final)) :
    (disk made).write path bytes = .ok (disk final) := by
  have writes := (dependable.write path bytes made).1
  rw [writing] at writes
  exact writes rfl

/-- A write that fails changes nothing, or it broke off. -/
theorem Dependable.unwritten (dependable : Dependable disk) {new : Place → Prop} {path : String}
    {bytes : List UInt8} {made : σ} {fault : FileError}
    (added : Disk.FoldersAdded new (disk start) (disk made))
    (writing : (Files.write path bytes : StateM σ _).run made = (.error fault, final)) :
    Disk.FoldersAdded new (disk start) (disk final) ∨ BrokenOff disk path start final := by
  have partly := (dependable.write path bytes made).2
  rw [writing] at partly
  rcases partly with still | ⟨part, wrote⟩
  · exact .inl (still.symm ▸ added)
  · exact .inr ⟨new, made, fault, bytes, part, added, writing, wrote⟩

/-- What is loaded is what stands in the store. -/
theorem Dependable.load_ok (dependable : Dependable disk) (tells : TellsMissing disk)
    (loaded : (FileStore.load (m := StateM σ) store).run start = (.ok document, final)) :
    ((FileStore.load (m := StateM Disk) store).run (disk start)).1 = .ok document := by
  have reads := (dependable.read store start).2
  have missing := tells store start
  change (Files.read store >>= _ : StateM σ (Except Fault Json)).run start = _ at loaded
  rw [StateT.run_bind] at loaded
  rw [FileStore.run_load]
  generalize (Files.read store : StateM σ _).run start = reading at reads missing loaded
  obtain ⟨fault | bytes, middle⟩ := reading
  · cases fault with
    | notFound =>
      rw [missing rfl]
      exact congrArg Prod.fst loaded
    | _ => cases loaded
  · rw [reads bytes rfl]
    exact congrArg Prod.fst loaded

end Dependable

/-- A disk without room for the content of files. -/
structure FullDisk where
  disk : Disk
  deriving DecidableEq, Repr

/-- A file is emptied before it turns out that there is no room for its content. -/
instance : Files (StateM FullDisk) where
  read text := fun full => (full.disk.read text, full)
  write text _ := fun full => match full.disk.write text [] with
    | .ok emptied => (.error (.other "No space left on device (os error 28)"), ⟨emptied⟩)
    | .error fault => (.error fault, full)
  makeFolders text := fun full => let (disk, result) := full.disk.makeFolders text; (result, ⟨disk⟩)
  rename source target := fun full => match full.disk.rename source target with
    | .ok moved => (.ok (), ⟨moved⟩)
    | .error fault => (.error fault, full)

namespace FullDisk

theorem run_write (text : String) (content : List UInt8) (full : FullDisk) :
    (Files.write text content : StateM FullDisk _).run full =
      match full.disk.write text [] with
      | .ok emptied => (.error (.other "No space left on device (os error 28)"), ⟨emptied⟩)
      | .error fault => (.error fault, full) :=
  rfl

theorem run_rename (source target : String) (full : FullDisk) :
    (Files.rename source target : StateM FullDisk _).run full =
      match full.disk.rename source target with
      | .ok moved => (.ok (), ⟨moved⟩)
      | .error fault => (.error fault, full) :=
  rfl

theorem load_of_read {full : FullDisk} {path : String} {bytes : List UInt8} {stored : Json}
    (read : full.disk.read path = .ok bytes) (parsed : Json.parse bytes = .ok stored) :
    (FileStore.load (m := StateM FullDisk) path).run full = (.ok stored, full) := by
  simp [FileStore.load, Files.read, read, parsed, Except.mapError, bind, StateT.bind, pure, StateT.pure]

end FullDisk

theorem dependable_fullDisk : Dependable FullDisk.disk where
  read text start := ⟨rfl, fun _ ok => ok⟩
  makeFolders text start := ⟨(Path.ofText text).steps.length, rfl⟩
  write text content start := by
    dsimp only
    rw [FullDisk.run_write]
    cases taken : start.disk.write text [] with
    | ok emptied => exact ⟨nofun, .inr ⟨[], taken⟩⟩
    | error fault => exact ⟨nofun, .inl rfl⟩
  rename source target start := by
    dsimp only
    rw [FullDisk.run_rename]
    cases taken : start.disk.rename source target with
    | ok moved => exact ⟨fun _ => rfl, nofun⟩
    | error fault => exact ⟨nofun, fun _ _ => rfl⟩

theorem tellsMissing_fullDisk : TellsMissing FullDisk.disk :=
  fun _ _ missing => missing

end ScannerConfig
