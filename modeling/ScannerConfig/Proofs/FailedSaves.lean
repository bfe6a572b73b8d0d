import Mathlib
import ScannerConfig.Proofs.RepeatedSaves

namespace ScannerConfig

namespace Disk

variable {before middle after disk written : Disk} {store : String} {content : List UInt8}
  {new : Place → Prop}

section Attempt

variable {step : Disk → Except FileError Disk} {error : FileError}

theorem attempt_done (done : (attempt step).run before = (.ok (), after)) : step before = .ok after := by
  rw [run_attempt] at done
  cases taken : step before with
  | ok middle =>
    rw [taken] at done
    exact congrArg Except.ok (congrArg Prod.snd done)
  | error fault =>
    rw [taken] at done
    cases done

theorem attempt_failed (failed : (attempt step).run before = (.error error, after)) :
    step before = .error error ∧ after = before := by
  rw [run_attempt] at failed
  cases taken : step before with
  | ok middle =>
    rw [taken] at failed
    cases failed
  | error fault =>
    rw [taken] at failed
    cases failed
    exact ⟨rfl, rfl⟩

end Attempt

/-- The same files at the same places, with the same bytes. -/
def SameFiles (before after : Disk) : Prop :=
  ∀ place content, after.tree.node? place = some (.file content) ↔
    before.tree.node? place = some (.file content)

theorem SameFiles.refl (disk : Disk) : SameFiles disk disk :=
  fun _ _ => Iff.rfl

theorem FoldersAdded.sameFiles (added : FoldersAdded new before after) : SameFiles before after :=
  fun _ _ => added.file_iff

/-- The file beside a store has this content, and the other files are as they were. -/
def LeftBeside (store : String) (content : List UInt8) (before after : Disk) : Prop :=
  ∃ place, after.locate (Path.ofText (FileStore.temporary store)) = .ok place ∧
    after.tree.node? place = some (.file content) ∧
      ∀ other, other ≠ place → ∀ content, after.tree.node? other = some (.file content) ↔
        before.tree.node? other = some (.file content)

theorem SameFiles.leftBeside (same : SameFiles before middle)
    (wrote : middle.write (FileStore.temporary store) content = .ok written) :
    LeftBeside store content before written := by
  obtain ⟨place, located, there⟩ := hasFile_of_write wrote
  obtain ⟨put, locatedBefore, _, noFolder, rfl⟩ := write_ok wrote
  have within : middle.tree.FoldersWithin (middle.put put (.file content)).tree :=
    FileTree.foldersWithin_put noFolder _
  cases located.symm.trans (locate_of_foldersWithin within rfl locatedBefore)
  refine ⟨place, located, (FileTree.find_eq_ok_iff.mp there).2, fun other apart bytes => ?_⟩
  rw [Disk.put, FileTree.node?_put, if_neg (Ne.symm apart)]
  split
  · rename_i root
    rw [root, ← same, FileTree.node?_root]
  · exact same other bytes

/-- A file can be moved onto this store: its path can be one and is spelled as that of a file, and
it leads to no folder. -/
structure TakesFile (disk : Disk) (store : String) : Prop where
  checked : check store = .ok ()
  named : (Path.ofText store).fileName?.isSome
  plain : (Path.ofText store).ending = .plain
  free : disk.nodeAt? (Path.ofText store) ≠ some .folder

/-- Where the file beside a store was found, the store stands in the same folder. -/
theorem TakesFile.beside {origin : Place} (takes : disk.TakesFile store)
    (located : disk.locate (Path.ofText (FileStore.temporary store)) = .ok origin) :
    ∃ folder name, disk.locate (Path.ofText store) = .ok (folder ++ [name]) ∧
      origin = folder ++ [name ++ ".tmp"] := by
  obtain ⟨absolute, ⟨folder, name, given, longer⟩ | ⟨noName, _⟩⟩ := Path.ofText_temporary store
  · have followed := follow_of_locate located
    have start : disk.base (Path.ofText (FileStore.temporary store)) =
        disk.base (Path.ofText store) := by rw [base, base, absolute]
    rw [start, longer] at followed
    obtain ⟨place, reached⟩ := (FileTree.follow_front followed).2 (.name name)
    obtain ⟨above, rfl, beside⟩ := FileTree.follow_siblings reached followed
    have some : (Path.ofText store).steps ≠ [] := by simp [given]
    exact ⟨above, name, by rw [locate_eq_follow some, given, reached], beside⟩
  · have named := takes.named
    rw [noName] at named
    cases named

/-- The file that was written beside a store can be moved onto it. -/
theorem TakesFile.rename (takes : written.TakesFile store)
    (wrote : disk.write (FileStore.temporary store) content = .ok written) :
    ∃ after, written.rename (FileStore.temporary store) store = .ok after := by
  obtain ⟨_, checked, _⟩ := bind_ok wrote
  obtain ⟨origin, located, there⟩ := hasFile_of_write wrote
  obtain ⟨short, file⟩ := FileTree.find_eq_ok_iff.mp there
  obtain ⟨folder, name, reached, rfl⟩ := takes.beside located
  have shorter : name.utf8ByteSize ≤ FileTree.maxNameBytes := by
    simp only [List.getLast?_concat, Option.getD_some, String.utf8ByteSize_append] at short
    omega
  have found : written.tree.find (folder ++ [name]) = .ok (written.tree.node? (folder ++ [name])) :=
    FileTree.find_eq_ok_iff.mpr ⟨by simpa using shorter, rfl⟩
  have free : written.tree.node? (folder ++ [name]) ≠ some .folder := fun stands =>
    takes.free (nodeAt?_eq_some_iff.mpr ⟨_, reached, stands⟩)
  rw [Disk.rename, checked, takes.checked]
  simp only [located, file, reached, found, takes.plain, bind, Except.bind]
  rcases stands : written.tree.node? (folder ++ [name]) with _ | _ | _
  · exact ⟨_, rfl⟩
  · exact ⟨_, rfl⟩
  · exact absurd stands free

end Disk

namespace FileStore

section Steps

variable {m : Type → Type} [Monad m] [Files m]

/-- The document that a save comes to store. -/
def toStore (store : String) (document : Json) : SaveMode → ExceptT Fault m Json
  | .replace => pure document
  | .merge => do
    let stored ← load store
    match mergeDocuments stored document with
    | .ok merged => pure merged
    | .error refusal => throw (.refused refusal)

end Steps

variable {σ : Type} [Files (StateM σ)] {disk : σ → Disk} {start final : σ} {fault : Fault}

/-- Once a save knows what to store, it replaces what is stored. -/
theorem run_save_toStore (store : String) (document : Json) (mode : SaveMode) (start : σ) :
    (save (m := StateM σ) store document mode).run start =
      match (toStore (m := StateM σ) store document mode).run start with
      | (.error fault, middle) => (.error fault, middle)
      | (.ok kept, middle) => (save (m := StateM σ) store kept .replace).run middle := by
  cases mode with
  | replace => rfl
  | merge =>
    rw [save, toStore, run_bind, run_bind]
    rcases (load (m := StateM σ) store).run start with ⟨fault | stored, middle⟩
    · rfl
    · dsimp only
      cases mergeDocuments stored document <;> rfl

end FileStore

section Dependable

variable {σ : Type} [Files (StateM σ)] {disk : σ → Disk}

theorem Dependable.load (dependable : Dependable disk) (store : String) (start : σ) :
    disk ((FileStore.load (m := StateM σ) store).run start).2 = disk start := by
  have kept := (dependable.read store start).1
  change disk (StateT.run (Files.read store >>= _ : StateM σ (Except Fault Json)) start).2 = _
  rw [StateT.run_bind]
  generalize (Files.read store : StateM σ _).run start = reading at kept ⊢
  obtain ⟨fault | bytes, middle⟩ := reading
  · cases fault <;> exact kept
  · exact kept

theorem Dependable.toStore (dependable : Dependable disk) (store : String) (document : Json)
    (mode : SaveMode) (start : σ) :
    disk ((FileStore.toStore (m := StateM σ) store document mode).run start).2 = disk start := by
  cases mode with
  | replace => rfl
  | merge =>
    have kept := dependable.load store start
    rw [FileStore.toStore, run_bind]
    generalize (FileStore.load (m := StateM σ) store).run start = loading at kept ⊢
    obtain ⟨fault | stored, middle⟩ := loading
    · exact kept
    · dsimp only
      cases mergeDocuments stored document <;> exact kept

variable {start final : σ} {fault : Fault}

/-- The ways in which a save fails, each with what it leaves. -/
inductive SaveFailed (disk : σ → Disk) (store : String) (document : Json) (mode : SaveMode)
    (start : σ) : Fault → σ → Prop
  /-- It is not known what to store: what is stored cannot be read, or the merge is refused. -/
  | undecided {fault : Fault} {final : σ} :
      (FileStore.toStore (m := StateM σ) store document mode).run start = (.error fault, final) →
        disk final = disk start → SaveFailed disk store document mode start fault final
  | unmade {kept : Json} {middle final : σ} {error : FileError} :
      (FileStore.toStore (m := StateM σ) store document mode).run start = (.ok kept, middle) →
        (makeFolderOf store : StateM σ _).run middle = (.error error, final) →
          Disk.SameFiles (disk start) (disk final) →
            SaveFailed disk store document mode start (.file error) final
  /-- The file beside the store is not written, or in part. -/
  | unwritten {kept : Json} {middle made final : σ} {error : FileError} :
      (FileStore.toStore (m := StateM σ) store document mode).run start = (.ok kept, middle) →
        (makeFolderOf store : StateM σ _).run middle = (.ok (), made) →
          (Files.write (FileStore.temporary store) (Utf8.encode kept.pretty.toList) :
            StateM σ _).run made = (.error error, final) →
              Disk.SameFiles (disk start) (disk made) →
                (disk final = disk made ∨
                  ∃ part, Disk.LeftBeside store part (disk start) (disk final)) →
                    SaveFailed disk store document mode start (.file error) final
  /-- The file beside the store is written and stays there. -/
  | unmoved {kept : Json} {middle made written final : σ} {error : FileError} :
      (FileStore.toStore (m := StateM σ) store document mode).run start = (.ok kept, middle) →
        (makeFolderOf store : StateM σ _).run middle = (.ok (), made) →
          (Files.write (FileStore.temporary store) (Utf8.encode kept.pretty.toList) :
            StateM σ _).run made = (.ok (), written) →
              (Files.rename (FileStore.temporary store) store : StateM σ _).run written =
                (.error error, final) →
                  Disk.LeftBeside store (Utf8.encode kept.pretty.toList) (disk start) (disk final) →
                    SaveFailed disk store document mode start (.file error) final

theorem Dependable.saveFailed (dependable : Dependable disk) {store : String} {document : Json}
    {mode : SaveMode}
    (failed : (FileStore.save (m := StateM σ) store document mode).run start = (.error fault, final)) :
    SaveFailed disk store document mode start fault final := by
  have decides := dependable.toStore store document mode start
  rw [FileStore.run_save_toStore] at failed
  rcases deciding : (FileStore.toStore (m := StateM σ) store document mode).run start
    with ⟨refused | kept, middle⟩
  · rw [deciding] at failed decides
    cases failed
    exact .undecided deciding decides
  rw [deciding] at failed decides
  dsimp only at failed decides
  obtain ⟨_, _, _, added⟩ := dependable.made middle store
  have same := added.sameFiles
  rw [FileStore.run_save] at failed
  rcases making : (makeFolderOf store : StateM σ _).run middle with ⟨error | _, made⟩
  · rw [making] at failed same
    cases failed
    exact .unmade deciding making (decides ▸ same)
  rw [making] at failed same
  dsimp only at failed same
  rw [decides] at same
  obtain ⟨writes, partly⟩ :=
    dependable.write (FileStore.temporary store) (Utf8.encode kept.pretty.toList) made
  rcases writing : (Files.write (FileStore.temporary store) (Utf8.encode kept.pretty.toList) :
    StateM σ _).run made with ⟨error | _, written⟩
  · rw [writing] at failed partly
    cases failed
    exact .unwritten deciding making writing same
      (partly.imp_right fun ⟨part, wrote⟩ => ⟨part, same.leftBeside wrote⟩)
  rw [writing] at failed writes
  dsimp only at failed
  have wrote := same.leftBeside (writes rfl)
  obtain ⟨_, unmoved⟩ := dependable.rename (FileStore.temporary store) store written
  rcases moving : (Files.rename (FileStore.temporary store) store : StateM σ _).run written
    with ⟨error | _, moved⟩
  · rw [moving] at failed unmoved
    have still : disk moved = disk written := unmoved error rfl
    cases failed
    exact .unmoved deciding making writing moving (still ▸ wrote)
  · rw [moving] at failed
    cases failed

end Dependable

namespace FileStore

variable {disk final : Disk} {store : String} {document : Json} {mode : SaveMode} {fault : Fault}

/-- On a disk a failed save leaves a file beside its store only where none can be moved onto it. -/
theorem sameFiles_or_leftBeside
    (failed : (save (m := StateM Disk) store document mode).run disk = (.error fault, final)) :
    Disk.SameFiles disk final ∨
      ∃ kept, ((toStore (m := StateM Disk) store document mode).run disk).1 = .ok kept ∧
        Disk.LeftBeside store (Utf8.encode kept.pretty.toList) disk final ∧ ¬final.TakesFile store := by
  cases dependable_disk.saveFailed failed with
  | undecided _ same => exact .inl (same ▸ .refl disk)
  | unmade _ _ same => exact .inl same
  | unwritten _ _ writing same _ =>
    obtain ⟨_, rfl⟩ := Disk.attempt_failed writing
    exact .inl same
  | @unmoved kept _ _ _ _ _ deciding _ writing moving left =>
    refine .inr ⟨kept, by rw [deciding], left, fun takes => ?_⟩
    obtain ⟨unmoved, rfl⟩ := Disk.attempt_failed moving
    obtain ⟨after, moved⟩ := takes.rename (Disk.attempt_done writing)
    cases unmoved.symm.trans moved

/-- A failed save fails in one of its ways, also where a step fails in part; and on a disk it leaves
at most the whole text beside a store that takes no file. -/
theorem filesAfterFailedSave (store : String) (document : Json) (mode : SaveMode) :
    (∀ {σ : Type} [Files (StateM σ)] {disk : σ → Disk} {start final : σ} {fault : Fault},
      Dependable disk → (save (m := StateM σ) store document mode).run start = (.error fault, final) →
        SaveFailed disk store document mode start fault final) ∧
      ∀ {disk final : Disk} {fault : Fault},
        (save (m := StateM Disk) store document mode).run disk = (.error fault, final) →
          Disk.SameFiles disk final ∨
            ∃ kept, ((toStore (m := StateM Disk) store document mode).run disk).1 = .ok kept ∧
              Disk.LeftBeside store (Utf8.encode kept.pretty.toList) disk final ∧
                ¬final.TakesFile store :=
  ⟨fun dependable failed => dependable.saveFailed failed, sameFiles_or_leftBeside⟩

/-- A folder where the store is to be. -/
def occupiedDisk : Disk :=
  ⟨[(["s"], .folder)], []⟩

/-- The text is written, and cannot be moved onto the folder. -/
theorem save_occupiedDisk (document : Json) :
    (save (m := StateM Disk) "s" document .replace).run occupiedDisk =
      (.error (.file .isAFolder),
        occupiedDisk.put ["s.tmp"] (.file (Utf8.encode document.pretty.toList))) := by
  have beside : temporary "s" = "s.tmp" := by cbv
  have made : (makeFolderOf "s" : StateM Disk _).run occupiedDisk = (.ok (), occupiedDisk) := by cbv
  have wrote : ∀ content, occupiedDisk.write "s.tmp" content =
      .ok (occupiedDisk.put ["s.tmp"] (.file content)) := by
    intro content
    cbv
  have unmoved : ∀ content, (occupiedDisk.put ["s.tmp"] (.file content)).rename "s.tmp" "s" =
      .error .isAFolder := by
    intro content
    cbv
  rw [Disk.run_save, made]
  dsimp only
  rw [Disk.replace, beside, wrote]
  dsimp only
  rw [unmoved]
  rfl

theorem filesAfterFailedSave_occupied :
    let saved := (save (m := StateM Disk) "s" (.object []) .replace).run occupiedDisk
    SaveFailed (fun disk : Disk => disk) "s" (.object []) .replace occupiedDisk (.file .isAFolder)
        saved.2 ∧
      (Disk.SameFiles occupiedDisk saved.2 ∨
        ∃ kept, ((toStore (m := StateM Disk) "s" (.object []) .replace).run occupiedDisk).1 = .ok kept ∧
          Disk.LeftBeside "s" (Utf8.encode kept.pretty.toList) occupiedDisk saved.2 ∧
            ¬saved.2.TakesFile "s") := by
  intro saved
  have failed : (save (m := StateM Disk) "s" (.object []) .replace).run occupiedDisk =
      (.error (.file .isAFolder), saved.2) := by
    refine Prod.ext ?_ rfl
    rw [save_occupiedDisk]
  obtain ⟨onFiles, onDisk⟩ := filesAfterFailedSave "s" (.object []) .replace
  exact ⟨onFiles dependable_disk failed, onDisk failed⟩

/-- An empty document cannot be stored where the folder is, and its text is left beside it. -/
theorem failedSave_leavesText :
    let saved := (save (m := StateM Disk) "s" (.object []) .replace).run occupiedDisk
    saved.1 = .error (.file .isAFolder) ∧ ¬occupiedDisk.SameFiles saved.2 ∧
      saved.2.read "s.tmp" = .ok [0x7B, 0x7D] := by
  intro saved
  have ended : saved = _ := save_occupiedDisk (.object [])
  have text : Utf8.encode (Json.object []).pretty.toList = [0x7B, 0x7D] := by cbv
  have read : (occupiedDisk.put ["s.tmp"] (.file [0x7B, 0x7D])).read "s.tmp" = .ok [0x7B, 0x7D] := by
    cbv
  rw [ended, text]
  refine ⟨rfl, fun same => ?_, read⟩
  have stood : occupiedDisk.tree.node? ["s.tmp"] = some (.file [0x7B, 0x7D]) :=
    (same ["s.tmp"] [0x7B, 0x7D]).mp rfl
  cases stood

end FileStore

end ScannerConfig
