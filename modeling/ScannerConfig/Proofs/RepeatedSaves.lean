import ScannerConfig.Proofs.StandingFolders

namespace ScannerConfig

namespace FileTree

variable {tree other : FileTree} {start place : Place} {steps : List Step} {step : Step}

theorem follow_congr (same : ∀ place, other.node? place = tree.node? place) (start : Place)
    (steps : List Step) : other.follow start steps = tree.follow start steps := by
  induction steps generalizing start with
  | nil => rfl
  | cons step rest ih =>
    cases step with
    | here => exact ih start
    | up => exact ih start.dropLast
    | name name =>
      by_cases last : rest = []
      · rw [last]
        rfl
      · rw [follow_name_cons _ _ _ last, follow_name_cons _ _ _ last, find, find, same, ih]

/-- Where one step leads on, any other does, and what is in front of it can be reached. -/
theorem follow_front (followed : tree.follow start (steps ++ [step]) = .ok place) :
    (∃ above, tree.follow start steps = .ok above) ∧
      ∀ other, ∃ further, tree.follow start (steps ++ [other]) = .ok further := by
  induction steps generalizing start with
  | nil => exact ⟨⟨start, rfl⟩, follow_single tree start⟩
  | cons first rest ih =>
    cases first with
    | here => exact ih followed
    | up => exact ih followed
    | name name =>
      have more : ∀ last, rest ++ [last] ≠ [] := fun _ =>
        List.append_ne_nil_of_right_ne_nil _ (List.cons_ne_nil _ _)
      obtain ⟨found, onward⟩ := follow_name_ok (more step) followed
      obtain ⟨above, others⟩ := ih onward
      refine ⟨?_, fun other => ?_⟩
      · by_cases last : rest = []
        · rw [last]
          exact follow_single tree start _
        · rw [follow_name_cons _ _ _ last, found]
          exact above
      · rw [List.cons_append, follow_name_cons _ _ _ (more other), found]
        exact others other

end FileTree

namespace Disk

variable {disk middle other written : Disk} {place : Place} {text file source target : String}
  {content : List UInt8} {fault : Fault}

/-- Two steps that fail in the same way, or both succeed with disks that are related. -/
inductive BothEnd (related : Disk → Disk → Prop) :
    Except FileError Disk → Except FileError Disk → Prop
  | failed (fault : FileError) : BothEnd related (.error fault) (.error fault)
  | done {disk other : Disk} : related disk other → BothEnd related (.ok disk) (.ok other)

theorem BothEnd.bind {α : Type} {related : Disk → Disk → Prop}
    {first second : α → Except FileError Disk} (step : Except FileError α)
    (both : ∀ value, BothEnd related (first value) (second value)) :
    BothEnd related (step >>= first) (step >>= second) := by
  cases step with
  | error fault => exact .failed fault
  | ok value => exact both value

section Alike

/-- Two disks with the same files and folders at the same places. -/
structure Alike (disk other : Disk) : Prop where
  here : other.here = disk.here
  node : ∀ place, other.tree.node? place = disk.tree.node? place

theorem Alike.locate (alike : Alike disk other) (path : Path) :
    other.locate path = disk.locate path := by
  rw [Disk.locate, Disk.locate, alike.here, FileTree.follow_congr alike.node,
    FileTree.follow_congr alike.node]

theorem Alike.find (alike : Alike disk other) (place : Place) :
    other.tree.find place = disk.tree.find place :=
  find_congr (alike.node place)

theorem Alike.put (alike : Alike disk other) (place : Place) (node : Node) :
    Alike (disk.put place node) (other.put place node) := by
  refine ⟨alike.here, fun asked => ?_⟩
  rw [Disk.put, Disk.put, FileTree.node?_put, FileTree.node?_put, alike.node]

theorem Alike.remove (alike : Alike disk other) (place : Place) :
    Alike ⟨disk.tree.remove place, disk.here⟩ ⟨other.tree.remove place, other.here⟩ := by
  refine ⟨alike.here, fun asked => ?_⟩
  rw [FileTree.node?_remove, FileTree.node?_remove, alike.node]

theorem Alike.rename (alike : Alike disk other) (source target : String) :
    BothEnd Alike (disk.rename source target) (other.rename source target) := by
  simp only [Disk.rename, alike.locate, alike.node, alike.find]
  -- From here on both look at the same things until they change their disks.
  refine .bind _ fun _ => .bind _ fun _ => .bind _ fun origin => ?_
  rcases disk.tree.node? origin with _ | content | _
  · exact .failed _
  · refine .bind _ fun place => .bind _ fun found => ?_
    have moved := (alike.remove origin).put place (.file content)
    cases (Path.ofText target).ending with
    | slash => exact .failed _
    | dot => rcases found with _ | _ | _ <;> exact .failed _
    | plain =>
      rcases found with _ | _ | _
      · exact .done moved
      · exact .done moved
      · dsimp only
        split <;> exact .failed _
  · exact .failed _

end Alike

section Beside

/-- Two disks with the same folders and, but for the one beside a store, the same files. -/
structure Beside (file : String) (disk other : Disk) : Prop where
  here : other.here = disk.here
  node : ∀ place, other.tree.node? place = disk.tree.node? place ∨
    disk.locate (Path.ofText (FileStore.temporary file)) = .ok place ∧
      disk.tree.node? place ≠ some .folder ∧ other.tree.node? place ≠ some .folder

theorem Beside.refl (file : String) (disk : Disk) : Beside file disk disk :=
  ⟨rfl, fun _ => .inl rfl⟩

theorem Alike.beside (alike : Alike disk other) (file : String) : Beside file disk other :=
  ⟨alike.here, fun place => .inl (alike.node place)⟩

theorem Beside.folder_iff (beside : Beside file disk other) (place : Place) :
    other.tree.node? place = some .folder ↔ disk.tree.node? place = some .folder := by
  rcases beside.node place with same | ⟨_, noFolder, noOther⟩
  · rw [same]
  · exact iff_of_false noOther noFolder

theorem Beside.foldersWithin (beside : Beside file disk other) :
    disk.tree.FoldersWithin other.tree :=
  fun place => (beside.folder_iff place).mpr

/-- Without a way to the file beside the store there is no difference. -/
theorem Beside.alike (beside : Beside file disk other)
    (nowhere : ∀ place, disk.locate (Path.ofText (FileStore.temporary file)) ≠ .ok place) :
    Alike disk other :=
  ⟨beside.here, fun place => (beside.node place).resolve_right fun way => nowhere place way.1⟩

theorem beside_of_write (ok : disk.write (FileStore.temporary file) content = .ok written) :
    Beside file disk written := by
  obtain ⟨place, located, _, noFolder, rfl⟩ := write_ok ok
  refine ⟨rfl, fun asked => ?_⟩
  rw [Disk.put, FileTree.node?_put]
  by_cases root : asked = []
  · rw [if_pos root, root, FileTree.node?_root]
    exact .inl rfl
  · rw [if_neg root]
    by_cases same : place = asked
    · rw [if_pos same]
      exact .inr ⟨same ▸ located, same ▸ noFolder, by simp⟩
    · rw [if_neg same]
      exact .inl rfl

/-- Where the file beside the store is reached, the store is, unless its path is empty. -/
theorem Beside.locate (beside : Beside file disk other) :
    other.locate (Path.ofText file) = disk.locate (Path.ofText file) := by
  by_cases none : (Path.ofText file).steps = []
  · rw [Disk.locate, Disk.locate, none]
    rfl
  cases located : disk.locate (Path.ofText (FileStore.temporary file)) with
  | error fault => exact (beside.alike (by simp [located])).locate _
  | ok place =>
    have followed := follow_of_locate located
    obtain ⟨absolute, steps⟩ := Path.ofText_temporary file
    have start : disk.base (Path.ofText (FileStore.temporary file)) =
        disk.base (Path.ofText file) := by rw [base, base, absolute]
    rw [start] at followed
    -- The way to the temporary file leads through the folder of the store.
    have reached : ∃ store, disk.locate (Path.ofText file) = .ok store := by
      rw [locate_eq_follow none]
      rcases steps with ⟨folder, name, given, longer⟩ | ⟨_, below⟩
      · rw [longer] at followed
        rw [given]
        exact (FileTree.follow_front followed).2 _
      · rw [below] at followed
        exact (FileTree.follow_front followed).1
    obtain ⟨store, there⟩ := reached
    rw [there]
    exact locate_of_foldersWithin beside.foldersWithin beside.here there

theorem Beside.read (beside : Beside file disk other) : other.read file = disk.read file := by
  refine read_congr beside.locate fun place located => find_congr ?_
  rcases beside.node place with same | ⟨temporary, _⟩
  · exact same
  · exact absurd rfl (temporary_apart located temporary)

/-- A write to a path that leads somewhere. -/
theorem write_located (located : disk.locate (Path.ofText text) = .ok place)
    (noDot : (Path.ofText text).ending ≠ .dot) (content : List UInt8) :
    disk.write text content = (do
      check text
      if (Path.ofText text).ending = .slash then .error .isAFolder
      else if FileTree.maxNameBytes < (place.getLast?.getD "").utf8ByteSize then .error .nameTooLong
      else if disk.tree.node? place = some .folder then .error .isAFolder
      else .ok (disk.put place (.file content))) := by
  rw [Disk.write]
  congr 1
  funext _
  change (disk.locate (Path.ofText text) >>= _) = _
  rw [located]
  change (if _ then _ else (disk.tree.find place >>= _)) = _
  split
  · rfl
  · rename_i noSlash
    have plain : (Path.ofText text).ending = .plain := by
      cases ending : (Path.ofText text).ending with
      | plain => rfl
      | slash => exact absurd ending noSlash
      | dot => exact absurd ending noDot
    rw [plain, FileTree.find]
    split
    · rfl
    · rcases disk.tree.node? place with _ | _ | _ <;> rfl

/-- What is written beside the store does not depend on what was there. -/
theorem Beside.write (beside : Beside file disk other) (content : List UInt8) :
    BothEnd Alike (disk.write (FileStore.temporary file) content)
      (other.write (FileStore.temporary file) content) := by
  cases located : disk.locate (Path.ofText (FileStore.temporary file)) with
  | error fault =>
    have alike := beside.alike (by simp [located])
    simp only [Disk.write, alike.locate, located]
    exact .bind _ fun _ => .failed fault
  | ok place =>
    have reached := locate_of_foldersWithin beside.foldersWithin beside.here located
    have noDot := Path.ending_temporary file
    have written : Alike (disk.put place (.file content)) (other.put place (.file content)) := by
      refine ⟨beside.here, fun asked => ?_⟩
      rw [Disk.put, Disk.put, FileTree.node?_put, FileTree.node?_put]
      rcases beside.node asked with same | ⟨temporary, _⟩
      · rw [same]
      · cases located.symm.trans temporary
        rw [if_pos rfl, if_pos rfl]
    simp only [write_located located noDot, write_located reached noDot, beside.folder_iff]
    refine .bind _ fun _ => ?_
    split
    · exact .failed _
    · split
      · exact .failed _
      · split
        · exact .failed _
        · exact .done written

end Beside

section Replacing

/-- Writes the file beside a store and moves it onto the store. -/
def replace (file : String) (content : List UInt8) (disk : Disk) : Except FileError Unit × Disk :=
  match disk.write (FileStore.temporary file) content with
  | .error fault => (.error fault, disk)
  | .ok written =>
    match written.rename (FileStore.temporary file) file with
    | .error fault => (.error fault, written)
    | .ok final => (.ok (), final)

/-- A save makes the folder of the store and replaces the store. -/
theorem run_save (file : String) (document : Json) (disk : Disk) :
    (FileStore.save (m := StateM Disk) file document .replace).run disk =
      match (makeFolderOf file : StateM Disk _).run disk with
      | (.error fault, middle) => (.error (.file fault), middle)
      | (.ok _, middle) =>
        let replaced := middle.replace file (Utf8.encode document.pretty.toList)
        (replaced.1.mapError .file, replaced.2) := by
  rw [FileStore.run_save]
  rcases (makeFolderOf file : StateM Disk _).run disk with ⟨_ | _, middle⟩
  · rfl
  · dsimp only
    rw [run_write, replace]
    cases middle.write (FileStore.temporary file) (Utf8.encode document.pretty.toList) with
    | error fault => rfl
    | ok written =>
      dsimp only
      rw [run_rename]
      cases written.rename (FileStore.temporary file) file <;> rfl

/-- Beside disks a store is replaced with the same outcome, and the disks stay beside each other. -/
theorem Beside.replace (beside : Beside file disk other) (content : List UInt8) :
    (other.replace file content).1 = (disk.replace file content).1 ∧
      Beside file (disk.replace file content).2 (other.replace file content).2 := by
  rw [Disk.replace, Disk.replace]
  have writes := beside.write content
  generalize disk.write (FileStore.temporary file) content = first at writes ⊢
  generalize other.write (FileStore.temporary file) content = second at writes ⊢
  cases writes with
  | failed fault => exact ⟨rfl, beside⟩
  | @done written writtenToo alike =>
    have moves := alike.rename (FileStore.temporary file) file
    dsimp only
    generalize written.rename (FileStore.temporary file) file = first at moves ⊢
    generalize writtenToo.rename (FileStore.temporary file) file = second at moves ⊢
    cases moves with
    | failed fault => exact ⟨rfl, alike.beside file⟩
    | done moved => exact ⟨rfl, moved.beside file⟩

theorem beside_of_unreplaced {fault : FileError}
    (failed : (disk.replace file content).1 = .error fault) :
    Beside file disk (disk.replace file content).2 := by
  rw [Disk.replace] at failed ⊢
  cases writing : disk.write (FileStore.temporary file) content with
  | error fault => exact .refl file disk
  | ok written =>
    rw [writing] at failed
    dsimp only at failed ⊢
    cases moving : written.rename (FileStore.temporary file) file with
    | error fault => exact beside_of_write writing
    | ok final =>
      rw [moving] at failed
      cases failed

theorem foldersWithin_rename (ok : disk.rename source target = .ok other) :
    disk.tree.FoldersWithin other.tree ∧ other.here = disk.here := by
  obtain ⟨_, _, _, move⟩ := rename_ok ok
  rw [move.becomes]
  exact ⟨move.keeps.trans (FileTree.foldersWithin_put move.free _), rfl⟩

theorem FolderThere.replace (there : FolderThere file disk) (content : List UInt8) :
    FolderThere file (disk.replace file content).2 := by
  rw [Disk.replace]
  cases writing : disk.write (FileStore.temporary file) content with
  | error fault => exact there
  | ok written =>
    have thereWritten : FolderThere file written := by
      obtain ⟨_, _, _, noFolder, rfl⟩ := write_ok writing
      exact there.mono (FileTree.foldersWithin_put noFolder _) rfl
    dsimp only
    cases moving : written.rename (FileStore.temporary file) file with
    | error fault => exact thereWritten
    | ok final =>
      obtain ⟨within, here⟩ := foldersWithin_rename moving
      exact thereWritten.mono within here

end Replacing

section Attempts

/-- Disks as attempts to save leave them: as they were, with a part of the folder of the store, or
with the folder and anything in the file beside the store. -/
inductive Tried (file : String) (disk : Disk) : Disk → Prop
  | untouched : Tried file disk disk
  | unmade {fault : FileError} {other : Disk} :
      (makeFolderOf file : StateM Disk _).run disk = (.error fault, other) → Tried file disk other
  | prepared {middle other : Disk} :
      (makeFolderOf file : StateM Disk _).run disk = (.ok (), middle) →
        Beside file middle other → Tried file disk other

/-- Making the folder of a store changes nothing about what is read from the store, and a second
time it ends in the same way and changes nothing at all. -/
structure Steady (file : String) (disk : Disk) : Prop where
  read : ((makeFolderOf file : StateM Disk _).run disk).2.read file = disk.read file
  again : (makeFolderOf file : StateM Disk _).run ((makeFolderOf file : StateM Disk _).run disk).2 =
    (makeFolderOf file : StateM Disk _).run disk

/-- A folder that cannot be made, and of which nothing is made, can still not be made. -/
theorem steady_of_unmade {fault : FileError}
    (failed : (makeFolderOf file : StateM Disk _).run disk = (.error fault, disk)) :
    Steady file disk := by
  refine ⟨?_, ?_⟩ <;> simp only [failed]

theorem FolderThere.steady (there : FolderThere file disk) : Steady file disk := by
  rw [FolderThere] at there
  refine ⟨?_, ?_⟩ <;> simp only [there]

/-- Where the path of a store is direct, its folder is made as a whole or not at all, and it lets no
more be found. Through a folder that is made a path with steps up can lead elsewhere, and a name
that is too long is found out only where its folder is there. -/
theorem steady_of_direct (rooted : disk.Rooted) (direct : (Path.ofText file).IsDirect) :
    Steady file disk := by
  rcases made : (makeFolderOf file : StateM Disk _).run disk with ⟨fault | _, middle⟩
  · obtain ⟨_, steps, dots⟩ := folderPath_read file
    have directFolder : (folderPath file).IsDirect := fun step member =>
      direct step (List.mem_of_mem_dropLast (steps ▸ member))
    have run := made
    rw [run_makeFolderOf] at run
    have same : middle = disk := makeFoldersTo_failed rooted directFolder dots le_rfl
      (Prod.ext (congrArg Prod.snd run) (congrArg Prod.fst run))
    exact steady_of_unmade (same ▸ made)
  · have there : (makeFolderOf file : StateM Disk _).run middle = (.ok (), middle) :=
      folderThere_of_made made
    refine ⟨?_, ?_⟩ <;> simp only [made]
    · exact read_of_made rooted direct made
    · exact there

/-- After attempts that failed a save ends in the same way as without them. -/
theorem Steady.save_tried (steady : Steady file disk) (tried : Tried file disk other)
    (document : Json) :
    let run := (FileStore.save (m := StateM Disk) file document .replace).run
    (run other).1 = (run disk).1 ∧ Tried file (run disk).2 (run other).2 := by
  dsimp only
  cases tried with
  | untouched => exact ⟨rfl, .untouched⟩
  | unmade failed =>
    have again := steady.again
    rw [failed] at again
    rw [run_save, run_save, failed, show (makeFolderOf file : StateM Disk _).run other = _ from again]
    exact ⟨rfl, .untouched⟩
  | @prepared middle _ made beside =>
    have there : FolderThere file middle := folderThere_of_made made
    -- On both disks there is no folder left to make.
    have thereToo : FolderThere file other := there.mono beside.foldersWithin beside.here
    obtain ⟨same, besideAfter⟩ := beside.replace (Utf8.encode document.pretty.toList)
    rw [run_save, run_save, made, show (makeFolderOf file : StateM Disk _).run other = _ from thereToo]
    dsimp only
    rw [same]
    exact ⟨rfl, .prepared (there.replace _) besideAfter⟩

theorem tried_of_failed {document : Json}
    (failed : ((FileStore.save (m := StateM Disk) file document .replace).run disk).1 = .error fault) :
    Tried file disk ((FileStore.save (m := StateM Disk) file document .replace).run disk).2 := by
  rw [run_save] at failed ⊢
  rcases made : (makeFolderOf file : StateM Disk _).run disk with ⟨unmade | _, middle⟩
  · exact .unmade made
  · rw [made] at failed
    dsimp only at failed ⊢
    generalize replaced : middle.replace file (Utf8.encode document.pretty.toList) = ended at failed ⊢
    obtain ⟨reason | _, after⟩ := ended
    · refine .prepared made ?_
      rw [← congrArg Prod.snd replaced]
      exact beside_of_unreplaced (congrArg Prod.fst replaced)
    · cases failed

/-- After attempts that failed the store is read as without them. -/
theorem Steady.read_tried (steady : Steady file disk) (tried : Tried file disk other) :
    other.read file = disk.read file := by
  have kept := steady.read
  cases tried with
  | untouched => rfl
  | unmade failed => rwa [failed] at kept
  | prepared made beside =>
    rw [made] at kept
    exact beside.read.trans kept

theorem Steady.save (steady : Steady file disk) (document : Json) :
    Steady file ((FileStore.save (m := StateM Disk) file document .replace).run disk).2 := by
  have again := steady.again
  rw [run_save]
  rcases made : (makeFolderOf file : StateM Disk _).run disk with ⟨unmade | _, middle⟩
  · rw [made] at again
    exact steady_of_unmade again
  · exact ((folderThere_of_made made).replace _).steady

end Attempts

end Disk

end ScannerConfig
