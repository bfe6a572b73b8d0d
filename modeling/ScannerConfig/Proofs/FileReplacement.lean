import Mathlib.Tactic.Common
import ScannerConfig.Files.Tree
import ScannerConfig.Proofs.Steps
import ScannerConfig.Store.File

namespace ScannerConfig

namespace FileTree

variable {tree other : FileTree} {place asked : Place} {node : Node}

theorem node?_root (tree : FileTree) : tree.node? [] = some .folder := by
  cases tree <;> rfl

theorem node?_put (tree : FileTree) (place asked : Place) (node : Node) :
    (tree.put place node).node? asked =
      if asked = [] then some .folder else if place = asked then some node else tree.node? asked := by
  by_cases root : asked = []
  · rw [if_pos root, root, node?_root]
  · rw [if_neg root]
    obtain ⟨name, names, rfl⟩ := List.exists_cons_of_ne_nil root
    induction tree with
    | nil => simp [put, node?]
    | cons entry rest ih =>
      obtain ⟨there, old⟩ := entry
      by_cases same : there = place
      · subst same
        by_cases here : there = name :: names <;> simp [put, node?, here]
      · by_cases here : there = name :: names
        · subst here
          simp [put, node?, same, Ne.symm same]
        · simp [put, node?, same, here, ih]

theorem node?_remove (tree : FileTree) (place asked : Place) :
    (tree.remove place).node? asked =
      if asked = [] then some .folder else if place = asked then none else tree.node? asked := by
  by_cases root : asked = []
  · rw [if_pos root, root, node?_root]
  · rw [if_neg root]
    obtain ⟨name, names, rfl⟩ := List.exists_cons_of_ne_nil root
    induction tree with
    | nil => simp [remove, node?]
    | cons entry rest ih =>
      obtain ⟨there, old⟩ := entry
      rw [remove] at ih ⊢
      by_cases same : there = place
      · subst same
        by_cases here : there = name :: names
        · simp [here] at ih ⊢
          exact ih
        · simp [node?, here] at ih ⊢
          exact ih
      · by_cases here : there = name :: names
        · subst here
          simp [node?, same, Ne.symm same]
        · simp [node?, same, here] at ih ⊢
          exact ih

/-- All folders of one tree are folders of another. -/
def FoldersWithin (tree other : FileTree) : Prop :=
  ∀ place, tree.node? place = some .folder → other.node? place = some .folder

theorem foldersWithin_put (noFolder : tree.node? place ≠ some .folder) (node : Node) :
    tree.FoldersWithin (tree.put place node) := by
  intro asked folder
  rw [node?_put]
  split
  · rfl
  · split
    · rename_i same
      exact absurd (same ▸ folder) noFolder
    · exact folder

theorem foldersWithin_remove (noFolder : tree.node? place ≠ some .folder) :
    tree.FoldersWithin (tree.remove place) := by
  intro asked folder
  rw [node?_remove]
  split
  · rfl
  · split
    · rename_i same
      exact absurd (same ▸ folder) noFolder
    · exact folder

theorem FoldersWithin.trans {last : FileTree} (within : tree.FoldersWithin other)
    (later : other.FoldersWithin last) : tree.FoldersWithin last :=
  fun place folder => later place (within place folder)

/-- A name that is short enough is found whatever the tree. -/
theorem find_eq_ok_iff {found : Option Node} :
    tree.find place = .ok found ↔
      (place.getLast?.getD "").utf8ByteSize ≤ maxNameBytes ∧ tree.node? place = found := by
  rw [find]
  split
  · simpa using fun short => absurd short (by omega)
  · simp only [Except.ok.injEq, iff_and_self]
    omega

/-- Steps that can be followed lead to the same place where the folders are still there. -/
theorem FoldersWithin.follow (within : tree.FoldersWithin other) {steps : List Step}
    {start result : Place} (followed : tree.follow start steps = .ok result) :
    other.follow start steps = .ok result := by
  induction steps generalizing start with
  | nil => exact followed
  | cons step rest ih =>
    cases step with
    | here => exact ih followed
    | up => exact ih followed
    | name name =>
      cases rest with
      | nil => exact followed
      | cons next rest =>
        simp only [FileTree.follow] at followed ⊢
        split at followed
        · cases followed
        · cases followed
        · cases followed
        · rename_i found
          obtain ⟨short, folder⟩ := find_eq_ok_iff.mp found
          rw [find_eq_ok_iff.mpr ⟨short, within _ folder⟩]
          exact ih followed

end FileTree

namespace Disk

variable {disk written after : Disk} {text source target : String} {content : List UInt8}

theorem run_attempt (step : Disk → Except FileError Disk) (disk : Disk) :
    (attempt step).run disk =
      match step disk with
      | .ok after => (.ok (), after)
      | .error fault => (.error fault, disk) := by
  cases taken : step disk <;> simp [attempt, StateT.run, taken]

theorem run_write (text : String) (content : List UInt8) (disk : Disk) :
    (Files.write text content : StateM Disk _).run disk =
      match disk.write text content with
      | .ok after => (.ok (), after)
      | .error fault => (.error fault, disk) :=
  run_attempt (·.write text content) disk

theorem run_rename (source target : String) (disk : Disk) :
    (Files.rename source target : StateM Disk _).run disk =
      match disk.rename source target with
      | .ok after => (.ok (), after)
      | .error fault => (.error fault, disk) :=
  run_attempt (·.rename source target) disk

theorem locate_of_foldersWithin {other : Disk} {path : Path} {place : Place}
    (within : disk.tree.FoldersWithin other.tree) (here : other.here = disk.here)
    (located : disk.locate path = .ok place) : other.locate path = .ok place := by
  simp only [locate, here] at located ⊢
  split at located <;> rename_i absolute
  · rw [if_pos absolute]
    exact within.follow located
  · split at located <;> rename_i empty
    · cases located
    · rw [if_neg absolute, if_neg empty]
      exact within.follow located

/-- A path leads to a file with this content. -/
def HasFile (disk : Disk) (path : Path) (content : List UInt8) : Prop :=
  ∃ place, disk.locate path = .ok place ∧ disk.tree.find place = .ok (some (.file content))

theorem HasFile.unique {path : Path} {place : Place} {other : List UInt8}
    (has : disk.HasFile path content) (located : disk.locate path = .ok place)
    (file : disk.tree.node? place = some (.file other)) : content = other := by
  obtain ⟨there, locatedThere, found⟩ := has
  cases locatedThere.symm.trans located
  cases (FileTree.find_eq_ok_iff.mp found).2.symm.trans file
  rfl

theorem HasFile.read (has : disk.HasFile (Path.ofText text) content)
    (checked : check text = .ok ()) (plain : (Path.ofText text).ending = .plain) :
    disk.read text = .ok content := by
  obtain ⟨place, located, found⟩ := has
  simp [Disk.read, checked, located, found, plain, bind, Except.bind]

/-- A file that is put where no folder stands is found there, with the other folders kept. -/
theorem hasFile_put {path : Path} {place : Place} {tree : FileTree}
    (located : disk.locate path = .ok place)
    (short : (place.getLast?.getD "").utf8ByteSize ≤ FileTree.maxNameBytes)
    (within : disk.tree.FoldersWithin tree) (free : tree.node? place ≠ some .folder)
    (content : List UInt8) :
    HasFile ⟨tree.put place (.file content), disk.here⟩ path content := by
  have noRoot : place ≠ [] := by
    rintro rfl
    exact free (FileTree.node?_root tree)
  refine ⟨place, ?_, FileTree.find_eq_ok_iff.mpr ⟨short, ?_⟩⟩
  · exact locate_of_foldersWithin (within.trans (FileTree.foldersWithin_put free _)) rfl located
  · rw [FileTree.node?_put, if_neg noRoot, if_pos rfl]

/-- A write puts its file where its path leads to, and no folder stands there. -/
theorem write_ok (ok : disk.write text content = .ok written) :
    ∃ place, disk.locate (Path.ofText text) = .ok place ∧
      (place.getLast?.getD "").utf8ByteSize ≤ FileTree.maxNameBytes ∧
        disk.tree.node? place ≠ some .folder ∧ written = disk.put place (.file content) := by
  obtain ⟨_, _, ok⟩ := bind_ok ok
  obtain ⟨place, located, ok⟩ := bind_ok ok
  split at ok
  · cases ok
  obtain ⟨found, there, ok⟩ := bind_ok ok
  obtain ⟨short, node⟩ := FileTree.find_eq_ok_iff.mp there
  split at ok
  · cases ok
  · cases ok
  · cases ok
  · rename_i noFolder _ _
    cases ok
    exact ⟨place, located, short, by rw [node]; exact noFolder, rfl⟩

theorem hasFile_of_write (ok : disk.write text content = .ok written) :
    written.HasFile (Path.ofText text) content := by
  obtain ⟨place, located, short, noFolder, rfl⟩ := write_ok ok
  exact hasFile_put located short (fun _ folder => folder) noFolder content

theorem read_of_write (ok : disk.write text content = .ok written) :
    written.read text = .ok content := by
  obtain ⟨_, checked, rest⟩ := bind_ok ok
  refine (hasFile_of_write ok).read checked ?_
  obtain ⟨_, _, rest⟩ := bind_ok rest
  split at rest
  · cases rest
  obtain ⟨found, _, rest⟩ := bind_ok rest
  cases ending : (Path.ofText text).ending with
  | plain => rfl
  | slash => contradiction
  | dot =>
    rw [ending] at rest
    rcases found with _ | ⟨_ | _⟩ <;> cases rest

/-- A move takes a file from one place to another where no folder stands, and takes no folder
away. -/
structure Moved (disk : Disk) (source target : String) (after : Disk) (origin place : Place)
    (content : List UInt8) : Prop where
  checkedSource : check source = .ok ()
  checkedTarget : check target = .ok ()
  leaves : disk.locate (Path.ofText source) = .ok origin
  file : disk.tree.node? origin = some (.file content)
  arrives : disk.locate (Path.ofText target) = .ok place
  short : (place.getLast?.getD "").utf8ByteSize ≤ FileTree.maxNameBytes
  plain : (Path.ofText target).ending = .plain
  keeps : disk.tree.FoldersWithin (disk.tree.remove origin)
  free : (disk.tree.remove origin).node? place ≠ some .folder
  becomes : after = ⟨(disk.tree.remove origin).put place (.file content), disk.here⟩

theorem rename_ok (ok : disk.rename source target = .ok after) :
    ∃ origin place content, Moved disk source target after origin place content := by
  obtain ⟨_, checkedSource, ok⟩ := bind_ok ok
  obtain ⟨_, checkedTarget, ok⟩ := bind_ok ok
  obtain ⟨origin, located, ok⟩ := bind_ok ok
  split at ok
  · cases ok
  · cases ok
  rename_i moved file
  obtain ⟨place, locatedTarget, ok⟩ := bind_ok ok
  obtain ⟨found, there, ok⟩ := bind_ok ok
  obtain ⟨short, node⟩ := FileTree.find_eq_ok_iff.mp there
  split at ok
  · cases ok
  · cases ok
  · cases ok
  · cases ok
  · split at ok <;> cases ok
  · rename_i plain noFolder
    cases ok
    refine ⟨origin, place, moved, checkedSource, checkedTarget, located, file, locatedTarget, short,
      plain, FileTree.foldersWithin_remove (by rw [file]; nofun), fun folder => ?_, rfl⟩
    rw [FileTree.node?_remove] at folder
    split at folder
    · rename_i root
      exact noFolder (node.symm.trans (root ▸ FileTree.node?_root _))
    · split at folder
      · cases folder
      · exact noFolder (node.symm.trans folder)

/-- A file that is moved is read under its new path. -/
theorem read_of_rename (has : disk.HasFile (Path.ofText source) content)
    (ok : disk.rename source target = .ok after) : after.read target = .ok content := by
  obtain ⟨origin, place, moved, move⟩ := rename_ok ok
  cases has.unique move.leaves move.file
  rw [move.becomes]
  exact (hasFile_put move.arrives move.short move.keeps move.free content).read move.checkedTarget move.plain

end Disk

theorem FileStore.run_onFiles {σ α : Type} (step : StateM σ (Except FileError α)) (start : σ) :
    (FileStore.onFiles step).run start =
      ((step.run start).1.mapError Fault.file, (step.run start).2) := by
  change StateT.run (step >>= _) start = _
  rw [StateT.run_bind]
  rcases step.run start with ⟨error | value, after⟩ <;> rfl

end ScannerConfig
