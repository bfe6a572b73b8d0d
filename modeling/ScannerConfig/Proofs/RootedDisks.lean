import ScannerConfig.Proofs.StandingFolders

namespace ScannerConfig

namespace FileTree

variable {tree : FileTree} {start place : Place} {steps : List Step} {step : Step} {node : Node}

theorem Rooted.dropLast (rooted : tree.Rooted) (folder : tree.node? place = some .folder) :
    tree.node? place.dropLast = some .folder := by
  rcases List.eq_nil_or_concat place with rfl | ⟨above, name, rfl⟩
  · exact node?_root tree
  · rw [List.concat_eq_append] at folder ⊢
    rw [List.dropLast_concat]
    exact rooted above name (by simp [folder])

/-- A path leads to a place in a folder. -/
theorem Rooted.above_of_follow (rooted : tree.Rooted) (folder : tree.node? start = some .folder)
    (followed : tree.follow start steps = .ok place) :
    tree.node? place.dropLast = some .folder := by
  induction steps generalizing start with
  | nil =>
    cases followed
    exact rooted.dropLast folder
  | cons step rest ih =>
    cases step with
    | here => exact ih folder followed
    | up => exact ih (rooted.dropLast folder) followed
    | name name =>
      by_cases last : rest = []
      · subst last
        cases followed
        rwa [List.dropLast_concat]
      · obtain ⟨found, onward⟩ := follow_name_ok last followed
        exact ih (find_eq_ok_iff.mp found).2 onward

/-- In front of its last step a path leads to a folder. -/
theorem Rooted.folder_of_follow (rooted : tree.Rooted) (folder : tree.node? start = some .folder)
    (followed : tree.follow start (steps ++ [step]) = .ok place) :
    ∃ above, tree.follow start steps = .ok above ∧ tree.node? above = some .folder := by
  induction steps generalizing start with
  | nil => exact ⟨start, rfl, folder⟩
  | cons first rest ih =>
    cases first with
    | here => exact ih folder followed
    | up => exact ih (rooted.dropLast folder) followed
    | name name =>
      have more : rest ++ [step] ≠ [] := List.append_ne_nil_of_right_ne_nil _ (List.cons_ne_nil _ _)
      obtain ⟨found, onward⟩ := follow_name_ok more followed
      obtain ⟨above, led, there⟩ := ih (find_eq_ok_iff.mp found).2 onward
      refine ⟨above, ?_, there⟩
      by_cases last : rest = []
      · subst last
        exact led
      · rw [follow_name_cons _ _ _ last, found]
        exact led

/-- What is put into a folder, and not in place of one, keeps everything in folders. -/
theorem Rooted.put (rooted : tree.Rooted) (above : tree.node? place.dropLast = some .folder)
    (free : tree.node? place ≠ some .folder) (node : Node) : (tree.put place node).Rooted := by
  intro asked name stands
  refine foldersWithin_put free node asked ?_
  rw [node?_put, if_neg (List.append_ne_nil_of_right_ne_nil _ (List.cons_ne_nil _ _))] at stands
  by_cases here : place = asked ++ [name]
  · rwa [here, List.dropLast_concat] at above
  · rw [if_neg here] at stands
    exact rooted asked name stands

end FileTree

namespace Disk

variable {disk middle after : Disk} {path : Path} {place : Place} {text file : String}
  {content : List UInt8} {fault : FileError} {count : Nat}

theorem Rooted.put (rooted : disk.Rooted) (located : disk.locate path = .ok place)
    (free : disk.tree.node? place ≠ some .folder) (node : Node) : (disk.put place node).Rooted := by
  have above := rooted.tree.above_of_follow (rooted.base path) (follow_of_locate located)
  exact ⟨rooted.tree.put above free node, FileTree.foldersWithin_put free node _ rooted.here⟩

theorem Rooted.ensureFolder (rooted : disk.Rooted) (ok : disk.ensureFolder path = .ok after) :
    after.Rooted := by
  rw [Disk.ensureFolder] at ok
  split at ok
  · rename_i made
    obtain ⟨place, located, absent, rfl⟩ := makeFolder_ok made
    cases ok
    exact rooted.put located (by simp [absent]) .folder
  · split at ok
    · cases ok
      exact rooted
    · cases ok

theorem Rooted.makeFoldersTo (rooted : disk.Rooted) (path : Path) (count : Nat) :
    (disk.makeFoldersTo path count).1.Rooted := by
  induction count with
  | zero => exact rooted
  | succ count ih =>
    rw [Disk.makeFoldersTo]
    split
    · rename_i ok
      exact rooted.ensureFolder ok
    · split
      · rename_i lower
        rwa [lower] at ih
      · rename_i lower
        rw [lower] at ih
        split
        · rename_i ok
          exact ih.ensureFolder ok
        · exact ih
    · exact rooted

theorem Rooted.made (rooted : disk.Rooted) (file : String) :
    ((makeFolderOf file : StateM Disk _).run disk).2.Rooted := by
  rw [run_makeFolderOf]
  exact rooted.makeFoldersTo _ _

theorem Rooted.write (rooted : disk.Rooted) (ok : disk.write text content = .ok after) :
    after.Rooted := by
  obtain ⟨place, located, _, free, rfl⟩ := write_ok ok
  exact rooted.put located free _

/-- The way to a place leads through the folder in front of it. -/
theorem Rooted.isFolder_front (rooted : disk.Rooted) {steps : List Step} {step : Step}
    (split : path.steps = steps ++ [step]) (located : disk.locate path = .ok place)
    (some : steps ≠ []) (ending : Ending) : disk.isFolder ⟨path.absolute, steps, ending⟩ = true := by
  have followed := follow_of_locate located
  rw [split] at followed
  obtain ⟨above, led, folder⟩ := rooted.tree.folder_of_follow (rooted.base path) followed
  exact isFolder_iff.mpr ⟨above, (locate_eq_follow some disk).trans led, folder⟩

/-- Where folders could not all be made, the last of them is not there. -/
theorem Rooted.noFolder_of_unmade (rooted : disk.Rooted)
    (failed : disk.makeFoldersTo path count = (after, .error fault)) :
    after.isFolder ⟨path.absolute, path.steps.take count, .plain⟩ = false := by
  induction count generalizing after fault with
  | zero => cases failed
  | succ count ih =>
    have stays := rooted.makeFoldersTo path count
    rw [Disk.makeFoldersTo] at failed
    split at failed
    · cases failed
    · split at failed
      · rename_i lower
        cases failed
        rw [lower] at stays
        have above := ih lower
        by_cases more : count < path.steps.length
        · -- The folder would stand in the one above, which is not there either.
          have split : path.steps.take (count + 1) = path.steps.take count ++ [path.steps[count]] :=
            (List.take_concat_get' path.steps count more).symm
          have some : path.steps.take count ≠ [] := by
            rintro none
            cases count with
            | zero => cases lower
            | succ count => simp_all
          rw [Bool.eq_false_iff] at above ⊢
          intro folder
          obtain ⟨place, located, _⟩ := isFolder_iff.mp folder
          exact above (stays.isFolder_front split located some .plain)
        · rw [List.take_of_length_le (by omega)] at above ⊢
          exact above
      · split at failed
        · cases failed
        · rename_i again
          cases failed
          exact (makeFolder_of_ensureFolder again).2
    · rename_i unmade
      cases failed
      exact (makeFolder_of_ensureFolder unmade).2

/-- Where the folder of a file could not be made, no file is found. -/
theorem Rooted.unread_of_unmade (rooted : disk.Rooted)
    (failed : (makeFolderOf file : StateM Disk _).run disk = (.error fault, after)) :
    after.read file ≠ .ok content := by
  obtain ⟨absolute, steps, _⟩ := folderPath_read file
  have stays := rooted.made file
  rw [failed] at stays
  rw [run_makeFolderOf] at failed
  have unmade := rooted.noFolder_of_unmade
    (Prod.ext (congrArg Prod.snd failed) (congrArg Prod.fst failed))
  rw [List.take_length, Bool.eq_false_iff, absolute, steps] at unmade
  intro read
  obtain ⟨_, ⟨place, located, _⟩, _⟩ := read_eq_ok_iff.mp read
  rcases List.eq_nil_or_concat (Path.ofText file).steps with none | ⟨front, last, split⟩
  · rw [steps, none] at failed
    cases failed
  · rw [List.concat_eq_append] at split
    rw [split, List.dropLast_concat] at unmade
    by_cases empty : front = []
    · rw [steps, split, empty] at failed
      cases failed
    · exact unmade (stays.isFolder_front split located empty .plain)

/-- A file that can be read can be written. -/
theorem write_of_read (read : disk.read text = .ok content) (new : List UInt8) :
    ∃ after, disk.write text new = .ok after := by
  obtain ⟨checked, ⟨place, located, found⟩, plain⟩ := read_eq_ok_iff.mp read
  refine ⟨disk.put place (.file new), ?_⟩
  simp [write, checked, located, found, plain, bind, Except.bind]

end Disk

end ScannerConfig
