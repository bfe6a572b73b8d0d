import ScannerConfig.Proofs.SafeSaves

namespace ScannerConfig

/-- A step on a direct path: a name that is short enough to be looked up, and no step up. -/
def Step.IsDirect : Step → Prop
  | .here => True
  | .up => False
  | .name chosen => chosen.utf8ByteSize ≤ FileTree.maxNameBytes

instance : DecidablePred Step.IsDirect
  | .here => inferInstanceAs (Decidable True)
  | .up => inferInstanceAs (Decidable False)
  | .name _ => inferInstanceAs (Decidable (_ ≤ _))

/-- A path that leads down by names that can be looked up. -/
def Path.IsDirect (path : Path) : Prop :=
  ∀ step ∈ path.steps, step.IsDirect

instance (path : Path) : Decidable path.IsDirect :=
  inferInstanceAs (Decidable (∀ step ∈ path.steps, step.IsDirect))

theorem Path.IsDirect.noUp {path : Path} (direct : path.IsDirect) : .up ∉ path.steps :=
  fun member => direct _ member

namespace FileTree

variable {tree other : FileTree} {start place : Place} {steps : List Step} {fault : FileError}

theorem follow_single (tree : FileTree) (start : Place) (step : Step) :
    ∃ place, tree.follow start [step] = .ok place := by
  cases step <;> exact ⟨_, rfl⟩

/-- A direct way to a folder can be continued. -/
theorem follow_extend (direct : ∀ step ∈ steps, step.IsDirect)
    (followed : tree.follow start steps = .ok place) (folder : tree.node? place = some .folder)
    (step : Step) : ∃ further, tree.follow start (steps ++ [step]) = .ok further := by
  induction steps generalizing start with
  | nil => exact follow_single tree start step
  | cons first rest ih =>
    obtain ⟨here, later⟩ := List.forall_mem_cons.mp direct
    cases first with
    | here => exact ih later followed
    | up => exact ih later followed
    | name name =>
      have more : rest ++ [step] ≠ [] := List.append_ne_nil_of_right_ne_nil _ (List.cons_ne_nil _ _)
      rw [List.cons_append, follow_name_cons tree start name more]
      by_cases last : rest = []
      · subst last
        cases followed
        have found : tree.find (start ++ [name]) = .ok (some .folder) :=
          find_eq_ok_iff.mpr ⟨by rw [List.getLast?_concat]; exact here, folder⟩
        rw [found]
        exact follow_single tree _ step
      · obtain ⟨found, onward⟩ := follow_name_ok last followed
        rw [found]
        exact ih later onward

/-- What is not reached, but is once there are more folders, was not found. -/
theorem fault_of_follow
    (added : ∀ place, other.node? place = tree.node? place ∨
      tree.node? place = none ∧ other.node? place = some .folder)
    (failed : tree.follow start steps = .error fault)
    (followed : other.follow start steps = .ok place) : fault = .notFound := by
  induction steps generalizing start with
  | nil => cases failed
  | cons step rest ih =>
    cases step with
    | here => exact ih failed followed
    | up => exact ih failed followed
    | name name =>
      by_cases more : rest = []
      · subst more
        cases failed
      · obtain ⟨found, onward⟩ := follow_name_ok more followed
        obtain ⟨short, folder⟩ := find_eq_ok_iff.mp found
        rw [follow_name_cons tree start name more, find, if_neg (by omega)] at failed
        rcases added (start ++ [name]) with same | ⟨absent, _⟩
        · rw [← same, folder] at failed
          exact ih failed onward
        · rw [absent] at failed
          exact (Except.error.inj failed).symm

end FileTree

namespace Disk

variable {disk before middle after other : Disk} {path : Path} {place : Place} {text file : String}
  {fault : FileError} {count : Nat} {new : Place → Prop}

section Standing

theorem isFolder_iff :
    disk.isFolder path = true ↔
      ∃ place, disk.locate path = .ok place ∧ disk.tree.node? place = some .folder := by
  rw [isFolder]
  cases disk.locate path <;> simp

theorem isFolder_of_foldersWithin (within : disk.tree.FoldersWithin other.tree)
    (here : other.here = disk.here) (folder : disk.isFolder path = true) :
    other.isFolder path = true := by
  obtain ⟨place, located, there⟩ := isFolder_iff.mp folder
  exact isFolder_iff.mpr ⟨place, locate_of_foldersWithin within here located, within place there⟩

/-- A folder that is there need not be made. -/
theorem ensureFolder_of_isFolder (folder : disk.isFolder path = true) :
    disk.ensureFolder path = .ok disk := by
  rw [ensureFolder]
  cases made : disk.makeFolder path with
  | ok after =>
    obtain ⟨place, located, absent, _⟩ := makeFolder_ok made
    obtain ⟨there, locatedThere, stands⟩ := isFolder_iff.mp folder
    cases located.symm.trans locatedThere
    rw [absent] at stands
    cases stands
  | error fault => exact if_pos folder

theorem isFolder_of_ensureFolder (ok : disk.ensureFolder path = .ok after) :
    after.isFolder path = true := by
  rw [ensureFolder] at ok
  split at ok
  · rename_i made
    cases ok
    obtain ⟨place, located, absent, rfl⟩ := makeFolder_ok made
    have within : disk.tree.FoldersWithin (disk.put place .folder).tree :=
      FileTree.foldersWithin_put (by simp [absent]) _
    refine isFolder_iff.mpr ⟨place, locate_of_foldersWithin within rfl located, ?_⟩
    rw [put, FileTree.node?_put, if_pos rfl, ite_self]
  · split at ok
    · rename_i folder
      cases ok
      exact folder
    · cases ok

theorem makeFoldersTo_of_isFolder
    (folder : disk.isFolder ⟨path.absolute, path.steps.take (count + 1), .plain⟩ = true) :
    disk.makeFoldersTo path (count + 1) = (disk, .ok ()) := by
  have there : ∀ ending, disk.ensureFolder ⟨path.absolute, path.steps.take (count + 1), ending⟩ =
      .ok disk := fun ending => ensureFolder_of_isFolder folder
  rw [makeFoldersTo]
  simp only [there]

theorem isFolder_of_makeFoldersTo
    (made : disk.makeFoldersTo path (count + 1) = (after, .ok ())) :
    after.isFolder ⟨path.absolute, path.steps.take (count + 1), .plain⟩ = true := by
  rw [makeFoldersTo] at made
  split at made
  · rename_i ok
    cases made
    exact (isFolder_of_ensureFolder ok :)
  · split at made
    · cases made
    · split at made
      · rename_i ok
        cases made
        exact (isFolder_of_ensureFolder ok :)
      · cases made
  · cases made

end Standing

section Files

/-- The path of the folder of a file. -/
def folderPath (file : String) : Path :=
  Path.ofText (Path.text ⟨(Path.ofText file).absolute, (Path.ofText file).steps.dropLast, .plain⟩)

theorem folderPath_read (file : String) :
    (folderPath file).absolute = (Path.ofText file).absolute ∧
      (folderPath file).steps = (Path.ofText file).steps.dropLast ∧
        ((folderPath file).ending = .dot → (folderPath file).steps.length ≤ 1) := by
  have proper := (Path.proper_ofText file).dropLast .plain
  obtain ⟨absolute, steps, _⟩ := proper.ofText_text
  refine ⟨absolute, steps, fun dotted => ?_⟩
  rw [folderPath, steps, proper.steps_of_dot dotted]
  exact Nat.le_refl 1

theorem run_makeFolderOf (file : String) (disk : Disk) :
    (makeFolderOf file : StateM Disk _).run disk =
      ((disk.makeFoldersTo (folderPath file) (folderPath file).steps.length).2,
        (disk.makeFoldersTo (folderPath file) (folderPath file).steps.length).1) := by
  rw [makeFolderOf, Path.parent?]
  by_cases empty : (Path.ofText file).steps.isEmpty
  · have none : (folderPath file).steps = [] := by
      rw [(folderPath_read file).2.1, List.isEmpty_iff.mp empty]
      rfl
    rw [if_pos empty, none]
    rfl
  · rw [if_neg empty]
    rfl

/-- The folder of a file is there: making it changes nothing. -/
def FolderThere (file : String) (disk : Disk) : Prop :=
  (makeFolderOf file : StateM Disk _).run disk = (.ok (), disk)

theorem folderThere_iff :
    FolderThere file disk ↔
      (Path.ofText file).steps.dropLast ≠ [] → disk.isFolder (folderPath file) = true := by
  obtain ⟨_, steps, _⟩ := folderPath_read file
  rw [FolderThere, run_makeFolderOf, ← steps]
  cases length : (folderPath file).steps.length with
  | zero =>
    have none := List.length_eq_zero_iff.mp length
    exact iff_of_true rfl fun some => absurd none some
  | succ count =>
    have whole : (folderPath file).steps.take (count + 1) = (folderPath file).steps :=
      List.take_of_length_le length.le
    have some : (folderPath file).steps ≠ [] := List.ne_nil_of_length_eq_add_one length
    constructor
    · intro made _
      have folder := isFolder_of_makeFoldersTo (Prod.ext (congrArg Prod.snd made) (congrArg Prod.fst made))
      rwa [whole] at folder
    · intro there
      have folder : disk.isFolder ⟨(folderPath file).absolute,
          (folderPath file).steps.take (count + 1), .plain⟩ = true := by
        rw [whole]
        exact there some
      rw [makeFoldersTo_of_isFolder folder]

/-- Once the folder of a file was made, it is there. -/
theorem folderThere_of_made
    (made : (makeFolderOf file : StateM Disk _).run disk = (.ok (), after)) :
    FolderThere file after := by
  obtain ⟨_, steps, _⟩ := folderPath_read file
  rw [run_makeFolderOf] at made
  refine folderThere_iff.mpr fun some => ?_
  rw [← steps] at some
  obtain ⟨count, length⟩ := Nat.exists_eq_add_one.mpr (List.length_pos_iff.mpr some)
  rw [length] at made
  have folder := isFolder_of_makeFoldersTo (Prod.ext (congrArg Prod.snd made) (congrArg Prod.fst made))
  rwa [List.take_of_length_le length.le] at folder

theorem FolderThere.mono (there : FolderThere file disk)
    (within : disk.tree.FoldersWithin other.tree) (here : other.here = disk.here) :
    FolderThere file other :=
  folderThere_iff.mpr fun some =>
    isFolder_of_foldersWithin within here (folderThere_iff.mp there some)

theorem foldersAdded_makeFolderOf (file : String) (disk : Disk) :
    FoldersAdded (disk.Reached (folderPath file)) disk
      ((makeFolderOf file : StateM Disk _).run disk).2 := by
  rw [run_makeFolderOf]
  exact foldersAdded_makeFoldersTo disk _ _

end Files

section Direct

/-- A direct path leads to where it starts, or to a name that is short enough. -/
theorem short_of_direct (direct : path.IsDirect) (located : disk.locate path = .ok place)
    (below : place ≠ disk.base path) :
    (place.getLast?.getD "").utf8ByteSize ≤ FileTree.maxNameBytes := by
  have led := locate_noUp direct.noUp located
  rcases List.eq_nil_or_concat (namesOf path.steps) with none | ⟨front, last, split⟩
  · rw [none, List.append_nil] at led
    exact absurd led below
  · rw [List.concat_eq_append] at split
    have member : last ∈ namesOf path.steps := by simp [split]
    obtain ⟨step, inside, named⟩ := List.mem_filterMap.mp member
    have short := direct step inside
    cases step with
    | name name =>
      cases named
      rw [led, split, ← List.append_assoc, List.getLast?_concat]
      exact short
    | here | up => cases named

theorem locate_eq_follow (some : path.steps ≠ []) (disk : Disk) :
    disk.locate path = disk.tree.follow (disk.base path) path.steps := by
  have notEmpty : path.steps.isEmpty = false := by simpa using some
  rw [locate, base, notEmpty]
  split <;> rfl

/-- The path of a file leads on from its folder. -/
theorem locate_of_isFolder {front : List Step} {step : Step} (steps : path.steps = front ++ [step])
    (direct : path.IsDirect) {ending : Ending}
    (folder : front ≠ [] → disk.isFolder ⟨path.absolute, front, ending⟩ = true) :
    ∃ place, disk.locate path = .ok place := by
  rw [locate_eq_follow (by rw [steps]; exact List.append_ne_nil_of_right_ne_nil _ (List.cons_ne_nil _ _)),
    steps]
  by_cases empty : front = []
  · rw [empty]
    exact FileTree.follow_single _ _ _
  · obtain ⟨above, located, stands⟩ := isFolder_iff.mp (folder empty)
    have inFront : ∀ step ∈ front, step.IsDirect := fun step member =>
      direct step (by rw [steps]; exact List.mem_append_left _ member)
    exact FileTree.follow_extend inFront (follow_of_locate located) stands step

theorem check_of_notFound (missing : disk.makeFolder path = .error .notFound) :
    check path.text = .ok () := by
  rw [makeFolder] at missing
  cases checked : check path.text with
  | ok _ => rfl
  | error fault =>
    rw [checked] at missing
    cases missing
    rw [check] at checked
    split at checked
    · cases checked
    · split at checked <;> cases checked

theorem makeFolder_of_ensureFolder (failed : disk.ensureFolder path = .error fault) :
    disk.makeFolder path = .error fault ∧ disk.isFolder path = false := by
  rw [ensureFolder] at failed
  split at failed
  · cases failed
  · rename_i made
    split at failed
    · cases failed
    · rename_i noFolder
      cases failed
      exact ⟨made, Bool.eq_false_iff.mpr noFolder⟩

/-- Where the folder above is made, the next one can be made as well, unless it could not have been
missing for the want of that one. -/
theorem ensureFolder_below (rooted : before.Rooted) (direct : path.IsDirect)
    (noDot : path.ending ≠ .dot) (added : FoldersAdded new before middle)
    (missing : before.ensureFolder path = .error .notFound)
    (reached : middle.locate path = .ok place) : ∃ after, middle.ensureFolder path = .ok after := by
  obtain ⟨unmade, _⟩ := makeFolder_of_ensureFolder missing
  have checked := check_of_notFound unmade
  have baseKept : middle.base path = before.base path := by simp only [base, added.here]
  cases there : middle.tree.node? place with
  | none =>
    have below : place ≠ middle.base path := by
      rintro rfl
      rw [baseKept, added.node_of_some (rooted.base path)] at there
      cases there
    have found : middle.tree.find place = .ok none :=
      FileTree.find_eq_ok_iff.mpr ⟨short_of_direct direct reached below, there⟩
    refine ⟨middle.put place .folder, ?_⟩
    have made : middle.makeFolder path = .ok (middle.put place .folder) := by
      simp only [makeFolder, checked, reached, found, bind, Except.bind]
    rw [ensureFolder, made]
  | some node =>
    cases node with
    | folder => exact ⟨middle, ensureFolder_of_isFolder (isFolder_iff.mpr ⟨place, reached, there⟩)⟩
    | file content =>
      -- A file that is in the way was in the way before, and that is another fault.
      have stood := added.file_iff.mp there
      have located := locate_before rooted.tree added.here direct.noUp reached
        (stood.trans there.symm) (by rw [stood]; exact Option.some_ne_none _)
      have below : place ≠ before.base path := by
        rintro rfl
        rw [rooted.base path] at stood
        cases stood
      have found := FileTree.find_eq_ok_iff.mpr ⟨short_of_direct direct located below, stood⟩
      simp only [makeFolder, checked, located, found, bind, Except.bind] at unmade
      split at unmade
      · cases unmade
      · exact absurd (by assumption) noDot
      · cases unmade
      · cases unmade

theorem part_direct (direct : path.IsDirect) (count : Nat) (ending : Ending) :
    Path.IsDirect ⟨path.absolute, path.steps.take count, ending⟩ :=
  fun step member => direct step (List.mem_of_mem_take member)

/-- Along a direct path folders that cannot all be made leave nothing behind. -/
theorem makeFoldersTo_failed (rooted : disk.Rooted) (direct : path.IsDirect)
    (dots : path.ending = .dot → path.steps.length ≤ 1) (within : count ≤ path.steps.length)
    (failed : disk.makeFoldersTo path count = (after, .error fault)) : after = disk := by
  induction count generalizing after fault with
  | zero => cases failed
  | succ count ih =>
    rw [makeFoldersTo] at failed
    split at failed
    · cases failed
    · rename_i missing
      split at failed
      · rename_i lower
        cases failed
        exact ih (by omega) lower
      · rename_i middle lower
        split at failed
        · cases failed
        · rename_i again
          cases failed
          cases count with
          | zero => exact (congrArg Prod.fst lower).symm
          | succ count =>
            -- The folder above was made, so that this one can be made as well.
            have added := foldersAdded_makeFoldersTo disk path (count + 1)
            rw [lower] at added
            have folder := isFolder_of_makeFoldersTo lower
            have partDirect := part_direct direct (count + 2)
              (if path.steps.length ≤ count + 1 + 1 then path.ending else .plain)
            have split : path.steps.take (count + 2) =
                path.steps.take (count + 1) ++ [path.steps[count + 1]] :=
              (List.take_concat_get' path.steps (count + 1) (by omega)).symm
            obtain ⟨place, reached⟩ := locate_of_isFolder split partDirect fun _ => folder
            have noDot : (if path.steps.length ≤ count + 1 + 1 then path.ending else .plain) ≠ .dot := by
              split
              · exact fun dotted => absurd (dots dotted) (by omega)
              · exact nofun
            obtain ⟨further, made⟩ := ensureFolder_below rooted partDirect noDot added missing reached
            rw [made] at again
            cases again
    · cases failed
      rfl

/-- What is read under a path depends on where it leads and on what is found there. -/
theorem read_congr (locates : other.locate (Path.ofText text) = disk.locate (Path.ofText text))
    (finds : ∀ place, disk.locate (Path.ofText text) = .ok place →
      other.tree.find place = disk.tree.find place) : other.read text = disk.read text := by
  cases located : disk.locate (Path.ofText text) with
  | error fault => simp only [read, locates, located, bind, Except.bind]
  | ok place => simp only [read, locates, located, finds place located, bind, Except.bind]

theorem find_congr (same : other.tree.node? place = disk.tree.node? place) :
    other.tree.find place = disk.tree.find place := by
  rw [FileTree.find, FileTree.find, same]

/-- Where a direct path leads once the folder of its file is made, there is what stood there. -/
theorem node_of_made (rooted : disk.Rooted) (direct : (Path.ofText file).IsDirect)
    (made : (makeFolderOf file : StateM Disk _).run disk = (.ok (), after))
    (located : after.locate (Path.ofText file) = .ok place) :
    after.tree.node? place = disk.tree.node? place := by
  obtain ⟨absolute, steps, _⟩ := folderPath_read file
  have added := foldersAdded_makeFolderOf file disk
  rw [made] at added
  rcases added.node place with same | ⟨absent, _, reached⟩
  · exact same
  · exact absurd reached (not_reached (Path.proper_ofText file) rooted added.here absolute steps
      direct.noUp located absent)

/-- Once the folder of a file is made, a direct path to the file leads somewhere. -/
theorem locate_of_made (direct : (Path.ofText file).IsDirect) (some : (Path.ofText file).steps ≠ [])
    (made : (makeFolderOf file : StateM Disk _).run disk = (.ok (), after)) :
    ∃ place, after.locate (Path.ofText file) = .ok place := by
  obtain ⟨absolute, steps, _⟩ := folderPath_read file
  obtain ⟨front, last, split⟩ := (List.eq_nil_or_concat (Path.ofText file).steps).resolve_left some
  rw [List.concat_eq_append] at split
  have folder : front ≠ [] →
      after.isFolder ⟨(Path.ofText file).absolute, front, (folderPath file).ending⟩ = true := by
    intro more
    rw [split, List.dropLast_concat] at steps
    have there := folderThere_iff.mp (folderThere_of_made made) (by rwa [split, List.dropLast_concat])
    rwa [show folderPath file = ⟨(Path.ofText file).absolute, front, (folderPath file).ending⟩ by
      rw [← absolute, ← steps]] at there
  exact locate_of_isFolder split direct folder

/-- Where a direct path led nowhere, there is nothing once the folder of its file is made. -/
theorem missing_of_made (rooted : disk.Rooted) (direct : (Path.ofText file).IsDirect)
    (some : (Path.ofText file).steps ≠ [])
    (made : (makeFolderOf file : StateM Disk _).run disk = (.ok (), after))
    (located : disk.locate (Path.ofText file) = .error fault) :
    fault = .notFound ∧
      ∃ place, after.locate (Path.ofText file) = .ok place ∧ after.tree.find place = .ok none := by
  have added := foldersAdded_makeFolderOf file disk
  rw [made] at added
  have baseKept : after.base (Path.ofText file) = disk.base (Path.ofText file) := by
    rw [base, base, show after.here = disk.here from added.here]
  obtain ⟨place, reached⟩ := locate_of_made direct some made
  have missing : fault = .notFound := by
    have failed := located
    rw [locate_eq_follow some] at failed
    have followed := follow_of_locate reached
    rw [baseKept] at followed
    refine FileTree.fault_of_follow (fun place => ?_) failed followed
    exact (added.node place).imp_right fun made => ⟨made.1, made.2.1⟩
  have absent : after.tree.node? place = none := by
    cases there : after.tree.node? place with
    | none => rfl
    | some node =>
      have stood := (node_of_made rooted direct made reached).symm.trans there
      have before := locate_before rooted.tree added.here direct.noUp reached
        (stood.trans there.symm) (by rw [stood]; exact Option.some_ne_none _)
      rw [located] at before
      cases before
  have below : place ≠ after.base (Path.ofText file) := by
    rintro rfl
    rw [baseKept, added.node_of_some (rooted.base _)] at absent
    cases absent
  exact ⟨missing, place, reached,
    FileTree.find_eq_ok_iff.mpr ⟨short_of_direct direct reached below, absent⟩⟩

/-- A file on a direct path is read as before once its folder is made. -/
theorem read_of_made (rooted : disk.Rooted) (direct : (Path.ofText file).IsDirect)
    (made : (makeFolderOf file : StateM Disk _).run disk = (.ok (), after)) :
    after.read file = disk.read file := by
  cases located : disk.locate (Path.ofText file) with
  | ok place =>
    have added := foldersAdded_makeFolderOf file disk
    rw [made] at added
    have locatedAfter := locate_of_foldersWithin added.foldersWithin added.here located
    refine read_congr (locatedAfter.trans located.symm) fun other same => ?_
    cases located.symm.trans same
    exact find_congr (node_of_made rooted direct made locatedAfter)
  | error fault =>
    by_cases none : (Path.ofText file).steps = []
    · -- Without a step there is no folder to make.
      have there : FolderThere file disk := folderThere_iff.mpr fun some => by simp [none] at some
      rw [show after = disk from congrArg Prod.snd (made.symm.trans there)]
    · obtain ⟨rfl, place, reached, found⟩ := missing_of_made rooted direct none made located
      simp only [read, reached, found, located, bind, Except.bind]

end Direct

end Disk

end ScannerConfig
