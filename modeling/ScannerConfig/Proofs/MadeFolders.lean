import ScannerConfig.Proofs.FileReplacement
import ScannerConfig.Proofs.PathText

namespace ScannerConfig

/-- The names among some steps. -/
def namesOf (steps : List Step) : List String :=
  steps.filterMap fun
    | .name name => some name
    | _ => none

theorem length_namesOf_take (steps : List Step) (count : Nat) :
    (namesOf (steps.take count)).length ≤ (namesOf steps).length :=
  ((List.take_sublist count steps).filterMap _).length_le

namespace FileTree

variable {tree other : FileTree} {start place sibling : Place} {steps : List Step} {name : String}

theorem follow_name_cons (tree : FileTree) (start : Place) (name : String) {rest : List Step}
    (more : rest ≠ []) :
    tree.follow start (.name name :: rest) =
      match tree.find (start ++ [name]) with
      | .error fault => .error fault
      | .ok none => .error .notFound
      | .ok (some (.file _)) => .error .notAFolder
      | .ok (some .folder) => tree.follow (start ++ [name]) rest := by
  cases rest with
  | nil => exact absurd rfl more
  | cons next rest => rfl

/-- Following a name on the way leads into a folder. -/
theorem follow_name_ok {rest : List Step} (more : rest ≠ [])
    (followed : tree.follow start (.name name :: rest) = .ok place) :
    tree.find (start ++ [name]) = .ok (some .folder) ∧ tree.follow (start ++ [name]) rest = .ok place := by
  rw [follow_name_cons tree start name more] at followed
  split at followed
  · cases followed
  · cases followed
  · cases followed
  · exact ⟨by assumption, followed⟩

theorem follow_ne_other (tree : FileTree) (start : Place) (steps : List Step) (message : String) :
    tree.follow start steps ≠ .error (.other message) := by
  induction steps generalizing start with
  | nil => rintro ⟨⟩
  | cons step rest ih =>
    cases step with
    | here => exact ih start
    | up => exact ih start.dropLast
    | name name =>
      by_cases last : rest = []
      · subst last
        rintro ⟨⟩
      · rw [follow_name_cons tree start name last, find]
        split_ifs
        · rintro ⟨⟩
        · rcases tree.node? (start ++ [name]) with _ | ⟨_ | _⟩
          · rintro ⟨⟩
          · rintro ⟨⟩
          · exact ih (start ++ [name])

/-- Without steps up a path leads through its names. -/
theorem follow_noUp (noUp : .up ∉ steps) (followed : tree.follow start steps = .ok place) :
    place = start ++ namesOf steps := by
  induction steps generalizing start with
  | nil =>
    cases followed
    exact (List.append_nil _).symm
  | cons step rest ih =>
    obtain ⟨here, later⟩ := not_or.mp (mt List.mem_cons.mpr noUp)
    cases step with
    | here => exact ih later followed
    | up => exact absurd rfl here
    | name name =>
      by_cases more : rest = []
      · subst more
        exact (Except.ok.inj followed).symm
      · rw [ih later (follow_name_ok more followed).2, List.append_assoc]
        rfl

/-- Two names in one folder. -/
theorem follow_siblings {first second : String}
    (followed : tree.follow start (steps ++ [.name first]) = .ok place)
    (beside : tree.follow start (steps ++ [.name second]) = .ok sibling) :
    ∃ folder, place = folder ++ [first] ∧ sibling = folder ++ [second] := by
  induction steps generalizing start with
  | nil => exact ⟨start, (Except.ok.inj followed).symm, (Except.ok.inj beside).symm⟩
  | cons step rest ih =>
    have more : ∀ name, rest ++ [Step.name name] ≠ [] := fun _ => List.append_ne_nil_of_right_ne_nil _ (List.cons_ne_nil _ _)
    cases step with
    | here => exact ih followed beside
    | up => exact ih followed beside
    | name name =>
      exact ih (follow_name_ok (more first) followed).2 (follow_name_ok (more second) beside).2

/-- A name behind a path that does not end in a name stands in what the path leads to. -/
theorem follow_below (noName : ∀ name, steps.getLast? ≠ some (.name name))
    (followed : tree.follow start steps = .ok place)
    (below : tree.follow start (steps ++ [.name name]) = .ok sibling) :
    sibling = place ++ [name] := by
  induction steps generalizing start with
  | nil =>
    cases followed
    exact (Except.ok.inj below).symm
  | cons step rest ih =>
    cases rest with
    | nil =>
      cases step with
      | name other => exact absurd rfl (noName other)
      | _ =>
        cases followed
        exact (Except.ok.inj below).symm
    | cons next rest =>
      have later : ∀ name, (next :: rest).getLast? ≠ some (.name name) := by
        simpa using noName
      cases step with
      | here => exact ih later followed below
      | up => exact ih later followed below
      | name other =>
        exact ih later (follow_name_ok (List.cons_ne_nil _ _) followed).2
          (follow_name_ok (List.cons_ne_nil _ _) below).2

/-- Every file and folder stands in a folder. -/
def Rooted (tree : FileTree) : Prop :=
  ∀ (place : Place) (name : String), tree.node? (place ++ [name]) ≠ none → tree.node? place = some .folder

theorem mem_of_node? {node : Node} (found : tree.node? place = some node) (below : place ≠ []) :
    (place, node) ∈ tree := by
  obtain ⟨first, names, rfl⟩ := List.exists_cons_of_ne_nil below
  induction tree with
  | nil => cases found
  | cons entry rest ih =>
    obtain ⟨there, old⟩ := entry
    rw [node?.eq_3 _ _ _ _ (List.cons_ne_nil _ _)] at found
    split at found
    · rename_i same
      cases found
      rw [same]
      exact List.mem_cons_self
    · exact List.mem_cons_of_mem _ (ih found)

theorem rooted_of_entries (inFolders : ∀ entry ∈ tree, tree.node? entry.1.dropLast = some .folder) :
    tree.Rooted := by
  intro place name stands
  obtain ⟨node, found⟩ := Option.ne_none_iff_exists'.mp stands
  have entry := mem_of_node? found (List.append_ne_nil_of_right_ne_nil _ (List.cons_ne_nil _ _))
  have folder := inFolders _ entry
  rwa [List.dropLast_concat] at folder

theorem Rooted.above (rooted : tree.Rooted) {names : List String} (below : names ≠ [])
    (stands : tree.node? (place ++ names) ≠ none) : tree.node? place = some .folder := by
  induction names using List.reverseRecOn with
  | nil => exact absurd rfl below
  | append_singleton names name ih =>
    rw [← List.append_assoc] at stands
    have folder := rooted _ _ stands
    by_cases more : names = []
    · rwa [more, List.append_nil] at folder
    · exact ih more (by rw [folder]; exact Option.some_ne_none _)

end FileTree

namespace Disk

variable {before middle after : Disk} {path part : Path} {new later : Place → Prop} {place : Place}

/-- Every file and folder of a disk stands in a folder, and paths start from a folder. -/
structure Rooted (disk : Disk) : Prop where
  tree : disk.tree.Rooted
  here : disk.tree.node? disk.here = some .folder

/-- Some folders are new, and all else is as it was. -/
structure FoldersAdded (new : Place → Prop) (before after : Disk) : Prop where
  here : after.here = before.here
  node : ∀ place, after.tree.node? place = before.tree.node? place ∨
    before.tree.node? place = none ∧ after.tree.node? place = some .folder ∧ new place

theorem FoldersAdded.refl (new : Place → Prop) (disk : Disk) : FoldersAdded new disk disk :=
  ⟨rfl, fun _ => .inl rfl⟩

theorem FoldersAdded.trans (first : FoldersAdded new before middle)
    (second : FoldersAdded new middle after) : FoldersAdded new before after := by
  refine ⟨second.here.trans first.here, fun place => ?_⟩
  rcases second.node place with kept | ⟨absent, folder, fresh⟩
  · rcases first.node place with same | ⟨absent, folder, fresh⟩
    · exact .inl (kept.trans same)
    · exact .inr ⟨absent, kept.trans folder, fresh⟩
  · rcases first.node place with same | ⟨_, there, _⟩
    · exact .inr ⟨same ▸ absent, folder, fresh⟩
    · rw [there] at absent
      cases absent

theorem FoldersAdded.mono (added : FoldersAdded new before after)
    (weaker : ∀ place, new place → later place) : FoldersAdded later before after :=
  ⟨added.here, fun place => (added.node place).imp_right fun ⟨absent, folder, fresh⟩ =>
    ⟨absent, folder, weaker place fresh⟩⟩

theorem FoldersAdded.node_of_some (added : FoldersAdded new before after) {node : Node}
    (stands : before.tree.node? place = some node) : after.tree.node? place = some node := by
  rcases added.node place with kept | ⟨absent, _⟩
  · exact kept.trans stands
  · rw [absent] at stands
    cases stands

theorem FoldersAdded.file_iff (added : FoldersAdded new before after) {content : List UInt8} :
    after.tree.node? place = some (.file content) ↔ before.tree.node? place = some (.file content) := by
  refine ⟨fun file => ?_, added.node_of_some⟩
  rcases added.node place with kept | ⟨_, folder, _⟩
  · exact kept.symm.trans file
  · rw [folder] at file
    cases file

theorem FoldersAdded.foldersWithin (added : FoldersAdded new before after) :
    before.tree.FoldersWithin after.tree :=
  fun _ folder => added.node_of_some folder

theorem foldersAdded_put (absent : before.tree.node? place = none) (fresh : new place) :
    FoldersAdded new before (before.put place .folder) := by
  refine ⟨rfl, fun asked => ?_⟩
  rw [put, FileTree.node?_put]
  split
  · rename_i root
    exact .inl (by rw [root, FileTree.node?_root])
  · split
    · rename_i same
      subst same
      exact .inr ⟨absent, rfl, fresh⟩
    · exact .inl rfl

/-- The folder where a path starts. -/
def base (disk : Disk) (path : Path) : Place :=
  if path.absolute then [] else disk.here

theorem Rooted.base (rooted : before.Rooted) (path : Path) :
    before.tree.node? (before.base path) = some .folder := by
  rw [Disk.base]
  split
  · exact FileTree.node?_root _
  · exact rooted.here

theorem follow_of_locate (located : before.locate path = .ok place) :
    before.tree.follow (before.base path) path.steps = .ok place := by
  rw [locate] at located
  rw [base]
  split at located <;> rename_i absolute
  · rwa [if_pos absolute]
  · rw [if_neg absolute]
    split at located
    · cases located
    · exact located

/-- A place that a path without steps up can lead to is no deeper than its names. -/
def Reached (disk : Disk) (path : Path) (place : Place) : Prop :=
  .up ∉ path.steps → place.length ≤ (disk.base path).length + (namesOf path.steps).length

/-- What stands where a path without steps up leads is as deep as the path has names. -/
theorem locate_noUp (noUp : .up ∉ path.steps) (located : before.locate path = .ok place) :
    place = before.base path ++ namesOf path.steps :=
  FileTree.follow_noUp noUp (follow_of_locate located)

theorem reached_of_locate (located : before.locate path = .ok place) : before.Reached path place := by
  intro noUp
  rw [locate_noUp noUp located, List.length_append]

/-- A folder is made where its path leads to and nothing stands. -/
theorem makeFolder_ok (ok : before.makeFolder path = .ok after) :
    ∃ place, before.locate path = .ok place ∧ before.tree.node? place = none ∧
      after = before.put place .folder := by
  obtain ⟨_, _, ok⟩ := bind_ok ok
  obtain ⟨place, located, ok⟩ := bind_ok ok
  obtain ⟨found, there, ok⟩ := bind_ok ok
  have node := (FileTree.find_eq_ok_iff.mp there).2
  split at ok
  · cases ok
  · cases ok
  · cases ok
  · cases ok
    exact ⟨place, located, node, rfl⟩

theorem foldersAdded_makeFolder (ok : before.makeFolder path = .ok after) :
    FoldersAdded (before.Reached path) before after := by
  obtain ⟨place, located, absent, rfl⟩ := makeFolder_ok ok
  exact foldersAdded_put absent (reached_of_locate located)

theorem foldersAdded_ensureFolder (ok : before.ensureFolder path = .ok after) :
    FoldersAdded (before.Reached path) before after := by
  rw [ensureFolder] at ok
  split at ok
  · rename_i made
    cases ok
    exact foldersAdded_makeFolder made
  · split at ok
    · cases ok
      exact .refl _ _
    · cases ok

/-- Folders for the first steps of a path are folders for the path. -/
theorem reached_take (same : after.here = before.here) (absolute : part.absolute = path.absolute)
    {count : Nat} (steps : part.steps = path.steps.take count) (reached : after.Reached part place) :
    before.Reached path place := by
  intro noUp
  have shorter := length_namesOf_take path.steps count
  have deep := reached fun up => noUp (List.mem_of_mem_take (steps ▸ up))
  have start : after.base part = before.base path := by simp only [base, absolute, same]
  rw [steps, start] at deep
  omega

/-- Whether or not all folders of a path could be made, only folders are new. -/
theorem foldersAdded_makeFoldersTo (disk : Disk) (path : Path) (count : Nat) :
    FoldersAdded (disk.Reached path) disk (disk.makeFoldersTo path count).1 := by
  have ensured : ∀ {before after : Disk} {ending : Ending} {count : Nat}, before.here = disk.here →
      before.ensureFolder ⟨path.absolute, path.steps.take count, ending⟩ = .ok after →
        FoldersAdded (disk.Reached path) before after :=
    fun same ok => (foldersAdded_ensureFolder ok).mono fun _ => reached_take same rfl rfl
  induction count with
  | zero => exact .refl _ _
  | succ count ih =>
    rw [makeFoldersTo]
    split
    · rename_i ok
      exact ensured rfl ok
    · split
      · rename_i run
        rwa [run] at ih
      · rename_i run
        rw [run] at ih
        split
        · rename_i ok
          exact ih.trans (ensured ih.here ok)
        · exact ih
    · exact .refl _ _

end Disk

end ScannerConfig
