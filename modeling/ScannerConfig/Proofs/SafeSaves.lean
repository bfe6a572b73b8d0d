import ScannerConfig.Proofs.MadeFolders

namespace ScannerConfig

namespace Disk

variable {before after disk : Disk} {store text source target : String} {content : List UInt8}
  {place : Place} {new : Place → Prop}

/-- What a path leads to. -/
def nodeAt? (disk : Disk) (path : Path) : Option Node :=
  match disk.locate path with
  | .ok place => disk.tree.node? place
  | .error _ => none

theorem nodeAt?_eq_some_iff {path : Path} {node : Node} :
    disk.nodeAt? path = some node ↔
      ∃ place, disk.locate path = .ok place ∧ disk.tree.node? place = some node := by
  rw [nodeAt?]
  cases disk.locate path <;> simp

theorem read_eq_ok_iff :
    disk.read text = .ok content ↔
      check text = .ok () ∧ disk.HasFile (Path.ofText text) content ∧
        (Path.ofText text).ending = .plain := by
  constructor
  · intro read
    obtain ⟨_, checked, read⟩ := bind_ok read
    obtain ⟨place, located, read⟩ := bind_ok read
    obtain ⟨found, there, read⟩ := bind_ok read
    split at read
    · cases read
    · cases read
    · split at read
      · cases read
        exact ⟨checked, ⟨place, located, there⟩, by assumption⟩
      · cases read
  · rintro ⟨checked, has, plain⟩
    exact has.read checked plain

theorem locate_ne_other (disk : Disk) (path : Path) (message : String) :
    disk.locate path ≠ .error (.other message) := by
  rw [locate]
  split_ifs
  · exact FileTree.follow_ne_other _ _ _ _
  · rintro ⟨⟩
  · exact FileTree.follow_ne_other _ _ _ _

/-- On a disk all faults of reading are known ones. -/
theorem read_ne_other (disk : Disk) (text message : String) :
    disk.read text ≠ .error (.other message) := by
  intro failed
  rcases bind_error failed with checked | ⟨_, _, failed⟩
  · rw [check] at checked
    split_ifs at checked <;> cases checked
  rcases bind_error failed with located | ⟨place, _, failed⟩
  · exact locate_ne_other disk _ message located
  rcases bind_error failed with found | ⟨node, _, failed⟩
  · rw [FileTree.find] at found
    split_ifs at found
    cases found
  · split at failed
    · cases failed
    · cases failed
    · split_ifs at failed
      cases failed

theorem FoldersAdded.read (added : FoldersAdded new before after)
    (read : before.read text = .ok content) : after.read text = .ok content := by
  obtain ⟨checked, ⟨place, located, found⟩, plain⟩ := read_eq_ok_iff.mp read
  obtain ⟨short, there⟩ := FileTree.find_eq_ok_iff.mp found
  exact read_eq_ok_iff.mpr ⟨checked, ⟨place, locate_of_foldersWithin added.foldersWithin added.here located,
    FileTree.find_eq_ok_iff.mpr ⟨short, added.node_of_some there⟩⟩, plain⟩

/-- The temporary file of a store is never the store. -/
theorem temporary_apart {other : Place} (located : disk.locate (Path.ofText store) = .ok place)
    (beside : disk.locate (Path.ofText (FileStore.temporary store)) = .ok other) : place ≠ other := by
  have followed := follow_of_locate located
  have follows := follow_of_locate beside
  obtain ⟨absolute, steps⟩ := Path.ofText_temporary store
  have start : disk.base (Path.ofText (FileStore.temporary store)) =
      disk.base (Path.ofText store) := by simp only [base, absolute]
  rw [start] at follows
  rintro rfl
  rcases steps with ⟨folder, name, given, longer⟩ | ⟨noName, below⟩
  · rw [given] at followed
    rw [longer] at follows
    obtain ⟨_, first, second⟩ := FileTree.follow_siblings followed follows
    have same : name = name ++ ".tmp" := by
      have last := congrArg List.getLast? (first.symm.trans second)
      simpa only [List.getLast?_concat, Option.some.injEq] using last
    have length := congrArg (fun text : String => text.toList.length) same
    simp at length
  · rw [below] at follows
    have noLast : ∀ name, (Path.ofText store).steps.getLast? ≠ some (.name name) := by
      intro name last
      simp [Path.fileName?, last] at noName
    have deeper := congrArg List.length (FileTree.follow_below noLast followed follows)
    simp at deeper

/-- What a save may have done before it moves its file onto the store: folders are new, and a
file may stand where the path beside the store leads to. -/
structure Prepared (beside : Path) (new : Place → Prop) (before after : Disk) : Prop where
  here : after.here = before.here
  node : ∀ place, after.tree.node? place = before.tree.node? place ∨
    (before.tree.node? place = none ∧ after.tree.node? place = some .folder ∧ new place) ∨
      (after.locate beside = .ok place ∧ before.tree.node? place ≠ some .folder)

variable {beside : Path}

theorem FoldersAdded.prepared (added : FoldersAdded new before after) (beside : Path) :
    Prepared beside new before after :=
  ⟨added.here, fun place => (added.node place).imp_right .inl⟩

theorem Prepared.foldersWithin (prepared : Prepared beside new before after) :
    before.tree.FoldersWithin after.tree := by
  intro place folder
  rcases prepared.node place with kept | ⟨absent, _⟩ | ⟨_, noFolder⟩
  · exact kept.trans folder
  · rw [absent] at folder
    cases folder
  · exact absurd folder noFolder

theorem FoldersAdded.write (added : FoldersAdded new before disk)
    (ok : disk.write text content = .ok after) :
    Prepared (Path.ofText text) new before after := by
  obtain ⟨put, located, _, noFolder, rfl⟩ := write_ok ok
  have within : disk.tree.FoldersWithin (disk.put put (.file content)).tree :=
    FileTree.foldersWithin_put noFolder _
  refine ⟨added.here, fun place => ?_⟩
  by_cases here : put = place
  · subst here
    refine .inr (.inr ⟨locate_of_foldersWithin within rfl located, fun folder => ?_⟩)
    exact noFolder (added.node_of_some folder)
  · have kept : (disk.put put (.file content)).tree.node? place = disk.tree.node? place := by
      rw [Disk.put, FileTree.node?_put, if_neg here]
      split
      · rename_i root
        rw [root, FileTree.node?_root]
      · rfl
    rw [kept]
    exact (added.node place).imp_right .inl

/-- How a save that failed leaves its store: what stood there stands there as it was, and no other
file is touched, except for the temporary one. Where nothing stood, nothing does; only a path
with steps up can lead to something through the folders that were made. -/
structure Kept (store : String) (before after : Disk) : Prop where
  stands : ∀ node, before.nodeAt? (Path.ofText store) = some node →
    after.nodeAt? (Path.ofText store) = some node
  content : ∀ content, before.read store = .ok content → after.read store = .ok content
  nothing : .up ∉ (Path.ofText store).steps → before.nodeAt? (Path.ofText store) = none →
    after.nodeAt? (Path.ofText store) = none
  others : ∀ place, after.locate (Path.ofText (FileStore.temporary store)) ≠ .ok place →
    ∀ content, after.tree.node? place = some (.file content) ↔
      before.tree.node? place = some (.file content)

theorem Kept.refl (store : String) (disk : Disk) : Kept store disk disk :=
  ⟨fun _ => id, fun _ => id, fun _ => id, fun _ _ _ => Iff.rfl⟩

/-- Where something stands in a disk, a path that leads there when folders are added leads there
before. -/
theorem follow_before {tree other : FileTree} {start place : Place} {steps : List Step}
    (rooted : tree.Rooted) (noUp : .up ∉ steps) (followed : other.follow start steps = .ok place)
    (same : tree.node? place = other.node? place) (stands : tree.node? place ≠ none) :
    tree.follow start steps = .ok place := by
  induction steps generalizing start with
  | nil => exact followed
  | cons step rest ih =>
    obtain ⟨here, later⟩ := not_or.mp (mt List.mem_cons.mpr noUp)
    cases step with
    | here => exact ih later followed
    | up => exact absurd rfl here
    | name name =>
      by_cases more : rest = []
      · subst more
        exact followed
      · obtain ⟨found, onward⟩ := FileTree.follow_name_ok more followed
        obtain ⟨short, folder⟩ := FileTree.find_eq_ok_iff.mp found
        have through : tree.node? (start ++ [name]) = some .folder := by
          have split := FileTree.follow_noUp later onward
          by_cases last : namesOf rest = []
          · rw [last, List.append_nil] at split
            rw [← split, same, split, folder]
          · exact rooted.above last (split ▸ stands)
        rw [FileTree.follow_name_cons tree start name more,
          FileTree.find_eq_ok_iff.mpr ⟨short, through⟩]
        exact ih later onward

theorem locate_before (rooted : before.tree.Rooted) (here : after.here = before.here) {path : Path}
    (noUp : .up ∉ path.steps) (located : after.locate path = .ok place)
    (same : before.tree.node? place = after.tree.node? place)
    (stands : before.tree.node? place ≠ none) : before.locate path = .ok place := by
  rw [locate, here] at located
  rw [locate]
  split at located <;> rename_i absolute
  · rw [if_pos absolute]
    exact follow_before rooted noUp located same stands
  · split at located <;> rename_i empty
    · cases located
    · rw [if_neg absolute, if_neg empty]
      exact follow_before rooted noUp located same stands

/-- A path without steps up ends in a name or has no names at all. -/
theorem name_or_none {path : Path} (proper : path.Proper) (noUp : .up ∉ path.steps) :
    (∃ name, path.steps.getLast? = some (.name name)) ∨ namesOf path.steps = [] := by
  rcases List.eq_nil_or_concat path.steps with none | ⟨front, last, split⟩
  · exact .inr (by rw [none]; rfl)
  · rw [List.concat_eq_append] at split
    cases last with
    | name name => exact .inl ⟨name, by rw [split, List.getLast?_concat]⟩
    | up => exact absurd (by simp [split]) noUp
    | here =>
      have dots := proper.dots
      cases front with
      | nil => exact .inr (by rw [split]; rfl)
      | cons first front => simp [split] at dots

/-- A folder that was made for the folder of a file does not stand where the file is to stand. -/
theorem not_reached {path folder : Path} (proper : path.Proper) (rooted : before.Rooted)
    (here : after.here = before.here) (absolute : folder.absolute = path.absolute)
    (steps : folder.steps = path.steps.dropLast) (noUp : .up ∉ path.steps)
    (located : after.locate path = .ok place) (absent : before.tree.node? place = none) :
    ¬before.Reached folder place := by
  intro reached
  have start : before.base folder = before.base path := by simp only [base, absolute]
  have led := locate_noUp noUp located
  have same : after.base path = before.base path := by simp only [base, here]
  have above := reached fun up => noUp (List.mem_of_mem_dropLast (steps ▸ up))
  rw [same] at led
  rw [start, steps] at above
  rcases name_or_none proper noUp with ⟨name, last⟩ | none
  · obtain ⟨front, split⟩ := List.getLast?_eq_some_iff.mp last
    have deeper : (namesOf (front ++ [.name name])).length = (namesOf front).length + 1 := by
      simp [namesOf]
    rw [led, split, List.dropLast_concat, List.length_append, deeper] at above
    omega
  · rw [led, none, List.append_nil, rooted.base path] at absent
    cases absent

theorem Prepared.kept {folder : Path} (rooted : before.Rooted)
    (absolute : folder.absolute = (Path.ofText store).absolute)
    (steps : folder.steps = (Path.ofText store).steps.dropLast)
    (prepared : Prepared (Path.ofText (FileStore.temporary store)) (before.Reached folder) before after) :
    Kept store before after := by
  have within := prepared.foldersWithin
  have stands : ∀ place node, before.locate (Path.ofText store) = .ok place →
      before.tree.node? place = some node →
        after.locate (Path.ofText store) = .ok place ∧ after.tree.node? place = some node := by
    intro place node located there
    have locatedAfter := locate_of_foldersWithin within prepared.here located
    refine ⟨locatedAfter, ?_⟩
    rcases prepared.node place with kept | ⟨absent, _⟩ | ⟨temporary, _⟩
    · exact kept.trans there
    · rw [absent] at there
      cases there
    · exact absurd rfl (temporary_apart locatedAfter temporary)
  refine ⟨fun node found => ?_, fun content read => ?_, fun noUp nothing => ?_, fun place apart content => ?_⟩
  · obtain ⟨place, located, there⟩ := nodeAt?_eq_some_iff.mp found
    exact nodeAt?_eq_some_iff.mpr ⟨place, stands place node located there⟩
  · obtain ⟨checked, ⟨place, located, found⟩, plain⟩ := read_eq_ok_iff.mp read
    obtain ⟨short, there⟩ := FileTree.find_eq_ok_iff.mp found
    obtain ⟨locatedAfter, thereAfter⟩ := stands place _ located there
    exact read_eq_ok_iff.mpr ⟨checked, ⟨place, locatedAfter,
      FileTree.find_eq_ok_iff.mpr ⟨short, thereAfter⟩⟩, plain⟩
  · cases found : after.nodeAt? (Path.ofText store) with
    | none => rfl
    | some node =>
      obtain ⟨place, located, there⟩ := nodeAt?_eq_some_iff.mp found
      rcases prepared.node place with kept | ⟨absent, _, reached⟩ | ⟨temporary, _⟩
      · rw [there] at kept
        have before := locate_before rooted.tree prepared.here noUp located (kept.symm.trans there.symm)
          (by rw [← kept]; exact Option.some_ne_none _)
        rw [nodeAt?_eq_some_iff.mpr ⟨place, before, kept.symm⟩] at nothing
        cases nothing
      · exact absurd reached (not_reached (Path.proper_ofText store) rooted prepared.here absolute
          steps noUp located absent)
      · exact absurd rfl (temporary_apart located temporary)
  · rcases prepared.node place with kept | ⟨absent, folder, _⟩ | ⟨temporary, _⟩
    · rw [kept]
    · simp [absent, folder]
    · exact absurd temporary apart

/-- A file that was moved onto a store is no longer found beside it. -/
theorem read_temporary_of_rename
    (has : disk.HasFile (Path.ofText (FileStore.temporary store)) content)
    (ok : disk.rename (FileStore.temporary store) store = .ok after) :
    after.read (FileStore.temporary store) = .error .notFound := by
  obtain ⟨origin, place, moved, move⟩ := rename_ok ok
  have short : (origin.getLast?.getD "").utf8ByteSize ≤ FileTree.maxNameBytes := by
    obtain ⟨there, locatedThere, found⟩ := has
    cases locatedThere.symm.trans move.leaves
    exact (FileTree.find_eq_ok_iff.mp found).1
  have noRoot : origin ≠ [] := by
    rintro rfl
    cases (FileTree.node?_root _).symm.trans move.file
  have within := move.keeps.trans (FileTree.foldersWithin_put move.free (.file moved))
  have still : Disk.locate ⟨(disk.tree.remove origin).put place (.file moved), disk.here⟩
      (Path.ofText (FileStore.temporary store)) = .ok origin :=
    locate_of_foldersWithin within rfl move.leaves
  have gone : FileTree.find ((disk.tree.remove origin).put place (.file moved)) origin = .ok none := by
    rw [FileTree.find_eq_ok_iff, FileTree.node?_put, if_neg noRoot,
      if_neg (temporary_apart move.arrives move.leaves), FileTree.node?_remove, if_neg noRoot,
      if_pos rfl]
    exact ⟨short, rfl⟩
  rw [Disk.read, move.checkedSource, move.becomes]
  simp [still, gone, bind, Except.bind]

end Disk

section Dependable

variable {σ : Type}

/-- Files whose steps do what the steps of a disk do, or fail. What fails may have come some of
the way: folders may be made, and a file may be written in part; but a move that fails has no
effect, and reading has none at all. -/
structure Dependable [Files (StateM σ)] (disk : σ → Disk) : Prop where
  read : ∀ text start, let run := (Files.read text : StateM σ _).run start
    disk run.2 = disk start ∧ ∀ bytes, run.1 = .ok bytes → (disk start).read text = .ok bytes
  makeFolders : ∀ text start, let run := (Files.makeFolders text : StateM σ _).run start
    ∃ count, disk run.2 = ((disk start).makeFoldersTo (Path.ofText text) count).1
  write : ∀ text content start, let run := (Files.write text content : StateM σ _).run start
    (run.1 = .ok () → (disk start).write text content = .ok (disk run.2)) ∧
      (disk run.2 = disk start ∨ ∃ part, (disk start).write text part = .ok (disk run.2))
  rename : ∀ source target start, let run := (Files.rename source target : StateM σ _).run start
    (run.1 = .ok () → (disk start).rename source target = .ok (disk run.2)) ∧
      ∀ fault, run.1 = .error fault → disk run.2 = disk start

theorem dependable_disk : Dependable (fun disk : Disk => disk) where
  read text start := ⟨rfl, fun _ ok => ok⟩
  makeFolders text start := ⟨(Path.ofText text).steps.length, rfl⟩
  write text content start := by
    dsimp only
    rw [Disk.run_write]
    cases taken : start.write text content with
    | ok after => exact ⟨fun _ => rfl, .inr ⟨content, taken⟩⟩
    | error fault => exact ⟨nofun, .inl rfl⟩
  rename source target start := by
    dsimp only
    rw [Disk.run_rename]
    cases taken : start.rename source target with
    | ok after => exact ⟨fun _ => rfl, nofun⟩
    | error fault => exact ⟨nofun, fun _ _ => rfl⟩

variable [Files (StateM σ)] {disk : σ → Disk} {start : σ}

theorem Dependable.foldersAdded (dependable : Dependable disk) (text : String) (start : σ) :
    Disk.FoldersAdded ((disk start).Reached (Path.ofText text)) (disk start)
      (disk ((Files.makeFolders text : StateM σ _).run start).2) := by
  obtain ⟨count, made⟩ := dependable.makeFolders text start
  rw [made]
  exact Disk.foldersAdded_makeFoldersTo _ _ count

/-- Making the folder of a file makes no more than that folder and those above it. -/
theorem Dependable.made (dependable : Dependable disk) (start : σ) (store : String) :
    ∃ folder : Path, folder.absolute = (Path.ofText store).absolute ∧
      folder.steps = (Path.ofText store).steps.dropLast ∧
        Disk.FoldersAdded ((disk start).Reached folder) (disk start)
          (disk ((makeFolderOf store : StateM σ _).run start).2) := by
  cases parent : (Path.ofText store).parent? with
  | none =>
    rw [makeFolderOf, parent]
    refine ⟨⟨(Path.ofText store).absolute, (Path.ofText store).steps.dropLast, .plain⟩, rfl, rfl, ?_⟩
    exact .refl _ _
  | some folder =>
    rw [makeFolderOf, parent]
    have given : folder = ⟨(Path.ofText store).absolute, (Path.ofText store).steps.dropLast, .plain⟩ := by
      rw [Path.parent?] at parent
      split at parent
      · cases parent
      · exact (Option.some.inj parent).symm
    obtain ⟨absolute, steps, _⟩ := ((Path.proper_ofText store).dropLast .plain).ofText_text
    exact ⟨Path.ofText folder.text, by rw [given, absolute], by rw [given, steps],
      dependable.foldersAdded folder.text start⟩

/-- The steps of a save that replaces what is stored. -/
theorem FileStore.run_save (store : String) (document : Json) (start : σ) :
    (FileStore.save (m := StateM σ) store document .replace).run start =
      match (makeFolderOf store : StateM σ _).run start with
      | (.error fault, middle) => (.error (.file fault), middle)
      | (.ok _, middle) =>
        match (Files.write (FileStore.temporary store) (Utf8.encode document.pretty.toList) :
            StateM σ _).run middle with
        | (.error fault, written) => (.error (.file fault), written)
        | (.ok _, written) =>
          let moving := (Files.rename (FileStore.temporary store) store : StateM σ _).run written
          (moving.1.mapError .file, moving.2) := by
  have unfolded : (FileStore.save (m := StateM σ) store document .replace).run start =
      (FileStore.onFiles (m := StateM σ) (makeFolderOf store) >>= fun _ =>
        FileStore.onFiles (Files.write (FileStore.temporary store)
          (Utf8.encode document.pretty.toList)) >>= fun _ =>
            FileStore.onFiles (Files.rename (FileStore.temporary store) store)).run start := rfl
  rw [unfolded, run_bind, FileStore.run_onFiles]
  rcases (makeFolderOf store : StateM σ _).run start with ⟨_ | _, middle⟩
  · rfl
  · simp only [Except.mapError, run_bind, FileStore.run_onFiles]
    rcases (Files.write (FileStore.temporary store) (Utf8.encode document.pretty.toList) :
      StateM σ _).run middle with ⟨_ | _, written⟩ <;> rfl

/-- A save that succeeds leaves the whole text of the document in the store and no temporary
file. -/
theorem Dependable.stored (dependable : Dependable disk) (start : σ) (store : String)
    (document : Json) :
    let run := (FileStore.save (m := StateM σ) store document .replace).run start
    run.1 = .ok () →
      (disk run.2).read store = .ok (Utf8.encode document.pretty.toList) ∧
        (disk run.2).read (FileStore.temporary store) = .error .notFound := by
  dsimp only
  rw [FileStore.run_save]
  rcases (makeFolderOf store : StateM σ _).run start with ⟨fault | _, middle⟩
  · exact nofun
  · dsimp only
    obtain ⟨writes, _⟩ :=
      dependable.write (FileStore.temporary store) (Utf8.encode document.pretty.toList) middle
    generalize (Files.write (FileStore.temporary store)
      (Utf8.encode document.pretty.toList) : StateM σ _).run middle = writing at writes ⊢
    obtain ⟨fault | _, written⟩ := writing
    · exact nofun
    · obtain ⟨moves, _⟩ := dependable.rename (FileStore.temporary store) store written
      have has := Disk.hasFile_of_write (writes rfl)
      dsimp only
      generalize (Files.rename (FileStore.temporary store) store : StateM σ _).run written = moving
        at moves ⊢
      obtain ⟨fault | _, final⟩ := moving
      · exact nofun
      · exact fun _ => ⟨Disk.read_of_rename has (moves rfl),
          Disk.read_temporary_of_rename has (moves rfl)⟩

/-- A save to a store replaces it by the whole text of the document, with no temporary file left,
or fails and leaves it as it was. -/
theorem Dependable.save (dependable : Dependable disk) (rooted : (disk start).Rooted) (store : String)
    (document : Json) :
    let run := (FileStore.save (m := StateM σ) store document .replace).run start
    (run.1 = .ok () →
      (disk run.2).read store = .ok (Utf8.encode document.pretty.toList) ∧
        (disk run.2).read (FileStore.temporary store) = .error .notFound) ∧
      ∀ fault, run.1 = .error fault → Disk.Kept store (disk start) (disk run.2) := by
  obtain ⟨folder, absolute, steps, made⟩ := dependable.made start store
  refine ⟨dependable.stored start store document, ?_⟩
  rw [FileStore.run_save]
  generalize prepared : (makeFolderOf store : StateM σ _).run start = preparation at made ⊢
  obtain ⟨result, middle⟩ := preparation
  cases result with
  | error fault => exact fun _ _ => (made.prepared _).kept rooted absolute steps
  | ok _ =>
    dsimp only
    have partly :=
      (dependable.write (FileStore.temporary store) (Utf8.encode document.pretty.toList) middle).2
    have keeps : ∀ {after : Disk}, (after = disk middle ∨
        ∃ part, (disk middle).write (FileStore.temporary store) part = .ok after) →
          Disk.Kept store (disk start) after := by
      rintro after (rfl | ⟨part, wrote⟩)
      · exact (made.prepared _).kept rooted absolute steps
      · exact (made.write wrote).kept rooted absolute steps
    generalize (Files.write (FileStore.temporary store)
      (Utf8.encode document.pretty.toList) : StateM σ _).run middle = writing at partly ⊢
    obtain ⟨result, written⟩ := writing
    cases result with
    | error fault => exact fun _ _ => keeps partly
    | ok _ =>
      obtain ⟨_, unmoved⟩ := dependable.rename (FileStore.temporary store) store written
      dsimp only
      generalize (Files.rename (FileStore.temporary store) store : StateM σ _).run written = moving
        at unmoved ⊢
      obtain ⟨result, final⟩ := moving
      cases result with
      | error fault =>
        intro _ _
        rw [show disk final = disk written from unmoved fault rfl]
        exact keeps partly
      | ok _ => exact nofun

end Dependable

namespace FileStore

variable {disk middle : Disk} {store : String}

/-- A save whose temporary file cannot be written leaves the folders that it made. -/
theorem save_unwritten (document : Json)
    (made : (makeFolderOf store : StateM Disk _).run disk = (.ok (), middle))
    (unwritten : ∀ content after, middle.write (temporary store) content ≠ .ok after) :
    ∃ fault, (save (m := StateM Disk) store document .replace).run disk =
      (.error fault, middle) := by
  rw [run_save, made]
  dsimp only
  rw [Disk.run_write]
  cases wrote : middle.write (temporary store) (Utf8.encode document.pretty.toList) with
  | ok after => exact absurd wrote (unwritten _ after)
  | error fault => exact ⟨_, rfl⟩

/-- A save whose steps all succeed. -/
theorem save_done {document : Json} {written final : Disk}
    (made : (makeFolderOf store : StateM Disk _).run disk = (.ok (), middle))
    (wrote : middle.write (temporary store) (Utf8.encode document.pretty.toList) = .ok written)
    (moved : written.rename (temporary store) store = .ok final) :
    (save (m := StateM Disk) store document .replace).run disk = (.ok (), final) := by
  rw [run_save, made]
  dsimp only
  rw [Disk.run_write, wrote]
  dsimp only
  rw [Disk.run_rename, moved]
  rfl

end FileStore

end ScannerConfig
