import Mathlib
import ScannerConfig.Proofs.BrokenWrites
import ScannerConfig.Proofs.JsonText
import ScannerConfig.Proofs.ParsedKeys
import ScannerConfig.Proofs.Requests
import ScannerConfig.Proofs.SavedRuns
import ScannerConfig.Proofs.SharedRendering

namespace ScannerConfig

theorem Act.runs_exportFile {σ : Type} [Files (StateM σ)] (around : Surroundings) (flags : GlobalFlags)
    (folder : Option String) (dataUri : Bool) (start : σ) :
    (exportFile (m := StateM σ) around flags folder dataUri).runs [] start =
      let ready := ((Preferences.current around.environment : StateM σ Preferences).run start).2
      match target flags (found around start) (Preferences.settingsPath around.environment) with
      | .error failure => ((.error failure, []), ready)
      | .ok goal =>
        match (FileStore.load (m := StateM σ) goal.store).run ready with
        | (.error fault, loaded) => ((.error (.ofFault fault), []), loaded)
        | (.ok document, loaded) =>
          let file := ExportFile.ofDocument document around.seconds
          let logged := [Message.log (.exported file.name file.bytes.length)]
          if dataUri then ((.ok (), logged ++ [.output file.dataUri]), loaded)
          else
            let folder := folder.getD goal.folder
            let path := joinPath folder file.name
            match (Files.makeFolders folder : StateM σ _).run loaded with
            | (.error fault, made) => ((.error (.file fault), logged), made)
            | (.ok _, made) =>
              match (Files.write path file.bytes : StateM σ _).run made with
              | (.error fault, written) => ((.error (.file fault), logged), written)
              | (.ok _, written) =>
                ((.ok (), logged ++ [.success ("Exported " ++ path ++ " (" ++ ExportFile.mime ++ ")"),
                  .output path]), written) := by
  rw [exportFile, runs_preferences_bind]
  dsimp only
  rw [runs_bind, runs_ofExcept]
  cases target flags (found around start) (Preferences.settingsPath around.environment) with
  | error failure => rfl
  | ok goal =>
    dsimp only
    rw [runs_bind, runs_onStore]
    rcases (FileStore.load (m := StateM σ) goal.store).run
      ((Preferences.current around.environment : StateM σ Preferences).run start).2 with
      ⟨fault | document, loaded⟩
    · rfl
    · cases dataUri with
      | true => rfl
      | false =>
        have logged : ∀ entry : LogEntry, (tell (m := StateM σ) (.log entry)).runs [] loaded =
            ((.ok (), [.log entry]), loaded) := fun _ => rfl
        dsimp only [Except.mapError]
        rw [runs_bind, logged]
        simp only [Bool.false_eq_true, if_false]
        rw [runs_bind, runs_onFiles]
        rcases (Files.makeFolders (folder.getD goal.folder) : StateM σ _).run loaded with
          ⟨fault | _, made⟩
        · rfl
        · dsimp only [Except.mapError]
          rw [runs_bind, runs_onFiles]
          rcases (Files.write (joinPath (folder.getD goal.folder)
            (ExportFile.ofDocument document around.seconds).name)
              (ExportFile.ofDocument document around.seconds).bytes : StateM σ _).run made with
            ⟨fault | _, written⟩
          · rfl
          · rfl

namespace Disk

variable {before middle after disk : Disk} {path store : String} {bytes content : List UInt8}
  {new : Place → Prop}

/-- Both texts lead to the same place. -/
def SamePlace (disk : Disk) (path store : String) : Prop :=
  ∃ place, disk.locate (Path.ofText path) = .ok place ∧ disk.locate (Path.ofText store) = .ok place

/-- A write leaves what is read under any path as it was, or the path leads to what was written. -/
theorem read_after_write (read : disk.read store = .ok bytes)
    (wrote : disk.write path content = .ok after) :
    after.read store = .ok bytes ∨ after.SamePlace path store ∧ after.read store = .ok content := by
  obtain ⟨checked, ⟨place, located, found⟩, plain⟩ := read_eq_ok_iff.mp read
  obtain ⟨short, stood⟩ := FileTree.find_eq_ok_iff.mp found
  obtain ⟨written, reached, _, free, rfl⟩ := write_ok wrote
  have within : disk.tree.FoldersWithin (disk.put written (.file content)).tree :=
    FileTree.foldersWithin_put free _
  have still := locate_of_foldersWithin within rfl located
  have reads : ∀ {text}, (disk.put written (.file content)).tree.node? place = some (.file text) →
      (disk.put written (.file content)).read store = .ok text := by
    intro text stands
    exact read_eq_ok_iff.mpr ⟨checked, ⟨place, still, FileTree.find_eq_ok_iff.mpr ⟨short, stands⟩⟩, plain⟩
  have noRoot : place ≠ [] := by
    rintro rfl
    rw [FileTree.node?_root] at stood
    cases stood
  by_cases same : written = place
  · subst same
    refine .inr ⟨⟨written, locate_of_foldersWithin within rfl reached, still⟩, reads ?_⟩
    rw [put, FileTree.node?_put, if_neg noRoot, if_pos rfl]
  · refine .inl (reads ?_)
    rw [put, FileTree.node?_put, if_neg noRoot, if_neg same, stood]

end Disk

/-- What is loaded from a file that is there was read from its bytes. -/
theorem FileStore.read_of_load {store : String} {disk : Disk} {document : Json}
    (stands : disk.read store ≠ .error .notFound)
    (loaded : ((load (m := StateM Disk) store).run disk).1 = .ok document) :
    ∃ bytes, disk.read store = .ok bytes ∧ Json.parse bytes = .ok document := by
  rw [run_load] at loaded
  generalize disk.read store = found at stands loaded ⊢
  cases found with
  | error fault =>
    cases fault with
    | notFound => exact absurd rfl stands
    | _ => cases loaded
  | ok bytes => exact ⟨bytes, rfl, mapError_eq_ok_iff.mp loaded⟩

namespace Command

section Dependable

variable {σ : Type} [Files (StateM σ)] {disk : σ → Disk} {start final : σ} {path store : String}
  {document : Json} {status : Nat}

/-- How an export to a file ends: it fails, and at most there are new folders; or writing its file
breaks off; or its file is written. -/
inductive Exported (disk : σ → Disk) (path : String) (bytes : List UInt8) (start : σ) : Nat → σ → Prop
  | failed {new : Place → Prop} {status : Nat} {final : σ} :
      Disk.FoldersAdded new (disk start) (disk final) → status ≠ 0 →
        Exported disk path bytes start status final
  | broken {status : Nat} {final : σ} :
      BrokenOff disk path start final → status ≠ 0 → Exported disk path bytes start status final
  | written {new : Place → Prop} {made final : σ} :
      Disk.FoldersAdded new (disk start) (disk made) →
        (disk made).write path bytes = .ok (disk final) → Exported disk path bytes start 0 final

/-- An export without a store, or of a store that cannot be loaded, fails and touches nothing; one
to standard output touches nothing either. -/
theorem run_exportFile (dependable : Dependable disk) (tells : TellsMissing disk)
    (around : Surroundings) (flags : GlobalFlags) (folder : Option String) (dataUri : Bool) (start : σ) :
    let run := ((Command.exportFile folder dataUri).run (m := StateM σ) around flags).run start
    match target flags (Act.found around start) (Preferences.settingsPath around.environment) with
    | .error _ => disk run.2 = disk start
    | .ok goal =>
      (disk run.2 = disk start ∧ run.1.status ≠ 0) ∨
        ∃ document, ((FileStore.load (m := StateM Disk) goal.store).run (disk start)).1 = .ok document ∧
          (dataUri = true → disk run.2 = disk start) ∧
          (dataUri = false → Exported disk
            (joinPath (folder.getD goal.folder) (ExportFile.nameAt around.seconds))
            (Utf8.encode document.pretty.toList) start run.1.status run.2) := by
  have current := Act.disk_current dependable around.environment start
  dsimp only
  rw [run_eq, act, Act.runs_exportFile]
  cases target flags (Act.found around start) (Preferences.settingsPath around.environment) with
  | error failure => exact current
  | ok goal =>
    dsimp only
    generalize ((Preferences.current around.environment : StateM σ Preferences).run start).2 = ready
      at current ⊢
    have unread := dependable.load goal.store ready
    rcases loading : (FileStore.load (m := StateM σ) goal.store).run ready with ⟨fault | document, loaded⟩
    · rw [loading] at unread
      exact .inl ⟨unread.trans current, status_ne_zero _⟩
    · rw [loading] at unread
      have stored := dependable.load_ok tells loading
      rw [current] at stored unread
      refine .inr ⟨document, stored, ?_⟩
      cases dataUri with
      | true => exact ⟨fun _ => unread, fun uri => absurd uri.symm Bool.false_ne_true⟩
      | false =>
        refine ⟨fun uri => absurd uri Bool.false_ne_true, fun _ => ?_⟩
        have added := dependable.foldersAdded (folder.getD goal.folder) loaded
        rw [show disk loaded = disk start from unread] at added
        simp only [Bool.false_eq_true, if_false]
        generalize (Files.makeFolders (folder.getD goal.folder) : StateM σ _).run loaded = making
          at added ⊢
        obtain ⟨fault | _, middle⟩ := making
        · exact .failed added (status_ne_zero (.file fault))
        · dsimp only [ExportFile.ofDocument] at added ⊢
          rcases writing : (Files.write
            (joinPath (folder.getD goal.folder) (ExportFile.nameAt around.seconds))
              (Utf8.encode document.pretty.toList) : StateM σ _).run middle with ⟨fault | _, written⟩
          · rcases dependable.unwritten added writing with still | broken
            · exact .failed still (status_ne_zero (.file fault))
            · exact .broken broken (status_ne_zero (.file fault))
          · exact .written added (dependable.written writing)

/-- What was loaded is loaded again, even if it was written over itself, unless that broke off. -/
theorem Exported.load (exported : Exported disk path (Utf8.encode document.pretty.toList) start status final)
    (stands : (disk start).read store ≠ .error .notFound) (integral : document.integral = true)
    (loaded : ((FileStore.load (m := StateM Disk) store).run (disk start)).1 = .ok document) :
    ((FileStore.load (m := StateM Disk) store).run (disk final)).1 = .ok document ∨
      status ≠ 0 ∧ BrokenOff disk path start final ∧ (disk final).SamePlace path store := by
  obtain ⟨bytes, read, parsed⟩ := FileStore.read_of_load stands loaded
  cases exported with
  | failed added _ => exact .inl (by rw [FileStore.load_of_read (added.read read) parsed])
  | broken broken failed =>
    obtain ⟨_, _, _, _, _, added, _, wrote⟩ := id broken
    rcases Disk.read_after_write (added.read read) wrote with kept | ⟨same, _⟩
    · exact .inl (by rw [FileStore.load_of_read kept parsed])
    · exact .inr ⟨failed, broken, same⟩
  | written added wrote =>
    refine .inl ?_
    rcases Disk.read_after_write (added.read read) wrote with kept | ⟨_, replaced⟩
    · rw [FileStore.load_of_read kept parsed]
    · have fits := Json.fits_of_parse parsed
      rw [FileStore.load_of_read replaced (Json.parse_render .indented fits.keyed integral fits.shallow)]

theorem Exported.read {bytes : List UInt8} (exported : Exported disk path bytes start status final)
    (done : status = 0) : (disk final).read path = .ok bytes := by
  cases exported with
  | failed _ failed => exact absurd done failed
  | broken _ failed => exact absurd done failed
  | written _ wrote => exact Disk.read_of_write wrote

/-- Whatever an export is asked to do and wherever it fails, a store that is there is loaded
afterwards as it was before, if it holds integers for numbers; also where the export is written in
place of the store, unless that write broke off. An export to standard output touches nothing at all,
and one to a file that ends well leaves the text of the stored document there. -/
theorem exportFile_keepsStore (dependable : Dependable disk) (tells : TellsMissing disk)
    (around : Surroundings) (flags : GlobalFlags) (folder : Option String) (dataUri : Bool) (start : σ) :
    let run := ((Command.exportFile folder dataUri).run (m := StateM σ) around flags).run start
    let load := fun (store : String) (disk : Disk) =>
      ((FileStore.load (m := StateM Disk) store).run disk).1
    (dataUri = true → disk run.2 = disk start) ∧
      match target flags (Act.found around start) (Preferences.settingsPath around.environment) with
      | .error _ => disk run.2 = disk start
      | .ok goal =>
        let path := joinPath (folder.getD goal.folder) (ExportFile.nameAt around.seconds)
        ((disk start).read goal.store ≠ .error .notFound →
          (∀ document, load goal.store (disk start) = .ok document → document.integral = true) →
            load goal.store (disk run.2) = load goal.store (disk start) ∨
              dataUri = false ∧ run.1.status ≠ 0 ∧ BrokenOff disk path start run.2 ∧
                (disk run.2).SamePlace path goal.store) ∧
        (dataUri = false → run.1.status = 0 → ∃ document,
          load goal.store (disk start) = .ok document ∧
            (disk run.2).read path = .ok (Utf8.encode document.pretty.toList)) := by
  have exported := run_exportFile dependable tells around flags folder dataUri start
  dsimp only at exported ⊢
  generalize target flags (Act.found around start) (Preferences.settingsPath around.environment) = aimed
    at exported ⊢
  cases aimed with
  | error failure => exact ⟨fun _ => exported, exported⟩
  | ok goal =>
    rcases exported with ⟨same, failed⟩ | ⟨document, loaded, uri, files⟩
    · dsimp only
      rw [same]
      exact ⟨fun _ => rfl, fun _ _ => .inl rfl, fun _ done => absurd done failed⟩
    · refine ⟨uri, fun stands integral => ?_,
        fun toFile done => ⟨document, loaded, (files toFile).read done⟩⟩
      cases dataUri with
      | true => exact .inl (by rw [uri rfl])
      | false =>
        rw [loaded]
        exact ((files rfl).load stands (integral document loaded) loaded).imp_right fun broken => ⟨rfl, broken⟩

/-- A run that comes to write its file ends as that does. -/
theorem exportFile_writes (around : Surroundings) (flags : GlobalFlags) {given : String} {middle : σ}
    (named : flags.store = some store) (unprofiled : flags.profile = none)
    (ready : ((Preferences.current around.environment : StateM σ Preferences).run start).2 = start)
    (loaded : (FileStore.load (m := StateM σ) store).run start = (.ok document, start))
    (made : (Files.makeFolders given : StateM σ _).run start = (.ok (), middle)) :
    let run := ((Command.exportFile (some given) false).run (m := StateM σ) around flags).run start
    let writing := (Files.write (joinPath given (ExportFile.nameAt around.seconds))
      (Utf8.encode document.pretty.toList) : StateM σ _).run middle
    run.2 = writing.2 ∧ (run.1.status = 0 ↔ writing.1 = .ok ()) := by
  obtain ⟨own, aimed⟩ := target_of_store flags named unprofiled (Act.found around start)
    (Preferences.settingsPath around.environment)
  dsimp only
  rw [run_eq, act, Act.runs_exportFile, ready, aimed, status_ofRun]
  dsimp only
  rw [loaded]
  simp only [Bool.false_eq_true, if_false, Option.getD_some, made, ExportFile.ofDocument]
  rcases (Files.write (joinPath given (ExportFile.nameAt around.seconds))
    (Utf8.encode document.pretty.toList) : StateM σ _).run middle with ⟨fault | _, written⟩
  · refine ⟨rfl, iff_of_false ?_ ?_⟩
    · rintro ⟨⟩
    · rintro ⟨⟩
  · exact ⟨rfl, iff_of_true rfl rfl⟩

end Dependable

variable {disk : Disk} {around : Surroundings} {flags : GlobalFlags} {folder : Option String}
  {dataUri : Bool} {document : Json}

theorem run_current (around : Surroundings) (disk : Disk) :
    ((Preferences.current around.environment : StateM Disk Preferences).run disk).2 = disk :=
  Act.disk_current dependable_disk around.environment disk

/-- A run whose store cannot be loaded ends over what is wrong with it. -/
theorem status_unloaded {fault : Fault} {store : String} (named : flags.store = some store)
    (unprofiled : flags.profile = none)
    (unloaded : ((FileStore.load (m := StateM Disk) store).run disk).1 = .error fault) :
    ((Command.exportFile folder dataUri).run (m := StateM Disk) around flags |>.run disk).1.status =
      (Failure.ofFault fault).status := by
  obtain ⟨own, aimed⟩ := target_of_store flags named unprofiled (Act.found around disk)
    (Preferences.settingsPath around.environment)
  rw [run_eq, act, Act.runs_exportFile, run_current, aimed]
  dsimp only
  generalize (FileStore.load (m := StateM Disk) store).run disk = loading at unloaded ⊢
  obtain ⟨_, loaded⟩ := loading
  cases unloaded
  rfl

/-- A run whose steps all succeed. -/
theorem exportFile_done (around : Surroundings) (flags : GlobalFlags) {store : String}
    {middle after : Disk} (named : flags.store = some store) (unprofiled : flags.profile = none)
    (loaded : (FileStore.load (m := StateM Disk) store).run disk = (.ok document, disk)) {given : String}
    (made : (Files.makeFolders given : StateM Disk _).run disk = (.ok (), middle))
    (wrote : middle.write (joinPath given (ExportFile.nameAt around.seconds))
      (Utf8.encode document.pretty.toList) = .ok after) :
    let run := ((Command.exportFile (some given) false).run (m := StateM Disk) around flags).run disk
    run.1.status = 0 ∧ run.2 = after := by
  obtain ⟨final, ended⟩ := exportFile_writes around flags named unprofiled (run_current around disk)
    loaded made
  rw [Disk.run_write, wrote] at final ended
  exact ⟨ended.mpr rfl, final⟩

/-- A store under the name of an export, on a single line. -/
def datedDisk (content : List UInt8) : Disk :=
  ⟨[(["rdio-scanner-config-1970-01-01.json"], .file content)], []⟩

def datedFlags : GlobalFlags :=
  ⟨none, some "rdio-scanner-config-1970-01-01.json", none, .auto, 0, false, false⟩

set_option maxRecDepth 10000 in
theorem read_datedDisk (content : List UInt8) :
    (datedDisk content).read "rdio-scanner-config-1970-01-01.json" = .ok content := by
  cbv

set_option maxRecDepth 10000 in
/-- The export goes to the store itself. -/
theorem write_datedDisk (content bytes : List UInt8) :
    (datedDisk content).write (joinPath "." (ExportFile.nameAt 0)) bytes = .ok (datedDisk bytes) := by
  have name : joinPath "." (ExportFile.nameAt 0) = "./rdio-scanner-config-1970-01-01.json" := rfl
  rw [name]
  cbv

theorem exportFile_keepsStore_overItself :
    let before := datedDisk [0x7B, 0x22, 0x61, 0x22, 0x3A, 0x31, 0x7D]
    let document := Json.object [("a", .ofNat 1)]
    let load := fun disk =>
      ((FileStore.load (m := StateM Disk) "rdio-scanner-config-1970-01-01.json").run disk).1
    let run := ((Command.exportFile (some ".") false).run (m := StateM Disk) quietSurroundings
      datedFlags).run before
    run.1.status = 0 ∧ run.2 = datedDisk (Utf8.encode document.pretty.toList) ∧
      load before = .ok document ∧ load run.2 = .ok document := by
  intro before document load run
  have parsed : Json.parse [0x7B, 0x22, 0x61, 0x22, 0x3A, 0x31, 0x7D] = .ok document := by cbv
  have loaded := FileStore.load_of_read (read_datedDisk _) parsed
  have made : (Files.makeFolders "." : StateM Disk _).run before = (.ok (), before) := by cbv
  obtain ⟨done, after⟩ := exportFile_done quietSurroundings datedFlags rfl rfl loaded made
    (write_datedDisk _ _)
  obtain ⟨own, aimed⟩ := target_of_store datedFlags rfl rfl
    (Act.found quietSurroundings before) (Preferences.settingsPath quietSurroundings.environment)
  have kept := (exportFile_keepsStore dependable_disk tellsMissing_disk quietSurroundings datedFlags
    (some ".") false before).2
  rw [aimed] at kept
  have stands : before.read "rdio-scanner-config-1970-01-01.json" ≠ .error .notFound := by
    rw [read_datedDisk]
    rintro ⟨⟩
  have integral : ∀ given, load before = .ok given → given.integral = true := by
    intro given same
    cases (congrArg Prod.fst loaded).symm.trans same
    rfl
  rcases kept.1 stands integral with same | ⟨_, failed, _⟩
  · exact ⟨done, after, congrArg Prod.fst loaded, same.trans (congrArg Prod.fst loaded)⟩
  · exact absurd done failed

/-- There is no room for the text of an export over its own store. -/
theorem exportFile_datedFullDisk {content : List UInt8} (parsed : Json.parse content = .ok document) :
    let run := ((Command.exportFile (some ".") false).run (m := StateM FullDisk) quietSurroundings
      datedFlags).run ⟨datedDisk content⟩
    run.1.status ≠ 0 ∧ run.2.disk = datedDisk [] := by
  have loaded : (FileStore.load (m := StateM FullDisk) "rdio-scanner-config-1970-01-01.json").run
      ⟨datedDisk content⟩ = (.ok document, ⟨datedDisk content⟩) :=
    FullDisk.load_of_read (read_datedDisk content) parsed
  have made : (Files.makeFolders "." : StateM FullDisk _).run ⟨datedDisk content⟩ =
      (.ok (), ⟨datedDisk content⟩) := by cbv
  have ready : ((Preferences.current quietSurroundings.environment : StateM FullDisk Preferences).run
      ⟨datedDisk content⟩).2 = ⟨datedDisk content⟩ :=
    congrArg FullDisk.mk (Act.disk_current dependable_fullDisk _ _)
  obtain ⟨final, ended⟩ := exportFile_writes quietSurroundings datedFlags rfl rfl ready loaded made
  have emptied := write_datedDisk content []
  rw [FullDisk.run_write, show quietSurroundings.seconds = 0 from rfl, emptied] at final ended
  refine ⟨fun done => ?_, congrArg FullDisk.disk final⟩
  cases ended.mp done

/-- A store in the current folder. -/
def singleDisk (content : List UInt8) : Disk :=
  ⟨[(["s.json"], .file content)], []⟩

/-- A path to that store through a folder that is not there. -/
def detourFlags : GlobalFlags :=
  ⟨none, some "x/../s.json", none, .auto, 0, false, false⟩

set_option maxRecDepth 10000 in
theorem write_singleDisk (content bytes : List UInt8) : ∃ after,
    ((singleDisk content).put ["x"] .folder).write (joinPath "x" (ExportFile.nameAt 0)) bytes = .ok after ∧
      after.read "x/../s.json" = .ok content := by
  have name : joinPath "x" (ExportFile.nameAt 0) = "x/rdio-scanner-config-1970-01-01.json" := rfl
  rw [name]
  refine ⟨((singleDisk content).put ["x"] .folder).put
    ["x", "rdio-scanner-config-1970-01-01.json"] (.file bytes), ?_, ?_⟩
  · cbv
  · cbv

/-- The export makes the folder that leads to the store. -/
theorem exportFile_singleDisk (content : List UInt8) :
    let run := ((Command.exportFile (some "x") false).run (m := StateM Disk) quietSurroundings
      detourFlags).run (singleDisk content)
    ((FileStore.load (m := StateM Disk) "x/../s.json").run (singleDisk content)) =
        (.ok (.object []), singleDisk content) ∧
      run.1.status = 0 ∧ run.2.read "x/../s.json" = .ok content := by
  have absent : (singleDisk content).read "x/../s.json" = .error .notFound := by cbv
  have loaded : (FileStore.load (m := StateM Disk) "x/../s.json").run (singleDisk content) =
      (.ok (.object []), singleDisk content) := by
    rw [FileStore.run_load, absent]
  have made : (Files.makeFolders "x" : StateM Disk _).run (singleDisk content) =
      (.ok (), (singleDisk content).put ["x"] .folder) := by cbv
  obtain ⟨after, wrote, read⟩ := write_singleDisk content (Utf8.encode (Json.object []).pretty.toList)
  obtain ⟨done, final⟩ := exportFile_done quietSurroundings detourFlags rfl rfl loaded made wrote
  exact ⟨loaded, done, final ▸ read⟩

/-- An export over its own store loses it where there is no room for the new text. And an export
can make the folder through which a path with a step up leads to its store. -/
theorem exportFile_changes_load :
    let content : List UInt8 := [0x7B, 0x22, 0x61, 0x22, 0x3A, 0x31, 0x7D]
    let document := Json.object [("a", .ofNat 1)]
    let load := fun (store : String) (disk : Disk) =>
      ((FileStore.load (m := StateM Disk) store).run disk).1
    let broken := ((Command.exportFile (some ".") false).run (m := StateM FullDisk) quietSurroundings
      datedFlags).run ⟨datedDisk content⟩
    let opened := ((Command.exportFile (some "x") false).run (m := StateM Disk) quietSurroundings
      detourFlags).run (singleDisk content)
    (Dependable FullDisk.disk ∧ TellsMissing FullDisk.disk ∧
      load "rdio-scanner-config-1970-01-01.json" (datedDisk content) = .ok document ∧
      broken.1.status ≠ 0 ∧ ∃ fault,
        load "rdio-scanner-config-1970-01-01.json" broken.2.disk = .error fault) ∧
      load "s.json" (singleDisk content) = .ok document ∧
        load "x/../s.json" (singleDisk content) = .ok (.object []) ∧ opened.1.status = 0 ∧
          load "x/../s.json" opened.2 = .ok document := by
  intro content document load broken opened
  have parsed : Json.parse content = .ok document := by cbv
  have unparsed : ∃ fault, Json.parse [] = .error fault := ⟨_, by cbv⟩
  obtain ⟨fault, unparsed⟩ := unparsed
  have plain : (singleDisk content).read "s.json" = .ok content := by cbv
  obtain ⟨failed, emptied⟩ := exportFile_datedFullDisk parsed
  obtain ⟨before, done, read⟩ := exportFile_singleDisk content
  have stood : load "rdio-scanner-config-1970-01-01.json" (datedDisk content) = .ok document :=
    congrArg Prod.fst (FileStore.load_of_read (read_datedDisk content) parsed)
  have lost : load "rdio-scanner-config-1970-01-01.json" broken.2.disk = .error (.json fault) := by
    change ((FileStore.load (m := StateM Disk) _).run broken.2.disk).1 = _
    rw [show broken.2.disk = datedDisk [] from emptied, FileStore.run_load, read_datedDisk]
    dsimp only
    rw [unparsed]
    rfl
  have direct : load "s.json" (singleDisk content) = .ok document :=
    congrArg Prod.fst (FileStore.load_of_read plain parsed)
  have after : load "x/../s.json" opened.2 = .ok document :=
    congrArg Prod.fst (FileStore.load_of_read read parsed)
  exact ⟨⟨dependable_fullDisk, tellsMissing_fullDisk, stood, failed, _, lost⟩,
    direct, congrArg Prod.fst before, done, after⟩

end Command

end ScannerConfig
