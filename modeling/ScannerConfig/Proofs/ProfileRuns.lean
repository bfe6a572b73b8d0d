import Mathlib
import ScannerConfig.Proofs.BrokenWrites
import ScannerConfig.Proofs.EnvironmentLayers
import ScannerConfig.Proofs.SavedPreferences
import ScannerConfig.Proofs.Utf8

namespace ScannerConfig

namespace Preferences

variable {preferences own : Preferences} {name path : String} {profile : Profile}
  {disk : Disk} {environment : List (String × String)}

theorem sound_initial : initial.Sound :=
  ⟨rfl, .nil, nofun⟩

section Dependable

variable {σ : Type} [Files (StateM σ)] {disk : σ → Disk}

theorem run_save (preferences : Preferences) (path : String) (start : σ) :
    (preferences.save path : StateM σ _).run start =
      match (makeFolderOf path : StateM σ _).run start with
      | (.error fault, middle) => (.error fault, middle)
      | (.ok _, middle) =>
        (Files.write path (Utf8.encode preferences.chars) : StateM σ _).run middle := by
  rw [save, StateT.run_bind]
  rcases (makeFolderOf path : StateM σ _).run start with ⟨_ | _, middle⟩ <;> rfl

/-- A save makes folders and writes the text of the preferences. Where it fails, at most folders are
new, or the write broke off. -/
theorem save_ends (dependable : Dependable disk) (preferences : Preferences) (path : String) (start : σ) :
    let run := (preferences.save path : StateM σ _).run start
    (run.1 = .ok () → ∃ new made, Disk.FoldersAdded new (disk start) made ∧
      made.write path (Utf8.encode preferences.chars) = .ok (disk run.2)) ∧
      (run.1 ≠ .ok () → (∃ new, Disk.FoldersAdded new (disk start) (disk run.2)) ∨
        BrokenOff disk path start run.2) := by
  obtain ⟨_, _, _, added⟩ := dependable.made start path
  dsimp only
  rw [run_save]
  generalize (makeFolderOf path : StateM σ _).run start = making at added ⊢
  rcases making with ⟨fault | _, middle⟩
  · exact ⟨nofun, fun _ => .inl ⟨_, added⟩⟩
  · dsimp only at added ⊢
    rcases writing : (Files.write path (Utf8.encode preferences.chars) : StateM σ _).run middle with
      ⟨fault | _, written⟩
    · exact ⟨nofun, fun _ => (dependable.unwritten added writing).imp_left fun still => ⟨_, still⟩⟩
    · exact ⟨fun _ => ⟨_, disk middle, added, dependable.written writing⟩, fun failed => absurd rfl failed⟩

end Dependable

/-- On a disk no write breaks off. -/
theorem save_cases (preferences : Preferences) (path : String) (disk : Disk) :
    let run := (preferences.save path : StateM Disk _).run disk
    (run.1 = .ok () → run.2.read path = .ok (Utf8.encode preferences.chars)) ∧
      (run.1 ≠ .ok () → ∃ new, Disk.FoldersAdded new disk run.2) := by
  obtain ⟨saved, unsaved⟩ := save_ends dependable_disk preferences path disk
  refine ⟨fun ok => ?_, fun failed => ?_⟩
  · obtain ⟨_, _, _, wrote⟩ := saved ok
    exact Disk.read_of_write wrote
  rcases unsaved failed with added | ⟨new, made, _, _, _, added, writing, _⟩
  · exact added
  · obtain ⟨_, same⟩ := Disk.attempt_failed writing
    exact ⟨new, same ▸ added⟩

/-- The text of the file at a path, if it is one; a path that leads to no file counts as one
without a file. -/
def fileText? (disk : Disk) (path : String) : Option (Option String) :=
  match disk.read path with
  | .ok bytes => (Utf8.text? bytes).map some
  | .error (.other _) => none
  | .error _ => some none

/-- The text of preferences is found where its bytes are. -/
theorem fileText?_of_read (read : disk.read path = .ok (Utf8.encode preferences.chars)) :
    fileText? disk path = some (some preferences.text) := by
  have decoded : Utf8.text? (Utf8.encode preferences.chars) = some preferences.text := by
    rw [Utf8.text?, Utf8.decode_encode]
    rfl
  rw [fileText?, read]
  dsimp only
  rw [decoded, Option.map_some]

/-- What an accepted file gives with an environment over it. -/
def GivenBy (disk : Disk) (path : String) (environment : List (String × String))
    (preferences : Preferences) : Prop :=
  ∃ file, fileText? disk path = some file ∧ load file environment = .ok preferences

theorem sound_loaded (file : Option String) (environment : List (String × String)) :
    ((load file environment).toOption.getD initial).Sound := by
  cases loaded : load file environment with
  | error fault => exact sound_initial
  | ok preferences => exact sound_of_load loaded

section Found

variable {σ : Type} [Files (StateM σ)] {around : Surroundings} {start : σ}

theorem sound_found (around : Surroundings) (start : σ) : (Act.found around start).Sound := by
  rw [Act.found, current, StateT.run_bind]
  rcases (Files.read (settingsPath around.environment) : StateM σ _).run start with ⟨fault | bytes, middle⟩
  · cases fault with
    | other message => exact sound_initial
    | _ => exact sound_loaded none around.environment
  · change (StateT.run (_ : StateM σ Preferences) middle).1.Sound
    dsimp only
    cases Utf8.text? bytes with
    | none => exact sound_initial
    | some text => exact sound_loaded (some text) around.environment

variable {disk : Disk}
  (answers : ((Files.read (settingsPath around.environment) : StateM σ _).run start).1 =
    disk.read (settingsPath around.environment))
include answers

/-- A run finds what the file and the environment give, or else the initial preferences. -/
theorem found_eq : Act.found around start =
    (((fileText? disk (settingsPath around.environment)).bind fun file =>
      (load file around.environment).toOption).getD initial) := by
  rw [Act.found, current, StateT.run_bind, fileText?, ← answers]
  rcases (Files.read (settingsPath around.environment) : StateM σ _).run start with ⟨fault | bytes, middle⟩
  · cases fault <;> rfl
  · change (StateT.run (_ : StateM σ Preferences) middle).1 = _
    dsimp only
    cases Utf8.text? bytes <;> rfl

/-- The preferences that a run finds are those in force. -/
theorem found_of_answers (given : GivenBy disk (settingsPath around.environment) around.environment
    preferences) : Act.found around start = preferences := by
  obtain ⟨file, there, loaded⟩ := given
  rw [found_eq answers, there]
  simp [loaded, Except.toOption]

/-- Where nothing is in force, a run finds the initial preferences. -/
theorem found_of_rejected (rejected : ∀ preferences, ¬GivenBy disk (settingsPath around.environment)
    around.environment preferences) : Act.found around start = initial := by
  rw [found_eq answers]
  cases read : fileText? disk (settingsPath around.environment) with
  | none => rfl
  | some file =>
    cases loaded : load file around.environment with
    | error fault => simp [loaded, Except.toOption]
    | ok preferences => exact absurd ⟨file, read, loaded⟩ (rejected preferences)

end Found

/-- On a disk the preferences that a run finds are those in force. -/
theorem found_of_givenBy {around : Surroundings}
    (given : GivenBy disk (settingsPath around.environment) around.environment preferences) :
    Act.found around disk = preferences :=
  found_of_answers rfl given

/-- With an environment over it a file gives what it gives alone, but for what variables touch. -/
theorem GivenBy.agreesOutside (alone : GivenBy disk path [] own)
    (given : GivenBy disk path environment preferences) :
    AgreesOutside environment own preferences := by
  obtain ⟨file, there, loaded⟩ := alone
  obtain ⟨_, again, layered⟩ := given
  cases there.symm.trans again
  exact agreesOutside_of_load loaded layered

/-- Without variables a file gives what it gives alone. -/
theorem givenBy_of_no_variables
    (none : ∀ setting ∈ environment, Layer.variablePath? setting.1 = none) :
    GivenBy disk path environment preferences ↔ GivenBy disk path [] preferences := by
  have same : ∀ file, load file environment = load file [] := by
    intro file
    rw [load_eq, load_eq]
    simp only [layers, Layer.ofEnvironment_of_no_variables none]
    rfl
  simp only [GivenBy, same]

/-- A single profile has the name of every profile that is found. -/
theorem name_of_single {other : String} (single : preferences.profiles.length = 1)
    (first : preferences.profile? name ≠ none) (second : preferences.profile? other ≠ none) :
    name = other := by
  obtain ⟨⟨known, profile⟩, only⟩ := List.length_eq_one_iff.mp single
  rw [Preferences.profile?, only] at first second
  simp only [Entries.get?] at first second
  have here : known = name := by
    by_contra different
    exact first (if_neg different)
  have there : known = other := by
    by_contra different
    exact second (if_neg different)
  exact here.symm.trans there

/-- The preferences with a profile put in. The first profile becomes the default one. -/
def withProfile (preferences : Preferences) (name : String) (profile : Profile) : Preferences :=
  let preferences := preferences.addProfile name profile
  if preferences.profiles.length = 1 then { preferences with defaultProfile := some name }
  else preferences

/-- Preferences that differ from others by one profile, and by the default profile only if this is
the only one. -/
structure EditedBy (name : String) (profile : Profile) (before after : Preferences) : Prop where
  given : after.profile? name = some profile
  others : ∀ other, other ≠ name → after.profile? other = before.profile? other
  output : after.output = before.output
  color : after.color = before.color
  defaultProfile : after.defaultProfile =
    if after.profiles.length = 1 then some name else before.defaultProfile
  distinct : Entries.Distinct after.profiles

theorem profiles_withProfile (preferences : Preferences) (name : String) (profile : Profile) :
    (preferences.withProfile name profile).profiles = insertSorted name profile preferences.profiles := by
  rw [withProfile]
  split <;> rfl

theorem Sound.added (sound : preferences.Sound) (stored : profile.store.isEmpty = false) :
    (preferences.withProfile name profile).Sound := by
  refine ⟨?_, ?_, fun entry member => ?_⟩
  · rw [withProfile]
    split
    · rfl
    · exact sound.named
  · rw [profiles_withProfile]
    exact sound.ordered.insertSorted name profile
  · rw [profiles_withProfile] at member
    rcases mem_insertSorted member with rfl | before
    · exact stored
    · exact sound.stored entry before

theorem Sound.editedBy (sound : preferences.Sound) (name : String) (profile : Profile) :
    EditedBy name profile preferences (preferences.withProfile name profile) where
  given := by rw [profile?, profiles_withProfile, get?_insertSorted, if_pos rfl]
  others other different := by
    rw [profile?, profiles_withProfile, get?_insertSorted, if_neg (Ne.symm different)]
    rfl
  output := by
    rw [withProfile]
    split <;> rfl
  color := by
    rw [withProfile]
    split <;> rfl
  defaultProfile := by
    rw [profiles_withProfile, withProfile]
    have single : (preferences.addProfile name profile).profiles =
        insertSorted name profile preferences.profiles := rfl
    simp only [single]
    split <;> rfl
  distinct := by
    rw [profiles_withProfile]
    exact (sound.ordered.insertSorted name profile).distinct

end Preferences

namespace Command

open Preferences (settingsPath GivenBy EditedBy AgreesOutside)

variable {disk : Disk} {preferences : Preferences}

section Dependable

variable {σ : Type} [Files (StateM σ)] {disk : σ → Disk}

theorem run_savePreferences (around : Surroundings) (preferences : Preferences)
    (done : String → String) (told : List Message) (start : σ) :
    let run := (Act.savePreferences (m := StateM σ) around preferences done).runs told start
    let saving := (preferences.save (settingsPath around.environment) : StateM σ _).run start
    run.2 = saving.2 ∧ (run.1.1 = .ok () ↔ saving.1 = .ok ()) := by
  dsimp only
  rw [Act.savePreferences, Act.runs_bind, Act.runs_onFiles]
  rcases (preferences.save (settingsPath around.environment) : StateM σ _).run start with
    ⟨_ | _, after⟩
  · exact ⟨rfl, iff_of_false nofun nofun⟩
  · exact ⟨rfl, iff_of_true rfl rfl⟩

/-- A run that is to add a profile ends as the save of the preferences with it ends. -/
theorem run_initProfile (dependable : Dependable disk) (around : Surroundings) (flags : GlobalFlags)
    (name : String) (profile : Profile) (stored : profile.store ≠ "") (start : σ) :
    let run := ((Command.initProfile name (some profile.store) profile.exportFolder).run
      (m := StateM σ) around flags).run start
    ∃ ready, disk ready = disk start ∧
      let saving := (((Act.found around start).withProfile name profile).save
        (settingsPath around.environment) : StateM σ _).run ready
      run.2 = saving.2 ∧ (run.1.status = 0 ↔ saving.1 = .ok ()) := by
  obtain ⟨store, folder⟩ := profile
  obtain ⟨ready, found, same⟩ := Act.runs_preferences dependable around [] start
  refine ⟨ready, same, ?_⟩
  dsimp only
  rw [run_eq]
  simp only [act, Act.initProfile, Act.runs_bind, found]
  rw [status_ofRun]
  exact run_savePreferences around ((Act.found around start).withProfile name ⟨store, folder⟩) _ [] ready

/-- A profile without a path is refused before anything is touched. -/
theorem run_initProfile_empty (dependable : Dependable disk) (around : Surroundings)
    (flags : GlobalFlags) (name : String) (folder : Option String) (start : σ) :
    let run := ((Command.initProfile name (some "") folder).run (m := StateM σ) around flags).run start
    disk run.2 = disk start ∧ run.1.status ≠ 0 := by
  obtain ⟨ready, found, same⟩ := Act.runs_preferences dependable around [] start
  dsimp only
  rw [run_eq, Ne, status_ofRun]
  simp only [act, Act.initProfile, Act.runs_bind, found]
  exact ⟨same, nofun⟩

/-- A failed run makes at most folders, unless the write of its file broke off. -/
theorem initProfile_failed (dependable : Dependable disk) (around : Surroundings)
    (flags : GlobalFlags) (name store : String) (folder : Option String) (start : σ) :
    let run := ((Command.initProfile name (some store) folder).run (m := StateM σ) around flags).run
      start
    run.1.status ≠ 0 → (∃ new, Disk.FoldersAdded new (disk start) (disk run.2)) ∨
      BrokenOff disk (settingsPath around.environment) start run.2 := by
  by_cases empty : store = ""
  · subst empty
    obtain ⟨same, _⟩ := run_initProfile_empty dependable around flags name folder start
    exact fun _ => .inl ⟨fun _ => True, same ▸ .refl _ _⟩
  · obtain ⟨ready, same, after, ended⟩ :=
      run_initProfile dependable around flags name ⟨store, folder⟩ empty start
    intro run failed
    rw [after]
    rcases (Preferences.save_ends dependable _ _ ready).2 (mt ended.mpr failed) with added | broken
    · exact .inl (same ▸ added)
    · exact .inr (broken.of_same same)

/-- A run that succeeds writes the preferences that it found with the profile in them. -/
theorem initProfile_done (dependable : Dependable disk) (around : Surroundings)
    (flags : GlobalFlags) (name store : String) (folder : Option String) (start : σ) :
    let run := ((Command.initProfile name (some store) folder).run (m := StateM σ) around flags).run
      start
    run.1.status = 0 → ∃ new made text saved, Disk.FoldersAdded new (disk start) made ∧
      made.write (settingsPath around.environment) (Utf8.encode text.toList) = .ok (disk run.2) ∧
        Preferences.load (some text) [] = .ok saved ∧
          EditedBy name ⟨store, folder⟩ (Act.found around start) saved := by
  by_cases empty : store = ""
  · subst empty
    exact fun done => absurd done (run_initProfile_empty dependable around flags name folder start).2
  · obtain ⟨ready, same, after, ended⟩ :=
      run_initProfile dependable around flags name ⟨store, folder⟩ empty start
    have sound := Preferences.sound_found around start
    have stored : store.isEmpty = false := by simpa using empty
    intro run done
    obtain ⟨new, made, added, wrote⟩ := (Preferences.save_ends dependable _ _ ready).1 (ended.mp done)
    rw [same] at added
    rw [← after] at wrote
    refine ⟨new, made, ((Act.found around start).withProfile name ⟨store, folder⟩).text, _, added, ?_,
      Preferences.load_text (sound.added stored), sound.editedBy name ⟨store, folder⟩⟩
    rw [Preferences.text, String.toList_ofList]
    exact wrote

end Dependable

/-- A file of preferences with one profile. -/
def keptPreferences : Preferences :=
  ⟨some "home", "json", "auto", [("home", ⟨"/srv/home.json", none⟩)]⟩

theorem sound_keptPreferences : keptPreferences.Sound :=
  ⟨rfl, List.pairwise_singleton _ _, by decide⟩

/-- The folder of the settings with this file in it. -/
def settingsDisk (content : List UInt8) : Disk :=
  ⟨[(["etc"], .folder), (["etc", "rdio-admin"], .folder),
    (["etc", "rdio-admin", "config.toml"], .file content)], []⟩

/-- Surroundings with the settings there and these variables. -/
def settingsAround (settings : List (String × String)) : Surroundings :=
  ⟨("XDG_CONFIG_HOME", "/etc") :: settings, [], 0, false⟩

def plainFlags : GlobalFlags :=
  ⟨none, none, none, .auto, 0, false, false⟩

theorem settingsPath_settingsAround (settings : List (String × String)) :
    settingsPath (settingsAround settings).environment = "/etc/rdio-admin/config.toml" := by
  have absolute : (Path.ofText "/etc").absolute = true := by decide
  have folder : Preferences.settingsFolder (settingsAround settings).environment = "/etc" := by
    simp [Preferences.settingsFolder, settingsAround, Entries.get?, absolute]
  rw [settingsPath, folder]
  decide

set_option maxRecDepth 10000 in
theorem status_settingsDisk (settings : List (String × String)) (content : List UInt8)
    (name : String) (profile : Profile) (stored : profile.store ≠ "") :
    (((Command.initProfile name (some profile.store) profile.exportFolder).run (m := StateM Disk)
      (settingsAround settings) plainFlags).run (settingsDisk content)).1.status = 0 := by
  have made : (makeFolderOf "/etc/rdio-admin/config.toml" : StateM Disk _).run (settingsDisk content) =
      (.ok (), settingsDisk content) := by cbv
  have wrote : ∀ text, (settingsDisk content).write "/etc/rdio-admin/config.toml" text =
      .ok (settingsDisk text) := by
    intro text
    cbv
  obtain ⟨_, rfl, _, ended⟩ := run_initProfile dependable_disk (settingsAround settings) plainFlags name
    profile stored (settingsDisk content)
  refine ended.mpr ?_
  rw [settingsPath_settingsAround, Preferences.run_save, made]
  dsimp only
  rw [Disk.run_write, wrote]

set_option maxRecDepth 10000 in
theorem fileText?_settingsDisk (preferences : Preferences) :
    Preferences.fileText? (settingsDisk (Utf8.encode preferences.chars)) "/etc/rdio-admin/config.toml" =
      some (some preferences.text) := by
  have read : ∀ content, (settingsDisk content).read "/etc/rdio-admin/config.toml" = .ok content := by
    intro content
    cbv
  exact Preferences.fileText?_of_read (read _)

theorem givenBy_settingsDisk : GivenBy (settingsDisk (Utf8.encode keptPreferences.chars))
    "/etc/rdio-admin/config.toml" [] keptPreferences :=
  ⟨_, fileText?_settingsDisk keptPreferences, Preferences.load_text sound_keptPreferences⟩

/-- A run that is to add a profile fails and leaves every file as it was, unless the write of its own
file broke off; or it writes the preferences that it found with that one profile put in, and beside
that makes at most folders. Where the file can be read, it finds the preferences in force: those of
the file but for what variables touch, and those of the file if there are none. Where the file or the
environment is rejected, it finds the initial preferences, so that the profiles of the file are lost. -/
theorem initProfile_edits {σ : Type} [Files (StateM σ)] {disk : σ → Disk} (dependable : Dependable disk)
    (around : Surroundings) (flags : GlobalFlags) (name store : String) (folder : Option String)
    (start : σ) :
    let path := settingsPath around.environment
    let run := ((Command.initProfile name (some store) folder).run (m := StateM σ) around flags).run
      start
    let found := Act.found around start
    (run.1.status ≠ 0 →
      ((∀ bytes, (disk start).read path = .ok bytes → (disk run.2).read path = .ok bytes) ∧
        Disk.SameFiles (disk start) (disk run.2)) ∨ BrokenOff disk path start run.2) ∧
    (run.1.status = 0 → ∃ new made text saved, Disk.FoldersAdded new (disk start) made ∧
      made.write path (Utf8.encode text.toList) = .ok (disk run.2) ∧
        (disk run.2).read path = .ok (Utf8.encode text.toList) ∧
          Preferences.load (some text) [] = .ok saved ∧ EditedBy name ⟨store, folder⟩ found saved) ∧
    (((Files.read path : StateM σ _).run start).1 = (disk start).read path →
      (∀ preferences, GivenBy (disk start) path around.environment preferences → found = preferences ∧
        (∀ own, GivenBy (disk start) path [] own → AgreesOutside around.environment own preferences) ∧
        ((∀ setting ∈ around.environment, Layer.variablePath? setting.1 = none) →
          GivenBy (disk start) path [] preferences)) ∧
      ((∀ preferences, ¬GivenBy (disk start) path around.environment preferences) →
        found = Preferences.initial)) := by
  refine ⟨fun failed => ?_, fun done => ?_, fun answers =>
    ⟨fun preferences given => ⟨?_, fun own alone => ?_, fun none => ?_⟩, fun rejected => ?_⟩⟩
  · refine (initProfile_failed dependable around flags name store folder start failed).imp_left ?_
    rintro ⟨new, added⟩
    exact ⟨fun bytes read => added.read read, added.sameFiles⟩
  · obtain ⟨new, made, text, saved, added, wrote, edits⟩ :=
      initProfile_done dependable around flags name store folder start done
    exact ⟨new, made, text, saved, added, wrote, Disk.read_of_write wrote, edits⟩
  · exact Preferences.found_of_answers answers given
  · exact alone.agreesOutside given
  · exact (Preferences.givenBy_of_no_variables none).mp given
  · exact Preferences.found_of_rejected answers rejected

theorem no_variables_settingsAround :
    ∀ setting ∈ (settingsAround []).environment, Layer.variablePath? setting.1 = none := by
  intro setting member
  cases List.mem_singleton.mp member
  rfl

theorem initProfile_edits_home :
    let run := ((Command.initProfile "site" (some "/srv/site.json") none).run (m := StateM Disk)
      (settingsAround []) plainFlags).run (settingsDisk (Utf8.encode keptPreferences.chars))
    run.1.status = 0 ∧ ∃ text saved,
      run.2.read "/etc/rdio-admin/config.toml" = .ok (Utf8.encode text.toList) ∧
        Preferences.load (some text) [] = .ok saved ∧
          saved.profile? "site" = some ⟨"/srv/site.json", none⟩ ∧
          saved.profile? "home" = some ⟨"/srv/home.json", none⟩ ∧ saved.output = "json" := by
  have done := status_settingsDisk [] (Utf8.encode keptPreferences.chars) "site"
    ⟨"/srv/site.json", none⟩ (by decide)
  dsimp only at done
  have given := (Preferences.givenBy_of_no_variables no_variables_settingsAround).mpr givenBy_settingsDisk
  obtain ⟨_, edits, finds⟩ := initProfile_edits dependable_disk (settingsAround []) plainFlags "site"
    "/srv/site.json" .none (settingsDisk (Utf8.encode keptPreferences.chars))
  obtain ⟨_, _, text, saved, _, _, read, loaded, edited⟩ := edits done
  rw [((finds rfl).1 keptPreferences given).1] at edited
  refine ⟨done, text, saved, read, loaded, edited.given, ?_, edited.output⟩
  exact edited.others "home" (by decide)

/-- A file of preferences with a profile that has no path beside one that has. -/
def strayPreferences : Preferences :=
  ⟨some "home", "json", "auto", [("away", ⟨"", none⟩), ("home", ⟨"/srv/home.json", none⟩)]⟩

theorem rejected_strayPreferences (preferences : Preferences) :
    ¬GivenBy (settingsDisk (Utf8.encode strayPreferences.chars))
      (settingsPath (settingsAround []).environment) (settingsAround []).environment preferences := by
  rw [Preferences.givenBy_of_no_variables no_variables_settingsAround, settingsPath_settingsAround]
  rintro ⟨file, there, loaded⟩
  cases (fileText?_settingsDisk strayPreferences).symm.trans there
  have ordered : Preferences.InOrder strayPreferences.profiles := List.pairwise_pair.mpr (by decide)
  cases (Preferences.load_text_emptyStore rfl ordered rfl).symm.trans loaded

/-- A variable that names another default profile. -/
def awaySetting : List (String × String) :=
  [("RDIO_ADMIN_DEFAULT_PROFILE", "away")]

theorem givenBy_awaySetting : GivenBy (settingsDisk (Utf8.encode keptPreferences.chars))
    (settingsPath (settingsAround awaySetting).environment) (settingsAround awaySetting).environment
      { keptPreferences with defaultProfile := some "away" } := by
  rw [settingsPath_settingsAround]
  refine ⟨_, fileText?_settingsDisk keptPreferences, ?_⟩
  have upper : Layer.ofEnvironment (settingsAround awaySetting).environment =
      .dict [("default_profile", .string "away")] := by rfl
  rw [Preferences.load_eq, Preferences.fileEntries_text rfl sound_keptPreferences.ordered]
  simp only [Preferences.layers, upper]
  rfl

/-- There is no room for the text of the preferences. -/
theorem initProfile_fullDisk (content : List UInt8) :
    let run := ((Command.initProfile "site" (some "/srv/site.json") none).run (m := StateM FullDisk)
      (settingsAround []) plainFlags).run ⟨settingsDisk content⟩
    run.1.status ≠ 0 ∧ run.2.disk.read "/etc/rdio-admin/config.toml" = .ok [] := by
  have made : (makeFolderOf "/etc/rdio-admin/config.toml" : StateM FullDisk _).run
      ⟨settingsDisk content⟩ = (.ok (), ⟨settingsDisk content⟩) := by cbv
  have wrote : (settingsDisk content).write "/etc/rdio-admin/config.toml" [] =
      .ok (settingsDisk []) := by cbv
  have read : (settingsDisk []).read "/etc/rdio-admin/config.toml" = .ok [] := by cbv
  obtain ⟨ready, same, after, ended⟩ := run_initProfile dependable_fullDisk (settingsAround [])
    plainFlags "site" ⟨"/srv/site.json", none⟩ (by decide) ⟨settingsDisk content⟩
  obtain rfl : ready = ⟨settingsDisk content⟩ := congrArg FullDisk.mk same
  rw [settingsPath_settingsAround, Preferences.run_save, made] at after ended
  dsimp only at after ended
  rw [FullDisk.run_write, wrote] at after ended
  refine ⟨fun done => (by cases ended.mp done), ?_⟩
  rw [after]
  exact read

/-- A run that is to add a profile to the file of these preferences, with these variables set. -/
def initSite (settings : List (String × String)) (preferences : Preferences) : Outcome × Disk :=
  ((Command.initProfile "site" (some "/srv/site.json") none).run (m := StateM Disk)
    (settingsAround settings) plainFlags).run (settingsDisk (Utf8.encode preferences.chars))

theorem initSite_done (settings : List (String × String)) (preferences : Preferences) :
    (initSite settings preferences).1.status = 0 ∧ ∃ text saved,
      (initSite settings preferences).2.read "/etc/rdio-admin/config.toml" = .ok (Utf8.encode text.toList) ∧
        Preferences.load (some text) [] = .ok saved ∧ EditedBy "site" ⟨"/srv/site.json", none⟩
          (Act.found (settingsAround settings) (settingsDisk (Utf8.encode preferences.chars))) saved := by
  have done := status_settingsDisk settings (Utf8.encode preferences.chars) "site"
    ⟨"/srv/site.json", none⟩ (by decide)
  dsimp only at done
  obtain ⟨_, _, text, saved, _, wrote, loaded, edited⟩ := initProfile_done dependable_disk
    (settingsAround settings) plainFlags "site" "/srv/site.json" none
      (settingsDisk (Utf8.encode preferences.chars)) done
  rw [settingsPath_settingsAround] at wrote
  rw [initSite]
  exact ⟨done, text, saved, Disk.read_of_write wrote, loaded, edited⟩

/-- A profile is added to a file that is rejected: the profile that stood there is lost. It is added
to an accepted file: the default profile that a variable names comes to stand there. And where there
is no room for the text, nothing is left of the file. -/
theorem initProfile_departs :
    let rejected := initSite [] strayPreferences
    let overridden := initSite awaySetting keptPreferences
    let full := ((Command.initProfile "site" (some "/srv/site.json") none).run (m := StateM FullDisk)
      (settingsAround []) plainFlags).run ⟨settingsDisk (Utf8.encode keptPreferences.chars)⟩
    let writes := fun (disk : Disk) (saved : Preferences) => ∃ text,
      disk.read "/etc/rdio-admin/config.toml" = .ok (Utf8.encode text.toList) ∧
        Preferences.load (some text) [] = .ok saved
    (strayPreferences.profile? "home" = some ⟨"/srv/home.json", none⟩ ∧ rejected.1.status = 0 ∧
      ∃ saved, writes rejected.2 saved ∧ saved.profile? "home" = none) ∧
    (keptPreferences.defaultProfile = some "home" ∧ overridden.1.status = 0 ∧
      ∃ saved, writes overridden.2 saved ∧ saved.profiles.length ≠ 1 ∧
        saved.defaultProfile = some "away") ∧
    (full.1.status ≠ 0 ∧ full.2.disk.read "/etc/rdio-admin/config.toml" = .ok []) := by
  intro rejected overridden full writes
  refine ⟨?_, ?_, initProfile_fullDisk (Utf8.encode keptPreferences.chars)⟩
  · obtain ⟨done, text, saved, read, loaded, edited⟩ := initSite_done [] strayPreferences
    rw [Preferences.found_of_rejected rfl rejected_strayPreferences] at edited
    exact ⟨rfl, done, saved, ⟨text, read, loaded⟩, edited.others "home" (by decide)⟩
  · obtain ⟨done, text, saved, read, loaded, edited⟩ := initSite_done awaySetting keptPreferences
    rw [Preferences.found_of_givenBy givenBy_awaySetting] at edited
    have several : saved.profiles.length ≠ 1 := by
      intro single
      have home : saved.profile? "home" = some ⟨"/srv/home.json", none⟩ := edited.others "home" (by decide)
      have same : "site" = "home" := Preferences.name_of_single single
        (ne_of_eq_of_ne edited.given nofun) (ne_of_eq_of_ne home nofun)
      exact absurd same (by decide)
    exact ⟨rfl, done, saved, ⟨text, read, loaded⟩, several, by
      rw [edited.defaultProfile, if_neg several]⟩

end Command

end ScannerConfig
