import Mathlib
import ScannerConfig.Proofs.ProfileRuns
import ScannerConfig.Proofs.RootedDisks

namespace ScannerConfig

namespace Preferences

variable {preferences before : Preferences} {path : String} {disk : Disk} {content : List UInt8}

/-- A file holds these preferences, or there is none and they are the initial ones. -/
inductive Holds (path : String) (disk : Disk) : Preferences → Prop
  | file {preferences : Preferences} : preferences.Sound →
      disk.read path = .ok (Utf8.encode preferences.chars) → Holds path disk preferences
  | none : (∀ content, disk.read path ≠ .ok content) → Holds path disk initial

theorem Holds.sound (holds : Holds path disk preferences) : preferences.Sound := by
  cases holds with
  | file sound _ => exact sound
  | none _ => exact sound_initial

theorem Holds.givenBy (holds : Holds path disk preferences) : GivenBy disk path [] preferences := by
  cases holds with
  | file sound read => exact ⟨some preferences.text, fileText?_of_read read, load_text sound⟩
  | none absent =>
    refine ⟨.none, ?_, rfl⟩
    rw [fileText?]
    split
    · exact absurd (by assumption) (absent _)
    · exact absurd (by assumption) (disk.read_ne_other path _)
    · rfl

/-- After a save that failed there is no file to be read. -/
theorem unread_of_unsaved (rooted : disk.Rooted)
    (failed : ((preferences.save path : StateM Disk _).run disk).1 ≠ .ok ()) :
    ((preferences.save path : StateM Disk _).run disk).2.read path ≠ .ok content := by
  have unmade : ∀ fault middle, (makeFolderOf path : StateM Disk _).run disk = (.error fault, middle) →
      middle.read path ≠ .ok content := fun _ _ => rooted.unread_of_unmade
  rw [run_save] at failed ⊢
  generalize (makeFolderOf path : StateM Disk _).run disk = making at failed unmade ⊢
  rcases making with ⟨fault | _, middle⟩
  · exact unmade fault middle rfl
  · dsimp only at failed ⊢
    rw [Disk.run_write] at failed ⊢
    intro read
    cases wrote : middle.write path (Utf8.encode preferences.chars) with
    | ok after => simp [wrote] at failed
    | error fault =>
      rw [wrote] at read
      obtain ⟨after, writes⟩ := Disk.write_of_read read (Utf8.encode preferences.chars)
      rw [wrote] at writes
      cases writes

theorem rooted_of_save (rooted : disk.Rooted) (preferences : Preferences) (path : String) :
    ((preferences.save path : StateM Disk _).run disk).2.Rooted := by
  have made := rooted.made path
  rw [run_save]
  generalize (makeFolderOf path : StateM Disk _).run disk = making at made ⊢
  rcases making with ⟨fault | _, middle⟩
  · exact made
  · dsimp only at made ⊢
    rw [Disk.run_write]
    cases wrote : middle.write path (Utf8.encode preferences.chars) with
    | ok after => exact made.write wrote
    | error fault => exact made

/-- A save replaces the preferences that a file holds. Where there is no file it may fail, and then
there is none afterwards. -/
theorem Holds.save (rooted : disk.Rooted) (holds : Holds path disk before) (sound : preferences.Sound) :
    let saving := (preferences.save path : StateM Disk _).run disk
    (saving.1 = .ok () → Holds path saving.2 preferences) ∧
      (saving.1 ≠ .ok () → Holds path saving.2 before ∧ before = initial) := by
  intro saving
  obtain ⟨saved, unsaved⟩ := save_cases preferences path disk
  refine ⟨fun ok => .file sound (saved ok), fun failed => ?_⟩
  have unread : ∀ content, saving.2.read path ≠ .ok content := fun _ => unread_of_unsaved rooted failed
  cases holds with
  | file _ read =>
    obtain ⟨_, added⟩ := unsaved failed
    exact absurd (added.read read) (unread _)
  | none _ => exact ⟨.none unread, rfl⟩

end Preferences

/-- What a command does to the profiles: it adds one, or it chooses the default one. -/
inductive ProfileEdit where
  | init (name : String) (profile : Profile)
  | use (name : String)
  deriving DecidableEq, Repr

namespace ProfileEdit

def command : ProfileEdit → Command
  | init name profile => .initProfile name (some profile.store) profile.exportFolder
  | use name => .useProfile name

def apply (preferences : Preferences) : ProfileEdit → Preferences
  | init name profile => preferences.withProfile name profile
  | use name => { preferences with defaultProfile := some name }

/-- A profile needs a path, and only one that is there can be chosen. -/
def Fits (preferences : Preferences) : ProfileEdit → Prop
  | init _ profile => profile.store ≠ ""
  | use name => preferences.profile? name ≠ none

/-- The profile that was added last under a name, by edits with the latest first. -/
def lastGiven (name : String) : List ProfileEdit → Option Profile
  | [] => none
  | init given profile :: earlier => if given = name then some profile else lastGiven name earlier
  | use _ :: earlier => lastGiven name earlier

def lastUsed : List ProfileEdit → Option String
  | [] => none
  | init _ _ :: earlier => lastUsed earlier
  | use name :: _ => some name

def firstNamed : List ProfileEdit → Option String
  | [] => none
  | init name _ :: earlier => (firstNamed earlier).or (some name)
  | use _ :: earlier => firstNamed earlier

/-- The default profile that edits lead to: the one chosen last, or else the first that was added. -/
def chosen (edits : List ProfileEdit) : Option String :=
  (lastUsed edits).or (firstNamed edits)

variable {preferences : Preferences} {edit : ProfileEdit} {edits : List ProfileEdit} {name : String}
  {profile : Profile} {path : String} {disk : Disk}

theorem chosen_init (name : String) (profile : Profile) (edits : List ProfileEdit) :
    chosen (init name profile :: edits) = (chosen edits).or (some name) := by
  rw [chosen, chosen, lastUsed, firstNamed, Option.or_assoc]

theorem lastGiven_ne_none_iff : lastGiven name edits ≠ none ↔ ∃ profile, init name profile ∈ edits := by
  induction edits with
  | nil => simp [lastGiven]
  | cons edit edits ih =>
    cases edit with
    | init given profile =>
      rw [lastGiven]
      by_cases same : given = name
      · simp [same]
      · simp [same, ih, Ne.symm same]
    | use other => simp [lastGiven, ih]

theorem chosen_ne_none (some : edits ≠ []) : chosen edits ≠ none := by
  obtain ⟨edit, earlier, rfl⟩ := List.exists_cons_of_ne_nil some
  cases edit with
  | init name profile => simp [chosen_init]
  | use name => simp [chosen, lastUsed]

theorem sound_apply (sound : preferences.Sound) (fits : edit.Fits preferences) :
    (edit.apply preferences).Sound := by
  cases edit with
  | init name profile => exact sound.added (by simpa [Fits] using fits)
  | use name => exact ⟨rfl, sound.ordered, sound.stored⟩

/-- How preferences agree with the edits that led to them. -/
structure Recorded (edits : List ProfileEdit) (preferences : Preferences) : Prop where
  given : ∀ name, preferences.profile? name = lastGiven name edits
  defaultProfile : ∀ name, chosen edits = some name → preferences.defaultProfile = some name
  existing : ∀ name, chosen edits = some name → lastGiven name edits ≠ none

theorem recorded_initial : Recorded [] Preferences.initial :=
  ⟨fun _ => rfl, nofun, nofun⟩

theorem lastGiven_init_ne_none (known : lastGiven name edits ≠ none) (other : String)
    (profile : Profile) : lastGiven name (init other profile :: edits) ≠ none := by
  rw [lastGiven]
  split_ifs
  · exact Option.some_ne_none _
  · exact known

/-- Where no default profile was chosen, there are no profiles. -/
theorem Recorded.empty_of_unchosen (recorded : Recorded edits preferences)
    (unchosen : chosen edits = none) : preferences.profiles = [] := by
  rw [List.eq_nil_iff_forall_not_mem]
  rintro ⟨name, profile⟩ member
  have found : preferences.profile? name ≠ none := by
    rw [Preferences.profile?, Ne, Entries.get?_eq_none_iff, not_not]
    exact List.mem_map_of_mem member
  rw [recorded.given, lastGiven_ne_none_iff] at found
  obtain ⟨_, added⟩ := found
  exact chosen_ne_none (List.ne_nil_of_mem added) unchosen

theorem Recorded.given_init (recorded : Recorded edits preferences) (sound : preferences.Sound)
    (name : String) (profile : Profile) (other : String) :
    (preferences.withProfile name profile).profile? other =
      lastGiven other (.init name profile :: edits) := by
  have edited := sound.editedBy name profile
  rw [lastGiven]
  split_ifs with same
  · rw [← same, edited.given]
  · rw [edited.others other (Ne.symm same), recorded.given]

theorem Recorded.init (recorded : Recorded edits preferences) (sound : preferences.Sound)
    (name : String) (profile : Profile) :
    Recorded (.init name profile :: edits) (preferences.withProfile name profile) := by
  have edited := sound.editedBy name profile
  have given := recorded.given_init sound name profile
  have added : (preferences.withProfile name profile).profile? name ≠ none := by
    rw [edited.given]
    exact Option.some_ne_none _
  cases before : ProfileEdit.chosen edits with
  | none =>
    have first : ProfileEdit.chosen (.init name profile :: edits) = some name := by
      rw [chosen_init, before, Option.none_or]
    refine ⟨given, fun other same => ?_, fun other same => ?_⟩
    · cases first.symm.trans same
      rw [edited.defaultProfile, Preferences.profiles_withProfile, recorded.empty_of_unchosen before]
      rfl
    · cases first.symm.trans same
      rwa [← given]
  | some earlier =>
    have still : ProfileEdit.chosen (.init name profile :: edits) = some earlier := by
      rw [chosen_init, before, Option.some_or]
    have known := lastGiven_init_ne_none (recorded.existing earlier before) name profile
    refine ⟨given, fun other same => ?_, fun other same => ?_⟩
    · cases still.symm.trans same
      rw [edited.defaultProfile]
      split_ifs with single
      · -- The one chosen before is there, so the only profile is that one.
        rw [Preferences.name_of_single single added (by rwa [given])]
      · exact recorded.defaultProfile earlier before
    · cases still.symm.trans same
      exact known

theorem Recorded.use (recorded : Recorded edits preferences) (known : preferences.profile? name ≠ none) :
    Recorded (.use name :: edits) { preferences with defaultProfile := some name } := by
  refine ⟨recorded.given, ?_, ?_⟩
  · rintro _ ⟨⟩
    rfl
  · rintro _ ⟨⟩
    rw [lastGiven, ← recorded.given]
    exact known

theorem Recorded.apply (recorded : Recorded edits preferences) (sound : preferences.Sound)
    (fits : edit.Fits preferences) : Recorded (edit :: edits) (edit.apply preferences) := by
  cases edit with
  | init name profile => exact recorded.init sound name profile
  | use name => exact recorded.use fits

/-- A run of an edit that fits the preferences it finds ends as the save of what it makes of them,
and any other edit is refused before anything is touched. -/
theorem run_command (edit : ProfileEdit) (around : Surroundings) (flags : GlobalFlags) (disk : Disk) :
    let run := (edit.command.run (m := StateM Disk) around flags).run disk
    let saving := ((edit.apply (Act.found around disk)).save
      (Preferences.settingsPath around.environment) : StateM Disk _).run disk
    (edit.Fits (Act.found around disk) → run.2 = saving.2 ∧ (run.1.status = 0 ↔ saving.1 = .ok ())) ∧
      (¬edit.Fits (Act.found around disk) → run.2 = disk ∧ run.1.status ≠ 0) := by
  cases edit with
  | init name profile =>
    refine ⟨fun stored => ?_, fun empty => ?_⟩
    · obtain ⟨_, rfl, ended⟩ := Command.run_initProfile dependable_disk around flags name profile stored disk
      exact ended
    · have none : profile.store = "" := not_not.mp empty
      dsimp only [command]
      rw [none]
      exact Command.run_initProfile_empty dependable_disk around flags name profile.exportFolder disk
  | use name =>
    dsimp only [command, Fits, apply]
    rw [Command.run_eq, Ne, Command.status_ofRun]
    simp only [Command.act, Act.useProfile, Act.runs_bind, Act.runs_preferences_disk]
    cases (Act.found around disk).profile? name with
    | none =>
      refine ⟨fun known => absurd rfl known, fun _ => ⟨rfl, ?_⟩⟩
      rintro ⟨⟩
    | some profile =>
      refine ⟨fun _ => ?_, fun unknown => absurd (Option.some_ne_none profile) unknown⟩
      exact Command.run_savePreferences around _ _ [] disk

end ProfileEdit

/-- An edit with what is around it when it runs. -/
structure ProfileTurn where
  around : Surroundings
  flags : GlobalFlags
  edit : ProfileEdit

namespace ProfileTurn

open Preferences (Holds GivenBy settingsPath)
open ProfileEdit (Recorded)

def run (turn : ProfileTurn) (disk : Disk) : Outcome × Disk :=
  (turn.edit.command.run (m := StateM Disk) turn.around turn.flags).run disk

/-- The preferences are in the file at this path, and no variable changes them. -/
def Plain (path : String) (turn : ProfileTurn) : Prop :=
  settingsPath turn.around.environment = path ∧
    ∀ setting ∈ turn.around.environment, Layer.variablePath? setting.1 = none

/-- The edits that succeed, with the latest first, and the disk that the turns leave. -/
def runAll (turns : List ProfileTurn) (disk : Disk) : List ProfileEdit × Disk :=
  turns.foldl (fun (done, disk) turn =>
    let (outcome, after) := turn.run disk
    (if outcome.status = 0 then turn.edit :: done else done, after)) ([], disk)

theorem runAll_nil (disk : Disk) : runAll [] disk = ([], disk) :=
  rfl

theorem runAll_concat (turns : List ProfileTurn) (turn : ProfileTurn) (disk : Disk) :
    runAll (turns ++ [turn]) disk =
      (if (turn.run (runAll turns disk).2).1.status = 0 then turn.edit :: (runAll turns disk).1
        else (runAll turns disk).1, (turn.run (runAll turns disk).2).2) := by
  rw [runAll, List.foldl_concat]
  rfl

variable {turn : ProfileTurn} {path : String} {disk : Disk} {preferences : Preferences}
  {done : List ProfileEdit}

/-- A turn that succeeds fits the preferences that are held and leaves them edited; any other turn
leaves them as they are. A turn that fits can fail only as long as there is no file. -/
theorem run_holds (plain : turn.Plain path) (rooted : disk.Rooted)
    (holds : Holds path disk preferences) :
    (turn.run disk).2.Rooted ∧
      ((turn.run disk).1.status = 0 →
        turn.edit.Fits preferences ∧ Holds path (turn.run disk).2 (turn.edit.apply preferences)) ∧
      ((turn.run disk).1.status ≠ 0 → Holds path (turn.run disk).2 preferences ∧
        (turn.edit.Fits preferences → preferences = .initial)) := by
  obtain ⟨settings, none⟩ := plain
  have found : Act.found turn.around disk = preferences := by
    refine Preferences.found_of_givenBy ((Preferences.givenBy_of_no_variables none).mpr ?_)
    rw [settings]
    exact holds.givenBy
  have fitting := ProfileEdit.run_command turn.edit turn.around turn.flags disk
  simp only [found, settings] at fitting
  by_cases fits : turn.edit.Fits preferences
  · obtain ⟨after, ended⟩ := fitting.1 fits
    obtain ⟨saved, unsaved⟩ := holds.save rooted (ProfileEdit.sound_apply holds.sound fits)
    rw [run, after]
    refine ⟨Preferences.rooted_of_save rooted _ path, fun ok => ⟨fits, saved (ended.mp ok)⟩, fun failed => ?_⟩
    obtain ⟨same, initial⟩ := unsaved (mt ended.mpr failed)
    exact ⟨same, fun _ => initial⟩
  · obtain ⟨after, failed⟩ := fitting.2 fits
    rw [run, after]
    exact ⟨rooted, fun ok => absurd ok failed, fun _ => ⟨holds, fun fitsNow => absurd fitsNow fits⟩⟩

/-- A disk that holds preferences as the edits done led to them. -/
structure Reached (path : String) (done : List ProfileEdit) (disk : Disk) (preferences : Preferences) :
    Prop where
  rooted : disk.Rooted
  holds : Holds path disk preferences
  recorded : Recorded done preferences

theorem Reached.run (reached : Reached path done disk preferences) (plain : turn.Plain path) :
    ∃ next, Reached path (if (turn.run disk).1.status = 0 then turn.edit :: done else done)
      (turn.run disk).2 next := by
  obtain ⟨rooted, succeeded, failed⟩ := run_holds plain reached.rooted reached.holds
  split_ifs with status
  · obtain ⟨fits, holds⟩ := succeeded status
    exact ⟨_, rooted, holds, reached.recorded.apply reached.holds.sound fits⟩
  · exact ⟨preferences, rooted, (failed status).1, reached.recorded⟩

theorem reached_runAll (rooted : disk.Rooted) (absent : ∀ content, disk.read path ≠ .ok content)
    {turns : List ProfileTurn} (plain : ∀ turn ∈ turns, turn.Plain path) :
    ∃ preferences, Reached path (runAll turns disk).1 (runAll turns disk).2 preferences := by
  induction turns using List.reverseRecOn with
  | nil => exact ⟨.initial, rooted, .none absent, ProfileEdit.recorded_initial⟩
  | append_singleton turns turn ih =>
    obtain ⟨before, last⟩ := List.forall_mem_append.mp plain
    obtain ⟨preferences, reached⟩ := ih before
    rw [runAll_concat]
    exact reached.run (last turn (List.mem_singleton_self turn))

/-- Once an edit was done, whatever fits succeeds. -/
theorem Reached.run_fits (reached : Reached path done disk preferences) (plain : turn.Plain path)
    (some : done ≠ []) (fits : turn.edit.Fits preferences) : (turn.run disk).1.status = 0 := by
  obtain ⟨_, _, failed⟩ := run_holds plain reached.rooted reached.holds
  by_contra status
  obtain ⟨name, chosen⟩ := Option.ne_none_iff_exists'.mp (ProfileEdit.chosen_ne_none some)
  have existing := reached.recorded.existing name chosen
  rw [← reached.recorded.given, (failed status).2 fits] at existing
  exact existing rfl

/-- A profile can be chosen if, and only if, it was added. -/
theorem Reached.use (reached : Reached path done disk preferences) (plain : turn.Plain path)
    {name : String} (uses : turn.edit = .use name) :
    (turn.run disk).1.status = 0 ↔ ∃ profile, .init name profile ∈ done := by
  obtain ⟨_, succeeded, _⟩ := run_holds plain reached.rooted reached.holds
  have fits : turn.edit.Fits preferences ↔ ∃ profile, .init name profile ∈ done := by
    rw [uses, ProfileEdit.Fits, reached.recorded.given, ProfileEdit.lastGiven_ne_none_iff]
  constructor
  · exact fun status => fits.mp (succeeded status).1
  · rintro ⟨profile, added⟩
    exact reached.run_fits plain (List.ne_nil_of_mem added) (fits.mpr ⟨profile, added⟩)

/-- Once an edit was done, a profile can be added if, and only if, it has a path. -/
theorem Reached.init (reached : Reached path done disk preferences) (plain : turn.Plain path)
    {name : String} {profile : Profile} (adds : turn.edit = .init name profile) (some : done ≠ []) :
    (turn.run disk).1.status = 0 ↔ profile.store ≠ "" := by
  obtain ⟨_, succeeded, _⟩ := run_holds plain reached.rooted reached.holds
  have fits : turn.edit.Fits preferences ↔ profile.store ≠ "" := by rw [adds, ProfileEdit.Fits]
  exact ⟨fun status => fits.mp (succeeded status).1, fun stored => reached.run_fits plain some (fits.mpr stored)⟩

/-- After any run of edits from a disk without a file of preferences, the file gives a single profile
for each name that was added, the one that was added last. Once there is one, the default profile is
one of them: the one chosen last, or else the first that was added. A profile can be chosen next if,
and only if, it was added before; and once one was added, another can be if, and only if, it has a
path. Writes are taken to work as a whole or not at all, so that none breaks off. -/
theorem profiles_of_runAll (rooted : disk.Rooted) (absent : ∀ content, disk.read path ≠ .ok content)
    {turns : List ProfileTurn} (plain : ∀ turn ∈ turns, turn.Plain path) :
    let done := (runAll turns disk).1
    let after := (runAll turns disk).2
    (∃ preferences, GivenBy after path [] preferences ∧ Entries.Distinct preferences.profiles ∧
      (∀ name, preferences.profile? name = ProfileEdit.lastGiven name done) ∧
      ((∃ name profile, .init name profile ∈ done) → ∃ name, ProfileEdit.chosen done = some name ∧
        preferences.defaultProfile = some name ∧ preferences.profile? name ≠ none)) ∧
    ∀ turn : ProfileTurn, turn.Plain path →
      (∀ name, turn.edit = .use name →
        ((turn.run after).1.status = 0 ↔ ∃ profile, .init name profile ∈ done)) ∧
      (∀ name profile, turn.edit = .init name profile → done ≠ [] →
        ((turn.run after).1.status = 0 ↔ profile.store ≠ "")) := by
  intro done after
  obtain ⟨preferences, reached⟩ := reached_runAll rooted absent plain
  have recorded := reached.recorded
  refine ⟨⟨preferences, reached.holds.givenBy, reached.holds.sound.ordered.distinct, recorded.given, ?_⟩,
    fun turn plain => ⟨fun name uses => reached.use plain uses,
      fun name profile adds some => reached.init plain adds some⟩⟩
  rintro ⟨name, profile, added⟩
  obtain ⟨default, chosen⟩ :=
    Option.ne_none_iff_exists'.mp (ProfileEdit.chosen_ne_none (List.ne_nil_of_mem added))
  refine ⟨default, chosen, recorded.defaultProfile _ chosen, ?_⟩
  rw [recorded.given]
  exact recorded.existing _ chosen

/-- The folder of the settings without a file in it. -/
def folderDisk : Disk :=
  ⟨[(["etc"], .folder), (["etc", "rdio-admin"], .folder)], []⟩

/-- A turn with the settings there and no variables. -/
def settingsTurn (edit : ProfileEdit) : ProfileTurn :=
  ⟨Command.settingsAround [], Command.plainFlags, edit⟩

theorem plain_settingsTurn (edit : ProfileEdit) :
    (settingsTurn edit).Plain "/etc/rdio-admin/config.toml" := by
  refine ⟨Command.settingsPath_settingsAround [], fun setting member => ?_⟩
  cases List.mem_singleton.mp member
  rfl

set_option maxRecDepth 10000 in
/-- The first profile makes the file. -/
theorem run_folderDisk (name : String) (profile : Profile) (stored : profile.store ≠ "") :
    ((settingsTurn (.init name profile)).run folderDisk).1.status = 0 ∧
      ∃ content, ((settingsTurn (.init name profile)).run folderDisk).2 = Command.settingsDisk content := by
  have made : (makeFolderOf "/etc/rdio-admin/config.toml" : StateM Disk _).run folderDisk =
      (.ok (), folderDisk) := by cbv
  have wrote : ∀ text, folderDisk.write "/etc/rdio-admin/config.toml" text =
      .ok (Command.settingsDisk text) := by
    intro text
    cbv
  obtain ⟨_, rfl, after, ended⟩ := Command.run_initProfile dependable_disk (Command.settingsAround [])
    Command.plainFlags name profile stored folderDisk
  rw [Command.settingsPath_settingsAround, Preferences.run_save, made] at after ended
  dsimp only at after ended
  rw [Disk.run_write, wrote] at after ended
  exact ⟨ended.mpr rfl, _, after⟩

theorem rooted_folderDisk : folderDisk.Rooted :=
  ⟨FileTree.rooted_of_entries (by decide), rfl⟩

set_option maxRecDepth 10000 in
theorem unread_folderDisk (content : List UInt8) :
    folderDisk.read "/etc/rdio-admin/config.toml" ≠ .ok content := by
  have none : folderDisk.read "/etc/rdio-admin/config.toml" = .error .notFound := by cbv
  rw [none]
  rintro ⟨⟩

theorem runAll_folderDisk (first second : String) (home site : Profile) (homeStored : home.store ≠ "")
    (siteStored : site.store ≠ "") :
    (runAll [settingsTurn (.init first home), settingsTurn (.init second site)] folderDisk).1 =
      [.init second site, .init first home] := by
  obtain ⟨made, content, disk⟩ := run_folderDisk first home homeStored
  have added : ((settingsTurn (.init second site)).run (Command.settingsDisk content)).1.status = 0 :=
    Command.status_settingsDisk [] content second site siteStored
  have split : [settingsTurn (.init first home), settingsTurn (.init second site)] =
      ([] ++ [settingsTurn (.init first home)]) ++ [settingsTurn (.init second site)] := rfl
  rw [split, runAll_concat, runAll_concat, runAll_nil]
  dsimp only
  rw [disk, if_pos added, if_pos made]
  rfl

theorem profiles_of_runAll_two :
    let turns := [settingsTurn (.init "home" ⟨"/srv/home.json", none⟩),
      settingsTurn (.init "site" ⟨"/srv/site.json", none⟩)]
    (∃ preferences, GivenBy (runAll turns folderDisk).2 "/etc/rdio-admin/config.toml" [] preferences ∧
      preferences.profile? "home" = some ⟨"/srv/home.json", none⟩ ∧
        preferences.profile? "site" = some ⟨"/srv/site.json", none⟩ ∧
          preferences.defaultProfile = some "home") ∧
      ((settingsTurn (.use "site")).run (runAll turns folderDisk).2).1.status = 0 ∧
        ((settingsTurn (.use "away")).run (runAll turns folderDisk).2).1.status ≠ 0 := by
  intro turns
  have done : (runAll turns folderDisk).1 = _ :=
    runAll_folderDisk "home" "site" ⟨"/srv/home.json", none⟩ ⟨"/srv/site.json", none⟩ (by decide) (by decide)
  have plain : ∀ turn ∈ turns, turn.Plain "/etc/rdio-admin/config.toml" := by
    rintro turn member
    rcases List.mem_pair.mp member with rfl | rfl <;> exact plain_settingsTurn _
  clear_value turns
  obtain ⟨⟨preferences, given, _, profiles, chosen⟩, later⟩ :=
    profiles_of_runAll rooted_folderDisk unread_folderDisk plain
  rw [done] at profiles chosen later
  refine ⟨⟨preferences, given, profiles "home", profiles "site", ?_⟩,
    ((later _ (plain_settingsTurn _)).1 "site" rfl).mpr ⟨_, List.mem_cons_self⟩, ?_⟩
  · obtain ⟨name, same, default, _⟩ := chosen ⟨"site", _, List.mem_cons_self⟩
    cases same
    exact default
  · rw [Ne, (later _ (plain_settingsTurn _)).1 "away" rfl]
    rintro ⟨profile, member⟩
    rcases List.mem_pair.mp member with same | same <;>
      exact absurd (ProfileEdit.init.inj same).1 (by decide)

end ProfileTurn

end ScannerConfig
