import ScannerConfig.Proofs.ProfileRuns

namespace ScannerConfig.Preferences

variable {preferences : Preferences} {path : String} {disk after : Disk}
  {environment : List (String × String)}

/-- A file with the text of preferences gives them, where no variable touches them. -/
theorem Sound.givenBy_of_read (sound : preferences.Sound)
    (noVariables : ∀ setting ∈ environment, Layer.variablePath? setting.1 = none)
    (read : disk.read path = .ok (Utf8.encode preferences.chars)) :
    GivenBy disk path environment preferences := by
  rw [givenBy_of_no_variables noVariables]
  exact ⟨some preferences.text, fileText?_of_read read, load_text sound⟩

/-- Preferences with a default profile, and with a path for each of their profiles, are saved and
then loaded as they are. -/
theorem givenBy_of_save (named : preferences.defaultProfile.isSome = true)
    (ordered : InOrder preferences.profiles)
    (stored : ∀ entry ∈ preferences.profiles, entry.2.store ≠ "")
    (noVariables : ∀ setting ∈ environment, Layer.variablePath? setting.1 = none)
    (saved : (preferences.save path : StateM Disk _).run disk = (.ok (), after)) :
    after.read path = .ok (Utf8.encode preferences.chars) ∧
      GivenBy after path environment preferences := by
  have sound : preferences.Sound :=
    ⟨named, ordered, fun entry member => by simpa using stored entry member⟩
  have written := (save_cases preferences path disk).1
  rw [saved] at written
  have read := written rfl
  exact ⟨read, sound.givenBy_of_read noVariables read⟩

/-- Names and paths that have to be quoted. -/
def quotedPreferences : Preferences :=
  ⟨some "a.b", "\r\n", "\"\"\"", [("", ⟨"\x7f", none⟩), ("[a]\n", ⟨"\\", some ""⟩),
    ("a.b", ⟨"\"", some "\\u0041"⟩)]⟩

set_option maxRecDepth 10000 in
theorem givenBy_of_save_quoted :
    let saved := (quotedPreferences.save "/etc/rdio-admin/config.toml" : StateM Disk _).run
      (Command.settingsDisk [])
    saved.1 = .ok () ∧
      GivenBy saved.2 "/etc/rdio-admin/config.toml" [("HOME", "/root")] quotedPreferences := by
  intro saved
  have made : (makeFolderOf "/etc/rdio-admin/config.toml" : StateM Disk _).run
      (Command.settingsDisk []) = (.ok (), Command.settingsDisk []) := by cbv
  have wrote : ∀ text, (Command.settingsDisk []).write "/etc/rdio-admin/config.toml" text =
      .ok (Command.settingsDisk text) := by
    intro text
    cbv
  have ended : saved = (.ok (), Command.settingsDisk (Utf8.encode quotedPreferences.chars)) := by
    rw [show saved = _ from run_save quotedPreferences "/etc/rdio-admin/config.toml" _, made]
    dsimp only
    rw [Disk.run_write, wrote]
  have ordered : InOrder quotedPreferences.profiles := by
    rw [InOrder]
    decide
  have noVariables : ∀ setting ∈ [("HOME", "/root")], Layer.variablePath? setting.1 = none := by decide
  rw [ended]
  exact ⟨rfl, (givenBy_of_save rfl ordered (by decide) noVariables ended).2⟩

end ScannerConfig.Preferences
