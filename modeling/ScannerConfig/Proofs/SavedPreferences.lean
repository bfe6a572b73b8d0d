import ScannerConfig.Proofs.PreferenceLayers
import ScannerConfig.Proofs.TomlLines

namespace ScannerConfig

namespace Toml

theorem valueEntries_eq (parts : Parts) :
    valueEntries parts = parts.map fun entry => (entry.1, entry.2.toValue) := by
  induction parts with
  | nil => rfl
  | cons entry parts ih => rw [valueEntries, ih, List.map_cons]

end Toml

theorem Layer.entriesOfToml_eq (entries : List (String × Toml.Value)) :
    Layer.entriesOfToml entries = entries.map fun entry => (entry.1, Layer.ofToml entry.2) := by
  induction entries with
  | nil => rfl
  | cons entry entries ih => rw [Layer.entriesOfToml, ih, List.map_cons]

namespace Preferences

open Toml

variable {preferences : Preferences}

def stringLine (key text : String) : Line :=
  ⟨[key], .string text⟩

def openingLines (preferences : Preferences) : List Line :=
  (preferences.defaultProfile.map (stringLine "default_profile")).toList

def profileLines (profile : Profile) : List Line :=
  stringLine "store" profile.store :: (profile.exportFolder.map (stringLine "export_dir")).toList

def defaultsSection (preferences : Preferences) : Section :=
  ⟨.table ["defaults"], [stringLine "output" preferences.output, stringLine "color" preferences.color]⟩

def profileSection (entry : String × Profile) : Section :=
  ⟨.table ["profiles", entry.1], profileLines entry.2⟩

def profileSections (profiles : List (String × Profile)) : List Section :=
  if profiles.isEmpty then [⟨.table ["profiles"], []⟩] else profiles.map profileSection

theorem reads_optionalEntry {key : String} {rest : List Char} {lines : List Line}
    {sections : List Section} (reads : ReadsSections rest lines sections) (plain : IsPlainKey key)
    (text : Option String) :
    ReadsSections (optionalEntry key text ++ rest) ((text.map (stringLine key)).toList ++ lines)
      sections := by
  cases text with
  | none => exact reads
  | some text => exact reads.line plain text

theorem reads_profileChars {rest : List Char} {sections : List Section}
    (reads : ReadsSections rest [] sections) (entry : String × Profile) :
    ReadsSections (profileChars entry.1 entry.2 ++ rest) [] (profileSection entry :: sections) := by
  have folder := reads_optionalEntry reads (show IsPlainKey "export_dir" by rfl) entry.2.exportFolder
  have store := folder.line (show IsPlainKey "store" by rfl) entry.2.store
  have header := (store.named (show IsPlainKey "profiles" by rfl) entry.1).blank
  rw [List.append_nil] at header
  have shape : profileChars entry.1 entry.2 ++ rest = '\n' :: '[' :: ("profiles".toList ++ '.' ::
      (keyChars entry.1 ++ ']' :: '\n' :: (entryChars "store" entry.2.store ++
        (optionalEntry "export_dir" entry.2.exportFolder ++ rest)))) := by
    have opening : "\n[profiles.".toList = '\n' :: '[' :: ("profiles".toList ++ ['.']) := rfl
    unfold profileChars
    rw [opening]
    simp only [List.append_assoc, List.cons_append, List.nil_append]
  rw [shape]
  exact header

theorem reads_profilesChars (profiles : List (String × Profile)) :
    ReadsSections (profilesChars profiles) [] (profileSections profiles) := by
  rw [profilesChars, profileSections]
  split_ifs with empty
  · have shape : "\n[profiles]\n".toList = '\n' :: '[' :: ("profiles".toList ++ ']' :: '\n' :: []) :=
      rfl
    rw [shape]
    exact (readsSections_nil.table (show IsPlainKey "profiles" by rfl)).blank
  · clear empty
    induction profiles with
    | nil => exact readsSections_nil
    | cons entry profiles ih => exact reads_profileChars ih entry

theorem reads_chars (preferences : Preferences) :
    ReadsSections preferences.chars preferences.openingLines
      (preferences.defaultsSection :: profileSections preferences.profiles) := by
  have color := (reads_profilesChars preferences.profiles).line (show IsPlainKey "color" by rfl)
    preferences.color
  have output := color.line (show IsPlainKey "output" by rfl) preferences.output
  have defaults := output.table (show IsPlainKey "defaults" by rfl)
  have shape : "[defaults]\n".toList ++ (entryChars "output" preferences.output ++
      (entryChars "color" preferences.color ++ profilesChars preferences.profiles)) =
      '[' :: ("defaults".toList ++ ']' :: '\n' :: (entryChars "output" preferences.output ++
        (entryChars "color" preferences.color ++ profilesChars preferences.profiles))) :=
    rfl
  rw [chars, openingLines]
  simp only [List.append_assoc, shape]
  cases preferences.defaultProfile with
  | none => exact defaults
  | some name =>
    simp only [List.append_assoc]
    exact defaults.blank.line (show IsPlainKey "default_profile" by rfl) name

def stringPart (key text : String) : String × Part :=
  (key, .value (.string text))

def profileParts (profile : Profile) : Parts :=
  stringPart "store" profile.store :: (profile.exportFolder.map (stringPart "export_dir")).toList

def profilePart (entry : String × Profile) : String × Part :=
  (entry.1, .table .header (profileParts entry.2))

def openingParts (preferences : Preferences) : Parts :=
  (preferences.defaultProfile.map (stringPart "default_profile")).toList

def defaultsPart (preferences : Preferences) : String × Part :=
  ("defaults", .table .header
    [stringPart "output" preferences.output, stringPart "color" preferences.color])

/-- The table of the profiles: it has a header of its own only if there are none. -/
def profilesPart (profiles : List (String × Profile)) : String × Part :=
  ("profiles", .table (if profiles.isEmpty then .header else .passed) (profiles.map profilePart))

theorem fill_openingLines (preferences : Preferences) :
    Parts.fill [] preferences.openingLines = some preferences.openingParts := by
  rw [openingLines, openingParts]
  cases preferences.defaultProfile <;> rfl

theorem fill_profileLines (profile : Profile) :
    Parts.fill [] (profileLines profile) = some (profileParts profile) := by
  rw [profileLines, profileParts]
  cases profile.exportFolder <;> rfl

theorem addSection_defaults (preferences : Preferences) :
    addSection preferences.openingParts preferences.defaultsSection =
      some (preferences.openingParts ++ [preferences.defaultsPart]) := by
  rw [openingParts]
  cases preferences.defaultProfile <;> rfl

theorem openTable_profile {parts : Parts} {entry : String × Profile}
    (fresh : entry.1 ∉ Entries.keys parts) :
    Parts.openTable entry.1 (profileLines entry.2) parts = some (parts ++ [profilePart entry]) := by
  rw [Parts.openTable, Entries.get?_eq_none_iff.mpr fresh, fill_profileLines]
  rfl

/-- A section of a profile goes into the table of the profiles, which the first of them makes. -/
theorem addSection_profile {front : Parts} {done : List (String × Profile)}
    {entry : String × Profile} (absent : "profiles" ∉ Entries.keys front)
    (fresh : entry.1 ∉ Entries.keys done) :
    addSection (front ++ if done.isEmpty then [] else [profilesPart done]) (profileSection entry) =
      some (front ++ [profilesPart (done ++ [entry])]) := by
  have none : Entries.get? front "profiles" = none := Entries.get?_eq_none_iff.mpr absent
  have names : entry.1 ∉ Entries.keys (done.map profilePart) := by
    simpa [Entries.keys, profilePart] using fresh
  have path : addSection (front ++ if done.isEmpty then [] else [profilesPart done])
      (profileSection entry) = Parts.at (Parts.openTable entry.1 (profileLines entry.2)) ["profiles"]
        (front ++ if done.isEmpty then [] else [profilesPart done]) := rfl
  rw [path, Parts.at, Entries.get?_append, none]
  cases done with
  | nil =>
    have made : Parts.openTable entry.1 (profileLines entry.2) [] = some [profilePart entry] :=
      openTable_profile List.not_mem_nil
    simp [Parts.at, made, Entries.get?, profilesPart]
  | cons first rest =>
    have made := openTable_profile names
    rw [List.map_cons] at made
    simp [Parts.at, made, Entries.get?, profilesPart, Entries.insert_append absent, Entries.insert]

theorem addSections_profiles {front : Parts} {done next : List (String × Profile)}
    (absent : "profiles" ∉ Entries.keys front) (distinct : Entries.Distinct (done ++ next)) :
    (next.map profileSection).foldlM addSection
      (front ++ if done.isEmpty then [] else [profilesPart done]) =
        some (front ++ if (done ++ next).isEmpty then [] else [profilesPart (done ++ next)]) := by
  induction next generalizing done with
  | nil => simp
  | cons entry next ih =>
    have fresh : entry.1 ∉ Entries.keys done := by
      rw [Entries.Distinct, Entries.keys_append] at distinct
      exact fun member => (List.nodup_append.mp distinct).2.2 _ member _ List.mem_cons_self rfl
    have split : done ++ entry :: next = (done ++ [entry]) ++ next := by simp
    rw [split] at distinct ⊢
    rw [List.map_cons, List.foldlM_cons, addSection_profile absent fresh]
    have later := ih distinct
    simpa using later

theorem addSections (preferences : Preferences) (ordered : InOrder preferences.profiles) :
    (preferences.defaultsSection :: profileSections preferences.profiles).foldlM addSection
      preferences.openingParts =
        some (preferences.openingParts ++
          [preferences.defaultsPart, profilesPart preferences.profiles]) := by
  have absent : "profiles" ∉ Entries.keys (preferences.openingParts ++ [preferences.defaultsPart]) := by
    rw [openingParts]
    cases preferences.defaultProfile <;> simp [Entries.keys, stringPart, defaultsPart]
  have split : preferences.openingParts ++
      [preferences.defaultsPart, profilesPart preferences.profiles] =
        preferences.openingParts ++ [preferences.defaultsPart] ++
          [profilesPart preferences.profiles] := by simp
  rw [List.foldlM_cons, addSection_defaults, split, profileSections]
  generalize preferences.openingParts ++ [preferences.defaultsPart] = front at absent ⊢
  cases profiles : preferences.profiles with
  | nil =>
    have none : Entries.get? front "profiles" = none := Entries.get?_eq_none_iff.mpr absent
    have opened : addSection front ⟨.table ["profiles"], []⟩ = some (front ++ [profilesPart []]) := by
      change Parts.openTable "profiles" [] front = _
      rw [Parts.openTable, none]
      rfl
    simp [opened]
  | cons entry rest =>
    rw [profiles] at ordered
    have all := addSections_profiles absent (show Entries.Distinct ([] ++ _) from ordered.distinct)
    simpa using all

/-- The tables that preferences make up. -/
def stringValue (key text : String) : String × Value :=
  (key, .string text)

def profileValue (entry : String × Profile) : String × Value :=
  (entry.1, .table (stringValue "store" entry.2.store ::
    (entry.2.exportFolder.map (stringValue "export_dir")).toList))

def tables (preferences : Preferences) : List (String × Value) :=
  (preferences.defaultProfile.map (stringValue "default_profile")).toList ++
    [("defaults", .table [stringValue "output" preferences.output,
        stringValue "color" preferences.color]),
      ("profiles", .table (preferences.profiles.map profileValue))]

theorem toValue_profilePart (entry : String × Profile) :
    ((profilePart entry).1, (profilePart entry).2.toValue) = profileValue entry := by
  rw [profilePart, profileParts, profileValue]
  cases entry.2.exportFolder <;> rfl

theorem valueEntries_parts (preferences : Preferences) :
    valueEntries (preferences.openingParts ++
      [preferences.defaultsPart, profilesPart preferences.profiles]) = preferences.tables := by
  have profiles : valueEntries (preferences.profiles.map profilePart) =
      preferences.profiles.map profileValue := by
    rw [valueEntries_eq, List.map_map]
    exact List.map_congr_left fun entry _ => toValue_profilePart entry
  have opening : valueEntries preferences.openingParts =
      (preferences.defaultProfile.map (stringValue "default_profile")).toList := by
    rw [openingParts]
    cases preferences.defaultProfile <;> rfl
  rw [valueEntries_eq, List.map_append, ← valueEntries_eq, opening, tables, ← profiles]
  rfl

/-- The text opens with no byte-order mark. -/
theorem chars_ne_mark (preferences : Preferences) (rest : List Char) :
    preferences.chars ≠ '\ufeff' :: rest := by
  rw [chars]
  cases preferences.defaultProfile <;>
    · intro same
      cases same

theorem document?_text (preferences : Preferences) (ordered : InOrder preferences.profiles) :
    document? preferences.text = some preferences.tables := by
  have same : preferences.text.toList = preferences.chars := String.toList_ofList
  rw [document?_of_reads (by rw [same]; exact chars_ne_mark preferences)
      (by rw [same]; exact reads_chars preferences),
    fill_openingLines, Option.bind_some, addSections preferences ordered, Option.map_some,
    valueEntries_parts]

def profileLayer (entry : String × Profile) : String × Layer :=
  (entry.1, .dict (("store", .string entry.2.store) ::
    (entry.2.exportFolder.map fun folder => ("export_dir", .string folder)).toList))

theorem ofToml_profileValue (entry : String × Profile) :
    ((profileValue entry).1, Layer.ofToml (profileValue entry).2) = profileLayer entry := by
  rw [profileValue, profileLayer]
  cases entry.2.exportFolder <;> rfl

theorem asProfile_profileLayer (entry : String × Profile) :
    (profileLayer entry).2.asProfile = .ok entry.2 := by
  obtain ⟨name, store, folder⟩ := entry
  cases folder <;> rfl

theorem asProfiles_profileLayers {profiles : List (String × Profile)} (ordered : InOrder profiles) :
    (Layer.dict (profiles.map profileLayer)).asProfiles = .ok profiles := by
  have stays : Layer.sortEntries (profiles.map profileLayer) = profiles.map profileLayer :=
    Layer.sortEntries_of_inOrder (List.pairwise_map.mpr ordered)
  rw [Layer.asProfiles, stays, mapM_eq_ok_iff, List.forall₂_map_left_iff]
  refine List.forall₂_same.mpr fun entry _ => ?_
  dsimp only
  rw [asProfile_profileLayer]
  rfl

/-- The entries of the layer of preferences with a default profile of this name. -/
def layerEntries (preferences : Preferences) (name : String) : List (String × Layer) :=
  [("default_profile", .string name),
    ("defaults", .dict [("output", .string preferences.output), ("color", .string preferences.color)]),
    ("profiles", .dict (preferences.profiles.map profileLayer))]

variable {name : String}

theorem entriesOfToml_tables (named : preferences.defaultProfile = some name) :
    Layer.entriesOfToml preferences.tables = preferences.layerEntries name := by
  have profiles : Layer.entriesOfToml (preferences.profiles.map profileValue) =
      preferences.profiles.map profileLayer := by
    rw [Layer.entriesOfToml_eq, List.map_map]
    exact List.map_congr_left fun entry _ => ofToml_profileValue entry
  rw [tables, named, layerEntries, ← profiles]
  rfl

theorem fileEntries_text (named : preferences.defaultProfile = some name)
    (ordered : InOrder preferences.profiles) :
    fileEntries (some preferences.text) = .ok (preferences.layerEntries name) := by
  rw [fileEntries, document?_text preferences ordered]
  dsimp only
  rw [entriesOfToml_tables named]

/-- Over the built-in values there are the values of the preferences alone. -/
theorem layers_layerEntries (ordered : InOrder preferences.profiles) :
    layers (preferences.layerEntries name) [] = .dict (preferences.layerEntries name) := by
  have distinct : Entries.Distinct (preferences.profiles.map profileLayer) :=
    (show InOrder (preferences.profiles.map profileLayer) from List.pairwise_map.mpr ordered).distinct
  simp [layers, layerEntries, initialLayer, Layer.override, Layer.overrideEntries,
    Layer.ofEnvironment, Entries.get?, Entries.insert, Layer.overrideEntries_nil distinct]

theorem asPreferences_layerEntries (named : preferences.defaultProfile = some name)
    (ordered : InOrder preferences.profiles) :
    Layer.asPreferences (.dict (preferences.layerEntries name)) = .ok preferences := by
  have profiles : Layer.readAt? "profiles" Layer.asProfiles (preferences.layerEntries name) =
      .ok (some preferences.profiles) := by
    have there := asProfiles_profileLayers ordered
    simp [Layer.readAt?, layerEntries, Entries.get?, there, Layer.underKey, Except.map,
      Except.mapError]
  rw [Layer.asPreferences, profiles]
  obtain ⟨defaultProfile, output, color, profiles⟩ := preferences
  cases named
  rfl

/-- Preferences that are sound are loaded back from their text. -/
theorem load_text (sound : preferences.Sound) :
    load (some preferences.text) [] = .ok preferences := by
  obtain ⟨name, named⟩ := Option.isSome_iff_exists.mp sound.named
  rw [load_eq, fileEntries_text named sound.ordered]
  change (layers (preferences.layerEntries name) []).asPreferences >>= validate = _
  rw [layers_layerEntries sound.ordered, asPreferences_layerEntries named sound.ordered]
  exact validate_of_stored sound.stored

/-- Preferences with a profile without a path are rejected when they are loaded back. -/
theorem load_text_emptyStore {empty : String} {profile : Profile}
    (named : preferences.defaultProfile = some name) (ordered : InOrder preferences.profiles)
    (found : preferences.profiles.find? (fun entry => entry.2.store.isEmpty) = some (empty, profile)) :
    load (some preferences.text) [] = .error (.emptyStore empty) := by
  rw [load_eq, fileEntries_text named ordered]
  change (layers (preferences.layerEntries name) []).asPreferences >>= validate = _
  rw [layers_layerEntries ordered, asPreferences_layerEntries named ordered]
  change preferences.validate = _
  rw [validate, found]

end Preferences

end ScannerConfig
