import ScannerConfig.Preferences.Basic
import ScannerConfig.Preferences.Environment

namespace ScannerConfig

/-- What is wrong with a value at a path of keys. -/
inductive LayerFault where
  | kind (found expected : String)
  | length (found : Nat) (expected : String)
  | missing (key : String)
  deriving DecidableEq, Repr

def LayerFault.message : LayerFault → String
  | kind found expected => "invalid type: found " ++ found ++ ", expected " ++ expected
  | length found expected => "invalid length " ++ toString found ++ ", expected " ++ expected
  | missing key => "missing field `" ++ key ++ "`"

inductive LoadFault where
  /-- The file is no TOML. -/
  | syntaxFault
  | layer (path : List String) (fault : LayerFault)
  /-- A profile without a path. -/
  | emptyStore (name : String)
  deriving DecidableEq, Repr

namespace Layer

def mismatch {α : Type} (layer : Layer) (expected : String) : Except LoadFault α :=
  .error (.layer [] (.kind layer.phrase expected))

/-- A fault found under a key. -/
def underKey {α : Type} (key : String) (result : Except LoadFault α) : Except LoadFault α :=
  result.mapError fun
    | .layer path fault => .layer (key :: path) fault
    | other => other

def asText (expected : String) : Layer → Except LoadFault String
  | .string text => .ok text
  | other => mismatch other expected

/-- The text under a key, if there is one. -/
def textAt? (expected key : String) (entries : List (String × Layer)) :
    Except LoadFault (Option String) :=
  match Entries.get? entries key with
  | none => .ok none
  | some value => underKey key ((value.asText expected).map some)

/-- The text of an item of a list, if there is one. -/
def textOfItem? (expected : String) (index : Nat) (items : List Layer) :
    Except LoadFault (Option String) :=
  match items[index]? with
  | none => .ok none
  | some value => underKey (toString index) ((value.asText expected).map some)

def pathText : String := "path string"

/-- A profile, written by keys or as a list of both its values. -/
def asProfile : Layer → Except LoadFault Profile
  | .dict entries => do
    let folder ← textAt? pathText "export_dir" entries
    let store ← textAt? pathText "store" entries
    match store with
    | some store => .ok ⟨store, folder⟩
    | none => .error (.layer [] (.missing "store"))
  | .list items => do
    let store ← textOfItem? pathText 0 items
    let folder ← textOfItem? pathText 1 items
    match store, folder with
    | none, _ => .error (.layer [] (.length 0 "struct Profile with 2 elements"))
    | some _, none => .error (.layer [] (.length 1 "struct Profile with 2 elements"))
    | some store, some folder => .ok ⟨store, some folder⟩
  | other => mismatch other "struct Profile"

/-- The output format and the color mode, each of which may be left out. -/
def asDefaults : Layer → Except LoadFault (String × String)
  | .dict entries => do
    let color ← textAt? "a string" "color" entries
    let output ← textAt? "a string" "output" entries
    .ok (output.getD Preferences.initial.output, color.getD Preferences.initial.color)
  | .list items => do
    let output ← textOfItem? "a string" 0 items
    let color ← textOfItem? "a string" 1 items
    .ok (output.getD Preferences.initial.output, color.getD Preferences.initial.color)
  | other => mismatch other "struct Defaults"

def sortEntries (entries : List (String × Layer)) : List (String × Layer) :=
  entries.foldl (fun sorted entry => Preferences.insertSorted entry.1 entry.2 sorted) []

/-- Profiles by their names, read in the order of names. -/
def asProfiles : Layer → Except LoadFault (List (String × Profile))
  | .dict entries => (sortEntries entries).mapM fun (name, value) =>
    underKey name (value.asProfile.map fun profile => (name, profile))
  | other => mismatch other "a map"

/-- The value under a key, read if it is there. -/
def readAt? {α : Type} (key : String) (read : Layer → Except LoadFault α)
    (entries : List (String × Layer)) : Except LoadFault (Option α) :=
  match Entries.get? entries key with
  | none => .ok none
  | some value => underKey key ((read value).map some)

def asPreferences : Layer → Except LoadFault Preferences
  | .dict entries => do
    let defaultProfile ← textAt? "a string" "default_profile" entries
    let defaults ← readAt? "defaults" asDefaults entries
    let profiles ← readAt? "profiles" asProfiles entries
    let (output, color) :=
      defaults.getD (Preferences.initial.output, Preferences.initial.color)
    .ok ⟨defaultProfile, output, color, profiles.getD []⟩
  | other => mismatch other "struct Config"

end Layer

namespace Preferences

/-- The built-in values as a layer. -/
def initialLayer : Layer :=
  .dict [("default_profile", .string "default"),
    ("defaults", .dict [("output", .string initial.output), ("color", .string initial.color)]),
    ("profiles", .dict [])]

/-- Every profile needs a path. -/
def validate (preferences : Preferences) : Except LoadFault Preferences :=
  match preferences.profiles.find? fun entry => entry.2.store.isEmpty with
  | some (name, _) => .error (.emptyStore name)
  | none => .ok preferences

/-- The preferences of a file, if there is one, and the environment over it. -/
def load (file : Option String) (environment : List (String × String)) :
    Except LoadFault Preferences := do
  let entries ← match file with
    | none => pure []
    | some text =>
      match Toml.document? text with
      | some entries => pure (Layer.entriesOfToml entries)
      | none => throw .syntaxFault
  let layer := (initialLayer.override (.dict entries)).override (Layer.ofEnvironment environment)
  layer.asPreferences >>= validate

end Preferences

end ScannerConfig
