import ScannerConfig.Preferences.Basic
import ScannerConfig.Toml.Printer

namespace ScannerConfig.Preferences

/-- A key with a text. -/
def entryChars (key text : String) : List Char :=
  key.toList ++ [' ', '=', ' '] ++ Toml.stringChars text ++ ['\n']

def optionalEntry (key : String) (text : Option String) : List Char :=
  match text with
  | some text => entryChars key text
  | none => []

def profileChars (name : String) (profile : Profile) : List Char :=
  "\n[profiles.".toList ++ Toml.keyChars name ++ [']', '\n'] ++
    entryChars "store" profile.store ++ optionalEntry "export_dir" profile.exportFolder

def profilesChars (profiles : List (String × Profile)) : List Char :=
  if profiles.isEmpty then "\n[profiles]\n".toList
  else profiles.flatMap fun entry => profileChars entry.1 entry.2

def chars (preferences : Preferences) : List Char :=
  let opening := match preferences.defaultProfile with
    | some name => entryChars "default_profile" name ++ ['\n']
    | none => []
  opening ++ "[defaults]\n".toList ++ entryChars "output" preferences.output ++
    entryChars "color" preferences.color ++ profilesChars preferences.profiles

/-- The preferences as TOML. -/
def text (preferences : Preferences) : String :=
  String.ofList preferences.chars

end ScannerConfig.Preferences
