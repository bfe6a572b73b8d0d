import ScannerConfig.Files.Access
import ScannerConfig.Preferences.Load
import ScannerConfig.Preferences.Text
import ScannerConfig.Text.Utf8

namespace ScannerConfig.Preferences

/-- The folder of the settings of all programs: the one named by the environment if its path is
absolute, or else a hidden one in the home folder. -/
def settingsFolder (environment : List (String × String)) : String :=
  let usual := joinPath ((Entries.get? environment "HOME").getD ".") ".config"
  match Entries.get? environment "XDG_CONFIG_HOME" with
  | some folder => if (Path.ofText folder).absolute then folder else usual
  | none => usual

def settingsPath (environment : List (String × String)) : String :=
  joinPath (joinPath (settingsFolder environment) "rdio-admin") "config.toml"

variable {m : Type → Type} [Monad m] [Files m]

/-- The preferences in use. A file that is missing adds nothing to the environment; where the
file or the environment cannot be read, the initial preferences hold. -/
def current (environment : List (String × String)) : m Preferences := do
  let loaded := fun file => (load file environment).toOption.getD initial
  match ← Files.read (settingsPath environment) with
  | .ok bytes =>
    match Utf8.text? bytes with
    | some text => return loaded (some text)
    | none => return initial
  | .error (.other _) => return initial
  | .error _ => return loaded none

/-- Writes preferences to a file, making its folder. -/
def save (preferences : Preferences) (path : String) : m (Except FileError Unit) := do
  match ← makeFolderOf path with
  | .error error => return .error error
  | .ok () => Files.write path (Utf8.encode preferences.chars)

end ScannerConfig.Preferences
