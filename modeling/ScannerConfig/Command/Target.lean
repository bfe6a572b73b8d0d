import ScannerConfig.Command.Basic
import ScannerConfig.Command.Failure
import ScannerConfig.Preferences.Basic

namespace ScannerConfig

/-- Where the configuration is stored, and where exports go. -/
structure Target where
  store : String
  folder : String
  deriving DecidableEq, Repr

/-- The profile asked for, or else the default one. -/
def activeProfile (flags : GlobalFlags) (preferences : Preferences) : String :=
  (flags.profile.or preferences.defaultProfile).getD "default"

/-- A profile that was asked for has to be there; a store that was given wins over the
profile's. -/
def target (flags : GlobalFlags) (preferences : Preferences) (settingsPath : String) :
    Except Failure Target :=
  let name := activeProfile flags preferences
  let profile := preferences.profile? name
  if profile.isNone && flags.profile.isSome then
    .error (.profileNotFound name preferences.names)
  else
    match flags.store.or (profile.map Profile.store) with
    | some store => .ok ⟨store, (profile.map Profile.folder).getD "."⟩
    | none => .error (.noStore settingsPath)

def outputFormat (flags : GlobalFlags) (preferences : Preferences) : OutputFormat :=
  flags.output.getD ((OutputFormat.ofName? preferences.output).getD .json)

end ScannerConfig
