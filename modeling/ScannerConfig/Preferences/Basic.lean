import ScannerConfig.Entries

namespace ScannerConfig

structure Profile where
  /-- The file of the stored configuration. -/
  store : String
  /-- The folder that exports go to. -/
  exportFolder : Option String
  deriving DecidableEq, Repr

structure Preferences where
  defaultProfile : Option String
  output : String
  color : String
  /-- Profiles in the order of their names. -/
  profiles : List (String × Profile)
  deriving DecidableEq, Repr

/-- Exports go to the working folder unless a profile names another. -/
def Profile.folder (profile : Profile) : String :=
  profile.exportFolder.getD "."

namespace Preferences

def initial : Preferences :=
  ⟨some "default", "json", "auto", []⟩

def profile? (preferences : Preferences) (name : String) : Option Profile :=
  Entries.get? preferences.profiles name

def names (preferences : Preferences) : List String :=
  preferences.profiles.map Prod.fst

/-- Puts a profile at its place in the order of names, in place of one of the same name. -/
def insertSorted {α : Type} (name : String) (value : α) : List (String × α) → List (String × α)
  | [] => [(name, value)]
  | (other, old) :: rest =>
    if name = other then (name, value) :: rest
    else if name < other then (name, value) :: (other, old) :: rest
    else (other, old) :: insertSorted name value rest

def addProfile (preferences : Preferences) (name : String) (profile : Profile) : Preferences :=
  { preferences with profiles := insertSorted name profile preferences.profiles }

end Preferences

end ScannerConfig
