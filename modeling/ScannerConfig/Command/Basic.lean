import ScannerConfig.Output.Render

namespace ScannerConfig

inductive ColorMode where
  | auto
  | always
  | never
  deriving DecidableEq, Repr

inductive Shell where
  | bash
  | elvish
  | fish
  | powershell
  | zsh
  deriving DecidableEq, Repr

structure GlobalFlags where
  profile : Option String
  store : Option String
  output : Option OutputFormat
  color : ColorMode
  verbose : Nat
  quiet : Bool
  yes : Bool
  deriving DecidableEq, Repr

inductive Command where
  | normalize (input : String) (out : Option String) (report : Bool)
  | importFile (file : String) (review : Bool)
  | exportFile (folder : Option String) (dataUri : Bool)
  | optionDefaults
  | optionObsolete
  | initProfile (name : String) (store folder : Option String)
  | showPreferences
  | preferencesPath
  | useProfile (name : String)
  | completions (shell : Shell)
  deriving DecidableEq, Repr

namespace ColorMode

def name : ColorMode → String
  | auto => "auto"
  | always => "always"
  | never => "never"

def all : List ColorMode := [auto, always, never]

end ColorMode

namespace Shell

def name : Shell → String
  | bash => "bash"
  | elvish => "elvish"
  | fish => "fish"
  | powershell => "powershell"
  | zsh => "zsh"

def all : List Shell := [bash, elvish, fish, powershell, zsh]

end Shell

end ScannerConfig
