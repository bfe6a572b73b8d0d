import ScannerConfig.Command.Arguments
import ScannerConfig.Command.Basic

namespace ScannerConfig

namespace Grammar

def valueFlag (name : String) (short : Option Char) (kind : ValueKind) : Flag :=
  ⟨name, short, .takes kind, none⟩

def markFlag (name : String) (short : Option Char) : Flag :=
  ⟨name, short, .mark, none⟩

def formatKind : ValueKind :=
  .choice ([OutputFormat.json, .compact, .yaml].map OutputFormat.name)

/-- The flags that every command takes. -/
def sharedFlags : List Flag := [
  ⟨"profile", some 'p', .takes .text, some "RDIO_ADMIN_PROFILE"⟩,
  ⟨"store", none, .takes .path, some "RDIO_ADMIN_STORE"⟩,
  ⟨"output", some 'o', .takes formatKind, some "RDIO_ADMIN_OUTPUT"⟩,
  valueFlag "color" none (.choice (ColorMode.all.map ColorMode.name)),
  ⟨"verbose", some 'v', .count, none⟩,
  markFlag "quiet" (some 'q'),
  markFlag "yes" (some 'y'),
  ⟨"help", some 'h', .help, none⟩,
  ⟨"version", some 'V', .version, none⟩]

/-- A command that is carried out. -/
def leaf (flags : List Flag) (operands : List Operand) (conflicts : List (String × String)) :
    Level :=
  ⟨flags ++ sharedFlags, operands, conflicts, false, []⟩

/-- A command that only stands for those below it. -/
def branch (commands : List (String × List String × Level)) : Level :=
  ⟨sharedFlags, [], [], true, commands⟩

def plain : Level := leaf [] [] []

def normalize : Level :=
  leaf [valueFlag "out" (some 'O') .path, markFlag "report" none] [⟨"input", .path, true⟩] []

def importFile : Level :=
  leaf [markFlag "review" none] [⟨"file", .path, true⟩] []

def exportFile : Level :=
  leaf [valueFlag "dir" (some 'd') .path, markFlag "data-uri" none] [] [("data-uri", "dir")]

def options : Level :=
  branch [("defaults", [], plain), ("obsolete", [], plain)]

def initProfile : Level :=
  leaf [valueFlag "store-path" none .path, valueFlag "export-dir" none .path]
    [⟨"name", .text, false⟩] []

def config : Level :=
  branch [("init", [], initProfile), ("show", [], plain), ("path", [], plain),
    ("use", [], leaf [] [⟨"name", .text, true⟩] [])]

def completions : Level :=
  leaf [] [⟨"shell", .choice (Shell.all.map Shell.name), true⟩] []

def root : Level :=
  branch [("normalize", ["norm"], normalize), ("import", ["imp"], importFile),
    ("export", ["exp"], exportFile), ("options", [], options), ("config", [], config),
    ("completions", [], completions)]

/-- How deep commands are nested. -/
def depth : Nat := 3

def textOf? (given : Option Given) : Option String :=
  match given with
  | some (.text _ value) => some value
  | _ => none

def isMarked (given : Option Given) : Bool :=
  given == some .mark

def flagsOf (levels : List (Entries Given)) : GlobalFlags :=
  let text := fun name => textOf? (sharedValue levels name)
  { profile := text "profile"
    store := text "store"
    output := (text "output").bind OutputFormat.ofName?
    color := ((text "color").bind fun name =>
      ColorMode.all.find? fun mode => mode.name == name).getD .auto
    verbose := match sharedValue levels "verbose" with
      | some (.count times) => times
      | _ => 0
    quiet := isMarked (sharedValue levels "quiet")
    yes := isMarked (sharedValue levels "yes") }

/-- The command of the given names with its own values. -/
def commandOf? (names : List String) (given : Entries Given) : Option Command :=
  let text := fun name => textOf? (given.get? name)
  let marked := fun name => isMarked (given.get? name)
  match names with
  | ["normalize"] => (text "input").map fun input => .normalize input (text "out") (marked "report")
  | ["import"] => (text "file").map fun file => .importFile file (marked "review")
  | ["export"] => some (.exportFile (text "dir") (marked "data-uri"))
  | ["options", "defaults"] => some .optionDefaults
  | ["options", "obsolete"] => some .optionObsolete
  | ["config", "init"] =>
    some (.initProfile ((text "name").getD "default") (text "store-path") (text "export-dir"))
  | ["config", "show"] => some .showPreferences
  | ["config", "path"] => some .preferencesPath
  | ["config", "use"] => (text "name").map .useProfile
  | ["completions"] =>
    ((text "shell").bind fun name => Shell.all.find? fun shell => shell.name == name).map
      .completions
  | _ => none

end Grammar

/-- The command that a command line spells, with the flags all commands share. -/
def Command.ofArguments (arguments : List String) (environment : List (String × String)) :
    Except UsageFault (GlobalFlags × Command) := do
  let (names, levels) ← Grammar.root.read environment Grammar.depth [] arguments
  match Grammar.commandOf? names (levels.getLast?.getD []) with
  | some command => .ok (Grammar.flagsOf levels, command)
  | none => .error .missingArgument

end ScannerConfig
