import ScannerConfig.Command.Logged
import ScannerConfig.Command.Message
import ScannerConfig.Command.Target
import ScannerConfig.Preferences.File
import ScannerConfig.Schema.Options
import ScannerConfig.Store.File
import ScannerConfig.Transfer.Export
import ScannerConfig.Transfer.Import

namespace ScannerConfig

/-- What a command finds around it besides files. Nobody is asked: standard input is no terminal. -/
structure Surroundings where
  environment : List (String × String)
  /-- All of standard input. That it may fail to be read is left out. -/
  input : List UInt8
  /-- The instant of the run. -/
  seconds : Int
  /-- Whether standard error is a terminal. -/
  onTerminal : Bool

/-- A step of a command: it works on files, tells messages, and may fail. -/
abbrev Act (m : Type → Type) := ExceptT Failure (StateT (List Message) m)

namespace Act

variable {m : Type → Type} [Monad m]

def tell (message : Message) : Act m Unit :=
  modify fun messages => messages ++ [message]

def onFiles {α : Type} (step : m (Except FileError α)) : Act m α :=
  ExceptT.mk (StateT.lift (Except.mapError Failure.file <$> step))

def onStore {α : Type} (step : ExceptT Fault m α) : Act m α :=
  ExceptT.mk (StateT.lift (Except.mapError Failure.ofFault <$> step.run))

def ofExcept {α : Type} (result : Except Failure α) : Act m α :=
  ExceptT.mk (pure result)

def logAll : List LogEntry → Act m Unit
  | [] => pure ()
  | entry :: entries => do
    tell (.log entry)
    logAll entries

variable [Files m]

def preferences (around : Surroundings) : Act m Preferences :=
  ExceptT.lift (StateT.lift (Preferences.current around.environment))

/-- The name of standard input as a file. -/
def standardInput : String := "-"

def readInput (around : Surroundings) (path : String) : Act m (List UInt8) :=
  if path = standardInput then pure around.input
  else do
    match ← ExceptT.lift (StateT.lift (Files.read path)) with
    | .ok bytes => return bytes
    | .error .notFound => throw (.inputNotFound path)
    | .error error => throw (.file error)

/-- Reads and normalizes an input. -/
def takeInput (around : Surroundings) (path : String) : Act m Import := do
  let bytes ← readInput around path
  let taken ← ofExcept ((prepareImport bytes).mapError Failure.ofFault)
  logAll (taken.notices.map .ofNotice)
  return taken

def normalizeFile (around : Surroundings) (flags : GlobalFlags) (input : String)
    (out : Option String) (report : Bool) : Act m Unit := do
  let preferences ← preferences around
  let taken ← takeInput around input
  let text := (outputFormat flags preferences).render taken.document
  match out with
  | some path =>
    onFiles (Files.write path (Utf8.encode (text ++ "\n").toList))
    tell (.success ("Wrote " ++ path))
  | none => tell (.output text)
  if report then tell (.changes taken.report)

/-- Imports a file, for review only or into the store. On a terminal the user would be asked for a
confirmation instead of being refused, and the run would end with status 1 if it was denied; that is
left out. -/
def importFile (around : Surroundings) (flags : GlobalFlags) (file : String) (review : Bool) :
    Act m Unit := do
  let preferences ← preferences around
  let taken ← takeInput around file
  if review then
    tell (.output ((outputFormat flags preferences).render taken.document))
    tell (.log (.reviewed taken.report))
    tell (.changes taken.report)
    tell (.notice "Review only: nothing was saved.")
  else
    let target ← ofExcept (target flags preferences (Preferences.settingsPath around.environment))
    if flags.yes then
      onStore (FileStore.save target.store taken.document .replace)
      tell (.log (.saved target.store))
      tell (.log (.applied taken.report))
      tell (.success ("Imported " ++ file ++ " into " ++ target.store ++ " (" ++
        toString taken.report.total ++ " changes)"))
    else throw (.unconfirmed "import")

def exportFile (around : Surroundings) (flags : GlobalFlags) (folder : Option String)
    (dataUri : Bool) : Act m Unit := do
  let preferences ← preferences around
  let target ← ofExcept (target flags preferences (Preferences.settingsPath around.environment))
  let document ← onStore (FileStore.load target.store)
  let file := ExportFile.ofDocument document around.seconds
  tell (.log (.exported file.name file.bytes.length))
  if dataUri then tell (.output file.dataUri)
  else
    let folder := folder.getD target.folder
    let path := joinPath folder file.name
    onFiles (Files.makeFolders folder)
    onFiles (Files.write path file.bytes)
    tell (.success ("Exported " ++ path ++ " (" ++ ExportFile.mime ++ ")"))
    tell (.output path)

/-- Options are shown as a table or as lines unless a format is asked for. -/
def showOptions (format : Option OutputFormat) (document : Json) (plain : String) : Act m Unit :=
  match format with
  | some format => tell (.output (format.render document))
  | none => tell (.output plain)

/-- Saves preferences in their file and says what was done. -/
def savePreferences (around : Surroundings) (preferences : Preferences) (done : String → String) :
    Act m Unit := do
  let path := Preferences.settingsPath around.environment
  onFiles (preferences.save path)
  tell (.success (done path))

/-- Adds a profile. The first one becomes the default one. A run without a path fails; on a terminal
the user would be asked for one, which is left out. -/
def initProfile (around : Surroundings) (name : String) (store folder : Option String) :
    Act m Unit := do
  let preferences ← preferences around
  match store with
  | none => throw (.invalidValue "interactive" "prompt failed: IO error: not a terminal")
  | some "" => throw (.invalidValue "store" "path cannot be empty")
  | some store =>
    let preferences := preferences.addProfile name ⟨store, folder⟩
    let preferences := if preferences.profiles.length = 1 then
        { preferences with defaultProfile := some name }
      else preferences
    savePreferences around preferences fun path => "Profile '" ++ name ++ "' saved to " ++ path

def useProfile (around : Surroundings) (name : String) : Act m Unit := do
  let preferences ← preferences around
  match preferences.profile? name with
  | none => throw (.profileNotFound name preferences.names)
  | some _ =>
    savePreferences around { preferences with defaultProfile := some name } fun _ =>
      "Default profile set to '" ++ name ++ "'"

end Act

namespace Command

variable {m : Type → Type} [Monad m] [Files m]

def act (around : Surroundings) (flags : GlobalFlags) : Command → Act m Unit
  | .normalize input out report => Act.normalizeFile around flags input out report
  | .importFile file review => Act.importFile around flags file review
  | .exportFile folder dataUri => Act.exportFile around flags folder dataUri
  | .optionDefaults =>
    Act.showOptions flags.output (.object defaultOptions) renderOptionTable
  | .optionObsolete =>
    Act.showOptions flags.output (.array (obsoleteOptions.map .string))
      ("\n".intercalate obsoleteOptions)
  | .initProfile name store folder => Act.initProfile around name store folder
  | .showPreferences => do
    let preferences ← Act.preferences around
    Act.tell (.output preferences.text)
  | .preferencesPath => Act.tell (.output (Preferences.settingsPath around.environment))
  | .useProfile name => Act.useProfile around name
  | .completions _ => pure ()

def display (around : Surroundings) (flags : GlobalFlags) : Display :=
  ⟨flags.quiet, flags.color.isColored around.onTerminal around.environment,
    isLogColored around.environment, logRules around.environment flags⟩

/-- Runs a command and shows what it tells. -/
def run (around : Surroundings) (flags : GlobalFlags) (command : Command) : m Outcome := do
  let (result, messages) ← (command.act around flags).run.run []
  return .ofRun (display around flags) result messages

/-- The path of a command's input. -/
def input? : Command → Option String
  | normalize input _ _ => some input
  | importFile file _ => some file
  | _ => none

/-- Whether a command reads standard input. -/
def readsInput (command : Command) : Bool :=
  command.input? == some Act.standardInput

end Command

end ScannerConfig
