import ScannerConfig.Command.Run
import ScannerConfig.Command.Usage
import Std.Time.DateTime.Timestamp

namespace ScannerConfig

/-- Whether a number reported by the machine stands for a cause; some are reported negated. -/
def isCode (code : UInt32) (cause : UInt32) : Bool :=
  code == cause || code == 0 - cause

def fileErrorOf : IO.Error → FileError
  | .noFileOrDirectory _ _ _ | .noSuchThing _ _ _ => .notFound
  | .alreadyExists _ _ _ => .alreadyExists
  | .resourceBusy _ _ => .busy
  | .inappropriateType _ code _ => if isCode code 21 then .isAFolder else .notAFolder
  | .invalidArgument file code details =>
    if isCode code 36 then .nameTooLong
    else .other (toString (IO.Error.invalidArgument file code details))
  | .permissionDenied _ code details => .other (details ++ " (os error " ++ toString code ++ ")")
  | error => .other (toString error)

def attempted {α : Type} (step : IO α) : IO (Except FileError α) := do
  try
    return .ok (← step)
  catch error =>
    return .error (fileErrorOf error)

instance : Files IO where
  read path := attempted do return (← IO.FS.readBinFile path).toList
  write path content := attempted (IO.FS.writeBinFile path ⟨content.toArray⟩)
  makeFolders path :=
    if path.isEmpty then return .ok () else attempted (IO.FS.createDirAll path)
  rename source target := attempted (IO.FS.rename source target)

/-- A variable with its value, from the text with an equals sign between them. -/
def variableOf (text : List Char) : String × String :=
  (String.ofList (text.takeWhile (· ≠ '=')), String.ofList ((text.dropWhile (· ≠ '=')).drop 1))

/-- The variables of the environment, each closed by a zero byte. -/
def variablesOf (bytes : List UInt8) : List (String × String) :=
  (bytes.splitOn 0).filterMap fun entry =>
    if entry.isEmpty then none else (Utf8.text? entry).map fun text => variableOf text.toList

def readEnvironment : IO (List (String × String)) := do
  match ← attempted (IO.FS.readBinFile "/proc/self/environ") with
  | .ok bytes => return variablesOf bytes.toList
  | .error _ => return []

def runArguments (arguments : List String) : IO Outcome := do
  let environment ← readEnvironment
  match Command.ofArguments arguments environment with
  | .error fault => return fault.outcome
  | .ok (flags, command) =>
    let input ← if command.readsInput then (← IO.getStdin).readBinToEnd else pure ByteArray.empty
    let now ← Std.Time.Timestamp.now
    let onTerminal ← (← IO.getStderr).isTty
    command.run ⟨environment, input.toList, now.toSecondsSinceUnixEpoch.val, onTerminal⟩ flags

end ScannerConfig

def main (arguments : List String) : IO UInt32 := do
  let outcome ← ScannerConfig.runArguments arguments
  (← IO.getStdout).putStr outcome.output
  (← IO.getStderr).putStr outcome.errors
  return UInt32.ofNat outcome.status
