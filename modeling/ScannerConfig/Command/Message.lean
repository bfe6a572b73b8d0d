import ScannerConfig.Command.Basic
import ScannerConfig.Command.Failure
import ScannerConfig.Log.Filter
import ScannerConfig.Normalization.Change

namespace ScannerConfig

/-- The rules of the log: the environment tells them, or else the number of flags. -/
def logRules (environment : List (String × String)) (flags : GlobalFlags) : List LogRule :=
  match (Entries.get? environment "RUST_LOG").bind LogRule.listOfText? with
  | some rules => rules
  | none => [⟨"", none, .ofCount flags.verbose⟩]

/-- Colors of the log can be refused, by a text that is not empty. -/
def isLogColored (environment : List (String × String)) : Bool :=
  ((Entries.get? environment "NO_COLOR").getD "").isEmpty

/-- Whether status lines are colored; left to itself, only on a terminal that does not refuse. -/
def ColorMode.isColored (mode : ColorMode) (onTerminal : Bool)
    (environment : List (String × String)) : Bool :=
  match mode with
  | .always => true
  | .never => false
  | .auto => onTerminal && !(Entries.get? environment "NO_COLOR").isSome

inductive Message where
  /-- What was asked for. -/
  | output (text : String)
  | changes (report : Report)
  | success (text : String)
  | notice (text : String)
  | log (entry : LogEntry)

/-- How messages are shown. -/
structure Display where
  quiet : Bool
  colored : Bool
  logColored : Bool
  logRules : List LogRule
  deriving DecidableEq, Repr

namespace Message

def checkMark (colored : Bool) : String :=
  if colored then "\x1b[1m\x1b[32m✓\x1b[39m\x1b[0m" else "✓"

def noticeText (colored : Bool) (text : String) : String :=
  if colored then "\x1b[33m" ++ text ++ "\x1b[39m" else text

/-- The part of a message for standard output. -/
def outputText (display : Display) : Message → String
  | output text => if display.quiet || text.isEmpty then "" else text ++ "\n"
  | _ => ""

/-- The part of a message for standard error. Quiet leaves only the log. -/
def errorText (display : Display) : Message → String
  | output _ => ""
  | changes report => if display.quiet then "" else report.render ++ "\n"
  | success text =>
    if display.quiet then "" else checkMark display.colored ++ " " ++ text ++ "\n"
  | notice text => if display.quiet then "" else noticeText display.colored text ++ "\n"
  | log entry =>
    if LogRule.shows display.logRules entry then entry.line display.logColored else ""

end Message

/-- What a run shows and the status it ends with. -/
structure Outcome where
  output : String
  errors : String
  status : Nat
  deriving DecidableEq, Repr

/-- The outcome of a run that ended well or failed, with all it told. -/
def Outcome.ofRun (display : Display) (result : Except Failure Unit) (messages : List Message) :
    Outcome :=
  let output := String.join (messages.map (·.outputText display))
  let errors := String.join (messages.map (·.errorText display))
  match result with
  | .ok () => ⟨output, errors, 0⟩
  | .error failure => ⟨output, errors ++ failure.narration ++ "\n", failure.status⟩

end ScannerConfig
