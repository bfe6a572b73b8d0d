import ScannerConfig.Command.Grammar
import ScannerConfig.Command.Message

namespace ScannerConfig

/-- The program with the commands that lead to one of its own. -/
def programName (command : List String) : String :=
  "-".intercalate ("rdio-admin" :: command)

def versionLine (command : List String) : String :=
  programName command ++ " 0.1.0\n"

/-- The commands of a level, one a line. -/
def commandLines (level : Level) : String :=
  String.join (level.commands.map fun entry => "  " ++ entry.1 ++ "\n")

def usageText : String :=
  "Usage: " ++ programName [] ++ " [OPTIONS] <COMMAND>\n\nCommands:\n" ++
    commandLines Grammar.root

namespace UsageFault

def message : UsageFault → String
  | unknownArgument => "error: unexpected argument"
  | invalidValue => "error: invalid value"
  | conflict => "error: arguments that cannot be used together"
  | unexpectedValue => "error: unexpected value of a flag"
  | unknownCommand => "error: unrecognized command"
  | missingCommand => "error: a command is required"
  | missingArgument => "error: a required argument is missing"
  | help | helpForBareCommand | version _ => ""

/-- Help and the version are what was asked for; all else is wrong use. -/
def status : UsageFault → Nat
  | help | version _ => 0
  | _ => 2

def outcome (fault : UsageFault) : Outcome :=
  match fault with
  | version command => ⟨versionLine command, "", fault.status⟩
  | help => ⟨usageText, "", fault.status⟩
  | helpForBareCommand => ⟨"", usageText, fault.status⟩
  | _ => ⟨"", fault.message ++ "\n\n" ++ usageText, fault.status⟩

end UsageFault

end ScannerConfig
