import ScannerConfig.Entries

namespace ScannerConfig

/-- What a value of an argument has to be. -/
inductive ValueKind where
  | text
  /-- A path, which is not empty. -/
  | path
  | choice (names : List String)
  deriving DecidableEq, Repr

def ValueKind.accepts : ValueKind → String → Bool
  | text, _ => true
  | path, value => !value.isEmpty
  | choice names, value => names.contains value

/-- What a flag does. -/
inductive FlagEffect where
  | takes (kind : ValueKind)
  | mark
  | count
  | help
  | version
  deriving DecidableEq, Repr

structure Flag where
  /-- The name behind two dashes. -/
  name : String
  /-- The letter behind a single dash. -/
  short : Option Char
  effect : FlagEffect
  /-- The variable that gives the flag its value where the command line does not. -/
  variableName : Option String
  deriving DecidableEq, Repr

/-- An argument that is known by its place. -/
structure Operand where
  name : String
  kind : ValueKind
  required : Bool
  deriving DecidableEq, Repr

/-- A command with the commands below it, each under its name and the other names it answers to. -/
structure Level where
  flags : List Flag
  operands : List Operand
  /-- Flags that exclude one another. -/
  conflicts : List (String × String)
  /-- Whether the bare command shows its help. -/
  helpIfBare : Bool
  commands : List (String × List String × Level)

/-- Why a command line is not carried out. -/
inductive UsageFault where
  | unknownArgument
  | invalidValue
  | conflict
  | unexpectedValue
  | unknownCommand
  | missingCommand
  | missingArgument
  | help
  | helpForBareCommand
  | version (command : List String)
  deriving DecidableEq, Repr

/-- Where a value comes from; the higher source wins. -/
inductive Source where
  | environment
  | line
  deriving DecidableEq, Repr

inductive Given where
  | text (source : Source) (value : String)
  | mark
  | count (times : Nat)
  deriving DecidableEq, Repr

/-- A value that is still to be taken over: of a flag that waits for it, or of an operand. -/
structure Pending where
  name : String
  kind : ValueKind
  value : Option String

/-- The arguments read so far. -/
structure Scan where
  given : Entries Given
  pending : Option Pending
  /-- Whether the next word is the value of a flag. -/
  awaiting : Bool
  /-- How many operands there were. -/
  position : Nat
  /-- Whether two dashes have closed the flags. -/
  operandsOnly : Bool

namespace Scan

def start : Scan := ⟨[], none, false, 0, false⟩

/-- Gives a name its value, which it must not have yet. -/
def give (scan : Scan) (name : String) (given : Given) : Except UsageFault Scan :=
  if scan.given.has name then .error .conflict
  else .ok { scan with given := scan.given.insert name given }

def giveText (scan : Scan) (name : String) (kind : ValueKind) (value : String) :
    Except UsageFault Scan :=
  if scan.given.has name then .error .conflict
  else if kind.accepts value then scan.give name (.text .line value)
  else .error .invalidValue

/-- Takes over the value that is pending. -/
def resolve (scan : Scan) : Except UsageFault Scan :=
  match scan.pending with
  | none => .ok scan
  | some pending =>
    match pending.value with
    | none => .error .invalidValue
    | some value => { scan with pending := none }.giveText pending.name pending.kind value

def countOf (scan : Scan) (name : String) : Nat :=
  match scan.given.get? name with
  | some (.count times) => times
  | _ => 0

/-- The most that a flag is counted. -/
def countLimit : Nat := 255

/-- Sets a flag that takes no value. -/
def setFlag (command : List String) (scan : Scan) (flag : Flag) : Except UsageFault Scan := do
  let scan ← scan.resolve
  let scan := { scan with awaiting := false }
  match flag.effect with
  | .mark => scan.give flag.name .mark
  | .count =>
    let times := min (scan.countOf flag.name + 1) countLimit
    .ok { scan with given := scan.given.insert flag.name (.count times) }
  | .help => .error .help
  | .version => .error (.version command)
  | .takes kind => .ok { scan with pending := some ⟨flag.name, kind, none⟩, awaiting := true }

/-- Sets a flag whose value is attached to it. -/
def setAttached (scan : Scan) (flag : Flag) (kind : ValueKind) (value : String) :
    Except UsageFault Scan := do
  let scan ← scan.resolve
  { scan with awaiting := false }.giveText flag.name kind value

/-- A flag by its long name, with what an equals sign attaches to it. -/
def longFlag (level : Level) (command : List String) (scan : Scan) (text : List Char) :
    Except UsageFault Scan :=
  let name := String.ofList (text.takeWhile (· ≠ '='))
  let attached := match text.dropWhile (· ≠ '=') with
    | _ :: value => some (String.ofList value)
    | [] => none
  match level.flags.find? fun flag => flag.name == name with
  | none => .error .unknownArgument
  | some flag =>
    match flag.effect, attached with
    | .takes kind, some value => scan.setAttached flag kind value
    | _, some _ => .error .unexpectedValue
    | _, none => scan.setFlag command flag

/-- Flags by their letters; one that takes a value takes the rest of the word for it. -/
def shortFlags (level : Level) (command : List String) : Scan → List Char → Except UsageFault Scan
  | scan, [] => .ok scan
  | scan, letter :: rest =>
    match level.flags.find? fun flag => flag.short == some letter with
    | none => .error .unknownArgument
    | some flag =>
      match flag.effect, rest with
      | .takes kind, '=' :: value => scan.setAttached flag kind (String.ofList value)
      | .takes kind, c :: value => scan.setAttached flag kind (String.ofList (c :: value))
      | _, rest => do
        let scan ← scan.setFlag command flag
        shortFlags level command scan rest

def helpName : String := "help"

def command? (level : Level) (word : String) : Option (String × Level) :=
  (level.commands.find? fun entry => entry.1 == word || entry.2.1.contains word).map fun entry =>
    (entry.1, entry.2.2)

/-- Whether a word is a command at a level; help is one wherever there are others. -/
def isCommand (level : Level) (word : String) : Bool :=
  (command? level word).isSome || (!level.commands.isEmpty && word == helpName)

/-- A word in the place of the next operand. -/
def operand (level : Level) (scan : Scan) (word : String) : Except UsageFault Scan :=
  match level.operands[scan.position]? with
  | some operand => do
    let scan ← scan.resolve
    .ok { scan with
      pending := some ⟨operand.name, operand.kind, some word⟩, awaiting := false,
      position := scan.position + 1 }
  | none =>
    if scan.operandsOnly && isCommand level word then .error .unknownArgument
    else if level.commands.isEmpty then .error .unknownArgument
    else .error .unknownCommand

/-- A word that is no command: two dashes, flags, the value of a flag or an operand. -/
def word (level : Level) (command : List String) (scan : Scan) (text : String) :
    Except UsageFault Scan :=
  if scan.operandsOnly then scan.operand level text
  else match text.toList with
    | ['-', '-'] => .ok { scan with operandsOnly := true }
    | '-' :: '-' :: long => scan.longFlag level command long
    | '-' :: letter :: letters => shortFlags level command scan (letter :: letters)
    | _ =>
      match scan.awaiting, scan.pending with
      | true, some pending =>
        .ok { scan with pending := some { pending with value := some text }, awaiting := false }
      | _, _ => scan.operand level text

/-- The command that a help command asks about has to be there. -/
def helpOn (level : Level) : List String → UsageFault
  | [] => .help
  | word :: rest =>
    match command? level word with
    | some (_, level) => helpOn level rest
    | none =>
      if !level.commands.isEmpty && word == helpName && rest.isEmpty then .help
      else .unknownCommand

/-- Reads words up to the end or to a command, which it answers with the words behind it. -/
def words (level : Level) (command : List String) :
    Scan → List String → Except UsageFault (Scan × Option (String × Level × List String))
  | scan, [] => .ok (scan, none)
  | scan, text :: rest =>
    if !scan.operandsOnly && !scan.awaiting && isCommand level text then
      match command? level text with
      | some (name, below) => .ok (scan, some (name, below, rest))
      | none => .error (helpOn level rest)
    else do
      let scan ← scan.word level command text
      words level command scan rest

end Scan

/-- Values from the environment for flags that have none from the command line. -/
def giveVariables (environment : List (String × String)) :
    List Flag → Entries Given → Except UsageFault (Entries Given)
  | [], given => .ok given
  | flag :: flags, given =>
    if given.has flag.name then giveVariables environment flags given
    else match flag.effect, flag.variableName.bind (Entries.get? environment) with
      | .takes kind, some value =>
        if kind.accepts value then
          giveVariables environment flags (given.insert flag.name (.text .environment value))
        else .error .invalidValue
      | _, _ => giveVariables environment flags given

/-- Checks what is given at a level as a whole. -/
def Level.check (level : Level) (given : Entries Given) (hasCommand : Bool) :
    Except UsageFault Unit :=
  if !hasCommand && level.helpIfBare && given.isEmpty then .error .helpForBareCommand
  else if !hasCommand && !level.commands.isEmpty then .error .missingCommand
  else if level.conflicts.any fun pair => given.has pair.1 && given.has pair.2 then
    .error .conflict
  else if level.operands.any fun operand => operand.required && !given.has operand.name then
    .error .missingArgument
  else .ok ()

/-- Reads the arguments of a command and of the commands below it, `depth` levels at most. The
answer holds the values given at each level, from the top down, with the names of the commands. -/
def Level.read (environment : List (String × String)) :
    Nat → Level → List String → List String →
      Except UsageFault (List String × List (Entries Given))
  | 0, _, command, _ => .ok (command, [])
  | depth + 1, level, command, words => do
    let (scan, next) ← Scan.words level command Scan.start words
    let (names, below) ← match next with
      | some (name, inner, rest) => Level.read environment depth inner (command ++ [name]) rest
      | none => .ok (command, [])
    let scan ← scan.resolve
    let given ← giveVariables environment level.flags scan.given
    level.check given next.isSome
    .ok (names, given :: below)

/-- The value of a flag that all levels share: one from the command line before one from the
environment, and of those the one of the deepest level. -/
def sharedValue (levels : List (Entries Given)) (name : String) : Option Given :=
  levels.foldl (fun best given =>
    match best, given.get? name with
    | some (.text .line value), some (.text .environment _) => some (.text .line value)
    | _, some value => some value
    | best, none => best) none

end ScannerConfig
