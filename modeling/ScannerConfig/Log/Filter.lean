import ScannerConfig.Decimal.Text
import ScannerConfig.Log.Entry
import ScannerConfig.Text.Alphanumeric
import ScannerConfig.Text.Blank

namespace ScannerConfig

/-- A level by its name, in letters of either case, or by its number. -/
def LogLevel.ofChars? (cs : List Char) : Option LogLevel :=
  let digits := match cs with
    | '+' :: rest => rest
    | _ => cs
  match natOf? 10 digits with
  | some rank => all.find? fun level => level.rank == rank
  | none => all.find? fun level => level.name.toList == cs.map Char.toLower

/-- The level up to which some entries are shown. -/
structure LogRule where
  /-- How the topics of the entries begin; all do so with the empty text. -/
  topic : String
  /-- A field that the entries have. -/
  field : Option String
  level : LogLevel
  deriving DecidableEq, Repr

namespace LogRule

/-- The level behind an equals sign; without one there is no bound. -/
def level? : List Char → Option LogLevel
  | [] => some .trace
  | cs => LogLevel.ofChars? cs

section

variable (level : List Char → Option LogLevel)

/-- What may follow a part in brackets: blanks, or a level. -/
def levelAfter? : List Char → Option LogLevel
  | '=' :: cs => level cs
  | cs => if cs.all Blank.isBlank then some .trace else none

/-- A part in brackets, after the opening one: a span, a field of its own or of a span. There
are no spans here, and no entry is told by the value of a field. -/
def bracketed? (topic : String) (cs : List Char) : Option (List LogRule) :=
  let isNameChar (c : Char) := c ≠ ']' && c ≠ '\x7b'
  let span := cs.takeWhile isNameChar
  match cs.dropWhile isNameChar with
  | [] => none
  | ']' :: rest => (levelAfter? level rest).map fun _ => []
  | _ :: rest =>
    let field := rest.takeWhile (· ≠ '\x7d')
    match rest.dropWhile (· ≠ '\x7d') with
    | _ :: ']' :: rest =>
      if field.isEmpty then none
      else (levelAfter? level rest).map fun level =>
        if span.isEmpty && !(field.contains '=') then
          [⟨topic, some (String.ofList field), level⟩]
        else []
    | _ => none

def isTopicStart (c : Char) : Bool :=
  c == '-' || c == ':' || c == '_' || Alphanumeric.isAlphanumeric c

/-- A level; or a topic, with a part in brackets, with a level behind an equals sign, or alone.
Blanks at the end belong to the last part. -/
def ofChars? (cs : List Char) : Option (List LogRule) :=
  let isTopicChar (c : Char) := c ≠ '=' && c ≠ '['
  let topic := String.ofList (cs.takeWhile isTopicChar)
  match cs with
  | [] => none
  | '[' :: rest => bracketed? level topic rest
  | c :: _ =>
    if !isTopicStart c then none
    else match cs.dropWhile isTopicChar with
      | [] =>
        match LogLevel.ofChars? cs with
        | some level => some [⟨"", none, level⟩]
        | none => some [⟨topic, none, .trace⟩]
      | '=' :: rest => (level rest).map fun level => [⟨topic, none, level⟩]
      | _ :: rest => bracketed? level topic rest

end

/-- A rule behind a blank covers nothing, and no level can be read in it. -/
def ofText? (text : String) : Option (List LogRule) :=
  let cs := text.toList
  let rest := cs.dropWhile Blank.isBlank
  if rest.length < cs.length then (ofChars? (fun _ => none) rest).map fun _ => []
  else ofChars? level? cs

/-- Rules between commas; without any only errors are shown. -/
def listOfText? (text : String) : Option (List LogRule) :=
  match (text.splitOn ",").filter (· ≠ "") with
  | [] => some [⟨"", none, .error⟩]
  | parts => (parts.mapM ofText?).map List.flatten

/-- Every entry has its text as a field. -/
def fieldNames (entry : LogEntry) : List String :=
  "message" :: entry.fields.map Prod.fst

def covers (rule : LogRule) (entry : LogEntry) : Bool :=
  rule.topic.toList.isPrefixOf entry.topic.toList &&
    match rule.field with
    | none => true
    | some field => (fieldNames entry).contains field

/-- Rules are ranked by the length of their topics, and then a field counts. -/
def isAtLeastAsSpecific (rule other : LogRule) : Bool :=
  let order := (compare rule.topic.utf8ByteSize other.topic.utf8ByteSize).then <|
    (compare rule.field.toList.length other.field.toList.length).then <|
      compare (rule.field.getD "") (other.field.getD "")
  order ≠ .lt

/-- The most specific rule for an entry, of equal ones the last. -/
def ruling? (rules : List LogRule) (entry : LogEntry) : Option LogRule :=
  (rules.filter (·.covers entry)).foldl (fun best rule =>
    match best with
    | none => some rule
    | some other => if rule.isAtLeastAsSpecific other then some rule else some other) none

def shows (rules : List LogRule) (entry : LogEntry) : Bool :=
  match ruling? rules entry with
  | some rule => entry.level.rank ≤ rule.level.rank
  | none => false

end LogRule

end ScannerConfig
