import ScannerConfig.Decimal.Text
import ScannerConfig.Text.Utf8

namespace ScannerConfig.Yaml

def readsAsWord (text : String) : Bool :=
  ["", "~", "null", "Null", "NULL", "true", "True", "TRUE", "false", "False", "FALSE"].contains text

/-- Digits to a base behind its mark, below a bound. -/
def isBased (bound : Nat) : List Char → Bool
  | '0' :: mark :: digits =>
    let base := if mark = 'x' then 16 else if mark = 'o' then 8 else if mark = 'b' then 2 else 0
    match natOf? base digits with
    | some n => n < bound
    | none => false
  | _ => false

/-- Integers to other bases have up to 128 bits, negative ones included. -/
def readsAsBased : List Char → Bool
  | '-' :: rest => isBased ((1 <<< 127) + 1) rest
  | '+' :: rest => isBased (1 <<< 128) rest
  | cs => isBased (1 <<< 128) cs

def readsAsSpecial (text : String) : Bool :=
  [".inf", ".Inf", ".INF", "+.inf", "+.Inf", "+.INF", "-.inf", "-.Inf", "-.INF", ".nan", ".NaN",
    ".NAN"].contains text

/-- Digits behind a leading zero count as a number. -/
def readsAsPadded (cs : List Char) : Bool :=
  match (signOf cs).2 with
  | '0' :: digits => (natOf? 10 digits).isSome
  | _ => false

def readsOtherwise (text : String) : Bool :=
  let cs := text.toList
  readsAsWord text || readsAsBased cs || readsAsSpecial text || readsAsPadded cs ||
    (Binary64.ofChars? cs).isSome

def isBreak (c : Char) : Bool :=
  c == '\n' || c == '\r' || c == '\u0085' || c == '\u2028' || c == '\u2029'

def isBlankOrEnd (c : Char) : Bool :=
  c == ' ' || c == '\t' || c == '\x00' || isBreak c

def isPrintable (c : Char) : Bool :=
  let n := c.toNat
  c == '\n' || (0x20 ≤ n && n ≤ 0x7E) || (0xA0 ≤ n && n ≤ 0xFFFD && n != 0xFEFF) || 0x10000 ≤ n

/-- Whether two characters of the given kinds stand side by side. -/
def hasPair (first second : Char → Bool) : List Char → Bool
  | a :: b :: rest => (first a && second b) || hasPair first second (b :: rest)
  | _ => false

def startsWith (p : Char → Bool) (cs : List Char) : Bool :=
  (cs.head?.map p).getD false

def endsWith (p : Char → Bool) (cs : List Char) : Bool :=
  (cs.getLast?.map p).getD false

/-- A text that opens like something else than a plain scalar. -/
def hasIndicator (cs : List Char) : Bool :=
  ['-', '-', '-'].isPrefixOf cs || ['.', '.', '.'].isPrefixOf cs ||
    startsWith (",[]\x7b\x7d&*!|>'\"%@`#".toList.contains ·) cs ||
    (startsWith (fun c => c == '?' || c == '-') cs &&
      startsWith isBlankOrEnd (cs.drop 1 ++ ['\x00'])) ||
    hasPair (· == ':') isBlankOrEnd (cs ++ ['\x00']) ||
    hasPair isBlankOrEnd (· == '#') cs

def isEdge (c : Char) : Bool :=
  c == ' ' || isBreak c

/-- Whether the text holds what only escapes can show: characters that do not print, or a blank
before a line break. -/
def needsEscapes (cs : List Char) : Bool :=
  cs.any (fun c => !isPrintable c) || hasPair (· == ' ') isBreak cs

def plainAllowed (cs : List Char) : Bool :=
  !hasIndicator cs && !startsWith isEdge cs && !endsWith isEdge cs && !cs.any isBreak &&
    !needsEscapes cs

def singleAllowed (cs : List Char) : Bool :=
  !needsEscapes cs && !hasPair isBreak (· == ' ') cs

def literalAllowed (cs : List Char) : Bool :=
  !needsEscapes cs && !endsWith (· == ' ') cs

inductive Style where
  | plain
  | single
  | double
  | literal
  deriving DecidableEq, Repr

/-- Lines make a literal block; other texts are plain where that is clear. -/
def Style.ofText (text : String) : Style :=
  let cs := text.toList
  if cs.contains '\n' then (if literalAllowed cs then literal else double)
  else if plainAllowed cs && !readsOtherwise text then plain
  else if singleAllowed cs then single
  else double

def blanks (n : Nat) : List Char :=
  List.replicate n ' '

/-- Lines of a text, each but an empty one set in by `indent` blanks. -/
def setIn (indent : Nat) (atLineStart : Bool) : List Char → List Char
  | [] => []
  | c :: rest =>
    if isBreak c then c :: setIn indent true rest
    else (if atLineStart then blanks indent else []) ++ c :: setIn indent false rest

def singleChars (indent : Nat) (cs : List Char) : List Char :=
  let doubled := cs.flatMap fun c => if c = '\'' then ['\'', '\''] else [c]
  ['\''] ++ setIn indent false doubled ++ (if endsWith isBreak cs then blanks indent else []) ++
    ['\'']

/-- Capital hexadecimal digits up to a width. -/
def hexChars (width n : Nat) : List Char :=
  let digits := (Nat.toDigits 16 n).map Char.toUpper
  List.replicate (width - digits.length) '0' ++ digits

def escapeChar (c : Char) : List Char :=
  let n := c.toNat
  if c = '"' then ['\\', '"']
  else if c = '\\' then ['\\', '\\']
  else if isPrintable c && !isBreak c then [c]
  else if n = 0 then ['\\', '0']
  else if n = 0x07 then ['\\', 'a']
  else if n = 0x08 then ['\\', 'b']
  else if n = 0x09 then ['\\', 't']
  else if n = 0x0A then ['\\', 'n']
  else if n = 0x0B then ['\\', 'v']
  else if n = 0x0C then ['\\', 'f']
  else if n = 0x0D then ['\\', 'r']
  else if n = 0x1B then ['\\', 'e']
  else if n = 0x85 then ['\\', 'N']
  else if n = 0x2028 then ['\\', 'L']
  else if n = 0x2029 then ['\\', 'P']
  else if n ≤ 0xFF then ['\\', 'x'] ++ hexChars 2 n
  else if n ≤ 0xFFFF then ['\\', 'u'] ++ hexChars 4 n
  else ['\\', 'U'] ++ hexChars 8 n

def doubleChars (cs : List Char) : List Char :=
  '"' :: cs.flatMap escapeChar ++ ['"']

/-- How the end of a block is kept: cut off, one line break, or all of them. -/
def chomping (cs : List Char) : List Char :=
  match cs.reverse with
  | [] => ['-']
  | last :: before =>
    if !isBreak last then ['-']
    else match before with
      | [] => ['+']
      | other :: _ => if isBreak other then ['+'] else []

/-- A block opens with its indentation where the text itself opens with a blank or a break. -/
def literalChars (indent : Nat) (cs : List Char) : List Char :=
  ['|'] ++ (if startsWith isEdge cs then ['2'] else []) ++ chomping cs ++ ['\n'] ++
    setIn indent true cs

/-- The text of a string whose further lines are set in by `indent` blanks. -/
def stringChars (indent : Nat) (text : String) : List Char :=
  let cs := text.toList
  match Style.ofText text with
  | .plain => cs
  | .single => singleChars indent cs
  | .double => doubleChars cs
  | .literal => literalChars indent cs

end ScannerConfig.Yaml
