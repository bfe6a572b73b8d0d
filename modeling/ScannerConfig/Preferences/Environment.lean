import ScannerConfig.Preferences.Layer
import ScannerConfig.Text.Blank

namespace ScannerConfig.Layer

def isSpace (c : Char) : Bool :=
  c == ' ' || c == '\t' || c == '\n' || c == '\x0c' || c == '\r'

def skipSpace (cs : List Char) : List Char :=
  cs.dropWhile isSpace

/-- What ends a word. -/
def isSeparator (c : Char) : Bool :=
  c == ',' || c == '\x7b' || c == '\x7d' || c == '[' || c == ']'

def isKeyChar (c : Char) : Bool :=
  Toml.isBareKey c

/-- A decimal number; past the largest one it is infinite. -/
def realOf? (cs : List Char) : Option Real64 :=
  (Decimal.ofChars? cs).map fun (negative, decimal) =>
    match decimal.toBinary64? with
    | some magnitude => .finite (if negative then magnitude.neg else magnitude)
    | none => .infinite negative

/-- A whole number of 64 bits, unsigned if it can be. -/
def wholeOf? (cs : List Char) : Option Layer :=
  match cs with
  | '-' :: digits =>
    (natOf? 10 digits).bind fun n =>
      if n = 0 then some (.signed 0)
      else if n ≤ 1 <<< 63 then some (.signed (-(n : Int)))
      else none
  | '+' :: digits => unsigned? digits
  | digits => unsigned? digits
where
  unsigned? (digits : List Char) : Option Layer :=
    (natOf? 10 digits).bind fun n => if n < 1 <<< 64 then some (.unsigned n) else none

/-- A word without quotes: a number, or else a text. -/
def ofWord (word : List Char) : Layer :=
  let word := Blank.trim word
  let real := if word.contains '.' then (realOf? word).map Layer.float else none
  match real.or (wholeOf? word) with
  | some number => number
  | none => .string (String.ofList word)

/-- A key of a dictionary, bare or in double quotes. -/
def key? : List Char → Option (String × List Char)
  | '"' :: rest => do
    let (text, rest) ← Toml.basic? (rest.length + 1) rest
    some (String.ofList text, rest)
  | cs =>
    let name := cs.takeWhile isKeyChar
    if name.isEmpty then none else some (String.ofList name, cs.dropWhile isKeyChar)

section

variable (item : List Char → Option (Layer × List Char))

/-- The items of a list up to its end. A comma may follow the last one. -/
def items? : Nat → List Char → Option (List Layer × List Char)
  | 0, _ => none
  | _ + 1, ']' :: rest => some ([], rest)
  | fuel + 1, cs => do
    let (value, rest) ← item cs
    match rest with
    | ',' :: rest => do
      let (more, rest) ← items? fuel rest
      some (value :: more, rest)
    | ']' :: rest => some ([value], rest)
    | _ => none

/-- The entries of a dictionary up to its end. A comma may follow the last one. -/
def entries? : Nat → List Char → Option (List (String × Layer) × List Char)
  | 0, _ => none
  | _ + 1, '\x7d' :: rest => some ([], rest)
  | fuel + 1, cs => do
    let (key, rest) ← key? (skipSpace cs)
    match skipSpace rest with
    | '=' :: rest => do
      let (value, rest) ← item rest
      match rest with
      | ',' :: rest => do
        let (more, rest) ← entries? fuel rest
        some ((key, value) :: more, rest)
      | '\x7d' :: rest => some ([(key, value)], rest)
      | _ => none
    | _ => none

end

/-- A value with the blanks around it. -/
def value? : Nat → List Char → Option (Layer × List Char)
  | 0, _ => none
  | depth + 1, cs =>
    let found : Option (Layer × List Char) := match skipSpace cs with
      | 't' :: 'r' :: 'u' :: 'e' :: rest => some (.bool true, rest)
      | 'f' :: 'a' :: 'l' :: 's' :: 'e' :: rest => some (.bool false, rest)
      | '\x7b' :: rest => do
        let (entries, rest) ← entries? (value? depth) (rest.length + 1) rest
        some (.dict (Entries.ofList entries), rest)
      | '[' :: rest => do
        let (items, rest) ← items? (value? depth) (rest.length + 1) rest
        some (.list items, rest)
      | '"' :: rest => do
        let (text, rest) ← Toml.basic? (rest.length + 1) rest
        some (.string (String.ofList text), rest)
      | '\'' :: c :: '\'' :: rest => some (.string (String.singleton c), rest)
      | '\'' :: _ => none
      | cs =>
        some (ofWord (cs.takeWhile fun c => !isSeparator c), cs.dropWhile fun c => !isSeparator c)
    found.map fun (value, rest) => (value, skipSpace rest)

/-- The value of a variable: what does not read as a whole is a text. -/
def ofVariable (text : String) : Layer :=
  match value? (text.length + 1) text.toList with
  | some (value, []) => value
  | _ => .string text

/-- How the names of variables begin, in any case. -/
def variableStart : List Char := "RDIO_ADMIN_".toList

/-- The parts of a name: points and pairs of underscores stand between them. -/
def nameParts : List Char → List (List Char)
  | [] => [[]]
  | '.' :: rest => [] :: nameParts rest
  | '_' :: '_' :: rest => [] :: nameParts rest
  | c :: rest =>
    match nameParts rest with
    | [] => [[c]]
    | part :: parts => (c :: part) :: parts

/-- The path of a variable, in small letters; none if it is no preference or has an empty part.
Blanks around the name, and around what follows its beginning, do not count. -/
def variablePath? (name : String) : Option (List String) :=
  let cs := Blank.trim name.toList
  if (cs.take variableStart.length).map Char.toUpper = variableStart then
    let path := Blank.trim (cs.drop variableStart.length)
    let parts := nameParts (path.map Char.toLower)
    if parts.contains [] then none else some (parts.map String.ofList)
  else none

/-- The layer of an environment; later variables override earlier ones. -/
def ofEnvironment (environment : List (String × String)) : Layer :=
  environment.foldl (fun layer (name, text) =>
    match variablePath? name with
    | some path => layer.override (nest path (ofVariable text))
    | none => layer) (.dict [])

end ScannerConfig.Layer
