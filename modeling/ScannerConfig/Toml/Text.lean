import ScannerConfig.Decimal.Text

namespace ScannerConfig.Toml

def isBlank (c : Char) : Bool :=
  c == ' ' || c == '\t'

def skipBlanks (cs : List Char) : List Char :=
  cs.dropWhile isBlank

/-- Characters that stand for themselves: no control characters but the tab. -/
def isShown (c : Char) : Bool :=
  c == '\t' || (0x20 ≤ c.toNat && c.toNat != 0x7F)

def newline? : List Char → Option (List Char)
  | '\n' :: rest => some rest
  | '\r' :: '\n' :: rest => some rest
  | _ => none

def skipComment : List Char → List Char
  | '#' :: rest => rest.dropWhile isShown
  | cs => cs

/-- What follows the end of a line, before which blanks and a comment may stand. -/
def lineEnd? (cs : List Char) : Option (List Char) :=
  match skipComment (skipBlanks cs) with
  | [] => some []
  | cs => newline? cs

/-- Passes over blanks, comments and line ends. -/
def skipLines (fuel : Nat) (cs : List Char) : List Char :=
  match fuel with
  | 0 => cs
  | fuel + 1 =>
    let cs := skipBlanks cs
    match newline? (skipComment cs) with
    | some rest => skipLines fuel rest
    | none => cs

/-- The character with a code of exactly `count` hexadecimal digits. -/
def coded? (count : Nat) (cs : List Char) : Option (Char × List Char) := do
  let digits := cs.take count
  if digits.length < count then none
  else
    let n ← natOf? 16 digits
    if h : n.isValidChar then some (Char.ofNatAux n h, cs.drop count) else none

/-- The character that an escape stands for, after its backslash. -/
def escape? : List Char → Option (Char × List Char)
  | 'b' :: rest => some ('\x08', rest)
  | 't' :: rest => some ('\t', rest)
  | 'n' :: rest => some ('\n', rest)
  | 'f' :: rest => some ('\x0c', rest)
  | 'r' :: rest => some ('\r', rest)
  | '"' :: rest => some ('"', rest)
  | '\\' :: rest => some ('\\', rest)
  | 'u' :: rest => coded? 4 rest
  | 'U' :: rest => coded? 8 rest
  | _ => none

/-- A string up to its closing double quote. -/
def basic? : Nat → List Char → Option (List Char × List Char)
  | 0, _ => none
  | _ + 1, [] => none
  | fuel + 1, c :: rest =>
    if c = '"' then some ([], rest)
    else if c = '\\' then do
      let (escaped, rest) ← escape? rest
      let (more, rest) ← basic? fuel rest
      some (escaped :: more, rest)
    else if isShown c then do
      let (more, rest) ← basic? fuel rest
      some (c :: more, rest)
    else none

/-- A string up to its closing single quote, without escapes. -/
def literal? : List Char → Option (List Char × List Char)
  | [] => none
  | c :: rest =>
    if c = '\'' then some ([], rest)
    else if isShown c then do
      let (more, rest) ← literal? rest
      some (c :: more, rest)
    else none

/-- How many of the first characters are quotes, at most five. -/
def quoteRun (quote : Char) (cs : List Char) : Nat :=
  ((cs.take 5).takeWhile (· == quote)).length

/-- Passes over blanks and line ends. -/
def skipSpace : List Char → List Char
  | '\r' :: '\n' :: rest => skipSpace rest
  | c :: rest => if isBlank c || c == '\n' then skipSpace rest else c :: rest
  | [] => []

/-- Passes over blanks and line ends behind a backslash, if they begin with the end of its line. -/
def continued? (cs : List Char) : Option (List Char) :=
  (newline? (skipBlanks cs)).map skipSpace

/-- A string of lines up to three closing quotes, which up to two quotes of its own may
precede. -/
def lines? (quote : Char) (escapes : Bool) : Nat → List Char → Option (List Char × List Char)
  | 0, _ => none
  | _ + 1, [] => none
  | fuel + 1, c :: rest =>
    if c = quote then
      let run := quoteRun quote (c :: rest)
      if 3 ≤ run then some (List.replicate (run - 3) quote, (c :: rest).drop run)
      else do
        let (more, rest) ← lines? quote escapes fuel rest
        some (c :: more, rest)
    else if escapes ∧ c = '\\' then
      match continued? rest with
      | some rest => lines? quote escapes fuel rest
      | none => do
        let (escaped, rest) ← escape? rest
        let (more, rest) ← lines? quote escapes fuel rest
        some (escaped :: more, rest)
    else match newline? (c :: rest) with
      | some rest => do
        let (more, rest) ← lines? quote escapes fuel rest
        some ('\n' :: more, rest)
      | none =>
        if isShown c then do
          let (more, rest) ← lines? quote escapes fuel rest
          some (c :: more, rest)
        else none

/-- A string of lines after its opening quotes; a line end right behind them does not count. -/
def block? (quote : Char) (escapes : Bool) (cs : List Char) : Option (List Char × List Char) :=
  let cs := (newline? cs).getD cs
  lines? quote escapes (cs.length + 1) cs

/-- A string in any of the four forms. -/
def string? : List Char → Option (String × List Char)
  | '"' :: '"' :: '"' :: rest => do
    let (text, rest) ← block? '"' true rest
    some (String.ofList text, rest)
  | '\'' :: '\'' :: '\'' :: rest => do
    let (text, rest) ← block? '\'' false rest
    some (String.ofList text, rest)
  | '"' :: rest => do
    let (text, rest) ← basic? (rest.length + 1) rest
    some (String.ofList text, rest)
  | '\'' :: rest => do
    let (text, rest) ← literal? rest
    some (String.ofList text, rest)
  | _ => none

def isBareKey (c : Char) : Bool :=
  ('a' ≤ c && c ≤ 'z') || ('A' ≤ c && c ≤ 'Z') || isDecimalDigit c || c == '_' || c == '-'

/-- A single key, bare or in one line of quotes. -/
def simpleKey? : List Char → Option (String × List Char)
  | '"' :: rest => do
    let (text, rest) ← basic? (rest.length + 1) rest
    some (String.ofList text, rest)
  | '\'' :: rest => do
    let (text, rest) ← literal? rest
    some (String.ofList text, rest)
  | cs =>
    let name := cs.takeWhile isBareKey
    if name.isEmpty then none else some (String.ofList name, cs.dropWhile isBareKey)

/-- Keys with points between them; blanks may stand around each. -/
def dottedKey? : Nat → List Char → Option (List String × List Char)
  | 0, _ => none
  | fuel + 1, cs => do
    let (key, rest) ← simpleKey? (skipBlanks cs)
    match skipBlanks rest with
    | '.' :: rest => do
      let (keys, rest) ← dottedKey? fuel rest
      some (key :: keys, rest)
    | rest => some ([key], rest)

/-- The keys of a path number less than this. -/
def pathLimit : Nat := 80

def path? (cs : List Char) : Option (List String × List Char) :=
  dottedKey? (pathLimit - 1) cs

end ScannerConfig.Toml
