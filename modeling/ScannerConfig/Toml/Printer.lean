import ScannerConfig.Toml.Text

namespace ScannerConfig.Toml

/-- Control characters that only an escape can show; tabs and line feeds have forms of their own. -/
def isControl (c : Char) : Bool :=
  c != '\t' && c != '\n' && (c.toNat < 0x20 || c.toNat == 0x7F)

/-- The length of the longest run of a character. -/
def longestRun (c : Char) (cs : List Char) : Nat :=
  (cs.foldl (fun (best, run) next =>
    if next = c then (max best (run + 1), run + 1) else (best, 0)) (0, 0)).1

/-- Four capital hexadecimal digits. -/
def codeChars (n : Nat) : List Char :=
  let digits := (Nat.toDigits 16 n).map Char.toUpper
  List.replicate (4 - digits.length) '0' ++ digits

/-- A character between double quotes, the quote itself apart. -/
def escapeChar (multiLine : Bool) (c : Char) : List Char :=
  if c = '\x08' then ['\\', 'b']
  else if c = '\t' then ['\\', 't']
  else if c = '\n' then (if multiLine then [c] else ['\\', 'n'])
  else if c = '\x0c' then ['\\', 'f']
  else if c = '\r' then ['\\', 'r']
  else if c = '\\' then ['\\', '\\']
  else if isControl c then ['\\', 'u'] ++ codeChars c.toNat
  else [c]

/-- The text between double quotes. Of quotes in a row the first `allowed` stand for
themselves; `run` counts those just before. -/
def escapeText (multiLine : Bool) (allowed run : Nat) : List Char → List Char
  | [] => []
  | c :: rest =>
    if c = '"' then
      if run < allowed then c :: escapeText multiLine allowed (run + 1) rest
      else '\\' :: c :: escapeText multiLine allowed 0 rest
    else escapeChar multiLine c ++ escapeText multiLine allowed 0 rest

/-- A text with lines starts on a line of its own. -/
def opening (quotes : List Char) (cs : List Char) : List Char :=
  quotes ++ if cs.contains '\n' then ['\n'] else []

def basicChars (cs : List Char) : List Char :=
  '"' :: escapeText false 0 0 cs ++ ['"']

def literalChars (cs : List Char) : List Char :=
  '\'' :: cs ++ ['\'']

def basicLines (cs : List Char) : List Char :=
  opening ['"', '"', '"'] cs ++ escapeText true 2 0 cs ++ ['"', '"', '"']

def literalLines (cs : List Char) : List Char :=
  opening ['\'', '\'', '\''] cs ++ cs ++ ['\'', '\'', '\'']

def stringChars (text : String) : List Char :=
  let cs := text.toList
  let hasControl := cs.any isControl
  let hasLines := cs.contains '\n'
  let hasBackslash := cs.contains '\\'
  if !hasControl && !hasBackslash && !cs.contains '"' && !hasLines then basicChars cs
  else if !hasControl && !cs.contains '\'' && !hasLines then literalChars cs
  else if !hasControl && !hasBackslash && longestRun '"' cs ≤ 2 then basicLines cs
  else if !hasControl && longestRun '\'' cs ≤ 2 then literalLines cs
  else if hasLines then basicLines cs
  else basicChars cs

/-- Keys stay on their line, and need no quotes if they are plain. -/
def keyChars (key : String) : List Char :=
  let cs := key.toList
  let hasControl := cs.any isControl || cs.contains '\n'
  if !cs.isEmpty && cs.all isBareKey then cs
  else if !hasControl && !cs.contains '\\' && !cs.contains '"' then basicChars cs
  else if !hasControl && !cs.contains '\'' then literalChars cs
  else basicChars cs

end ScannerConfig.Toml
