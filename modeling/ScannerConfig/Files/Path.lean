namespace ScannerConfig

inductive Step where
  /-- The folder itself, written as a dot. -/
  | here
  /-- The folder above, written as two dots. -/
  | up
  | name (name : String)
  deriving DecidableEq, Repr

/-- How the text of a path ends. -/
inductive Ending where
  | plain
  /-- Slashes behind a name. -/
  | slash
  /-- A dot, with or without slashes behind it. -/
  | dot
  deriving DecidableEq, Repr

structure Path where
  absolute : Bool
  steps : List Step
  ending : Ending
  deriving DecidableEq, Repr

/-- The parts between slashes, empty ones included. -/
def splitSlash : List Char → List (List Char)
  | [] => [[]]
  | c :: rest =>
    if c = '/' then [] :: splitSlash rest
    else match splitSlash rest with
      | [] => [[c]]
      | part :: parts => (c :: part) :: parts

def Step.ofPart (part : List Char) : Step :=
  if part = ['.'] then here
  else if part = ['.', '.'] then up
  else name (String.ofList part)

def Step.text : Step → String
  | .here => "."
  | .up => ".."
  | .name text => text

namespace Path

def endingOf (chars : List Char) (last : Option Step) : Ending :=
  match last with
  | some .here => .dot
  | some (.name _) => if chars.getLast? = some '/' then .slash else .plain
  | _ => .plain

/-- Empty parts do not count, and a dot only in front of a path that is not absolute. -/
def ofText (text : String) : Path :=
  let chars := text.toList
  let absolute := chars.head? == some '/'
  let steps := ((splitSlash chars).filter (· ≠ [])).map Step.ofPart
  let ending := endingOf chars steps.getLast?
  match absolute, steps with
  | false, .here :: rest => ⟨false, .here :: rest.filter (· ≠ .here), ending⟩
  | _, _ => ⟨absolute, steps.filter (· ≠ .here), ending⟩

def text (path : Path) : String :=
  (if path.absolute then "/" else "") ++ "/".intercalate (path.steps.map Step.text)

/-- The path without its last step. -/
def parent? (path : Path) : Option Path :=
  if path.steps.isEmpty then none else some ⟨path.absolute, path.steps.dropLast, .plain⟩

/-- The path of the file itself. -/
def fileName? (path : Path) : Option String :=
  match path.steps.getLast? with
  | some (.name name) => some name
  | _ => none

/-- A file of another name in the same folder. -/
def sibling (path : Path) (name : String) : Path :=
  match path.fileName? with
  | some _ => ⟨path.absolute, path.steps.dropLast ++ [.name name], .plain⟩
  | none => ⟨path.absolute, path.steps ++ [.name name], .plain⟩

end Path

/-- The path of a file inside a folder. -/
def joinPath (folder file : String) : String :=
  if folder.isEmpty ∨ folder.toList.getLast? = some '/' then folder ++ file
  else folder ++ "/" ++ file

end ScannerConfig
