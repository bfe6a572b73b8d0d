import ScannerConfig.Files.Access

namespace ScannerConfig

inductive Node where
  | file (content : List UInt8)
  | folder
  deriving DecidableEq, Repr

/-- Names from the root down. -/
abbrev Place := List String

/-- Files and folders by their places. The root is always a folder. -/
abbrev FileTree := List (Place × Node)

namespace FileTree

def node? : FileTree → Place → Option Node
  | _, [] => some .folder
  | [], _ => none
  | (place, node) :: rest, asked => if place = asked then some node else node? rest asked

def maxNameBytes : Nat := 255

/-- What stands at a place, if its name is short enough to be looked up. -/
def find (tree : FileTree) (place : Place) : Except FileError (Option Node) :=
  if maxNameBytes < (place.getLast?.getD "").utf8ByteSize then .error .nameTooLong
  else .ok (tree.node? place)

def put : FileTree → Place → Node → FileTree
  | [], place, node => [(place, node)]
  | (other, old) :: rest, place, node =>
    if other = place then (place, node) :: rest else (other, old) :: put rest place node

def remove (tree : FileTree) (place : Place) : FileTree :=
  tree.filter fun entry => entry.1 ≠ place

/-- Follows steps from a folder. The last name need not be there. -/
def follow (tree : FileTree) (place : Place) : List Step → Except FileError Place
  | [] => .ok place
  | .here :: rest => follow tree place rest
  | .up :: rest => follow tree place.dropLast rest
  | [.name name] => .ok (place ++ [name])
  | .name name :: rest =>
    match tree.find (place ++ [name]) with
    | .error fault => .error fault
    | .ok none => .error .notFound
    | .ok (some (.file _)) => .error .notAFolder
    | .ok (some .folder) => follow tree (place ++ [name]) rest

end FileTree

/-- A tree of files and the folder that paths start from. -/
structure Disk where
  tree : FileTree
  here : Place
  deriving DecidableEq, Repr

namespace Disk

def maxPathBytes : Nat := 4095

/-- Refuses a text that cannot be the text of a path. -/
def check (text : String) : Except FileError Unit :=
  if text.contains '\x00' then .error .zeroByteInPath
  else if maxPathBytes < text.utf8ByteSize then .error .nameTooLong
  else .ok ()

def locate (disk : Disk) (path : Path) : Except FileError Place :=
  if path.absolute then disk.tree.follow [] path.steps
  else if path.steps.isEmpty then .error .notFound
  else disk.tree.follow disk.here path.steps

def put (disk : Disk) (place : Place) (node : Node) : Disk :=
  { disk with tree := disk.tree.put place node }

def read (disk : Disk) (text : String) : Except FileError (List UInt8) := do
  check text
  let path := Path.ofText text
  let place ← disk.locate path
  match ← disk.tree.find place with
  | none => .error .notFound
  | some .folder => .error .isAFolder
  | some (.file content) => if path.ending = .plain then .ok content else .error .notAFolder

/-- Only a path that ends as that of a file can be written to. -/
def write (disk : Disk) (text : String) (content : List UInt8) : Except FileError Disk := do
  check text
  let path := Path.ofText text
  let place ← disk.locate path
  if path.ending = .slash then .error .isAFolder
  else match path.ending, ← disk.tree.find place with
    | _, some .folder => .error .isAFolder
    | .dot, none => .error .notFound
    | .dot, some (.file _) => .error .notAFolder
    | _, _ => .ok (disk.put place (.file content))

/-- Makes a single folder in a folder that is there. -/
def makeFolder (disk : Disk) (path : Path) : Except FileError Disk := do
  check path.text
  let place ← disk.locate path
  match path.ending, ← disk.tree.find place with
  | .dot, some (.file _) => .error .notAFolder
  | .dot, none => .error .notFound
  | _, some _ => .error .alreadyExists
  | _, none => .ok (disk.put place .folder)

def isFolder (disk : Disk) (path : Path) : Bool :=
  match disk.locate path with
  | .ok place => disk.tree.node? place == some .folder
  | .error _ => false

/-- Makes a folder; one that is there already is fine. -/
def ensureFolder (disk : Disk) (path : Path) : Except FileError Disk :=
  match disk.makeFolder path with
  | .ok disk => .ok disk
  | .error fault => if disk.isFolder path then .ok disk else .error fault

/-- Makes the folder of the first `count` steps of a path and the folders above it that are
missing. -/
def makeFoldersTo (disk : Disk) (path : Path) : Nat → Disk × Except FileError Unit
  | 0 => (disk, .ok ())
  | count + 1 =>
    let part : Path := ⟨path.absolute, path.steps.take (count + 1),
      if path.steps.length ≤ count + 1 then path.ending else .plain⟩
    match disk.ensureFolder part with
    | .ok disk => (disk, .ok ())
    | .error .notFound =>
      match disk.makeFoldersTo path count with
      | (disk, .error fault) => (disk, .error fault)
      | (disk, .ok ()) =>
        match disk.ensureFolder part with
        | .ok disk => (disk, .ok ())
        | .error fault => (disk, .error fault)
    | .error fault => (disk, .error fault)

def makeFolders (disk : Disk) (text : String) : Disk × Except FileError Unit :=
  let path := Path.ofText text
  disk.makeFoldersTo path path.steps.length

def rename (disk : Disk) (source target : String) : Except FileError Disk := do
  check source
  check target
  let source ← disk.locate (Path.ofText source)
  match disk.tree.node? source with
  | none => .error .notFound
  | some .folder => .error .isAFolder
  | some (.file content) =>
    let path := Path.ofText target
    let target ← disk.locate path
    match path.ending, ← disk.tree.find target with
    | .slash, _ | .dot, some (.file _) => .error .notAFolder
    | .dot, some .folder => .error .busy
    | .dot, none => .error .notFound
    | .plain, some .folder =>
      if path.fileName?.isSome then .error .isAFolder else .error .busy
    | .plain, _ => .ok { disk with tree := (disk.tree.remove source).put target (.file content) }

/-- Carries a step out if it succeeds. -/
def attempt (step : Disk → Except FileError Disk) : StateM Disk (Except FileError Unit) :=
  fun disk => match step disk with
    | .ok disk => (.ok (), disk)
    | .error fault => (.error fault, disk)

instance : Files (StateM Disk) where
  read text := fun disk => (disk.read text, disk)
  write text content := attempt (·.write text content)
  makeFolders text := fun disk => let (disk, result) := disk.makeFolders text; (result, disk)
  rename source target := attempt (·.rename source target)

end Disk

end ScannerConfig
