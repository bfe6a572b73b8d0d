import ScannerConfig.Files.Path

namespace ScannerConfig

inductive FileError where
  | notFound
  | notAFolder
  | isAFolder
  | alreadyExists
  | busy
  | nameTooLong
  | zeroByteInPath
  | other (message : String)
  deriving DecidableEq, Repr

def FileError.message : FileError → String
  | notFound => "No such file or directory (os error 2)"
  | notAFolder => "Not a directory (os error 20)"
  | isAFolder => "Is a directory (os error 21)"
  | alreadyExists => "File exists (os error 17)"
  | busy => "Device or resource busy (os error 16)"
  | nameTooLong => "File name too long (os error 36)"
  | zeroByteInPath => "file name contained an unexpected NUL byte"
  | other message => message

/-- Files by the texts of their paths. -/
class Files (m : Type → Type) where
  read : String → m (Except FileError (List UInt8))
  /-- Creates a file or replaces its content. -/
  write : String → List UInt8 → m (Except FileError Unit)
  /-- Makes a folder and the folders above it, as far as they are missing. -/
  makeFolders : String → m (Except FileError Unit)
  /-- Moves a file, in place of a file that is there. -/
  rename : String → String → m (Except FileError Unit)

/-- Makes the folder of a file. -/
def makeFolderOf {m : Type → Type} [Monad m] [Files m] (path : String) :
    m (Except FileError Unit) :=
  match (Path.ofText path).parent? with
  | none => pure (.ok ())
  | some folder => Files.makeFolders folder.text

end ScannerConfig
