import ScannerConfig.Json.Printer
import ScannerConfig.Store.Merge

namespace ScannerConfig.FileStore

variable {m : Type → Type} [Monad m] [Files m]

def onFiles {α : Type} (step : m (Except FileError α)) : ExceptT Fault m α :=
  ExceptT.mk do
    match ← step with
    | .ok value => return .ok value
    | .error error => return .error (.file error)

/-- The stored document; a file that does not exist holds an empty one. -/
def load (path : String) : ExceptT Fault m Json :=
  ExceptT.mk do
    match ← Files.read path with
    | .error .notFound => return .ok (.object [])
    | .error error => return .error (.file error)
    | .ok bytes => return (Json.parse bytes).mapError Fault.json

/-- The temporary file of a store. -/
def temporary (path : String) : String :=
  let path := Path.ofText path
  (path.sibling (path.fileName?.getD "" ++ ".tmp")).text

def save (path : String) (document : Json) (mode : SaveMode) : ExceptT Fault m Unit := do
  let document ← match mode with
    | .replace => pure document
    | .merge =>
      let stored ← load path
      match mergeDocuments stored document with
      | .ok merged => pure merged
      | .error refusal => throw (.refused refusal)
  onFiles (makeFolderOf path)
  onFiles (Files.write (temporary path) (Utf8.encode document.pretty.toList))
  onFiles (Files.rename (temporary path) path)

end ScannerConfig.FileStore
