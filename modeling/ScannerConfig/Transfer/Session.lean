import ScannerConfig.Files.Tree
import ScannerConfig.Store.File
import ScannerConfig.Store.Memory
import ScannerConfig.Transfer.Export
import ScannerConfig.Transfer.Import

namespace ScannerConfig

inductive Store where
  | memory (store : MemoryStore)
  | file (path : String)

/-- A document handed to the reviewer. -/
structure Shown where
  document : Json
  forReview : Bool

structure Session where
  store : Store
  disk : Disk
  shown : List Shown

namespace Session

/-- Runs a step on the files of a session. -/
def onDisk {α : Type} (session : Session) (step : ExceptT Fault (StateM Disk) α) :
    Except Fault α × Session :=
  let (result, disk) := step.run session.disk
  (result, { session with disk := disk })

def load (session : Session) : Except Fault Json × Session :=
  match session.store with
  | .memory store => (.ok store.document, session)
  | .file path => session.onDisk (FileStore.load path)

def save (session : Session) (document : Json) (mode : SaveMode) : Except Fault Unit × Session :=
  match session.store with
  | .memory store =>
    let (result, store) := store.save document mode
    (result, { session with store := .memory store })
  | .file path => session.onDisk (FileStore.save path document mode)

/-- Sends an import where its mode says: into the store in place of what is there, or to the
reviewer. -/
def dispatch (session : Session) (taken : Import) (mode : ImportMode) :
    Except Fault Unit × Session :=
  match mode with
  | .apply => session.save taken.document .replace
  | .review => (.ok (), { session with shown := session.shown ++ [⟨taken.document, true⟩] })

def exportFile (session : Session) (seconds : Int) : Except Fault ExportFile × Session :=
  let (result, session) := session.load
  (result.map fun document => .ofDocument document seconds, session)

end Session

end ScannerConfig
