import ScannerConfig.Fault
import ScannerConfig.Normalization.Document

namespace ScannerConfig

inductive ImportMode where
  | apply
  | review
  deriving DecidableEq, Repr

def ImportMode.name : ImportMode → String
  | apply => "apply"
  | review => "review"

def ImportMode.ofName? (name : String) : Option ImportMode :=
  if name = "apply" then some .apply
  else if name = "review" then some .review
  else none

structure Import where
  document : Json
  changes : List Change
  notices : List Notice

def Import.report (taken : Import) : Report :=
  Report.ofChanges taken.changes

/-- Reads and normalizes an upload. -/
def prepareImport (bytes : List UInt8) : Except Fault Import :=
  match Upload.parse bytes with
  | .error fault => .error (.ofUpload fault)
  | .ok document =>
    let normal := normalize document
    .ok ⟨normal.value, normal.changes, normal.notices⟩

end ScannerConfig
