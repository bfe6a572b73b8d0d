import ScannerConfig.Files.Access
import ScannerConfig.Schema.ShapeError
import ScannerConfig.Transfer.Upload

namespace ScannerConfig

/-- Why a store does not take a document. -/
inductive Refusal where
  | rejected
  | incomingNotObject
  | storedNotObject
  deriving DecidableEq, Repr

def Refusal.message : Refusal → String
  | rejected => "save rejected"
  | incomingNotObject => "only object documents can be merged"
  | storedNotObject => "stored configuration is not an object"

inductive Fault where
  | json (fault : Json.SyntaxError)
  | dataUri (fault : DataUri.Fault)
  | shape (error : ShapeError)
  | refused (refusal : Refusal)
  | file (error : FileError)
  deriving DecidableEq, Repr

namespace Fault

def ofUpload : Upload.Fault → Fault
  | .json fault => json fault
  | .dataUri fault => dataUri fault

def message : Fault → String
  | json fault => "Configuration is not valid JSON: " ++ fault.message
  | dataUri fault => "Invalid data URI: " ++ fault.message
  | shape error => "Unexpected shape for document: " ++ error.message
  | refused refusal => "Failed to persist configuration: " ++ refusal.message
  | file error => "IO error: " ++ error.message

/-- Whether the document given is at fault. -/
def isInput : Fault → Bool
  | json _ | dataUri _ | shape _ => true
  | refused _ | file _ => false

end Fault

end ScannerConfig
