import ScannerConfig.Fault

namespace ScannerConfig

/-- What ends a command. A confirmation that is denied on a terminal is left out. -/
inductive Failure where
  /-- The document cannot be read. -/
  | document (reason : String)
  | inputNotFound (path : String)
  | shape (error : ShapeError)
  | refused (reason : String)
  | invalidValue (field reason : String)
  | profileNotFound (name : String) (available : List String)
  | noStore (settingsPath : String)
  | unconfirmed (action : String)
  | file (error : FileError)
  deriving DecidableEq, Repr

namespace Failure

def ofFault : Fault → Failure
  | .json fault => document fault.message
  | .dataUri fault => document fault.message
  | .shape error => shape error
  | .refused refusal => refused refusal.message
  | .file error => file error

def message : Failure → String
  | document reason => "Could not read configuration document: " ++ reason
  | inputNotFound path => "File '" ++ path ++ "' not found"
  | .shape error =>
    "Configuration does not match the canonical schema at document: " ++ error.message
  | refused reason => "Failed to save configuration: " ++ reason
  | invalidValue field reason => "Invalid value for " ++ field ++ ": " ++ reason
  | profileNotFound name _ => "Profile '" ++ name ++ "' not found in configuration"
  | noStore _ => "No stored configuration file configured"
  | unconfirmed action => "Operation '" ++ action ++ "' requires confirmation"
  | .file error => error.message

def code? : Failure → Option String
  | document _ => some "rdio_admin::invalid_document"
  | inputNotFound _ => some "rdio_admin::input_not_found"
  | .shape _ => some "rdio_admin::shape"
  | refused _ => some "rdio_admin::persistence"
  | invalidValue _ _ => some "rdio_admin::validation"
  | profileNotFound _ _ => some "rdio_admin::profile_not_found"
  | noStore _ => some "rdio_admin::no_store"
  | unconfirmed _ => some "rdio_admin::confirmation_required"
  | .file _ => none

/-- The names of profiles as help shows them. -/
def nameList (names : List String) : String :=
  if names.isEmpty then "(none)" else ", ".intercalate names

def help? : Failure → Option String
  | document _ => some ("The file must contain a JSON configuration export or a base64 data URI.\n" ++
      "Nothing was saved.")
  | refused _ => some ("The import can be re-run from the original file; " ++
      "nothing is retried automatically.")
  | profileNotFound _ available => some ("Available profiles: " ++ nameList available ++
      "\nCreate one with: rdio-admin config init")
  | noStore settingsPath => some (
      "Pass --store <FILE>, set RDIO_ADMIN_STORE, or create a profile with:\n" ++
      "rdio-admin config init --store-path <FILE>\n" ++ "Config file: " ++ settingsPath)
  | unconfirmed _ => some "Use --yes (-y) to skip confirmation in non-interactive contexts."
  | _ => none

/-- Malformed data exits with 65, what is not found with 4, wrong use with 2. -/
def status : Failure → Nat
  | document _ | .shape _ => 65
  | inputNotFound _ | profileNotFound _ _ => 4
  | invalidValue _ _ | noStore _ | unconfirmed _ => 2
  | refused _ | .file _ => 1

/-- The failure as it is told on the terminal. -/
def narration (failure : Failure) : String :=
  failure.message ++ "\n    Diagnostic severity: error\n" ++
    (match failure.help? with
      | some help => "diagnostic help: " ++ help ++ "\n"
      | none => "") ++
    (match failure.code? with
      | some code => "diagnostic code: " ++ code ++ "\n"
      | none => "")

end Failure

end ScannerConfig
