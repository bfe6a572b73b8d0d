import ScannerConfig.Fault

namespace ScannerConfig

/-- How a save treats what is stored. -/
inductive SaveMode where
  | replace
  | merge
  deriving DecidableEq, Repr

/-- Gives each entry of the incoming document its new value; nothing stored counts as an empty
document. -/
def mergeDocuments (stored incoming : Json) : Except Refusal Json :=
  match incoming with
  | .object entries =>
    match stored with
    | .object old => .ok (.object (Entries.insertAll old entries))
    | .null => .ok (.object (Entries.insertAll [] entries))
    | _ => .error .storedNotObject
  | _ => .error .incomingNotObject

end ScannerConfig
