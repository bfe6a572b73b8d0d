import ScannerConfig.Store.Merge

namespace ScannerConfig

structure MemoryStore where
  document : Json
  /-- Whether every save is refused. -/
  rejecting : Bool

namespace MemoryStore

/-- A save takes the stored document out first, so that a failed merge leaves nothing there. -/
def save (store : MemoryStore) (document : Json) (mode : SaveMode) :
    Except Fault Unit × MemoryStore :=
  if store.rejecting then (.error (.refused .rejected), store)
  else match mode with
    | .replace => (.ok (), { store with document := document })
    | .merge =>
      match mergeDocuments store.document document with
      | .ok merged => (.ok (), { store with document := merged })
      | .error refusal => (.error (.refused refusal), { store with document := .null })

end MemoryStore

end ScannerConfig
