import ScannerConfig.Normalization.Labels
import ScannerConfig.Normalization.Options
import ScannerConfig.Normalization.Systems

/-!
Normalization of a whole document. The age of a document is never asked for: each rule goes by
the fields that are there, so that a canonical document passes through.
-/

namespace ScannerConfig

namespace Normalization

/-- Puts the value of an older spelling under its canonical key, unless that has one. -/
def renameKey (spelling key : String) (root : Record) : Revision Record :=
  match root.pop? spelling with
  | none => .keep root
  | some (value, rest) =>
    .changed .keyRenamed (if rest.has key then rest else rest.insert key value)

def renameEach : List (String × String) → Record → Revision Record
  | [], root => .keep root
  | (spelling, key) :: rest, root => do
    let root ← renameKey spelling key root
    renameEach rest root

def renameKeys (root : Record) : Revision Record :=
  renameEach aliases root

def reconcileEach : List Collection → Record → Revision Record
  | [], root => .keep root
  | collection :: rest, root => do
    let root ← .under collection.key (.collection collection) reconcileSimple root
    reconcileEach rest root

def reconcileCollections (root : Record) : Revision Record :=
  reconcileEach Collection.all root

def normalizeRoot (root : Record) : Revision Record := do
  let root ← renameKeys root
  let root ← reconcileCollections root
  let root ← fixSystems root
  mergeOptions (sortCollections root)

end Normalization

/-- Brings a document to its canonical form. -/
def normalize : Json → Revision Json
  | .object root => do
    let root ← Normalization.normalizeRoot root
    .keep (.object root)
  | other => .skipped .root other

end ScannerConfig
