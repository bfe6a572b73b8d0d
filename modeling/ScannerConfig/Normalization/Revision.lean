import ScannerConfig.Json.Value
import ScannerConfig.Normalization.Change

namespace ScannerConfig

/-- The fields of one record of a document. -/
abbrev Record := Entries Json

structure Revision (α : Type) where
  value : α
  changes : List Change
  notices : List Notice

namespace Revision

variable {α β : Type}

def keep (value : α) : Revision α :=
  ⟨value, [], []⟩

def andThen (first : Revision α) (next : α → Revision β) : Revision β :=
  let second := next first.value
  ⟨second.value, first.changes ++ second.changes, first.notices ++ second.notices⟩

instance : Monad Revision where
  pure := keep
  bind := andThen

instance : LawfulMonad Revision :=
  LawfulMonad.mk' Revision
    (fun x => by simp [Functor.map, andThen, keep])
    (fun x f => by simp [bind, pure, andThen, keep])
    (fun x f g => by simp [bind, andThen])

/-- A value that a change led to. -/
def changed (change : Change) (value : α) : Revision α :=
  ⟨value, [change], []⟩

/-- A value that was left as it is, with a notice. -/
def skipped (notice : Notice) (value : α) : Revision α :=
  ⟨value, [], [notice]⟩

/-- Applies a rule to the objects among some items. -/
def records (rule : Record → Revision Record) : List Json → Revision (List Json)
  | [] => keep []
  | .object record :: rest => do
    let record ← rule record
    let rest ← records rule rest
    keep (.object record :: rest)
  | other :: rest => do
    let rest ← records rule rest
    keep (other :: rest)

/-- Applies a rule to the records that stand under a key. Nothing or null there is no list of
records but nothing to speak of either. -/
def under (key : String) (notice : Notice) (rule : Record → Revision Record) (parent : Record) :
    Revision Record :=
  match parent.get? key with
  | some (.array items) => do
    let items ← records rule items
    keep (parent.insert key (.array items))
  | none | some .null => keep parent
  | some _ => skipped notice parent

end Revision

end ScannerConfig
