import ScannerConfig.Schema.Collection

namespace ScannerConfig

/-- A single change to a document. -/
inductive Change where
  | keyRenamed
  | idRenamed
  | idDiscarded
  | referenceExtracted
  | groupFolded
  | groupDropped
  | sitesDefaulted
  | unitFieldSeeded
  | optionFilled
  | optionPruned
  deriving DecidableEq, Repr

namespace Change

def all : List Change :=
  [keyRenamed, idRenamed, idDiscarded, referenceExtracted, groupFolded, groupDropped,
    sitesDefaulted, unitFieldSeeded, optionFilled, optionPruned]

def label : Change → String
  | keyRenamed => "top-level keys renamed"
  | idRenamed => "legacy ids renamed"
  | idDiscarded => "legacy ids discarded"
  | referenceExtracted => "references extracted"
  | groupFolded => "groupId folded"
  | groupDropped => "groupId dropped"
  | sitesDefaulted => "sites defaulted"
  | unitFieldSeeded => "unit fields seeded"
  | optionFilled => "options filled"
  | optionPruned => "options pruned"

theorem mem_all (change : Change) : change ∈ all := by
  cases change <;> decide

end Change

/-- How often each kind of change was made. -/
structure Report where
  count : Change → Nat

namespace Report

def ofChanges (changes : List Change) : Report :=
  ⟨fun change => changes.count change⟩

def rows (report : Report) : List (String × Nat) :=
  Change.all.map fun change => (change.label, report.count change)

def total (report : Report) : Nat :=
  Change.all.foldl (fun sum change => sum + report.count change) 0

def isEmpty (report : Report) : Bool :=
  Change.all.all fun change => report.count change == 0

end Report

/-- A part of a document that is not what its place asks for, and is left as it is. -/
inductive Notice where
  | root
  | collection (collection : Collection)
  | systems
  | nested (key : String)
  | options
  deriving DecidableEq, Repr

end ScannerConfig
