import ScannerConfig.Collation.LabelOrder
import ScannerConfig.Normalization.Revision

namespace ScannerConfig.Normalization

/-- The label of a record; what has none counts as the empty label. -/
def labelOf : Json → String
  | .object record =>
    match Entries.get? record "label" with
    | some (.string label) => label
    | _ => ""
  | _ => ""

/-- Sorts by label and keeps the order of records with one label. -/
def sortByLabel (items : List Json) : List Json :=
  ((items.map fun item => (LabelKey.ofLabel (labelOf item), item)).mergeSort
    fun a b => (a.1.cmp b.1).isLE).map Prod.snd

/-- Sorts the list under a key, if there is one. -/
def sortUnder (key : String) (root : Record) : Record :=
  root.modify key fun
    | .array items => .array (sortByLabel items)
    | other => other

/-- Sorts the collections that are shown by label. -/
def sortCollections (root : Record) : Record :=
  (Collection.all.filter Collection.isLabelSorted).foldl
    (fun root collection => sortUnder collection.key root) root

end ScannerConfig.Normalization
