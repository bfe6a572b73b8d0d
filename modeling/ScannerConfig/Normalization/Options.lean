import ScannerConfig.Normalization.Revision
import ScannerConfig.Schema.OptionTable

namespace ScannerConfig.Normalization

def optionsKey : String := "options"

/-- The canonical options, and the options that are left when those are taken out. -/
def takeOptions : List OptionRow → Record → Revision (Record × Record)
  | [], options => .keep ([], options)
  | row :: rows, options => do
    let (value, options) ← match options.pop? row.key with
      | some (value, options) => Revision.keep (value, options)
      | none => Revision.changed .optionFilled (row.default.toJson, options)
    let (taken, left) ← takeOptions rows options
    .keep ((row.key, value) :: taken, left)

def pruneOptions : List String → Record → Revision Record
  | [], options => .keep options
  | key :: keys, options =>
    match options.pop? key with
    | some (_, options) => do
      let options ← .changed .optionPruned options
      pruneOptions keys options
    | none => pruneOptions keys options

def completeOptions (options : Record) : Revision Record := do
  let (taken, left) ← takeOptions optionTable options
  pruneOptions obsoleteOptions (taken.insertAll left)

/-- The options go last. What is no record of options stays what it is. -/
def mergeOptions (root : Record) : Revision Record :=
  match root.pop? optionsKey with
  | some (.object options, rest) => do
    let options ← completeOptions options
    .keep (rest.insert optionsKey (.object options))
  | some (.null, rest) => do
    let options ← completeOptions []
    .keep (rest.insert optionsKey (.object options))
  | none => do
    let options ← completeOptions []
    .keep (root.insert optionsKey (.object options))
  | some (other, rest) => .skipped .options (rest.insert optionsKey other)

end ScannerConfig.Normalization
