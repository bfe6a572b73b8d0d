import ScannerConfig.Log.Entry
import ScannerConfig.Normalization.Change
import ScannerConfig.Text.Quoted

namespace ScannerConfig

namespace Topic

def migration : String := "rdio_admin_core::migrate"

def systems : String := "rdio_admin_core::migrate::systems"

def options : String := "rdio_admin_core::migrate::options"

def store : String := "rdio_admin_core::store"

def transfer : String := "rdio_admin_core::transfer"

end Topic

namespace LogEntry

def ofNotice : Notice → LogEntry
  | .root =>
    ⟨.warn, Topic.migration, "configuration root is not an object; nothing to normalize", []⟩
  | .collection which =>
    ⟨.warn, Topic.migration, "skipping collection that is not an array",
      [("collection", which.key)]⟩
  | .systems =>
    ⟨.warn, Topic.systems, "skipping collection that is not an array",
      [("collection", Quoted.write "systems")]⟩
  | .nested key =>
    ⟨.warn, Topic.systems, "skipping nested collection that is not an array",
      [("collection", Quoted.write key)]⟩
  | .options => ⟨.warn, Topic.options, "skipping options record that is not an object", []⟩

def saved (path : String) : LogEntry :=
  ⟨.info, Topic.store, "configuration saved", [("path", path), ("full_replace", "true")]⟩

def applied (report : Report) : LogEntry :=
  ⟨.info, Topic.transfer, "imported configuration applied",
    [("changes", toString report.total)]⟩

def reviewed (report : Report) : LogEntry :=
  ⟨.info, Topic.transfer, "imported configuration sent for review",
    [("changes", toString report.total)]⟩

def exported (file : String) (size : Nat) : LogEntry :=
  ⟨.info, Topic.transfer, "configuration exported",
    [("file", file), ("bytes", toString size)]⟩

end LogEntry

end ScannerConfig
