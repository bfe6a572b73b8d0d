import ScannerConfig.Schema.OptionTable
import ScannerConfig.Schema.ShapeError

namespace ScannerConfig

structure Options where
  settings : List Setting
  extra : Entries Json

/-- Reads a setting of a kind; numbers have to fit their width. -/
def SettingKind.read : SettingKind → Json → Except ShapeError Setting
  | .toggle, .bool value => .ok (.toggle value)
  | .toggle, other => ShapeError.mismatch other .toggle
  | .text, .string value => .ok (.text value)
  | .text, other => ShapeError.mismatch other .text
  | .number bits, .number (.integer value) =>
    if 0 ≤ value ∧ value.toNat < 1 <<< bits then .ok (.number value.toNat)
    else .error (.range value (.unsigned bits))
  | .number bits, other => ShapeError.mismatch other (.unsigned bits)

namespace Options

def default : Options :=
  ⟨optionTable.map OptionRow.default, []⟩

def row? (key : String) : Option OptionRow :=
  optionTable.find? fun row => row.key == key

/-- Options that are being read: the settings by their keys, and the other entries. -/
structure Reading where
  settings : Entries Setting
  extra : Entries Json

def Reading.add (reading : Reading) (entry : String × Json) : Except ShapeError Reading :=
  match row? entry.1 with
  | some row => do
    let setting ← row.kind.read entry.2
    return ⟨reading.settings ++ [(entry.1, setting)], reading.extra⟩
  | none => .ok ⟨reading.settings, reading.extra ++ [entry]⟩

/-- Every row of the table needs its entry. -/
def Reading.finish (reading : Reading) : Except ShapeError Options := do
  let settings ← optionTable.mapM fun row =>
    match reading.settings.get? row.key with
    | some setting => .ok setting
    | none => .error (.missing row.key)
  return ⟨settings, reading.extra⟩

def read (value : Json) : Except ShapeError Options := do
  let entries ← ShapeError.asRecord .options value
  let reading ← entries.foldlM Reading.add ⟨[], []⟩
  reading.finish

def entries (options : Options) : Entries Json :=
  optionKeys.zip (options.settings.map Setting.toJson) ++ options.extra

/-- Whether all settings are those of the table and nothing is added. -/
def isDefault (options : Options) : Bool :=
  options.settings == default.settings && options.extra.isEmpty

end Options

end ScannerConfig
