import ScannerConfig.Json.Printer
import ScannerConfig.Normalization.Change
import ScannerConfig.Output.Table
import ScannerConfig.Schema.OptionTable
import ScannerConfig.Text.Quoted
import ScannerConfig.Yaml.Printer

namespace ScannerConfig

inductive OutputFormat where
  | json
  | compact
  | yaml
  deriving DecidableEq, Repr

namespace OutputFormat

def name : OutputFormat → String
  | json => "json"
  | compact => "json-compact"
  | yaml => "yaml"

def ofName? (name : String) : Option OutputFormat :=
  [json, compact, yaml].find? fun format => format.name == name

def render (format : OutputFormat) (document : Json) : String :=
  match format with
  | json => document.pretty
  | compact => document.compact
  | yaml => Yaml.render document

end OutputFormat

/-- The changes that were made, each kind with its number. -/
def Report.render (report : Report) : String :=
  if report.isEmpty then "Already canonical: no changes."
  else
    let rows := report.rows.filter fun row => row.2 > 0
    Table.render ["Change", "Count"] (rows.map fun row => [row.1, toString row.2])

def SettingKind.name : SettingKind → String
  | toggle => "bool"
  | number _ => "int"
  | text => "string"

def Setting.show : Setting → String
  | toggle value => toString value
  | number value => toString value
  | text value => Quoted.write value

/-- The table of options with their kinds and defaults. -/
def renderOptionTable : String :=
  Table.render ["Key", "Type", "Default"]
    (optionTable.map fun row => [row.key, row.kind.name, row.default.show])

end ScannerConfig
