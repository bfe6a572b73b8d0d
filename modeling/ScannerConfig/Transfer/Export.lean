import ScannerConfig.Calendar
import ScannerConfig.Json.Printer
import ScannerConfig.Transfer.DataUri

namespace ScannerConfig

structure ExportFile where
  name : String
  bytes : List UInt8
  deriving DecidableEq, Repr

namespace ExportFile

def mime : String := "application/json"

/-- The name of an export at an instant, given in seconds: it tells the day. -/
def nameAt (seconds : Int) : String :=
  "rdio-scanner-config-" ++ String.ofList (Date.ofDay (Date.dayOf seconds)).chars ++ ".json"

def ofDocument (document : Json) (seconds : Int) : ExportFile :=
  ⟨nameAt seconds, Utf8.encode document.pretty.toList⟩

def dataUri (file : ExportFile) : String :=
  String.ofList (DataUri.encode mime file.bytes)

end ExportFile

end ScannerConfig
