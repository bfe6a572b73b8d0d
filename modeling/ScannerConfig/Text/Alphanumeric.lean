import ScannerConfig.Text.AlphanumericTable
import ScannerConfig.Text.Runs

namespace ScannerConfig.Alphanumeric

def alphanumericRuns : Array (Run Unit) :=
  Run.ofText (fun _ => ()) alphanumericTable

def isAlphanumeric (c : Char) : Bool :=
  if c.toNat < 0x80 then c.isAlphanum
  else (Run.find? alphanumericRuns c.toNat).isSome

end ScannerConfig.Alphanumeric
