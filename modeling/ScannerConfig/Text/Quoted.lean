import ScannerConfig.Text.HiddenTable
import ScannerConfig.Text.Runs

namespace ScannerConfig.Quoted

def hiddenRuns : Array (Run Unit) :=
  Run.ofText (fun _ => ()) hiddenTable

def isHidden (c : Char) : Bool :=
  if 0x20 ≤ c.toNat ∧ c.toNat < 0x7F then false
  else (Run.find? hiddenRuns c.toNat).isSome

def escapeChar (c : Char) : List Char :=
  if c = '\x00' then ['\\', '0']
  else if c = '\t' then ['\\', 't']
  else if c = '\r' then ['\\', 'r']
  else if c = '\n' then ['\\', 'n']
  else if c = '\\' then ['\\', '\\']
  else if c = '"' then ['\\', '"']
  else if isHidden c then '\\' :: 'u' :: '\x7b' :: Nat.toDigits 16 c.toNat ++ ['\x7d']
  else [c]

def chars (text : String) : List Char :=
  '"' :: text.toList.flatMap escapeChar ++ ['"']

def write (text : String) : String :=
  String.ofList (chars text)

end ScannerConfig.Quoted
