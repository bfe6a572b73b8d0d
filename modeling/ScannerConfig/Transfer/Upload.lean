import ScannerConfig.Json.Parser
import ScannerConfig.Transfer.DataUri

namespace ScannerConfig.Upload

inductive Fault where
  | json (fault : Json.SyntaxError)
  | dataUri (fault : DataUri.Fault)
  deriving DecidableEq, Repr

def byteOrderMark : List UInt8 := [0xEF, 0xBB, 0xBF]

def withoutMark (bytes : List UInt8) : List UInt8 :=
  if byteOrderMark.isPrefixOf bytes then bytes.drop 3 else bytes

def schemeBytes : List UInt8 := Utf8.encode DataUri.scheme

/-- The document of an upload. One byte-order mark is passed over; after blanks and a data
scheme the document is the payload. -/
def parse (bytes : List UInt8) : Except Fault Json :=
  let bytes := withoutMark bytes
  let trimmed := bytes.dropWhile Blank.isBlankByte
  if schemeBytes.isPrefixOf trimmed then
    match Utf8.decode trimmed with
    | .error fault => .error (.dataUri (.encoding fault))
    | .ok text =>
      match DataUri.decode text with
      | .error fault => .error (.dataUri fault)
      | .ok payload => (Json.parse payload).mapError Fault.json
  else (Json.parse bytes).mapError Fault.json

end ScannerConfig.Upload
