import ScannerConfig.Base64
import ScannerConfig.Text.Blank
import ScannerConfig.Text.Utf8

namespace ScannerConfig.DataUri

inductive Fault where
  | missingScheme
  | notBase64
  | payload (fault : Base64.Fault)
  | encoding (fault : Utf8.Fault)
  deriving DecidableEq, Repr

def Fault.message : Fault → String
  | .missingScheme => "missing data: scheme"
  | .notBase64 => "only base64 data URIs are supported"
  | .payload fault => fault.message
  | .encoding fault => fault.message

def scheme : List Char := "data:".toList

def marker : List Char := ";base64,".toList

/-- What follows the first occurrence of a part. -/
def after? (part : List Char) : List Char → Option (List Char)
  | [] => if part.isEmpty then some [] else none
  | c :: rest =>
    if part.isPrefixOf (c :: rest) then some ((c :: rest).drop part.length) else after? part rest

def encode (mime : String) (bytes : List UInt8) : List Char :=
  scheme ++ mime.toList ++ marker ++ (Base64.encode bytes).map fun b => Char.ofNat b.toNat

/-- The payload of a data URI, which blanks may surround. -/
def decode (text : List Char) : Except Fault (List UInt8) :=
  let trimmed := Blank.trim text
  if scheme.isPrefixOf trimmed then
    match after? marker (trimmed.drop scheme.length) with
    | some symbols => (Base64.decode (Utf8.encode symbols)).mapError Fault.payload
    | none => .error .notBase64
  else .error .missingScheme

end ScannerConfig.DataUri
