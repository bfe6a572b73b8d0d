import ScannerConfig.Decimal.Shortest
import ScannerConfig.Entries

namespace ScannerConfig

inductive Json.Number where
  /-- An integer of at most 64 bits, signed or unsigned. -/
  | integer (value : Int)
  | float (value : Binary64)
  deriving DecidableEq, Repr

inductive Json where
  | null
  | bool (value : Bool)
  | number (value : Json.Number)
  | string (value : String)
  | array (items : List Json)
  | object (entries : List (String × Json))
  deriving Repr

namespace Json

/-- Equality of numbers: an integer differs from every float, and the two zeros of floating
point are one number. -/
def Number.same : Number → Number → Bool
  | .integer m, .integer n => m == n
  | .float x, .float y => x.sameValue y
  | _, _ => false

mutual

/-- Equality of documents: the order of an object's entries does not count. -/
def same : Json → Json → Bool
  | .null, .null => true
  | .bool a, .bool b => a == b
  | .number a, .number b => a.same b
  | .string a, .string b => a == b
  | .array a, .array b => sameItems a b
  | .object a, .object b => a.length == b.length && sameEntries a b
  | _, _ => false

def sameItems : List Json → List Json → Bool
  | [], [] => true
  | a :: as, b :: bs => same a b && sameItems as bs
  | _, _ => false

/-- Whether every entry of the first object has a counterpart in the second. -/
def sameEntries : List (String × Json) → Entries Json → Bool
  | [], _ => true
  | (key, value) :: rest, other =>
    (match other.get? key with
      | some found => same value found
      | none => false) && sameEntries rest other

end

def ofNat (n : Nat) : Json :=
  .number (.integer n)

end Json

end ScannerConfig
