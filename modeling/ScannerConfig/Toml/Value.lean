import ScannerConfig.Decimal.Binary64

namespace ScannerConfig

/-- A floating point value, which need not be finite. -/
inductive Real64 where
  | finite (value : Binary64)
  | infinite (negative : Bool)
  | nan
  deriving DecidableEq, Repr

namespace Toml

inductive Value where
  | string (text : String)
  | integer (value : Int)
  | float (value : Real64)
  | bool (value : Bool)
  /-- A date, a time or both, in the normal spelling. -/
  | moment (text : String)
  | list (items : List Value)
  | table (entries : List (String × Value))
  deriving Repr

end Toml

end ScannerConfig
