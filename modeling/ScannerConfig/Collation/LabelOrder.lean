import ScannerConfig.Collation.Elements

namespace ScannerConfig

/-- What a label is compared by. -/
structure LabelKey where
  primaries : List Nat
  secondaries : List Nat
  tertiaries : List Nat
  points : List Nat
  deriving DecidableEq, Repr

namespace LabelKey

def ofLabel (label : String) : LabelKey :=
  let points := label.toList.map Char.toNat
  let weights := Collation.elements (Collation.canonical points)
  let level (f : Collation.Weight → Nat) := (weights.map f).filter (· ≠ 0)
  ⟨level Collation.Weight.primary, level Collation.Weight.secondary,
    level Collation.Weight.tertiary, points⟩

def cmp (a b : LabelKey) : Ordering :=
  (compare a.primaries b.primaries).then <|
    (compare a.secondaries b.secondaries).then <|
      (compare a.tertiaries b.tertiaries).then (compare a.points b.points)

end LabelKey

/-- The order of two labels. -/
def compareLabels (a b : String) : Ordering :=
  (LabelKey.ofLabel a).cmp (LabelKey.ofLabel b)

end ScannerConfig
