import Mathlib.Data.List.Basic
import ScannerConfig.Collation.LabelOrder

namespace ScannerConfig

namespace LabelKey

/-- The order of two keys on the three levels of their weights. -/
def cmpLevels (a b : LabelKey) : Ordering :=
  (compare a.primaries b.primaries).then <|
    (compare a.secondaries b.secondaries).then (compare a.tertiaries b.tertiaries)

instance : Std.TransCmp cmpLevels :=
  inferInstanceAs <| Std.TransCmp <| compareLex (compareOn primaries) <|
    compareLex (compareOn secondaries) (compareOn tertiaries)

instance : Std.TransCmp cmp :=
  inferInstanceAs <| Std.TransCmp <| compareLex (compareOn primaries) <|
    compareLex (compareOn secondaries) <|
      compareLex (compareOn tertiaries) (compareOn points)

theorem cmp_eq_then (a b : LabelKey) :
    cmp a b = (cmpLevels a b).then (compare a.points b.points) := by
  simp only [cmp, cmpLevels, Ordering.then_assoc]

/-- A key ends with the code points of its label, so that no two labels share one. -/
theorem eq_of_points {a b : String} (same : (ofLabel a).points = (ofLabel b).points) : a = b :=
  String.toList_injective (List.map_injective_iff.mpr (fun _ _ => Char.toNat_inj.mp) same)

end LabelKey

/-- The order of two labels on the three levels of their weights. -/
def collateLabels (a b : String) : Ordering :=
  (LabelKey.ofLabel a).cmpLevels (LabelKey.ofLabel b)

/-- The order of two labels by their code points. -/
def comparePoints (a b : String) : Ordering :=
  compare (a.toList.map Char.toNat) (b.toList.map Char.toNat)

/-- Spellings of one text, such as a composed and a decomposed one. -/
def CanonicallyEqual (a b : String) : Prop :=
  Collation.canonical (a.toList.map Char.toNat) = Collation.canonical (b.toList.map Char.toNat)

instance : Std.TransCmp collateLabels :=
  have levels : Std.TransCmp LabelKey.cmpLevels := inferInstance
  { eq_swap := levels.eq_swap, isLE_trans := levels.isLE_trans }

instance : Std.TransCmp compareLabels :=
  have keys : Std.TransCmp LabelKey.cmp := inferInstance
  { eq_swap := keys.eq_swap, isLE_trans := keys.isLE_trans }

theorem compareLabels_eq_then (a b : String) :
    compareLabels a b = (collateLabels a b).then (comparePoints a b) :=
  LabelKey.cmp_eq_then _ _

theorem compareLabels_of_tie {a b : String} (tie : collateLabels a b = .eq) :
    compareLabels a b = comparePoints a b := by
  rw [compareLabels_eq_then, tie, Ordering.eq_then]

theorem compareLabels_of_apart {a b : String} (apart : collateLabels a b ≠ .eq) :
    compareLabels a b = collateLabels a b := by
  rw [compareLabels_eq_then]
  cases order : collateLabels a b with
  | eq => exact absurd order apart
  | lt => rfl
  | gt => rfl

theorem compareLabels_eq_iff {a b : String} : compareLabels a b = .eq ↔ a = b := by
  constructor
  · intro equal
    rw [compareLabels_eq_then, Ordering.then_eq_eq] at equal
    exact LabelKey.eq_of_points (Std.LawfulEqOrd.eq_of_compare equal.2)
  · rintro rfl
    exact Std.ReflCmp.compare_self

theorem collateLabels_of_canonicallyEqual {a b : String} (same : CanonicallyEqual a b) :
    collateLabels a b = .eq := by
  have weights : collateLabels a b = collateLabels b b := by
    unfold CanonicallyEqual at same
    simp only [collateLabels, LabelKey.cmpLevels, LabelKey.ofLabel, same]
  rw [weights]
  exact Std.ReflCmp.compare_self

/-- A label that stands apart from one of two that tie stands on the same side of both. -/
theorem compareLabels_beside_tie {a b c : String} (tie : collateLabels a b = .eq)
    (apart : collateLabels a c ≠ .eq) : compareLabels a c = compareLabels b c := by
  have congr : collateLabels a c = collateLabels b c := Std.TransCmp.congr_left tie
  rw [compareLabels_of_apart apart, compareLabels_of_apart (congr ▸ apart), congr]

theorem isLE_compare_nil (items : List Nat) : (compare [] items).isLE = true := by
  cases items <;> rfl

/-- The empty label has no weights, and stands before every other. -/
theorem compareLabels_empty (label : String) : (compareLabels "" label).isLE = true := by
  have nothing : LabelKey.ofLabel "" = ⟨[], [], [], []⟩ := rfl
  simp only [compareLabels, nothing, LabelKey.cmp, Ordering.isLE_then_iff_and, isLE_compare_nil,
    or_true, and_self]

/-- Every two labels stand in one order, and different ones in different places. -/
structure TotalComparison (cmp : String → String → Ordering) : Prop where
  swap (a b : String) : cmp a b = (cmp b a).swap
  eq_iff (a b : String) : cmp a b = .eq ↔ a = b
  trans (a b c : String) :
    (cmp a b).isLE = true → (cmp b c).isLE = true → (cmp a c).isLE = true

/-- The weights decide, and code points where all levels tie. Labels that tie have no other label
between them that does not tie with them. -/
structure TiesByPoints (cmp : String → String → Ordering) : Prop where
  apart (a b : String) : collateLabels a b ≠ .eq → cmp a b = collateLabels a b
  tie (a b : String) : collateLabels a b = .eq → cmp a b = comparePoints a b
  beside (a b c : String) :
    collateLabels a b = .eq → collateLabels a c ≠ .eq → cmp a c = cmp b c

/-- Labels are totally ordered; those that tie, as the spellings of one text do, go by their code
points. -/
theorem compareLabels_total :
    TotalComparison compareLabels ∧ TiesByPoints compareLabels ∧
      ∀ a b, CanonicallyEqual a b → collateLabels a b = .eq := by
  have laws : Std.TransCmp compareLabels := inferInstance
  refine ⟨⟨?_, ?_, ?_⟩, ⟨?_, ?_, ?_⟩, ?_⟩
  · exact fun a b => laws.eq_swap
  · exact fun a b => compareLabels_eq_iff
  · exact fun a b c => laws.isLE_trans
  · exact fun a b => compareLabels_of_apart
  · exact fun a b => compareLabels_of_tie
  · exact fun a b c => compareLabels_beside_tie
  · exact fun a b => collateLabels_of_canonicallyEqual

end ScannerConfig
