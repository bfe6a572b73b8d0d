import ScannerConfig.Normalization.Labels
import ScannerConfig.Proofs.LabelComparison
import ScannerConfig.Proofs.Revising

namespace ScannerConfig

namespace Normalization

/-- Whether the label of one record may stand before that of another. -/
def labelLE (a b : Json) : Bool :=
  (compareLabels (labelOf a) (labelOf b)).isLE

/-- Records in the order of their labels. -/
def LabelSorted (items : List Json) : Prop :=
  items.Pairwise fun a b => labelLE a b = true

instance (items : List Json) : Decidable (LabelSorted items) :=
  inferInstanceAs (Decidable (items.Pairwise _))

/-- The same records in the order of their labels, those with one label as they stood. -/
structure StablySorted (items sorted : List Json) : Prop where
  perm : sorted.Perm items
  ordered : LabelSorted sorted
  stable (label : String) :
    sorted.filter (fun item => labelOf item == label) =
      items.filter fun item => labelOf item == label

theorem labelLE_trans (a b c : Json) (first : labelLE a b = true) (second : labelLE b c = true) :
    labelLE a c = true :=
  have laws : Std.TransCmp compareLabels := inferInstance
  laws.isLE_trans first second

theorem labelLE_total (a b : Json) : (labelLE a b || labelLE b a) = true := by
  have laws : Std.OrientedCmp compareLabels := inferInstance
  rw [labelLE, labelLE, laws.eq_swap (a := labelOf a)]
  cases compareLabels (labelOf b) (labelOf a) <;> rfl

/-- Records that may stand in either order have one label. -/
theorem labelLE_antisymm {a b : Json} (first : labelLE a b = true) (second : labelLE b a = true) :
    labelOf a = labelOf b := by
  have laws : Std.OrientedCmp compareLabels := inferInstance
  exact compareLabels_eq_iff.mp (laws.isLE_antisymm first second)

theorem labelLE_of_label_eq {a b : Json} (same : labelOf a = labelOf b) : labelLE a b = true := by
  simp [labelLE, same, Std.ReflCmp.compare_self]

/-- Keys are computed once for each record, but the order is that of the labels. -/
theorem sortByLabel_eq_mergeSort (items : List Json) :
    sortByLabel items = items.mergeSort labelLE := by
  have decorated := List.map_mergeSort (r := labelLE)
    (s := fun a b : LabelKey × Json => (a.1.cmp b.1).isLE)
    (f := fun item => (LabelKey.ofLabel (labelOf item), item)) (l := items) fun _ _ _ _ => rfl
  rw [sortByLabel, ← decorated, List.map_map]
  exact List.map_id _

theorem sortByLabel_of_sorted {items : List Json} (sorted : LabelSorted items) :
    sortByLabel items = items := by
  rw [sortByLabel_eq_mergeSort]
  exact List.mergeSort_of_pairwise sorted

theorem stablySorted_sortByLabel (items : List Json) : StablySorted items (sortByLabel items) := by
  rw [sortByLabel_eq_mergeSort]
  have perm := List.mergeSort_perm items labelLE
  refine ⟨perm, List.pairwise_mergeSort labelLE_trans labelLE_total items, fun label => ?_⟩
  -- The records with one label are in order, so that they stay a sublist, of the same length.
  let here := fun item => labelOf item == label
  have level : (items.filter here).Pairwise fun a b => labelLE a b = true := by
    refine List.Pairwise.imp_of_mem (fun {a b} memberA memberB _ => ?_)
      (List.pairwise_of_forall (R := fun _ _ => True) fun _ _ => trivial)
    have atA := (List.mem_filter.mp memberA).2
    have atB := (List.mem_filter.mp memberB).2
    rw [beq_iff_eq] at atA atB
    exact labelLE_of_label_eq (atA.trans atB.symm)
  have inside := (List.sublist_mergeSort labelLE_trans labelLE_total level
    List.filter_sublist).filter here
  simp only [List.filter_filter, Bool.and_self] at inside
  exact (inside.eq_of_length (perm.filter here).length_eq.symm).symm

theorem sorted_sortByLabel (items : List Json) : LabelSorted (sortByLabel items) :=
  (stablySorted_sortByLabel items).ordered

theorem labelOf_of_same {item other : Json} (keyed : item.wellKeyed = true)
    (keyedOther : other.wellKeyed = true) (same : item.same other = true) :
    labelOf item = labelOf other := by
  cases item with
  | object record =>
    cases other with
    | object otherRecord =>
      have distinct := (Json.wellKeyed_object.mp keyed).distinct
      have distinctOther := (Json.wellKeyed_object.mp keyedOther).distinct
      have label := (Json.same_object distinct distinctOther).mp same "label"
      simp only [labelOf]
      generalize Entries.get? record "label" = value at label
      generalize Entries.get? otherRecord "label" = found at label
      cases label with
      | none => rfl
      | @some one another equal => cases one <;> cases another <;> simp_all [Json.same]
    | _ => simp [Json.same] at same
  | _ =>
    cases other with
    | object otherRecord => simp [Json.same] at same
    | _ => rfl

/-- Only labels count for the order. -/
theorem labelSorted_iff {items : List Json} :
    LabelSorted items ↔
      (items.map labelOf).Pairwise fun a b => (compareLabels a b).isLE = true := by
  rw [List.pairwise_map]
  rfl

theorem LabelSorted.of_labels {items others : List Json} (sorted : LabelSorted items)
    (same : others.map labelOf = items.map labelOf) : LabelSorted others := by
  rwa [labelSorted_iff, same, ← labelSorted_iff]

/-- A change that spares the labels can be made before sorting or after it. -/
theorem sortByLabel_map {f : Json → Json} {items : List Json}
    (spares : ∀ item ∈ items, labelOf (f item) = labelOf item) :
    sortByLabel (items.map f) = (sortByLabel items).map f := by
  rw [sortByLabel_eq_mergeSort, sortByLabel_eq_mergeSort]
  refine (List.map_mergeSort fun a memberA b memberB => ?_).symm
  simp only [labelLE, spares a memberA, spares b memberB]

end Normalization

end ScannerConfig
