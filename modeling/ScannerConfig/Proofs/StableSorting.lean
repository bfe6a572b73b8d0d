import ScannerConfig.Proofs.LabelSort

namespace ScannerConfig.Normalization

variable {items others : List Json}

/-- A record with a text under its label. -/
def Labelled (item : Json) (text : String) : Prop :=
  ∃ record : Record, item = .object record ∧ record.get? "label" = some (.string text)

/-- Sorting that keeps the order of records with one label, as no other sorting does. The order in
which the records came shows in nothing else. -/
structure StableSort (sort : List Json → List Json) : Prop where
  stable (items : List Json) : StablySorted items (sort items)
  only (items sorted : List Json) : StablySorted items sorted → sorted = sort items
  emptyFirst (items : List Json) : ∃ later,
    sort items = items.filter (fun item => labelOf item == "") ++ later ∧
      ∀ item ∈ later, labelOf item ≠ ""
  again (items : List Json) : sort (sort items) = sort items
  labels (items others : List Json) : others.Perm items →
    (sort others).map labelOf = (sort items).map labelOf
  determined (items others : List Json) : others.Perm items → (items.map labelOf).Nodup →
    sort others = sort items

theorem labelOf_of_labelled {item : Json} {text : String} (labelled : Labelled item text) :
    labelOf item = text := by
  obtain ⟨record, rfl, found⟩ := labelled
  simp only [labelOf, found]

theorem labelOf_of_unlabelled {item : Json} (unlabelled : ∀ text, ¬Labelled item text) :
    labelOf item = "" := by
  cases item with
  | object record =>
    rw [labelOf]
    split
    · rename_i text found
      exact absurd ⟨record, rfl, found⟩ (unlabelled text)
    · rfl
  | _ => rfl

theorem LabelSorted.head_le {item other : Json} (sorted : LabelSorted (item :: items))
    (member : other ∈ item :: items) : labelLE item other = true := by
  rcases List.mem_cons.mp member with rfl | later
  · exact labelLE_of_label_eq rfl
  · exact (List.pairwise_cons.mp sorted).1 other later

/-- Lists that hold the same records with each label, in the same order. -/
def SameByLabel (items others : List Json) : Prop :=
  ∀ label, items.filter (fun item => labelOf item == label) =
    others.filter fun item => labelOf item == label

theorem SameByLabel.symm (same : SameByLabel items others) : SameByLabel others items :=
  fun label => (same label).symm

theorem SameByLabel.mem {item : Json} (same : SameByLabel items others) (member : item ∈ items) :
    item ∈ others := by
  have here : item ∈ items.filter fun other => labelOf other == labelOf item := by simp [member]
  rw [same] at here
  exact (List.mem_filter.mp here).1

theorem SameByLabel.tails {item : Json} (same : SameByLabel (item :: items) (item :: others)) :
    SameByLabel items others := by
  intro label
  have filtered := same label
  by_cases here : labelOf item = label <;> simpa [here] using filtered

/-- Two lists in order are equal if they hold the same records with each label. -/
theorem LabelSorted.eq_of_sameByLabel (sorted : LabelSorted items)
    (sortedOthers : LabelSorted others) (same : SameByLabel items others) : items = others := by
  induction items generalizing others with
  | nil =>
    cases others with
    | nil => rfl
    | cons other others => exact absurd (same.symm.mem List.mem_cons_self) List.not_mem_nil
  | cons item items ih =>
    cases others with
    | nil => exact absurd (same.mem List.mem_cons_self) List.not_mem_nil
    | cons other others =>
      -- Each of the two heads is in the other list, so that neither has the lower label.
      have label : labelOf item = labelOf other :=
        labelLE_antisymm (sorted.head_le (same.symm.mem List.mem_cons_self))
          (sortedOthers.head_le (same.mem List.mem_cons_self))
      have heads := same (labelOf item)
      simp only [List.filter_cons, label, BEq.rfl, if_true, List.cons.injEq] at heads
      obtain ⟨rfl, _⟩ := heads
      rw [ih (List.pairwise_cons.mp sorted).2 (List.pairwise_cons.mp sortedOthers).2 same.tails]

theorem StablySorted.eq_sortByLabel {sorted : List Json} (stably : StablySorted items sorted) :
    sorted = sortByLabel items := by
  have result := stablySorted_sortByLabel items
  refine stably.ordered.eq_of_sameByLabel result.ordered fun label => ?_
  rw [stably.stable label, result.stable label]

/-- Among records in order those with the empty label come first. -/
theorem LabelSorted.empty_first (sorted : LabelSorted items) :
    items = items.filter (fun item => labelOf item == "") ++
      items.filter fun item => labelOf item != "" := by
  induction items with
  | nil => rfl
  | cons item items ih =>
    obtain ⟨before, later⟩ := List.pairwise_cons.mp sorted
    by_cases empty : labelOf item = ""
    · simpa [empty] using ih later
    · have full : ∀ other ∈ items, labelOf other ≠ "" := by
        intro other member none
        have lower : labelLE other item = true := by
          rw [labelLE, none]
          exact compareLabels_empty _
        exact empty ((labelLE_antisymm (before other member) lower).trans none)
      have noneEmpty : items.filter (fun other => labelOf other == "") = [] := by
        simpa [List.filter_eq_nil_iff] using full
      have allFull : items.filter (fun other => labelOf other != "") = items := by
        simpa [List.filter_eq_self] using full
      simp [empty, noneEmpty, allFull]

theorem perm_sortByLabel (perm : others.Perm items) : (sortByLabel others).Perm (sortByLabel items) :=
  (stablySorted_sortByLabel others).perm.trans
    (perm.trans (stablySorted_sortByLabel items).perm.symm)

theorem labels_sortByLabel (perm : others.Perm items) :
    (sortByLabel others).map labelOf = (sortByLabel items).map labelOf := by
  have laws : Std.OrientedCmp compareLabels := inferInstance
  have ordered := fun records => labelSorted_iff.mp (sorted_sortByLabel records)
  refine List.Perm.eq_of_pairwise ?_ (ordered others) (ordered items)
    ((perm_sortByLabel perm).map labelOf)
  exact fun a b _ _ first second => compareLabels_eq_iff.mp (laws.isLE_antisymm first second)

/-- Where labels are distinct they decide the place of every record. -/
theorem sortByLabel_of_distinct (perm : others.Perm items) (distinct : (items.map labelOf).Nodup) :
    sortByLabel others = sortByLabel items := by
  have result := perm_sortByLabel perm
  refine List.Perm.eq_of_pairwise ?_ (sorted_sortByLabel others) (sorted_sortByLabel items) result
  intro a b memberA memberB first second
  have inItems : ∀ {record}, record ∈ sortByLabel items → record ∈ items :=
    (stablySorted_sortByLabel items).perm.mem_iff.mp
  exact List.inj_on_of_nodup_map distinct (inItems (result.mem_iff.mp memberA)) (inItems memberB)
    (labelLE_antisymm first second)

/-- Sorting by label is the stable sort; a record without a text for its label counts as having
the empty one. -/
theorem stableSort_sortByLabel :
    StableSort sortByLabel ∧ (∀ item text, Labelled item text → labelOf item = text) ∧
      ∀ item, (∀ text, ¬Labelled item text) → labelOf item = "" := by
  refine ⟨⟨stablySorted_sortByLabel, ?_, ?_, ?_, ?_, ?_⟩, ?_, ?_⟩
  · exact fun items sorted stably => stably.eq_sortByLabel
  · intro items
    have result := stablySorted_sortByLabel items
    refine ⟨(sortByLabel items).filter fun item => labelOf item != "", ?_, ?_⟩
    · rw [← result.stable ""]
      exact result.ordered.empty_first
    · intro item member
      simpa using (List.mem_filter.mp member).2
  · exact fun items => sortByLabel_of_sorted (sorted_sortByLabel items)
  · exact fun items others => labels_sortByLabel
  · exact fun items others => sortByLabel_of_distinct
  · exact fun item text => labelOf_of_labelled
  · exact fun item => labelOf_of_unlabelled

end ScannerConfig.Normalization
