import ScannerConfig.Proofs.Frame
import ScannerConfig.Proofs.Settling

namespace ScannerConfig

theorem Report.foldl_count_eq_zero (report : Report) (kinds : List Change) (start : Nat) :
    kinds.foldl (fun sum change => sum + report.count change) start = 0 ↔
      start = 0 ∧ (kinds.all fun change => report.count change == 0) = true := by
  induction kinds generalizing start with
  | nil => simp
  | cons change kinds ih =>
    rw [List.foldl_cons, ih, Nat.add_eq_zero_iff, List.all_cons, Bool.and_eq_true, beq_iff_eq,
      and_assoc]

/-- Nothing is counted if no kind of change is. -/
theorem Report.total_eq_zero_iff (report : Report) :
    report.total = 0 ↔ report.isEmpty = true := by
  rw [Report.total, report.foldl_count_eq_zero, Report.isEmpty]
  exact and_iff_right rfl

namespace Normalization

open Revision

variable {root : Record}

/-- A document whose groups and tags, where these are lists, are in the order of their labels,
and which is otherwise as it was. -/
def inLabelOrder : Json → Json
  | .object root => .object (sortCollections root)
  | other => other

theorem get?_sortCollections_outside {key : String}
    (outside : key ∉ Collection.all.map Collection.key) :
    (sortCollections root).get? key = root.get? key := by
  rw [get?_sortCollections, if_neg]
  rintro (rfl | rfl) <;> exact outside (by decide)

theorem spellings_apart :
    ∀ spelling ∈ aliases.map Prod.fst, spelling ∉ Collection.all.map Collection.key := by decide

theorem get?_sortCollections_collection (collection : Collection) :
    (sortCollections root).get? collection.key =
      if collection.isLabelSorted then (root.get? collection.key).map sortedItems
      else root.get? collection.key := by
  have labelled : (collection.key = Collection.groups.key ∨
      collection.key = Collection.tags.key) ↔ collection.isLabelSorted = true := by
    cases collection <;> decide
  rw [get?_sortCollections]
  simp only [labelled]

/-- The records of a collection were left as they are if its list is the same once in order. -/
theorem itemChanges_of_same {collection : Collection} {value : Option Json}
    (keyed : KeyedValue value)
    (same : Json.SameFound (value.map (collectionAfter collection))
      (if collection.isLabelSorted then value.map sortedItems else value)) :
    itemChanges reconcileSimple value = [] := by
  cases value with
  | none => rfl
  | some value =>
    have keyedValue := keyed value rfl
    rw [Option.map_some, Option.map_some, collectionAfter] at same
    by_cases labelled : collection.isLabelSorted = true
    · -- Both lists are in order, so that the rule can be seen on the sorted list.
      rw [if_pos labelled, if_pos labelled, sortedItems_revisedItems keyedValue] at same
      have keyedSorted : KeyedValue (some (sortedItems value)) :=
        fun _ found => Option.some.inj found ▸ wellKeyed_sortedItems keyedValue
      have silent := telling_reconcileSimple.itemChanges keyedSorted same
      rw [itemChanges, List.flatMap_eq_nil_iff] at silent ⊢
      exact fun record member => silent record (mem_recordsOf_sortedItems.mpr member)
    · rw [if_neg labelled, if_neg labelled] at same
      exact telling_reconcileSimple.itemChanges keyed same

theorem silent_of_same (keyed : root.WellKeyed)
    (same : (Json.object (normalizeRoot root).value).same (.object (sortCollections root)) = true) :
    (normalizeRoot root).changes = [] := by
  have after := keepsKeyed_normalizeRoot root keyed
  have lookups := (Json.same_object after.distinct (wellKeyed_sortCollections keyed).distinct).mp same
  have noSpelling : ∀ spelling ∈ aliases.map Prod.fst, root.get? spelling = none := by
    intro spelling member
    have here := lookups spelling
    rw [normalizeRoot_spelling keyed member,
      get?_sortCollections_outside (spellings_apart spelling member)] at here
    cases found : root.get? spelling with
    | none => rfl
    | some value =>
      rw [found] at here
      cases here
  refine (changes_normalizeRoot_eq_nil keyed).mpr
    ⟨noSpelling, fun collection => ?_, ?_, ?_⟩
  · have here := lookups collection.key
    rw [normalizeRoot_collection keyed, get?_sortCollections_collection,
      ← value?_of_no_spelling noSpelling] at here
    exact itemChanges_of_same (keyedValue_collection keyed collection) here
  · have here := lookups systemsKey
    rw [normalizeRoot_systems keyed, get?_sortCollections_outside (by decide)] at here
    exact telling_fixSystem.itemChanges (keyed.keyedValue _) here
  · have here := lookups optionsKey
    rw [normalizeRoot_options keyed, get?_sortCollections_outside (by decide)] at here
    exact telling_mergedOptions (keyed.keyedValue _) here

/-- The report is empty if and only if the document is what it was but for the order of its
labels, and so is its total zero. -/
theorem isEmpty_iff_inLabelOrder {document : Json} (keyed : document.wellKeyed = true) :
    let report := Report.ofChanges (normalize document).changes
    let unchanged := (normalize document).value.same (inLabelOrder document) = true
    (report.isEmpty = true ↔ unchanged) ∧ (report.total = 0 ↔ unchanged) := by
  intro report unchanged
  rw [report.total_eq_zero_iff, and_self, Report.isEmpty_ofChanges]
  cases document with
  | object root =>
    have keyedRoot := Json.wellKeyed_object.mp keyed
    rw [changes_normalize_object]
    exact ⟨same_normalizeRoot_of_silent keyedRoot, silent_of_same keyedRoot⟩
  | _ => exact iff_of_true rfl (Json.same_refl _ keyed)

theorem isEmpty_iff_inLabelOrder_tags :
    let document : Json := .object [
      ("tags", .array [.object [("label", .string "law")], .object [("label", .string "fire")]]),
      ("groups", .array [.object [("_id", .ofNat 3), ("label", .string "county")]])]
    let report := Report.ofChanges (normalize document).changes
    let unchanged := (normalize document).value.same (inLabelOrder document) = true
    document.wellKeyed = true ∧
      (report.isEmpty = true ↔ unchanged) ∧ (report.total = 0 ↔ unchanged) :=
  ⟨by decide, isEmpty_iff_inLabelOrder (by decide)⟩

end Normalization

end ScannerConfig
