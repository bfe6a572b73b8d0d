import ScannerConfig.Proofs.Overlay
import ScannerConfig.Proofs.Settling

namespace ScannerConfig

namespace Entries

variable {α : Type} {entries front back : Entries α} {key : String}

theorem erase_append (absent : key ∉ front.keys) :
    erase (front ++ back) key = front ++ back.erase key := by
  induction front with
  | nil => rfl
  | cons entry front ih =>
    obtain ⟨different, later⟩ : key ≠ entry.1 ∧ key ∉ keys front := by
      simpa [keys, not_or] using absent
    rw [List.cons_append, erase, if_neg (Ne.symm different), ih later, List.cons_append]

theorem modify_append (absent : key ∉ front.keys) (f : α → α) :
    modify (front ++ back) key f = front ++ back.modify key f := by
  induction front with
  | nil => rfl
  | cons entry front ih =>
    obtain ⟨different, later⟩ : key ≠ entry.1 ∧ key ∉ keys front := by
      simpa [keys, not_or] using absent
    rw [List.cons_append, modify, if_neg (Ne.symm different), ih later, List.cons_append]

/-- A value that a function leaves as it is need not be changed. -/
theorem modify_of_fixed {f : α → α} (fixed : ∀ value, entries.get? key = some value → f value = value) :
    entries.modify key f = entries := by
  induction entries with
  | nil => rfl
  | cons entry rest ih =>
    obtain ⟨k, v⟩ := entry
    by_cases same : k = key
    · rw [Entries.modify, if_pos same, fixed v (by rw [get?, if_pos same])]
    · rw [Entries.modify, if_neg same, ih fun value found => fixed value (by rwa [get?, if_neg same])]

theorem lastFirst_concat (entries : Entries α) (last : String × α) :
    lastFirst (entries ++ [last]) = last :: entries := by
  rw [lastFirst, List.getLast?_concat, List.dropLast_concat]

/-- Up to `count` entries from the end, the last one first, and then the others. -/
def turned (count : Nat) (entries : Entries α) : Entries α :=
  entries.reverse.take count ++ entries.take (entries.length - count)

theorem turned_zero (entries : Entries α) : turned 0 entries = entries := by
  simp [turned]

theorem turned_nil (count : Nat) : turned count ([] : Entries α) = [] := by
  simp [turned]

theorem turned_concat (count : Nat) (entries : Entries α) (last : String × α) :
    turned (count + 1) (entries ++ [last]) = last :: turned count entries := by
  have shorter : (entries ++ [last]).length - (count + 1) = entries.length - count := by simp
  rw [turned, shorter, List.reverse_concat, List.take_succ_cons,
    List.take_append_of_le_length (Nat.sub_le _ _)]
  rfl

theorem turned_of_short (count : Nat) (short : entries.length ≤ 1) : turned count entries = entries := by
  rcases entries with _ | ⟨entry, _ | ⟨second, rest⟩⟩
  · exact turned_nil count
  · cases count <;> simp [turned]
  · simp at short

/-- Two entries or more are turned with another key in front. -/
theorem turned_head (distinct : entries.Distinct) (several : 2 ≤ entries.length) {count : Nat}
    (positive : 0 < count) :
    ∃ first rest last others, entries = first :: rest ∧
      turned count entries = last :: others ∧ first.1 ≠ last.1 := by
  obtain ⟨count, rfl⟩ : ∃ less, count = less + 1 := ⟨count - 1, by omega⟩
  rcases List.eq_nil_or_concat entries with rfl | ⟨before, last, rfl⟩
  · simp at several
  rw [List.concat_eq_append] at distinct several ⊢
  cases before with
  | nil => simp at several
  | cons first before =>
    refine ⟨first, before ++ [last], last, turned count (first :: before), rfl,
      turned_concat count _ last, ?_⟩
    obtain ⟨fresh, _⟩ := distinct_cons.mp (List.cons_append ▸ distinct)
    rintro same
    exact fresh (by simp [keys, same])

end Entries

namespace Normalization

open Revision

section Taking

variable {rows : List OptionRow} {front pairs further : Record}

/-- Canonical options behind others are all taken out, and the others stay in front. -/
theorem left_of_all_taken (distinct : pairs.Distinct)
    (inside : pairs.keys ⊆ rows.map OptionRow.key)
    (outside : ∀ row ∈ rows, row.key ∉ front.keys) :
    (takeOptions rows (front ++ pairs)).value.2 = front := by
  induction rows generalizing pairs with
  | nil =>
    have none : pairs.keys = [] := List.subset_nil.mp inside
    rw [List.map_eq_nil_iff.mp none, List.append_nil]
    rfl
  | cons row rows ih =>
    obtain ⟨here, later⟩ := List.forall_mem_cons.mp outside
    rw [takeOptions_cons, Entries.erase_append here]
    refine ih (distinct.erase row.key) (fun key member => ?_) later
    have kept := Entries.get?_erase distinct row.key key
    rw [← Entries.has_iff_mem_keys, Entries.has, kept] at member
    split at member
    · exact absurd member Bool.false_ne_true
    · rename_i different
      have before : key ∈ pairs.keys := Entries.has_iff_mem_keys.mp member
      exact (List.mem_cons.mp (inside before)).resolve_left (Ne.symm different)

/-- Each canonical option that is taken from its place in front brings the last of the other
options to that place. -/
theorem left_of_canonical_first (front further : Record)
    (distinct : (rows.map OptionRow.key).Nodup) (canonical : pairs.keys = rows.map OptionRow.key)
    (outside : ∀ row ∈ rows, row.key ∉ front.keys)
    (other : ∀ row ∈ rows, row.key ∉ further.keys) :
    (takeOptions rows (front ++ (pairs ++ further))).value.2 = front ++ further.turned rows.length := by
  induction rows generalizing front pairs further with
  | nil =>
    rw [List.map_eq_nil_iff.mp canonical, List.length_nil, Entries.turned_zero]
    rfl
  | cons row rows ih =>
    obtain ⟨entry, pairs, rfl⟩ : ∃ entry rest, pairs = entry :: rest := by
      cases pairs with
      | nil => simp [Entries.keys] at canonical
      | cons entry rest => exact ⟨entry, rest, rfl⟩
    obtain ⟨sameKey, canonicalRest⟩ : entry.1 = row.key ∧ Entries.keys pairs = rows.map OptionRow.key := by
      simpa [Entries.keys] using canonical
    rcases List.eq_nil_or_concat further with rfl | ⟨before, last, rfl⟩
    · have whole : Entries.Distinct (entry :: pairs) := by rwa [Entries.Distinct, canonical]
      rw [List.append_nil, Entries.turned_nil, List.append_nil]
      exact left_of_all_taken whole (by rw [canonical]; exact List.Subset.refl _) outside
    · rw [List.concat_eq_append] at other ⊢
      obtain ⟨here, laterOutside⟩ := List.forall_mem_cons.mp outside
      obtain ⟨_, laterOther⟩ := List.forall_mem_cons.mp other
      have moved : (front ++ (entry :: pairs ++ (before ++ [last]))).erase row.key =
          (front ++ [last]) ++ (pairs ++ before) := by
        rw [Entries.erase_append here, List.cons_append, Entries.erase, if_pos sameKey,
          ← List.append_assoc pairs, Entries.lastFirst_concat, List.append_assoc front]
        rfl
      rw [takeOptions_cons, moved, List.length_cons, Entries.turned_concat]
      have taken := ih (front ++ [last]) before (List.nodup_cons.mp distinct).2
        canonicalRest
        (fun row member => by
          simpa [Entries.keys_append, Entries.keys, not_or] using
            And.intro (laterOutside row member) fun same =>
              laterOther row member (by simp [Entries.keys, same]))
        (fun row member inside => laterOther row member (by simp [Entries.keys_append, inside]))
      rw [taken, List.append_assoc]
      rfl

/-- Canonical options that are all there are taken with the values they have. -/
theorem takenOptions_of_found {options : Record} (canonical : pairs.keys = rows.map OptionRow.key)
    (found : ∀ entry ∈ pairs, options.get? entry.1 = some entry.2) :
    takenOptions rows options = pairs := by
  induction rows generalizing pairs with
  | nil => exact (List.map_eq_nil_iff.mp canonical).symm
  | cons row rows ih =>
    cases pairs with
    | nil => simp [Entries.keys] at canonical
    | cons entry pairs =>
      obtain ⟨sameKey, canonicalRest⟩ : entry.1 = row.key ∧ Entries.keys pairs = rows.map OptionRow.key := by
        simpa [Entries.keys] using canonical
      obtain ⟨here, later⟩ := List.forall_mem_cons.mp found
      have rest := ih canonicalRest later
      rw [takenOptions] at rest ⊢
      rw [List.map_cons, rest, ← sameKey, here, Option.getD_some]

end Taking

section Arranged

/-- Options with the canonical ones in front in the order of the table, and without obsolete
ones. -/
structure Arrangement (options canonical further : Record) : Prop where
  split : options = canonical ++ further
  keyed : options.WellKeyed
  inFront : canonical.keys = optionKeys
  noCanonical : ∀ key ∈ optionKeys, key ∉ further.keys
  noObsolete : ∀ key ∈ obsoleteOptions, key ∉ further.keys

/-- The options beyond the canonical ones in the order in which a further pass leaves them. -/
def turnedOptions (options : Record) : Record :=
  options.take optionTable.length ++
    Entries.turned optionTable.length (options.drop optionTable.length)

variable {options canonical further : Record}

theorem Arrangement.length (arranged : Arrangement options canonical further) :
    canonical.length = optionTable.length := by
  rw [← List.length_map (f := Prod.fst), ← List.length_map (f := OptionRow.key)]
  exact congrArg List.length arranged.inFront

theorem Arrangement.take (arranged : Arrangement options canonical further) :
    options.take optionTable.length = canonical := by
  rw [arranged.split, ← arranged.length, List.take_left]

theorem Arrangement.drop (arranged : Arrangement options canonical further) :
    options.drop optionTable.length = further := by
  rw [arranged.split, ← arranged.length, List.drop_left]

theorem insertAll_of_disjoint (distinct : canonical.Distinct) (distinctFurther : further.Distinct)
    (disjoint : ∀ key ∈ further.keys, key ∉ canonical.keys) :
    canonical.insertAll further = canonical ++ further := by
  have unknown : ∀ entry ∈ further, (!canonical.has entry.1) = true := by
    intro entry member
    have absent := Entries.get?_eq_none_iff.mpr (disjoint entry.1 (List.mem_map_of_mem member))
    rw [Entries.has_eq_false_iff.mpr absent, Bool.not_false]
  have unchanged : ∀ entry ∈ canonical, (further.get? entry.1).getD entry.2 = entry.2 := by
    intro entry member
    have absent : further.get? entry.1 = none := Entries.get?_eq_none_iff.mpr fun later =>
      disjoint entry.1 later (List.mem_map_of_mem member)
    rw [absent, Option.getD_none]
  rw [Entries.insertAll_eq_overlay distinct distinctFurther, Entries.overlay,
    List.filter_eq_self.mpr unknown]
  refine congrArg (· ++ further) ((List.map_congr_left fun entry member => ?_).trans (List.map_id _))
  rw [unchanged entry member]
  rfl

theorem noCanonical_left (keyed : options.WellKeyed) {key : String} (member : key ∈ optionKeys) :
    key ∉ (takeOptions optionTable options).value.2.keys := by
  rw [← Entries.get?_eq_none_iff, get?_left_takeOptions keyed]
  exact if_pos member

/-- The options before obsolete ones are taken out. -/
theorem collected_eq (keyed : options.WellKeyed) :
    (takenOptions optionTable options).insertAll (takeOptions optionTable options).value.2 =
      takenOptions optionTable options ++ (takeOptions optionTable options).value.2 := by
  refine insertAll_of_disjoint distinct_takenOptions (keyed_left_takeOptions keyed).distinct ?_
  intro key later first
  rw [keys_takenOptions] at first
  exact noCanonical_left keyed first later

theorem pruneOptions_append {keys : List String} (further : Record) (outside : ∀ key ∈ keys, key ∉ canonical.keys) :
    ∃ rest, (pruneOptions keys (canonical ++ further)).value = canonical ++ rest := by
  induction keys generalizing further with
  | nil => exact ⟨further, rfl⟩
  | cons key keys ih =>
    obtain ⟨here, later⟩ := List.forall_mem_cons.mp outside
    cases found : Entries.get? (canonical ++ further) key with
    | none =>
      rw [pruneOptions, Entries.pop?_of_get?_none found]
      exact ih further later
    | some value =>
      rw [pruneOptions, Entries.pop?_of_get?_some found, Entries.erase_append here]
      exact ih _ later

/-- One pass arranges the options. -/
theorem arrangement_completeOptions (keyed : options.WellKeyed) :
    ∃ canonical further, Arrangement (completeOptions options).value canonical further := by
  have apart : ∀ key ∈ obsoleteOptions, key ∉ (takenOptions optionTable options).keys := by
    rw [keys_takenOptions]
    exact obsolete_not_canonical
  have completed := value_completeOptions keyed
  rw [collected_eq keyed] at completed
  obtain ⟨rest, pruned⟩ := pruneOptions_append (takeOptions optionTable options).value.2 apart
  have split := completed.trans pruned
  have keyedAfter := keepsKeyed_completeOptions options keyed
  have distinct := keyedAfter.distinct
  rw [split, Entries.Distinct, Entries.keys_append, List.nodup_append, keys_takenOptions] at distinct
  refine ⟨takenOptions optionTable options, rest, split, keyedAfter, keys_takenOptions, ?_, ?_⟩
  · exact fun key member later => distinct.2.2 key member key later rfl
  · intro key obsolete later
    have gone := has_completeOptions_obsolete keyed obsolete
    rw [split, Entries.has_eq_false_iff, Entries.get?_eq_none_iff, Entries.keys_append] at gone
    exact gone (List.mem_append_right _ later)

theorem pruneOptions_of_absent {keys : List String} (absent : ∀ key ∈ keys, options.get? key = none) :
    (pruneOptions keys options).value = options := by
  induction keys with
  | nil => rfl
  | cons key keys ih =>
    obtain ⟨here, later⟩ := List.forall_mem_cons.mp absent
    rw [pruneOptions, Entries.pop?_of_get?_none here]
    exact ih later

theorem Arrangement.get?_obsolete (arranged : Arrangement options canonical further) {key : String}
    (obsolete : key ∈ obsoleteOptions) : options.get? key = none := by
  rw [Entries.get?_eq_none_iff, arranged.split, Entries.keys_append, List.mem_append, not_or,
    arranged.inFront]
  exact ⟨obsolete_not_canonical key obsolete, arranged.noObsolete key obsolete⟩

/-- A pass over arranged options turns those beyond the canonical ones and changes nothing else. -/
theorem completeOptions_of_arranged (arranged : Arrangement options canonical further) :
    (completeOptions options).value = turnedOptions options := by
  have keyed := arranged.keyed
  have left : (takeOptions optionTable options).value.2 = further.turned optionTable.length := by
    have all := left_of_canonical_first [] further optionKeys_nodup arranged.inFront
      (fun _ _ => List.not_mem_nil)
      fun row member => arranged.noCanonical row.key (List.mem_map_of_mem member)
    rwa [List.nil_append, ← arranged.split, List.nil_append] at all
  have taken : takenOptions optionTable options = canonical := by
    refine takenOptions_of_found arranged.inFront fun entry member => ?_
    exact Entries.get?_of_mem keyed.distinct (arranged.split ▸ List.mem_append_left further member)
  have absent : ∀ key ∈ obsoleteOptions, ((takenOptions optionTable options).insertAll
      (takeOptions optionTable options).value.2).get? key = none := by
    intro key obsolete
    rw [get?_collected keyed, arranged.get?_obsolete obsolete, Option.none_or]
    exact get?_defaultOptions_of_not_mem (obsolete_not_canonical key obsolete)
  rw [value_completeOptions keyed, pruneOptions_of_absent absent, collected_eq keyed, taken, left,
    turnedOptions, arranged.take, arranged.drop]

end Arranged

section Settled

/-- A value with the options in it turned, if it is a record of them. -/
def turnedValue : Json → Json
  | .object options => .object (turnedOptions options)
  | other => other

variable {root : Record}

/-- What stands under the options of a document that has passed. -/
theorem mergedOptions_cases {options : Option Json} (keyed : KeyedValue options) :
    (∃ given canonical further, mergedOptions options = .object given ∧
        Arrangement given canonical further) ∨
      ∀ given, mergedOptions options ≠ .object given ∧ mergedOptions options ≠ .null := by
  rcases options with _ | value
  · obtain ⟨canonical, further, arranged⟩ := arrangement_completeOptions .nil
    exact .inl ⟨_, canonical, further, rfl, arranged⟩
  · cases value with
    | null =>
      obtain ⟨canonical, further, arranged⟩ := arrangement_completeOptions .nil
      exact .inl ⟨_, canonical, further, rfl, arranged⟩
    | object record =>
      obtain ⟨canonical, further, arranged⟩ :=
        arrangement_completeOptions (Json.wellKeyed_object.mp (keyed _ rfl))
      exact .inl ⟨_, canonical, further, rfl, arranged⟩
    | _ => exact .inr fun given => ⟨by simp [mergedOptions], by simp [mergedOptions]⟩

theorem mergedOptions_turned {options : Option Json} (keyed : KeyedValue options) :
    mergedOptions (some (mergedOptions options)) = turnedValue (mergedOptions options) := by
  rcases mergedOptions_cases keyed with ⟨given, canonical, further, same, arranged⟩ | none
  · rw [same, turnedValue, mergedOptions, completeOptions_of_arranged arranged]
  · cases merged : mergedOptions options with
    | object given => exact absurd merged (none given).1
    | null => exact absurd merged (none []).2
    | _ => rfl

/-- The root after a pass: the options stand last. -/
theorem options_last (keyed : root.WellKeyed) :
    ∃ others : Record, optionsKey ∉ others.keys ∧
      (normalizeRoot root).value = others ++ [(optionsKey, mergedOptions (root.get? optionsKey))] := by
  have revised := wellKeyed_sortCollections (keepsKeyed_reviseRecords root keyed)
  have options := normalizeRoot_options keyed
  rw [normalizeRoot_eq, value_bind, value_mergeOptions] at options ⊢
  set sorted := sortCollections (reviseRecords root).value with sortedRoot
  have absent : Entries.get? (sorted.erase optionsKey) optionsKey = none := by
    rw [Entries.get?_erase revised.distinct, if_pos rfl]
  rw [Entries.get?_insert, if_pos rfl, Option.some.injEq] at options
  refine ⟨sorted.erase optionsKey, Entries.get?_eq_none_iff.mp absent, ?_⟩
  rw [options, Entries.insert_of_not_has (Entries.has_eq_false_iff.mpr absent)]

/-- Collections that have been sorted stay as they are. -/
theorem sortCollections_normalizeRoot (keyed : root.WellKeyed) :
    sortCollections (normalizeRoot root).value = (normalizeRoot root).value := by
  have fixed : ∀ collection : Collection, collection.isLabelSorted = true → ∀ value,
      (normalizeRoot root).value.get? collection.key = some value → sortedItems value = value := by
    intro collection labelled value found
    rw [normalizeRoot_collection keyed] at found
    obtain ⟨before, _, rfl⟩ := Option.map_eq_some_iff.mp found
    rw [collectionAfter, if_pos labelled, sortedItems_again]
  rw [sortCollections_eq, Entries.modify_of_fixed (fixed .groups rfl),
    Entries.modify_of_fixed (fixed .tags rfl)]

/-- A pass without a change leaves a root that has passed before as it is, but for the order of
its further options. -/
theorem normalizeRoot_of_silent (keyed : root.WellKeyed)
    (silent : (normalizeRoot (normalizeRoot root).value).changes = []) :
    (normalizeRoot (normalizeRoot root).value).value =
      (normalizeRoot root).value.modify optionsKey turnedValue := by
  obtain ⟨others, absent, last⟩ := options_last keyed
  have sorted := sortCollections_normalizeRoot keyed
  have options := normalizeRoot_options keyed
  rw [normalizeRoot_eq, changes_bind, List.append_eq_nil_iff] at silent
  have unchanged := accounted_reviseRecords _ silent.1
  rw [normalizeRoot_eq, value_bind, unchanged, sorted, value_mergeOptions, options,
    mergedOptions_turned (keyed.keyedValue _), last, Entries.erase_append absent]
  have emptied : Entries.erase [(optionsKey, mergedOptions (root.get? optionsKey))] optionsKey = [] :=
    if_pos rfl
  rw [emptied, Entries.insert_append absent, Entries.modify_append absent]
  rfl

end Settled

end Normalization

end ScannerConfig
