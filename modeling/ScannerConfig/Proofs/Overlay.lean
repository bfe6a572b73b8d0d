import ScannerConfig.Proofs.Lookup

namespace ScannerConfig.Entries

variable {α : Type} {stored incoming : Entries α} {key : String} {value : α}

/-- The stored entries with the incoming values, and then the entries that are new. -/
def overlay (stored incoming : Entries α) : Entries α :=
  stored.map (fun entry => (entry.1, (incoming.get? entry.1).getD entry.2)) ++
    incoming.filter fun entry => !stored.has entry.1

theorem get?_append (entries others : Entries α) (key : String) :
    get? (entries ++ others) key = (entries.get? key).or (others.get? key) := by
  induction entries with
  | nil => rfl
  | cons entry rest ih =>
    obtain ⟨k, v⟩ := entry
    by_cases same : k = key <;> simp [get?, same, ih]

theorem keys_append (entries others : Entries α) :
    keys (entries ++ others) = entries.keys ++ others.keys :=
  List.map_append

theorem insert_append {entries others : Entries α} (absent : key ∉ entries.keys) (value : α) :
    insert (entries ++ others) key value = entries ++ others.insert key value := by
  induction entries with
  | nil => rfl
  | cons entry entries ih =>
    obtain ⟨different, later⟩ : key ≠ entry.1 ∧ key ∉ keys entries := by
      simpa [keys, not_or] using absent
    rw [List.cons_append, insert, if_neg (Ne.symm different), ih later, List.cons_append]

theorem insert_of_has (distinct : stored.Distinct) (present : stored.has key = true) (value : α) :
    stored.insert key value =
      stored.map fun entry => (entry.1, if entry.1 = key then value else entry.2) := by
  induction stored with
  | nil => simp [has, get?] at present
  | cons entry rest ih =>
    obtain ⟨k, v⟩ := entry
    obtain ⟨fresh, distinctRest⟩ := distinct_cons.mp distinct
    by_cases same : k = key
    · subst same
      have others : rest.map (fun entry => (entry.1, if entry.1 = k then value else entry.2)) = rest := by
        refine (List.map_congr_left fun entry member => ?_).trans (List.map_id rest)
        have different : entry.1 ≠ k := fun equal => fresh (List.mem_map.mpr ⟨entry, member, equal⟩)
        simp [different]
      simp [insert, others]
    · have later : has rest key = true := by simpa [has, get?, same] using present
      simp [insert, same, ih distinctRest later]

theorem insert_of_not_has (absent : stored.has key = false) (value : α) :
    stored.insert key value = stored ++ [(key, value)] := by
  induction stored with
  | nil => rfl
  | cons entry rest ih =>
    obtain ⟨k, v⟩ := entry
    by_cases same : k = key
    · simp [has, get?, same] at absent
    · have later : has rest key = false := by simpa [has, get?, same] using absent
      simp [insert, same, ih later]

theorem has_insert (entries : Entries α) (key other : String) (value : α) :
    (entries.insert key value).has other = (decide (key = other) || entries.has other) := by
  rw [has, has, get?_insert]
  by_cases same : key = other <;> simp [same]

/-- Inserting one entry after another lays them over what is there. -/
theorem insertAll_eq_overlay (distinct : stored.Distinct) (distinctIncoming : incoming.Distinct) :
    stored.insertAll incoming = stored.overlay incoming := by
  induction incoming generalizing stored with
  | nil => simp [insertAll, overlay, get?]
  | cons entry rest ih =>
    obtain ⟨key, value⟩ := entry
    obtain ⟨fresh, distinctRest⟩ := distinct_cons.mp distinctIncoming
    have noLater : get? rest key = none := get?_eq_none_iff.mpr fresh
    have different : ∀ entry ∈ rest, key ≠ entry.1 := fun entry member equal =>
      fresh (List.mem_map.mpr ⟨entry, member, equal.symm⟩)
    have unknown : (rest.filter fun entry => !(stored.insert key value).has entry.1) =
        rest.filter fun entry => !stored.has entry.1 := by
      refine List.filter_congr fun entry member => ?_
      rw [has_insert, decide_eq_false (different entry member), Bool.false_or]
    rw [insertAll_cons, ih (distinct.insert key value) distinctRest, overlay, unknown, overlay]
    cases present : stored.has key with
    | true =>
      have known : (stored.insert key value).map
          (fun entry => (entry.1, (get? rest entry.1).getD entry.2)) =
          stored.map fun entry => (entry.1, (get? ((key, value) :: rest) entry.1).getD entry.2) := by
        rw [insert_of_has distinct present, List.map_map]
        refine List.map_congr_left fun entry _ => ?_
        by_cases same : entry.1 = key
        · simp [same, noLater, get?]
        · simp [same, Ne.symm same, get?]
      rw [known, List.filter_cons]
      simp [present]
    | false =>
      have known : stored.map (fun entry => (entry.1, (get? rest entry.1).getD entry.2)) =
          stored.map fun entry => (entry.1, (get? ((key, value) :: rest) entry.1).getD entry.2) := by
        refine List.map_congr_left fun entry member => ?_
        have other : key ≠ entry.1 := by
          rintro rfl
          have there := has_iff_mem_keys.mpr (List.mem_map_of_mem (f := Prod.fst) member)
          rw [present] at there
          exact Bool.noConfusion there
        simp [get?, other]
      rw [insert_of_not_has present, List.map_append, known, List.filter_cons]
      simp [present, noLater]

/-- Entries with distinct keys are read as they are written. -/
theorem ofList_of_distinct {entries : Entries α} (distinct : entries.Distinct) :
    ofList entries = entries := by
  have empty : Distinct ([] : Entries α) := List.nodup_nil
  rw [ofList, insertAll_eq_overlay empty distinct]
  simp [overlay, has, get?]

end ScannerConfig.Entries
