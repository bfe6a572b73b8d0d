import Mathlib.Data.List.Nodup
import Mathlib.Data.List.Perm.Basic
import ScannerConfig.Entries

namespace ScannerConfig.Entries

variable {α : Type} {entries : Entries α} {key other : String} {value : α}

/-- No key stands twice. -/
def Distinct (entries : Entries α) : Prop :=
  entries.keys.Nodup

instance (entries : Entries α) : Decidable entries.Distinct :=
  inferInstanceAs (Decidable entries.keys.Nodup)

theorem distinct_cons {entry : String × α} {rest : Entries α} :
    Distinct (entry :: rest) ↔ entry.1 ∉ rest.keys ∧ rest.Distinct :=
  List.nodup_cons

theorem get?_eq_none_iff : entries.get? key = none ↔ key ∉ entries.keys := by
  induction entries with
  | nil => simp [get?, keys]
  | cons entry rest ih =>
    obtain ⟨k, v⟩ := entry
    by_cases same : k = key
    · simp [get?, keys, same]
    · simpa [get?, keys, same, Ne.symm same] using ih

theorem mem_of_get? (found : entries.get? key = some value) : (key, value) ∈ entries := by
  induction entries with
  | nil => simp [get?] at found
  | cons entry rest ih =>
    obtain ⟨k, v⟩ := entry
    by_cases same : k = key
    · simp only [get?, same, if_true, Option.some.injEq] at found
      simp [same, found]
    · simp only [get?, same, if_false] at found
      exact List.mem_cons_of_mem _ (ih found)

theorem get?_of_mem (distinct : entries.Distinct) (member : (key, value) ∈ entries) :
    entries.get? key = some value := by
  induction entries with
  | nil => simp at member
  | cons entry rest ih =>
    obtain ⟨k, v⟩ := entry
    obtain ⟨fresh, distinctRest⟩ := distinct_cons.mp distinct
    rcases List.mem_cons.mp member with equal | later
    · cases equal
      simp [get?]
    · have different : k ≠ key := by
        rintro rfl
        exact fresh (List.mem_map.mpr ⟨_, later, rfl⟩)
      simpa [get?, different] using ih distinctRest later

theorem get?_perm {permuted : Entries α} (perm : entries.Perm permuted)
    (distinct : entries.Distinct) (key : String) : entries.get? key = permuted.get? key := by
  have distinctPermuted : permuted.Distinct := (perm.map Prod.fst).nodup_iff.mp distinct
  cases found : permuted.get? key with
  | none =>
    rw [get?_eq_none_iff] at found ⊢
    exact fun member => found ((perm.map Prod.fst).mem_iff.mp member)
  | some value => exact get?_of_mem distinct (perm.mem_iff.mpr (mem_of_get? found))

theorem has_eq_true_iff : entries.has key = true ↔ ∃ value, entries.get? key = some value := by
  simp [has, Option.isSome_iff_exists]

theorem has_eq_false_iff : entries.has key = false ↔ entries.get? key = none := by
  simp [has]

theorem has_iff_mem_keys : entries.has key = true ↔ key ∈ entries.keys := by
  rw [← Bool.not_eq_false, has_eq_false_iff, get?_eq_none_iff, not_not]

/-- Entries with the same look-ups have the same keys. -/
theorem keys_perm_of_get? {others : Entries α} (distinct : entries.Distinct)
    (distinctOthers : others.Distinct)
    (same : ∀ key, (entries.get? key).isSome = (others.get? key).isSome) :
    entries.keys.Perm others.keys := by
  refine (List.perm_ext_iff_of_nodup distinct distinctOthers).mpr fun key => ?_
  rw [← has_iff_mem_keys, ← has_iff_mem_keys, has, has, same key]

theorem lastFirst_perm (entries : Entries α) : entries.lastFirst.Perm entries := by
  cases ended : entries.getLast? with
  | none => simp [lastFirst, List.getLast?_eq_none_iff.mp ended]
  | some last =>
    have split := List.dropLast_append_getLast? last ended
    rw [lastFirst, ended]
    refine (List.perm_append_singleton last entries.dropLast).symm.trans ?_
    rw [split]

/-- A key taken out and put in front again gives the same entries in some order. -/
theorem erase_perm (found : entries.get? key = some value) :
    ((key, value) :: entries.erase key).Perm entries := by
  induction entries with
  | nil => simp [get?] at found
  | cons entry rest ih =>
    obtain ⟨k, v⟩ := entry
    by_cases same : k = key
    · simp only [get?, same, if_true, Option.some.injEq] at found
      simpa [erase, same, found] using lastFirst_perm rest
    · simp only [get?, same, if_false] at found
      simp only [erase, same, if_false]
      exact (List.Perm.swap _ _ _).trans ((ih found).cons _)

theorem erase_of_get?_none (absent : entries.get? key = none) : entries.erase key = entries := by
  induction entries with
  | nil => rfl
  | cons entry rest ih =>
    obtain ⟨k, v⟩ := entry
    by_cases same : k = key
    · simp [get?, same] at absent
    · simp only [get?, same, if_false] at absent
      simp [erase, same, ih absent]

theorem Distinct.erase (distinct : entries.Distinct) (key : String) :
    (entries.erase key).Distinct := by
  cases found : entries.get? key with
  | none => rwa [erase_of_get?_none found]
  | some value =>
    have whole : Distinct ((key, value) :: entries.erase key) :=
      ((erase_perm found).map Prod.fst).nodup_iff.mpr distinct
    exact (distinct_cons.mp whole).2

theorem get?_erase (distinct : entries.Distinct) (key other : String) :
    (entries.erase key).get? other = if key = other then none else entries.get? other := by
  cases found : entries.get? key with
  | none =>
    rw [erase_of_get?_none found]
    split
    · rename_i same
      rw [← same, found]
    · rfl
  | some value =>
    have perm := erase_perm found
    have whole : Distinct ((key, value) :: entries.erase key) :=
      (perm.map Prod.fst).nodup_iff.mpr distinct
    rw [← get?_perm perm whole other]
    by_cases same : key = other
    · subst same
      simpa [get?] using get?_eq_none_iff.mpr (distinct_cons.mp whole).1
    · simp [get?, same]

theorem Distinct.insert (distinct : entries.Distinct) (key : String) (value : α) :
    (entries.insert key value).Distinct := by
  rw [Distinct, keys_insert]
  split
  · exact distinct
  · rename_i absent
    have fresh : key ∉ entries.keys := fun member => absent (has_iff_mem_keys.mpr member)
    exact (List.nodup_append_comm).mp (List.nodup_cons.mpr ⟨fresh, distinct⟩)

/-- A value put where it already stands changes nothing. -/
theorem insert_of_get? (found : entries.get? key = some value) :
    entries.insert key value = entries := by
  induction entries with
  | nil => simp [get?] at found
  | cons entry rest ih =>
    obtain ⟨k, v⟩ := entry
    by_cases same : k = key
    · simp only [get?, same, if_true, Option.some.injEq] at found
      simp [insert, same, found]
    · simp only [get?, same, if_false] at found
      simp [insert, same, ih found]

theorem pop?_of_get?_none (absent : entries.get? key = none) : entries.pop? key = none := by
  simp [pop?, absent]

theorem pop?_of_get?_some (found : entries.get? key = some value) :
    entries.pop? key = some (value, entries.erase key) := by
  simp [pop?, found]

theorem keys_modify (entries : Entries α) (key : String) (f : α → α) :
    (entries.modify key f).keys = entries.keys := by
  induction entries with
  | nil => rfl
  | cons entry rest ih =>
    obtain ⟨k, v⟩ := entry
    by_cases same : k = key
    · simp [modify, keys, same]
    · simpa [modify, keys, same] using ih

theorem Distinct.modify (distinct : entries.Distinct) (key : String) (f : α → α) :
    (entries.modify key f).Distinct := by
  rwa [Distinct, keys_modify]

theorem get?_modify (entries : Entries α) (key other : String) (f : α → α) :
    (entries.modify key f).get? other =
      if key = other then (entries.get? key).map f else entries.get? other := by
  induction entries with
  | nil => simp [Entries.modify, get?]
  | cons entry rest ih =>
    obtain ⟨k, v⟩ := entry
    by_cases same : k = key
    · subst same
      by_cases asked : k = other <;> simp [Entries.modify, get?, asked]
    · by_cases asked : k = other
      · subst asked
        simp [Entries.modify, get?, same, Ne.symm same]
      · simp [Entries.modify, get?, same, asked, ih]

theorem insertAll_cons (entries rest : Entries α) (entry : String × α) :
    entries.insertAll (entry :: rest) = (entries.insert entry.1 entry.2).insertAll rest :=
  rfl

theorem Distinct.insertAll (distinct : entries.Distinct) (new : Entries α) :
    (entries.insertAll new).Distinct := by
  induction new generalizing entries with
  | nil => exact distinct
  | cons entry rest ih => exact ih (distinct.insert _ _)

/-- New entries win over the ones that are there. -/
theorem get?_insertAll {new : Entries α} (distinctNew : new.Distinct) (entries : Entries α)
    (key : String) :
    (entries.insertAll new).get? key = (new.get? key).or (entries.get? key) := by
  induction new generalizing entries with
  | nil => rfl
  | cons entry rest ih =>
    obtain ⟨k, v⟩ := entry
    obtain ⟨fresh, distinctRest⟩ := distinct_cons.mp distinctNew
    rw [insertAll_cons, ih distinctRest, get?_insert]
    by_cases same : k = key
    · subst same
      simp [get?, get?_eq_none_iff.mpr fresh]
    · simp [get?, same]

/-- All look-ups outside some keys are the same. -/
def SameOutside (touched : List String) (before after : Entries α) : Prop :=
  ∀ key, key ∉ touched → after.get? key = before.get? key

theorem SameOutside.refl (touched : List String) (entries : Entries α) :
    SameOutside touched entries entries :=
  fun _ _ => rfl

theorem SameOutside.trans {touched more : List String} {before middle after : Entries α}
    (first : SameOutside touched before middle) (second : SameOutside more middle after) :
    SameOutside (touched ++ more) before after := by
  intro key outside
  rw [List.mem_append, not_or] at outside
  rw [second key outside.2, first key outside.1]

theorem SameOutside.mono {touched more : List String} {before after : Entries α}
    (same : SameOutside touched before after) (inside : touched ⊆ more) :
    SameOutside more before after :=
  fun key outside => same key fun member => outside (inside member)

theorem sameOutside_erase (distinct : entries.Distinct) (key : String) :
    SameOutside [key] entries (entries.erase key) := by
  intro other outside
  rw [get?_erase distinct, if_neg (by simpa [eq_comm] using outside)]

theorem sameOutside_insert (entries : Entries α) (key : String) (value : α) :
    SameOutside [key] entries (entries.insert key value) := by
  intro other outside
  rw [get?_insert, if_neg (by simpa [eq_comm] using outside)]

theorem get?_filter (entries : Entries α) (p : String × α → Bool)
    (passes : ∀ value, p (key, value) = true) :
    Entries.get? (entries.filter p) key = entries.get? key := by
  induction entries with
  | nil => rfl
  | cons entry rest ih =>
    obtain ⟨k, v⟩ := entry
    by_cases same : k = key
    · subst same
      simp [passes v, get?]
    · by_cases kept : p (k, v) = true
      · simp [kept, get?, same, ih]
      · simp [kept, get?, same, ih]

/-- It is enough to compare what is left without the entries that may be touched. -/
theorem sameOutside_of_filter {touched : List String} {before after : Entries α}
    (same : before.filter (fun entry => entry.1 ∉ touched) =
      after.filter fun entry => entry.1 ∉ touched) : SameOutside touched before after := by
  intro key outside
  have kept := fun entries : Entries α =>
    get?_filter entries (fun entry => entry.1 ∉ touched) fun _ => decide_eq_true outside
  rw [← kept after, ← same, kept before]

end ScannerConfig.Entries
