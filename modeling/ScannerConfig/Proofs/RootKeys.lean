import Mathlib.Logic.Basic
import ScannerConfig.Normalization.Document
import ScannerConfig.Proofs.Revising

namespace ScannerConfig

/-- What a document holds of a collection. The canonical key wins over the older spelling. -/
def Collection.value? (collection : Collection) (root : Record) : Option Json :=
  (root.get? collection.key).or (collection.alias?.bind root.get?)

namespace Normalization

open Revision

variable {root : Record} {spelling key : String}

theorem get?_renameKey (keyed : root.WellKeyed) (apart : spelling ≠ key) (other : String) :
    (renameKey spelling key root).value.get? other =
      if other = spelling then none
      else if other = key then (root.get? key).or (root.get? spelling) else root.get? other := by
  have erased := Entries.get?_erase keyed.distinct spelling
  cases found : root.get? spelling with
  | none =>
    rw [renameKey, Entries.pop?_of_get?_none found]
    by_cases old : other = spelling
    · simp [old, found]
    · by_cases new : other = key <;> simp [old, new, Ne.symm apart]
  | some value =>
    rw [renameKey, Entries.pop?_of_get?_some found]
    simp only [value_changed, Entries.has, erased, if_neg apart]
    cases there : root.get? key with
    | none =>
      simp only [Option.isSome_none, Bool.false_eq_true, if_false, Entries.get?_insert, erased]
      by_cases old : other = spelling
      · simp [old, Ne.symm apart]
      · by_cases new : other = key
        · simp [new, Ne.symm apart]
        · simp [old, new, Ne.symm old, Ne.symm new]
    | some canonical =>
      simp only [Option.isSome_some, if_true, erased]
      by_cases old : other = spelling
      · simp [old]
      · by_cases new : other = key
        · simp [new, apart, Ne.symm apart, there]
        · simp [old, new, Ne.symm old]

theorem changes_renameKey (spelling key : String) (root : Record) :
    (renameKey spelling key root).changes = if root.has spelling then [.keyRenamed] else [] := by
  cases found : root.get? spelling with
  | none =>
    rw [renameKey, Entries.pop?_of_get?_none found, Entries.has_eq_false_iff.mpr found]
    rfl
  | some value =>
    rw [renameKey, Entries.pop?_of_get?_some found, Entries.has_eq_true_iff.mpr ⟨value, found⟩]
    rfl

theorem keepsKeyed_renameKey (spelling key : String) : KeepsKeyed (renameKey spelling key) := by
  intro root keyed
  cases found : root.get? spelling with
  | none => rwa [renameKey, Entries.pop?_of_get?_none found]
  | some value =>
    rw [renameKey, Entries.pop?_of_get?_some found]
    dsimp only [value_changed]
    split
    · exact keyed.erase spelling
    · exact (keyed.erase spelling).insert key (keyed.value found)

theorem accounted_renameKey (spelling key : String) : Accounted (renameKey spelling key) := by
  intro root silent
  rw [changes_renameKey] at silent
  have absent : root.has spelling = false := by
    cases there : root.has spelling <;> simp [there] at silent ⊢
  rw [renameKey, Entries.pop?_of_get?_none (Entries.has_eq_false_iff.mp absent)]
  rfl

/-- No spelling and no key of the list stands in it twice, or on both sides. -/
def Separate (pairs : List (String × String)) : Prop :=
  (pairs.map Prod.fst ++ pairs.map Prod.snd).Nodup

instance (pairs : List (String × String)) : Decidable (Separate pairs) :=
  inferInstanceAs (Decidable (List.Nodup _))

variable {pairs : List (String × String)}

theorem separate_cons (separate : Separate ((spelling, key) :: pairs)) :
    spelling ≠ key ∧ spelling ∉ pairs.map Prod.fst ∧ spelling ∉ pairs.map Prod.snd ∧
      key ∉ pairs.map Prod.fst ∧ key ∉ pairs.map Prod.snd ∧ Separate pairs := by
  simp only [Separate, List.map_cons, List.cons_append, List.nodup_cons, List.mem_append,
    List.mem_cons, List.nodup_append, not_or] at separate ⊢
  obtain ⟨⟨spellingFst, apart, spellingSnd⟩, fst, ⟨keySnd, snd⟩, disjoint⟩ := separate
  exact ⟨apart, spellingFst, spellingSnd, fun member => disjoint key member key (.inl rfl) rfl,
    keySnd, fst, snd, fun a memberA b memberB => disjoint a memberA b (.inr memberB)⟩

theorem keepsKeyed_renameEach : KeepsKeyed (renameEach pairs) := by
  induction pairs with
  | nil => exact fun _ keyed => keyed
  | cons pair pairs ih => exact (keepsKeyed_renameKey pair.1 pair.2).bind ih

theorem accounted_renameEach : Accounted (renameEach pairs) := by
  induction pairs with
  | nil => exact fun _ _ => rfl
  | cons pair pairs ih => exact (accounted_renameKey pair.1 pair.2).bind ih

theorem get?_renameEach_outside (keyed : root.WellKeyed) (separate : Separate pairs)
    {other : String} (noSpelling : other ∉ pairs.map Prod.fst) (noKey : other ∉ pairs.map Prod.snd) :
    (renameEach pairs root).value.get? other = root.get? other := by
  induction pairs generalizing root with
  | nil => rfl
  | cons pair pairs ih =>
    obtain ⟨spelling, key⟩ := pair
    obtain ⟨apart, _, _, _, _, rest⟩ := separate_cons separate
    simp only [List.map_cons, List.mem_cons, not_or] at noSpelling noKey
    have first := get?_renameKey keyed apart other
    rw [if_neg noSpelling.1, if_neg noKey.1] at first
    exact (ih (keepsKeyed_renameKey spelling key root keyed) rest noSpelling.2 noKey.2).trans first

theorem get?_renameEach_spelling (keyed : root.WellKeyed) (separate : Separate pairs)
    {other : String} (member : other ∈ pairs.map Prod.fst) :
    (renameEach pairs root).value.get? other = none := by
  induction pairs generalizing root with
  | nil => simp at member
  | cons pair pairs ih =>
    obtain ⟨spelling, key⟩ := pair
    obtain ⟨apart, noSpelling, noKey, _, _, rest⟩ := separate_cons separate
    have renamed := keepsKeyed_renameKey spelling key root keyed
    rcases List.mem_cons.mp member with rfl | later
    · refine (get?_renameEach_outside renamed rest noSpelling noKey).trans ?_
      rw [get?_renameKey keyed apart, if_pos rfl]
    · exact ih renamed rest later

theorem get?_renameEach_key (keyed : root.WellKeyed) (separate : Separate pairs)
    {old new : String} (member : (old, new) ∈ pairs) :
    (renameEach pairs root).value.get? new = (root.get? new).or (root.get? old) := by
  induction pairs generalizing root with
  | nil => simp at member
  | cons pair pairs ih =>
    obtain ⟨spelling, key⟩ := pair
    obtain ⟨apart, noSpelling, noSpellingKey, noKeySpelling, noKey, rest⟩ := separate_cons separate
    have renamed := keepsKeyed_renameKey spelling key root keyed
    rcases List.mem_cons.mp member with here | later
    · obtain ⟨rfl, rfl⟩ := Prod.mk.inj here
      refine (get?_renameEach_outside renamed rest noKeySpelling noKey).trans ?_
      rw [get?_renameKey keyed apart, if_neg (Ne.symm apart), if_pos rfl]
    · refine (ih renamed rest later).trans ?_
      have oldMember := List.mem_map_of_mem (f := Prod.fst) later
      have newMember := List.mem_map_of_mem (f := Prod.snd) later
      rw [get?_renameKey keyed apart, get?_renameKey keyed apart,
        if_neg (ne_of_mem_of_not_mem newMember noSpellingKey),
        if_neg (ne_of_mem_of_not_mem newMember noKey),
        if_neg (ne_of_mem_of_not_mem oldMember noSpelling),
        if_neg (ne_of_mem_of_not_mem oldMember noKeySpelling)]

theorem changes_renameEach (keyed : root.WellKeyed) (separate : Separate pairs) :
    (renameEach pairs root).changes =
      (pairs.filter fun pair => root.has pair.1).map fun _ => .keyRenamed := by
  induction pairs generalizing root with
  | nil => rfl
  | cons pair pairs ih =>
    obtain ⟨spelling, key⟩ := pair
    obtain ⟨apart, noSpelling, _, noKeySpelling, _, rest⟩ := separate_cons separate
    have others : ∀ other ∈ pairs,
        (renameKey spelling key root).value.has other.1 = root.has other.1 := by
      intro other member
      have inside := List.mem_map_of_mem (f := Prod.fst) member
      rw [Entries.has, get?_renameKey keyed apart, if_neg (ne_of_mem_of_not_mem inside noSpelling),
        if_neg (ne_of_mem_of_not_mem inside noKeySpelling), Entries.has]
    simp only [renameEach, changes_bind, changes_renameKey,
      ih (keepsKeyed_renameKey spelling key root keyed) rest, List.filter_congr others]
    by_cases present : root.has spelling <;> simp [present]

theorem separate_aliases : Separate aliases := by decide

theorem collection_of_alias {collection : Collection} (found : collection.alias? = some spelling) :
    (spelling, collection.key) ∈ aliases := by
  cases collection <;> simp [Collection.alias?] at found <;> subst found <;> decide

/-- Without older spellings a collection stands under its own key only. -/
theorem value?_of_no_spelling (absent : ∀ spelling ∈ aliases.map Prod.fst, root.get? spelling = none)
    (collection : Collection) : collection.value? root = root.get? collection.key := by
  rw [Collection.value?]
  cases found : collection.alias? with
  | none => rw [Option.bind_none, Option.or_none]
  | some spelling =>
    have member := List.mem_map_of_mem (f := Prod.fst) (collection_of_alias found)
    rw [Option.bind_some, absent spelling member, Option.or_none]

theorem get?_renameKeys_collection (keyed : root.WellKeyed) (collection : Collection) :
    (renameKeys root).value.get? collection.key = collection.value? root := by
  rw [Collection.value?]
  cases found : collection.alias? with
  | some spelling =>
    exact get?_renameEach_key keyed separate_aliases (collection_of_alias found)
  | none =>
    have noSpelling : collection.key ∉ aliases.map Prod.fst := by cases collection <;> decide
    have noKey : collection.key ∉ aliases.map Prod.snd := by
      cases collection with
      | apiKeys | dirWatch | downstreams => cases found
      | _ => decide
    rw [Option.bind_none, Option.or_none]
    exact get?_renameEach_outside keyed separate_aliases noSpelling noKey

theorem keyedValue_collection (keyed : root.WellKeyed) (collection : Collection) :
    KeyedValue (collection.value? root) := by
  rw [← get?_renameKeys_collection keyed]
  exact (keepsKeyed_renameEach root keyed).keyedValue _

end Normalization

end ScannerConfig
