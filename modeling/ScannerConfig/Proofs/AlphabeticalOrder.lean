import Mathlib
import ScannerConfig.Proofs.LabelComparison

namespace ScannerConfig

namespace Alphabetical

def IsPrintable (c : Char) : Prop :=
  0x20 ≤ c.toNat ∧ c.toNat ≤ 0x7E

instance (c : Char) : Decidable (IsPrintable c) :=
  inferInstanceAs (Decidable (_ ∧ _))

/-- The printable ASCII characters in their order, small letters standing for capitals too. -/
def alphabet : List Char :=
  " _-,;:!?.'\"()[]\x7b\x7d@*/\\&#%`^+<=>|~$0123456789abcdefghijklmnopqrstuvwxyz".toList

def place (c : Char) : Nat :=
  alphabet.idxOf c.toLower

/-- Character by character, whatever the case; a proper prefix comes first. -/
def compareLetters : List Char → List Char → Ordering
  | [], [] => .eq
  | [], _ :: _ => .lt
  | _ :: _, [] => .gt
  | a :: as, b :: bs => (compare (place a) (place b)).then (compareLetters as bs)

/-- The first place with a small letter on one side and a capital on the other decides. -/
def compareCase : List Char → List Char → Ordering
  | a :: as, b :: bs =>
    match a.isUpper, b.isUpper with
    | false, true => .lt
    | true, false => .gt
    | _, _ => compareCase as bs
  | _, _ => .eq

/-- Characters that differ in their case at most. -/
def SameLetter (a b : Char) : Prop :=
  a.toLower = b.toLower

end Alphabetical

namespace Collation

open Alphabetical

variable {n : Nat} {points : List Nat}

/-- Below the composed characters a text is canonical as it stands. -/
theorem canonical_of_lt (plain : ∀ n ∈ points, n < 0xC0) : canonical points = points := by
  have single : ∀ n ∈ points, decomposePoint n = [n] := fun n member =>
    if_pos (plain n member)
  have whole : points.flatMap decomposePoint = points := by
    rw [List.flatMap_congr single, List.flatMap_singleton']
  rw [canonical, whole]
  clear single whole
  induction points with
  | nil => rfl
  | cons n points ih =>
    obtain ⟨here, later⟩ := List.forall_mem_cons.mp plain
    have noMark : combiningClass n = 0 := if_pos (by omega)
    rw [List.foldr_cons, ih later]
    cases points <;> simp [insertMark, noMark]

/-- No sequence of printable ASCII characters weighs as a whole. -/
theorem elementsFrom_printable {size previous : Nat} (fits : points.length ≤ size)
    (printable : ∀ n ∈ points, 0x20 ≤ n ∧ n ≤ 0x7E) :
    elementsFrom size previous points = points.map asciiWeight := by
  induction points generalizing size previous with
  | nil => cases size <;> rfl
  | cons n points ih =>
    obtain ⟨here, later⟩ := List.forall_mem_cons.mp printable
    obtain ⟨size, rfl⟩ : ∃ more, size = more + 1 := ⟨size - 1, by grind⟩
    have noContraction : startsContraction n = false := by
      simp [startsContraction, show ¬1024 ≤ n by omega]
    have noDot : ¬(n = 0xB7 ∧ (previous = 0x6C ∨ previous = 0x4C)) := by omega
    have alone : weights n = [asciiWeight n] := if_pos here
    have rest : elementsFrom size n points = points.map asciiWeight :=
      ih (Nat.le_of_succ_le_succ fits) later
    cases points with
    | nil => simp [elementsFrom, noContraction, noDot, alone]
    | cons next others =>
      have noVowel : precedes n next = false := by
        simp [precedes]
        omega
      simp [elementsFrom, noContraction, noDot, noVowel, alone, rest]

end Collation

namespace Alphabetical

open Collation (asciiWeight)

variable {a b c : Char} {as bs : List Char}

/-- A statement about printable characters is one about their codes. -/
theorem forall_printable {p : Char → Prop} (each : ∀ n < 0x7F, 0x20 ≤ n → p (Char.ofNat n))
    (printable : IsPrintable c) : p c := by
  have here := each c.toNat (Nat.lt_succ_of_le printable.2) printable.1
  rwa [Char.ofNat_toNat] at here

def primary (c : Char) : Nat :=
  (asciiWeight c.toNat).primary

def tertiary (c : Char) : Nat :=
  (asciiWeight c.toNat).tertiary

/-- What a printable text is compared by: no character weighs nothing, and there are no accents. -/
theorem ofLabel_printable {label : String} (printable : ∀ c ∈ label.toList, IsPrintable c) :
    LabelKey.ofLabel label =
      ⟨label.toList.map primary, label.toList.map fun _ => 1, label.toList.map tertiary,
        label.toList.map Char.toNat⟩ := by
  have codes : ∀ n ∈ label.toList.map Char.toNat, 0x20 ≤ n ∧ n ≤ 0x7E := by
    rw [List.forall_mem_map]
    exact printable
  have canonical : Collation.canonical (label.toList.map Char.toNat) = label.toList.map Char.toNat :=
    Collation.canonical_of_lt fun n member => by
      have bounds := codes n member
      omega
  have weights : Collation.elements (label.toList.map Char.toNat) =
      (label.toList.map Char.toNat).map asciiWeight :=
    Collation.elementsFrom_printable (Nat.le_refl _) codes
  have heavy : ∀ c ∈ label.toList, primary c ≠ 0 ∧ tertiary c ≠ 0 := fun c member =>
    forall_printable (p := fun c => primary c ≠ 0 ∧ tertiary c ≠ 0) (by decide) (printable c member)
  have filtered : ∀ {f : Char → Nat}, (∀ c ∈ label.toList, f c ≠ 0) →
      (label.toList.map f).filter (· ≠ 0) = label.toList.map f := by
    intro f full
    rw [List.filter_eq_self]
    simpa using full
  have primaries := filtered fun c member => (heavy c member).1
  have tertiaries := filtered fun c member => (heavy c member).2
  have secondaries := filtered (f := fun _ => 1) fun _ _ => Nat.one_ne_zero
  simp only [LabelKey.ofLabel, canonical, weights, List.map_map]
  exact LabelKey.mk.injEq .. ▸ ⟨primaries, secondaries, tertiaries, rfl⟩

/-- In an increasing list places and values compare alike. -/
theorem compare_idxOf {items : List Char} {f : Char → Nat}
    (increasing : items.Pairwise fun a b => f a < f b) (memberA : a ∈ items) (memberB : b ∈ items) :
    compare (items.idxOf a) (items.idxOf b) = compare (f a) (f b) := by
  have below : ∀ {a b : Char}, a ∈ items → b ∈ items → items.idxOf a < items.idxOf b → f a < f b := by
    intro a b memberA memberB less
    have apart := List.pairwise_iff_getElem.mp increasing _ _
      (List.idxOf_lt_length_iff.mpr memberA) (List.idxOf_lt_length_iff.mpr memberB) less
    rwa [List.getElem_idxOf, List.getElem_idxOf] at apart
  rcases Nat.lt_trichotomy (items.idxOf a) (items.idxOf b) with less | same | more
  · rw [Nat.compare_eq_lt.mpr less, Nat.compare_eq_lt.mpr (below memberA memberB less)]
  · rw [(List.idxOf_inj memberA).mp same]
    simp
  · rw [Nat.compare_eq_gt.mpr more, Nat.compare_eq_gt.mpr (below memberB memberA more)]

theorem alphabet_increasing : alphabet.Pairwise fun a b => primary a < primary b := by
  decide +kernel

theorem toLower_mem_alphabet (printable : IsPrintable c) : c.toLower ∈ alphabet :=
  forall_printable (p := fun c => c.toLower ∈ alphabet) (by decide +kernel) printable

theorem primary_toLower (printable : IsPrintable c) : primary c.toLower = primary c :=
  forall_printable (p := fun c => primary c.toLower = primary c) (by decide) printable

theorem compare_primary (printableA : IsPrintable a) (printableB : IsPrintable b) :
    compare (primary a) (primary b) = compare (place a) (place b) := by
  rw [← primary_toLower printableA, ← primary_toLower printableB, place, place,
    compare_idxOf alphabet_increasing (toLower_mem_alphabet printableA)
      (toLower_mem_alphabet printableB)]

theorem compare_primaries (printableA : ∀ c ∈ as, IsPrintable c)
    (printableB : ∀ c ∈ bs, IsPrintable c) :
    compare (as.map primary) (bs.map primary) = compareLetters as bs := by
  induction as, bs using compareLetters.induct with
  | case1 => rfl
  | case2 | case3 => rfl
  | case4 a as b bs ih =>
    obtain ⟨hereA, laterA⟩ := List.forall_mem_cons.mp printableA
    obtain ⟨hereB, laterB⟩ := List.forall_mem_cons.mp printableB
    rw [List.map_cons, List.map_cons, List.compare_cons_cons, compare_primary hereA hereB,
      ih laterA laterB, compareLetters]

theorem compareLetters_eq_compare (as bs : List Char) :
    compareLetters as bs = compare (as.map place) (bs.map place) := by
  induction as, bs using compareLetters.induct with
  | case1 | case2 | case3 => rfl
  | case4 a as b bs ih =>
    rw [compareLetters, ih, List.map_cons, List.map_cons, List.compare_cons_cons]

theorem compareLetters_eq_iff (printableA : ∀ c ∈ as, IsPrintable c) :
    compareLetters as bs = .eq ↔ List.Forall₂ SameLetter as bs := by
  induction as, bs using compareLetters.induct with
  | case1 => simp [compareLetters]
  | case2 | case3 => simp [compareLetters]
  | case4 a as b bs ih =>
    obtain ⟨here, later⟩ := List.forall_mem_cons.mp printableA
    rw [compareLetters, Ordering.then_eq_eq, ih later, List.forall₂_cons, Nat.compare_eq_eq, place,
      place, List.idxOf_inj (toLower_mem_alphabet here), SameLetter]

theorem forall₂_sameLetter : List.Forall₂ SameLetter as bs ↔ as.map Char.toLower = bs.map Char.toLower := by
  rw [← List.forall₂_eq_eq_eq, List.forall₂_map_left_iff, List.forall₂_map_right_iff]
  rfl

theorem tertiary_eq (printable : IsPrintable c) : tertiary c = if c.isUpper then 13 else 2 :=
  forall_printable (p := fun c => tertiary c = if c.isUpper then 13 else 2) (by decide) printable

/-- A letter is known by its small form and its case. -/
theorem eq_of_sameLetter (same : SameLetter a b) (alike : a.isUpper = b.isUpper) : a = b := by
  simp only [SameLetter, Char.toLower] at same
  simp only [Char.isUpper, decide_eq_decide] at alike
  by_cases capital : a.val ≥ 'A'.val ∧ a.val ≤ 'Z'.val
  · rw [dif_pos capital, dif_pos (alike.mp capital), Char.mk.injEq, UInt32.add_left_inj] at same
    exact Char.ext same
  · rwa [dif_neg capital, dif_neg (alike.not.mp capital)] at same

/-- Among texts with the same letters the third level of weights is the order by case. -/
theorem compare_tertiaries (same : List.Forall₂ SameLetter as bs)
    (printableA : ∀ c ∈ as, IsPrintable c) (printableB : ∀ c ∈ bs, IsPrintable c) :
    compare (as.map tertiary) (bs.map tertiary) = compareCase as bs := by
  induction same with
  | nil => rfl
  | @cons a b as bs _ _ ih =>
    obtain ⟨hereA, laterA⟩ := List.forall_mem_cons.mp printableA
    obtain ⟨hereB, laterB⟩ := List.forall_mem_cons.mp printableB
    rw [List.map_cons, List.map_cons, List.compare_cons_cons, ih laterA laterB,
      tertiary_eq hereA, tertiary_eq hereB, compareCase]
    cases a.isUpper <;> cases b.isUpper <;> rfl

theorem eq_of_compareCase (same : List.Forall₂ SameLetter as bs)
    (tie : compareCase as bs = .eq) : as = bs := by
  induction same with
  | nil => rfl
  | @cons a b as bs here _ ih =>
    rw [compareCase] at tie
    split at tie
    · cases tie
    · cases tie
    · rename_i notLess notGreater
      have alike : a.isUpper = b.isUpper := by
        cases capitalA : a.isUpper <;> cases capitalB : b.isUpper <;> simp_all
      rw [eq_of_sameLetter here alike, ih tie]

/-- Only the letters count for the comparison of letters. -/
theorem compareLetters_congr {as' bs' : List Char} (sameA : as'.map Char.toLower = as.map Char.toLower)
    (sameB : bs'.map Char.toLower = bs.map Char.toLower) :
    compareLetters as' bs' = compareLetters as bs := by
  have places : ∀ text : List Char, text.map place = (text.map Char.toLower).map (alphabet.idxOf ·) := by
    intro text
    rw [List.map_map]
    rfl
  rw [compareLetters_eq_compare, compareLetters_eq_compare, places, places bs', sameA, sameB,
    ← places, ← places]

theorem isPrintable_of_sameLetter (same : SameLetter a b) (printable : IsPrintable b) :
    IsPrintable a := by
  have lower : IsPrintable a.toLower := by
    rw [show a.toLower = b.toLower from same]
    exact forall_printable (p := fun c => IsPrintable c.toLower) (by decide) printable
  by_cases capital : a.val ≥ 'A'.val ∧ a.val ≤ 'Z'.val
  · have bounds : 65 ≤ a.toNat ∧ a.toNat ≤ 90 := capital
    exact ⟨by omega, by omega⟩
  · rwa [Char.toLower, dif_neg capital] at lower

theorem printable_of_sameLetters {as' : List Char} (same : as'.map Char.toLower = as.map Char.toLower)
    (printable : ∀ c ∈ as, IsPrintable c) : ∀ c ∈ as', IsPrintable c := by
  intro c member
  have inside : c.toLower ∈ as.map Char.toLower := same ▸ List.mem_map_of_mem member
  obtain ⟨d, there, lower⟩ := List.mem_map.mp inside
  exact isPrintable_of_sameLetter lower.symm (printable d there)

end Alphabetical

open Alphabetical

/-- Printable labels go by their letters and then by their case. -/
theorem compareLabels_of_printable {a b : String} (printableA : ∀ c ∈ a.toList, IsPrintable c)
    (printableB : ∀ c ∈ b.toList, IsPrintable c) :
    compareLabels a b = (compareLetters a.toList b.toList).then (compareCase a.toList b.toList) := by
  rw [compareLabels, ofLabel_printable printableA, ofLabel_printable printableB]
  simp only [LabelKey.cmp, compare_primaries printableA printableB]
  cases letters : compareLetters a.toList b.toList with
  | lt | gt => rfl
  | eq =>
    have same := (compareLetters_eq_iff printableA).mp letters
    have noAccents : (a.toList.map fun _ => 1) = b.toList.map fun _ => 1 := by
      rw [List.map_const', List.map_const', same.length_eq]
    have refl : ∀ items : List Nat, compare items items = .eq := fun _ => Std.ReflOrd.compare_self
    rw [noAccents, refl, compare_tertiaries same printableA printableB]
    cases order : compareCase a.toList b.toList with
    | lt | gt => rfl
    | eq => rw [eq_of_compareCase same order, refl]; rfl

/-- Printable labels stand in the order of a dictionary: by their letters first and, where these
agree, small letters before capitals. Where the letters differ, no change of case anywhere
counts. -/
theorem compareLabels_alphabetical {a b : String} (printableA : ∀ c ∈ a.toList, IsPrintable c)
    (printableB : ∀ c ∈ b.toList, IsPrintable c) :
    compareLabels a b = (compareLetters a.toList b.toList).then (compareCase a.toList b.toList) ∧
      (a.toList.map Char.toLower ≠ b.toList.map Char.toLower →
        ∀ a' b' : String, a'.toList.map Char.toLower = a.toList.map Char.toLower →
          b'.toList.map Char.toLower = b.toList.map Char.toLower →
            compareLabels a' b' = compareLabels a b) := by
  have whole := compareLabels_of_printable printableA printableB
  refine ⟨whole, fun apart a' b' sameA sameB => ?_⟩
  rw [whole, compareLabels_of_printable (printable_of_sameLetters sameA printableA)
    (printable_of_sameLetters sameB printableB), compareLetters_congr sameA sameB]
  cases letters : compareLetters a.toList b.toList with
  | lt | gt => rfl
  | eq => exact absurd (forall₂_sameLetter.mp ((compareLetters_eq_iff printableA).mp letters)) apart

/-- A capital in front does not bring a label behind one that goes on with a later letter. -/
theorem compareLabels_alphabetical_fire :
    (∀ c ∈ "Fire A".toList, IsPrintable c) ∧ (∀ c ∈ "fire B".toList, IsPrintable c) ∧
      compareLabels "Fire A" "fire B" = .lt ∧
        "Fire A".toList.map Char.toLower ≠ "fire B".toList.map Char.toLower ∧
          compareLabels "FIRE a" "fire b" = .lt := by
  have printableA : ∀ c ∈ "Fire A".toList, IsPrintable c := by simp [IsPrintable]
  have printableB : ∀ c ∈ "fire B".toList, IsPrintable c := by simp [IsPrintable]
  have apart : "Fire A".toList.map Char.toLower ≠ "fire B".toList.map Char.toLower := by decide
  obtain ⟨order, otherCase⟩ := compareLabels_alphabetical printableA printableB
  have less : compareLabels "Fire A" "fire B" = .lt := order.trans (by decide)
  refine ⟨printableA, printableB, less, apart, ?_⟩
  exact (otherCase apart "FIRE a" "fire b" (by decide) (by decide)).trans less

end ScannerConfig
