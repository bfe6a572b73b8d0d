import Mathlib.Data.Rat.Floor
import ScannerConfig.Proofs.CalendarDates
import ScannerConfig.Proofs.NumberText
import ScannerConfig.Transfer.Export

namespace ScannerConfig

namespace Date

open Json.Parser (digitByte encode_digitChar)

variable {width n m : Nat}

theorem ofDigitChars_padded (width n : Nat) : Nat.ofDigitChars 10 (padded width n) 0 = n := by
  rw [padded, Nat.ofDigitChars_append, Nat.ofDigitChars_replicate_zero, Nat.mul_zero,
    Nat.ofDigitChars_toDigits (by decide) (by decide)]

theorem length_padded (fits : n < 10 ^ (width + 1)) :
    (padded (width + 1) n).length = width + 1 := by
  have short := (Nat.length_toDigits_le_iff (b := 10) (by decide) (Nat.succ_pos width)).mpr fits
  rw [padded, List.length_append, List.length_replicate]
  omega

theorem isDigit_of_mem_padded {c : Char} (member : c ∈ padded width n) : c.isDigit = true := by
  rcases List.mem_append.mp member with zero | digit
  · rw [List.eq_of_mem_replicate zero]
    rfl
  · exact Nat.isDigit_of_mem_toDigits (by decide) (by decide) digit

theorem padded_succ (width n : Nat) :
    padded (width + 2) n = padded (width + 1) (n / 10) ++ [Nat.digitChar (n % 10)] := by
  by_cases single : n < 10
  · rw [padded, padded, Nat.toDigits_of_lt_base single, Nat.div_eq_of_lt single,
      Nat.mod_eq_of_lt single]
    simp [List.replicate_succ']
  · rw [padded, padded, Nat.toDigits_of_base_le (by decide) (by omega)]
    simp

theorem encode_padded_one (single : n < 10) : Utf8.encode (padded 1 n) = [digitByte n] := by
  rw [padded, Nat.toDigits_of_lt_base single]
  exact encode_digitChar single

theorem encode_padded_succ (width n : Nat) :
    Utf8.encode (padded (width + 2) n) =
      Utf8.encode (padded (width + 1) (n / 10)) ++ [digitByte (n % 10)] := by
  rw [padded_succ, Utf8.encode_append, encode_digitChar (Nat.mod_lt n (by decide))]

theorem length_encode_padded (fits : n < 10 ^ (width + 1)) :
    (Utf8.encode (padded (width + 1) n)).length = width + 1 := by
  induction width generalizing n with
  | zero => rw [encode_padded_one (by simpa using fits), List.length_singleton]
  | succ width ih =>
    have front : n / 10 < 10 ^ (width + 1) := Nat.div_lt_of_lt_mul (by rwa [Nat.pow_succ'] at fits)
    rw [encode_padded_succ, List.length_append, ih front, List.length_singleton]

theorem digitByte_lt (less : n < m) (single : m < 10) : digitByte n < digitByte m := by
  have all : ∀ m < 10, ∀ n < m, digitByte n < digitByte m := by decide
  exact all m single n less

/-- Texts that differ where they are equally long are compared there. -/
theorem append_lt_append {front other : List UInt8} (length : front.length = other.length)
    (less : front < other) (rest more : List UInt8) : front ++ rest < other ++ more := by
  induction front generalizing other with
  | nil =>
    cases other with
    | nil => exact absurd less (List.lt_irrefl _)
    | cons b other => cases length
  | cons a front ih =>
    cases other with
    | nil => cases length
    | cons b other =>
      rcases List.cons_lt_cons_iff.mp less with before | ⟨rfl, later⟩
      · exact List.cons_lt_cons_iff.mpr (.inl before)
      · exact List.cons_lt_cons_iff.mpr (.inr ⟨rfl, ih (Nat.succ.inj length) later⟩)

/-- Numbers of one width are ordered as their digits are. -/
theorem encode_padded_lt (less : n < m) (fits : m < 10 ^ (width + 1)) :
    Utf8.encode (padded (width + 1) n) < Utf8.encode (padded (width + 1) m) := by
  induction width generalizing n m with
  | zero =>
    have single : m < 10 := by simpa using fits
    rw [encode_padded_one (less.trans single), encode_padded_one single]
    exact List.cons_lt_cons_iff.mpr (.inl (digitByte_lt less single))
  | succ width ih =>
    have front : m / 10 < 10 ^ (width + 1) := Nat.div_lt_of_lt_mul (by rwa [Nat.pow_succ'] at fits)
    rw [encode_padded_succ, encode_padded_succ]
    rcases Nat.lt_or_ge (n / 10) (m / 10) with before | after
    · have length := (length_encode_padded (before.trans front)).trans (length_encode_padded front).symm
      exact append_lt_append length (ih before front) _ _
    · have same : n / 10 = m / 10 := by omega
      have last : digitByte (n % 10) < digitByte (m % 10) := digitByte_lt (by omega) (by omega)
      rw [same]
      exact List.append_left_lt (List.cons_lt_cons_iff.mpr (.inl last))

theorem padded_lt (less : n < m) (fits : m < 10 ^ (width + 1)) (rest more : List UInt8) :
    Utf8.encode (padded (width + 1) n) ++ rest < Utf8.encode (padded (width + 1) m) ++ more := by
  have length := (length_encode_padded (less.trans fits)).trans (length_encode_padded fits).symm
  exact append_lt_append length (encode_padded_lt less fits) rest more

/-- The year that a text spells, with or without a sign. -/
def yearOf : List Char → Int
  | '-' :: digits => -(Nat.ofDigitChars 10 digits 0 : Int)
  | '+' :: digits => (Nat.ofDigitChars 10 digits 0 : Int)
  | digits => (Nat.ofDigitChars 10 digits 0 : Int)

theorem yearOf_padded (width n : Nat) : yearOf (padded width n) = n := by
  have digits : ∀ c ∈ padded width n, c.isDigit = true := fun c => isDigit_of_mem_padded
  have value := ofDigitChars_padded width n
  generalize padded width n = text at digits value
  unfold yearOf
  split
  · cases digits _ List.mem_cons_self
  · cases digits _ List.mem_cons_self
  · rw [value]

theorem yearOf_yearChars (year : Int) : yearOf (yearChars year) = year := by
  rw [yearChars]
  split_ifs with negative few
  · rw [yearOf, ofDigitChars_padded]
    omega
  · rw [yearOf_padded]
    omega
  · rw [yearOf, ofDigitChars_padded]
    omega

/-- Years of four digits. -/
def InFourDigits (date : Date) : Prop :=
  0 ≤ date.year ∧ date.year ≤ 9999

theorem yearChars_of_inFourDigits {date : Date} (few : date.InFourDigits) :
    yearChars date.year = padded 4 date.year.natAbs := by
  obtain ⟨positive, small⟩ := few
  rw [yearChars, if_neg (Int.not_lt.mpr positive), if_pos small]

/-- The text of an earlier date is smaller, whatever stands behind it. -/
theorem encode_chars_lt {first second : Date} (before : first.Before second)
    (few : first.InFourDigits) (many : second.InFourDigits) (valid : second.IsValid)
    (rest : List UInt8) :
    Utf8.encode first.chars ++ rest < Utf8.encode second.chars ++ rest := by
  obtain ⟨month, day⟩ := valid.short
  have parts : ∀ date : Date, date.InFourDigits → Utf8.encode date.chars ++ rest =
      Utf8.encode (padded 4 date.year.natAbs) ++ (Utf8.encode ['-'] ++
        (Utf8.encode (padded 2 date.month) ++ (Utf8.encode ['-'] ++
          (Utf8.encode (padded 2 date.day) ++ rest)))) := by
    intro date inYears
    have pieces : date.chars = yearChars date.year ++ (['-'] ++ padded 2 date.month) ++
        (['-'] ++ padded 2 date.day) := rfl
    rw [pieces, yearChars_of_inFourDigits inYears]
    simp only [Utf8.encode_append, List.append_assoc]
  rw [parts first few, parts second many]
  unfold InFourDigits at few many
  rcases before with years | ⟨sameYear, months | ⟨sameMonth, days⟩⟩
  · exact padded_lt (by omega) (by omega) _ _
  · rw [sameYear]
    exact List.append_left_lt (List.append_left_lt (padded_lt months (by omega) _ _))
  · rw [sameYear, sameMonth]
    exact List.append_left_lt (List.append_left_lt (List.append_left_lt (List.append_left_lt
      (padded_lt days (by omega) _ _))))

end Date

namespace ExportFile

open Date (yearOf yearChars padded InFourDigits)

/-- A name that spells a date between its two ends: the year in four digits, or else with a sign, the
month and the day in two. -/
def Tells (name : String) (date : Date) : Prop :=
  ∃ year month day : List Char,
    name.toList = "rdio-scanner-config-".toList ++ (year ++ '-' :: (month ++ '-' :: (day ++ ".json".toList))) ∧
      yearOf year = date.year ∧ (date.InFourDigits → year.length = 4) ∧
      Nat.ofDigitChars 10 month 0 = date.month ∧ month.length = 2 ∧
      Nat.ofDigitChars 10 day 0 = date.day ∧ day.length = 2

/-- A name tells one date. -/
theorem Tells.unique {name : String} {date other : Date} (tells : Tells name date)
    (again : Tells name other) : date = other := by
  obtain ⟨year, month, day, named, isYear, _, isMonth, twoMonth, isDay, twoDay⟩ := tells
  obtain ⟨year', month', day', named', isYear', _, isMonth', twoMonth', isDay', twoDay'⟩ := again
  have same := List.append_cancel_left (named.symm.trans named')
  have lengths : ∀ day : List Char, day.length = 2 → (day ++ ".json".toList).length = 7 := by
    intro day two
    rw [List.length_append, two]
    rfl
  obtain ⟨years, rest⟩ := List.append_inj' same (by
    simp only [List.length_cons, List.length_append, twoMonth, twoMonth', twoDay, twoDay'])
  obtain ⟨months, rest⟩ := List.append_inj (List.cons.inj rest).2 (twoMonth.trans twoMonth'.symm)
  have days := List.append_cancel_right (List.cons.inj rest).2
  subst years months days
  obtain ⟨y, m, d⟩ := date
  obtain ⟨y', m', d'⟩ := other
  rw [Date.mk.injEq]
  exact ⟨isYear.symm.trans isYear', isMonth.symm.trans isMonth', isDay.symm.trans isDay'⟩

theorem toList_between (front back : String) (cs : List Char) :
    (front ++ String.ofList cs ++ back).toList = front.toList ++ (cs ++ back.toList) := by
  rw [String.toList_append, String.toList_append, String.toList_ofList, List.append_assoc]

theorem tells_date {date : Date} (valid : date.IsValid) :
    Tells ("rdio-scanner-config-" ++ String.ofList date.chars ++ ".json") date := by
  obtain ⟨month, day⟩ := valid.short
  refine ⟨yearChars date.year, padded 2 date.month, padded 2 date.day, ?_, Date.yearOf_yearChars _,
    fun few => ?_, Date.ofDigitChars_padded _ _, Date.length_padded (by omega),
    Date.ofDigitChars_padded _ _, Date.length_padded (by omega)⟩
  · rw [toList_between, Date.chars]
    generalize ".json".toList = back
    rw [List.append_assoc, List.append_assoc]
    rfl
  · rw [Date.yearChars_of_inFourDigits few]
    unfold InFourDigits at few
    exact Date.length_padded (by omega)

theorem encode_between_lt {first second : Date} (before : first.Before second)
    (few : first.InFourDigits) (many : second.InFourDigits) (valid : second.IsValid)
    (front back : String) :
    Utf8.encode (front ++ String.ofList first.chars ++ back).toList <
      Utf8.encode (front ++ String.ofList second.chars ++ back).toList := by
  have less := Date.encode_chars_lt before few many valid (Utf8.encode back.toList)
  rw [toList_between, toList_between, Utf8.encode_append, Utf8.encode_append, Utf8.encode_append,
    Utf8.encode_append]
  exact List.append_left_lt less

/-- The day of an instant is the whole days since 1970, also before it. -/
theorem dayOf_eq_floor (seconds : Int) : Date.dayOf seconds = ⌊(seconds : ℚ) / 86400⌋ := by
  have whole := Rat.floor_intCast_div_natCast seconds 86400
  push_cast at whole
  rw [Date.dayOf, Int.fdiv_eq_ediv_of_nonneg _ (by decide), whole]

/-- Names are equal exactly for instants of one day, and those of the years 0 to 9999 are ordered as
their days. A name tells the date of its day; the first of January 1970 is the date of the day zero,
and the date of each next day is the date after it in the calendar. -/
theorem nameAt_byDay :
    (∀ first second : Int, nameAt first = nameAt second ↔
      ⌊(first : ℚ) / 86400⌋ = ⌊(second : ℚ) / 86400⌋) ∧
    (∀ first second : Int, (Date.ofDay ⌊(first : ℚ) / 86400⌋).InFourDigits →
      (Date.ofDay ⌊(second : ℚ) / 86400⌋).InFourDigits →
      ⌊(first : ℚ) / 86400⌋ < ⌊(second : ℚ) / 86400⌋ →
        Utf8.encode (nameAt first).toList < Utf8.encode (nameAt second).toList) ∧
    (∀ seconds : Int, Tells (nameAt seconds) (Date.ofDay ⌊(seconds : ℚ) / 86400⌋)) ∧
    Date.ofDay 0 = ⟨1970, 1, 1⟩ ∧
    ∀ day, Date.ofDay (day + 1) = (Date.ofDay day).next ∧ (Date.ofDay day).IsValid := by
  have named : ∀ seconds : Int, nameAt seconds = "rdio-scanner-config-" ++
      String.ofList (Date.ofDay ⌊(seconds : ℚ) / 86400⌋).chars ++ ".json" := by
    intro seconds
    rw [← dayOf_eq_floor]
    rfl
  simp only [named]
  refine ⟨fun first second => ⟨fun same => ?_, fun same => ?_⟩, fun first second few many earlier => ?_,
    fun seconds => tells_date (Date.ofDay_valid _), by decide,
    fun day => ⟨Date.ofDay_succ day, Date.ofDay_valid day⟩⟩
  · have tells := tells_date (Date.ofDay_valid ⌊(first : ℚ) / 86400⌋)
    rw [same] at tells
    exact Date.ofDay_injective (tells.unique (tells_date (Date.ofDay_valid _)))
  · rw [same]
  · exact encode_between_lt (Date.before_of_lt earlier) few many (Date.ofDay_valid _) _ _

/-- The last day before 1970 and the leap day of 2000. -/
theorem nameAt_byDay_leap :
    Utf8.encode (nameAt (-1)).toList < Utf8.encode (nameAt 951868799).toList ∧
      nameAt 951868799 = nameAt 951782400 ∧ nameAt 951868799 ≠ nameAt 951868800 ∧
        nameAt 951868799 = "rdio-scanner-config-2000-02-29.json" := by
  have old : ⌊((-1 : Int) : ℚ) / 86400⌋ = -1 := by norm_num
  have leap : ⌊((951868799 : Int) : ℚ) / 86400⌋ = 11016 := by norm_num
  have start : ⌊((951782400 : Int) : ℚ) / 86400⌋ = 11016 := by norm_num
  have after : ⌊((951868800 : Int) : ℚ) / 86400⌋ = 11017 := by norm_num
  obtain ⟨sameDay, ordered, _⟩ := nameAt_byDay
  refine ⟨ordered _ _ ?_ ?_ (by rw [old, leap]; decide), (sameDay _ _).mpr (by rw [leap, start]),
    fun same => ?_, by decide⟩
  · rw [old]
    exact ⟨by decide, by decide⟩
  · rw [leap]
    exact ⟨by decide, by decide⟩
  · have days := (sameDay _ _).mp same
    rw [leap, after] at days
    omega

end ExportFile

end ScannerConfig
