import Mathlib.Data.Int.Basic
import Mathlib.Data.Int.Order.Basic
import Mathlib.Tactic.IntervalCases
import Mathlib.Tactic.SplitIfs
import ScannerConfig.Calendar

namespace ScannerConfig.Date

/-- Every fourth year is a leap year, but of the years of a full century only every fourth. -/
def IsLeap (year : Int) : Prop :=
  4 ∣ year ∧ (100 ∣ year → 400 ∣ year)

instance : DecidablePred IsLeap :=
  fun year => inferInstanceAs (Decidable (4 ∣ year ∧ (100 ∣ year → 400 ∣ year)))

def monthLength (year : Int) : Nat → Nat
  | 2 => if IsLeap year then 29 else 28
  | 4 | 6 | 9 | 11 => 30
  | _ => 31

/-- The date after a date. -/
def next (date : Date) : Date :=
  if date.day < monthLength date.year date.month then ⟨date.year, date.month, date.day + 1⟩
  else if date.month < 12 then ⟨date.year, date.month + 1, 1⟩
  else ⟨date.year + 1, 1, 1⟩

/-- A date that is in the calendar. -/
structure IsValid (date : Date) : Prop where
  month : 1 ≤ date.month ∧ date.month ≤ 12
  day : 1 ≤ date.day ∧ date.day ≤ monthLength date.year date.month

/-- The number of days before March of a year, counted from March of the year zero. -/
def marchStart (year : Int) : Int :=
  365 * year + year / 4 - year / 100 + year / 400

/-- The length of the year that begins in March. Its February is that of the next year. -/
def marchLength (year : Int) : Nat :=
  if IsLeap (year + 1) then 366 else 365

/-- The days of a year from March that come before one of its months. -/
def monthStart (fromMarch : Nat) : Nat :=
  (153 * fromMarch + 2) / 5

/-- A day of a month of a year from March, months and days counted from zero. -/
def inMonth (year : Int) (fromMarch ofMonth : Nat) : Date :=
  let month := if fromMarch < 10 then fromMarch + 3 else fromMarch - 9
  ⟨if month ≤ 2 then year + 1 else year, month, ofMonth + 1⟩

/-- A day of a year from March, counted from zero. -/
def ofMarch (year : Int) (ofYear : Nat) : Date :=
  let fromMarch := (5 * ofYear + 2) / 153
  inMonth year fromMarch (ofYear - monthStart fromMarch)

theorem marchStart_succ (year : Int) :
    marchStart (year + 1) = marchStart year + marchLength year := by
  rw [marchStart, marchStart, marchLength]
  by_cases leap : IsLeap (year + 1)
  · rw [if_pos leap]
    unfold IsLeap at leap
    push_cast
    omega
  · rw [if_neg leap]
    unfold IsLeap at leap
    push_cast
    omega

theorem marchLength_pos (year : Int) : 0 < marchLength year := by
  rw [marchLength]
  split <;> decide

/-- Only a leap year has a day 365, the last of its days from zero. -/
theorem le_of_lt_marchLength {year : Int} {ofYear : Nat} (within : ofYear < marchLength year) :
    ofYear ≤ 365 ∧ (ofYear = 365 → IsLeap (year + 1)) := by
  rw [marchLength] at within
  split_ifs at within with leap
  · exact ⟨by omega, fun _ => leap⟩
  · exact ⟨by omega, by omega⟩

section Eras

-- In the eras of 400 years a day is `365 * year + year / 4 - year / 100` days and those of its year
-- behind the start of its era.

variable {year ofYear ofEra : Nat}

/-- The whole centuries before a day of an era. Its last day would make one more. -/
theorem centuries_before (within : year < 400) (short : ofYear ≤ 365)
    (last : ofYear = 365 → IsLeap (year + 1))
    (split : ofEra + year / 100 = 365 * year + year / 4 + ofYear) :
    ofEra / 36524 = year / 100 + ofEra / 146096 := by
  have whole : ofEra = 36524 * (year / 100) + (365 * (year % 100) + year % 100 / 4 + ofYear) := by
    omega
  generalize 365 * (year % 100) + year % 100 / 4 + ofYear = rest at whole
  by_cases before : rest < 36524
  · have early : ofEra < 146096 := by omega
    rw [Nat.div_eq_of_lt early, whole, Nat.mul_add_div (by decide), Nat.div_eq_of_lt before]
  · unfold IsLeap at last
    have lastDay : ofEra = 146096 ∧ year / 100 = 3 := by omega
    rw [lastDay.1, lastDay.2]

/-- The leap days before a day of an era are nearly the runs of four years without one. -/
theorem fours_before (within : year < 400) (short : ofYear ≤ 365)
    (last : ofYear = 365 → IsLeap (year + 1))
    (split : ofEra + year / 100 = 365 * year + year / 4 + ofYear) :
    ofEra / 1460 ≤ year / 4 + ofYear ∧ year / 4 + ofYear ≤ ofEra / 1460 + 364 := by
  unfold IsLeap at last
  omega

theorem yearOfEra_eq (within : year < 400) (short : ofYear ≤ 365)
    (last : ofYear = 365 → IsLeap (year + 1))
    (split : ofEra + year / 100 = 365 * year + year / 4 + ofYear) :
    (ofEra - ofEra / 1460 + ofEra / 36524 - ofEra / 146096) / 365 = year := by
  have centuries := centuries_before within short last split
  obtain ⟨few, many⟩ := fours_before within short last split
  have less : ofEra / 1460 ≤ ofEra := Nat.div_le_self _ _
  rw [centuries]
  generalize ofEra / 1460 = fours at *
  generalize ofEra / 146096 = eras at *
  omega

theorem ofDay_ofEra (era : Int) (within : year < 400) (short : ofYear ≤ 365)
    (last : ofYear = 365 → IsLeap (year + 1))
    (split : ofEra + year / 100 = 365 * year + year / 4 + ofYear) :
    ofDay (146097 * era + ofEra - 719468) = ofMarch (era * 400 + year) ofYear := by
  have shifted : 146097 * era + (ofEra : Int) - 719468 + 719468 = 146097 * era + ofEra := by omega
  have inEra : ofEra < 146097 := by
    unfold IsLeap at last
    omega
  have eraThere : (146097 * era + (ofEra : Int)).fdiv 146097 = era := by
    rw [Int.fdiv_eq_ediv_of_nonneg _ (by decide)]
    omega
  have dayThere : ((146097 * era + (ofEra : Int)).fmod 146097).toNat = ofEra := by
    rw [Int.fmod_eq_emod_of_nonneg _ (by decide)]
    omega
  have rest : ofEra - (365 * year + year / 4 - year / 100) = ofYear := by omega
  simp only [ofDay, shifted, eraThere, dayThere, yearOfEra_eq within short last split, rest, ofMarch,
    inMonth, monthStart]

end Eras

theorem ofDay_march (year : Int) {ofYear : Nat} (within : ofYear < marchLength year) :
    ofDay (marchStart year + ofYear - 719468) = ofMarch year ofYear := by
  obtain ⟨short, last⟩ := le_of_lt_marchLength within
  obtain ⟨era, yearOfEra, few, rfl⟩ : ∃ (era : Int) (yearOfEra : Nat),
      yearOfEra < 400 ∧ year = era * 400 + yearOfEra :=
    ⟨year / 400, (year % 400).toNat, by omega, by omega⟩
  have lastOfEra : ofYear = 365 → IsLeap (yearOfEra + 1) := by
    unfold IsLeap at last ⊢
    omega
  have start : marchStart (era * 400 + yearOfEra) + ofYear = 146097 * era +
      ((365 * yearOfEra + yearOfEra / 4 - yearOfEra / 100 + ofYear : Nat) : Int) := by
    rw [marchStart]
    omega
  rw [start]
  exact ofDay_ofEra era few short lastOfEra (by omega)

/-- Every day is a day of a year from March. -/
theorem exists_march (day : Int) :
    ∃ (year : Int) (ofYear : Nat),
      ofYear < marchLength year ∧ day = marchStart year + ofYear - 719468 := by
  have counted : ∀ count : Int, ∃ (year : Int) (ofYear : Nat),
      ofYear < marchLength year ∧ count = marchStart year + ofYear := by
    intro count
    induction count using Int.induction_on with
    | zero => exact ⟨0, 0, marchLength_pos 0, rfl⟩
    | succ count ih =>
      obtain ⟨year, ofYear, within, same⟩ := ih
      by_cases more : ofYear + 1 < marchLength year
      · exact ⟨year, ofYear + 1, more, by push_cast; omega⟩
      · have following := marchStart_succ year
        exact ⟨year + 1, 0, marchLength_pos _, by push_cast; omega⟩
    | pred count ih =>
      obtain ⟨year, ofYear, within, same⟩ := ih
      cases ofYear with
      | succ ofYear => exact ⟨year, ofYear, by omega, by push_cast at same; omega⟩
      | zero =>
        have following := marchStart_succ (year - 1)
        have positive := marchLength_pos (year - 1)
        rw [Int.sub_add_cancel] at following
        exact ⟨year - 1, marchLength (year - 1) - 1, by omega, by push_cast at same; omega⟩
  obtain ⟨year, ofYear, within, same⟩ := counted (day + 719468)
  exact ⟨year, ofYear, within, by omega⟩

theorem ofMarch_month (year : Int) {fromMarch ofMonth : Nat}
    (within : monthStart fromMarch + ofMonth < monthStart (fromMarch + 1)) :
    ofMarch year (monthStart fromMarch + ofMonth) = inMonth year fromMarch ofMonth := by
  have there : (5 * (monthStart fromMarch + ofMonth) + 2) / 153 = fromMarch := by
    unfold monthStart at within ⊢
    omega
  rw [ofMarch, there, Nat.add_sub_cancel_left]

/-- Each day of a year from March lies in one of its months. -/
theorem month_of_day {year : Int} {ofYear : Nat} (within : ofYear < marchLength year) :
    ∃ fromMarch ofMonth, fromMarch < 12 ∧ ofYear = monthStart fromMarch + ofMonth ∧
      ofYear < monthStart (fromMarch + 1) := by
  obtain ⟨short, _⟩ := le_of_lt_marchLength within
  refine ⟨(5 * ofYear + 2) / 153, ofYear - monthStart ((5 * ofYear + 2) / 153), ?_, ?_, ?_⟩
  · omega
  · unfold monthStart
    omega
  · unfold monthStart
    omega

/-- A month ends where the next one starts, and February with its year from March. -/
theorem monthStart_add_monthLength (year : Int) {fromMarch : Nat} (within : fromMarch < 12)
    (ofMonth : Nat) :
    let date := inMonth year fromMarch ofMonth
    monthStart fromMarch + monthLength date.year date.month =
      if fromMarch = 11 then marchLength year else monthStart (fromMarch + 1) := by
  by_cases february : fromMarch = 11
  · subst february
    by_cases leap : IsLeap (year + 1) <;> simp [inMonth, monthLength, marchLength, monthStart, leap]
  · rw [if_neg february]
    have before : fromMarch < 11 := by omega
    interval_cases fromMarch <;> rfl

theorem next_inMonth (year : Int) {fromMarch ofMonth : Nat} (few : fromMarch < 12)
    (more : monthStart fromMarch + ofMonth + 1 < marchLength year)
    (within : monthStart fromMarch + ofMonth + 1 < monthStart (fromMarch + 1)) :
    (inMonth year fromMarch ofMonth).next = inMonth year fromMarch (ofMonth + 1) := by
  have length := monthStart_add_monthLength year few ofMonth
  have shown : (inMonth year fromMarch ofMonth).day = ofMonth + 1 := rfl
  dsimp only at length
  have later : ofMonth + 1 < monthLength (inMonth year fromMarch ofMonth).year
      (inMonth year fromMarch ofMonth).month := by
    split_ifs at length <;> omega
  rw [next, shown, if_pos later]
  rfl

theorem next_inMonth_last (year : Int) {fromMarch ofMonth : Nat} (before : fromMarch < 11)
    (last : monthStart fromMarch + ofMonth + 1 = monthStart (fromMarch + 1)) :
    (inMonth year fromMarch ofMonth).next = inMonth year (fromMarch + 1) 0 := by
  have length := monthStart_add_monthLength year (Nat.lt_succ_of_lt before) ofMonth
  have shown : (inMonth year fromMarch ofMonth).day = ofMonth + 1 := rfl
  dsimp only at length
  rw [if_neg (by omega)] at length
  rw [next, shown, if_neg (by omega)]
  interval_cases fromMarch <;> rfl

theorem next_ofMarch (year : Int) {ofYear : Nat} (more : ofYear + 1 < marchLength year) :
    (ofMarch year ofYear).next = ofMarch year (ofYear + 1) := by
  obtain ⟨fromMarch, ofMonth, few, rfl, within⟩ := month_of_day (Nat.lt_of_succ_lt more)
  rw [ofMarch_month year within]
  by_cases last : monthStart fromMarch + ofMonth + 1 = monthStart (fromMarch + 1)
  · have before : fromMarch < 11 := by
      obtain ⟨short, _⟩ := le_of_lt_marchLength more
      have lastStart : monthStart (11 + 1) = 367 := rfl
      by_contra february
      obtain rfl : fromMarch = 11 := by omega
      omega
    have first : monthStart (fromMarch + 1) + 0 < monthStart (fromMarch + 1 + 1) := by
      unfold monthStart
      omega
    rw [last, next_inMonth_last year before last, ← ofMarch_month year first, Nat.add_zero]
  · have inside : monthStart fromMarch + (ofMonth + 1) < monthStart (fromMarch + 1) := by omega
    rw [next_inMonth year few more inside, ← ofMarch_month year inside, Nat.add_assoc]

/-- The first of March comes after the last day of February. -/
theorem next_ofMarch_last (year : Int) :
    (ofMarch year (marchLength year - 1)).next = ofMarch (year + 1) 0 := by
  by_cases leap : IsLeap (year + 1) <;>
    simp [marchLength, ofMarch, inMonth, monthStart, next, monthLength, leap]

/-- The date of the next day is the date after that of a day. -/
theorem ofDay_succ (day : Int) : ofDay (day + 1) = (ofDay day).next := by
  obtain ⟨year, ofYear, within, rfl⟩ := exists_march day
  rw [ofDay_march year within]
  by_cases more : ofYear + 1 < marchLength year
  · have later : marchStart year + ofYear - 719468 + 1 =
        marchStart year + ((ofYear + 1 : Nat) : Int) - 719468 := by
      push_cast
      omega
    rw [later, ofDay_march year more, next_ofMarch year more]
  · have last : ofYear = marchLength year - 1 := by omega
    have following := marchStart_succ year
    have later : marchStart year + ofYear - 719468 + 1 =
        marchStart (year + 1) + ((0 : Nat) : Int) - 719468 := by
      push_cast
      omega
    rw [later, ofDay_march (year + 1) (marchLength_pos _), last, next_ofMarch_last year]

theorem ofDay_valid (day : Int) : (ofDay day).IsValid := by
  obtain ⟨year, ofYear, within, rfl⟩ := exists_march day
  obtain ⟨fromMarch, ofMonth, few, rfl, inside⟩ := month_of_day within
  rw [ofDay_march year within, ofMarch_month year inside]
  have length := monthStart_add_monthLength year few ofMonth
  have shown : (inMonth year fromMarch ofMonth).day = ofMonth + 1 := rfl
  dsimp only at length
  refine ⟨?_, ?_⟩
  · simp only [inMonth]
    split_ifs <;> omega
  · rw [shown]
    split_ifs at length <;> omega

theorem IsValid.short {date : Date} (valid : date.IsValid) : date.month ≤ 12 ∧ date.day ≤ 31 := by
  obtain ⟨⟨_, month⟩, ⟨_, day⟩⟩ := valid
  refine ⟨month, day.trans ?_⟩
  unfold monthLength
  split
  · split <;> decide
  all_goals decide

/-- Earlier by the year, then by the month, then by the day. -/
def Before (first second : Date) : Prop :=
  first.year < second.year ∨ first.year = second.year ∧
    (first.month < second.month ∨ first.month = second.month ∧ first.day < second.day)

theorem Before.trans {first second third : Date} (before : first.Before second)
    (later : second.Before third) : first.Before third := by
  unfold Before at before later ⊢
  omega

theorem Before.ne {first second : Date} (before : first.Before second) : first ≠ second := by
  rintro rfl
  unfold Before at before
  omega

theorem before_next (date : Date) : date.Before date.next := by
  unfold Before next
  split_ifs <;> simp

/-- Later days have later dates. -/
theorem before_of_lt {day other : Int} (earlier : day < other) : (ofDay day).Before (ofDay other) := by
  obtain ⟨count, rfl⟩ := Int.exists_add_of_le (Int.add_one_le_of_lt earlier)
  induction count with
  | zero =>
    rw [Int.ofNat_zero, Int.add_zero, ofDay_succ]
    exact before_next _
  | succ count ih =>
    have onward : day + 1 + ((count + 1 : Nat) : Int) = day + 1 + count + 1 := by
      push_cast
      omega
    rw [onward, ofDay_succ]
    exact (ih (by omega)).trans (before_next _)

theorem ofDay_injective : Function.Injective ofDay := by
  intro day other same
  rcases Int.lt_trichotomy day other with before | equal | after
  · exact absurd same (before_of_lt before).ne
  · exact equal
  · exact absurd same.symm (before_of_lt after).ne

end ScannerConfig.Date
