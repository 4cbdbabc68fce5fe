import Mathlib.Tactic.SplitIfs
import Tiai.Lib.Calendar

/-!
# Dates of the calendar

A date is a year, a month counted from 0 and a day of the month counted from 1; a day is its number, as in
`Tiai.Lib.Calendar`.

* `ordinal` — the day of a date, where months and days may run over, as a clerk would count on;
* `civil` — the date of a day;
* `civil_eq_iff` — the date of a day is a date that exists, and the one that the day is the day of;
* `civil_ordinal_iff` — a date exists when the date of its day is the date again.
-/

namespace Tiai.Lib.Calendar

/-! ### Months -/

def isLeap (y : ℤ) : Bool := y % 4 = 0 ∧ (y % 100 ≠ 0 ∨ y % 400 = 0)

/-- The 29th of February. -/
def leapDay (y : ℤ) : ℤ := if isLeap y then 1 else 0

/-- A month has 31 days but for the short ones. -/
def monthLength (leap : ℤ) (month : ℕ) : ℤ :=
  if month = 1 then 28 + leap else if month ∈ [3, 5, 8, 10] then 30 else 31

/-- The days of a year before the first of a month. -/
def daysBeforeMonth (leap : ℤ) : ℕ → ℤ
  | 0 => 0
  | month + 1 => daysBeforeMonth leap month + monthLength leap month

/-- The last month up to this one that has begun by a day of the year. -/
def begun (leap day : ℤ) : ℕ → ℕ
  | 0 => 0
  | month + 1 => if daysBeforeMonth leap (month + 1) ≤ day then month + 1 else begun leap day month

/-- The month of a day of the year, the first of January being day 0 of month 0. -/
def monthOf (leap day : ℤ) : ℕ := begun leap day 11

lemma leapDay_bounds (y : ℤ) : 0 ≤ leapDay y ∧ leapDay y ≤ 1 := by
  unfold leapDay
  split <;> omega

lemma daysBeforeYear_succ_eq (y : ℤ) : daysBeforeYear (y + 1) = daysBeforeYear y + 365 + leapDay y := by
  unfold daysBeforeYear leapDay isLeap
  simp only [decide_eq_true_eq]
  split <;> omega

/-- Years are at least 365 days each. -/
lemma daysBeforeYear_add (y : ℤ) (k : ℕ) : daysBeforeYear y + 365 * k ≤ daysBeforeYear (y + k) := by
  unfold daysBeforeYear
  omega

lemma daysBeforeYear_strictMono : StrictMono daysBeforeYear :=
  strictMono_int_of_lt_succ fun y => by
    have := daysBeforeYear_succ y
    omega

lemma daysBeforeMonth_strictMono {leap : ℤ} (hleap : 0 ≤ leap) : StrictMono (daysBeforeMonth leap) := by
  refine strictMono_nat_of_lt_succ fun month => ?_
  rw [daysBeforeMonth]
  unfold monthLength
  split_ifs <;> omega

lemma daysBeforeMonth_year (leap : ℤ) : daysBeforeMonth leap 12 = 365 + leap := by
  simp [daysBeforeMonth, monthLength]
  omega

lemma daysBeforeMonth_bounds (y : ℤ) {month : ℕ} (h : month ≤ 12) :
    0 ≤ daysBeforeMonth (leapDay y) month ∧ daysBeforeMonth (leapDay y) month ≤ 365 + leapDay y := by
  have hmono := (daysBeforeMonth_strictMono (leapDay_bounds y).1).monotone
  rw [← daysBeforeMonth_year]
  exact ⟨hmono (Nat.zero_le month), hmono h⟩

lemma begun_le (leap day : ℤ) (month : ℕ) : begun leap day month ≤ month := by
  induction month with
  | zero => exact le_rfl
  | succ month ih =>
    unfold begun
    split <;> omega

lemma daysBeforeMonth_begun {leap day : ℤ} (hlo : 0 ≤ day) (month : ℕ) :
    daysBeforeMonth leap (begun leap day month) ≤ day := by
  induction month with
  | zero => exact hlo
  | succ month ih =>
    unfold begun
    split
    · assumption
    · exact ih

/-- The next month has not begun. -/
lemma lt_daysBeforeMonth_begun {leap day : ℤ} {month : ℕ} (hhi : day < daysBeforeMonth leap (month + 1)) :
    day < daysBeforeMonth leap (begun leap day month + 1) := by
  induction month with
  | zero => exact hhi
  | succ month ih =>
    unfold begun
    split
    · exact hhi
    · exact ih (by omega)

/-- The month that a day of the year falls in. -/
lemma monthOf_spec {leap day : ℤ} (hlo : 0 ≤ day) (hhi : day < 365 + leap) :
    daysBeforeMonth leap (monthOf leap day) ≤ day ∧ day < daysBeforeMonth leap (monthOf leap day + 1) :=
  ⟨daysBeforeMonth_begun hlo 11, lt_daysBeforeMonth_begun (by rwa [daysBeforeMonth_year])⟩

/-- No other month holds the day. -/
lemma monthOf_eq {leap day : ℤ} {month : ℕ} (hleap : 0 ≤ leap) (hmonth : month ≤ 11)
    (hlo : daysBeforeMonth leap month ≤ day) (hhi : day < daysBeforeMonth leap (month + 1)) :
    monthOf leap day = month := by
  have hmono := daysBeforeMonth_strictMono hleap
  have hfirst : daysBeforeMonth leap 0 ≤ daysBeforeMonth leap month := hmono.monotone (Nat.zero_le _)
  have hlast : daysBeforeMonth leap (month + 1) ≤ daysBeforeMonth leap 12 := hmono.monotone (by omega)
  rw [daysBeforeMonth_year] at hlast
  rw [daysBeforeMonth] at hfirst
  obtain ⟨hlo', hhi'⟩ := @monthOf_spec leap day (by omega) (by omega)
  have h1 : monthOf leap day < month + 1 := hmono.lt_iff_lt.1 (lt_of_le_of_lt hlo' hhi)
  have h2 : month < monthOf leap day + 1 := hmono.lt_iff_lt.1 (lt_of_le_of_lt hlo hhi')
  omega

/-! ### Dates -/

structure Date where
  year : ℤ
  month : ℕ
  day : ℤ
  deriving DecidableEq

/-- A date that the calendar has. -/
structure Date.Exists (date : Date) : Prop where
  month : date.month ≤ 11
  day : 1 ≤ date.day ∧ date.day ≤ monthLength (leapDay date.year) date.month

/-- The day of a date; a month past December is one of a later year, and a day past the last one of a later month. -/
def ordinal (y month day : ℤ) : ℤ :=
  daysBeforeYear (y + month / 12) + daysBeforeMonth (leapDay (y + month / 12)) (month % 12).toNat + day

def civil (n : ℤ) : Date :=
  let y := year n
  let day := n - daysBeforeYear y - 1
  let month := monthOf (leapDay y) day
  { year := y, month, day := day - daysBeforeMonth (leapDay y) month + 1 }

lemma year_eq {n y : ℤ} (hlo : daysBeforeYear y < n) (hhi : n ≤ daysBeforeYear (y + 1)) : year n = y := by
  obtain ⟨hlo', hhi'⟩ := year_spec n
  have h1 : year n < y + 1 := daysBeforeYear_strictMono.lt_iff_lt.1 (lt_of_lt_of_le hlo' hhi)
  have h2 : y < year n + 1 := daysBeforeYear_strictMono.lt_iff_lt.1 (lt_of_lt_of_le hlo hhi')
  omega

lemma civil_exists (n : ℤ) : (civil n).Exists := by
  obtain ⟨hlo, hhi⟩ := year_spec n
  rw [daysBeforeYear_succ_eq] at hhi
  obtain ⟨hfirst, hnext⟩ := @monthOf_spec (leapDay (year n)) (n - daysBeforeYear (year n) - 1)
    (by omega) (by omega)
  rw [daysBeforeMonth] at hnext
  refine ⟨begun_le _ _ 11, ?_⟩
  unfold civil
  simp only
  omega

/-- The day of a month of the year. -/
lemma ordinal_of_month (y : ℤ) {month : ℕ} (h : month ≤ 11) (day : ℤ) :
    ordinal y month day = daysBeforeYear y + daysBeforeMonth (leapDay y) month + day := by
  unfold ordinal
  rw [Int.ediv_eq_zero_of_lt (by omega) (by omega), Int.emod_eq_of_lt (by omega) (by omega), add_zero, Int.toNat_natCast]

lemma ordinal_civil (n : ℤ) : ordinal (civil n).year (civil n).month (civil n).day = n := by
  rw [ordinal_of_month _ (civil_exists n).month]
  unfold civil
  simp only
  omega

lemma civil_ordinal {date : Date} (h : date.Exists) : civil (ordinal date.year date.month date.day) = date := by
  obtain ⟨y, month, day⟩ := date
  obtain ⟨hmonth, hday⟩ := h
  simp only at hmonth hday
  have hlen := daysBeforeYear_succ_eq y
  have hfirst := daysBeforeMonth_bounds y (show month ≤ 12 by omega)
  have hlast := daysBeforeMonth_bounds y (show month + 1 ≤ 12 by omega)
  have hnext : daysBeforeMonth (leapDay y) (month + 1) =
      daysBeforeMonth (leapDay y) month + monthLength (leapDay y) month := rfl
  simp only
  rw [ordinal_of_month y hmonth]
  generalize hn : daysBeforeYear y + daysBeforeMonth (leapDay y) month + day = n
  have hyear : year n = y := year_eq (by omega) (by omega)
  have hof : monthOf (leapDay y) (n - daysBeforeYear y - 1) = month :=
    monthOf_eq (leapDay_bounds y).1 hmonth (by omega) (by omega)
  simp only [civil, hyear, hof, Date.mk.injEq, true_and]
  omega

/-- **The date of a day** is the one whose day it is. -/
theorem civil_eq_iff {n : ℤ} {date : Date} (h : date.Exists) :
    civil n = date ↔ n = ordinal date.year date.month date.day := by
  constructor
  · rintro rfl
    exact (ordinal_civil n).symm
  · rintro rfl
    exact civil_ordinal h

/-- **A date exists** when the date of its day is the date again. -/
theorem civil_ordinal_iff (date : Date) :
    civil (ordinal date.year date.month date.day) = date ↔ date.Exists := by
  refine ⟨fun h => ?_, civil_ordinal⟩
  rw [← h]
  exact civil_exists _

/-- The 29th of February of 2024 exists, and that of 2026 is the 1st of March. -/
example : civil (ordinal 2024 1 29) = ⟨2024, 1, 29⟩ ∧ civil (ordinal 2026 1 29) = ⟨2026, 2, 1⟩ := by decide

end Tiai.Lib.Calendar
