import Mathlib

/-!
# The Gregorian calendar and its weeks

Days are numbered as `date.toordinal` numbers them: 1 is the 1st of January of the year 1, a Monday.  The
calendar goes on before it and for ever after.

* `year` — the year of a day; `year_spec` — it is the one that the day falls in;
* `weekday`, `monday` — the day of the week, and the day its week starts on;
* `isoWeek` — the week, by the year it is numbered in and its number there;
* `isoWeek_eq_iff` — two days are in one numbered week when their weeks start on one day.
-/

namespace Tiai.Lib.Calendar

/-! ### Years -/

/-- The days before the 1st of January of a year. -/
def daysBeforeYear (y : ℤ) : ℤ := (y - 1) * 365 + (y - 1) / 4 - (y - 1) / 100 + (y - 1) / 400

/-- The year of a day: whole cycles of 400, 100, 4 and 1 years.  The last day of a cycle of 400 or of 4
years would start a cycle too many. -/
def year (n : ℤ) : ℤ :=
  let n400 := (n - 1) / 146097
  let rest := (n - 1) % 146097
  let n100 := rest / 36524
  let rest := rest % 36524
  let n4 := rest / 1461
  let n1 := rest % 1461 / 365
  let y := n400 * 400 + 1 + n100 * 100 + n4 * 4 + n1
  if n1 = 4 ∨ n100 = 4 then y - 1 else y

/-- A year before the next leap day of its cycles. -/
lemma daysBeforeYear_cycles {a b c d : ℤ} (hb : 0 ≤ b ∧ b ≤ 3) (hc : 0 ≤ c ∧ c ≤ 24) (hd : 0 ≤ d ∧ d ≤ 3) :
    daysBeforeYear (a * 400 + 1 + b * 100 + c * 4 + d) = 146097 * a + 36524 * b + 1461 * c + 365 * d := by
  have h4 : (a * 400 + 1 + b * 100 + c * 4 + d - 1) / 4 = 100 * a + 25 * b + c := by omega
  have h100 : (a * 400 + 1 + b * 100 + c * 4 + d - 1) / 100 = 4 * a + b := by omega
  have h400 : (a * 400 + 1 + b * 100 + c * 4 + d - 1) / 400 = a := by omega
  unfold daysBeforeYear
  omega

/-- A year has 365 days, or 366. -/
lemma daysBeforeYear_succ (y : ℤ) : daysBeforeYear y + 365 ≤ daysBeforeYear (y + 1) ∧
    daysBeforeYear (y + 1) ≤ daysBeforeYear y + 366 := by
  unfold daysBeforeYear
  omega

lemma year_spec (n : ℤ) : daysBeforeYear (year n) < n ∧ n ≤ daysBeforeYear (year n + 1) := by
  unfold year
  simp only
  generalize h400 : (n - 1) / 146097 = a
  generalize hr400 : (n - 1) % 146097 = r400
  generalize h100 : r400 / 36524 = b
  generalize hr100 : r400 % 36524 = r100
  generalize h4 : r100 / 1461 = c
  generalize h1 : r100 % 1461 / 365 = d
  by_cases hb : b = 4
  · -- The last day of 400 years.
    have hlast := @daysBeforeYear_cycles a 3 24 3 (by omega) (by omega) (by omega)
    have hnext := @daysBeforeYear_cycles (a + 1) 0 0 0 (by omega) (by omega) (by omega)
    rw [if_pos (.inr hb)]
    rw [show a * 400 + 1 + b * 100 + c * 4 + d - 1 = a * 400 + 1 + 3 * 100 + 24 * 4 + 3 by omega,
      show a * 400 + 1 + 3 * 100 + 24 * 4 + 3 + 1 = (a + 1) * 400 + 1 + 0 * 100 + 0 * 4 + 0 by omega,
      hlast, hnext]
    omega
  · by_cases hd : d = 4
    · -- The last day of 4 years.
      have hlast := @daysBeforeYear_cycles a b c 3 (by omega) (by omega) (by omega)
      have hnext := @daysBeforeYear_cycles a b (c + 1) 0 (by omega) (by omega) (by omega)
      rw [if_pos (.inl hd)]
      rw [show a * 400 + 1 + b * 100 + c * 4 + d - 1 = a * 400 + 1 + b * 100 + c * 4 + 3 by omega,
        show a * 400 + 1 + b * 100 + c * 4 + 3 + 1 = a * 400 + 1 + b * 100 + (c + 1) * 4 + 0 by omega,
        hlast, hnext]
      omega
    · have hfirst := @daysBeforeYear_cycles a b c d (by omega) (by omega) (by omega)
      have hnext := daysBeforeYear_succ (a * 400 + 1 + b * 100 + c * 4 + d)
      rw [if_neg (by omega)]
      omega

/-! ### Weeks -/

/-- The day of the week; 0 is Monday. -/
def weekday (n : ℤ) : ℤ := (n + 6) % 7

/-- The Monday of a day's week. -/
def monday (n : ℤ) : ℤ := n - weekday n

/-- The Monday of a year's week 1: the week of its first Thursday. -/
def isoWeek1Monday (y : ℤ) : ℤ :=
  let firstDay := daysBeforeYear y + 1
  let firstWeekday := weekday firstDay
  if firstWeekday > 3 then firstDay - firstWeekday + 7 else firstDay - firstWeekday

/-- The first two numbers of `isocalendar`: the year a day's week is numbered in, and its number. -/
def isoWeek (n : ℤ) : ℤ × ℤ :=
  let y := year n
  let week := (n - isoWeek1Monday y) / 7
  if week < 0 then (y - 1, (n - isoWeek1Monday (y - 1)) / 7 + 1)
  else if week ≥ 52 ∧ n ≥ isoWeek1Monday (y + 1) then (y + 1, 1)
  else (y, week + 1)

lemma monday_mono : Monotone monday := by
  intro m n hmn
  unfold monday weekday
  omega

lemma isoWeek1Monday_spec (y : ℤ) : weekday (isoWeek1Monday y) = 0 ∧
    daysBeforeYear y - 3 < isoWeek1Monday y ∧ isoWeek1Monday y ≤ daysBeforeYear y + 4 := by
  unfold isoWeek1Monday weekday
  simp only
  split <;> omega

/-- A numbered year has 52 weeks, or 53. -/
lemma isoWeek1Monday_succ (y : ℤ) : isoWeek1Monday (y + 1) = isoWeek1Monday y + 364 ∨
    isoWeek1Monday (y + 1) = isoWeek1Monday y + 371 := by
  have h := isoWeek1Monday_spec y
  have h' := isoWeek1Monday_spec (y + 1)
  have hyear := daysBeforeYear_succ y
  unfold weekday at h h'
  omega

lemma isoWeek1Monday_strictMono : StrictMono isoWeek1Monday := by
  refine strictMono_int_of_lt_succ fun y => ?_
  rcases isoWeek1Monday_succ y with h | h
  · omega
  · omega

/-- A day falls in the numbered year of its week, and its number counts the weeks of that year. -/
lemma isoWeek_spec (n : ℤ) : isoWeek1Monday (isoWeek n).1 ≤ n ∧ n < isoWeek1Monday ((isoWeek n).1 + 1) ∧
    (isoWeek n).2 = (n - isoWeek1Monday (isoWeek n).1) / 7 + 1 := by
  have hyear := year_spec n
  unfold isoWeek
  simp only
  generalize year n = y at hyear
  have hfirst := isoWeek1Monday_spec y
  have hnext := isoWeek1Monday_spec (y + 1)
  have hsucc := isoWeek1Monday_succ y
  split
  · -- Before week 1 of its year.
    have hlast := isoWeek1Monday_succ (y - 1)
    rw [show y - 1 + 1 = y by omega] at hlast
    have hdays := daysBeforeYear_succ (y - 1)
    rw [show y - 1 + 1 = y by omega] at hdays
    refine ⟨?_, ?_, rfl⟩
    · simp only
      omega
    · simp only [show y - 1 + 1 = y by omega]
      omega
  · split
    · -- In week 1 of the next year.
      have hlast := isoWeek1Monday_succ (y + 1)
      simp only
      omega
    · refine ⟨?_, ?_, rfl⟩
      · simp only
        omega
      · simp only
        omega

/-- **Numbered weeks** are weeks. -/
theorem isoWeek_eq_iff {m n : ℤ} : isoWeek m = isoWeek n ↔ monday m = monday n := by
  obtain ⟨hm, hm', hmw⟩ := isoWeek_spec m
  obtain ⟨hn, hn', hnw⟩ := isoWeek_spec n
  have hmonday := fun y => (isoWeek1Monday_spec y).1
  unfold weekday at hmonday
  constructor
  · intro h
    rw [h] at hm hmw
    have hstart := hmonday (isoWeek n).1
    unfold monday weekday
    omega
  · intro h
    -- A year's weeks start on a Monday, so both days are on one side of it.
    have hside (y : ℤ) : isoWeek1Monday y ≤ m ↔ isoWeek1Monday y ≤ n := by
      have hstart := hmonday y
      unfold monday weekday at h
      omega
    have hyear : (isoWeek m).1 = (isoWeek n).1 := by
      have hle : (isoWeek m).1 < (isoWeek n).1 + 1 :=
        isoWeek1Monday_strictMono.lt_iff_lt.1 (lt_of_le_of_lt ((hside _).1 hm) hn')
      have hge : (isoWeek n).1 < (isoWeek m).1 + 1 :=
        isoWeek1Monday_strictMono.lt_iff_lt.1 (lt_of_le_of_lt ((hside _).2 hn) hm')
      omega
    refine Prod.ext hyear ?_
    have hstart := hmonday (isoWeek n).1
    rw [hmw, hnw, hyear]
    unfold monday weekday at h
    omega

/-- The 1st of January 2027 is in the last week of 2026, and the 4th in the first of 2027. -/
example : isoWeek 739982 = (2026, 53) ∧ isoWeek 739985 = (2027, 1) := by decide

end Tiai.Lib.Calendar
