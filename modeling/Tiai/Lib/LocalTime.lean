import Mathlib.Algebra.Order.Group.Abs
import Mathlib.Algebra.Order.Group.Int
import Mathlib.Data.Int.Interval
import Mathlib.Order.Bounds.Basic

/-!
# Local time, and where it passes a mark

A zone says how far its clocks run ahead at each instant.  The offset is bounded, and changes seldom and by little, so
that around any instant it changes once at most.  Instants and offsets are numbers of milliseconds.

* `Zone.window` — the offset over three days;
* `Zone.passes` — the instant at which the clocks pass a mark, as a guess and one correction have it;
* `Zone.Settles` — the clocks do not pass the mark twice, nor jump over it, but for the jumps that do no harm;
* `Zone.passes_iff` — the guess is right exactly then: the mark is reached from that instant on, and not before;
* `Zone.day_iff` — a day has the instants between its two guesses exactly when the clocks settle at both its ends.
-/

namespace Tiai.Lib.LocalTime

/-- Fourteen hours, two hours, a day and three days. -/
abbrev offsetMax : ℤ := 50400000
abbrev jumpMax : ℤ := 7200000
abbrev oneDay : ℤ := 86400000
abbrev threeDays : ℤ := 259200000

structure Zone where
  offset : ℤ → ℤ
  bounded : ∀ t, |offset t| ≤ offsetMax
  small : ∀ t, |offset t - offset (t - 1)| ≤ jumpMax
  apart : ∀ s t, s < t → offset (s - 1) ≠ offset s → offset (t - 1) ≠ offset t → s + threeDays ≤ t

namespace Zone

variable (z : Zone)

/-- What the clocks show. -/
def clock (t : ℤ) : ℤ := t + z.offset t

/-- A guess, and one correction. -/
def passes (mark : ℤ) : ℤ := mark - z.offset (mark - z.offset mark)

/-- When the clocks go back over the mark they go back to it, and after its own instant in UTC; when they jump over it
they jump from it, and not after its own instant in UTC. -/
def Settles (mark : ℤ) : Prop := ∀ t,
  (t + z.offset t ≤ mark → mark < t + z.offset (t - 1) → t + z.offset t = mark ∧ mark < t) ∧
    (t + z.offset (t - 1) ≤ mark → mark < t + z.offset t → t + z.offset (t - 1) = mark ∧ t ≤ mark)

variable {z} {mark : ℤ}

/-! ### Around an instant -/

lemma offset_eq_of_constant {s : ℤ} (n : ℕ) (h : ∀ u, s < u → u ≤ s + n → z.offset (u - 1) = z.offset u) :
    z.offset (s + n) = z.offset s := by
  induction n with
  | zero => simp
  | succ n ih =>
    have hlast := h (s + (n + 1 : ℕ)) (by omega) le_rfl
    have hbefore := ih fun u hu hle => h u hu (by push_cast; omega)
    rw [← hlast, ← hbefore]
    congr 1
    push_cast
    omega

lemma offset_eq_of_le {s t : ℤ} (hst : s ≤ t) (h : ∀ u, s < u → u ≤ t → z.offset (u - 1) = z.offset u) :
    z.offset t = z.offset s := by
  obtain ⟨n, rfl⟩ := Int.le.dest hst
  exact offset_eq_of_constant n h

/-- **Three days** have one change at most. -/
theorem window (z : Zone) (start : ℤ) : ∃ change a b, start ≤ change ∧ change ≤ start + threeDays ∧
    |a| ≤ offsetMax ∧ |b| ≤ offsetMax ∧ |b - a| ≤ jumpMax ∧
    (∀ t, start ≤ t → t < start + threeDays → z.offset t = if t < change then a else b) ∧
    (a ≠ b → start < change ∧ change < start + threeDays) := by
  by_cases hchange : ∃ t, start < t ∧ t < start + threeDays ∧ z.offset (t - 1) ≠ z.offset t
  · obtain ⟨change, hstart, hstop, hne⟩ := hchange
    refine ⟨change, z.offset (change - 1), z.offset change, hstart.le, hstop.le, z.bounded _, z.bounded _, z.small _,
      fun t hlo hhi => ?_, fun _ => ⟨hstart, hstop⟩⟩
    unfold threeDays at hstop hhi
    split
    · -- Between the instant and the change nothing else changes.
      refine (offset_eq_of_le (by omega) fun u hu hle => ?_).symm
      by_contra hother
      have := z.apart u change (by omega) hother hne
      unfold threeDays at this
      omega
    · refine offset_eq_of_le (by omega) fun u hu hle => ?_
      by_contra hother
      have := z.apart change u hu hne hother
      unfold threeDays at this
      omega
  · refine ⟨start, z.offset start, z.offset start, le_rfl, by simp [threeDays], z.bounded _, z.bounded _, by simp,
      fun t hlo hhi => ?_, fun h => absurd rfl h⟩
    rw [ite_self]
    refine offset_eq_of_le hlo fun u hu hle => ?_
    by_contra hother
    exact hchange ⟨u, hu, lt_of_le_of_lt hle hhi, hother⟩

/-- Far from a mark the clocks are on one side of it. -/
lemma clock_bounds (z : Zone) (t : ℤ) : t - offsetMax ≤ z.clock t ∧ z.clock t ≤ t + offsetMax := by
  have := abs_le.1 (z.bounded t)
  unfold clock
  omega

/-- The three days around a mark, as far as the clocks and the guess go. -/
structure Around (z : Zone) (mark change a b : ℤ) : Prop where
  first : -offsetMax ≤ a ∧ a ≤ offsetMax
  second : -offsetMax ≤ b ∧ b ≤ offsetMax
  jump : -jumpMax ≤ b - a ∧ b - a ≤ jumpMax
  offset : ∀ t, mark - 129600000 ≤ t → t < mark + 129600000 → z.offset t = if t < change then a else b
  inside : a ≠ b → mark - 129600000 < change ∧ change < mark + 129600000

lemma exists_around (z : Zone) (mark : ℤ) : ∃ change a b, Around z mark change a b := by
  obtain ⟨change, a, b, -, -, ha, hb, hjump, hoff, hin⟩ := z.window (mark - 129600000)
  have hstop : mark - 129600000 + threeDays = mark + 129600000 := by
    unfold threeDays
    omega
  rw [hstop] at hoff hin
  exact ⟨change, a, b, abs_le.1 ha, abs_le.1 hb, abs_le.1 hjump, hoff, hin⟩

/-- The guess asks for the offset at the mark and then at the first answer. -/
lemma Around.passes {change a b : ℤ} (h : Around z mark change a b) :
    z.passes mark = mark - if mark - (if mark < change then a else b) < change then a else b := by
  have h1 := h.first
  have h2 := h.second
  have hmark := h.offset mark (by omega) (by omega)
  unfold Zone.passes
  unfold offsetMax at h1 h2
  rw [hmark, h.offset _ (by split <;> omega) (by split <;> omega)]

/-! ### The guess -/

/-- There is one change to look at. -/
lemma Around.settles_iff {change a b : ℤ} (h : Around z mark change a b) : z.Settles mark ↔
    (change + b ≤ mark → mark < change + a → change + b = mark ∧ mark < change) ∧
      (change + a ≤ mark → mark < change + b → change + a = mark ∧ change ≤ mark) := by
  have h1 := h.first
  have h2 := h.second
  have hin := h.inside
  unfold offsetMax at h1 h2
  constructor
  · intro hsettles
    by_cases hab : a = b
    · omega
    · have hbefore := h.offset (change - 1) (by omega) (by omega)
      have hafter := h.offset change (by omega) (by omega)
      rw [if_pos (by omega)] at hbefore
      rw [if_neg (by omega)] at hafter
      have := hsettles change
      rw [hbefore, hafter] at this
      exact this
  · intro hsettles t
    have ht := abs_le.1 (z.bounded t)
    have ht' := abs_le.1 (z.bounded (t - 1))
    unfold offsetMax at ht ht'
    by_cases hnear : mark - 129600000 < t ∧ t < mark + 129600000
    · have hbefore := h.offset (t - 1) (by omega) (by omega)
      have hafter := h.offset t (by omega) (by omega)
      rw [hbefore, hafter]
      rcases lt_trichotomy t change with hlt | rfl | hgt
      · rw [if_pos hlt, if_pos (by omega)]
        omega
      · rw [if_neg (by omega), if_pos (by omega)]
        exact hsettles
      · rw [if_neg (by omega), if_neg (by omega)]
        omega
    · omega

/-- **The guess** is the instant that the clocks pass the mark at, exactly when they settle. -/
theorem passes_iff : (∀ t, mark ≤ z.clock t ↔ z.passes mark ≤ t) ↔ z.Settles mark := by
  obtain ⟨change, a, b, h⟩ := z.exists_around mark
  rw [h.settles_iff, h.passes]
  have h1 := h.first
  have h2 := h.second
  have hjump := h.jump
  have hin := h.inside
  unfold offsetMax at h1 h2
  unfold jumpMax at hjump
  constructor
  · intro hpasses
    by_cases hab : a = b
    · omega
    · -- The clocks just before the change and at it.
      have hbefore := hpasses (change - 1)
      have hafter := hpasses change
      unfold clock at hbefore hafter
      by_cases hnear : mark - 129600000 < change - 1
      · rw [h.offset _ (by omega) (by omega), if_pos (by omega)] at hbefore
        rw [h.offset _ (by omega) (by omega), if_neg (by omega)] at hafter
        split_ifs at hbefore hafter <;> omega
      · omega
  · intro hsettles t
    have hfar := z.clock_bounds t
    unfold offsetMax at hfar
    by_cases hnear : mark - 129600000 ≤ t ∧ t < mark + 129600000
    · have hoff := h.offset t hnear.1 hnear.2
      unfold clock
      rw [hoff]
      split_ifs <;> omega
    · split_ifs <;> omega

/-! ### A day -/

/-- A guess is off by an offset that is in force within a day and a half of the middle of the day. -/
lemma Around.passes_near {change a b middle : ℤ} (h : Around z middle change a b)
    (hlo : middle - 43200000 ≤ mark) (hhi : mark ≤ middle + 43200000) :
    z.passes mark = mark - a ∨ z.passes mark = mark - b := by
  have h1 := h.first
  have h2 := h.second
  have hmark := h.offset mark (by omega) (by omega)
  unfold Zone.passes
  unfold offsetMax at h1 h2
  rw [hmark, h.offset _ (by split <;> omega) (by split <;> omega)]
  split_ifs <;> omega

lemma passes_lt (z : Zone) (mark : ℤ) : z.passes mark < z.passes (mark + oneDay) := by
  obtain ⟨change, a, b, h⟩ := z.exists_around (mark + 43200000)
  have hstart : z.passes mark = mark - a ∨ z.passes mark = mark - b := h.passes_near (by omega) (by omega)
  have hstop : z.passes (mark + oneDay) = mark + oneDay - a ∨ z.passes (mark + oneDay) = mark + oneDay - b :=
    h.passes_near (by unfold oneDay; omega) (by unfold oneDay; omega)
  have hjump := h.jump
  unfold jumpMax oneDay at *
  omega

/-- The first answer shows the day before at the earliest, as late as the clocks jump. -/
lemma clock_first (z : Zone) (mark : ℤ) : mark - jumpMax ≤ z.clock (mark - z.offset mark) := by
  obtain ⟨change, a, b, h⟩ := z.exists_around mark
  have h1 := h.first
  have h2 := h.second
  have hjump := h.jump
  have hmark := h.offset mark (by omega) (by omega)
  unfold offsetMax at h1 h2
  unfold clock
  rw [hmark, h.offset _ (by split <;> omega) (by split <;> omega)]
  split_ifs <;> omega

/-- **A day** has the instants between its two guesses exactly when the clocks settle at both its ends. -/
theorem day_iff : (∀ t, z.passes mark ≤ t ∧ t < z.passes (mark + oneDay) ↔
    mark ≤ z.clock t ∧ z.clock t < mark + oneDay) ↔ z.Settles mark ∧ z.Settles (mark + oneDay) := by
  rw [← passes_iff, ← passes_iff]
  obtain ⟨change, a, b, h⟩ := z.exists_around (mark + 43200000)
  have hstart : z.passes mark = mark - a ∨ z.passes mark = mark - b := h.passes_near (by omega) (by omega)
  have hstop : z.passes (mark + oneDay) = mark + oneDay - a ∨ z.passes (mark + oneDay) = mark + oneDay - b :=
    h.passes_near (by unfold oneDay; omega) (by unfold oneDay; omega)
  have h1 := h.first
  have h2 := h.second
  have hjump := h.jump
  unfold offsetMax at h1 h2
  unfold jumpMax at hjump
  unfold oneDay at *
  constructor
  · intro hday
    rw [← forall_and]
    intro t
    have hfar := z.clock_bounds t
    have ht := hday t
    unfold offsetMax at hfar
    by_cases hnear : mark - 86400000 ≤ t ∧ t < mark + 172800000
    · -- Within the three days the clocks cannot be a whole day off.
      have hoff := h.offset t (by omega) (by omega)
      have hclock : z.clock t = t + a ∨ z.clock t = t + b := by
        unfold clock
        rw [hoff]
        split_ifs <;> omega
      omega
    · omega
  · rintro ⟨hmark, hnext⟩ t
    rw [hmark, ← not_le, ← not_le, hnext]

end Zone

end Tiai.Lib.LocalTime
