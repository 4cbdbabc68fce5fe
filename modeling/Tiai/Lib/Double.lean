import Mathlib

/-!
# Natural numbers as doubles

A double has 53 binary digits, and no number from 2¹⁰²⁴ on; a number between two goes to the nearer, and from half-way
to the one whose last digit is even.

* `rounded`, `toDouble` — the double of a number;
* `rounded_mono`, `toDouble_mono` — the order is kept, but for numbers that become one;
* `rounded_of_lt`, `toDouble_ne_top` — small numbers are doubles, and only great ones have none.
-/

namespace Tiai.Lib.Double

/-- What the last of the 53 digits counts. -/
def lastPlace (n : ℕ) : ℕ := 2 ^ (Nat.log 2 n - 52)

def rounded (n : ℕ) : ℕ :=
  let u := lastPlace n
  let q := n / u
  let r := n % u
  if u < 2 * r ∨ 2 * r = u ∧ q % 2 = 1 then (q + 1) * u else q * u

/-- The double, or infinity. -/
def toDouble (n : ℕ) : WithTop ℕ := if rounded n < 2 ^ 1024 then WithTop.some (rounded n) else ⊤

/-! ### The order -/

lemma lastPlace_pos (n : ℕ) : 0 < lastPlace n := Nat.two_pow_pos _

/-- A double below or above. -/
lemma rounded_bounds (n : ℕ) :
    n / lastPlace n * lastPlace n ≤ rounded n ∧ rounded n ≤ (n / lastPlace n + 1) * lastPlace n := by
  unfold rounded
  simp only
  have hle : n / lastPlace n * lastPlace n ≤ (n / lastPlace n + 1) * lastPlace n :=
    Nat.mul_le_mul_right _ (Nat.le_succ _)
  split
  · exact ⟨hle, le_rfl⟩
  · exact ⟨le_rfl, hle⟩

/-- Rounding stays within the powers of two. -/
lemma rounded_le_pow {n e : ℕ} (h : n < 2 ^ e) (hlog : Nat.log 2 n - 52 ≤ e) : rounded n ≤ 2 ^ e := by
  refine (rounded_bounds n).2.trans ?_
  have hsplit : 2 ^ e = 2 ^ (e - (Nat.log 2 n - 52)) * lastPlace n := by
    rw [lastPlace, ← Nat.pow_add, Nat.sub_add_cancel hlog]
  rw [hsplit]
  refine Nat.mul_le_mul_right _ ?_
  rw [Nat.succ_le_iff, Nat.div_lt_iff_lt_mul (lastPlace_pos n), ← hsplit]
  exact h

lemma pow_le_rounded {n e : ℕ} (h : 2 ^ e ≤ n) (hlog : Nat.log 2 n - 52 ≤ e) : 2 ^ e ≤ rounded n := by
  refine le_trans ?_ (rounded_bounds n).1
  have hsplit : 2 ^ e = 2 ^ (e - (Nat.log 2 n - 52)) * lastPlace n := by
    rw [lastPlace, ← Nat.pow_add, Nat.sub_add_cancel hlog]
  rw [hsplit]
  refine Nat.mul_le_mul_right _ ?_
  rw [Nat.le_div_iff_mul_le (lastPlace_pos n), ← hsplit]
  exact h

/-- Within one place the order is kept. -/
lemma rounded_mono_of_eq {a b : ℕ} (h : a ≤ b) (hplace : lastPlace a = lastPlace b) : rounded a ≤ rounded b := by
  rcases (Nat.div_le_div_right (c := lastPlace b) h).lt_or_eq with hlt | heq
  · calc rounded a ≤ (a / lastPlace b + 1) * lastPlace b := by
          rw [← hplace]
          exact (rounded_bounds a).2
      _ ≤ b / lastPlace b * lastPlace b := Nat.mul_le_mul_right _ hlt
      _ ≤ rounded b := (rounded_bounds b).1
  · -- The same digits, and no more left over.
    have hrest : a % lastPlace b ≤ b % lastPlace b := by
      have ha := Nat.div_add_mod a (lastPlace b)
      have hb := Nat.div_add_mod b (lastPlace b)
      rw [heq] at ha
      omega
    have hle : b / lastPlace b * lastPlace b ≤ (b / lastPlace b + 1) * lastPlace b :=
      Nat.mul_le_mul_right _ (Nat.le_succ _)
    unfold rounded
    simp only [hplace, heq]
    split_ifs with ha hb
    · exact le_rfl
    · omega
    · exact hle
    · exact le_rfl

/-- **Rounding keeps the order**, but for numbers that become one. -/
theorem rounded_mono : Monotone rounded := by
  intro a b h
  have hlog : Nat.log 2 a ≤ Nat.log 2 b := Nat.log_mono_right h
  by_cases hplace : lastPlace a = lastPlace b
  · exact rounded_mono_of_eq h hplace
  · have hlt : Nat.log 2 a < Nat.log 2 b := by
      refine lt_of_le_of_ne hlog fun heq => hplace ?_
      rw [lastPlace, lastPlace, heq]
    have hb : b ≠ 0 := by
      rintro rfl
      rw [Nat.log_zero_right] at hlt
      omega
    calc rounded a ≤ 2 ^ (Nat.log 2 a + 1) := rounded_le_pow (Nat.lt_pow_succ_log_self (by omega) a) (by omega)
      _ ≤ 2 ^ Nat.log 2 b := Nat.pow_le_pow_right (by omega) hlt
      _ ≤ rounded b := pow_le_rounded (Nat.pow_log_le_self 2 hb) (by omega)

theorem toDouble_mono : Monotone toDouble := by
  intro a b h
  have hrounded := rounded_mono h
  unfold toDouble
  split_ifs with ha hb
  · exact WithTop.coe_le_coe.2 hrounded
  · exact le_top
  · omega
  · exact le_rfl

/-! ### Small numbers -/

lemma rounded_of_lt {n : ℕ} (h : n < 2 ^ 53) : rounded n = n := by
  have hplace : lastPlace n = 1 := by
    have hlog : Nat.log 2 n < 53 := Nat.log_lt_of_lt_pow' (by omega) h
    rw [lastPlace, Nat.sub_eq_zero_of_le (by omega), Nat.pow_zero]
  simp [rounded, hplace, Nat.mod_one]

lemma toDouble_of_le {n e : ℕ} (h : rounded n ≤ 2 ^ e) (he : e < 1024) : toDouble n = WithTop.some (rounded n) :=
  if_pos (lt_of_le_of_lt h (Nat.pow_lt_pow_right Nat.one_lt_two he))

/-- A number below a power of two that is a double has one. -/
lemma toDouble_ne_top {n e : ℕ} (h : n < 2 ^ e) (he : e < 1024) : toDouble n ≠ ⊤ := by
  have hle : rounded n ≤ 2 ^ e := by
    rcases Nat.eq_zero_or_pos n with rfl | hpos
    · rw [rounded_of_lt (Nat.two_pow_pos 53)]
      exact Nat.zero_le _
    · have hlog : Nat.log 2 n < e := Nat.log_lt_of_lt_pow hpos.ne' h
      exact rounded_le_pow h (by omega)
  rw [toDouble_of_le hle he]
  exact WithTop.coe_ne_top

/-- 2⁵³ + 1 is no double, and from half-way the even one is taken. -/
example : rounded (2 ^ 53 + 1) = 2 ^ 53 ∧ rounded (2 ^ 53 + 3) = 2 ^ 53 + 4 := by decide +kernel

end Tiai.Lib.Double
