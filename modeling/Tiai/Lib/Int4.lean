import Mathlib.Algebra.Order.Ring.Int
import Tiai.Lib.Sql

/-!
# SQL's four-byte integers

A product of two `INTEGER`s is an `INTEGER`, and out of range it is an error.  A query whose clause is an error on one
row is an error.

* `mulInt4_eq_ok_iff` — when a product is one, and which;
* `selectChecked_eq_ok_iff` — when a query answers, and what.
-/

namespace Tiai.Lib.Sql

/-- The values of `INTEGER`. -/
def IsInt4 (n : ℤ) : Prop := -2147483648 ≤ n ∧ n ≤ 2147483647

instance (n : ℤ) : Decidable (IsInt4 n) := inferInstanceAs (Decidable (_ ∧ _))

/-- `integer out of range`. -/
inductive OutOfRange
  | outOfRange
deriving DecidableEq, Repr

/-- `x * y`: null when either is. -/
def mulInt4 : Option ℤ → Option ℤ → Except OutOfRange (Option ℤ)
  | some x, some y => if IsInt4 (x * y) then .ok (some (x * y)) else .error .outOfRange
  | _, _ => .ok none

/-- `x * y`, were there no range. -/
def mulExact (x y : Option ℤ) : Option ℤ := do return (← x) * (← y)

/-- `… WHERE clause`, of a clause that may fail. -/
def selectChecked {α ε : Type} (clause : α → Except ε Truth) : List α → Except ε (List α)
  | [] => .ok []
  | a :: rows => do
    let truth ← clause a
    let kept ← selectChecked clause rows
    return if truth = some true then a :: kept else kept

lemma mulInt4_eq_ok_iff {x y z : Option ℤ} :
    mulInt4 x y = .ok z ↔ (∀ n ∈ mulExact x y, IsInt4 n) ∧ mulExact x y = z := by
  cases x with
  | none => simp [mulInt4, mulExact]
  | some a =>
    cases y with
    | none => simp [mulInt4, mulExact]
    | some b =>
      by_cases h : IsInt4 (a * b)
      · simp [mulInt4, mulExact, h]
      · simp [mulInt4, mulExact, h]

lemma selectChecked_eq_ok_iff {α ε : Type} {clause : α → Except ε Truth} {exact_ : α → Truth} {fits : α → Prop}
    (h : ∀ a truth, clause a = .ok truth ↔ fits a ∧ exact_ a = truth) {rows kept : List α} :
    selectChecked clause rows = .ok kept ↔ (∀ a ∈ rows, fits a) ∧ select exact_ rows = kept := by
  induction rows generalizing kept with
  | nil => simp [selectChecked, select]
  | cons a rows ih =>
    cases hclause : clause a with
    | error e =>
      have hfits : ¬ fits a := by
        intro hfits
        have hok := (h a (exact_ a)).2 ⟨hfits, rfl⟩
        rw [hclause] at hok
        cases hok
      rw [selectChecked, hclause]
      exact iff_of_false (fun herror => by cases herror) fun hall => hfits (hall.1 a List.mem_cons_self)
    | ok truth =>
      obtain ⟨hfits, rfl⟩ := (h a truth).1 hclause
      rw [selectChecked, hclause]
      cases hrest : selectChecked clause rows with
      | error e =>
        have hrows : ¬ ∀ b ∈ rows, fits b := by
          intro hrows
          rw [ih.2 ⟨hrows, rfl⟩] at hrest
          cases hrest
        exact iff_of_false (fun herror => by cases herror)
          fun hall => hrows fun b hb => hall.1 b (List.mem_cons_of_mem a hb)
      | ok rest =>
        obtain ⟨hrows, hkept⟩ := ih.1 hrest
        have hall : ∀ b ∈ a :: rows, fits b := List.forall_mem_cons.2 ⟨hfits, hrows⟩
        rw [and_iff_right hall, select, List.filter_cons, ← select, hkept]
        constructor
        · intro hok
          simpa using Except.ok.inj hok
        · rintro rfl
          simp [pure, Except.pure, bind, Except.bind]

end Tiai.Lib.Sql
