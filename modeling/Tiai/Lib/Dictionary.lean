import Mathlib

/-!
# Dictionary order, and what is told apart

Lists are compared member by member, and a list comes after those it goes on from.  When the members are looked at
through a function that keeps the order but may make two of them one, so are the lists, unless the first members that
differ stay apart.

* `ToldApart` — the first members that differ stay apart;
* `map_eq_map_iff`, `map_lt_map_iff` — then the lists are compared alike.
-/

namespace Tiai.Lib

variable {α β : Type*} {f : α → β} {l m : List α}

/-- The first members that differ, where there are two, have different images. -/
def ToldApart (f : α → β) : List α → List α → Prop
  | a :: l, b :: m => (a ≠ b → f a ≠ f b) ∧ (a = b → ToldApart f l m)
  | _, _ => True

lemma map_eq_map_iff (h : ToldApart f l m) : l.map f = m.map f ↔ l = m := by
  induction l generalizing m with
  | nil => cases m with
    | nil => simp
    | cons b m => simp
  | cons a l ih => cases m with
    | nil => simp
    | cons b m =>
      rw [List.map_cons, List.map_cons, List.cons.injEq, List.cons.injEq]
      by_cases hab : a = b
      · rw [hab, and_iff_right rfl, and_iff_right rfl]
        exact ih (h.2 hab)
      · exact ⟨fun heq => absurd heq.1 (h.1 hab), fun heq => absurd heq.1 hab⟩

/-- **What is told apart** is compared as it was. -/
theorem map_lt_map_iff [LinearOrder α] [LinearOrder β] (hf : Monotone f) (h : ToldApart f l m) :
    l.map f < m.map f ↔ l < m := by
  induction l generalizing m with
  | nil => cases m with
    | nil => simp
    | cons b m => simp
  | cons a l ih => cases m with
    | nil => simp
    | cons b m =>
      rw [List.map_cons, List.map_cons, List.cons_lt_cons_iff, List.cons_lt_cons_iff]
      by_cases hab : a = b
      · subst hab
        simp only [lt_irrefl, false_or, true_and]
        exact ih (h.2 rfl)
      · have hlt : f a < f b ↔ a < b := by
          constructor
          · exact fun hfab => lt_of_not_ge fun hba => absurd (hf hba) hfab.not_ge
          · exact fun hlt => lt_of_le_of_ne (hf hlt.le) (h.1 hab)
        simp only [hab, h.1 hab, false_and, or_false]
        exact hlt

end Tiai.Lib
