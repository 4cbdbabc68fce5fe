import Mathlib.Order.Lattice
import Mathlib.Order.MinMax

/-!
# The greatest of a list, and what changes it

`List.max?` as a summary that is kept up to date instead of computed: what it becomes when an element is added,
when two lists are put together, when an element is dropped, and when one takes the place of another.  It depends
on the elements alone, whatever their order.
-/

namespace Tiai.Lib

variable {α : Type} [LinearOrder α] {l l' : List α} {a b : α}

lemma max?_eq_some : l.max? = some a ↔ a ∈ l ∧ ∀ b ∈ l, b ≤ a := List.max?_eq_some_iff

/-- The greatest depends on the elements alone. -/
lemma max?_congr (h : ∀ v, v ∈ l ↔ v ∈ l') : l.max? = l'.max? := by
  refine Option.ext fun v => ?_
  rw [max?_eq_some, max?_eq_some, h]
  simp only [h]

/-- The greater of two that may be missing. -/
def later (x y : Option α) : Option α :=
  match x, y with
  | none, y => y
  | some x, none => some x
  | some x, some y => some (max x y)

/-- Of two lists put together, it is the greater of theirs. -/
lemma max?_union {t s : List α} (h : ∀ v, v ∈ l ↔ v ∈ t ∨ v ∈ s) : l.max? = later t.max? s.max? := by
  cases ht : t.max? with
  | none =>
    rw [List.max?_eq_none_iff] at ht
    exact max?_congr fun v => by rw [h, ht]; simp
  | some a =>
    cases hs : s.max? with
    | none =>
      rw [List.max?_eq_none_iff] at hs
      rw [later, ← ht]
      exact max?_congr fun v => by rw [h, hs]; simp
    | some b =>
      obtain ⟨ha, hta⟩ := max?_eq_some.1 ht
      obtain ⟨hb, hsb⟩ := max?_eq_some.1 hs
      rw [later, max?_eq_some]
      constructor
      · rcases max_choice a b with hmax | hmax
        · rw [hmax]
          exact (h a).2 (.inl ha)
        · rw [hmax]
          exact (h b).2 (.inr hb)
      · intro v hv
        rcases (h v).1 hv with hv | hv
        · exact (hta v hv).trans (le_max_left a b)
        · exact (hsb v hv).trans (le_max_right a b)

/-- An element can be dropped when another is no less. -/
lemma max?_drop_iff : (a :: l).max? = l.max? ↔ ∃ w ∈ l, a ≤ w := by
  constructor
  · intro h
    cases hl : l.max? with
    | none =>
      rw [hl, List.max?_eq_none_iff] at h
      cases h
    | some m =>
      rw [hl] at h
      exact ⟨m, (max?_eq_some.1 hl).1, (max?_eq_some.1 h).2 a List.mem_cons_self⟩
  · rintro ⟨w, hw, haw⟩
    refine Option.ext fun v => ?_
    rw [max?_eq_some, max?_eq_some]
    constructor
    · rintro ⟨hv, hle⟩
      refine ⟨?_, fun b hb => hle b (List.mem_cons_of_mem a hb)⟩
      rcases List.mem_cons.1 hv with rfl | hv
      · rwa [le_antisymm haw (hle w (List.mem_cons_of_mem v hw))]
      · exact hv
    · rintro ⟨hv, hle⟩
      refine ⟨List.mem_cons_of_mem a hv, fun b hb => ?_⟩
      rcases List.mem_cons.1 hb with rfl | hb
      · exact haw.trans (hle w hw)
      · exact hle b hb

/-- One can take the place of another when they are equal, or when a third is no less than both. -/
lemma max?_replace_iff : (b :: l).max? = (a :: l).max? ↔ a = b ∨ ∃ w ∈ l, max a b ≤ w := by
  constructor
  · intro h
    by_cases hsome : ∃ w ∈ l, max a b ≤ w
    · exact .inr hsome
    · left
      have hmax : ∀ {x y : α}, (x :: l).max? = (y :: l).max? → (¬ ∃ w ∈ l, max x y ≤ w) → x ≤ y := by
        intro x y hxy hno
        obtain ⟨m, hm⟩ : ∃ m, (x :: l).max? = some m :=
          Option.ne_none_iff_exists'.1 (by rw [Ne, List.max?_eq_none_iff]; exact List.cons_ne_nil _ _)
        have hx := (max?_eq_some.1 hm).2 x List.mem_cons_self
        rw [hxy] at hm
        obtain ⟨hmem, hle⟩ := max?_eq_some.1 hm
        rcases List.mem_cons.1 hmem with rfl | hmem
        · exact hx
        · exact absurd ⟨m, hmem, max_le hx (hle y List.mem_cons_self)⟩ hno
      refine le_antisymm (hmax h.symm hsome) (hmax h ?_)
      rwa [max_comm]
  · rintro (rfl | ⟨w, hw, hle⟩)
    · rfl
    · rw [max?_drop_iff.2 ⟨w, hw, (le_max_right a b).trans hle⟩, max?_drop_iff.2 ⟨w, hw, (le_max_left a b).trans hle⟩]

end Tiai.Lib
