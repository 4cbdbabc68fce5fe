import Mathlib.Data.Set.Prod

/-!
# Rights held as a rectangle

A holder of several grants whose rights and whose objects are added up separately holds a rectangle
`(⋃ rights) ×ˢ (⋃ objects)`: more than the union of the rectangles it was granted.  What a change of
one grant gives it is therefore not bounded by the new grant alone.

* `prod_grown_subset_iff` — when one side `P ×ˢ S` of a holder's grants grows to `P' ×ˢ S'`, inside
  the bound `A ×ˢ B`, everything gained is inside `A ×ˢ B` exactly when the *other* grants, `Q` and
  `T`, do not carry the gain out of it.
-/

namespace Tiai.Lib

variable {ρ ω : Type*} {P P' Q A : Set ρ} {S S' T B : Set ω}

/-- What is gained by the rights: nothing outside `B`, provided a right gained meets no object of the
other grants there. -/
lemma mem_of_gained (hP : P' ⊆ A) (hgain : (∃ p ∈ P', p ∉ P ∪ Q) → T ⊆ B) {p : ρ} {t : ω}
    (hp : p ∈ P') (ht : t ∈ T) : (p, t) ∈ ((P ∪ Q) ×ˢ (S ∪ T)) ∪ A ×ˢ B := by
  by_cases hold : p ∈ P ∪ Q
  · exact Or.inl ⟨hold, Or.inr ht⟩
  · exact Or.inr ⟨hP hp, hgain ⟨p, hp, hold⟩ ht⟩

/-- **Growth of a rectangle.** -/
theorem prod_grown_subset_iff (hP : P' ⊆ A) (hS : S' ⊆ B) :
    (P' ∪ Q) ×ˢ (S' ∪ T) ⊆ ((P ∪ Q) ×ˢ (S ∪ T)) ∪ A ×ˢ B ↔
      ((∃ p ∈ P', p ∉ P ∪ Q) → T ⊆ B) ∧ ((∃ s ∈ S', s ∉ S ∪ T) → Q ⊆ A) := by
  constructor
  · intro h
    constructor
    · rintro ⟨p, hp, hnew⟩ t ht
      rcases h (show (p, t) ∈ _ from ⟨Or.inl hp, Or.inr ht⟩) with hold | hA
      · exact absurd hold.1 hnew
      · exact hA.2
    · rintro ⟨s, hs, hnew⟩ q hq
      rcases h (show (q, s) ∈ _ from ⟨Or.inr hq, Or.inl hs⟩) with hold | hA
      · exact absurd hold.2 hnew
      · exact hA.1
  · rintro ⟨hright, hobject⟩ ⟨p, s⟩ ⟨hp, hs⟩
    rcases hp with hp | hp
    · rcases hs with hs | hs
      · exact Or.inr ⟨hP hp, hS hs⟩
      · exact mem_of_gained hP hright hp hs
    · rcases hs with hs | hs
      · by_cases hold : s ∈ S ∪ T
        · exact Or.inl ⟨Or.inr hp, hold⟩
        · exact Or.inr ⟨hobject ⟨s, hs, hold⟩ hp, hS hs⟩
      · exact Or.inl ⟨Or.inr hp, Or.inr hs⟩

end Tiai.Lib
