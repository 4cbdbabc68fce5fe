import Mathlib.Data.Finset.Card
import Mathlib.Data.Finset.Image

/-!
# The first candidate that is not taken

A sequence of candidates without repetition, tried in turn against a finite list of those taken.  Each
failure uses up one of the taken ones, so the search ends.

* `firstFree` — the loop;
* `firstFree_notMem`, `firstFree_eq` — it ends on the first candidate that is free.
-/

namespace Tiai.Lib

variable {α : Type} [DecidableEq α]

/-- A sequence of candidates, no two of them the same. -/
structure Candidates (α : Type) where
  candidate : ℕ → α
  injective : Function.Injective candidate

/-- The taken ones that are not among the first `n` candidates. -/
def untried (c : Candidates α) (taken : List α) (n : ℕ) : Finset α :=
  taken.toFinset \ (Finset.range n).image c.candidate

/-- A taken candidate is no longer untried after its turn. -/
lemma untried_succ_ssubset {c : Candidates α} {taken : List α} {n : ℕ} (h : c.candidate n ∈ taken) :
    untried c taken (n + 1) ⊂ untried c taken n := by
  rw [Finset.ssubset_iff_of_subset]
  · refine ⟨c.candidate n, ?_, ?_⟩
    · rw [untried, Finset.mem_sdiff, List.mem_toFinset, Finset.mem_image]
      refine ⟨h, ?_⟩
      rintro ⟨k, hk, heq⟩
      have := Finset.mem_range.1 hk
      have := c.injective heq
      omega
    · rw [untried, Finset.mem_sdiff]
      rintro ⟨-, hnot⟩
      exact hnot (Finset.mem_image_of_mem _ (Finset.mem_range.2 n.lt_succ_self))
  · refine Finset.sdiff_subset_sdiff (Finset.Subset.refl _) (Finset.image_subset_image ?_)
    exact Finset.range_subset_range.2 (Nat.le_succ n)

/-- The search, from the `n`th candidate on. -/
def firstFree (c : Candidates α) (taken : List α) (n : ℕ) : α :=
  if c.candidate n ∈ taken then firstFree c taken (n + 1) else c.candidate n
termination_by (untried c taken n).card
decreasing_by
  rename_i h
  exact Finset.card_lt_card (untried_succ_ssubset h)

variable {c : Candidates α} {taken : List α}

theorem firstFree_notMem (c : Candidates α) (taken : List α) (n : ℕ) : firstFree c taken n ∉ taken := by
  fun_induction firstFree c taken n with
  | case1 n h ih => exact ih
  | case2 n h => exact h

/-- **The search ends** on a candidate that is free, every one before it being taken. -/
theorem firstFree_eq (c : Candidates α) (taken : List α) (n : ℕ) :
    ∃ k, firstFree c taken n = c.candidate (n + k) ∧ ∀ i < k, c.candidate (n + i) ∈ taken := by
  fun_induction firstFree c taken n with
  | case1 n h ih =>
    obtain ⟨k, hk, hbefore⟩ := ih
    refine ⟨k + 1, ?_, ?_⟩
    · rw [hk]
      congr 1
      omega
    · intro i hi
      cases i with
      | zero => exact h
      | succ i =>
        have := hbefore i (by omega)
        rwa [show n + (i + 1) = n + 1 + i by omega]
  | case2 n h => exact ⟨0, rfl, fun i hi => absurd hi (Nat.not_lt_zero i)⟩

end Tiai.Lib
