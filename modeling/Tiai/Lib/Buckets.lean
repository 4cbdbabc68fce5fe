import Mathlib
import Tiai.Lib.Store

/-!
# Sums over a map of integers

A finite map whose values are counted: what is at a key (`amount`), and the sum over the keys a
predicate selects (`sumOver`), which a write changes by the difference it makes at one key.
-/

namespace Tiai.Lib.Store

variable {κ ν : Type}

/-! ### Keys -/

def keys (s : Store κ ν) : List κ := s.map Prod.fst

lemma nodup_keys_drop {s : Store κ ν} (h : s.keys.Nodup) (p : κ → Bool) : (s.drop p).keys.Nodup :=
  h.sublist (List.filter_sublist.map _)

lemma mem_keys_drop {s : Store κ ν} {p : κ → Bool} {k : κ} (h : k ∈ (s.drop p).keys) : p k = false := by
  obtain ⟨e, he, rfl⟩ := List.mem_map.mp h
  simpa using (List.mem_filter.mp he).2

lemma mem_drop {s : Store κ ν} {p : κ → Bool} {e : κ × ν} :
    e ∈ s.drop p ↔ e ∈ s ∧ p e.1 = false := by
  unfold drop
  rw [List.mem_filter]
  simp

/-! ### Sums -/

/-- The sum over the keys that `p` selects. -/
def sumOver (p : κ → Bool) (s : Store κ ℤ) : ℤ := ((s.filter (p ·.1)).map Prod.snd).sum

variable {p : κ → Bool}

@[simp] lemma sumOver_nil : sumOver p ([] : Store κ ℤ) = 0 := rfl

lemma sumOver_cons (e : κ × ℤ) (s : Store κ ℤ) :
    sumOver p (e :: s) = (if p e.1 then e.2 else 0) + sumOver p s := by
  unfold sumOver
  by_cases h : p e.1 = true
  · simp [h]
  · simp [h]

/-- Nothing is selected where no key is. -/
lemma sumOver_eq_zero {s : Store κ ℤ} (h : ∀ e ∈ s, p e.1 = false) : sumOver p s = 0 := by
  unfold sumOver
  rw [List.filter_eq_nil_iff.mpr fun e he => by simp [h e he]]
  rfl

/-! ### What a write changes -/

variable [DecidableEq κ]

lemma nodup_keys_put {s : Store κ ν} (h : s.keys.Nodup) (k : κ) (v : ν) : (s.put k v).keys.Nodup := by
  refine List.nodup_cons.mpr ⟨fun hk => ?_, nodup_keys_drop h _⟩
  have := mem_keys_drop hk
  simp at this

lemma get_eq_none {s : Store κ ν} {k : κ} : s.get k = none ↔ k ∉ s.keys := by
  constructor
  · intro h hk
    obtain ⟨e, he, rfl⟩ := List.mem_map.mp hk
    have := List.find?_eq_none.mp (Option.map_eq_none_iff.mp h) e he
    simp at this
  · intro h
    refine Option.map_eq_none_iff.mpr (List.find?_eq_none.mpr fun e he hk => h ?_)
    obtain rfl : e.1 = k := by simpa using hk
    exact List.mem_map_of_mem he

lemma get_of_mem {s : Store κ ν} (hs : s.keys.Nodup) {k : κ} {v : ν} (h : (k, v) ∈ s) :
    s.get k = some v := by
  induction s with
  | nil => cases h
  | cons e s ih =>
    obtain ⟨hnot, hs⟩ := List.nodup_cons.mp hs
    rcases List.mem_cons.mp h with rfl | h
    · simp [get]
    · have hne : e.1 ≠ k := by
        rintro rfl
        exact hnot (List.mem_map.mpr ⟨_, h, rfl⟩)
      have := ih hs h
      unfold get at this ⊢
      rw [List.find?_cons_of_neg (by simpa using hne)]
      exact this

/-- Where the key is not, there is nothing to drop. -/
lemma drop_eq_self {s : Store κ ν} {k : κ} (h : k ∉ s.keys) : s.drop (· = k) = s := by
  refine List.filter_eq_self.mpr fun e he => ?_
  have : e.1 ≠ k := by
    rintro rfl
    exact h (List.mem_map_of_mem he)
  simpa using this

/-- What is at a key; nothing is zero. -/
def amount (s : Store κ ℤ) (k : κ) : ℤ := (s.get k).getD 0

lemma amount_of_mem {s : Store κ ℤ} (hs : s.keys.Nodup) {k : κ} {n : ℤ} (h : (k, n) ∈ s) : s.amount k = n := by
  rw [amount, get_of_mem hs h]
  rfl

lemma sumOver_drop {s : Store κ ℤ} (hs : s.keys.Nodup) (k : κ) :
    sumOver p (s.drop (· = k)) = sumOver p s - if p k then s.amount k else 0 := by
  induction s with
  | nil => simp [drop, amount]
  | cons e s ih =>
    obtain ⟨hnot, hs⟩ := List.nodup_cons.mp hs
    by_cases he : e.1 = k
    · -- the key is here, and nowhere else
      subst he
      have hdrop : drop (e :: s) (· = e.1) = s := by
        rw [drop, List.filter_cons_of_neg (by simp)]
        exact drop_eq_self hnot
      have hamount : amount (e :: s) e.1 = e.2 := by simp [amount, get]
      rw [hdrop, hamount, sumOver_cons]
      omega
    · have hdrop : drop (e :: s) (· = k) = e :: drop s (· = k) := by
        rw [drop, List.filter_cons_of_pos (by simpa using he)]
        rfl
      have hamount : amount (e :: s) k = amount s k := by
        unfold amount get
        rw [List.find?_cons_of_neg (by simpa using he)]
      rw [hdrop, hamount, sumOver_cons, sumOver_cons, ih hs]
      omega

/-- A write changes the sum by the difference it makes. -/
lemma sumOver_put {s : Store κ ℤ} (hs : s.keys.Nodup) (k : κ) (v : ℤ) :
    sumOver p (s.put k v) = sumOver p s + if p k then v - s.amount k else 0 := by
  rw [put, sumOver_cons, sumOver_drop hs]
  split <;> omega

@[simp] lemma amount_put_self (s : Store κ ℤ) (k : κ) (v : ℤ) : (s.put k v).amount k = v := by
  simp [amount]

lemma amount_put_of_ne (s : Store κ ℤ) (v : ℤ) {k k' : κ} (h : k' ≠ k) :
    (s.put k v).amount k' = s.amount k' := by
  unfold amount
  rw [get_put_of_ne s v h]

end Tiai.Lib.Store
