import Mathlib.Data.List.Basic

/-!
# Rows that belong to somebody

A table whose rows name their owner.  `move` hands the rows of one owner to another, `without` drops
the rows of an owner.
-/

namespace Tiai.Lib

/-- How a row names its owner, and how it is handed to another. -/
structure Owner (ρ κ : Type) where
  of : ρ → κ
  give : κ → ρ → ρ
  of_give : ∀ k r, of (give k r) = k

namespace Owner

variable {ρ κ : Type} [DecidableEq κ] (o : Owner ρ κ) {source target : κ} {rows : List ρ} {r : ρ}

/-- One row, as `move` leaves it. -/
def moved (source target : κ) (r : ρ) : ρ := if o.of r = source then o.give target r else r

/-- The rows of `source` become rows of `target`. -/
def move (source target : κ) (rows : List ρ) : List ρ := rows.map (o.moved source target)

/-- The rows of `k` are dropped. -/
def without (k : κ) (rows : List ρ) : List ρ := rows.filter fun r => o.of r ≠ k

lemma moved_of_eq (h : o.of r = source) : o.moved source target r = o.give target r := if_pos h

lemma moved_of_ne (h : o.of r ≠ source) : o.moved source target r = r := if_neg h

lemma of_moved_ne (hne : target ≠ source) (r : ρ) : o.of (o.moved source target r) ≠ source := by
  by_cases h : o.of r = source
  · rw [o.moved_of_eq h, o.of_give]
    exact hne
  · rw [o.moved_of_ne h]
    exact h

lemma move_ne (hne : target ≠ source) (h : r ∈ o.move source target rows) : o.of r ≠ source := by
  obtain ⟨x, -, rfl⟩ := List.mem_map.mp h
  exact o.of_moved_ne hne x

lemma give_mem_move (h : r ∈ rows) (hr : o.of r = source) :
    o.give target r ∈ o.move source target rows := by
  have hm := List.mem_map_of_mem (f := o.moved source target) h
  rw [o.moved_of_eq hr] at hm
  exact hm

lemma mem_move_of_ne (h : r ∈ rows) (hr : o.of r ≠ source) : r ∈ o.move source target rows := by
  have hm := List.mem_map_of_mem (f := o.moved source target) h
  rw [o.moved_of_ne hr] at hm
  exact hm

/-- A column other than the owner is left as it is. -/
lemma map_move {β : Type} (f : ρ → β) (hf : ∀ r, f (o.give target r) = f r) :
    (o.move source target rows).map f = rows.map f := by
  unfold move
  rw [List.map_map]
  refine List.map_congr_left fun r _ => ?_
  change f (o.moved source target r) = f r
  unfold moved
  split
  · exact hf r
  · rfl

lemma mem_without {k : κ} : r ∈ o.without k rows ↔ r ∈ rows ∧ o.of r ≠ k := by
  unfold without
  rw [List.mem_filter]
  simp

lemma without_eq_self {k : κ} (h : ∀ r ∈ rows, o.of r ≠ k) : o.without k rows = rows :=
  List.filter_eq_self.mpr fun r hr => by simpa using h r hr

/-- Once its rows have been handed over, nothing of the source is left to drop. -/
lemma without_move (hne : target ≠ source) :
    o.without source (o.move source target rows) = o.move source target rows :=
  o.without_eq_self fun _ hr => o.move_ne hne hr

end Owner

end Tiai.Lib
