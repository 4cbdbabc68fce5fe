import Mathlib.Logic.Basic

/-!
# One column of a row, under column-wise write-back

A transaction reads a column, computes a new value, and at commit writes the column only if the value
differs from the one it read.  Meanwhile another transaction may have committed to it: `writeBack
read new current` is what the column holds after the commit.

The one surprise is `writeBack_of_eq`: a transaction that sets a column to the value it already had
writes nothing, so a concurrent value survives it.  `writeBack_eq_new` says when it does not.
-/

namespace Tiai.Lib

variable {α : Type*} [DecidableEq α]

def writeBack (read new current : α) : α := if new = read then current else new

lemma writeBack_of_eq (read current : α) : writeBack read read current = current := if_pos rfl

lemma writeBack_of_ne {read new : α} (h : new ≠ read) (current : α) :
    writeBack read new current = new := if_neg h

/-- The write takes effect, unless it was elided and somebody else has written since. -/
lemma writeBack_eq_new {read new current : α} (h : read = new → current = new) :
    writeBack read new current = new := by
  unfold writeBack
  split
  · rename_i he
    exact h he.symm
  · rfl

lemma writeBack_cases (read new current : α) :
    (new = read ∧ writeBack read new current = current) ∨
      (new ≠ read ∧ writeBack read new current = new) := by
  by_cases h : new = read
  · exact Or.inl ⟨h, if_pos h⟩
  · exact Or.inr ⟨h, if_neg h⟩

end Tiai.Lib
