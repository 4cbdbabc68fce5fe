import Mathlib.Data.List.Basic

/-!
# Python strings

`str.strip`, `str.split`, `str.join` and the slice `value[:limit]`, on the characters of a string.
-/

namespace Tiai

/-- `str.isspace`: the characters `str.strip()` removes. -/
def isSpace (c : Char) : Bool :=
  let n := c.toNat
  (9 ≤ n ∧ n ≤ 13) || (28 ≤ n ∧ n ≤ 32) || n = 0x85 || n = 0xA0 || n = 0x1680 ||
    (0x2000 ≤ n ∧ n ≤ 0x200A) || n = 0x2028 || n = 0x2029 || n = 0x202F || n = 0x205F || n = 0x3000

/-- `str.strip()`, on characters. -/
def stripChars (cs : List Char) : List Char :=
  ((cs.dropWhile isSpace).reverse.dropWhile isSpace).reverse

/-- `str.strip()`. -/
def strip (s : String) : String := String.ofList (stripChars s.toList)

/-- `value[:limit]`. -/
def truncate (limit : ℕ) (s : String) : String := String.ofList (s.toList.take limit)

/-- `str.split()`: the runs of characters between white space. -/
def words (s : String) : List String :=
  ((s.toList.splitOnP isSpace).filter (· ≠ [])).map String.ofList

/-- `" ".join(…)`. -/
def joinWords (ws : List String) : String := " ".intercalate ws

@[simp] lemma toList_strip (s : String) : (strip s).toList = stripChars s.toList := by simp [strip]

/-- A text with no white space in it is its own `strip()`. -/
theorem stripChars_of_forall {cs : List Char} (h : ∀ c ∈ cs, isSpace c = false) :
    stripChars cs = cs := by
  have drop : ∀ l : List Char, (∀ c ∈ l, isSpace c = false) → l.dropWhile isSpace = l := by
    intro l hl
    cases l with
    | nil => rfl
    | cons c l => simp [List.dropWhile, hl c (by simp)]
  unfold stripChars
  rw [drop cs h, drop cs.reverse (by simpa using h), List.reverse_reverse]

example : strip " \tAA-BB\n" = "AA-BB" := by decide

example : joinWords (words "  Salle \t B12 ") = "Salle B12" := by decide

end Tiai
