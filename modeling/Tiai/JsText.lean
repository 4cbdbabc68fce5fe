import Tiai.Lib.Trim
import Tiai.Text

/-!
# JavaScript strings

`String.prototype.trim`, beside `str.strip()`: it takes off U+FEFF, and leaves the separators U+001C to U+001F and U+0085.
-/

namespace Tiai

open Lib

/-- The white space and line terminators of the language. -/
def isJsSpace (c : Char) : Bool :=
  let n := c.toNat
  (9 ≤ n ∧ n ≤ 13) || n = 32 || n = 0xA0 || n = 0x1680 || (0x2000 ≤ n ∧ n ≤ 0x200A) || n = 0x2028 || n = 0x2029 ||
    n = 0x202F || n = 0x205F || n = 0x3000 || n = 0xFEFF

/-- `value.trim()`. -/
def jsTrim (s : String) : String := String.ofList (trimBy isJsSpace s.toList)

@[simp] lemma toList_jsTrim (s : String) : (jsTrim s).toList = trimBy isJsSpace s.toList := by simp [jsTrim]

lemma stripChars_eq_trimBy (cs : List Char) : stripChars cs = trimBy isSpace cs := rfl

/-- What strips to itself after a trim was not trimmed. -/
lemma jsTrim_of_strip_jsTrim {s : String} (h : strip (jsTrim s) = s) : jsTrim s = s := by
  have hchars := congrArg String.toList h
  rw [toList_strip, toList_jsTrim, stripChars_eq_trimBy] at hchars
  refine String.toList_injective ?_
  rw [toList_jsTrim]
  refine trimBy_eq_self_of_length ?_
  have hlen := length_trimBy_le isSpace (trimBy isJsSpace s.toList)
  rwa [hchars] at hlen

lemma strip_strip (s : String) : strip (strip s) = strip s := by
  refine String.toList_injective ?_
  simp only [toList_strip, stripChars_eq_trimBy]
  exact trimBy_trimBy isSpace s.toList

/-- A text without such characters is not trimmed. -/
lemma jsTrim_of_forall {s : String} (h : ∀ c ∈ s.toList, isJsSpace c = false) : jsTrim s = s := by
  refine String.toList_injective ?_
  rw [toList_jsTrim]
  refine trimBy_of_ends (fun c hc => h c (List.mem_of_mem_head? hc)) fun c hc => h c (List.mem_of_getLast? hc)

/-- A character that is no white space stays. -/
lemma mem_jsTrim {s : String} {c : Char} (h : c ∈ s.toList) (hc : isJsSpace c = false) : c ∈ (jsTrim s).toList := by
  rw [toList_jsTrim]
  exact mem_trimBy h hc

end Tiai
