import Mathlib.Data.List.Basic
import Mathlib.Data.Nat.Basic
import Tiai.Lib.Path

/-!
# What a name may look like

The patterns of `internal/deploy/deploy.go`, as predicates on characters, with Go's meaning: `$` is the
end of the text.  The Unicode tables behind `strings.ToLower` and the like are not the repository's.
-/

namespace Tiai.Deploy

open Tiai.Lib

/-- What the agent uses of Go's `unicode`, `strings`, `fmt` and `url`. -/
structure GoText where
  /-- `unicode.ToLower`. -/
  toLower : Char → Char
  /-- `unicode.ToUpper`. -/
  toUpper : Char → Char
  /-- `strings.EqualFold`. -/
  equalFold : String → String → Bool
  /-- `%q`. -/
  quote : String → String
  /-- `url.PathEscape`. -/
  pathEscape : String → String
  toLower_ascii : ∀ c : Char, c.toNat < 128 → toLower c = c.toLower

/-- The tables' ASCII part. -/
def GoText.ascii : GoText where
  toLower := Char.toLower
  toUpper := Char.toUpper
  equalFold s t := s.toList.map Char.toLower = t.toList.map Char.toLower
  quote s := "\"" ++ s ++ "\""
  pathEscape s := s
  toLower_ascii _ _ := rfl

/-- `strings.ToLower`. -/
def GoText.lower (go : GoText) (s : String) : String := String.ofList (s.toList.map go.toLower)

/-- `strings.ToUpper`. -/
def GoText.upper (go : GoText) (s : String) : String := String.ofList (s.toList.map go.toUpper)

/-- `unicode.IsSpace`. -/
def goIsSpace (c : Char) : Bool :=
  let n := c.toNat
  (9 ≤ n ∧ n ≤ 13) || n = 32 || n = 0x85 || n = 0xA0 || n = 0x1680 || (0x2000 ≤ n ∧ n ≤ 0x200A) ||
    n = 0x2028 || n = 0x2029 || n = 0x202F || n = 0x205F || n = 0x3000

/-- `strings.TrimSpace`. -/
def trimSpace (s : String) : String :=
  String.ofList ((s.toList.dropWhile goIsSpace).reverse.dropWhile goIsSpace).reverse

/-! ### Patterns -/

def isDigit (c : Char) : Bool := '0' ≤ c ∧ c ≤ '9'

/-- `[A-Za-z0-9]`. -/
def isAlnum (c : Char) : Bool :=
  ('A' ≤ c ∧ c ≤ 'Z') || ('a' ≤ c ∧ c ≤ 'z') || isDigit c

/-- `[0-9A-Fa-f]`. -/
def isHex (c : Char) : Bool := isDigit c || ('A' ≤ c ∧ c ≤ 'F') || ('a' ≤ c ∧ c ≤ 'f')

/-- `^[A-Za-z0-9]…{0,max}$`: a first letter or digit, then at most `max` characters that `p` accepts. -/
def startsAlnum (p : Char → Bool) (max : ℕ) (s : String) : Bool :=
  match s.toList with
  | [] => false
  | c :: cs => isAlnum c && cs.all p && cs.length ≤ max

/-- `fileName`. -/
def fileName : String → Bool := startsAlnum (fun c => isAlnum c || c ∈ " ._()+-".toList) 254

/-- `wingetID`. -/
def wingetID : String → Bool := startsAlnum (fun c => isAlnum c || c ∈ "._+-".toList) 127

/-- `wingetVersion`. -/
def wingetVersion : String → Bool := startsAlnum (fun c => isAlnum c || c ∈ "._+-".toList) 63

/-- `(con|prn|aux|nul|com\d|lpt\d)`, in lower case. -/
def reservedStem (stem : List Char) : Bool :=
  stem ∈ ["con", "prn", "aux", "nul"].map String.toList ||
    ((stem.take 3 = "com".toList || stem.take 3 = "lpt".toList) && stem.length = 4 &&
      (stem.drop 3).all isDigit)

/-- `reservedName`: a device, alone or with an extension. -/
def reservedName (s : String) : Bool :=
  reservedStem ((s.toList.takeWhile (· ≠ '.')).map Char.toLower) &&
    (s.toList.dropWhile (· ≠ '.')).all (· ≠ '\n')

/-- `sha256Hex`. -/
def sha256Hex (s : String) : Bool :=
  s.length = 64 && s.toList.all fun c => isDigit c || ('a' ≤ c ∧ c ≤ 'f')

/-- `productCode`: a GUID between braces. -/
def productCode (s : String) : Bool :=
  match s.toList with
  | '\x7b' :: cs =>
    (cs.splitOn '-').map List.length = [8, 4, 4, 4, 13] && cs.getLast? = some '\x7d' &&
      cs.dropLast.all fun c => isHex c || c = '-'
  | _ => false

/-- `ValidFileName`. -/
def validFileName (name : String) : Bool :=
  fileName name && !reservedName name && name.toList.getLast? ≠ some '.' &&
    name.toList.getLast? ≠ some ' '

example : validFileName "PRONOTE (x64).exe" = true := by decide

/-! ### A valid file name -/

/-- A property of the ASCII characters is checked on each of them. -/
lemma ascii_cases {P : Char → Prop} (h : ∀ n < 128, P (Char.ofNat n)) {c : Char}
    (hc : c.toNat < 128) : P c := by
  have := h c.toNat hc
  rwa [Char.ofNat_toNat] at this

/-- And one of the characters of a text, on those. -/
lemma text_cases {P : Char → Prop} [DecidablePred P] {s : String}
    (h : s.toList.all (fun c => decide (P c)) = true) : ∀ c ∈ s.toList, P c := by
  intro c hc
  exact of_decide_eq_true (List.all_eq_true.1 h c hc)

lemma isAlnum_ascii {c : Char} (h : isAlnum c = true) : c.toNat < 128 := by
  simp only [isAlnum, isDigit, Bool.or_eq_true, decide_eq_true_iff, Char.le_def, UInt32.le_iff_toNat_le]
    at h
  have hnat : c.toNat = c.val.toNat := rfl
  -- The last characters of the three ranges.
  have hlower : 'z'.val.toNat = 122 := rfl
  have hupper : 'Z'.val.toNat = 90 := rfl
  have hdigit : '9'.val.toNat = 57 := rfl
  omega

lemma isAlnum_lower {c : Char} (h : isAlnum c = true) : isAlnum c.toLower = true :=
  ascii_cases (P := fun c => isAlnum c = true → isAlnum c.toLower = true) (by decide)
    (isAlnum_ascii h) h

lemma isSeparator_lower {c : Char} (h : c.toNat < 128) (hl : isSeparator c.toLower = true) :
    isSeparator c = true :=
  ascii_cases (P := fun c => isSeparator c.toLower = true → isSeparator c = true) (by decide) h hl

/-- What `ValidFileName` promises. -/
structure BareName (name : String) : Prop where
  first : ∃ c cs, name.toList = c :: cs ∧ isAlnum c = true
  ascii : ∀ c ∈ name.toList, c.toNat < 128
  bare : ∀ c ∈ name.toList, isSeparator c = false

lemma validFileName_bare {name : String} (h : validFileName name = true) : BareName name := by
  unfold validFileName fileName startsAlnum at h
  cases hl : name.toList with
  | nil => simp [hl] at h
  | cons c cs =>
    simp only [hl, Bool.and_eq_true, List.all_eq_true] at h
    obtain ⟨⟨⟨⟨⟨hc, hcs⟩, -⟩, -⟩, -⟩, -⟩ := h
    have hone : ∀ x, isAlnum x = true ∨ x ∈ " ._()+-".toList → x.toNat < 128 ∧ isSeparator x = false := by
      rintro x (hx | hx)
      · exact ⟨isAlnum_ascii hx, ascii_cases (P := fun c => isAlnum c = true → isSeparator c = false)
          (by decide) (isAlnum_ascii hx) hx⟩
      · exact text_cases (P := fun x => x.toNat < 128 ∧ isSeparator x = false) (by decide) x hx
    have hall : ∀ x ∈ c :: cs, x.toNat < 128 ∧ isSeparator x = false := by
      intro x hx
      rcases List.mem_cons.1 hx with rfl | hx
      · exact hone x (.inl hc)
      · exact hone x (by simpa using hcs x hx)
    exact ⟨⟨c, cs, hl, hc⟩, fun x hx => (hall x (hl ▸ hx)).1, fun x hx => (hall x (hl ▸ hx)).2⟩

section Lower

variable {go : GoText} {name run : String}

lemma lower_toList (go : GoText) (s : String) : (go.lower s).toList = s.toList.map go.toLower :=
  String.toList_ofList

/-- A text whose first character is a letter or a digit in lower case goes down. -/
lemma plain_of_first (go : GoText) {c : Char} {cs : List Char} (h : run.toList = c :: cs)
    (hc : isAlnum (go.toLower c) = true) : Plain run := by
  have hdot : go.toLower '.' = '.' := go.toLower_ascii '.' (by decide)
  have hne (t : String) (ht : t.toList = [] ∨ t.toList.head? = some '.') : run ≠ t := by
    rintro rfl
    rw [h] at ht
    rcases ht with ht | ht
    · cases ht
    · obtain rfl : c = '.' := Option.some.inj ht
      rw [hdot] at hc
      exact absurd hc (by decide)
  exact ⟨hne "" (.inl rfl), hne "." (.inr rfl), hne ".." (.inr rfl)⟩

/-- **A name that is a bare one's in lower case** goes down by one, whatever its characters. -/
theorem BareName.join_of_lower (h : BareName name) (hrun : go.lower run = go.lower name)
    (folder : Path) : join folder run = folder ++ [run] := by
  have hmap : run.toList.map go.toLower = name.toList.map go.toLower := by
    rw [← lower_toList, ← lower_toList, hrun]
  refine join_plain (fun x hx => ?_) ?_
  · -- A separator is its own lower case, and is that of no character of a bare name.
    by_contra hsep
    rw [Bool.not_eq_false] at hsep
    have hx' : go.toLower x = x := by
      have hslash : x = '/' ∨ x = '\\' := by simpa [isSeparator] using hsep
      rcases hslash with rfl | rfl <;> exact go.toLower_ascii _ (by decide)
    have hmem : go.toLower x ∈ name.toList.map go.toLower := hmap ▸ List.mem_map_of_mem hx
    obtain ⟨y, hy, hyx⟩ := List.mem_map.1 hmem
    have hlow : y.toLower = x := by rw [← go.toLower_ascii y (h.ascii y hy), hyx, hx']
    rw [← hlow] at hsep
    have hbare := h.bare y hy
    rw [isSeparator_lower (h.ascii y hy) hsep] at hbare
    cases hbare
  · obtain ⟨c, cs, hl, hc⟩ := h.first
    rw [hl, List.map_cons] at hmap
    cases hr : run.toList with
    | nil => simp [hr] at hmap
    | cons d ds =>
      rw [hr, List.map_cons] at hmap
      refine plain_of_first go hr ?_
      rw [List.head_eq_of_cons_eq hmap, go.toLower_ascii c (isAlnum_ascii hc)]
      exact isAlnum_lower hc

lemma BareName.join (h : BareName name) (folder : Path) : join folder name = folder ++ [name] :=
  h.join_of_lower (rfl : GoText.ascii.lower name = _) folder

end Lower

end Tiai.Deploy
