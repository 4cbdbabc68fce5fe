import Mathlib.Tactic.Linarith
import Tiai.Lib.Trim
import Tiai.Lib.Utf8

/-!
# The text of a console tool

`collector/maintenance.go`: what a tool printed is rendered as a terminal would, then cut to a number of bytes.

* `normalizeConsoleOutput`, `truncateOutput`, `lastSignificantLine` — the text;
* `ShowsNul` — of a decoded text, that a NUL of it is rendered, and among the first bytes;
* `nul_mem_normalized` — a NUL is left among the first bytes exactly when the text shows one.
-/

namespace Tiai.Console

open Lib Utf8

/-! ### The functions -/

/-- `strings.ReplaceAll(s, "\r\n", "\n")`. -/
def foldCrLf : Bytes → Bytes
  | 13 :: 10 :: s => 10 :: foldCrLf s
  | b :: s => b :: foldCrLf s
  | [] => []

/-- `strings.Split(s, "\n")`. -/
def lines (s : Bytes) : List Bytes := s.splitOn 10

/-- `strings.Join(lines, "\n")`. -/
def unlines (ls : List Bytes) : Bytes := [10].intercalate ls

/-- What is left of a line on the screen: what follows its last carriage return, without blanks at its end. -/
def shown (line : Bytes) : Bytes := (line.rtakeWhile fun b => b ≠ 13).rdropWhile fun b => b = 32 || b = 9

/-- An empty line after another is skipped. -/
def squeeze : Bool → List Bytes → List Bytes
  | _, [] => []
  | blank, line :: ls =>
    if line = [] then if blank then squeeze true ls else line :: squeeze true ls
    else line :: squeeze false ls

/-- `unicode.IsSpace`. -/
def isSpaceChar (c : Char) : Bool :=
  c.val ∈ [0x9, 0xA, 0xB, 0xC, 0xD, 0x20, 0x85, 0xA0, 0x1680, 0x2028, 0x2029, 0x202F, 0x205F, 0x3000] ||
    (0x2000 ≤ c.val && c.val ≤ 0x200A)

def isSpaceRune : Rune → Bool
  | .char c => isSpaceChar c
  | .stray _ => false

/-- `strings.TrimSpace`. -/
def trimSpace (s : Bytes) : Bytes := (trimBy isSpaceRune (runes s)).flatMap Rune.bytes

def normalizeConsoleOutput (s : Bytes) : Bytes :=
  trimSpace (unlines (squeeze false ((lines (foldCrLf s)).map shown)))

def lastSignificantLine (s : Bytes) : Bytes := (((lines s).reverse.map trimSpace).find? fun t => t ≠ []).getD []

def truncateOutput (s : Bytes) (max : ℕ) : Bytes :=
  if s.length ≤ max then s
  else
    -- half a rune at the seam is bytes that are on their own
    ((runes (s.take max)).rdropWhile Rune.isStray).flatMap Rune.bytes ++
      utf8 ("\n[…] sortie tronquée à " ++ toString (max / 1024) ++ " Kio par l'agent")

/-! ### Line ends -/

variable {s x y b a : Bytes}

lemma foldCrLf_append_nul (x y : Bytes) : foldCrLf (x ++ 0 :: y) = foldCrLf x ++ 0 :: foldCrLf y := by
  fun_induction foldCrLf x with
  | case1 s ih => rw [List.cons_append, List.cons_append, foldCrLf, ih, List.cons_append]
  | case2 c s hne ih =>
    have hcons : foldCrLf (c :: (s ++ 0 :: y)) = c :: foldCrLf (s ++ 0 :: y) := by
      rw [foldCrLf]
      rintro s' rfl hs'
      cases s with
      | nil => cases hs'
      | cons d s => exact hne s rfl (by rw [List.cons_append] at hs'; rw [(List.cons.inj hs').1])
    rw [List.cons_append, hcons, ih, List.cons_append]
  | case3 => rfl

/-- A NUL of the folded text is one of the text. -/
lemma exists_of_foldCrLf (h : foldCrLf s = x ++ 0 :: y) :
    ∃ before after, s = before ++ 0 :: after ∧ foldCrLf before = x ∧ foldCrLf after = y := by
  fun_induction foldCrLf s generalizing x with
  | case1 s ih =>
    cases x with
    | nil => cases h
    | cons c x =>
      rw [List.cons_append] at h
      obtain ⟨rfl, hrest⟩ := List.cons.inj h
      obtain ⟨before, after, rfl, rfl, rfl⟩ := ih hrest
      exact ⟨13 :: 10 :: before, after, rfl, rfl, rfl⟩
  | case2 c s hne ih =>
    cases x with
    | nil =>
      obtain ⟨rfl, rfl⟩ := List.cons.inj h
      exact ⟨[], s, rfl, rfl, rfl⟩
    | cons d x =>
      rw [List.cons_append] at h
      obtain ⟨rfl, hrest⟩ := List.cons.inj h
      obtain ⟨before, after, rfl, rfl, rfl⟩ := ih hrest
      refine ⟨c :: before, after, rfl, ?_, rfl⟩
      rw [foldCrLf]
      rintro s' rfl rfl
      exact hne (s' ++ 0 :: after) rfl rfl
  | case3 =>
    have := congrArg List.length h
    simp at this

/-! ### Lines -/

/-- Lines that are joined, around one of them. -/
lemma unlines_append_cons (ls ms : List Bytes) (l : Bytes) :
    unlines (ls ++ l :: ms) = ls.flatMap (· ++ [10]) ++ l ++ ms.flatMap ([10] ++ ·) := by
  have hone : ∀ (l : Bytes) (ms : List Bytes), unlines (l :: ms) = l ++ ms.flatMap ([10] ++ ·) := by
    intro l ms
    induction ms generalizing l with
    | nil => simp [unlines]
    | cons m ms ih =>
      unfold unlines at ih ⊢
      rw [List.intercalate_cons_cons, ih m, List.flatMap_cons]
      simp
  induction ls with
  | nil => exact hone l ms
  | cons k ls ih =>
    obtain ⟨m, rest, hrest⟩ : ∃ m rest, ls ++ l :: ms = m :: rest := by
      cases ls with
      | nil => exact ⟨l, ms, rfl⟩
      | cons m ls => exact ⟨m, ls ++ l :: ms, rfl⟩
    have hcons : unlines (k :: (ls ++ l :: ms)) = k ++ [10] ++ unlines (ls ++ l :: ms) := by
      unfold unlines
      rw [hrest, List.intercalate_cons_cons]
    rw [List.cons_append, hcons, ih, List.flatMap_cons]
    simp

lemma unlines_lines (s : Bytes) : unlines (lines s) = s := List.intercalate_splitOn 10

lemma not_mem_of_mem_lines {l : Bytes} (h : l ∈ lines s) : 10 ∉ l := by
  unfold lines at h
  induction s generalizing l with
  | nil =>
    rw [List.splitOn_nil, List.mem_singleton] at h
    exact h ▸ List.not_mem_nil
  | cons c s ih =>
    rw [List.splitOn_cons_eq_if_modifyHead] at h
    split at h
    · rcases List.mem_cons.1 h with rfl | h
      · exact List.not_mem_nil
      · exact ih h
    · rename_i hc
      obtain ⟨m, ms, hms⟩ := List.exists_cons_of_ne_nil (List.splitOn_ne_nil 10 s)
      rw [hms, List.modifyHead_cons] at h
      rcases List.mem_cons.1 h with rfl | h
      · have hm := ih (hms ▸ List.mem_cons_self : m ∈ s.splitOn 10)
        exact fun hmem => (List.mem_cons.1 hmem).elim (fun heq => hc (by simp [heq])) hm
      · exact ih (hms ▸ List.mem_cons_of_mem _ h)

lemma lines_unlines {ls : List Bytes} (h : ∀ l ∈ ls, 10 ∉ l) (hne : ls ≠ []) : lines (unlines ls) = ls :=
  List.splitOn_intercalate 10 h hne

/-! ### What the screen keeps of a NUL -/

lemma rtakeWhile_append_nul (h : 13 ∉ a) :
    (b ++ 0 :: a).rtakeWhile (fun c => c ≠ 13) = (b.rtakeWhile fun c => c ≠ 13) ++ 0 :: a := by
  have hall : ∀ c ∈ a.reverse ++ [0], decide (c ≠ 13) = true := by
    intro c hc
    rcases List.mem_append.1 hc with hc | hc
    · exact decide_eq_true fun heq => h (heq ▸ List.mem_reverse.1 hc)
    · rw [List.mem_singleton.1 hc]
      decide
  have hreverse : (b ++ 0 :: a).reverse = (a.reverse ++ [0]) ++ b.reverse := by simp
  rw [List.rtakeWhile, hreverse, List.takeWhile_append_of_pos hall]
  simp [List.rtakeWhile]

/-- On its line, a NUL is kept when no carriage return follows it, with what was shown before it. -/
lemma shown_append_nul (h : 13 ∉ a) :
    shown (b ++ 0 :: a) = (b.rtakeWhile fun c => c ≠ 13) ++ 0 :: a.rdropWhile fun c => c = 32 || c = 9 := by
  unfold shown
  rw [rtakeWhile_append_nul h]
  exact rdropWhile_wall (by decide)

/-- A NUL that is shown is followed by no carriage return. -/
lemma exists_of_shown {l : Bytes} (h : shown l = x ++ 0 :: y) :
    ∃ b a, l = b ++ 0 :: a ∧ 13 ∉ a ∧ (b.rtakeWhile fun c => c ≠ 13) = x := by
  let tail := l.rtakeWhile fun c => c ≠ 13
  let blanks := tail.rtakeWhile fun c => c = 32 || c = 9
  have htail : tail = x ++ 0 :: (y ++ blanks) := by
    have hsplit : tail.rdropWhile (fun c => c = 32 || c = 9) ++ blanks = tail := List.rdropWhile_append_rtakeWhile ..
    have hshown : tail.rdropWhile (fun c => c = 32 || c = 9) = x ++ 0 :: y := h
    rw [← hsplit, hshown]
    simp
  have hline : l = (l.rdropWhile (fun c => c ≠ 13) ++ x) ++ 0 :: (y ++ blanks) := by
    have hsplit : l.rdropWhile (fun c => c ≠ 13) ++ tail = l := List.rdropWhile_append_rtakeWhile ..
    rw [htail] at hsplit
    rw [List.append_assoc]
    exact hsplit.symm
  have hnone : 13 ∉ y ++ blanks := by
    intro hmem
    have hpass : 13 ∈ tail := by
      rw [htail]
      exact List.mem_append_right _ (List.mem_cons_of_mem _ hmem)
    exact absurd (List.mem_rtakeWhile_imp hpass) (by decide)
  refine ⟨l.rdropWhile (fun c => c ≠ 13) ++ x, y ++ blanks, hline, hnone, ?_⟩
  have hagain : tail = _ := hline ▸ rtakeWhile_append_nul hnone
  exact List.append_cancel_right (hagain.symm.trans htail)

lemma squeeze_append_cons (blank : Bool) (ks ms : List Bytes) {m : Bytes} (hm : m ≠ []) :
    squeeze blank (ks ++ m :: ms) = squeeze blank ks ++ m :: squeeze false ms := by
  induction ks generalizing blank with
  | nil =>
    have hstart : squeeze blank (m :: ms) = m :: squeeze false ms := by rw [squeeze, if_neg hm]
    exact hstart
  | cons k ks ih =>
    rw [List.cons_append, squeeze, squeeze]
    by_cases hk : k = []
    · rw [if_pos hk, if_pos hk]
      cases blank with
      | true => exact ih true
      | false => exact congrArg (k :: ·) (ih true)
    · rw [if_neg hk, if_neg hk, ih, List.cons_append]

/-- A line that is kept was there, after those that the kept ones before it are left of. -/
lemma exists_of_squeeze {blank : Bool} {ls ks rest : List Bytes} {m : Bytes} (hm : m ≠ [])
    (h : squeeze blank ls = ks ++ m :: rest) : ∃ l₁ l₂, ls = l₁ ++ m :: l₂ ∧ squeeze blank l₁ = ks := by
  induction ls generalizing blank ks with
  | nil =>
    have := congrArg List.length h
    simp [squeeze] at this
  | cons l ls ih =>
    by_cases hl : l = []
    · subst hl
      rw [squeeze, if_pos rfl] at h
      cases blank with
      | true =>
        obtain ⟨l₁, l₂, rfl, rfl⟩ := ih h
        exact ⟨[] :: l₁, l₂, rfl, by rw [squeeze, if_pos rfl]; rfl⟩
      | false =>
        rw [if_neg (by simp)] at h
        cases ks with
        | nil => exact absurd (List.cons.inj h).1.symm hm
        | cons k ks =>
          rw [List.cons_append] at h
          obtain ⟨rfl, hrest⟩ := List.cons.inj h
          obtain ⟨l₁, l₂, rfl, rfl⟩ := ih hrest
          exact ⟨[] :: l₁, l₂, rfl, by rw [squeeze, if_pos rfl]; rfl⟩
    · rw [squeeze, if_neg hl] at h
      cases ks with
      | nil =>
        obtain ⟨rfl, -⟩ := List.cons.inj h
        exact ⟨[], ls, rfl, rfl⟩
      | cons k ks =>
        rw [List.cons_append] at h
        obtain ⟨rfl, hrest⟩ := List.cons.inj h
        obtain ⟨l₁, l₂, rfl, rfl⟩ := ih hrest
        exact ⟨l :: l₁, l₂, rfl, by rw [squeeze, if_neg hl]⟩

/-- The lines, as the screen shows them. -/
def screen (s : Bytes) : Bytes := unlines (squeeze false ((lines s).map shown))

/-- What the screen shows before a NUL: the lines before its own, and what of its own is not overwritten. -/
def shownBefore (ls : List Bytes) (b : Bytes) : Bytes :=
  (squeeze false (ls.map shown)).flatMap (· ++ [10]) ++ b.rtakeWhile fun c => c ≠ 13

/-- A line with a NUL on it that no carriage return follows, among others. -/
lemma screen_unlines {ls ms : List Bytes} (hls : ∀ l ∈ ls, 10 ∉ l) (hms : ∀ l ∈ ms, 10 ∉ l) (hb : 10 ∉ b)
    (ha : 10 ∉ a) (hreturn : 13 ∉ a) : screen (unlines (ls ++ (b ++ 0 :: a) :: ms)) =
      shownBefore ls b ++
        0 :: ((a.rdropWhile fun c => c = 32 || c = 9) ++ (squeeze false (ms.map shown)).flatMap ([10] ++ ·)) := by
  have hline : 10 ∉ b ++ 0 :: a := by simp [hb, ha]
  have hall : ∀ l ∈ ls ++ (b ++ 0 :: a) :: ms, 10 ∉ l := by
    intro l hl
    rcases List.mem_append.1 hl with hl | hl
    · exact hls l hl
    · rcases List.mem_cons.1 hl with rfl | hl
      · exact hline
      · exact hms l hl
  have hne : shown (b ++ 0 :: a) ≠ [] := by
    rw [shown_append_nul hreturn]
    simp
  unfold screen shownBefore
  rw [lines_unlines hall (by simp), List.map_append, List.map_cons, squeeze_append_cons _ _ _ hne,
    unlines_append_cons, shown_append_nul hreturn]
  simp

/-- The same line, cut at the NUL and last. -/
lemma screen_unlines_last {ls : List Bytes} (hls : ∀ l ∈ ls, 10 ∉ l) (hb : 10 ∉ b) :
    screen (ls.flatMap (· ++ [10]) ++ b ++ [0]) = shownBefore ls b ++ [0] := by
  have hjoin : ls.flatMap (· ++ [10]) ++ b ++ [0] = unlines (ls ++ (b ++ 0 :: []) :: []) := by
    rw [unlines_append_cons]
    simp
  rw [hjoin, screen_unlines hls (fun _ h => (List.not_mem_nil h).elim) hb List.not_mem_nil List.not_mem_nil]
  rfl

/-- The rest of the line is what was joined to it. -/
lemma takeWhile_line {ms : List Bytes} (ha : 10 ∉ a) :
    (a ++ ms.flatMap ([10] ++ ·)).takeWhile (fun c => c ≠ 10) = a := by
  have hall : ∀ c ∈ a, decide (c ≠ 10) = true := fun c hc => decide_eq_true fun heq => ha (heq ▸ hc)
  rw [List.takeWhile_append_of_pos hall]
  cases ms with
  | nil => simp
  | cons m ms =>
    rw [List.flatMap_cons, List.singleton_append, List.cons_append, List.takeWhile_cons_of_neg (by simp),
      List.append_nil]

/-- A NUL that no carriage return follows on its line is on the screen, after what is shown before it. -/
lemma screen_append_nul (h : 13 ∉ a.takeWhile fun c => c ≠ 10) :
    ∃ w z, screen (b ++ 0 :: a) = w ++ 0 :: z ∧ screen (b ++ [0]) = w ++ [0] := by
  obtain ⟨ls, lb, hlb⟩ : ∃ ls lb, lines b = ls ++ [lb] :=
    ⟨_, _, (List.dropLast_append_getLast (List.splitOn_ne_nil 10 b)).symm⟩
  obtain ⟨la, ms, hla⟩ := List.exists_cons_of_ne_nil (List.splitOn_ne_nil 10 a)
  have hb : b = ls.flatMap (· ++ [10]) ++ lb := by
    rw [← unlines_lines b, hlb, unlines_append_cons]
    simp
  have ha : a = la ++ ms.flatMap ([10] ++ ·) := by
    rw [← unlines_lines a, lines, hla, ← List.nil_append (la :: ms), unlines_append_cons]
    simp
  have hbline : ∀ l ∈ ls ++ [lb], 10 ∉ l := fun l hl => not_mem_of_mem_lines (hlb ▸ hl)
  have haline : ∀ l ∈ la :: ms, 10 ∉ l := fun l hl => not_mem_of_mem_lines (hla ▸ hl)
  have hls : ∀ l ∈ ls, 10 ∉ l := fun l hl => hbline l (List.mem_append_left _ hl)
  have hlast : 10 ∉ lb := hbline lb (List.mem_append_right _ (List.mem_singleton_self lb))
  have hrest : a.takeWhile (fun c => c ≠ 10) = la := by
    rw [ha]
    exact takeWhile_line (haline la List.mem_cons_self)
  rw [hrest] at h
  have hjoin : b ++ 0 :: a = unlines (ls ++ (lb ++ 0 :: la) :: ms) := by
    rw [unlines_append_cons, hb, ha]
    simp
  have hfull := screen_unlines hls (fun l hl => haline l (List.mem_cons_of_mem _ hl)) hlast
    (haline la List.mem_cons_self) h
  rw [← hjoin] at hfull
  refine ⟨shownBefore ls lb, _, hfull, ?_⟩
  rw [hb]
  exact screen_unlines_last hls hlast

/-- A member of the joined lines that ends none is in one of them. -/
lemma exists_of_unlines {ks : List Bytes} (h : unlines ks = x ++ 0 :: y) :
    ∃ before p q after, ks = before ++ (p ++ 0 :: q) :: after ∧ x = before.flatMap (· ++ [10]) ++ p := by
  induction ks generalizing x with
  | nil =>
    have := congrArg List.length h
    simp [unlines] at this
  | cons k ks ih =>
    have hcons : unlines (k :: ks) = k ++ ks.flatMap ([10] ++ ·) := by
      rw [← List.nil_append (k :: ks), unlines_append_cons]
      simp
    rw [hcons] at h
    rcases List.append_eq_append_iff.1 h with ⟨m, hx, hrest⟩ | ⟨m, hk, hrest⟩
    · cases ks with
      | nil =>
        have := congrArg List.length hrest
        simp at this
      | cons l ks =>
        have htail : (l :: ks).flatMap ([10] ++ ·) = 10 :: unlines (l :: ks) := by
          rw [← List.nil_append (l :: ks), unlines_append_cons]
          simp
        rw [htail] at hrest
        cases m with
        | nil => cases hrest
        | cons c m =>
          obtain ⟨hc, hjoined⟩ := List.cons.inj hrest
          obtain ⟨before, p, q, after, hks, hm⟩ := ih hjoined
          refine ⟨k :: before, p, q, after, by rw [hks, List.cons_append], ?_⟩
          rw [hx, hm, ← hc, List.flatMap_cons]
          simp
    · cases m with
      | nil =>
        rw [List.append_nil] at hk
        cases ks with
        | nil => cases hrest
        | cons l ks => cases (List.cons.inj hrest).1
      | cons c m =>
        rw [List.cons_append] at hrest
        obtain ⟨rfl, -⟩ := List.cons.inj hrest
        exact ⟨[], x, m, ks, by rw [hk, List.nil_append], by simp⟩

/-- A NUL of the screen is one of the text that no carriage return follows on its line. -/
lemma exists_of_screen (h : screen s = x ++ 0 :: y) :
    ∃ b a, s = b ++ 0 :: a ∧ 13 ∉ (a.takeWhile fun c => c ≠ 10) ∧ screen (b ++ [0]) = x ++ [0] := by
  obtain ⟨before, p, q, after, hkept, rfl⟩ := exists_of_unlines h
  obtain ⟨shownBs, shownAs, hshown, hbefore⟩ := exists_of_squeeze (by simp) hkept
  obtain ⟨ls, rest, hlines, rfl, hrest⟩ := List.map_eq_append_iff.1 hshown
  obtain ⟨l, ms, rfl, hl, -⟩ := List.map_eq_cons_iff.1 hrest
  obtain ⟨lb, la, rfl, hreturn, rfl⟩ := exists_of_shown hl
  have hall : ∀ l ∈ ls ++ (lb ++ 0 :: la) :: ms, 10 ∉ l := fun l hl => not_mem_of_mem_lines (hlines ▸ hl)
  have hls : ∀ l ∈ ls, 10 ∉ l := fun l hl => hall l (List.mem_append_left _ hl)
  have hline : 10 ∉ lb ++ 0 :: la := hall _ (List.mem_append_right _ List.mem_cons_self)
  have hlb : 10 ∉ lb := fun hmem => hline (List.mem_append_left _ hmem)
  have hla : 10 ∉ la := fun hmem => hline (List.mem_append_right _ (List.mem_cons_of_mem _ hmem))
  refine ⟨ls.flatMap (· ++ [10]) ++ lb, la ++ ms.flatMap ([10] ++ ·), ?_, ?_, ?_⟩
  · rw [← unlines_lines s, hlines, unlines_append_cons]
    simp
  · rw [takeWhile_line hla]
    exact hreturn
  · rw [screen_unlines_last hls hlb, shownBefore, hbefore]

/-! ### Trimming and cutting -/

lemma trimSpace_append_nul (x y : Bytes) : ∃ z,
    trimSpace (x ++ 0 :: y) = ((runes x).dropWhile isSpaceRune).flatMap Rune.bytes ++ 0 :: z := by
  refine ⟨((runes y).rdropWhile isSpaceRune).flatMap Rune.bytes, ?_⟩
  rw [trimSpace, runes_append_nul, trimBy_wall (by decide), List.flatMap_append, List.flatMap_cons]
  rfl

lemma trimSpace_nul (x : Bytes) :
    trimSpace (x ++ [0]) = ((runes x).dropWhile isSpaceRune).flatMap Rune.bytes ++ [0] := by
  have hnil : runes [] = [] := by rw [runes]
  rw [trimSpace, runes_append_nul, trimBy_wall (by decide), List.flatMap_append, List.flatMap_cons, hnil]
  rfl

/-- What is trimmed is bytes of the text. -/
lemma trimSpace_infix (s : Bytes) :
    ∃ b, s = ((runes s).takeWhile isSpaceRune).flatMap Rune.bytes ++ trimSpace s ++ b := by
  refine ⟨(((runes s).dropWhile isSpaceRune).rtakeWhile isSpaceRune).flatMap Rune.bytes, ?_⟩
  have hrunes : runes s = (runes s).takeWhile isSpaceRune ++ trimBy isSpaceRune (runes s) ++
      ((runes s).dropWhile isSpaceRune).rtakeWhile isSpaceRune := by
    rw [trimBy, List.append_assoc, List.rdropWhile_append_rtakeWhile, List.takeWhile_append_dropWhile]
  conv_lhs => rw [← flatMap_runes s, hrunes]
  rw [List.flatMap_append, List.flatMap_append, trimSpace]

/-- A NUL that is not trimmed is one of the text, and what stands before it is trimmed alike. -/
lemma exists_of_trimSpace (h : trimSpace s = x ++ 0 :: y) :
    ∃ b a, s = b ++ 0 :: a ∧ trimSpace (b ++ [0]) = x ++ [0] := by
  obtain ⟨after, hs⟩ := trimSpace_infix s
  let front := ((runes s).takeWhile isSpaceRune).flatMap Rune.bytes
  have hsplit : s = (front ++ x) ++ 0 :: (y ++ after) := by
    rw [h] at hs
    simpa using hs
  have hfront : (runes s).takeWhile isSpaceRune = (runes (front ++ x)).takeWhile isSpaceRune := by
    conv_lhs => rw [hsplit, runes_append_nul]
    exact takeWhile_wall (by decide)
  have hx : front ++ x = front ++ ((runes (front ++ x)).dropWhile isSpaceRune).flatMap Rune.bytes := by
    conv_lhs => rw [← flatMap_runes (front ++ x), ← List.takeWhile_append_dropWhile (p := isSpaceRune)
      (l := runes (front ++ x)), ← hfront, List.flatMap_append]
  refine ⟨front ++ x, y ++ after, hsplit, ?_⟩
  rw [trimSpace_nul, ← List.append_cancel_left hx]

/-! ### What is left of a NUL -/

/-- The text has a NUL that no carriage return follows on its line, and that is rendered among the first bytes. -/
def ShowsNul (max : ℕ) (s : Bytes) : Prop :=
  ∃ before after, s = before ++ 0 :: after ∧ 13 ∉ ((foldCrLf after).takeWhile fun b => b ≠ 10) ∧
    (normalizeConsoleOutput (before ++ [0])).length ≤ max

lemma normalizeConsoleOutput_eq (s : Bytes) : normalizeConsoleOutput s = trimSpace (screen (foldCrLf s)) := rfl

/-- **The NULs of the normalised text** are those that the text shows. -/
theorem nul_mem_normalized (max : ℕ) (s : Bytes) : 0 ∈ (normalizeConsoleOutput s).take max ↔ ShowsNul max s := by
  have hfold : ∀ b, foldCrLf (b ++ [0]) = foldCrLf b ++ [0] := fun b => foldCrLf_append_nul b []
  constructor
  · intro h
    obtain ⟨x, y, hxy⟩ := List.append_of_mem h
    have hnormal : normalizeConsoleOutput s = x ++ 0 :: (y ++ (normalizeConsoleOutput s).drop max) := by
      conv_lhs => rw [← List.take_append_drop max (normalizeConsoleOutput s), hxy]
      simp
    obtain ⟨w, z, hscreen, htrim⟩ := exists_of_trimSpace hnormal
    obtain ⟨b, a, hfolded, hreturn, hshown⟩ := exists_of_screen hscreen
    obtain ⟨before, after, hs, rfl, rfl⟩ := exists_of_foldCrLf hfolded
    refine ⟨before, after, hs, hreturn, ?_⟩
    rw [normalizeConsoleOutput_eq, hfold, hshown, htrim]
    have hlength := congrArg List.length hxy
    rw [List.length_take, List.length_append, List.length_cons] at hlength
    rw [List.length_append, List.length_singleton]
    omega
  · rintro ⟨before, after, rfl, hreturn, hlength⟩
    obtain ⟨w, z, hscreen, hlast⟩ := screen_append_nul (b := foldCrLf before) hreturn
    obtain ⟨z', htrim⟩ := trimSpace_append_nul w z
    rw [normalizeConsoleOutput_eq, hfold, hlast, trimSpace_nul] at hlength
    rw [normalizeConsoleOutput_eq, foldCrLf_append_nul, hscreen, htrim, List.append_cons, List.take_append,
      List.take_of_length_le hlength]
    exact List.mem_append_left _ (List.mem_append_right _ (List.mem_singleton_self 0))

/-! ### What is cut -/

/-- The bytes of the cut text are those of the first ones, but for half a rune. -/
lemma nul_mem_truncateOutput (s : Bytes) (max : ℕ) : 0 ∈ truncateOutput s max ↔ 0 ∈ s.take max := by
  unfold truncateOutput
  split
  · rename_i hle
    rw [List.take_of_length_le hle]
  · have hsuffix : (0 : UInt8) ∉ utf8 ("\n[…] sortie tronquée à " ++ toString (max / 1024) ++ " Kio par l'agent") := by
      rw [nul_mem_utf8, not_not]
      exact (nulFree_toString _).between (by decide) (by decide)
    rw [List.mem_append, or_iff_left hsuffix]
    constructor
    · intro h
      obtain ⟨tail, htail⟩ := List.rdropWhile_prefix Rune.isStray (runes (s.take max))
      rw [← flatMap_runes (s.take max), ← htail, List.flatMap_append]
      exact List.mem_append_left _ h
    · intro h
      obtain ⟨x, y, hxy⟩ := List.append_of_mem h
      rw [hxy, runes_append_nul, rdropWhile_wall (by decide), List.flatMap_append, List.flatMap_cons]
      exact List.mem_append_right _ (List.mem_append_left _ (by decide))

/-- A NUL of the cut text stands among the first bytes. -/
lemma exists_of_truncateOutput {max : ℕ} (h : 0 ∈ truncateOutput s max) :
    ∃ x y, truncateOutput s max = x ++ 0 :: y ∧ x.length < max := by
  obtain ⟨x, y, hxy⟩ := List.append_of_mem ((nul_mem_truncateOutput s max).1 h)
  have hlength : x.length < max := by
    have := congrArg List.length hxy
    rw [List.length_take, List.length_append, List.length_cons] at this
    omega
  unfold truncateOutput
  split
  · rename_i hle
    rw [List.take_of_length_le hle] at hxy
    exact ⟨x, y, hxy, hlength⟩
  · rw [hxy, runes_append_nul, rdropWhile_wall (by decide), List.flatMap_append, List.flatMap_cons, flatMap_runes]
    exact ⟨x, _, by rw [List.append_assoc]; rfl, hlength⟩

/-- The last line is bytes of the text. -/
lemma nul_mem_of_lastSignificantLine (h : 0 ∈ lastSignificantLine s) : 0 ∈ s := by
  unfold lastSignificantLine at h
  cases hfound : ((lines s).reverse.map trimSpace).find? fun t => t ≠ [] with
  | none =>
    rw [hfound] at h
    cases h
  | some t =>
    rw [hfound, Option.getD_some] at h
    obtain ⟨l, hl, rfl⟩ := List.mem_map.1 (List.mem_of_find?_eq_some hfound)
    obtain ⟨after, hline⟩ := trimSpace_infix l
    have hmem : 0 ∈ l := by
      rw [hline]
      exact List.mem_append_left _ (List.mem_append_right _ h)
    obtain ⟨before, rest, hlines⟩ := List.append_of_mem (List.mem_reverse.1 hl)
    rw [← unlines_lines s, hlines, unlines_append_cons]
    exact List.mem_append_left _ (List.mem_append_right _ hmem)

end Tiai.Console
