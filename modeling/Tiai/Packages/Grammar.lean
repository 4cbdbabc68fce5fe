import Tiai.Lib.Regex
import Tiai.Packages.Names
import Tiai.Text

/-!
# The names, pattern by pattern

The patterns of `manifest.py` and `packages.py` are those of `deploy.go`, as they are written.  Each
side has its engine: `re.match`, whose `$` also stands before a newline that ends the text, and
`MatchString`, which searches and whose `$` is the end of the text.  What the two make of case and of
`\d` beyond ASCII is in the tables of their libraries.

* `serverAccepts_iff`, `agentAccepts_iff` — the executable checks are what the patterns mean;
* `same_names_iff` — on which texts the two sides agree;
* `stripped_agrees` — they agree on every stripped text, such as a stored version.
-/

namespace Tiai.Packages

open Tiai.Lib
open Deploy (fileName reservedName reservedStem isAlnum isDigit startsAlnum)

/-! ### The patterns -/

/-- A class between brackets, as its ranges. -/
abbrev Ranges := List (Char × Char)

def inRanges (rs : Ranges) (c : Char) : Bool := rs.any fun r => r.1 ≤ c ∧ c ≤ r.2

/-- `A-Za-z0-9`. -/
def alnum : Ranges := [('A', 'Z'), ('a', 'z'), ('0', '9')]

/-- Characters a class lists one by one. -/
def listed (s : String) : Ranges := s.toList.map fun c => (c, c)

/-- A class of the pattern that ignores case. -/
inductive Folded where
  | letter (c : Char)
  /-- `\d` -/
  | digit
  /-- `.` -/
  | dot

/-- `[A-Za-z0-9][A-Za-z0-9…]{0,max}`. -/
def nameBody (extra : String) (max : ℕ) : Regex Ranges :=
  .seq (.cls alnum) (.upTo (.cls (alnum ++ listed extra)) max)

/-- `_FILE_NAME` and `fileName`. -/
def fileNamePattern : Regex Ranges := .line (nameBody " ._()+-" 254)

/-- `WINGET_ID` and `wingetID`. -/
def wingetIdPattern : Regex Ranges := .line (nameBody "._+-" 127)

/-- `WINGET_VERSION` and `wingetVersion`. -/
def wingetVersionPattern : Regex Ranges := .line (nameBody "._+-" 63)

def letters (s : String) : Regex Folded := .word (s.toList.map .letter)

def numbered (s : String) : Regex Folded := .word (s.toList.map .letter ++ [.digit])

/-- `(con|prn|aux|nul|com\d|lpt\d)`. -/
def reservedStems : Regex Folded :=
  .oneOf (letters "con")
    [letters "prn", letters "aux", letters "nul", numbered "com", numbered "lpt"]

/-- `(con|prn|aux|nul|com\d|lpt\d)(\..*)?`. -/
def reservedBody : Regex Folded :=
  .seq reservedStems (.opt (.seq (.cls (.letter '.')) (.star (.cls .dot))))

/-- `_RESERVED` and `reservedName`. -/
def reservedPattern : Regex Folded := .line reservedBody

/-! ### The engines -/

/-- What a library says of `\d` and of a letter when case is ignored; on ASCII they all say the same. -/
structure Unicode where
  isDecimal : Char → Bool
  sameLetter : Char → Char → Bool
  isDecimal_ascii : ∀ c : Char, c.toNat < 128 → isDecimal c = isDigit c
  sameLetter_ascii : ∀ l c : Char, l.toNat < 128 → c.toNat < 128 →
    sameLetter l c = decide (l.toLower = c.toLower)

/-- The tables' ASCII part. -/
def Unicode.ascii : Unicode where
  isDecimal := isDigit
  sameLetter l c := decide (l.toLower = c.toLower)
  isDecimal_ascii _ _ := rfl
  sameLetter_ascii _ _ _ _ := rfl

def Unicode.holds (t : Unicode) : Folded → Char → Bool
  | .letter l, c => t.sameLetter l c
  | .digit, c => t.isDecimal c
  | .dot, c => c ≠ '\n'

/-- `$` in Python. -/
def pyStops (rest : List Char) : Bool := rest = [] || rest = ['\n']

/-- `$` in Go. -/
def goStops (rest : List Char) : Bool := rest = []

/-- `re.compile(…)`. -/
def pySets : Engine Ranges Char := ⟨inRanges, pyStops⟩

/-- `re.compile(…, re.IGNORECASE)`. -/
def pyFolded (py : Unicode) : Engine Folded Char := ⟨py.holds, pyStops⟩

/-- `regexp.MustCompile(…)`. -/
def goSets : Engine Ranges Char := ⟨inRanges, goStops⟩

/-- `regexp.MustCompile("(?i)…")`. -/
def goFolded (go : Unicode) : Engine Folded Char := ⟨go.holds, goStops⟩

/-- What a package lets its author write. -/
inductive Field where
  | fileName
  | wingetId
  | wingetVersion
  deriving DecidableEq, Repr

/-- `valid_file_name`, and what `_apply` asks of the identifier and of the version. -/
def ServerAccepts (py : Unicode) : Field → String → Prop
  | .fileName, s => fileNamePattern.MatchAt pySets s.toList ∧
      ¬reservedPattern.MatchAt (pyFolded py) s.toList ∧ s.toList.getLast? ≠ some '.' ∧
      s.toList.getLast? ≠ some ' '
  | .wingetId, s => s ≠ "" ∧ wingetIdPattern.MatchAt pySets s.toList
  | .wingetVersion, s => s = "" ∨ wingetVersionPattern.MatchAt pySets s.toList

/-- `ValidFileName`, and what `WingetArgs` asks of the identifier and of the version. -/
def AgentAccepts (go : Unicode) : Field → String → Prop
  | .fileName, s => fileNamePattern.Search goSets s.toList ∧
      ¬reservedPattern.Search (goFolded go) s.toList ∧ s.toList.getLast? ≠ some '.' ∧
      s.toList.getLast? ≠ some ' '
  | .wingetId, s => wingetIdPattern.Search goSets s.toList
  | .wingetVersion, s => s = "" ∨ wingetVersionPattern.Search goSets s.toList

/-! ### The executable checks -/

def serverCheck : Field → String → Bool
  | .fileName, s => validFileName s
  | .wingetId, s => s ≠ "" && wingetIdMatches s
  | .wingetVersion, s => s = "" || wingetVersionMatches s

def agentCheck : Field → String → Bool
  | .fileName, s => Deploy.validFileName s
  | .wingetId, s => Deploy.wingetID s
  | .wingetVersion, s => s = "" || Deploy.wingetVersion s

section Names

variable {w : List Char} {s extra : String} {max : ℕ}

lemma inRanges_alnum (c : Char) : inRanges alnum c = isAlnum c := by
  simp [inRanges, alnum, isAlnum, isDigit, Bool.or_assoc]

lemma inRanges_listed (c : Char) :
    inRanges (alnum ++ listed extra) c = (isAlnum c || c ∈ extra.toList) := by
  have hone : inRanges (listed extra) c = decide (c ∈ extra.toList) := by
    rw [Bool.eq_iff_iff, inRanges, listed, List.any_map]
    simp only [List.any_eq_true, Function.comp_apply, decide_eq_true_iff]
    constructor
    · rintro ⟨d, hd, hle, hge⟩
      exact Char.le_antisymm hle hge ▸ hd
    · intro hc
      exact ⟨c, hc, Char.le_refl c, Char.le_refl c⟩
  rw [← inRanges_alnum, ← hone]
  exact List.any_append

lemma plain_nameBody : (nameBody extra max).Plain :=
  ⟨trivial, Regex.plain_upTo (a := .cls _) trivial max⟩

/-- A name is a letter or digit, then at most so many characters of its class. -/
lemma mem_nameBody :
    w ∈ (nameBody extra max).lang inRanges ↔
      startsAlnum (fun c => isAlnum c || c ∈ extra.toList) max (String.ofList w) = true := by
  rw [nameBody, Regex.mem_seq_cls, startsAlnum, String.toList_ofList]
  constructor
  · rintro ⟨c, cs, rfl, hc, hcs⟩
    obtain ⟨hlen, hall⟩ := Regex.mem_upTo_cls.1 hcs
    simp only [Bool.and_eq_true, List.all_eq_true, decide_eq_true_iff]
    refine ⟨⟨inRanges_alnum c ▸ hc, fun x hx => ?_⟩, hlen⟩
    rw [← inRanges_listed]
    exact hall x hx
  · intro h
    cases w with
    | nil => cases h
    | cons c cs =>
      simp only [Bool.and_eq_true, List.all_eq_true, decide_eq_true_iff] at h
      obtain ⟨⟨hc, hall⟩, hlen⟩ := h
      refine ⟨c, cs, rfl, (inRanges_alnum c).symm ▸ hc, Regex.mem_upTo_cls.2 ⟨hlen, fun x hx => ?_⟩⟩
      rw [inRanges_listed]
      exact hall x hx

end Names

/-! ### The device names -/

section Reserved

variable {py go t : Unicode} {w : List Char} {s : List Char}

lemma isDigit_lower {c : Char} (hc : c.toNat < 128) : isDigit c.toLower = isDigit c :=
  Deploy.ascii_cases (P := fun c => isDigit c.toLower = isDigit c) (by decide) hc

lemma lower_dot {c : Char} (hc : c.toNat < 128) : c.toLower = '.' ↔ c = '.' :=
  Deploy.ascii_cases (P := fun c => c.toLower = '.' ↔ c = '.') (by decide) hc

/-- Letters in lower case, then the rest. -/
lemma mem_letters (hs : ∀ l ∈ s, l.toNat < 128 ∧ l.toLower = l) (hw : ∀ c ∈ w, c.toNat < 128)
    (ks : List Folded) :
    w ∈ (Regex.word (s.map .letter ++ ks)).lang t.holds ↔
      (w.map Char.toLower).take s.length = s ∧ w.drop s.length ∈ (Regex.word ks).lang t.holds := by
  induction s generalizing w with
  | nil => simp
  | cons l s ih =>
    obtain ⟨⟨hl, hlow⟩, hs⟩ := List.forall_mem_cons.1 hs
    rw [List.map_cons, List.cons_append, Regex.word, Regex.mem_seq_cls]
    constructor
    · rintro ⟨c, cs, rfl, hc, hcs⟩
      obtain ⟨hcw, hcsw⟩ := List.forall_mem_cons.1 hw
      obtain ⟨htake, hdrop⟩ := (ih hs hcsw).1 hcs
      have hsame : l.toLower = c.toLower := by
        have := t.sameLetter_ascii l c hl hcw
        exact of_decide_eq_true (this ▸ hc)
      refine ⟨?_, hdrop⟩
      rw [List.map_cons, List.length_cons, List.take_succ_cons, htake, ← hsame, hlow]
    · rintro ⟨htake, hdrop⟩
      cases w with
      | nil => cases htake
      | cons c cs =>
        obtain ⟨hcw, hcsw⟩ := List.forall_mem_cons.1 hw
        rw [List.map_cons, List.length_cons, List.take_succ_cons] at htake
        obtain ⟨hsame, htake⟩ := List.cons.inj htake
        refine ⟨c, cs, rfl, ?_, (ih hs hcsw).2 ⟨htake, hdrop⟩⟩
        exact (t.sameLetter_ascii l c hl hcw).trans (decide_eq_true (hlow.trans hsame.symm))

lemma mem_stem (hs : ∀ l ∈ s, l.toNat < 128 ∧ l.toLower = l) (hw : ∀ c ∈ w, c.toNat < 128) :
    w ∈ (Regex.word (s.map .letter)).lang t.holds ↔ w.map Char.toLower = s := by
  have := mem_letters (t := t) hs hw []
  rw [List.append_nil] at this
  rw [this]
  constructor
  · rintro ⟨htake, hdrop⟩
    have hdrop : w.drop s.length = [] := hdrop
    rwa [List.take_of_length_le] at htake
    rw [List.length_map]
    exact List.drop_eq_nil_iff.1 hdrop
  · rintro rfl
    rw [List.length_map]
    refine ⟨List.take_of_length_le (by rw [List.length_map]), ?_⟩
    rw [List.drop_length]
    exact Language.nil_mem_one

lemma mem_numbered (hs : ∀ l ∈ s, l.toNat < 128 ∧ l.toLower = l) (hw : ∀ c ∈ w, c.toNat < 128) :
    w ∈ (Regex.word (s.map .letter ++ [.digit])).lang t.holds ↔
      (w.map Char.toLower).take s.length = s ∧ (w.map Char.toLower).length = s.length + 1 ∧
        ((w.map Char.toLower).drop s.length).all isDigit = true := by
  rw [mem_letters hs hw, Regex.word, Regex.mem_seq_cls]
  refine and_congr_right fun htake => ?_
  have hlen : s.length ≤ w.length := by
    have := congrArg List.length htake
    rw [List.length_take, List.length_map] at this
    omega
  rw [List.length_map, ← List.map_drop, List.all_map]
  constructor
  · rintro ⟨c, cs, hdrop, hc, hcs⟩
    obtain rfl : cs = [] := hcs
    have hcw := hw c (List.mem_of_mem_drop (hdrop ▸ List.mem_singleton_self c))
    have hone := congrArg List.length hdrop
    rw [List.length_drop, List.length_singleton] at hone
    refine ⟨by omega, ?_⟩
    rw [hdrop, List.all_cons, List.all_nil, Bool.and_true, Function.comp_apply, isDigit_lower hcw,
      ← t.isDecimal_ascii c hcw]
    exact hc
  · rintro ⟨hone, hall⟩
    have hdrop : (w.drop s.length).length = 1 := by rw [List.length_drop]; omega
    obtain ⟨c, hc⟩ := List.length_eq_one_iff.1 hdrop
    have hcw := hw c (List.mem_of_mem_drop (hc ▸ List.mem_singleton_self c))
    refine ⟨c, [], hc, ?_, Language.nil_mem_one⟩
    rw [hc, List.all_cons, List.all_nil, Bool.and_true, Function.comp_apply, isDigit_lower hcw,
      ← t.isDecimal_ascii c hcw] at hall
    exact hall

lemma mem_reservedStems (hw : ∀ c ∈ w, c.toNat < 128) :
    w ∈ reservedStems.lang t.holds ↔ reservedStem (w.map Char.toLower) = true := by
  -- The letters of the names, checked by evaluation.
  have lower {s : String} (hs : (s.toList.all fun l => l.toNat < 128 ∧ l.toLower = l) = true) :
      ∀ l ∈ s.toList, l.toNat < 128 ∧ l.toLower = l :=
    fun l hl => of_decide_eq_true (List.all_eq_true.1 hs l hl)
  have stem (s : String) (hs : (s.toList.all fun l => l.toNat < 128 ∧ l.toLower = l) = true) :
      w ∈ (letters s).lang t.holds ↔ w.map Char.toLower = s.toList := mem_stem (lower hs) hw
  have device (s : String) (hs : (s.toList.all fun l => l.toNat < 128 ∧ l.toLower = l) = true) :=
    mem_numbered (t := t) (lower hs) hw
  rw [reservedStems, Regex.mem_oneOf]
  simp only [List.exists_mem_cons_iff, List.not_mem_nil, false_and, exists_false, or_false,
    stem "con" rfl, stem "prn" rfl, stem "aux" rfl, stem "nul" rfl]
  rw [numbered, numbered, device "com" rfl, device "lpt" rfl]
  simp only [reservedStem, List.map_cons, List.map_nil, List.mem_cons, List.not_mem_nil, or_false,
    Bool.or_eq_true, Bool.and_eq_true, decide_eq_true_iff]
  have com : "com".toList.length = 3 := rfl
  have lpt : "lpt".toList.length = 3 := rfl
  have four : 3 + 1 = 4 := rfl
  rw [com, lpt, four]
  simp only [or_assoc, and_assoc, or_and_right]

/-- A device name is of letters and digits. -/
lemma reservedStem_alnum {v : List Char} (h : reservedStem v = true) : ∀ c ∈ v, isAlnum c = true := by
  have word (s : List Char) (hs : s.all isAlnum = true) : ∀ c ∈ s, isAlnum c = true :=
    List.all_eq_true.1 hs
  simp only [reservedStem, List.map_cons, List.map_nil, List.mem_cons, List.not_mem_nil, or_false,
    Bool.or_eq_true, Bool.and_eq_true, decide_eq_true_iff] at h
  rcases h with (rfl | rfl | rfl | rfl) | ⟨⟨hstart, -⟩, hdigit⟩
  · exact word _ (by decide)
  · exact word _ (by decide)
  · exact word _ (by decide)
  · exact word _ (by decide)
  · intro c hc
    rw [← List.take_append_drop 3 v] at hc
    rcases List.mem_append.1 hc with hc | hc
    · rcases hstart with hstart | hstart
      · exact word _ (by decide) c (hstart ▸ hc)
      · exact word _ (by decide) c (hstart ▸ hc)
    · have := List.all_eq_true.1 hdigit c hc
      rw [isAlnum, this, Bool.or_true]

lemma stem_no_dot (hw : ∀ c ∈ w, c.toNat < 128) (h : reservedStem (w.map Char.toLower) = true) :
    ∀ c ∈ w, decide (c ≠ '.') = true := by
  intro c hc
  have halnum := reservedStem_alnum h c.toLower (List.mem_map_of_mem hc)
  refine decide_eq_true fun hdot => ?_
  rw [(lower_dot (hw c hc)).2 hdot] at halnum
  exact absurd halnum (by decide)

/-- `(\..*)?`. -/
lemma mem_extension (hw : ∀ c ∈ w, c.toNat < 128) :
    w ∈ (Regex.opt (.seq (.cls (.letter '.')) (.star (.cls .dot)))).lang t.holds ↔
      (w = [] ∨ w.head? = some '.') ∧ ∀ c ∈ w, c ≠ '\n' := by
  have dot {c : Char} (hc : c.toNat < 128) : t.holds (.letter '.') c = true ↔ c = '.' := by
    have : t.holds (.letter '.') c = decide ('.' = c.toLower) :=
      t.sameLetter_ascii '.' c (by decide) hc
    rw [this, decide_eq_true_iff, eq_comm, lower_dot hc]
  have any (c : Char) : t.holds .dot c = true ↔ c ≠ '\n' := by simp [Unicode.holds]
  rw [Regex.mem_opt, Regex.mem_seq_cls]
  constructor
  · rintro (⟨c, cs, rfl, hc, hcs⟩ | rfl)
    · obtain rfl := (dot (hw c List.mem_cons_self)).1 hc
      refine ⟨.inr rfl, List.forall_mem_cons.2 ⟨by decide, fun x hx => ?_⟩⟩
      exact (any x).1 (Regex.mem_star_cls.1 hcs x hx)
    · exact ⟨.inl rfl, nofun⟩
  · rintro ⟨rfl | hhead, hall⟩
    · exact .inr rfl
    · obtain ⟨cs, rfl⟩ := List.head?_eq_some_iff.1 hhead
      refine .inl ⟨'.', cs, rfl, (dot (by decide)).2 rfl, Regex.mem_star_cls.2 fun x hx => ?_⟩
      exact (any x).2 (hall x (List.mem_cons_of_mem _ hx))

/-- **A device, alone or with an extension**, in any tables that agree on ASCII. -/
theorem mem_reservedBody (hw : ∀ c ∈ w, c.toNat < 128) :
    w ∈ reservedBody.lang t.holds ↔ reservedName (String.ofList w) = true := by
  rw [reservedName, String.toList_ofList, Bool.and_eq_true]
  constructor
  · intro h
    obtain ⟨stem, hstem, ext, hext, rfl⟩ := Language.mem_mul.1 h
    have hws : ∀ c ∈ stem, c.toNat < 128 := fun c hc => hw c (List.mem_append_left _ hc)
    have hwe : ∀ c ∈ ext, c.toNat < 128 := fun c hc => hw c (List.mem_append_right _ hc)
    rw [mem_reservedStems hws] at hstem
    obtain ⟨hhead, hline⟩ := (mem_extension hwe).1 hext
    have hnone : ext.takeWhile (fun c => decide (c ≠ '.')) = [] ∧
        ext.dropWhile (fun c => decide (c ≠ '.')) = ext := by
      cases ext with
      | nil => exact ⟨rfl, rfl⟩
      | cons c cs =>
        obtain rfl : c = '.' := by simpa using hhead
        exact ⟨rfl, rfl⟩
    rw [List.takeWhile_append_of_pos (stem_no_dot hws hstem),
      List.dropWhile_append_of_pos (stem_no_dot hws hstem), hnone.1, hnone.2, List.append_nil]
    exact ⟨hstem, List.all_eq_true.2 fun c hc => decide_eq_true (hline c hc)⟩
  · rintro ⟨hstem, hline⟩
    have hsplit := List.takeWhile_append_dropWhile (p := fun c => decide (c ≠ '.')) (l := w)
    refine Language.mem_mul.2 ⟨_, (mem_reservedStems fun c hc => ?_).2 hstem, _,
      (mem_extension fun c hc => ?_).2 ⟨?_, fun c hc => ?_⟩, hsplit⟩
    · exact hw c (hsplit ▸ List.mem_append_left _ hc)
    · exact hw c (hsplit ▸ List.mem_append_right _ hc)
    · have hhead := List.head?_dropWhile_not (fun c => decide (c ≠ '.')) w
      cases hext : w.dropWhile (fun c => decide (c ≠ '.')) with
      | nil => exact .inl rfl
      | cons c cs =>
        rw [hext] at hhead
        have hdot : c = '.' := by simpa using hhead
        exact .inr (congrArg some hdot)
    · exact of_decide_eq_true (List.all_eq_true.1 hline c hc)

lemma plain_reservedBody : reservedBody.Plain := by
  refine ⟨Regex.plain_oneOf fun b hb => ?_, ⟨trivial, trivial⟩, trivial⟩
  simp only [List.mem_cons, List.not_mem_nil, or_false] at hb
  rcases hb with rfl | rfl | rfl | rfl | rfl | rfl <;> exact Regex.plain_word _

end Reserved

/-! ### What each side accepts -/

section Accepts

variable {py go : Unicode} {f : Field} {s t : String} {whole : String → Bool}

lemma pyStops_iff (v : List Char) : pyStops v = true ↔ v = [] ∨ v = ['\n'] := by simp [pyStops]

lemma goStops_iff (v : List Char) : goStops v = true ↔ v = [] := by simp [goStops]

lemma endsInNewline_iff : endsInNewline s = true ↔ ∃ t, s = t ++ "\n" := by
  rw [endsInNewline, decide_eq_true_iff, List.getLast?_eq_some_iff]
  constructor
  · rintro ⟨cs, hcs⟩
    exact ⟨String.ofList cs, String.ext (by simp [hcs])⟩
  · rintro ⟨t, rfl⟩
    exact ⟨t.toList, String.toList_append⟩

lemma matchLine_append (h : whole (t ++ "\n") = false) : matchLine whole (t ++ "\n") = whole t := by
  simp [matchLine, h]

/-- `re.match` of a line, from what the line means whole. -/
lemma matchLine_iff {κ : Type} {a : Regex κ} {holds : κ → Char → Bool} (ha : a.Plain)
    (hwhole : ∀ t : String, t.toList ⊆ s.toList → (t.toList ∈ a.lang holds ↔ whole t = true)) :
    (Regex.line a).MatchAt ⟨holds, pyStops⟩ s.toList ↔ matchLine whole s = true := by
  rw [Regex.matchAt_line_of_newline pyStops_iff ha, matchLine, Bool.or_eq_true,
    hwhole s (List.Subset.refl _)]
  refine or_congr_right ?_
  rw [Bool.and_eq_true, decide_eq_true_iff, List.getLast?_eq_some_iff]
  have hline (t : List Char) (ht : s.toList = t ++ ['\n']) :
      t ∈ a.lang holds ↔ whole (String.ofList s.toList.dropLast) = true := by
    rw [← hwhole _ (by simpa using List.dropLast_subset s.toList), String.toList_ofList, ht,
      List.dropLast_concat]
  constructor
  · rintro ⟨t, ht, hlang⟩
    exact ⟨⟨t, ht⟩, (hline t ht).1 hlang⟩
  · rintro ⟨⟨t, ht⟩, hlang⟩
    exact ⟨t, ht, (hline t ht).2 hlang⟩

lemma search_iff {κ : Type} {a : Regex κ} {holds : κ → Char → Bool} (ha : a.Plain)
    (hwhole : s.toList ∈ a.lang holds ↔ whole s = true) :
    (Regex.line a).Search ⟨holds, goStops⟩ s.toList ↔ whole s = true := by
  rw [Regex.search_line ha, Regex.matchAt_line_of_end goStops_iff ha, hwhole]

lemma mem_name {extra : String} {max : ℕ} (t : String) :
    t.toList ∈ (nameBody extra max).lang inRanges ↔
      startsAlnum (fun c => isAlnum c || c ∈ extra.toList) max t = true := by
  rw [mem_nameBody, String.ofList_toList]

lemma name_match {extra : String} {max : ℕ} :
    (Regex.line (nameBody extra max)).MatchAt pySets s.toList ↔
      matchLine (startsAlnum (fun c => isAlnum c || c ∈ extra.toList) max) s = true :=
  matchLine_iff plain_nameBody fun t _ => mem_name t

lemma name_search {extra : String} {max : ℕ} :
    (Regex.line (nameBody extra max)).Search goSets s.toList ↔
      startsAlnum (fun c => isAlnum c || c ∈ extra.toList) max s = true :=
  search_iff plain_nameBody (mem_name s)

lemma mem_reserved {tables : Unicode} (hs : ∀ c ∈ t.toList, c.toNat < 128) :
    t.toList ∈ reservedBody.lang tables.holds ↔ reservedName t = true := by
  rw [mem_reservedBody hs, String.ofList_toList]

/-- **What the server's patterns mean** is what its executable check computes. -/
theorem serverAccepts_iff : ServerAccepts py f s ↔ serverCheck f s = true := by
  cases f with
  | fileName =>
    have hfile : fileNamePattern.MatchAt pySets s.toList ↔ matchLine fileName s = true := name_match
    have hreserved (h : matchLine fileName s = true) :
        reservedPattern.MatchAt (pyFolded py) s.toList ↔ matchLine reservedName s = true := by
      -- The pattern that ignores case is only asked about ASCII.
      have hascii := matchLine_chars (p := fun c => c.toNat < 128) (by decide)
        (fun _ ht => fileName_ascii ht) h
      exact matchLine_iff plain_reservedBody fun t ht =>
        mem_reserved fun c hc => hascii c (ht hc)
    simp only [ServerAccepts, serverCheck, validFileName, Bool.and_eq_true, Bool.not_eq_true',
      decide_eq_true_iff, hfile, and_assoc]
    refine and_congr_right fun h => and_congr_left fun _ => ?_
    rw [hreserved h, Bool.not_eq_true]
  | wingetId =>
    have hid : wingetIdPattern.MatchAt pySets s.toList ↔ wingetIdMatches s = true := name_match
    rw [ServerAccepts, serverCheck, hid, Bool.and_eq_true, decide_eq_true_iff]
  | wingetVersion =>
    have hversion : wingetVersionPattern.MatchAt pySets s.toList ↔ wingetVersionMatches s = true :=
      name_match
    rw [ServerAccepts, serverCheck, hversion, Bool.or_eq_true, decide_eq_true_iff]

/-- **What the agent's patterns mean** is what its executable check computes. -/
theorem agentAccepts_iff : AgentAccepts go f s ↔ agentCheck f s = true := by
  cases f with
  | fileName =>
    have hfile : fileNamePattern.Search goSets s.toList ↔ fileName s = true := name_search
    have hreserved (h : fileName s = true) :
        reservedPattern.Search (goFolded go) s.toList ↔ reservedName s = true :=
      search_iff plain_reservedBody (mem_reserved (fileName_ascii h))
    simp only [AgentAccepts, agentCheck, Deploy.validFileName, Bool.and_eq_true, Bool.not_eq_true',
      decide_eq_true_iff, hfile, and_assoc]
    refine and_congr_right fun h => and_congr_left fun _ => ?_
    rw [hreserved h, Bool.not_eq_true]
  | wingetId =>
    have hid : wingetIdPattern.Search goSets s.toList ↔ Deploy.wingetID s = true := name_search
    rw [AgentAccepts, agentCheck, hid]
  | wingetVersion =>
    have hversion : wingetVersionPattern.Search goSets s.toList ↔ Deploy.wingetVersion s = true :=
      name_search
    rw [AgentAccepts, agentCheck, hversion, Bool.or_eq_true, decide_eq_true_iff]

end Accepts

/-! ### Where they agree -/

/-- A text of the field's pattern, and for a file no device: what one newline may follow. -/
def Spelled : Field → String → Prop
  | .fileName, t => fileName t = true ∧ reservedName t = false
  | .wingetId, t => Deploy.wingetID t = true
  | .wingetVersion, t => Deploy.wingetVersion t = true

section Agree

variable {f : Field} {s t : String}

lemma startsAlnum_newline {p : Char → Bool} {max : ℕ} (hp : p '\n' = false) :
    startsAlnum p max (t ++ "\n") = false := by
  by_contra h
  rw [Bool.not_eq_false] at h
  have hmem : '\n' ∈ (t ++ "\n").toList := by
    rw [String.toList_append]
    exact List.mem_append_right _ List.mem_cons_self
  rcases startsAlnum_chars h '\n' hmem with hc | hc
  · exact absurd hc (by decide)
  · rw [hp] at hc
    cases hc

lemma reservedName_newline : reservedName (t ++ "\n") = false := by
  by_contra h
  rw [Bool.not_eq_false, reservedName, Bool.and_eq_true] at h
  obtain ⟨hstem, hline⟩ := h
  have hmem : '\n' ∈ (t ++ "\n").toList := by
    rw [String.toList_append]
    exact List.mem_append_right _ List.mem_cons_self
  rw [← List.takeWhile_append_dropWhile (p := fun c => decide (c ≠ '.')) (l := (t ++ "\n").toList)]
    at hmem
  rcases List.mem_append.1 hmem with hmem | hmem
  · exact absurd (reservedStem_alnum hstem _ (List.mem_map_of_mem hmem)) (by decide)
  · exact absurd (List.all_eq_true.1 hline _ hmem) (by decide)

/-- With a newline at its end, a text is refused by the agent, -/
lemma agentCheck_newline : agentCheck f (t ++ "\n") = false := by
  cases f with
  | fileName =>
    have : fileName (t ++ "\n") = false := startsAlnum_newline (by decide)
    simp [agentCheck, Deploy.validFileName, this]
  | wingetId => exact startsAlnum_newline (by decide)
  | wingetVersion =>
    have : Deploy.wingetVersion (t ++ "\n") = false := startsAlnum_newline (by decide)
    simp [agentCheck, this]

/-- and read without it by the server. -/
lemma serverCheck_newline : serverCheck f (t ++ "\n") = true ↔ Spelled f t := by
  cases f with
  | fileName =>
    have hfile : matchLine fileName (t ++ "\n") = fileName t :=
      matchLine_append (startsAlnum_newline (by decide))
    have hreserved : matchLine reservedName (t ++ "\n") = reservedName t :=
      matchLine_append reservedName_newline
    simp [serverCheck, validFileName, hfile, hreserved, Spelled]
  | wingetId =>
    have hid : wingetIdMatches (t ++ "\n") = Deploy.wingetID t :=
      matchLine_append (startsAlnum_newline (by decide))
    simp [serverCheck, hid, Spelled]
  | wingetVersion =>
    have hversion : wingetVersionMatches (t ++ "\n") = Deploy.wingetVersion t :=
      matchLine_append (startsAlnum_newline (by decide))
    simp [serverCheck, hversion, Spelled]

lemma check_eq (h : endsInNewline s = false) : serverCheck f s = agentCheck f s := by
  cases f with
  | fileName => exact validFileName_eq h
  | wingetId =>
    rw [serverCheck, agentCheck, wingetIdMatches, matchLine_eq h]
    by_cases hs : s = ""
    · subst hs
      rfl
    · simp [hs]
  | wingetVersion => rw [serverCheck, agentCheck, wingetVersionMatches, matchLine_eq h]

/-- **The two sides agree on a text** unless it is one of the field's followed by a newline. -/
theorem same_names_iff (py go : Unicode) (f : Field) (s : String) :
    (ServerAccepts py f s ↔ AgentAccepts go f s) ↔ ¬∃ t, Spelled f t ∧ s = t ++ "\n" := by
  rw [serverAccepts_iff, agentAccepts_iff]
  cases h : endsInNewline s with
  | false =>
    rw [check_eq h]
    refine iff_of_true Iff.rfl ?_
    rintro ⟨t, -, rfl⟩
    rw [endsInNewline_iff.2 ⟨t, rfl⟩] at h
    cases h
  | true =>
    obtain ⟨t, rfl⟩ := endsInNewline_iff.1 h
    rw [agentCheck_newline, serverCheck_newline, Bool.false_eq_true, iff_false]
    refine not_congr ⟨fun ht => ⟨t, ht, rfl⟩, ?_⟩
    rintro ⟨u, hu, hsame⟩
    rw [String.append_left_inj] at hsame
    exact hsame ▸ hu

/-- The author of a winget package types the newline; the agent will not deploy it. -/
theorem not_same_names : ¬∀ (py go : Unicode) (f : Field) (s : String),
    ServerAccepts py f s ↔ AgentAccepts go f s := by
  intro h
  have hcheck := h Unicode.ascii Unicode.ascii .wingetId "Mozilla.Firefox\n"
  rw [serverAccepts_iff, agentAccepts_iff] at hcheck
  exact absurd hcheck (by decide)

/-- What the agent accepts, the server does. -/
theorem agent_le_server (py go : Unicode) (h : AgentAccepts go f s) : ServerAccepts py f s := by
  rw [agentAccepts_iff] at h
  rw [serverAccepts_iff]
  cases hend : endsInNewline s with
  | false => rwa [check_eq hend]
  | true =>
    obtain ⟨t, rfl⟩ := endsInNewline_iff.1 hend
    rw [agentCheck_newline] at h
    cases h

/-- **On a stripped text**, as `_apply` makes a version and `uninstall_run`, the two sides agree. -/
theorem stripped_agrees (py go : Unicode) (typed : String) :
    ServerAccepts py f (strip typed) ↔ AgentAccepts go f (strip typed) := by
  rw [serverAccepts_iff, agentAccepts_iff, check_eq]
  by_contra h
  rw [Bool.not_eq_false, endsInNewline, decide_eq_true_iff, toList_strip, stripChars,
    List.getLast?_reverse] at h
  have hhead := List.head?_dropWhile_not isSpace (typed.toList.dropWhile isSpace).reverse
  rw [h] at hhead
  exact absurd hhead (by decide)

end Agree

end Tiai.Packages
