import Mathlib
import Tiai.Lib.Election
import Tiai.Lib.Pieces
import Tiai.Text

/-!
# The versions of the agent

`features/machine/agent_version.py`: the strings the postes report are ranked by a key, the highest is the reference,
and those below it are behind.

* `versionKey`, `latestVersion`, `outdatedVersions` — the ranking;
* `Version` — a version, well formed, and its text;
* `least_le_versionKey` — a well-formed version ranks no lower than `0--`;
* `ranking_iff` — when what is no version ranks above none.
-/

namespace Tiai.AgentVersion

open Lib

/-! ### The functions -/

/-- What Python's tables say of `\d` and of a digit's value; of ASCII they say what everybody knows. -/
structure Digits where
  value : Char → Option ℕ
  value_ascii : ∀ c : Char, c.toNat < 128 → value c = if c.isDigit then some (c.toNat - 48) else none

/-- The tables' ASCII part. -/
def Digits.ascii : Digits where
  value c := if c.isDigit then some (c.toNat - 48) else none
  value_ascii _ _ := rfl

/-- The text without the blanks around it and without its `v`. -/
def body (version : String) : List Char :=
  let text := stripChars version.toList
  if text.take 1 = ['v'] ∨ text.take 1 = ['V'] then text.drop 1 else text

/-- What is before the first hyphen. -/
def mainOf (version : String) : List Char := (body version).takeWhile fun c => c ≠ '-'

/-- What is after it. -/
def suffixOf (version : String) : List Char := ((body version).dropWhile fun c => c ≠ '-').drop 1

variable (py : Digits)

/-- No digit. -/
def Digits.isOther (c : Char) : Bool := (py.value c).isNone

/-- `_NUMERIC.findall`. -/
def numerals (text : List Char) : List (List Char) := pieces py.isOther text

/-- `int(n)`. -/
def toInt (numeral : List Char) : ℕ := numeral.foldl (fun n c => 10 * n + (py.value c).getD 0) 0

/-- Tuples are compared field by field, and a tuple of numbers with its prefix is the greater. -/
abbrev Key := List ℕ ×ₗ ℕ ×ₗ List Char

def versionKey (version : String) : Key :=
  let numbers := (numerals py (mainOf version)).map (toInt py)
  let pre := suffixOf version
  toLex (numbers, toLex (if pre = [] then 1 else 0, pre))

def latestVersion (versions : List String) : Option String :=
  electBy (fun a b => versionKey py b < versionKey py a) (versions.filter fun v => v ≠ "" ∧ strip v ≠ "")

def outdatedVersions (versions : List String) (latest : Option String) : List String :=
  match latest with
  | none => []
  | some latest =>
    let reference := versionKey py latest
    versions.filter fun v => v ≠ "" ∧ versionKey py v < reference

/-! ### Versions -/

/-- A character of a pre-release, as in `AGENT_VERSION_PATTERN`. -/
def isSuffixChar (c : Char) : Bool := c.isAlphanum || c = '.' || c = '-'

/-- A version: `[v]N(.N)*`, with a pre-release or without one. -/
structure Version where
  marked : Bool
  fields : List (List Char)
  pre : List Char
  fields_ne_nil : fields ≠ []
  field_ne_nil : ∀ f ∈ fields, f ≠ []
  digits : ∀ f ∈ fields, ∀ c ∈ f, c.isDigit = true
  suffix : ∀ c ∈ pre, isSuffixChar c = true

namespace Version

def numeric (v : Version) : List Char := ['.'].intercalate v.fields

def text (v : Version) : String :=
  String.ofList ((if v.marked then ['v'] else []) ++ v.numeric ++ if v.pre = [] then [] else '-' :: v.pre)

/-- The release that a pre-release precedes, written with its `v` or without. -/
def release (v : Version) (marked : Bool) : Version :=
  { v with
    marked := marked
    pre := []
    suffix := fun _ h => absurd h List.not_mem_nil }

end Version

def WellFormed (version : String) : Prop := ∃ v : Version, v.text = version

/-! ### The key of a version -/

variable {py} {v : Version} {c : Char}

lemma toNat_of_isDigit (h : c.isDigit = true) : 48 ≤ c.toNat ∧ c.toNat ≤ 57 := by
  unfold Char.isDigit at h
  rw [Bool.and_eq_true, decide_eq_true_eq, decide_eq_true_eq] at h
  exact ⟨UInt32.le_iff_toNat_le.1 h.1, UInt32.le_iff_toNat_le.1 h.2⟩

lemma isSpace_of_visible (h : 33 ≤ c.toNat ∧ c.toNat ≤ 126) : isSpace c = false := by
  unfold isSpace
  simp only [Bool.or_eq_false_iff, decide_eq_false_iff_not]
  omega

/-- The characters of a pre-release come after the blank, and none before the hyphen. -/
lemma toNat_of_isSuffixChar (h : isSuffixChar c = true) : 45 ≤ c.toNat ∧ c.toNat ≤ 126 := by
  unfold isSuffixChar Char.isAlphanum Char.isAlpha Char.isUpper Char.isLower Char.isDigit at h
  simp only [Bool.or_eq_true, Bool.and_eq_true, decide_eq_true_eq, ge_iff_le, UInt32.le_iff_toNat_le] at h
  rcases h with ((h | h) | h) | h
  · rcases h with h | h <;> exact ⟨le_trans (by decide) h.1, le_trans h.2 (by decide)⟩
  · exact ⟨le_trans (by decide) h.1, le_trans h.2 (by decide)⟩
  · subst h
    decide
  · subst h
    decide

lemma value_of_isDigit (py : Digits) (h : c.isDigit = true) : py.value c = some (c.toNat - 48) := by
  rw [py.value_ascii c (by have := toNat_of_isDigit h; omega), if_pos h]

lemma value_dot (py : Digits) : py.value '.' = none := by
  rw [py.value_ascii '.' (by decide)]
  rfl

lemma Version.numeric_cons (v : Version) : ∃ d rest, v.numeric = d :: rest ∧ d.isDigit = true := by
  obtain ⟨f, fields, hfields⟩ := List.exists_cons_of_ne_nil v.fields_ne_nil
  have hf : f ∈ v.fields := by
    rw [hfields]
    exact List.mem_cons_self
  obtain ⟨d, rest, rfl⟩ := List.exists_cons_of_ne_nil (v.field_ne_nil f hf)
  have hd := v.digits _ hf d List.mem_cons_self
  cases fields with
  | nil => exact ⟨d, rest, by rw [numeric, hfields, List.intercalate_singleton], hd⟩
  | cons g fields => exact ⟨d, _, by rw [numeric, hfields, List.intercalate_cons_cons]; rfl, hd⟩

lemma intercalate_char {fields : List (List Char)} (hdigits : ∀ f ∈ fields, ∀ c ∈ f, c.isDigit = true)
    (hc : c ∈ ['.'].intercalate fields) : c.isDigit = true ∨ c = '.' := by
  induction fields with
  | nil => cases hc
  | cons f fields ih =>
    have hf := hdigits f List.mem_cons_self
    cases fields with
    | nil =>
      rw [List.intercalate_singleton] at hc
      exact Or.inl (hf c hc)
    | cons g fields =>
      rw [List.intercalate_cons_cons, List.mem_append, List.mem_append, List.mem_singleton] at hc
      rcases hc with (hc | hc) | hc
      · exact Or.inl (hf c hc)
      · exact Or.inr hc
      · exact ih (fun g hg => hdigits g (List.mem_cons_of_mem f hg)) hc

lemma Version.numeric_char (hc : c ∈ v.numeric) : c.isDigit = true ∨ c = '.' := intercalate_char v.digits hc

lemma Version.isSpace_text (hc : c ∈ v.text.toList) : isSpace c = false := by
  rw [text, String.toList_ofList, List.mem_append, List.mem_append] at hc
  refine isSpace_of_visible ?_
  rcases hc with (hc | hc) | hc
  · split at hc
    · obtain rfl := List.mem_singleton.1 hc
      decide
    · cases hc
  · rcases numeric_char hc with h | rfl
    · have := toNat_of_isDigit h
      omega
    · decide
  · split at hc
    · cases hc
    · rcases List.mem_cons.1 hc with rfl | hc
      · decide
      · have := toNat_of_isSuffixChar (v.suffix c hc)
        omega

lemma body_text (v : Version) : body v.text = v.numeric ++ if v.pre = [] then [] else '-' :: v.pre := by
  obtain ⟨d, rest, hnumeric, hd⟩ := v.numeric_cons
  have hmark : ∀ m : Char, m.isDigit = false → d ≠ m := by
    rintro m hm rfl
    rw [hm] at hd
    cases hd
  rw [body, stripChars_of_forall fun c hc => Version.isSpace_text hc, Version.text, String.toList_ofList, hnumeric]
  cases v.marked with
  | true => rfl
  | false =>
    refine if_neg ?_
    rintro (h | h)
    · exact hmark 'v' rfl (List.cons.inj h).1
    · exact hmark 'V' rfl (List.cons.inj h).1

lemma Version.ne_hyphen (hc : c ∈ v.numeric) : decide (c ≠ '-') = true := by
  refine decide_eq_true ?_
  rintro rfl
  rcases numeric_char hc with h | h <;> cases h

lemma mainOf_text (v : Version) : mainOf v.text = v.numeric := by
  rw [mainOf, body_text, List.takeWhile_append_of_pos fun c hc => Version.ne_hyphen hc]
  split
  · exact List.append_nil _
  · rw [List.takeWhile_cons_of_neg (by decide), List.append_nil]

lemma suffixOf_text (v : Version) : suffixOf v.text = v.pre := by
  rw [suffixOf, body_text, List.dropWhile_append_of_pos fun c hc => Version.ne_hyphen hc]
  split
  · rename_i h
    rw [h]
    rfl
  · rw [List.dropWhile_cons_of_neg (by decide)]
    rfl

/-- The numerals of fields with points between them are the fields. -/
lemma numerals_intercalate (py : Digits) {fields : List (List Char)} (hne : ∀ f ∈ fields, f ≠ [])
    (hdigits : ∀ f ∈ fields, ∀ c ∈ f, c.isDigit = true) : numerals py (['.'].intercalate fields) = fields := by
  have hrun : ∀ f ∈ fields, ∀ c ∈ f, py.isOther c = false := by
    intro f hf c hc
    rw [Digits.isOther, value_of_isDigit py (hdigits f hf c hc)]
    rfl
  induction fields with
  | nil => exact pieces_eq_nil_iff.2 fun c hc => absurd hc List.not_mem_nil
  | cons f fields ih =>
    have hf := pieces_of_forall_not (hrun f List.mem_cons_self) (hne f List.mem_cons_self)
    cases fields with
    | nil => rw [List.intercalate_singleton, numerals, hf]
    | cons g fields =>
      have hdot : py.isOther '.' = true := by
        rw [Digits.isOther, value_dot]
        rfl
      have hrest := ih (fun h hh => hne h (List.mem_cons_of_mem f hh))
        (fun h hh => hdigits h (List.mem_cons_of_mem f hh)) fun h hh => hrun h (List.mem_cons_of_mem f hh)
      rw [List.intercalate_cons_cons, List.append_assoc, List.singleton_append, numerals, pieces_append_break hdot,
        hf, ← numerals, hrest]
      rfl

lemma numerals_numeric (py : Digits) (v : Version) : numerals py v.numeric = v.fields :=
  numerals_intercalate py v.field_ne_nil v.digits

lemma versionKey_text (py : Digits) (v : Version) : versionKey py v.text =
    toLex (v.fields.map (toInt py), toLex (if v.pre = [] then 1 else 0, v.pre)) := by
  rw [versionKey, mainOf_text, suffixOf_text, numerals_numeric]

/-! ### The least version -/

/-- What `0--` ranks as. -/
def leastKey : Key := toLex ([0], toLex (0, ['-']))

def leastVersion : Version where
  marked := false
  fields := [['0']]
  pre := ['-']
  fields_ne_nil := List.cons_ne_nil _ _
  field_ne_nil := by simp
  digits := by simp
  suffix := by simp; decide

lemma versionKey_least (py : Digits) : versionKey py leastVersion.text = leastKey := by
  have hzero : py.value '0' = some 0 := value_of_isDigit py rfl
  rw [versionKey_text]
  simp [leastVersion, toInt, hzero, leastKey]

lemma nil_le {α : Type} [LinearOrder α] (l : List α) : [] ≤ l := by
  cases l with
  | nil => exact le_rfl
  | cons a l =>
    have hlt : [] < a :: l := List.Lex.nil
    exact hlt.le

lemma singleton_le_cons {α : Type} [LinearOrder α] {a b : α} (h : a ≤ b) (l : List α) : [a] ≤ b :: l := by
  rcases h.lt_or_eq with hlt | rfl
  · have hlt : [a] < b :: l := List.Lex.rel hlt
    exact hlt.le
  · exact List.cons_le_cons a (nil_le l)

/-- A number comes first, and none is lower than a zero. -/
lemma singleton_zero_le {l : List ℕ} (h : l ≠ []) : [0] ≤ l := by
  obtain ⟨n, l, rfl⟩ := List.exists_cons_of_ne_nil h
  exact singleton_le_cons (Nat.zero_le n) l

lemma hyphen_le {p : List Char} (h : p ≠ []) (hp : ∀ c ∈ p, isSuffixChar c = true) : ['-'] ≤ p := by
  obtain ⟨c, p, rfl⟩ := List.exists_cons_of_ne_nil h
  have hc : '-' ≤ c := (toNat_of_isSuffixChar (hp c List.mem_cons_self)).1
  exact singleton_le_cons hc p

theorem least_le_versionKey (py : Digits) (v : Version) : leastKey ≤ versionKey py v.text := by
  rw [versionKey_text, leastKey, Prod.Lex.toLex_le_toLex]
  have hnumbers : v.fields.map (toInt py) ≠ [] := by simpa using v.fields_ne_nil
  rcases (singleton_zero_le hnumbers).lt_or_eq with hlt | heq
  · exact Or.inl hlt
  · refine Or.inr ⟨heq, Prod.Lex.toLex_le_toLex.2 ?_⟩
    by_cases hpre : v.pre = []
    · rw [if_pos hpre]
      exact Or.inl Nat.zero_lt_one
    · rw [if_neg hpre]
      exact Or.inr ⟨rfl, hyphen_le hpre v.suffix⟩

/-! ### What ranks above no version -/

/-- The only number of a text is zero. -/
def LoneZero (py : Digits) (text : List Char) : Prop :=
  ∃ a zeros b, text = a ++ zeros ++ b ∧ zeros ≠ [] ∧ (∀ c ∈ zeros, py.value c = some 0) ∧
    (∀ c ∈ a, py.value c = none) ∧ ∀ c ∈ b, py.value c = none

/-- There is no digit before the first hyphen; or no number but a zero, and what follows is no more than a hyphen. -/
def Harmless (py : Digits) (version : String) : Prop :=
  (∀ c ∈ mainOf version, py.value c = none) ∨
    LoneZero py (mainOf version) ∧ suffixOf version ≠ [] ∧ suffixOf version ≤ ['-']

variable {text : List Char}

lemma isOther_eq_true : py.isOther c = true ↔ py.value c = none := Option.isNone_iff_eq_none

lemma numerals_eq_nil_iff : numerals py text = [] ↔ ∀ c ∈ text, py.value c = none := by
  rw [numerals, pieces_eq_nil_iff]
  exact forall₂_congr fun c _ => isOther_eq_true

/-- A numeral is zero when its digits are. -/
lemma toInt_eq_zero_iff {numeral : List Char} (h : ∀ c ∈ numeral, py.isOther c = false) :
    toInt py numeral = 0 ↔ ∀ c ∈ numeral, py.value c = some 0 := by
  have hfold : ∀ n, numeral.foldl (fun n c => 10 * n + (py.value c).getD 0) n = 0 ↔
      n = 0 ∧ ∀ c ∈ numeral, py.value c = some 0 := by
    induction numeral with
    | nil => simp
    | cons c numeral ih =>
      intro n
      obtain ⟨d, hd⟩ := Option.ne_none_iff_exists'.1 fun hnone => by
        have := h c List.mem_cons_self
        rw [isOther_eq_true.2 hnone] at this
        cases this
      rw [List.foldl_cons, ih fun e he => h e (List.mem_cons_of_mem c he), List.forall_mem_cons, hd, Option.getD_some,
        Option.some_inj]
      constructor
      · rintro ⟨hzero, hall⟩
        exact ⟨by omega, by omega, hall⟩
      · rintro ⟨rfl, rfl, hall⟩
        exact ⟨rfl, hall⟩
  rw [toInt, hfold, and_iff_right rfl]

lemma numbers_eq_zero_iff : (numerals py text).map (toInt py) = [0] ↔ LoneZero py text := by
  constructor
  · intro h
    obtain ⟨numeral, hnumeral, hzero⟩ := List.map_eq_singleton_iff.1 h
    obtain ⟨hne, hdigits, a, b, rfl, ha, hb⟩ := pieces_eq_singleton_iff.1 hnumeral
    exact ⟨a, numeral, b, rfl, hne, (toInt_eq_zero_iff hdigits).1 hzero, fun c hc => isOther_eq_true.1 (ha c hc),
      fun c hc => isOther_eq_true.1 (hb c hc)⟩
  · rintro ⟨a, zeros, b, rfl, hne, hzeros, ha, hb⟩
    have hdigits : ∀ c ∈ zeros, py.isOther c = false := by
      intro c hc
      rw [Digits.isOther, hzeros c hc]
      rfl
    have hone : numerals py (a ++ zeros ++ b) = [zeros] := pieces_eq_singleton_iff.2
      ⟨hne, hdigits, a, b, rfl, fun c hc => isOther_eq_true.2 (ha c hc), fun c hc => isOther_eq_true.2 (hb c hc)⟩
    rw [hone, List.map_singleton, (toInt_eq_zero_iff hdigits).2 hzeros]

lemma lt_singleton_zero_iff {l : List ℕ} : l < [0] ↔ l = [] := by
  constructor
  · intro h
    by_contra hne
    exact absurd h (singleton_zero_le hne).not_gt
  · rintro rfl
    exact List.Lex.nil

/-- A release ranks above its pre-releases, whatever they are called. -/
lemma suffix_le_iff {pre : List Char} :
    toLex (if pre = [] then 1 else 0, pre) ≤ toLex (0, ['-']) ↔ pre ≠ [] ∧ pre ≤ ['-'] := by
  rw [Prod.Lex.toLex_le_toLex]
  by_cases h : pre = []
  · simp [h]
  · simp [h]

lemma versionKey_le_least_iff (version : String) : versionKey py version ≤ leastKey ↔ Harmless py version := by
  rw [versionKey, leastKey, Harmless, ← numbers_eq_zero_iff, ← numerals_eq_nil_iff, Prod.Lex.toLex_le_toLex]
  dsimp only
  rw [lt_singleton_zero_iff, List.map_eq_nil_iff, suffix_le_iff]

/-! ### The ranking -/

/-- What is asked of the ranking of some strings: a total preorder where what is no version ranks above none, a
pre-release ranks below its release, and the latest is not behind. -/
structure Ranking (py : Digits) (reported : List String) : Prop where
  refl : ∀ a ∈ reported, versionKey py a ≤ versionKey py a
  trans : ∀ a ∈ reported, ∀ b ∈ reported, ∀ c ∈ reported, versionKey py a ≤ versionKey py b →
    versionKey py b ≤ versionKey py c → versionKey py a ≤ versionKey py c
  total : ∀ a ∈ reported, ∀ b ∈ reported, versionKey py a ≤ versionKey py b ∨ versionKey py b ≤ versionKey py a
  malformed : ∀ m ∈ reported, ¬ WellFormed m → ∀ v : Version, ¬ versionKey py v.text < versionKey py m
  prerelease : ∀ (v : Version) (marked : Bool), v.pre ≠ [] →
    versionKey py v.text < versionKey py (v.release marked).text
  latest : ∀ l, latestVersion py reported = some l → l ∉ outdatedVersions py reported (some l)

lemma prerelease_lt_release (v : Version) (marked : Bool) (h : v.pre ≠ []) :
    versionKey py v.text < versionKey py (v.release marked).text := by
  rw [versionKey_text, versionKey_text, if_neg h, Prod.Lex.toLex_lt_toLex]
  exact Or.inr ⟨rfl, Prod.Lex.toLex_lt_toLex.2 (Or.inl Nat.zero_lt_one)⟩

lemma latest_not_outdated (versions : List String) (l : String) : l ∉ outdatedVersions py versions (some l) := by
  intro h
  have hbehind := List.of_mem_filter h
  exact lt_irrefl _ (of_decide_eq_true hbehind).2

lemma latestVersion_leading {versions : List String} {l : String} (hl : latestVersion py versions = some l) :
    Leading (fun a b => versionKey py b < versionKey py a) (versions.filter fun v => v ≠ "" ∧ strip v ≠ "") l := by
  have hbetter : ∀ a b : String, decide (versionKey py b < versionKey py a) = true ↔
      OrderDual.toDual (versionKey py a) < OrderDual.toDual (versionKey py b) := by
    intro a b
    rw [decide_eq_true_eq, OrderDual.toDual_lt_toDual]
  exact electBy_leading hbetter hl

/-- The reference is reported, and no version that is reported ranks above it. -/
lemma le_latestVersion {versions : List String} {l v : String} (hl : latestVersion py versions = some l)
    (hv : v ∈ versions) (hblank : strip v ≠ "") : l ∈ versions ∧ versionKey py v ≤ versionKey py l := by
  have hne : v ≠ "" := by
    rintro rfl
    exact hblank rfl
  have hcandidate : v ∈ versions.filter fun v => v ≠ "" ∧ strip v ≠ "" :=
    List.mem_filter.2 ⟨hv, decide_eq_true ⟨hne, hblank⟩⟩
  obtain ⟨hmem, hleading⟩ := latestVersion_leading hl
  exact ⟨(List.mem_filter.1 hmem).1, le_of_not_gt (of_decide_eq_false (hleading v hcandidate))⟩

/-- **What is no version is harmless when it has no number.**  The ranking of the strings that are reported is a total
preorder in which what is no version never ranks above one, exactly when each string that is no version has no digit
before its first hyphen, or nothing but a zero there and after it no more than a hyphen. -/
theorem ranking_iff (py : Digits) (reported : List String) :
    Ranking py reported ↔ ∀ m ∈ reported, ¬ WellFormed m → Harmless py m := by
  constructor
  · intro h m hm hmalformed
    have hleast := h.malformed m hm hmalformed leastVersion
    rw [versionKey_least, not_lt] at hleast
    exact (versionKey_le_least_iff m).1 hleast
  · intro h
    refine ⟨fun a _ => le_rfl, fun a _ b _ c _ => le_trans, fun a _ b _ => le_total _ _, ?_, prerelease_lt_release,
      fun l _ => latest_not_outdated reported l⟩
    intro m hm hmalformed v
    exact (((versionKey_le_least_iff m).2 (h m hm hmalformed)).trans (least_le_versionKey py v)).not_gt

/-- An agent built from an untagged tree, that reports its commit. -/
def untagged : List String := ["0.5.0", "7f3a9c2", "0.5.0-dev.1"]

/-- It becomes the reference, and every version is behind. -/
theorem untagged_is_latest : ¬ Ranking Digits.ascii untagged ∧ latestVersion Digits.ascii untagged = some "7f3a9c2" ∧
    outdatedVersions Digits.ascii untagged (some "7f3a9c2") = ["0.5.0", "0.5.0-dev.1"] := by
  refine ⟨fun h => ?_, by decide +kernel, by decide +kernel⟩
  refine h.malformed "7f3a9c2" (by simp [untagged]) ?_ ⟨false, [['0'], ['5'], ['0']], [], by decide,
    by simp, by simp, by simp⟩ (by decide +kernel)
  rintro ⟨v, hv⟩
  have hnumeric : v.numeric = "7f3a9c2".toList := by
    rw [← mainOf_text, hv]
    decide +kernel
  have hf : 'f' ∈ v.numeric := by
    rw [hnumeric]
    decide
  rcases Version.numeric_char hf with h | h <;> cases h

end Tiai.AgentVersion
