import Mathlib

/-!
# `LIKE` and `ILIKE`

The patterns of SQL: `%` stands for any run of characters, `_` for any one, and a backslash takes the next character
for itself.  `ILIKE` lowers the pattern and the text first.

* `tokens`, `fits`, `like` — a pattern read, and a text that fits it;
* `fits_around_iff` — a text fits a literal between two runs when it contains it;
* `shortest` — a text that fits a pattern, with nothing for its runs;
* `Folding`, `ilike` — lower case, which leaves the three characters alone;
* `ilike_around_iff` — a plain text between two runs finds what contains it;
* `not_contains_found` — a text that is not plain finds what does not contain it.
-/

namespace Tiai.Lib.Like

/-! ### Patterns -/

inductive Token
  | exactly (c : Char)
  | one
  | run
  deriving DecidableEq

def escape : Char := '\\'

/-- The characters that a pattern does not take for themselves. -/
def specials : List Char := ['%', '_', escape]

/-- A pattern read.  It is an error to end in an escape; such a pattern is read as if it did not. -/
def tokens : List Char → List Token
  | [] => []
  | [c] => if c = '%' then [.run] else if c = '_' then [.one] else if c = escape then [] else [.exactly c]
  | c :: d :: p =>
    if c = escape then .exactly d :: tokens p
    else (if c = '%' then .run else if c = '_' then .one else .exactly c) :: tokens (d :: p)

def fits : List Token → List Char → Bool
  | [], t => t.isEmpty
  | .exactly _ :: _, [] => false
  | .exactly c :: p, d :: t => c = d && fits p t
  | .one :: _, [] => false
  | .one :: p, _ :: t => fits p t
  | .run :: p, t => t.tails.any (fits p)

def like (pattern text : List Char) : Bool := fits (tokens pattern) text

/-! ### Runs and literals -/

lemma fits_run_iff {p : List Token} {t : List Char} : fits (.run :: p) t = true ↔ ∃ u, u <:+ t ∧ fits p u = true := by
  simp [fits]

lemma fits_literal_iff {l t : List Char} :
    fits (l.map .exactly ++ [.run]) t = true ↔ l <+: t := by
  induction l generalizing t with
  | nil =>
    rw [List.map_nil, List.nil_append, fits_run_iff]
    exact iff_of_true ⟨[], List.nil_suffix, rfl⟩ List.nil_prefix
  | cons c l ih =>
    cases t with
    | nil => simp [fits]
    | cons d t => simp [fits, ih, List.cons_prefix_cons]

/-- **Between two runs** a literal fits where it is contained. -/
theorem fits_around_iff {l t : List Char} :
    fits (.run :: (l.map .exactly ++ [.run])) t = true ↔ l <:+: t := by
  rw [fits_run_iff, List.infix_iff_prefix_suffix]
  simp only [fits_literal_iff]
  constructor
  · rintro ⟨u, hsuffix, hprefix⟩
    exact ⟨u, hprefix, hsuffix⟩
  · rintro ⟨u, hprefix, hsuffix⟩
    exact ⟨u, hsuffix, hprefix⟩

/-- A text that fits, with nothing for the runs and `%` for any one character. -/
def shortest : List Token → List Char
  | [] => []
  | .exactly c :: p => c :: shortest p
  | .one :: p => '%' :: shortest p
  | .run :: p => shortest p

lemma fits_shortest (p : List Token) : fits p (shortest p) = true := by
  induction p with
  | nil => rfl
  | cons token p ih =>
    cases token with
    | exactly c => simp [shortest, fits, ih]
    | one => simp [shortest, fits, ih]
    | run => exact fits_run_iff.2 ⟨_, List.suffix_rfl, ih⟩

/-! ### Texts between two runs -/

/-- The pattern `%text%`. -/
def around (text : List Char) : List Char := '%' :: (text ++ ['%'])

/-- None of the characters is special. -/
def Plain (text : List Char) : Prop := ∀ c ∈ text, c ∉ specials

instance (text : List Char) : Decidable (Plain text) := by
  unfold Plain
  infer_instance

lemma Plain.tail {c : Char} {text : List Char} (h : Plain (c :: text)) : Plain text :=
  fun d hd => h d (List.mem_cons_of_mem c hd)

lemma ne_of_plain {c : Char} {text : List Char} (h : Plain (c :: text)) : c ≠ escape ∧ c ≠ '%' ∧ c ≠ '_' := by
  have hc := h c List.mem_cons_self
  simp only [specials, List.mem_cons, List.not_mem_nil, or_false, not_or] at hc
  exact ⟨hc.2.2, hc.1, hc.2.1⟩

lemma tokens_cons {c : Char} (h : c ≠ escape) (p : List Char) : tokens (c :: p) =
    (if c = '%' then .run else if c = '_' then .one else .exactly c) :: tokens p := by
  cases p with
  | nil =>
    unfold tokens
    split_ifs <;> rfl
  | cons d p =>
    rw [tokens, if_neg h]

lemma tokens_escape (d : Char) (p : List Char) : tokens (escape :: d :: p) = .exactly d :: tokens p := by
  rw [tokens, if_pos rfl]

/-- Induction along a pattern: an escape goes with the character it is before. -/
lemma pattern_induction {P : List Char → Prop} (nil : P []) (last : P [escape])
    (escaped : ∀ d p, P p → P (escape :: d :: p)) (other : ∀ c p, c ≠ escape → P p → P (c :: p)) : ∀ p, P p
  | [] => nil
  | [c] => by
    by_cases h : c = escape
    · rw [h]
      exact last
    · exact other c [] h nil
  | c :: d :: p => by
    by_cases h : c = escape
    · rw [h]
      exact escaped d p (pattern_induction nil last escaped other p)
    · exact other c (d :: p) h (pattern_induction nil last escaped other (d :: p))

lemma tokens_around (text : List Char) : tokens (around text) = .run :: tokens (text ++ ['%']) :=
  tokens_cons (by decide) _

lemma tokens_plain {text : List Char} (h : Plain text) : tokens (text ++ ['%']) = text.map .exactly ++ [.run] := by
  induction text with
  | nil => rfl
  | cons c text ih =>
    obtain ⟨hescape, hrun, hone⟩ := ne_of_plain h
    rw [List.cons_append, tokens_cons hescape, if_neg hrun, if_neg hone, ih h.tail]
    rfl

/-- A plain text finds what contains it. -/
lemma like_around_iff {text value : List Char} (h : Plain text) : like (around text) value = true ↔ text <:+: value := by
  unfold like
  rw [tokens_around, tokens_plain h, fits_around_iff]

/-! ### Without regard to case -/

/-- Lower case, character by character. -/
structure Folding where
  lower : Char → Char
  /-- It makes none of the three special characters, and changes none. -/
  special : ∀ w ∈ specials, ∀ c, lower c = w ↔ c = w

variable (folding : Folding)

def ilike (pattern value : List Char) : Bool := like (pattern.map folding.lower) (value.map folding.lower)

/-- The value contains the text, ignoring case. -/
def Contains (text value : List Char) : Prop := text.map folding.lower <:+: value.map folding.lower

instance (text value : List Char) : Decidable (Contains folding text value) := by
  unfold Contains
  infer_instance

variable {folding}

lemma lower_special {w : Char} (h : w ∈ specials) : folding.lower w = w := (folding.special w h w).2 rfl

lemma lower_mem_specials {c : Char} : folding.lower c ∈ specials ↔ c ∈ specials := by
  constructor
  · intro h
    have heq : c = folding.lower c := (folding.special _ h c).1 rfl
    rw [heq]
    exact h
  · intro h
    rwa [lower_special h]

lemma plain_map_iff {text : List Char} : Plain (text.map folding.lower) ↔ Plain text := by
  unfold Plain
  simp [lower_mem_specials]

lemma map_around (text : List Char) : (around text).map folding.lower = around (text.map folding.lower) := by
  have hrun : folding.lower '%' = '%' := lower_special (by decide)
  simp [around, hrun]

/-- **A plain text** between two runs finds what contains it. -/
theorem ilike_around_iff {text value : List Char} (h : Plain text) :
    ilike folding (around text) value = true ↔ Contains folding text value := by
  unfold ilike Contains
  rw [map_around, like_around_iff (plain_map_iff.2 h)]

/-! ### Texts that are not plain -/

/-- The shortest text that a text finds. -/
def found (text : List Char) : List Char := shortest (tokens (text ++ ['%']))

/-- A plain text finds itself first. -/
lemma found_plain {text : List Char} (h : Plain text) : found text = text := by
  rw [found, tokens_plain h]
  clear h
  induction text with
  | nil => rfl
  | cons c text ih => rw [List.map_cons, List.cons_append, shortest, ih]

def Token.lowered (folding : Folding) : Token → Token
  | .exactly c => .exactly (folding.lower c)
  | token => token

lemma tokens_map (p : List Char) : tokens (p.map folding.lower) = (tokens p).map (Token.lowered folding) := by
  have hsame {c w : Char} (h : w ∈ specials) : folding.lower c = w ↔ c = w := folding.special w h c
  have hrun {c : Char} : folding.lower c = '%' ↔ c = '%' := hsame (by decide)
  have hone {c : Char} : folding.lower c = '_' ↔ c = '_' := hsame (by decide)
  have hescape {c : Char} : folding.lower c = escape ↔ c = escape := hsame (by decide)
  induction p using pattern_induction with
  | nil => rfl
  | last =>
    rw [List.map_cons, hescape.2 rfl]
    rfl
  | escaped d p ih =>
    rw [List.map_cons, List.map_cons, hescape.2 rfl, tokens_escape, tokens_escape, ih]
    rfl
  | other c p hc ih =>
    rw [List.map_cons, tokens_cons (mt hescape.1 hc), ih, tokens_cons hc]
    simp only [hrun, hone, List.map_cons, List.cons.injEq, and_true]
    split_ifs <;> rfl

lemma shortest_map (p : List Token) :
    shortest (p.map (Token.lowered folding)) = (shortest p).map folding.lower := by
  have hrun : folding.lower '%' = '%' := lower_special (by decide)
  induction p with
  | nil => rfl
  | cons token p ih =>
    cases token with
    | exactly c => simp [shortest, Token.lowered, ih]
    | one => simp [shortest, Token.lowered, ih, hrun]
    | run => simp [shortest, Token.lowered, ih]

/-- It is found. -/
lemma ilike_found (folding : Folding) (text : List Char) : ilike folding (around text) (found text) = true := by
  unfold ilike like found
  rw [map_around, tokens_around, fits_run_iff]
  refine ⟨_, List.suffix_rfl, ?_⟩
  have hrun : folding.lower '%' = '%' := lower_special (by decide)
  have hmap : text.map folding.lower ++ ['%'] = (text ++ ['%']).map folding.lower := by simp [hrun]
  rw [hmap, tokens_map, ← shortest_map]
  exact fits_shortest _

lemma found_escape (d : Char) (text : List Char) : found (escape :: d :: text) = d :: found text := by
  unfold found
  rw [List.cons_append, List.cons_append, tokens_escape]
  rfl

lemma found_cons {c : Char} (h : c ≠ escape) (text : List Char) : found (c :: text) =
    if c = '%' then found text else if c = '_' then '%' :: found text else c :: found text := by
  unfold found
  rw [List.cons_append, tokens_cons h]
  split_ifs <;> rfl

/-- It is no longer than the text, and as long only where nothing is taken for itself. -/
lemma found_spec (text : List Char) : (found text).length ≤ text.length ∧
    ((found text).map folding.lower = text.map folding.lower → Plain text) := by
  have hrun : folding.lower '%' = '%' := lower_special (by decide)
  have hone : folding.lower '_' = '_' := lower_special (by decide)
  have hescape : folding.lower escape = escape := lower_special (by decide)
  induction text using pattern_induction with
  | nil => exact ⟨Nat.zero_le _, fun _ c hc => absurd hc List.not_mem_nil⟩
  | last =>
    refine ⟨Nat.le_refl 1, fun h => ?_⟩
    rw [show found [escape] = ['%'] from rfl, List.map_cons, List.map_cons, hrun, hescape,
      List.cons.injEq] at h
    exact absurd h.1 (by decide)
  | escaped d text ih =>
    rw [found_escape]
    refine ⟨by simpa using Nat.le_succ_of_le ih.1, fun h => ?_⟩
    have hlen := congrArg List.length h
    simp only [List.map_cons, List.length_cons, List.length_map] at hlen
    omega
  | other c text hc ih =>
    rw [found_cons hc]
    split_ifs with hpercent hunderscore
    · -- A run has nothing.
      refine ⟨Nat.le_succ_of_le ih.1, fun h => ?_⟩
      have hlen := congrArg List.length h
      simp only [List.length_cons, List.length_map] at hlen
      omega
    · refine ⟨Nat.succ_le_succ ih.1, fun h => ?_⟩
      rw [List.map_cons, List.map_cons, List.cons.injEq, hunderscore, hrun, hone] at h
      exact absurd h.1 (by decide)
    · refine ⟨Nat.succ_le_succ ih.1, fun h d hd => ?_⟩
      rw [List.map_cons, List.map_cons, List.cons.injEq] at h
      rcases List.mem_cons.1 hd with rfl | hd
      · simp [specials, hc, hpercent, hunderscore]
      · exact ih.2 h.2 d hd

/-- **A text that is not plain** finds what does not contain it. -/
theorem not_contains_found {text : List Char} (h : ¬ Plain text) : ¬ Contains folding text (found text) := by
  intro hcontains
  obtain ⟨hle, hsame⟩ := @found_spec folding text
  refine h (hsame ?_)
  have hlen := hcontains.length_le
  rw [List.length_map, List.length_map] at hlen
  exact (hcontains.sublist.eq_of_length (by rw [List.length_map, List.length_map]; omega)).symm

end Tiai.Lib.Like
