import Mathlib.Computability.Language
import Mathlib.Logic.Relation

/-!
# Regular expressions with anchors

A pattern is syntax over names `κ` of character classes; an engine says what a class holds and where
`$` stands.  `Run` is the meaning of a pattern at a place of a text, anchors included; `lang` is the
language of a pattern without anchors.

* `run_iff` — a pattern without anchors eats a word of its language, wherever it stands;
* `matchAt_line`, `search_line` — between `^` and `$`, matching at the start and searching are the same;
* `matchAt_line_of_end`, `matchAt_line_of_newline` — what the two meanings of `$` make of a line.
-/

namespace Tiai.Lib

/-- A pattern over the classes `κ`. -/
inductive Regex (κ : Type*) where
  | eps
  | cls (k : κ)
  | seq (a b : Regex κ)
  | alt (a b : Regex κ)
  | star (a : Regex κ)
  /-- `^` -/
  | start
  /-- `$` -/
  | stop

/-- What a class holds, and whether `$` stands before what is left of the text. -/
structure Engine (κ α : Type*) where
  holds : κ → α → Bool
  stops : List α → Bool

namespace Regex

variable {κ α : Type*}

/-- `a?`. -/
def opt (a : Regex κ) : Regex κ := alt a eps

/-- `a{0,n}`. -/
def upTo (a : Regex κ) : ℕ → Regex κ
  | 0 => eps
  | n + 1 => opt (seq a (upTo a n))

/-- The classes one after the other. -/
def word : List κ → Regex κ
  | [] => eps
  | k :: ks => seq (cls k) (word ks)

/-- One of several. -/
def oneOf : Regex κ → List (Regex κ) → Regex κ
  | a, [] => a
  | a, b :: bs => alt a (oneOf b bs)

/-- `^a$`. -/
def line (a : Regex κ) : Regex κ := seq start (seq a stop)

/-- No anchor in it. -/
def Plain : Regex κ → Prop
  | eps | cls _ => True
  | seq a b | alt a b => a.Plain ∧ b.Plain
  | star a => a.Plain
  | start | stop => False

/-! ### What a pattern means -/

/-- From one place of a text to another: a place is what stands before it and what is left. -/
def Run (e : Engine κ α) : Regex κ → List α × List α → List α × List α → Prop
  | eps => Eq
  | cls k => fun p q => ∃ c, e.holds k c = true ∧ p.2 = c :: q.2 ∧ q.1 = p.1 ++ [c]
  | seq a b => Relation.Comp (a.Run e) (b.Run e)
  | alt a b => fun p q => a.Run e p q ∨ b.Run e p q
  | star a => Relation.ReflTransGen (a.Run e)
  | start => fun p q => p = q ∧ p.1 = []
  | stop => fun p q => p = q ∧ e.stops p.2 = true

/-- The pattern matches at the start of the text. -/
def MatchAt (e : Engine κ α) (a : Regex κ) (s : List α) : Prop := ∃ q, a.Run e ([], s) q

/-- The pattern matches somewhere in the text. -/
def Search (e : Engine κ α) (a : Regex κ) (s : List α) : Prop :=
  ∃ p q, p.1 ++ p.2 = s ∧ a.Run e p q

/-- The words of a pattern without anchors. -/
def lang (holds : κ → α → Bool) : Regex κ → Language α
  | eps => 1
  | cls k => {w | ∃ c, holds k c = true ∧ w = [c]}
  | seq a b => a.lang holds * b.lang holds
  | alt a b => a.lang holds + b.lang holds
  | star a => KStar.kstar (a.lang holds)
  | start | stop => 0

section Run

variable {e : Engine κ α} {a : Regex κ} {p q : List α × List α} {s : List α}

lemma run_star (ih : ∀ p q, a.Run e p q ↔ ∃ w ∈ a.lang e.holds, p.2 = w ++ q.2 ∧ q.1 = p.1 ++ w) :
    (star a).Run e p q ↔ ∃ w ∈ (star a).lang e.holds, p.2 = w ++ q.2 ∧ q.1 = p.1 ++ w := by
  constructor
  · intro h
    induction h with
    | refl => exact ⟨[], Language.nil_mem_kstar _, rfl, (List.append_nil _).symm⟩
    | tail _ hstep ihp =>
      obtain ⟨w, hw, hw2, hw1⟩ := ihp
      obtain ⟨L, rfl, hL⟩ := Language.mem_kstar.1 hw
      obtain ⟨v, hv, hv2, hv1⟩ := (ih _ _).1 hstep
      refine ⟨L.flatten ++ v, Language.mem_kstar.2 ⟨L ++ [v], by simp, ?_⟩, ?_, ?_⟩
      · intro y hy
        rcases List.mem_append.1 hy with hy | hy
        · exact hL y hy
        · exact List.mem_singleton.1 hy ▸ hv
      · rw [hw2, hv2, List.append_assoc]
      · rw [hv1, hw1, List.append_assoc]
  · rintro ⟨w, hw, hw2, hw1⟩
    obtain ⟨L, rfl, hL⟩ := Language.mem_kstar.1 hw
    -- One turn of the star for each word of the list.
    induction L generalizing p with
    | nil =>
      obtain rfl : p = q := Prod.ext (by simpa using hw1.symm) (by simpa using hw2)
      exact .refl
    | cons v L ihL =>
      have hv : a.Run e p (p.1 ++ v, L.flatten ++ q.2) := by
        refine (ih _ _).2 ⟨v, hL v (by simp), ?_, rfl⟩
        rw [hw2, List.flatten_cons, List.append_assoc]
      have hrest : ∀ y ∈ L, y ∈ a.lang e.holds := fun y hy => hL y (List.mem_cons_of_mem v hy)
      refine .head hv (ihL hrest (Language.join_mem_kstar hrest) rfl ?_)
      rw [hw1, List.flatten_cons, List.append_assoc]

/-- **A pattern without anchors** goes from a place to another exactly over a word of its language. -/
theorem run_iff (h : a.Plain) :
    a.Run e p q ↔ ∃ w ∈ a.lang e.holds, p.2 = w ++ q.2 ∧ q.1 = p.1 ++ w := by
  induction a generalizing p q with
  | eps =>
    constructor
    · rintro rfl
      exact ⟨[], Language.nil_mem_one, rfl, (List.append_nil _).symm⟩
    · rintro ⟨w, hw, hw2, hw1⟩
      obtain rfl : w = [] := hw
      exact Prod.ext (by simpa using hw1.symm) (by simpa using hw2)
  | cls k =>
    constructor
    · rintro ⟨c, hc, h2, h1⟩
      exact ⟨[c], ⟨c, hc, rfl⟩, h2, h1⟩
    · rintro ⟨w, ⟨c, hc, rfl⟩, h2, h1⟩
      exact ⟨c, hc, h2, h1⟩
  | seq a b iha ihb =>
    constructor
    · rintro ⟨r, ha, hb⟩
      obtain ⟨v, hv, hv2, hv1⟩ := (iha h.1).1 ha
      obtain ⟨w, hw, hw2, hw1⟩ := (ihb h.2).1 hb
      refine ⟨v ++ w, Language.append_mem_mul hv hw, ?_, ?_⟩
      · rw [hv2, hw2, List.append_assoc]
      · rw [hw1, hv1, List.append_assoc]
    · rintro ⟨u, hu, h2, h1⟩
      obtain ⟨v, hv, w, hw, rfl⟩ := Language.mem_mul.1 hu
      refine ⟨(p.1 ++ v, w ++ q.2), (iha h.1).2 ⟨v, hv, ?_, rfl⟩, (ihb h.2).2 ⟨w, hw, rfl, ?_⟩⟩
      · rw [h2, List.append_assoc]
      · rw [h1, List.append_assoc]
  | alt a b iha ihb =>
    constructor
    · rintro (ha | hb)
      · obtain ⟨w, hw, hrest⟩ := (iha h.1).1 ha
        exact ⟨w, .inl hw, hrest⟩
      · obtain ⟨w, hw, hrest⟩ := (ihb h.2).1 hb
        exact ⟨w, .inr hw, hrest⟩
    · rintro ⟨w, hw | hw, hrest⟩
      · exact .inl ((iha h.1).2 ⟨w, hw, hrest⟩)
      · exact .inr ((ihb h.2).2 ⟨w, hw, hrest⟩)
  | star a ih => exact run_star fun p q => ih h
  | start => exact h.elim
  | stop => exact h.elim

/-- A line is matched from the start, over a word that `$` may follow. -/
lemma run_line (h : a.Plain) :
    (line a).Run e p q ↔ p.1 = [] ∧ q.1 ∈ a.lang e.holds ∧ p.2 = q.1 ++ q.2 ∧ e.stops q.2 = true := by
  constructor
  · rintro ⟨_, ⟨rfl, hstart⟩, _, ha, rfl, hstop⟩
    obtain ⟨w, hw, h2, h1⟩ := (run_iff h).1 ha
    rw [hstart, List.nil_append] at h1
    exact ⟨hstart, h1 ▸ hw, h1 ▸ h2, hstop⟩
  · rintro ⟨hstart, hw, h2, hstop⟩
    refine ⟨p, ⟨rfl, hstart⟩, q, (run_iff h).2 ⟨q.1, hw, h2, ?_⟩, rfl, hstop⟩
    rw [hstart, List.nil_append]

theorem matchAt_line (h : a.Plain) :
    (line a).MatchAt e s ↔ ∃ w v, s = w ++ v ∧ w ∈ a.lang e.holds ∧ e.stops v = true := by
  constructor
  · rintro ⟨q, hq⟩
    obtain ⟨-, hw, h2, hstop⟩ := (run_line h).1 hq
    exact ⟨q.1, q.2, h2, hw, hstop⟩
  · rintro ⟨w, v, hs, hw, hstop⟩
    exact ⟨(w, v), (run_line h).2 ⟨rfl, hw, hs, hstop⟩⟩

/-- **A search for a line** finds it at the start or nowhere. -/
theorem search_line (h : a.Plain) : (line a).Search e s ↔ (line a).MatchAt e s := by
  constructor
  · rintro ⟨p, q, rfl, hq⟩
    have hstart := ((run_line h).1 hq).1
    refine ⟨q, ?_⟩
    rw [hstart, List.nil_append]
    exact hstart ▸ hq
  · rintro ⟨q, hq⟩
    exact ⟨([], s), q, rfl, hq⟩

/-- **With `$` at the end of the text**, a line is matched whole. -/
theorem matchAt_line_of_end (he : ∀ v, e.stops v = true ↔ v = []) (h : a.Plain) :
    (line a).MatchAt e s ↔ s ∈ a.lang e.holds := by
  rw [matchAt_line h]
  constructor
  · rintro ⟨w, v, rfl, hw, hstop⟩
    rwa [(he v).1 hstop, List.append_nil]
  · intro hs
    exact ⟨s, [], (List.append_nil s).symm, hs, (he []).2 rfl⟩

/-- **With `$` also before a newline that ends the text**, one newline may follow. -/
theorem matchAt_line_of_newline {nl : α} (he : ∀ v, e.stops v = true ↔ v = [] ∨ v = [nl])
    (h : a.Plain) :
    (line a).MatchAt e s ↔
      s ∈ a.lang e.holds ∨ ∃ t, s = t ++ [nl] ∧ t ∈ a.lang e.holds := by
  rw [matchAt_line h]
  constructor
  · rintro ⟨w, v, rfl, hw, hstop⟩
    rcases (he v).1 hstop with rfl | rfl
    · exact .inl (by rwa [List.append_nil])
    · exact .inr ⟨w, rfl, hw⟩
  · rintro (hs | ⟨t, rfl, ht⟩)
    · exact ⟨s, [], (List.append_nil s).symm, hs, (he []).2 (.inl rfl)⟩
    · exact ⟨t, [nl], rfl, ht, (he _).2 (.inr rfl)⟩

end Run

/-! ### Words of the derived patterns -/

section Lang

variable {holds : κ → α → Bool} {a b : Regex κ} {k : κ} {w : List α}

lemma mem_cls : w ∈ (cls k).lang holds ↔ ∃ c, holds k c = true ∧ w = [c] := Iff.rfl

lemma mem_seq_cls : w ∈ (seq (cls k) a).lang holds ↔
    ∃ c cs, w = c :: cs ∧ holds k c = true ∧ cs ∈ a.lang holds := by
  constructor
  · intro h
    obtain ⟨_, ⟨c, hc, rfl⟩, cs, hcs, rfl⟩ := Language.mem_mul.1 h
    exact ⟨c, cs, rfl, hc, hcs⟩
  · rintro ⟨c, cs, rfl, hc, hcs⟩
    exact Language.mem_mul.2 ⟨[c], ⟨c, hc, rfl⟩, cs, hcs, rfl⟩

lemma mem_opt : w ∈ (opt a).lang holds ↔ w ∈ a.lang holds ∨ w = [] := Iff.rfl

/-- `[…]{0,n}`. -/
lemma mem_upTo_cls {n : ℕ} :
    w ∈ (upTo (cls k) n).lang holds ↔ w.length ≤ n ∧ ∀ c ∈ w, holds k c = true := by
  induction n generalizing w with
  | zero =>
    constructor
    · intro h
      obtain rfl : w = [] := h
      simp
    · rintro ⟨hlen, -⟩
      exact List.length_eq_zero_iff.1 (Nat.le_zero.1 hlen)
  | succ n ih =>
    rw [upTo, mem_opt, mem_seq_cls]
    constructor
    · rintro (⟨c, cs, rfl, hc, hcs⟩ | rfl)
      · obtain ⟨hlen, hall⟩ := ih.1 hcs
        exact ⟨by simpa using hlen, List.forall_mem_cons.2 ⟨hc, hall⟩⟩
      · simp
    · rintro ⟨hlen, hall⟩
      cases w with
      | nil => exact .inr rfl
      | cons c cs =>
        obtain ⟨hc, hcs⟩ := List.forall_mem_cons.1 hall
        exact .inl ⟨c, cs, rfl, hc, ih.2 ⟨by simpa using hlen, hcs⟩⟩

/-- `[…]*`. -/
lemma mem_star_cls : w ∈ (star (cls k)).lang holds ↔ ∀ c ∈ w, holds k c = true := by
  constructor
  · rintro ⟨L, rfl, hL⟩ c hc
    obtain ⟨v, hv, hcv⟩ := List.mem_flatten.1 hc
    obtain ⟨d, hd, rfl⟩ := mem_cls.1 (hL v hv)
    exact List.mem_singleton.1 hcv ▸ hd
  · intro hall
    refine Language.mem_kstar.2 ⟨w.map fun c => [c], by simp [← List.flatMap_def], ?_⟩
    intro y hy
    obtain ⟨c, hc, rfl⟩ := List.mem_map.1 hy
    exact ⟨c, hall c hc, rfl⟩

/-- A star is nothing, or one turn and a star. -/
lemma mem_star : w ∈ (star a).lang holds ↔
    w = [] ∨ ∃ u ∈ a.lang holds, ∃ v ∈ (star a).lang holds, u ++ v = w := by
  rw [← Language.mem_mul, ← Language.mem_one, ← Language.mem_add]
  exact Iff.of_eq (congrArg (w ∈ ·) (Language.one_add_self_mul_kstar_eq_kstar (a.lang holds)).symm)

lemma mem_oneOf {bs : List (Regex κ)} :
    w ∈ (oneOf a bs).lang holds ↔ ∃ b ∈ a :: bs, w ∈ b.lang holds := by
  induction bs generalizing a with
  | nil => simp [oneOf]
  | cons b bs ih =>
    rw [oneOf, List.exists_mem_cons_iff, ← ih]
    rfl

end Lang

/-! ### No anchor -/

lemma plain_upTo {a : Regex κ} (h : a.Plain) (n : ℕ) : (upTo a n).Plain := by
  induction n with
  | zero => trivial
  | succ n ih => exact ⟨⟨h, ih⟩, trivial⟩

lemma plain_word (ks : List κ) : (word ks).Plain := by
  induction ks with
  | nil => trivial
  | cons k ks ih => exact ⟨trivial, ih⟩

lemma plain_oneOf {a : Regex κ} {bs : List (Regex κ)} (h : ∀ b ∈ a :: bs, b.Plain) :
    (oneOf a bs).Plain := by
  induction bs generalizing a with
  | nil => exact h a (by simp)
  | cons b bs ih => exact ⟨h a (by simp), ih fun c hc => h c (List.mem_cons_of_mem _ hc)⟩

end Regex

end Tiai.Lib
