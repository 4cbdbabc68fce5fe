import Mathlib.Data.List.Basic

/-!
# The pieces of a list

A list falls into pieces at the elements that are breaks; empty pieces do not count.

* `pieces_append_break` — a break cuts the pieces in two;
* `pieces_eq_nil_iff`, `pieces_eq_singleton_iff` — when there is no piece, and when there is one.
-/

namespace Tiai.Lib

variable {α : Type} {isBreak : α → Bool} {l x y : List α} {c : α}

/-- The runs of elements that are no breaks. -/
def pieces (isBreak : α → Bool) (l : List α) : List (List α) := (l.splitOnP isBreak).filter fun r => !r.isEmpty

lemma pieces_append_break (hc : isBreak c = true) (x y : List α) :
    pieces isBreak (x ++ c :: y) = pieces isBreak x ++ pieces isBreak y := by
  unfold pieces
  rw [List.splitOnP_append_cons x y hc, List.filter_append]

lemma pieces_cons_break (hc : isBreak c = true) (l : List α) : pieces isBreak (c :: l) = pieces isBreak l := by
  have h := pieces_append_break hc [] l
  simpa [pieces] using h

/-- What has no break is one piece, unless it is empty. -/
lemma pieces_of_forall_not (hl : ∀ c ∈ l, isBreak c = false) (hne : l ≠ []) : pieces isBreak l = [l] := by
  rw [pieces, List.splitOnP_eq_singleton hl]
  simp [hne]

lemma pieces_append_of_breaks (hx : ∀ c ∈ x, isBreak c = true) (y : List α) :
    pieces isBreak (x ++ y) = pieces isBreak y := by
  induction x with
  | nil => rfl
  | cons c x ih =>
    rw [List.cons_append, pieces_cons_break (hx c List.mem_cons_self)]
    exact ih fun d hd => hx d (List.mem_cons_of_mem c hd)

/-- What a list starts with, up to where it ends or fails the test. -/
lemma exists_span (test : α → Bool) (l : List α) : ∃ a b, l = a ++ b ∧ (∀ c ∈ a, test c = true) ∧
    (b = [] ∨ ∃ c rest, b = c :: rest ∧ test c = false) := by
  induction l with
  | nil => exact ⟨[], [], rfl, fun c hc => absurd hc List.not_mem_nil, Or.inl rfl⟩
  | cons c l ih =>
    cases hc : test c with
    | false => exact ⟨[], c :: l, rfl, fun d hd => absurd hd List.not_mem_nil, Or.inr ⟨c, l, rfl, hc⟩⟩
    | true =>
      obtain ⟨a, b, rfl, ha, hb⟩ := ih
      exact ⟨c :: a, b, rfl, List.forall_mem_cons.2 ⟨hc, ha⟩, hb⟩

/-- A list is breaks, then either nothing or a piece, which ends where the list does or at a break. -/
lemma exists_first_piece (isBreak : α → Bool) (l : List α) :
    (∀ c ∈ l, isBreak c = true) ∨ ∃ a r rest, l = a ++ r ++ rest ∧ (∀ c ∈ a, isBreak c = true) ∧ r ≠ [] ∧
      (∀ c ∈ r, isBreak c = false) ∧ pieces isBreak l = r :: pieces isBreak rest := by
  obtain ⟨a, b, rfl, ha, rfl | ⟨c, tail, rfl, hc⟩⟩ := exists_span isBreak l
  · rw [List.append_nil]
    exact Or.inl ha
  obtain ⟨r, rest, hr, hrun, hend⟩ := exists_span (fun c => !isBreak c) tail
  subst hr
  have hrun' : ∀ d ∈ c :: r, isBreak d = false := List.forall_mem_cons.2 ⟨hc, fun d hd => by simpa using hrun d hd⟩
  have hne : c :: r ≠ [] := List.cons_ne_nil c r
  refine Or.inr ⟨a, c :: r, rest, by rw [List.append_assoc, List.cons_append], ha, hne, hrun', ?_⟩
  rw [pieces_append_of_breaks ha, ← List.cons_append]
  rcases hend with rfl | ⟨d, rest, rfl, hd⟩
  · rw [List.append_nil, pieces_of_forall_not hrun' hne]
    rfl
  · have hbreak : isBreak d = true := by simpa using hd
    rw [pieces_append_break hbreak, pieces_of_forall_not hrun' hne, pieces_cons_break hbreak]
    rfl

lemma pieces_eq_nil_iff : pieces isBreak l = [] ↔ ∀ c ∈ l, isBreak c = true := by
  constructor
  · intro h
    rcases exists_first_piece isBreak l with hall | ⟨_, _, _, _, _, _, _, hpieces⟩
    · exact hall
    · rw [h] at hpieces
      cases hpieces
  · intro h
    have hnil := pieces_append_of_breaks h []
    rw [List.append_nil] at hnil
    rw [hnil]
    simp [pieces]

lemma pieces_eq_singleton_iff {r : List α} : pieces isBreak l = [r] ↔ r ≠ [] ∧ (∀ c ∈ r, isBreak c = false) ∧
    ∃ a b, l = a ++ r ++ b ∧ (∀ c ∈ a, isBreak c = true) ∧ ∀ c ∈ b, isBreak c = true := by
  constructor
  · intro h
    rcases exists_first_piece isBreak l with hall | ⟨a, r', rest, hl, ha, hne, hr, hpieces⟩
    · rw [pieces_eq_nil_iff.2 hall] at h
      cases h
    · rw [h] at hpieces
      obtain ⟨rfl, hrest⟩ := List.cons.inj hpieces
      exact ⟨hne, hr, a, rest, hl, ha, pieces_eq_nil_iff.1 hrest.symm⟩
  · rintro ⟨hne, hr, a, b, rfl, ha, hb⟩
    rw [List.append_assoc, pieces_append_of_breaks ha]
    cases b with
    | nil => rw [List.append_nil, pieces_of_forall_not hr hne]
    | cons c b =>
      have hrest := pieces_eq_nil_iff.2 fun d hd => hb d (List.mem_cons_of_mem c hd)
      rw [pieces_append_break (hb c List.mem_cons_self), pieces_of_forall_not hr hne, hrest, List.append_nil]

lemma pieces_append_of_breaks_right (hy : ∀ c ∈ y, isBreak c = true) (x : List α) :
    pieces isBreak (x ++ y) = pieces isBreak x := by
  cases y with
  | nil => rw [List.append_nil]
  | cons c y =>
    have hrest := pieces_eq_nil_iff.2 fun d hd => hy d (List.mem_cons_of_mem c hd)
    rw [pieces_append_break (hy c List.mem_cons_self), hrest, List.append_nil]

/-- A piece is a part of the list, without breaks. -/
lemma of_mem_pieces {r : List α} (h : r ∈ pieces isBreak l) : r <:+: l ∧ ∀ c ∈ r, isBreak c = false := by
  induction hn : l.length using Nat.strongRecOn generalizing l with
  | ind n ih =>
    rcases exists_first_piece isBreak l with hall | ⟨a, first, rest, hl, ha, hne, hfirst, hpieces⟩
    · rw [pieces_eq_nil_iff.2 hall] at h
      cases h
    · rw [hpieces] at h
      rcases List.mem_cons.1 h with rfl | hrest
      · exact ⟨⟨a, rest, hl.symm⟩, hfirst⟩
      · have hlt : rest.length < n := by
          have hpos := List.length_pos_of_ne_nil hne
          rw [← hn, hl, List.length_append, List.length_append]
          omega
        obtain ⟨hin, hnone⟩ := ih rest.length hlt hrest rfl
        have hsuffix : rest <:+: l := by
          rw [hl]
          exact (List.suffix_append (a ++ first) rest).isInfix
        exact ⟨hin.trans hsuffix, hnone⟩

/-- The pieces are told by what is a break in the list. -/
lemma pieces_congr {p q : α → Bool} (h : ∀ c ∈ l, p c = q c) : pieces p l = pieces q l := by
  have hsplit : l.splitOnP p = l.splitOnP q := by
    induction l with
    | nil => rfl
    | cons c l ih =>
      have hl := ih fun d hd => h d (List.mem_cons_of_mem c hd)
      rw [List.splitOnP_cons_eq_if_modifyHead, List.splitOnP_cons_eq_if_modifyHead, h c List.mem_cons_self, hl]
  rw [pieces, pieces, hsplit]

end Tiai.Lib
