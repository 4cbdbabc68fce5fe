import Mathlib.Data.List.DropRight
import Mathlib.Data.List.Nodup
import Mathlib.Data.List.Pairwise

/-!
# The lines of a terminal

A text falls into lines at its feeds.  On a line a return goes back to the first column, and every other character is
written over what the column held.

* `cut`, `paste` — the lines of a text;
* `row` — what the terminal shows of a line;
* `row_eq` — what follows the last return is shown, and beyond it what is left of before.
-/

namespace Tiai.Lib.Terminal

/-- A line, and the feed that ended it, if one did. -/
structure Line (α : Type) where
  chars : List α
  feed : List α
  deriving DecidableEq

variable {α β : Type}

/-! ### Lines -/

section

variable {isFeed : α → Bool} {t x y : List α} {c : α} {l : Line α} {ls : List (Line α)}

def Line.cons (c : α) (l : Line α) : Line α := ⟨c :: l.chars, l.feed⟩

/-- The lines of a text; there is one more than there are feeds. -/
def cut (isFeed : α → Bool) : List α → List (Line α)
  | [] => [⟨[], []⟩]
  | c :: t => if isFeed c then ⟨[], [c]⟩ :: cut isFeed t else (cut isFeed t).modifyHead (Line.cons c)

def Line.all (l : Line α) : List α := l.chars ++ l.feed

def paste (ls : List (Line α)) : List α := ls.flatMap Line.all

@[simp] lemma paste_nil : paste ([] : List (Line α)) = [] := rfl

@[simp] lemma paste_cons (l : Line α) (ls : List (Line α)) : paste (l :: ls) = l.all ++ paste ls := List.flatMap_cons

@[simp] lemma paste_append (ls ms : List (Line α)) : paste (ls ++ ms) = paste ls ++ paste ms := List.flatMap_append

lemma paste_sublist {ms : List (Line α)} (h : ms.Sublist ls) : (paste ms).Sublist (paste ls) := by
  induction h with
  | slnil => exact List.Sublist.slnil
  | cons l _ ih => exact ih.trans (List.sublist_append_right _ _)
  | cons_cons l _ ih => exact (List.Sublist.refl _).append ih

lemma cut_ne_nil (isFeed : α → Bool) (t : List α) : cut isFeed t ≠ [] := by
  induction t with
  | nil => exact List.cons_ne_nil _ _
  | cons c t ih =>
    rw [cut]
    split
    · exact List.cons_ne_nil _ _
    · obtain ⟨l, ls, hl⟩ := List.exists_cons_of_ne_nil ih
      rw [hl]
      exact List.cons_ne_nil _ _

lemma cut_cons_feed (h : isFeed c = true) (t : List α) : cut isFeed (c :: t) = ⟨[], [c]⟩ :: cut isFeed t := if_pos h

/-- A character that is no feed is on the first line. -/
lemma exists_cut_cons (h : isFeed c = false) (t : List α) :
    ∃ l ls, cut isFeed t = l :: ls ∧ cut isFeed (c :: t) = l.cons c :: ls := by
  obtain ⟨l, ls, hl⟩ := List.exists_cons_of_ne_nil (cut_ne_nil isFeed t)
  refine ⟨l, ls, hl, ?_⟩
  rw [cut, if_neg (by simp [h]), hl]
  rfl

/-- Nothing is lost. -/
@[simp] theorem paste_cut (isFeed : α → Bool) (t : List α) : paste (cut isFeed t) = t := by
  induction t with
  | nil => rfl
  | cons c t ih =>
    cases hc : isFeed c with
    | true => rw [cut_cons_feed hc, paste_cons, ih]; rfl
    | false =>
      obtain ⟨l, ls, hl, hcons⟩ := exists_cut_cons hc t
      rw [hcons, paste_cons, ← ih, hl, paste_cons]
      rfl

/-- A line as it is cut: no feed on it, and one at its end if there is any. -/
structure Line.Whole (isFeed : α → Bool) (l : Line α) : Prop where
  chars : ∀ c ∈ l.chars, isFeed c = false
  feed : l.feed = [] ∨ ∃ c, isFeed c = true ∧ l.feed = [c]

/-- Every line is whole, and all but the last are ended. -/
structure Lined (isFeed : α → Bool) (ls : List (Line α)) : Prop where
  whole : ∀ l ∈ ls, l.Whole isFeed
  ended : ls.Pairwise fun l _ => l.feed ≠ []

lemma lined_cut (isFeed : α → Bool) (t : List α) : Lined isFeed (cut isFeed t) := by
  induction t with
  | nil =>
    refine ⟨fun l hl => ?_, List.pairwise_singleton _ _⟩
    obtain rfl := List.mem_singleton.1 hl
    exact ⟨fun c hc => absurd hc List.not_mem_nil, Or.inl rfl⟩
  | cons c t ih =>
    cases hc : isFeed c with
    | true =>
      rw [cut_cons_feed hc]
      refine ⟨List.forall_mem_cons.2 ⟨⟨fun d hd => absurd hd List.not_mem_nil, Or.inr ⟨c, hc, rfl⟩⟩, ih.whole⟩, ?_⟩
      exact List.pairwise_cons.2 ⟨fun _ _ => List.cons_ne_nil c [], ih.ended⟩
    | false =>
      obtain ⟨l, ls, hl, hcons⟩ := exists_cut_cons hc t
      rw [hl] at ih
      rw [hcons]
      obtain ⟨hchars, hfeed⟩ := ih.whole l List.mem_cons_self
      obtain ⟨hfirst, hrest⟩ := List.pairwise_cons.1 ih.ended
      refine ⟨List.forall_mem_cons.2 ⟨⟨List.forall_mem_cons.2 ⟨hc, hchars⟩, hfeed⟩, ?_⟩, ?_⟩
      · exact fun m hm => ih.whole m (List.mem_cons_of_mem l hm)
      · exact List.pairwise_cons.2 ⟨hfirst, hrest⟩

lemma Lined.sublist {ms : List (Line α)} (h : Lined isFeed ls) (hsub : ms.Sublist ls) : Lined isFeed ms :=
  ⟨fun l hl => h.whole l (hsub.subset hl), h.ended.sublist hsub⟩

lemma cut_append (h : ∀ c ∈ x, isFeed c = false) (t : List α) :
    cut isFeed (x ++ t) = (cut isFeed t).modifyHead fun l => ⟨x ++ l.chars, l.feed⟩ := by
  induction x with
  | nil =>
    obtain ⟨l, ls, hl⟩ := List.exists_cons_of_ne_nil (cut_ne_nil isFeed t)
    rw [List.nil_append, hl]
    rfl
  | cons c x ih =>
    obtain ⟨l, ls, hl⟩ := List.exists_cons_of_ne_nil (cut_ne_nil isFeed t)
    rw [List.cons_append, cut, if_neg (by simp [h c List.mem_cons_self]), ih fun d hd => h d (List.mem_cons_of_mem c hd),
      hl]
    rfl

/-- Lines that are pasted are cut again, if the last is not ended. -/
lemma cut_paste (h : Lined isFeed ls) (hlast : ∃ ms l, ls = ms ++ [l] ∧ l.feed = []) : cut isFeed (paste ls) = ls := by
  induction ls with
  | nil =>
    obtain ⟨ms, l, hls, -⟩ := hlast
    cases ms <;> cases hls
  | cons l ls ih =>
    obtain ⟨hchars, hfeed⟩ := h.whole l List.mem_cons_self
    obtain ⟨hfirst, -⟩ := List.pairwise_cons.1 h.ended
    rw [paste_cons, Line.all, List.append_assoc, cut_append hchars]
    cases ls with
    | nil =>
      have hnone : l.feed = [] := by
        obtain ⟨ms, m, hls, hm⟩ := hlast
        cases ms with
        | nil => rwa [(List.cons.inj hls).1]
        | cons k ms => cases ms <;> cases hls
      rw [hnone, paste_nil, List.append_nil, cut, List.modifyHead_cons, List.append_nil, ← hnone]
    | cons m ls =>
      obtain ⟨c, hc, hone⟩ := hfeed.resolve_left (hfirst m List.mem_cons_self)
      have hrest : cut isFeed (paste (m :: ls)) = m :: ls := by
        refine ih (h.sublist (List.sublist_cons_self _ _)) ?_
        obtain ⟨ms, k, hls, hk⟩ := hlast
        cases ms with
        | nil => cases hls
        | cons j ms => exact ⟨ms, k, (List.cons.inj hls).2, hk⟩
      rw [hone, List.singleton_append, cut_cons_feed hc, hrest, List.modifyHead_cons, List.append_nil, ← hone]

/-! ### Members that are all different -/

/-- A part of such a list falls in two where the list does. -/
lemma sublist_split {p q a b : List α} (hsub : (p ++ c :: q).Sublist (a ++ c :: b)) (hnodup : (a ++ c :: b).Nodup) :
    p.Sublist a ∧ q.Sublist b := by
  have hapart : ∀ {a b : List α}, (a ++ c :: b).Nodup → c ∉ a ∧ c ∉ b := by
    intro a b h
    obtain ⟨-, hright, hboth⟩ := List.nodup_append.1 h
    exact ⟨fun hmem => hboth c hmem c List.mem_cons_self rfl, (List.nodup_cons.1 hright).1⟩
  obtain ⟨hca, hcb⟩ := hapart hnodup
  obtain ⟨hcp, hcq⟩ := hapart (hnodup.sublist hsub)
  obtain ⟨x, y, hxy, hx, hy⟩ := List.sublist_append_iff.1 hsub
  cases hy with
  | cons _ hy =>
    -- the member itself would be missing
    have hmem : c ∈ x ++ y := hxy ▸ List.mem_append_right p List.mem_cons_self
    rcases List.mem_append.1 hmem with hmem | hmem
    · exact absurd (hx.subset hmem) hca
    · exact absurd (hy.subset hmem) hcb
  | cons_cons _ hy =>
    obtain ⟨rfl, -, rfl⟩ := (List.append_cons_inj_of_notMem hcp hcq).1 hxy
    exact ⟨hx, hy⟩

/-- What is on one side in the list is on that side in the part. -/
lemma sublist_sides {p q a b : List α} {d : α} (hsub : (p ++ c :: q).Sublist (a ++ c :: b))
    (hnodup : (a ++ c :: b).Nodup) (hd : d ∈ p ++ c :: q) : (d ∈ a → d ∈ p) ∧ (d ∈ b → d ∈ q) := by
  obtain ⟨hp, hq⟩ := sublist_split hsub hnodup
  obtain ⟨-, hright, hboth⟩ := List.nodup_append.1 hnodup
  have hd' : d ∈ p ∨ d = c ∨ d ∈ q := by simpa using hd
  constructor
  · intro ha
    refine hd'.resolve_right fun hother => hboth d ha d ?_ rfl
    exact List.mem_cons.2 (hother.imp_right fun hmem => hq.subset hmem)
  · intro hb
    rcases hd' with hmem | rfl | hmem
    · exact absurd rfl (hboth d (hp.subset hmem) d (List.mem_cons_of_mem c hb))
    · exact absurd hb (List.nodup_cons.1 hright).1
    · exact hmem

/-- They are on one line each. -/
lemma eq_of_mem_chars {m : Line α} (h : (paste ls).Nodup) (hl : l ∈ ls) (hm : m ∈ ls) (hcl : c ∈ l.all)
    (hcm : c ∈ m.all) : l = m := by
  by_contra hne
  obtain ⟨-, hpairs⟩ := List.nodup_flatMap.1 h
  have hsymm : Std.Symm (Function.onFun List.Disjoint (Line.all (α := α))) :=
    ⟨fun _ _ hdisjoint _ ha hb => hdisjoint hb ha⟩
  exact hpairs.forall hl hm hne hcl hcm

end

/-! ### Rows -/

section

variable {isReturn : α → Bool} {l a b : List α} {c : α}

/-- The cells of a line, and the column of the next character. -/
def type (isReturn : α → Bool) (state : List α × ℕ) (c : α) : List α × ℕ :=
  if isReturn c then (state.1, 0) else (state.1.take state.2 ++ c :: state.1.drop (state.2 + 1), state.2 + 1)

def typed (isReturn : α → Bool) (l : List α) : List α × ℕ := l.foldl (type isReturn) ([], 0)

/-- What the terminal shows of a line. -/
def row (isReturn : α → Bool) (l : List α) : List α := (typed isReturn l).1

/-- What follows the last return. -/
def tail (isReturn : α → Bool) (l : List α) : List α := l.rtakeWhile fun c => !isReturn c

/-- What is shown in the columns beyond. -/
def beyond (isReturn : α → Bool) (l : List α) : List α := (row isReturn l).drop (tail isReturn l).length

lemma typed_concat (l : List α) (c : α) : typed isReturn (l ++ [c]) = type isReturn (typed isReturn l) c :=
  List.foldl_concat ..

lemma typed_return (h : isReturn c = true) (l : List α) : typed isReturn (l ++ [c]) = (row isReturn l, 0) := by
  rw [typed_concat, type, if_pos h]
  rfl

/-- A return at the end of a line shows nothing. -/
lemma row_return (h : isReturn c = true) (l : List α) : row isReturn (l ++ [c]) = row isReturn l := by
  rw [row, typed_return h]

/-- Characters without a return are written one after the other. -/
lemma foldl_type {state : List α × ℕ} (hl : ∀ c ∈ l, isReturn c = false) (hcolumn : state.2 ≤ state.1.length) :
    l.foldl (type isReturn) state =
      (state.1.take state.2 ++ l ++ state.1.drop (state.2 + l.length), state.2 + l.length) := by
  induction l generalizing state with
  | nil => simp
  | cons c l ih =>
    have hc : isReturn c = false := hl c List.mem_cons_self
    have htake : (state.1.take state.2).length = state.2 := List.length_take_of_le hcolumn
    rw [List.foldl_cons, type, hc, if_neg Bool.false_ne_true, ih fun d hd => hl d (List.mem_cons_of_mem c hd)]
    · have hfront : (state.1.take state.2 ++ c :: state.1.drop (state.2 + 1)).take (state.2 + 1) =
          state.1.take state.2 ++ [c] := by
        rw [List.take_append, htake, Nat.add_sub_cancel_left, List.take_of_length_le (by omega)]
        rfl
      have hback : (state.1.take state.2 ++ c :: state.1.drop (state.2 + 1)).drop (state.2 + 1 + l.length) =
          state.1.drop (state.2 + (l.length + 1)) := by
        rw [List.drop_append, htake, List.drop_eq_nil_of_le (by omega), List.nil_append,
          show state.2 + 1 + l.length - state.2 = l.length + 1 by omega, List.drop_succ_cons, List.drop_drop]
        congr 1
        omega
      simp only [hfront, hback, List.length_cons, Prod.mk.injEq]
      refine ⟨by simp, by omega⟩
    · simp only [List.length_append, List.length_cons, htake]
      omega

/-- A line is what its last return ends, and what follows. -/
lemma line_cases (isReturn : α → Bool) (l : List α) : (∀ c ∈ l, isReturn c = false) ∧ tail isReturn l = l ∨
    ∃ b c, isReturn c = true ∧ l = b ++ [c] ++ tail isReturn l := by
  have hsplit : l.rdropWhile (fun c => !isReturn c) ++ tail isReturn l = l := List.rdropWhile_append_rtakeWhile ..
  rcases List.eq_nil_or_concat' (l.rdropWhile fun c => !isReturn c) with hnil | ⟨b, c, hb⟩
  · left
    have hall := List.rdropWhile_eq_nil_iff.1 hnil
    refine ⟨fun c hc => by simpa using hall c hc, ?_⟩
    rwa [hnil, List.nil_append] at hsplit
  · right
    refine ⟨b, c, ?_, by rw [← hb, hsplit]⟩
    have hlast := List.rdropWhile_last_not (fun c => !isReturn c) l (by rw [hb]; simp)
    simpa [hb] using hlast

/-- **What follows the last return is shown**, and beyond it what is left of before. -/
theorem row_eq (isReturn : α → Bool) (l : List α) : row isReturn l = tail isReturn l ++ beyond isReturn l := by
  have hprefix : tail isReturn l <+: row isReturn l := by
    have htail : ∀ c ∈ tail isReturn l, isReturn c = false := fun c hc => by simpa using List.mem_rtakeWhile_imp hc
    rcases line_cases isReturn l with ⟨hnone, htl⟩ | ⟨b, c, hc, hl⟩
    · rw [htl, row, typed, foldl_type hnone le_rfl]
      simp
    · have hrow : row isReturn l = tail isReturn l ++ (row isReturn b).drop (tail isReturn l).length := by
        conv_lhs => rw [hl, row, typed, List.foldl_append, ← typed, typed_return hc, foldl_type htail (Nat.zero_le _)]
        simp
      rw [hrow]
      exact List.prefix_append _ _
  obtain ⟨rest, hrest⟩ := hprefix
  rw [beyond, ← hrest, List.drop_left]

lemma mem_of_mem_row (h : c ∈ row isReturn l) : c ∈ l ∧ isReturn c = false := by
  induction l using List.reverseRecOn with
  | nil => cases h
  | append_singleton l d ih =>
    rw [row, typed_concat, type] at h
    split at h
    · exact ⟨List.mem_append_left _ (ih h).1, (ih h).2⟩
    · rename_i hd
      rcases List.mem_append.1 h with h | h
      · have hrow := ih (List.mem_of_mem_take h)
        exact ⟨List.mem_append_left _ hrow.1, hrow.2⟩
      · rcases List.mem_cons.1 h with rfl | h
        · exact ⟨List.mem_append_right _ List.mem_cons_self, Bool.eq_false_iff.2 hd⟩
        · have hrow := ih (List.mem_of_mem_drop h)
          exact ⟨List.mem_append_left _ hrow.1, hrow.2⟩

lemma nodup_row (h : l.Nodup) : (row isReturn l).Nodup := by
  induction l using List.reverseRecOn with
  | nil => exact List.nodup_nil
  | append_singleton l d ih =>
    obtain ⟨hl, -, hnew⟩ := List.nodup_append.1 h
    have hrow := ih hl
    rw [row, typed_concat, type]
    split
    · exact hrow
    · have hd : d ∉ row isReturn l := fun hmem => hnew d (mem_of_mem_row hmem).1 d List.mem_cons_self rfl
      have hsplit := hrow
      rw [← List.take_append_drop (typed isReturn l).2 (row isReturn l)] at hsplit
      have hsub : ((row isReturn l).drop ((typed isReturn l).2 + 1)).Sublist ((row isReturn l).drop (typed isReturn l).2) :=
        List.drop_sublist_drop_left _ (Nat.le_succ _)
      have hparts := hsplit.sublist (List.Sublist.append_left hsub _)
      rw [List.nodup_middle, List.nodup_cons]
      refine ⟨fun hmem => hd ?_, hparts⟩
      rcases List.mem_append.1 hmem with hmem | hmem
      · exact List.mem_of_mem_take hmem
      · exact List.mem_of_mem_drop hmem

end

/-! ### Characters for characters -/

section

variable {isFeed : α → Bool} {isFeed' : β → Bool} {h : α → List β}

def Line.bind (h : α → List β) (l : Line α) : Line β := ⟨l.chars.flatMap h, l.feed.flatMap h⟩

/-- A text is cut where its spelling is. -/
lemma cut_flatMap (hfeed : ∀ a, isFeed a = true → ∃ b, isFeed' b = true ∧ h a = [b])
    (hother : ∀ a, isFeed a = false → ∀ b ∈ h a, isFeed' b = false) (t : List α) :
    cut isFeed' (t.flatMap h) = (cut isFeed t).map (Line.bind h) := by
  induction t with
  | nil => rfl
  | cons c t ih =>
    rw [List.flatMap_cons]
    cases hc : isFeed c with
    | true =>
      obtain ⟨b, hb, hone⟩ := hfeed c hc
      rw [cut_cons_feed hc, hone, List.singleton_append, cut_cons_feed hb, ih, List.map_cons, Line.bind,
        List.flatMap_singleton, hone]
      rfl
    | false =>
      obtain ⟨l, ls, hl, hcons⟩ := exists_cut_cons hc t
      rw [cut_append (hother c hc), ih, hl, hcons, List.map_cons, List.map_cons, List.modifyHead_cons]
      rfl

lemma paste_bind (h : α → List β) (ls : List (Line α)) : paste (ls.map (Line.bind h)) = (paste ls).flatMap h := by
  induction ls with
  | nil => rfl
  | cons l ls ih =>
    rw [List.map_cons, paste_cons, paste_cons, ih, List.flatMap_append, Line.all, Line.all, List.flatMap_append]
    rfl

variable {isReturn : β → Bool} (f : α → β)

lemma typed_map (l : List α) :
    typed isReturn (l.map f) = ((typed (isReturn ∘ f) l).1.map f, (typed (isReturn ∘ f) l).2) := by
  induction l using List.reverseRecOn with
  | nil => rfl
  | append_singleton l c ih =>
    rw [List.map_append, List.map_singleton, typed_concat, typed_concat, ih, type, type, Function.comp_apply]
    split
    · rfl
    · simp only [List.map_append, List.map_cons, List.map_take, List.map_drop]

lemma row_map (l : List α) : row isReturn (l.map f) = (row (isReturn ∘ f) l).map f := by rw [row, typed_map]; rfl

lemma rtakeWhile_map (p : β → Bool) (l : List α) : (l.map f).rtakeWhile p = (l.rtakeWhile (p ∘ f)).map f := by
  rw [List.rtakeWhile, List.rtakeWhile, ← List.map_reverse, List.takeWhile_map, ← List.map_reverse]

lemma beyond_map (l : List α) : beyond isReturn (l.map f) = (beyond (isReturn ∘ f) l).map f := by
  have htail : tail isReturn (l.map f) = (tail (isReturn ∘ f) l).map f := rtakeWhile_map f _ l
  rw [beyond, beyond, row_map, htail, List.length_map, List.map_drop]

end

end Tiai.Lib.Terminal
