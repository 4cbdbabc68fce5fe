import Tiai.Agent.Tidy

/-!
# What survives the rendering

Each character of a console text is told apart by its place.  A terminal that replays the text shows it or writes
another over it; the agent leaves it or not.

* `Fate` — that a character is left, or why it is not;
* `faithful_iff` — the texts of which every character has such a fate.
-/

namespace Tiai.Console

open Lib Terminal Utf8

variable {α : Type} (κ : Kinds α)

/-! ### The terminal -/

/-- What a terminal shows of a text. -/
def glass (t : List α) : List α := (cut κ.isFeed t).flatMap fun l => row κ.isReturn l.chars ++ l.feed

/-- A line that shows nothing but white space. -/
def Blank (l : Line α) : Prop := ∀ c ∈ row κ.isReturn l.chars, κ.isSpace c = true

/-- A character is left, or it only moves the cursor, or another of its line is written over it; or it is white space at
the end of what a line shows or at either end of what the text shows, or of a blank line after a blank line. -/
inductive Fate (t : List α) (c : α) : Prop
  | left (h : c ∈ tidy κ t)
  | control (h : κ.isReturn c = true)
  | overwritten (l : Line α) (hl : l ∈ cut κ.isFeed t) (hc : c ∈ l.chars) (h : c ∉ row κ.isReturn l.chars)
  | lineEnd (l : Line α) (a b : List α) (hl : l ∈ cut κ.isFeed t) (h : row κ.isReturn l.chars = a ++ c :: b)
      (hspace : ∀ d ∈ c :: b, κ.isSpace d = true)
  | textStart (a b : List α) (h : glass κ t = a ++ c :: b) (hspace : ∀ d ∈ a ++ [c], κ.isSpace d = true)
  | textEnd (a b : List α) (h : glass κ t = a ++ c :: b) (hspace : ∀ d ∈ c :: b, κ.isSpace d = true)
  | collapsed (ls : List (Line α)) (l m : Line α) (ms : List (Line α)) (h : cut κ.isFeed t = ls ++ l :: m :: ms)
      (hl : Blank κ l) (hm : Blank κ m) (hc : c ∈ m.all)

/-- Beyond what is written after its last return, a line shows white space. -/
def Covered (t : List α) : Prop :=
  ∀ l ∈ cut κ.isFeed t, ∀ c ∈ beyond κ.isReturn (lineText κ l), κ.isSpace c = true

instance (t : List α) : Decidable (Covered κ t) := by
  unfold Covered
  infer_instance

variable {κ} {l : Line α} {ls : List (Line α)} {t : List α} {c : α}

/-! ### What is left is shown -/

lemma row_lineText (l : Line α) : row κ.isReturn (lineText κ l) = row κ.isReturn l.chars := by
  unfold lineText
  split
  · rfl
  · rcases List.eq_nil_or_concat' l.chars with hnil | ⟨x, c, hx⟩
    · rw [hnil]
      rfl
    · rw [hx, dropReturn_concat]
      split
      · rename_i hc
        rw [row_return hc]
      · rfl

/-- A line shows what is left of it, then blanks, then what is beyond. -/
lemma row_render (l : Line α) : row κ.isReturn l.chars = (render κ l).chars ++
    ((tail κ.isReturn (lineText κ l)).rtakeWhile κ.isBlank ++ beyond κ.isReturn (lineText κ l)) := by
  have hsplit : (render κ l).chars ++ (tail κ.isReturn (lineText κ l)).rtakeWhile κ.isBlank =
      tail κ.isReturn (lineText κ l) := List.rdropWhile_append_rtakeWhile ..
  rw [← row_lineText, row_eq, ← List.append_assoc, hsplit]

lemma exists_row_eq (h : ∀ c ∈ beyond κ.isReturn (lineText κ l), κ.isSpace c = true) :
    ∃ rest, row κ.isReturn l.chars = (render κ l).chars ++ rest ∧ ∀ c ∈ rest, κ.isSpace c = true := by
  refine ⟨_, row_render l, fun c hc => ?_⟩
  rcases List.mem_append.1 hc with hc | hc
  · exact κ.blank_isSpace c (List.mem_rtakeWhile_imp hc)
  · exact h c hc

lemma rendered_sublist_glass (κ : Kinds α) (t : List α) : (paste (rendered κ t)).Sublist (glass κ t) := by
  have hlines : ∀ ls : List (Line α),
      (paste (ls.map (render κ))).Sublist (ls.flatMap fun l => row κ.isReturn l.chars ++ l.feed) := by
    intro ls
    induction ls with
    | nil => exact List.Sublist.slnil
    | cons l ls ih =>
      rw [List.map_cons, paste_cons, List.flatMap_cons]
      refine List.Sublist.append ?_ ih
      rw [row_render]
      exact List.Sublist.append (List.sublist_append_left _ _) (List.Sublist.refl _)
  exact (paste_sublist (squeezeBy_sublist _ _)).trans (hlines _)

lemma nodup_glass (h : t.Nodup) : (glass κ t).Nodup := by
  rw [← paste_cut κ.isFeed t] at h
  obtain ⟨hlines, hpairs⟩ := List.nodup_flatMap.1 h
  refine List.nodup_flatMap.2 ⟨fun l hl => ?_, hpairs.imp fun {l m} hdisjoint c hl hm => ?_⟩
  · obtain ⟨hchars, hfeed, hboth⟩ := List.nodup_append.1 (hlines l hl)
    exact List.nodup_append.2 ⟨nodup_row hchars, hfeed, fun c hc d hd => hboth c (mem_of_mem_row hc).1 d hd⟩
  · refine hdisjoint (List.mem_append.2 ((List.mem_append.1 hl).imp_left fun h => (mem_of_mem_row h).1)) ?_
    exact List.mem_append.2 ((List.mem_append.1 hm).imp_left fun h => (mem_of_mem_row h).1)

/-- A line is kept, or it is empty after an empty one. -/
lemma mem_squeezeBy (blank : Bool) (ls : List (Line α)) (l : Line α) (ms : List (Line α)) :
    l ∈ squeezeBy blank (ls ++ l :: ms) ∨
      l.chars = [] ∧ (ls = [] ∧ blank = true ∨ ∃ ks k, ls = ks ++ [k] ∧ k.chars = []) := by
  induction ls generalizing blank with
  | nil =>
    rw [List.nil_append, squeezeBy]
    split
    · rename_i hl
      cases blank with
      | true => exact Or.inr ⟨List.isEmpty_iff.1 hl, Or.inl ⟨rfl, rfl⟩⟩
      | false => exact Or.inl List.mem_cons_self
    · exact Or.inl List.mem_cons_self
  | cons k ls ih =>
    have hnext : ∀ blank', (blank' = true → k.chars = []) →
        (l ∈ squeezeBy blank' (ls ++ l :: ms) ∨
          l.chars = [] ∧ (k :: ls = [] ∧ blank = true ∨ ∃ ks j, k :: ls = ks ++ [j] ∧ j.chars = [])) := by
      intro blank' hk
      rcases ih blank' with hmem | ⟨hl, ⟨rfl, hblank⟩ | ⟨ks, j, rfl, hj⟩⟩
      · exact Or.inl hmem
      · exact Or.inr ⟨hl, Or.inr ⟨[], k, rfl, hk hblank⟩⟩
      · exact Or.inr ⟨hl, Or.inr ⟨k :: ks, j, rfl, hj⟩⟩
    rw [List.cons_append, squeezeBy]
    split
    · rename_i hk
      split
      · exact hnext true fun _ => List.isEmpty_iff.1 hk
      · exact (hnext true fun _ => List.isEmpty_iff.1 hk).imp_left (List.mem_cons_of_mem k)
    · exact (hnext false fun hfalse => by cases hfalse).imp_left (List.mem_cons_of_mem k)

/-! ### What is shown is left -/

/-- On a text whose lines are covered, what is shown and no white space is left of its line. -/
lemma mem_rendered_of_mem_row (h : Covered κ t) (hl : l ∈ cut κ.isFeed t) (hc : c ∈ row κ.isReturn l.chars)
    (hspace : κ.isSpace c = false) : c ∈ (render κ l).chars := by
  obtain ⟨rest, hrow, hrest⟩ := exists_row_eq (h l hl)
  rw [hrow] at hc
  refine (List.mem_append.1 hc).resolve_right fun hmem => ?_
  rw [hrest c hmem] at hspace
  cases hspace

/-- A line that is not empty when it is rendered is kept. -/
lemma render_mem_rendered (hl : l ∈ cut κ.isFeed t) (hne : (render κ l).chars ≠ []) : render κ l ∈ rendered κ t := by
  obtain ⟨ls, ms, hsplit⟩ := List.append_of_mem hl
  have hkept := mem_squeezeBy false (ls.map (render κ)) (render κ l) (ms.map (render κ))
  rw [← List.map_cons, ← List.map_append, ← hsplit] at hkept
  exact hkept.resolve_right fun hempty => hne hempty.1

lemma mem_paste_of_mem_glass (h : Covered κ t) (hc : c ∈ glass κ t) (hspace : κ.isSpace c = false) :
    c ∈ paste (rendered κ t) := by
  obtain ⟨l, hl, hc⟩ := List.mem_flatMap.1 hc
  rcases List.mem_append.1 hc with hc | hc
  · have hleft := mem_rendered_of_mem_row h hl hc hspace
    have hkept := render_mem_rendered hl (List.ne_nil_of_mem hleft)
    exact List.mem_flatMap.2 ⟨_, hkept, List.mem_append_left _ hleft⟩
  · rw [feed_isSpace ((lined_cut κ.isFeed t).whole l hl) hc] at hspace
    cases hspace

/-- White space that has only white space on one side is at that end of what is shown. -/
lemma fate_of_side {p q : List α} (hnodup : t.Nodup) (h : Covered κ t) (hsplit : paste (rendered κ t) = p ++ c :: q)
    (hc : κ.isSpace c = true) (hside : (∀ d ∈ p, κ.isSpace d = true) ∨ ∀ d ∈ q, κ.isSpace d = true) : Fate κ t c := by
  have hsub := rendered_sublist_glass κ t
  have hmem : c ∈ glass κ t := hsub.subset (hsplit ▸ List.mem_append_right p List.mem_cons_self)
  obtain ⟨a, b, hglass⟩ := List.append_of_mem hmem
  rw [hsplit, hglass] at hsub
  have hshown : (a ++ c :: b).Nodup := hglass ▸ nodup_glass hnodup
  -- what is shown on one side and no white space is left there
  have hother : ∀ d ∈ a ++ c :: b, κ.isSpace d = false → (d ∈ a → d ∈ p) ∧ (d ∈ b → d ∈ q) := fun d hd hspace =>
    sublist_sides hsub hshown (hsplit ▸ mem_paste_of_mem_glass h (hglass ▸ hd) hspace)
  rcases hside with hside | hside
  · refine .textStart a b hglass fun d hd => ?_
    rcases List.mem_append.1 hd with hd | hd
    · by_contra hspace
      rw [Bool.not_eq_true] at hspace
      rw [hside d ((hother d (List.mem_append_left _ hd) hspace).1 hd)] at hspace
      cases hspace
    · exact List.mem_singleton.1 hd ▸ hc
  · refine .textEnd a b hglass fun d hd => ?_
    rcases List.mem_cons.1 hd with rfl | hd
    · exact hc
    · by_contra hspace
      rw [Bool.not_eq_true] at hspace
      rw [hside d ((hother d (List.mem_append_right a (List.mem_cons_of_mem c hd)) hspace).2 hd)] at hspace
      cases hspace

/-- What is trimmed off the text is at an end of what is shown. -/
lemma fate_of_mem_paste (hnodup : t.Nodup) (h : Covered κ t) (hc : c ∈ paste (rendered κ t)) : Fate κ t c := by
  obtain ⟨x, y, hsplit, hx, hy⟩ := trimBy_split κ.isSpace (paste (rendered κ t))
  rw [hsplit, List.append_assoc, List.mem_append, List.mem_append] at hc
  rcases hc with hc | hc | hc
  · obtain ⟨p, q, rfl⟩ := List.append_of_mem hc
    have hp : ∀ d ∈ p, κ.isSpace d = true := fun d hd => hx d (List.mem_append_left _ hd)
    rw [List.append_assoc, List.append_assoc, List.cons_append] at hsplit
    exact fate_of_side hnodup h hsplit (hx c hc) (Or.inl hp)
  · exact .left hc
  · obtain ⟨p, q, rfl⟩ := List.append_of_mem hc
    have hq : ∀ d ∈ q, κ.isSpace d = true := fun d hd => hy d (List.mem_append_right p (List.mem_cons_of_mem c hd))
    rw [← List.append_assoc] at hsplit
    exact fate_of_side hnodup h hsplit (hy c hc) (Or.inr hq)

lemma blank_of_render (h : Covered κ t) (hl : l ∈ cut κ.isFeed t) (hempty : (render κ l).chars = []) : Blank κ l := by
  obtain ⟨rest, hrow, hrest⟩ := exists_row_eq (h l hl)
  intro c hc
  rw [hrow, hempty, List.nil_append] at hc
  exact hrest c hc

lemma fate_of_feed (hnodup : t.Nodup) (h : Covered κ t) (hl : l ∈ cut κ.isFeed t) (hc : c ∈ l.feed) : Fate κ t c := by
  obtain ⟨ls, ms, hsplit⟩ := List.append_of_mem hl
  have hkept := mem_squeezeBy false (ls.map (render κ)) (render κ l) (ms.map (render κ))
  rw [← List.map_cons, ← List.map_append, ← hsplit] at hkept
  rcases hkept with hkept | ⟨hempty, ⟨-, hfalse⟩ | ⟨ks, k, hks, hk⟩⟩
  · exact fate_of_mem_paste hnodup h (List.mem_flatMap.2 ⟨_, hkept, List.mem_append_right _ hc⟩)
  · cases hfalse
  · -- the line is empty, and the one before it
    obtain ⟨before, last, rfl, -, hlast⟩ := List.map_eq_append_iff.1 hks
    obtain ⟨m, rfl, rfl⟩ := List.map_eq_singleton_iff.1 hlast
    rw [List.append_assoc, List.singleton_append] at hsplit
    have hm : m ∈ cut κ.isFeed t := by
      rw [hsplit]
      exact List.mem_append_right _ List.mem_cons_self
    exact .collapsed before m l ms hsplit (blank_of_render h hm hk) (blank_of_render h hl hempty)
      (List.mem_append_right _ hc)

/-- **On covered lines every character has its fate.** -/
theorem fate_of_covered (hnodup : t.Nodup) (h : Covered κ t) (hc : c ∈ t) : Fate κ t c := by
  rw [← paste_cut κ.isFeed t] at hc
  obtain ⟨l, hl, hc⟩ := List.mem_flatMap.1 hc
  rcases List.mem_append.1 hc with hc | hc
  · by_cases hshown : c ∈ row κ.isReturn l.chars
    · obtain ⟨rest, hrow, hrest⟩ := exists_row_eq (h l hl)
      have hsplit := hshown
      rw [hrow] at hsplit
      rcases List.mem_append.1 hsplit with hmem | hmem
      · have hkept := render_mem_rendered hl (List.ne_nil_of_mem hmem)
        exact fate_of_mem_paste hnodup h (List.mem_flatMap.2 ⟨_, hkept, List.mem_append_left _ hmem⟩)
      · obtain ⟨p, q, rfl⟩ := List.append_of_mem hmem
        rw [← List.append_assoc] at hrow
        exact .lineEnd l _ q hl hrow fun d hd => hrest d (List.mem_append_right p hd)
    · exact .overwritten l hl hc hshown
  · exact fate_of_feed hnodup h hl hc

/-- **What stands beyond is lost**, and nothing accounts for it but that it is white space. -/
theorem covered_of_fate (hnodup : t.Nodup) (h : ∀ c ∈ t, Fate κ t c) : Covered κ t := by
  intro l hl c hc
  by_contra hspace
  have hrow : c ∈ row κ.isReturn l.chars := by
    rw [row_render]
    exact List.mem_append_right _ (List.mem_append_right _ hc)
  have hchars := mem_of_mem_row hrow
  have honly : ∀ m ∈ cut κ.isFeed t, c ∈ m.all → l = m := fun m hm hcm =>
    eq_of_mem_chars (by rwa [paste_cut]) hl hm (List.mem_append_left _ hchars.1) hcm
  have hlines : (paste (cut κ.isFeed t)).Nodup := by rwa [paste_cut]
  have hmem : c ∈ t := by
    rw [← paste_cut κ.isFeed t]
    exact (line_within hl).subset (List.mem_append_left _ hchars.1)
  cases h c hmem with
  | left h =>
    obtain ⟨m, hm, hcm⟩ := List.mem_flatMap.1 ((trimBy_within _ _).subset h)
    obtain ⟨k, hk, rfl⟩ := mem_rendered hm
    rcases List.mem_append.1 hcm with hcm | hcm
    · obtain rfl := honly k hk (List.mem_append_left _ ((render_chars k).subset hcm))
      have hline := (List.nodup_append.1 ((List.nodup_flatMap.1 hlines).1 l hl)).1
      have hshown : (row κ.isReturn l.chars).Nodup := nodup_row hline
      rw [row_render] at hshown
      exact (List.nodup_append.1 hshown).2.2 c hcm c (List.mem_append_right _ hc) rfl
    · exact hspace (feed_isSpace ((lined_cut κ.isFeed t).whole k hk) hcm)
  | control h => rw [hchars.2] at h; cases h
  | overwritten m hm hcm h =>
    obtain rfl := honly m hm (List.mem_append_left _ hcm)
    exact h hrow
  | lineEnd m a b hm h hall => exact hspace (hall c List.mem_cons_self)
  | textStart a b h hall => exact hspace (hall c (List.mem_append_right a List.mem_cons_self))
  | textEnd a b h hall => exact hspace (hall c List.mem_cons_self)
  | collapsed ls k m ms h hk hm hcm =>
    have hin : m ∈ cut κ.isFeed t := by
      rw [h]
      exact List.mem_append_right _ (List.mem_cons_of_mem k List.mem_cons_self)
    obtain rfl := honly m hin hcm
    exact hspace (hm c hrow)

/-! ### The text of the agent -/

/-- The runes of a text, each with its place. -/
def placed (s : Bytes) : List (Rune × ℕ) := (runes s).zipIdx

def placedKinds : Kinds (Rune × ℕ) := runeKinds.comap Prod.fst

/-- What is asked of the rendering: that it is left as it is by another, that it consists of the characters that are
left, and that every character is accounted for. -/
structure Faithful (s : Bytes) : Prop where
  idempotent : normalizeConsoleOutput (normalizeConsoleOutput s) = normalizeConsoleOutput s
  output : normalizeConsoleOutput s = (tidy placedKinds (placed s)).flatMap fun c => c.1.bytes
  accounted : ∀ c ∈ placed s, Fate placedKinds (placed s) c

lemma nodup_placed (s : Bytes) : (placed s).Nodup := by
  refine List.Nodup.of_map Prod.snd ?_
  rw [placed, List.zipIdx_map_snd]
  exact List.nodup_range'

lemma placed_map_fst (s : Bytes) : (placed s).map Prod.fst = runes s := List.zipIdx_map_fst 0 (runes s)

lemma covered_placed (s : Bytes) : Covered placedKinds (placed s) ↔ Covered runeKinds (runes s) := by
  have hmap : ∀ l : List (Rune × ℕ), (l.flatMap fun a => [a.1]) = l.map Prod.fst := fun l =>
    List.flatMap_pure_eq_map Prod.fst l
  have hcarries := carries_comap runeKinds (Prod.fst : Rune × ℕ → Rune)
  have hbeyond : ∀ l : Line (Rune × ℕ), beyond runeKinds.isReturn (lineText runeKinds (l.bind fun a => [a.1])) =
      (beyond placedKinds.isReturn (lineText placedKinds l)).map Prod.fst := by
    intro l
    rw [hcarries.lineText, hmap, beyond_map]
    rfl
  have hcut := hcarries.cut (placed s)
  rw [hmap, placed_map_fst] at hcut
  unfold Covered
  rw [hcut, List.forall_mem_map]
  refine forall₂_congr fun l _ => ?_
  rw [hbeyond, List.forall_mem_map]
  rfl

lemma normalize_normalize (s : Bytes) :
    normalizeConsoleOutput (normalizeConsoleOutput s) = normalizeConsoleOutput s := by
  have hreadable : Readable (tidy runeKinds (runes s)) := (readable_rendered s).of_within (trimBy_within _ _)
  rw [normalizeConsoleOutput_eq_tidy, normalizeConsoleOutput_eq_tidy s, hreadable, tidy_tidy]

lemma normalize_placed (s : Bytes) :
    normalizeConsoleOutput s = (tidy placedKinds (placed s)).flatMap fun c => c.1.bytes := by
  rw [normalizeConsoleOutput_eq_tidy, ← placed_map_fst, tidy_map, List.flatMap_map]
  rfl

/-- **Where the rendering is faithful.**  It always is left as it is by another, and every character of the text is
accounted for exactly when on each line, without the return of its end, what a terminal shows beyond the characters
after the last return is white space. -/
theorem faithful_iff (s : Bytes) : Faithful s ↔ Covered runeKinds (runes s) := by
  rw [← covered_placed]
  constructor
  · exact fun h => covered_of_fate (nodup_placed s) h.accounted
  · exact fun h => ⟨normalize_normalize s, normalize_placed s, fun c hc => fate_of_covered (nodup_placed s) h hc⟩

/-! ### A line with two returns -/

/-- A line of a tool that ends its lines in CR CR LF. -/
def doubled : Bytes := utf8 "Erreur 0x800f081f\r\r\n"

lemma not_covered_doubled : ¬ Covered runeKinds (runes doubled) := by
  rw [doubled, utf8, runes_encode]
  decide +kernel

/-- Nothing is left of it. -/
theorem doubled_is_lost : ¬ Faithful doubled ∧ normalizeConsoleOutput doubled = [] := by
  constructor
  · intro h
    exact not_covered_doubled ((covered_placed doubled).1 (covered_of_fate (nodup_placed doubled) h.accounted))
  · rw [normalizeConsoleOutput_eq_tidy, doubled, utf8, runes_encode]
    decide +kernel

end Tiai.Console
