import Mathlib.Data.List.Chain
import Tiai.Agent.Console
import Tiai.Lib.Terminal

/-!
# A rendered text, character by character

The rendering of `collector/maintenance.go` moves characters and looks at nothing but their kinds.  It is said here of
characters of any type, so that they can be told apart in the text that is left.

* `tidy` — what is left of a text;
* `tidy_tidy` — it is left as it is;
* `tidy_map` — characters that are told apart are rendered as they would be otherwise;
* `normalizeConsoleOutput_eq_tidy` — what the agent computes on bytes.
-/

namespace Tiai.Console

open Lib Terminal Utf8

/-! ### The rendering -/

/-- The kinds of characters. -/
structure Kinds (α : Type) where
  isReturn : α → Bool
  isFeed : α → Bool
  isBlank : α → Bool
  isSpace : α → Bool
  feed_isSpace : ∀ c, isFeed c = true → isSpace c = true
  blank_isSpace : ∀ c, isBlank c = true → isSpace c = true

variable {α β : Type} (κ : Kinds α)

/-- The return of a line end is no part of the line. -/
def dropReturn (chars : List α) : List α := if chars.getLast?.any κ.isReturn then chars.dropLast else chars

def lineText (l : Line α) : List α := if l.feed.isEmpty then l.chars else dropReturn κ l.chars

def shownBy (chars : List α) : List α := (tail κ.isReturn chars).rdropWhile κ.isBlank

def render (l : Line α) : Line α := ⟨shownBy κ (lineText κ l), l.feed⟩

def squeezeBy : Bool → List (Line α) → List (Line α)
  | _, [] => []
  | blank, l :: ls =>
    if l.chars.isEmpty then if blank then squeezeBy true ls else l :: squeezeBy true ls else l :: squeezeBy false ls

def rendered (t : List α) : List (Line α) := squeezeBy false ((cut κ.isFeed t).map (render κ))

def tidy (t : List α) : List α := trimBy κ.isSpace (paste (rendered κ t))

/-! ### What is left is left as it is -/

variable {κ} {l m : Line α} {ls : List (Line α)} {t x : List α} {c : α} {blank : Bool}

lemma squeezeBy_sublist (blank : Bool) (ls : List (Line α)) : (squeezeBy blank ls).Sublist ls := by
  induction ls generalizing blank with
  | nil => exact List.Sublist.slnil
  | cons l ls ih =>
    rw [squeezeBy]
    split
    · split
      · exact (ih true).cons l
      · exact (ih true).cons_cons l
    · exact (ih false).cons_cons l

lemma dropReturn_concat (x : List α) (c : α) :
    dropReturn κ (x ++ [c]) = if κ.isReturn c = true then x else x ++ [c] := by
  simp [dropReturn]

lemma dropReturn_start (x : List α) : dropReturn κ x <+: x := by
  unfold dropReturn
  split
  · exact List.dropLast_prefix x
  · exact List.prefix_rfl

lemma lineText_start (l : Line α) : lineText κ l <+: l.chars := by
  unfold lineText
  split
  · exact List.prefix_rfl
  · exact dropReturn_start l.chars

/-- What is shown of a line is a part of it, without returns, and with no blank at its end. -/
lemma shownBy_within (x : List α) : shownBy κ x <:+: x :=
  (List.rdropWhile_prefix _ _).isInfix.trans (List.rtakeWhile_suffix _ _).isInfix

/-- A line without returns, and with no blank at its end. -/
structure Neat (κ : Kinds α) (l : Line α) : Prop where
  not_return : ∀ c ∈ l.chars, κ.isReturn c = false
  not_blank : ∀ c, l.chars.getLast? = some c → κ.isBlank c = false

lemma neat_render (l : Line α) : Neat κ (render κ l) := by
  refine ⟨fun c hc => ?_, fun c hc => ?_⟩
  · have htail := List.mem_rtakeWhile_imp ((List.rdropWhile_prefix _ _).subset hc)
    simpa using htail
  · change (shownBy κ (lineText κ l)).getLast? = some c at hc
    have hne : shownBy κ (lineText κ l) ≠ [] := List.ne_nil_of_mem (List.mem_of_getLast? hc)
    have hlast := List.rdropWhile_last_not κ.isBlank (tail κ.isReturn (lineText κ l)) hne
    change ¬ κ.isBlank ((shownBy κ (lineText κ l)).getLast hne) = true at hlast
    rw [List.getLast_of_getLast?_eq_some hc] at hlast
    simpa using hlast

lemma lineText_of_neat (h : Neat κ l) : lineText κ l = l.chars := by
  unfold lineText dropReturn
  split
  · rfl
  · cases hlast : l.chars.getLast? with
    | none => rfl
    | some c => simp [h.not_return c (List.mem_of_getLast? hlast)]

lemma render_of_neat (h : Neat κ l) : render κ l = l := by
  have htail : tail κ.isReturn l.chars = l.chars :=
    List.rtakeWhile_eq_self_iff.2 fun c hc => by simp [h.not_return c hc]
  have hblank : l.chars.rdropWhile κ.isBlank = l.chars := by
    refine List.rdropWhile_eq_self_iff.2 fun hne => ?_
    simp [h.not_blank _ (List.getLast?_eq_some_getLast hne)]
  rw [render, shownBy, lineText_of_neat h, htail, hblank]

/-- Lines that are neat, and no two empty ones in a row. -/
structure Tidied (κ : Kinds α) (ls : List (Line α)) : Prop where
  lined : Lined κ.isFeed ls
  neat : ∀ l ∈ ls, Neat κ l
  apart : ls.IsChain fun l m => ¬ (l.chars = [] ∧ m.chars = [])

lemma lined_render (h : Lined κ.isFeed ls) : Lined κ.isFeed (ls.map (render κ)) := by
  refine ⟨fun m hm => ?_, List.pairwise_map.2 h.ended⟩
  obtain ⟨l, hl, rfl⟩ := List.mem_map.1 hm
  obtain ⟨hchars, hfeed⟩ := h.whole l hl
  exact ⟨fun c hc => hchars c ((lineText_start l).subset ((shownBy_within _).subset hc)), hfeed⟩

/-- After an empty line no other is kept. -/
lemma isChain_squeezeBy (blank : Bool) (ls : List (Line α)) :
    (squeezeBy blank ls).IsChain (fun l m => ¬ (l.chars = [] ∧ m.chars = [])) ∧
      (blank = true → ∀ m, (squeezeBy blank ls).head? = some m → m.chars ≠ []) := by
  induction ls generalizing blank with
  | nil => exact ⟨List.IsChain.nil, fun _ m hm => by cases hm⟩
  | cons l ls ih =>
    rw [squeezeBy]
    split
    · obtain ⟨hchain, hhead⟩ := ih true
      split
      · exact ⟨hchain, fun _ => hhead rfl⟩
      · rename_i hblank
        refine ⟨List.isChain_cons.2 ⟨fun m hm hboth => ?_, hchain⟩, fun h => absurd h hblank⟩
        exact hhead rfl m hm hboth.2
    · rename_i hl
      have hne : l.chars ≠ [] := by simpa using hl
      refine ⟨List.isChain_cons.2 ⟨fun m _ hboth => hne hboth.1, (ih false).1⟩, fun _ m hm => ?_⟩
      rw [List.head?_cons, Option.some_inj] at hm
      exact hm ▸ hne

lemma squeezeBy_eq_self (h : ls.IsChain fun l m => ¬ (l.chars = [] ∧ m.chars = []))
    (hhead : blank = true → ∀ m, ls.head? = some m → m.chars ≠ []) : squeezeBy blank ls = ls := by
  induction ls generalizing blank with
  | nil => rfl
  | cons l ls ih =>
    obtain ⟨hnext, hchain⟩ := List.isChain_cons.1 h
    rw [squeezeBy]
    split
    · rename_i hl
      have hnil : l.chars = [] := List.isEmpty_iff.1 hl
      rw [if_neg fun hblank => hhead hblank l rfl hnil, ih hchain fun _ m hm hempty => hnext m hm ⟨hnil, hempty⟩]
    · rw [ih hchain fun hfalse => by cases hfalse]

lemma tidied_rendered (κ : Kinds α) (t : List α) : Tidied κ (rendered κ t) := by
  refine ⟨(lined_render (lined_cut κ.isFeed t)).sublist (squeezeBy_sublist _ _), fun l hl => ?_,
    (isChain_squeezeBy _ _).1⟩
  obtain ⟨m, -, rfl⟩ := List.mem_map.1 ((squeezeBy_sublist _ _).subset hl)
  exact neat_render m

lemma mem_rendered (h : l ∈ rendered κ t) : ∃ m ∈ cut κ.isFeed t, render κ m = l :=
  List.mem_map.1 ((squeezeBy_sublist _ _).subset h)

lemma render_chars (l : Line α) : (render κ l).chars <:+: l.chars :=
  (shownBy_within _).trans (lineText_start l).isInfix

/-- A line that is left has a place in the text. -/
lemma line_within (h : l ∈ ls) : l.all <:+: paste ls := by
  obtain ⟨ks, ms, rfl⟩ := List.append_of_mem h
  exact ⟨paste ks, paste ms, by rw [paste_append, paste_cons, List.append_assoc]⟩

lemma mem_of_mem_rendered (h : c ∈ paste (rendered κ t)) : c ∈ t := by
  obtain ⟨l, hl, hc⟩ := List.mem_flatMap.1 h
  obtain ⟨m, hm, rfl⟩ := mem_rendered hl
  rw [← paste_cut κ.isFeed t]
  refine (line_within hm).subset ?_
  rcases List.mem_append.1 hc with hc | hc
  · exact List.mem_append_left _ ((render_chars m).subset hc)
  · exact List.mem_append_right _ hc

/-- A line whose characters are replaced by some at its end, or at its start. -/
lemma Neat.replace {chars feed : List α} (h : Neat κ l) (hsub : ∀ c ∈ chars, c ∈ l.chars)
    (hlast : ∀ c, chars.getLast? = some c → κ.isBlank c = false) : Neat κ ⟨chars, feed⟩ :=
  ⟨fun c hc => h.not_return c (hsub c hc), hlast⟩

lemma getLast?_dropWhile {p : α → Bool} (h : (x.dropWhile p).getLast? = some c) : x.getLast? = some c := by
  rw [← List.takeWhile_append_dropWhile (p := p) (l := x), List.getLast?_append, h, Option.some_or]

lemma feed_isSpace (h : l.Whole κ.isFeed) (hc : c ∈ l.feed) : κ.isSpace c = true := by
  rcases h.feed with hnil | ⟨d, hd, hone⟩
  · rw [hnil] at hc
    cases hc
  · rw [hone, List.mem_singleton] at hc
    exact hc ▸ κ.feed_isSpace d hd

/-- White space at the start of tidied lines is that of some lines, and of one. -/
lemma exists_dropWhile_paste (h : Tidied κ ls) :
    ∃ ms, Tidied κ ms ∧ (paste ls).dropWhile κ.isSpace = paste ms := by
  induction ls with
  | nil => exact ⟨[], h, rfl⟩
  | cons l ls ih =>
    have hwhole := h.lined.whole l List.mem_cons_self
    obtain ⟨hnext, hchain⟩ := List.isChain_cons.1 h.apart
    have hneat := h.neat l List.mem_cons_self
    by_cases hall : ∀ c ∈ l.chars, κ.isSpace c = true
    · have hline : ∀ c ∈ l.all, κ.isSpace c = true := by
        intro c hc
        rcases List.mem_append.1 hc with hc | hc
        · exact hall c hc
        · exact feed_isSpace hwhole hc
      rw [paste_cons, List.dropWhile_append_of_pos hline]
      exact ih ⟨h.lined.sublist (List.sublist_cons_self l ls), fun m hm => h.neat m (List.mem_cons_of_mem l hm), hchain⟩
    · have hne : l.chars.dropWhile κ.isSpace ≠ [] := fun hnil => hall (List.dropWhile_eq_nil_iff.1 hnil)
      have hsub : ∀ c ∈ l.chars.dropWhile κ.isSpace, c ∈ l.chars := fun c hc =>
        (List.dropWhile_sublist _).subset hc
      refine ⟨⟨l.chars.dropWhile κ.isSpace, l.feed⟩ :: ls, ⟨⟨?_, ?_⟩, ?_, ?_⟩, ?_⟩
      · exact List.forall_mem_cons.2 ⟨⟨fun c hc => hwhole.chars c (hsub c hc), hwhole.feed⟩,
          fun m hm => h.lined.whole m (List.mem_cons_of_mem l hm)⟩
      · obtain ⟨hfirst, hrest⟩ := List.pairwise_cons.1 h.lined.ended
        exact List.pairwise_cons.2 ⟨hfirst, hrest⟩
      · exact List.forall_mem_cons.2 ⟨hneat.replace hsub fun c hc => hneat.not_blank c (getLast?_dropWhile hc),
          fun m hm => h.neat m (List.mem_cons_of_mem l hm)⟩
      · exact List.isChain_cons.2 ⟨fun m _ hboth => hne hboth.1, hchain⟩
      · rw [paste_cons, paste_cons, Line.all, Line.all, List.append_assoc, List.append_assoc, List.dropWhile_append]
        simp [hne]

/-- Without the white space at the end, the last line is not ended. -/
lemma exists_rdropWhile_paste (h : Tidied κ ls) : ∃ ms, Tidied κ ms ∧ (paste ls).rdropWhile κ.isSpace = paste ms ∧
    (ms = [] ∨ ∃ ks m, ms = ks ++ [m] ∧ m.feed = []) := by
  induction ls using List.reverseRecOn with
  | nil => exact ⟨[], h, List.rdropWhile_nil .., Or.inl rfl⟩
  | append_singleton ls l ih =>
    have hl : l ∈ ls ++ [l] := List.mem_append_right _ List.mem_cons_self
    have hwhole := h.lined.whole l hl
    have hneat := h.neat l hl
    obtain ⟨hended, -, hfeeds⟩ := List.pairwise_append.1 h.lined.ended
    have hbefore : ∀ m ∈ ls, m.Whole κ.isFeed := fun m hm => h.lined.whole m (List.mem_append_left _ hm)
    have hneats : ∀ m ∈ ls, Neat κ m := fun m hm => h.neat m (List.mem_append_left _ hm)
    have hpaste : paste (ls ++ [l]) = paste ls ++ l.chars ++ l.feed := by
      rw [paste_append, paste_cons, paste_nil, List.append_nil, Line.all, List.append_assoc]
    rw [hpaste, rdropWhile_append_of_pos fun c hc => feed_isSpace hwhole hc]
    by_cases hall : ∀ c ∈ l.chars, κ.isSpace c = true
    · rw [rdropWhile_append_of_pos hall]
      exact ih ⟨⟨hbefore, hended⟩, hneats, h.apart.left_of_append⟩
    · have hne : l.chars.rdropWhile κ.isSpace ≠ [] := fun hnil => hall (List.rdropWhile_eq_nil_iff.1 hnil)
      have hsub : ∀ c ∈ l.chars.rdropWhile κ.isSpace, c ∈ l.chars := fun c hc => (List.rdropWhile_prefix _ _).subset hc
      have hlast : ∀ c, (l.chars.rdropWhile κ.isSpace).getLast? = some c → κ.isBlank c = false := by
        intro c hc
        have hstays := List.rdropWhile_last_not κ.isSpace l.chars hne
        rw [List.getLast_of_getLast?_eq_some hc] at hstays
        exact Bool.eq_false_iff.2 fun hblank => hstays (κ.blank_isSpace c hblank)
      rw [rdropWhile_append_of_ne_nil hne]
      refine ⟨ls ++ [⟨l.chars.rdropWhile κ.isSpace, []⟩], ⟨⟨?_, ?_⟩, ?_, ?_⟩, ?_, Or.inr ⟨ls, _, rfl, rfl⟩⟩
      · refine fun m hm => (List.mem_append.1 hm).elim (hbefore m) fun hm => ?_
        obtain rfl := List.mem_singleton.1 hm
        exact ⟨fun c hc => hwhole.chars c (hsub c hc), Or.inl rfl⟩
      · refine List.pairwise_append.2 ⟨hended, List.pairwise_singleton _ _, fun m hm _ _ => ?_⟩
        exact hfeeds m hm l List.mem_cons_self
      · refine fun m hm => (List.mem_append.1 hm).elim (hneats m) fun hm => ?_
        obtain rfl := List.mem_singleton.1 hm
        exact hneat.replace hsub hlast
      · refine h.apart.left_of_append.append (List.isChain_singleton _) fun k _ m hm hboth => ?_
        rw [List.head?_cons, Option.mem_some_iff] at hm
        subst hm
        exact hne hboth.2
      · rw [paste_append, paste_cons, paste_nil, Line.all, List.append_nil, List.append_nil]

/-- Tidied lines whose last is not ended are rendered as they are. -/
lemma rendered_paste (h : Tidied κ ls) (hlast : ∃ ks m, ls = ks ++ [m] ∧ m.feed = []) : rendered κ (paste ls) = ls := by
  have hmap : ls.map (render κ) = ls := by
    conv_rhs => rw [← List.map_id ls]
    exact List.map_congr_left fun l hl => render_of_neat (h.neat l hl)
  rw [rendered, cut_paste h.lined hlast, hmap]
  exact squeezeBy_eq_self h.apart fun hfalse => by cases hfalse

/-- **What is left of a text is left as it is.** -/
theorem tidy_tidy (κ : Kinds α) (t : List α) : tidy κ (tidy κ t) = tidy κ t := by
  obtain ⟨ms, hms, hfront⟩ := exists_dropWhile_paste (tidied_rendered κ t)
  obtain ⟨ns, hns, hback, hlast⟩ := exists_rdropWhile_paste hms
  have htidy : tidy κ t = paste ns := by
    rw [tidy, trimBy, hfront, hback]
  rcases hlast with rfl | hlast
  · rw [htidy]
    rfl
  · have hagain : tidy κ (paste ns) = trimBy κ.isSpace (paste ns) := by rw [tidy, rendered_paste hns hlast]
    rw [htidy, hagain, ← htidy, tidy, trimBy_trimBy]

/-! ### Spellings -/

/-- A spelling of characters, of the same kind each as what it spells. -/
structure Carries (κ : Kinds α) (κ' : Kinds β) (h : α → List β) : Prop where
  ne_nil : ∀ a, h a ≠ []
  isReturn_eq : ∀ a, ∀ b ∈ h a, κ'.isReturn b = κ.isReturn a
  isFeed_eq : ∀ a, ∀ b ∈ h a, κ'.isFeed b = κ.isFeed a
  isBlank_eq : ∀ a, ∀ b ∈ h a, κ'.isBlank b = κ.isBlank a
  single : ∀ a, κ.isReturn a = true ∨ κ.isFeed a = true → ∃ b, h a = [b]

variable {κ' : Kinds β} {h : α → List β}

namespace Carries

lemma flatMap_eq_nil (hc : Carries κ κ' h) {x : List α} : x.flatMap h = [] ↔ x = [] := by
  rw [List.flatMap_eq_nil_iff]
  constructor
  · exact fun hall => List.eq_nil_iff_forall_not_mem.2 fun a ha => hc.ne_nil a (hall a ha)
  · rintro rfl a ha
    cases ha

lemma cut (hc : Carries κ κ' h) (t : List α) : cut κ'.isFeed (t.flatMap h) = (cut κ.isFeed t).map (Line.bind h) := by
  refine cut_flatMap (fun a ha => ?_) (fun a ha b hb => by rw [hc.isFeed_eq a b hb, ha]) t
  obtain ⟨b, hb⟩ := hc.single a (Or.inr ha)
  exact ⟨b, by rw [hc.isFeed_eq a b (hb ▸ List.mem_cons_self), ha], hb⟩

lemma dropReturn (hc : Carries κ κ' h) (x : List α) : dropReturn κ' (x.flatMap h) = (dropReturn κ x).flatMap h := by
  rcases List.eq_nil_or_concat' x with rfl | ⟨x, a, rfl⟩
  · rfl
  · rw [dropReturn_concat, List.flatMap_append, List.flatMap_singleton]
    cases ha : κ.isReturn a with
    | true =>
      obtain ⟨b, hb⟩ := hc.single a (Or.inl ha)
      have hreturn : κ'.isReturn b = true := by rw [hc.isReturn_eq a b (hb ▸ List.mem_cons_self), ha]
      rw [hb, dropReturn_concat, if_pos hreturn, if_pos rfl]
    | false =>
      obtain ⟨y, b, hb⟩ := (List.eq_nil_or_concat' (h a)).resolve_left (hc.ne_nil a)
      have hreturn : κ'.isReturn b = false := by
        rw [hc.isReturn_eq a b (hb ▸ List.mem_append_right y List.mem_cons_self), ha]
      rw [hb, ← List.append_assoc, dropReturn_concat, hreturn, if_neg Bool.false_ne_true, if_neg Bool.false_ne_true,
        List.flatMap_append, List.flatMap_singleton, hb, List.append_assoc]

lemma lineText (hc : Carries κ κ' h) (l : Line α) : lineText κ' (l.bind h) = (lineText κ l).flatMap h := by
  by_cases hfeed : l.feed = []
  · simp [Console.lineText, Line.bind, hfeed]
  · have hbind : l.feed.flatMap h ≠ [] := fun hnil => hfeed (hc.flatMap_eq_nil.1 hnil)
    simp only [Console.lineText, Line.bind, List.isEmpty_iff, hfeed, hbind, if_false]
    exact hc.dropReturn l.chars

lemma render (hc : Carries κ κ' h) (l : Line α) : render κ' (l.bind h) = (render κ l).bind h := by
  have htail : tail κ'.isReturn ((Console.lineText κ l).flatMap h) =
      (tail κ.isReturn (Console.lineText κ l)).flatMap h :=
    rtakeWhile_flatMap hc.ne_nil (fun a b hb => by rw [hc.isReturn_eq a b hb]) _
  have hshown : shownBy κ' ((Console.lineText κ l).flatMap h) = (shownBy κ (Console.lineText κ l)).flatMap h := by
    rw [shownBy, shownBy, htail]
    exact rdropWhile_flatMap hc.ne_nil hc.isBlank_eq _
  rw [Console.render, hc.lineText, hshown]
  rfl

lemma squeezeBy (hc : Carries κ κ' h) (blank : Bool) (ls : List (Line α)) :
    squeezeBy blank (ls.map (Line.bind h)) = (squeezeBy blank ls).map (Line.bind h) := by
  induction ls generalizing blank with
  | nil => rfl
  | cons l ls ih =>
    have hempty : (l.bind h).chars.isEmpty = l.chars.isEmpty := by
      rw [Bool.eq_iff_iff, List.isEmpty_iff, List.isEmpty_iff]
      exact hc.flatMap_eq_nil
    rw [List.map_cons, Console.squeezeBy, Console.squeezeBy, hempty, ih, ih]
    split
    · split
      · rfl
      · rfl
    · rfl

/-- A spelled text is rendered as the spelling of the rendered text. -/
theorem rendered (hc : Carries κ κ' h) (t : List α) :
    rendered κ' (t.flatMap h) = (rendered κ t).map (Line.bind h) := by
  have hrender : (Terminal.cut κ.isFeed t).map (Console.render κ' ∘ Line.bind h) =
      (Terminal.cut κ.isFeed t).map (Line.bind h ∘ Console.render κ) := List.map_congr_left fun l _ => hc.render l
  rw [Console.rendered, Console.rendered, hc.cut, List.map_map, hrender, ← List.map_map, hc.squeezeBy]

end Carries

/-- The kinds of what is told apart are those of what it is. -/
def Kinds.comap (κ : Kinds β) (f : α → β) : Kinds α where
  isReturn := κ.isReturn ∘ f
  isFeed := κ.isFeed ∘ f
  isBlank := κ.isBlank ∘ f
  isSpace := κ.isSpace ∘ f
  feed_isSpace c := κ.feed_isSpace (f c)
  blank_isSpace c := κ.blank_isSpace (f c)

lemma carries_comap (κ : Kinds β) (f : α → β) : Carries (κ.comap f) κ fun a => [f a] where
  ne_nil _ := List.cons_ne_nil _ _
  isReturn_eq a b hb := by rw [List.mem_singleton.1 hb]; rfl
  isFeed_eq a b hb := by rw [List.mem_singleton.1 hb]; rfl
  isBlank_eq a b hb := by rw [List.mem_singleton.1 hb]; rfl
  single a _ := ⟨f a, rfl⟩

/-- **Characters that are told apart** are rendered as they would be otherwise. -/
theorem tidy_map (κ : Kinds β) (f : α → β) (t : List α) : tidy κ (t.map f) = (tidy (κ.comap f) t).map f := by
  have hmap : ∀ l : List α, (l.flatMap fun a => [f a]) = l.map f := fun l => List.flatMap_pure_eq_map f l
  have hrendered := (carries_comap κ f).rendered t
  rw [hmap] at hrendered
  rw [tidy, tidy, hrendered, paste_bind, hmap, trimBy_map]
  rfl

/-! ### The bytes of the agent -/

def byteKinds : Kinds UInt8 where
  isReturn b := b = 13
  isFeed b := b = 10
  isBlank b := b = 32 || b = 9
  isSpace b := (9 ≤ b && b ≤ 13) || b = 32
  feed_isSpace b h := by rw [of_decide_eq_true h]; decide
  blank_isSpace b h := by
    simp only [Bool.or_eq_true, decide_eq_true_eq] at h
    rcases h with rfl | rfl <;> decide

def runeKinds : Kinds Rune where
  isReturn r := r = .char '\r'
  isFeed r := r = .char '\n'
  isBlank r := r = .char ' ' || r = .char '\t'
  isSpace := isSpaceRune
  feed_isSpace r h := by rw [of_decide_eq_true h]; decide
  blank_isSpace r h := by
    simp only [Bool.or_eq_true, decide_eq_true_eq] at h
    rcases h with rfl | rfl <;> decide

variable {s u : Bytes} {bs : List (Line UInt8)} {rs : List Rune} {rls : List (Line Rune)}

/-- A line as it is cut, without the return of its end, is a line of the text without these returns. -/
lemma lines_foldCrLf (s : Bytes) : lines (foldCrLf s) = (cut byteKinds.isFeed s).map (lineText byteKinds) := by
  have hfeed : ∀ s : Bytes, lines (10 :: s) = [] :: lines s := fun s => by
    rw [lines, List.splitOn_cons_eq_if_modifyHead, if_pos (by rfl)]
    rfl
  fun_induction foldCrLf s with
  | case1 s ih =>
    have hcut : cut byteKinds.isFeed (13 :: 10 :: s) = ⟨[13], [10]⟩ :: cut byteKinds.isFeed s := rfl
    rw [hfeed, ih, hcut]
    rfl
  | case2 b s hne ih =>
    by_cases hb : b = 10
    · subst hb
      have hcut : cut byteKinds.isFeed (10 :: s) = ⟨[], [10]⟩ :: cut byteKinds.isFeed s := rfl
      rw [hfeed, ih, hcut]
      rfl
    · have hother : byteKinds.isFeed b = false := decide_eq_false hb
      obtain ⟨l, ls, hl, hcons⟩ := exists_cut_cons hother s
      have htext : lineText byteKinds (l.cons b) = b :: lineText byteKinds l := by
        cases hchars : l.chars with
        | nil =>
          -- a return with the feed right after it would be a line end
          by_cases hnone : l.feed = []
          · simp [lineText, Line.cons, hchars, hnone]
          · have hreturn : b ≠ 13 := by
              rintro rfl
              have hwhole := (lined_cut byteKinds.isFeed s).whole l (hl ▸ List.mem_cons_self)
              obtain ⟨c, hc, hone⟩ := hwhole.feed.resolve_left hnone
              have hpaste := paste_cut byteKinds.isFeed s
              rw [hl, paste_cons, Line.all, hchars, hone, of_decide_eq_true hc] at hpaste
              exact hne _ rfl hpaste.symm
            simp [lineText, Line.cons, hchars, hnone, dropReturn, byteKinds, hreturn]
        | cons d chars =>
          simp only [lineText, Line.cons, hchars, dropReturn, List.getLast?_cons_cons, List.dropLast_cons_cons]
          split
          · rfl
          · split
            · rfl
            · rfl
      rw [lines, List.splitOn_cons_eq_if_modifyHead, ← lines, ih, hl, hcons, if_neg (by simpa using hb), List.map_cons,
        List.map_cons, htext]
      rfl
  | case3 => rfl

lemma shown_eq (line : Bytes) : shown line = shownBy byteKinds line := by
  have hreturn : (fun b : UInt8 => decide (b ≠ 13)) = fun b => !byteKinds.isReturn b :=
    funext fun b => decide_not
  rw [shown, hreturn]
  rfl

lemma squeeze_chars (blank : Bool) (bs : List (Line UInt8)) :
    squeeze blank (bs.map Line.chars) = (squeezeBy blank bs).map Line.chars := by
  induction bs generalizing blank with
  | nil => rfl
  | cons l bs ih =>
    rw [List.map_cons, squeeze, squeezeBy, ih, ih]
    simp only [List.isEmpty_iff]
    split
    · split
      · rfl
      · rfl
    · rfl

/-- Pasted lines are joined lines, and the feed of the last. -/
lemma exists_paste_eq (h : Lined byteKinds.isFeed bs) :
    ∃ x, paste bs = unlines (bs.map Line.chars) ++ x ∧ (x = [] ∨ x = [10]) := by
  have hwhole : ∀ l ∈ bs, l.feed = [] ∨ l.feed = [10] := by
    intro l hl
    rcases (h.whole l hl).feed with hnil | ⟨c, hc, hone⟩
    · exact Or.inl hnil
    · exact Or.inr (by rw [hone, of_decide_eq_true hc])
  induction bs with
  | nil => exact ⟨[], rfl, Or.inl rfl⟩
  | cons l bs ih =>
    obtain ⟨hfirst, hrest⟩ := List.pairwise_cons.1 h.ended
    cases bs with
    | nil => exact ⟨l.feed, by simp [Line.all, unlines], hwhole l List.mem_cons_self⟩
    | cons m bs =>
      have hfeed : l.feed = [10] := (hwhole l List.mem_cons_self).resolve_left (hfirst m List.mem_cons_self)
      obtain ⟨x, hx, hend⟩ := ih (h.sublist (List.sublist_cons_self _ _))
        fun k hk => hwhole k (List.mem_cons_of_mem l hk)
      refine ⟨x, ?_, hend⟩
      have hjoin : unlines ((l :: m :: bs).map Line.chars) = l.chars ++ [10] ++ unlines ((m :: bs).map Line.chars) :=
        List.intercalate_cons_cons
      rw [paste_cons, hx, Line.all, hfeed, hjoin, List.append_assoc _ _ x]

/-- The bytes of a rune; a byte that is on its own is never a character by itself. -/
def spelling : Rune → Bytes
  | .char c => String.utf8EncodeChar c
  | .stray b => [if b < 128 then 128 else b]

lemma spelling_of_mem {r : Rune} (h : r ∈ runes s) : spelling r = r.bytes := by
  cases r with
  | char c => rfl
  | stray b => rw [spelling, if_neg (UInt8.not_lt.2 (stray_mem_runes h))]; rfl

/-- A kind of one character, that is one byte. -/
lemma spelling_kind {c : Char} {b : UInt8} (hc : String.utf8EncodeChar c = [b]) (hb : b < 128) {r : Rune} {d : UInt8}
    (hd : d ∈ spelling r) : decide (d = b) = decide (r = .char c) := by
  rw [decide_eq_decide]
  cases r with
  | char e =>
    rw [Rune.char.injEq, ← mem_utf8EncodeChar hc]
    constructor
    · exact fun heq => heq ▸ hd
    · intro hmem
      rw [spelling, (mem_utf8EncodeChar hc).1 hmem, hc] at hd
      exact List.mem_singleton.1 hd
  | stray e =>
    have hd' := List.mem_singleton.1 hd
    have hlarge : 128 ≤ d := by
      rw [hd']
      split
      · decide
      · rename_i he
        exact UInt8.not_lt.1 he
    exact ⟨fun heq => absurd (heq ▸ hlarge) (UInt8.not_le.2 hb), fun heq => by cases heq⟩

lemma carries_spelling : Carries runeKinds byteKinds spelling where
  ne_nil r := by
    cases r with
    | char c => exact String.utf8EncodeChar_ne_nil
    | stray b => exact List.cons_ne_nil _ _
  isReturn_eq _ _ hb := spelling_kind (by decide) (by decide) hb
  isFeed_eq _ _ hb := spelling_kind (by decide) (by decide) hb
  isBlank_eq r b hb := by
    have hspace := spelling_kind (c := ' ') (b := 32) (by decide) (by decide) hb
    have htab := spelling_kind (c := '\t') (b := 9) (by decide) (by decide) hb
    simp only [byteKinds, runeKinds, hspace, htab]
  single r hr := by
    simp only [runeKinds, decide_eq_true_eq] at hr
    rcases hr with rfl | rfl
    · exact ⟨13, by decide⟩
    · exact ⟨10, by decide⟩

lemma flatMap_spelling {rs : List Rune} (h : ∀ r ∈ rs, r ∈ runes s) : rs.flatMap spelling = rs.flatMap Rune.bytes := by
  induction rs with
  | nil => rfl
  | cons r rs ih =>
    rw [List.flatMap_cons, List.flatMap_cons, spelling_of_mem (h r List.mem_cons_self),
      ih fun q hq => h q (List.mem_cons_of_mem r hq)]

lemma readable_paste (h : Lined runeKinds.isFeed rls) (hrls : ∀ l ∈ rls, Readable l.chars) : Readable (paste rls) := by
  induction rls with
  | nil => exact readable_nil
  | cons l rls ih =>
    have hrest : Readable (paste rls) :=
      ih (h.sublist (List.sublist_cons_self l rls)) fun m hm => hrls m (List.mem_cons_of_mem l hm)
    have hl := hrls l List.mem_cons_self
    rw [paste_cons, Line.all, List.append_assoc]
    rcases (h.whole l List.mem_cons_self).feed with hnil | ⟨c, hc, hone⟩
    · cases rls with
      | nil => rwa [hnil, paste_nil, List.append_nil, List.append_nil]
      | cons m rls => exact absurd hnil ((List.pairwise_cons.1 h.ended).1 m List.mem_cons_self)
    · rw [hone, of_decide_eq_true hc, List.singleton_append]
      exact hl.append_single (b := 10) (by decide) hrest

lemma readable_rendered (s : Bytes) : Readable (paste (rendered runeKinds (runes s))) := by
  refine readable_paste (tidied_rendered runeKinds (runes s)).lined fun l hl => ?_
  obtain ⟨m, hm, rfl⟩ := mem_rendered hl
  have hline : m.all <:+: runes s := by
    have hin := line_within hm
    rwa [paste_cut] at hin
  have hchars : m.chars <:+: m.all := (List.prefix_append m.chars m.feed).isInfix
  exact (readable_runes s).of_within (((render_chars m).trans hchars).trans hline)

lemma trimSpace_append_feed {x : Bytes} (u : Bytes) (hx : x = [] ∨ x = [10]) : trimSpace (u ++ x) = trimSpace u := by
  rcases hx with rfl | rfl
  · rw [List.append_nil]
  · have hrunes := runes_append_single (c := '\n') (b := 10) (by decide) u []
    rw [trimSpace, hrunes, trimSpace, trimBy_append_right]
    intro r hr
    rw [runes, List.mem_singleton] at hr
    rw [hr]
    decide

/-- **What the agent computes** on bytes is the rendering of the runes. -/
theorem normalizeConsoleOutput_eq_tidy (s : Bytes) :
    normalizeConsoleOutput s = (tidy runeKinds (runes s)).flatMap Rune.bytes := by
  have hlines : (lines (foldCrLf s)).map shown = ((cut byteKinds.isFeed s).map (render byteKinds)).map Line.chars := by
    rw [lines_foldCrLf, List.map_map, List.map_map]
    exact List.map_congr_left fun l _ => shown_eq _
  have hmem : ∀ r ∈ paste (rendered runeKinds (runes s)), r ∈ runes s := fun r hr => mem_of_mem_rendered hr
  have hbytes : paste (rendered byteKinds s) = (paste (rendered runeKinds (runes s))).flatMap Rune.bytes := by
    have hspelled : (runes s).flatMap spelling = s := by rw [flatMap_spelling fun r hr => hr, flatMap_runes]
    rw [← flatMap_spelling hmem, ← paste_bind, ← carries_spelling.rendered, hspelled]
  obtain ⟨x, hx, hend⟩ := exists_paste_eq (tidied_rendered byteKinds s).lined
  calc normalizeConsoleOutput s = trimSpace (unlines ((rendered byteKinds s).map Line.chars)) := by
        rw [normalizeConsoleOutput, hlines, squeeze_chars]
        rfl
    _ = trimSpace (paste (rendered byteKinds s)) := by rw [hx, trimSpace_append_feed _ hend]
    _ = (tidy runeKinds (runes s)).flatMap Rune.bytes := by
        rw [hbytes, trimSpace, readable_rendered]
        rfl

end Tiai.Console
