import Mathlib.Data.List.Infix

/-!
# Absolute paths, and names joined to them

A path is its volume and the components under it.  A name is split at either separator, and resolved
component by component: an empty one or `.` is skipped, `..` goes up — not above the volume — and any
other goes down.

* `resolve`, `join` — resolution;
* `Below d p` — `p` is strictly under the folder `d`;
* `join_plain` — a name without separators, other than the dots, goes down by one.
-/

namespace Tiai.Lib

/-- The volume, and the components under it. -/
abbrev Path := List String

def isSeparator (c : Char) : Bool := c = '/' || c = '\\'

/-- The components of a name. -/
def components (name : String) : List String :=
  (name.toList.splitOnP isSeparator).map String.ofList

/-- The folder a path is in; the volume's root is in itself. -/
def Path.up (p : Path) : Path := if p.length ≤ 1 then p else p.dropLast

/-- One component. -/
def Path.walk (p : Path) (c : String) : Path :=
  if c = "" ∨ c = "." then p else if c = ".." then p.up else p ++ [c]

/-- The components, from left to right. -/
def resolve (p : Path) (cs : List String) : Path := cs.foldl Path.walk p

/-- A name, joined to a folder and cleaned. -/
def join (folder : Path) (name : String) : Path := resolve folder (components name)

/-- Strictly under a folder. -/
def Below (folder p : Path) : Prop := ∃ c rest, p = folder ++ c :: rest

section Resolution

variable {folder p : Path} {c : String} {cs : List String}

/-- A component that goes down. -/
def Plain (c : String) : Prop := c ≠ "" ∧ c ≠ "." ∧ c ≠ ".."

lemma walk_plain (h : Plain c) : p.walk c = p ++ [c] := by
  unfold Path.walk
  rw [if_neg (by simp [h.1, h.2.1]), if_neg h.2.2]

lemma resolve_append (p : Path) (cs ds : List String) :
    resolve p (cs ++ ds) = resolve (resolve p cs) ds := List.foldl_append ..

lemma components_plain {name : String} (h : ∀ x ∈ name.toList, isSeparator x = false) :
    components name = [name] := by
  have hsplit : name.toList.splitOnP isSeparator = [name.toList] := by
    rw [List.splitOnP_eq_singleton]
    exact fun x hx => by simp [h x hx]
  rw [components, hsplit]
  simp

/-- **A plain name** goes down by one. -/
theorem join_plain {name : String} (hsep : ∀ x ∈ name.toList, isSeparator x = false)
    (h : Plain name) : join folder name = folder ++ [name] := by
  rw [join, components_plain hsep]
  exact walk_plain h

lemma below_append (c : String) : Below folder (p ++ [c]) ↔ folder <+: p := by
  constructor
  · rintro ⟨d, rest, h⟩
    rcases List.eq_nil_or_concat rest with rfl | ⟨rest', e, rfl⟩
    · rw [← List.append_inj_left' h rfl]
    · refine ⟨d :: rest', ?_⟩
      have h' : p ++ [c] = (folder ++ d :: rest') ++ [e] := by simpa using h
      exact (List.append_inj_left' h' rfl).symm
  · rintro ⟨rest, rfl⟩
    cases rest with
    | nil => exact ⟨c, [], by simp⟩
    | cons d rest => exact ⟨d, rest ++ [c], by simp⟩

lemma below_of_prefix {q : Path} (h : folder <+: p) (hq : Below p q) : Below folder q := by
  obtain ⟨t, rfl⟩ := h
  obtain ⟨c, rest, rfl⟩ := hq
  cases t with
  | nil => exact ⟨c, rest, by simp⟩
  | cons d t => exact ⟨d, t ++ c :: rest, by simp⟩

end Resolution

/-! ### A name inside another -/

section Around

variable {d : Path}

lemma up_append {p : Path} (h : p ≠ []) (c : String) : Path.up (p ++ [c]) = p := by
  unfold Path.up
  have hpos := List.length_pos_iff.2 h
  rw [if_neg (by rw [List.length_append, List.length_singleton]; omega), List.dropLast_concat]

/-- Two resolutions that differ by one component under `d` meet, or both stay under `d`. -/
lemma resolve_sibling (c c' : String) (cs : List String) :
    resolve (d ++ [c]) cs = resolve (d ++ [c']) cs ∨
      d <+: resolve (d ++ [c]) cs ∧ d <+: resolve (d ++ [c']) cs := by
  have hrun : ∀ cs p p', p = p' ∨ (∃ t, p = d ++ c :: t ∧ p' = d ++ c' :: t) →
      resolve p cs = resolve p' cs ∨
        ∃ t, resolve p cs = d ++ c :: t ∧ resolve p' cs = d ++ c' :: t := by
    intro cs
    induction cs with
    | nil => exact fun p p' h => h
    | cons x cs ih =>
      rintro p p' (rfl | ⟨t, rfl, rfl⟩)
      · exact .inl rfl
      refine ih _ _ ?_
      unfold Path.walk
      split
      · exact .inr ⟨t, rfl, rfl⟩
      split
      · rcases List.eq_nil_or_concat t with rfl | ⟨t, e, rfl⟩
        · by_cases hd : d = []
          · subst hd
            exact .inr ⟨[], rfl, rfl⟩
          · exact .inl ((up_append hd c).trans (up_append hd c').symm)
        · refine .inr ⟨t, ?_, ?_⟩
          · rw [← up_append (by simp : d ++ c :: t ≠ []) e]
            simp
          · rw [← up_append (by simp : d ++ c' :: t ≠ []) e]
            simp
      · exact .inr ⟨t ++ [x], by simp, by simp⟩
  rcases hrun cs _ _ (.inr ⟨[], rfl, rfl⟩) with h | ⟨t, h, h'⟩
  · exact .inl h
  · exact .inr ⟨⟨_, h.symm⟩, ⟨_, h'.symm⟩⟩

/-- No separator. -/
def Bare (s : String) : Prop := ∀ x ∈ s.toList, isSeparator x = false

instance : DecidablePred Bare := fun s =>
  inferInstanceAs (Decidable (∀ x ∈ s.toList, isSeparator x = false))

/-- What is added at the end of a text ends its last component. -/
lemma splitOnP_append (r : List Char) : ∃ mid last, ∀ post : List Char,
    (∀ x ∈ post, isSeparator x = false) →
      (r ++ post).splitOnP isSeparator = mid ++ [last ++ post] := by
  induction r with
  | nil => exact ⟨[], [], fun post h => by simpa using List.splitOnP_eq_singleton h⟩
  | cons x r ih =>
    obtain ⟨mid, last, h⟩ := ih
    by_cases hx : isSeparator x = true
    · refine ⟨[] :: mid, last, fun post hpost => ?_⟩
      rw [List.cons_append, List.splitOnP_cons_eq_if_modifyHead, if_pos hx, h post hpost]
      rfl
    · cases mid with
      | nil =>
        refine ⟨[], x :: last, fun post hpost => ?_⟩
        rw [List.cons_append, List.splitOnP_cons_eq_if_modifyHead, if_neg hx, h post hpost]
        rfl
      | cons m mid =>
        refine ⟨(x :: m) :: mid, last, fun post hpost => ?_⟩
        rw [List.cons_append, List.splitOnP_cons_eq_if_modifyHead, if_neg hx, h post hpost]
        rfl

/-- The components of a name with something before it and something after. -/
lemma components_around (s : String) :
    (∀ pre post, Bare pre → Bare post → components (pre ++ s ++ post) = [pre ++ s ++ post]) ∨
      ∃ first mid last, ∀ pre post, Bare pre → Bare post →
        components (pre ++ s ++ post) = (pre ++ first) :: (mid ++ [last ++ post]) := by
  by_cases hs : Bare s
  · refine .inl fun pre post hpre hpost => components_plain fun x hx => ?_
    simp only [String.toList_append, List.mem_append] at hx
    rcases hx with (hx | hx) | hx
    · exact hpre x hx
    · exact hs x hx
    · exact hpost x hx
  · right
    obtain ⟨x, hx, hsep⟩ : ∃ x ∈ s.toList, isSeparator x = true := by simpa [Bare] using hs
    obtain ⟨sep, hfind⟩ := Option.isSome_iff_exists.1 (List.find?_isSome.2 ⟨x, hx, hsep⟩)
    obtain ⟨hhead, before, r, hr, hbefore⟩ := List.find?_eq_some_iff_append.1 hfind
    obtain ⟨mid, last, h⟩ := splitOnP_append r
    refine ⟨String.ofList before, mid.map String.ofList, String.ofList last,
      fun pre post hpre hpost => ?_⟩
    have hlist : (pre ++ s ++ post).toList =
        (pre.toList ++ before) ++ sep :: (r ++ post.toList) := by
      simp [String.toList_append, hr]
    have hfirst : ∀ x ∈ pre.toList ++ before, isSeparator x = false := by
      intro x hx
      rcases List.mem_append.1 hx with hx | hx
      · exact hpre x hx
      · simpa using hbefore x hx
    unfold components
    rw [hlist, List.splitOnP_append_cons_of_forall_mem hfirst sep hhead, h _ hpost]
    simp [String.ofList_append]

/-- **Where a name leads does not depend on what is around it**: the folder is the same, or is under
`d` both times. -/
theorem join_around (s : String) : ∃ parent : String → Path,
    (∀ pre pre', parent pre = parent pre' ∨ d <+: parent pre ∧ d <+: parent pre') ∧
      ∀ pre post, Bare pre → Bare post → (∀ c, Plain (pre ++ c)) → (∀ c, Plain (c ++ post)) →
        ∃ c, join d (pre ++ s ++ post) = parent pre ++ [c] := by
  rcases components_around s with h | ⟨first, mid, last, h⟩
  · refine ⟨fun _ => d, fun _ _ => .inl rfl, fun pre post hpre hpost _ hplain =>
      ⟨pre ++ s ++ post, ?_⟩⟩
    rw [join, h pre post hpre hpost]
    exact walk_plain (hplain _)
  · refine ⟨fun pre => resolve (d ++ [pre ++ first]) mid, fun pre pre' => resolve_sibling _ _ _,
      fun pre post hpre hpost hplain hplain' => ⟨last ++ post, ?_⟩⟩
    rw [join, h pre post hpre hpost]
    show resolve (Path.walk d (pre ++ first)) (mid ++ [last ++ post]) = _
    rw [walk_plain (hplain first), resolve_append]
    exact walk_plain (hplain' last)

end Around

end Tiai.Lib
