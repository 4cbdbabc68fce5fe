import Mathlib.Data.List.Basic

/-!
# Separators that an escape hides

A list is cut at its separators, but for those that follow an escape.  The pieces are joined again with separators.

* `scan` — where an element stands, when no separator has been met: after an escape or not;
* `cut`, `cut_append` — the cutting, which reads a piece as `scan` does;
* `cut_join`, `length_cut_join_eq_iff` — pieces are cut again as they were joined exactly when none but the last ends
  in an escape.
-/

namespace Tiai.Lib.Escaped

variable {α : Type} [DecidableEq α] (esc sep : α)

/-- Whether what follows is escaped; there is no answer when a separator is met that is not. -/
def scan : Bool → List α → Option Bool
  | escaped, [] => some escaped
  | true, _ :: s => scan false s
  | false, c :: s => if c = esc then scan true s else if c = sep then none else scan false s

/-- The pieces of a list; `current` is what has been read of the first. -/
def cut : Bool → List α → List α → List (List α)
  | _, current, [] => [current]
  | true, current, c :: s => cut false (current ++ [c]) s
  | false, current, c :: s =>
    if c = esc then cut true (current ++ [c]) s
    else if c = sep then current :: cut false [] s
    else cut false (current ++ [c]) s

def join (pieces : List (List α)) : List α := [sep].intercalate pieces

variable {esc sep} {escaped e : Bool} {current p s t : List α} {pieces : List (List α)}

lemma scan_append : scan esc sep escaped (s ++ t) = (scan esc sep escaped s).bind fun e => scan esc sep e t := by
  induction s generalizing escaped with
  | nil => cases escaped <;> rfl
  | cons c s ih =>
    cases escaped with
    | true => exact ih
    | false =>
      simp only [List.cons_append, scan]
      split
      · exact ih
      · split
        · rfl
        · exact ih

lemma cut_append (h : scan esc sep escaped p = some e) :
    cut esc sep escaped current (p ++ s) = cut esc sep e (current ++ p) s := by
  induction p generalizing escaped current with
  | nil =>
    cases escaped <;> cases h <;> rw [List.nil_append, List.append_nil]
  | cons c p ih =>
    have hread : ∀ {escaped}, scan esc sep escaped p = some e →
        cut esc sep escaped (current ++ [c]) (p ++ s) = cut esc sep e (current ++ c :: p) s := by
      intro escaped h
      rw [ih h, List.append_assoc, List.singleton_append]
    cases escaped with
    | true => exact hread h
    | false =>
      rw [scan] at h
      rw [List.cons_append, cut]
      split
      · rename_i hc
        rw [if_pos hc] at h
        exact hread h
      · rename_i hc
        rw [if_neg hc] at h
        split
        · rename_i hsep
          rw [if_pos hsep] at h
          cases h
        · rename_i hsep
          rw [if_neg hsep] at h
          exact hread h

/-- Where no separator is met, there is one piece. -/
lemma cut_eq_singleton (h : (scan esc sep false p).isSome) : cut esc sep false [] p = [p] := by
  obtain ⟨e, he⟩ := Option.isSome_iff_exists.1 h
  have hone : cut esc sep false [] (p ++ []) = cut esc sep e ([] ++ p) [] := cut_append he
  rw [List.append_nil] at hone
  rw [hone, List.nil_append]
  cases e <;> rfl

/-- What has been read of the first piece does not change how many there are. -/
lemma length_cut (current : List α) : (cut esc sep escaped current s).length = (cut esc sep escaped [] s).length := by
  induction s generalizing escaped current with
  | nil => cases escaped <;> rfl
  | cons c s ih =>
    cases escaped with
    | true =>
      rw [cut, cut, ih, ih ([] ++ [c])]
    | false =>
      rw [cut, cut]
      split
      · rw [ih, ih ([] ++ [c])]
      · split
        · rfl
        · rw [ih, ih ([] ++ [c])]

omit [DecidableEq α] in
lemma join_cons_cons (p q : List α) (pieces : List (List α)) :
    join sep (p :: q :: pieces) = p ++ sep :: join sep (q :: pieces) := by
  rw [join, List.intercalate_cons_cons, List.append_assoc, List.singleton_append, ← join]

/-- A piece that ends where nothing is escaped is cut off. -/
lemma cut_cons (hne : esc ≠ sep) (h : scan esc sep false p = some false) :
    cut esc sep false [] (p ++ sep :: s) = p :: cut esc sep false [] s := by
  rw [cut_append h, List.nil_append, cut, if_neg hne.symm, if_pos rfl]

/-- A piece that ends in an escape takes the separator, and what follows with it. -/
lemma cut_cons_escaped (h : scan esc sep false p = some true) :
    cut esc sep false [] (p ++ sep :: s) = cut esc sep false (p ++ [sep]) s := by
  rw [cut_append h, List.nil_append, cut]

lemma length_cut_join_le (hne : esc ≠ sep) (hpieces : pieces ≠ [])
    (h : ∀ p ∈ pieces, (scan esc sep false p).isSome) :
    (cut esc sep false [] (join sep pieces)).length ≤ pieces.length := by
  induction pieces with
  | nil => exact absurd rfl hpieces
  | cons p pieces ih =>
    cases pieces with
    | nil =>
      have hone : cut esc sep false [] (join sep [p]) = [p] := by
        rw [join, List.intercalate_singleton, cut_eq_singleton (h p List.mem_cons_self)]
      exact Nat.le_of_eq (congrArg List.length hone)
    | cons q pieces =>
      obtain ⟨e, he⟩ := Option.isSome_iff_exists.1 (h p List.mem_cons_self)
      have hrest := ih (List.cons_ne_nil q pieces) fun r hr => h r (List.mem_cons_of_mem p hr)
      rw [join_cons_cons]
      cases e with
      | false =>
        rw [cut_cons hne he]
        exact Nat.succ_le_succ hrest
      | true =>
        rw [cut_cons_escaped he, length_cut]
        exact Nat.le_succ_of_le hrest

/-- Pieces are cut as they were joined, when none but the last ends in an escape. -/
lemma cut_join (hne : esc ≠ sep) (hpieces : pieces ≠ []) (h : ∀ p ∈ pieces, (scan esc sep false p).isSome)
    (hends : ∀ p ∈ pieces.dropLast, scan esc sep false p = some false) :
    cut esc sep false [] (join sep pieces) = pieces := by
  induction pieces with
  | nil => exact absurd rfl hpieces
  | cons p pieces ih =>
    cases pieces with
    | nil => rw [join, List.intercalate_singleton, cut_eq_singleton (h p List.mem_cons_self)]
    | cons q pieces =>
      rw [List.dropLast_cons_of_ne_nil (List.cons_ne_nil q pieces)] at hends
      have hrest := ih (List.cons_ne_nil q pieces) (fun r hr => h r (List.mem_cons_of_mem p hr))
        fun r hr => hends r (List.mem_cons_of_mem p hr)
      rw [join_cons_cons, cut_cons hne (hends p List.mem_cons_self), hrest]

/-- Where another piece ends in an escape, there are fewer pieces than were joined. -/
theorem length_cut_join_eq_iff (hne : esc ≠ sep) (hpieces : pieces ≠ [])
    (h : ∀ p ∈ pieces, (scan esc sep false p).isSome) :
    (cut esc sep false [] (join sep pieces)).length = pieces.length ↔
      ∀ p ∈ pieces.dropLast, scan esc sep false p = some false := by
  refine ⟨fun hlength => ?_, fun hends => by rw [cut_join hne hpieces h hends]⟩
  induction pieces with
  | nil => exact fun p hp => absurd hp List.not_mem_nil
  | cons p pieces ih =>
    cases pieces with
    | nil => exact fun p hp => absurd hp List.not_mem_nil
    | cons q pieces =>
      have hrest : ∀ r ∈ q :: pieces, (scan esc sep false r).isSome := fun r hr => h r (List.mem_cons_of_mem p hr)
      rw [join_cons_cons] at hlength
      obtain ⟨e, he⟩ := Option.isSome_iff_exists.1 (h p List.mem_cons_self)
      cases e with
      | false =>
        rw [cut_cons hne he] at hlength
        rw [List.dropLast_cons_of_ne_nil (List.cons_ne_nil q pieces)]
        exact List.forall_mem_cons.2 ⟨he, ih (List.cons_ne_nil q pieces) hrest (Nat.succ.inj hlength)⟩
      | true =>
        rw [cut_cons_escaped he, length_cut] at hlength
        have hle := length_cut_join_le hne (List.cons_ne_nil q pieces) hrest
        rw [hlength] at hle
        exact absurd hle (Nat.not_succ_le_self _)

end Tiai.Lib.Escaped
