import Mathlib.Data.List.MinMax
import Mathlib.Data.List.Nodup

/-!
# Electing one of a list by a pairwise comparison

A loop keeps the best candidate so far and replaces it by each one that is better.  When *better* is to have the
lower key, the loop is `List.argmin`; when the candidates have distinct keys, the order in which they come does not
matter.

* `electBy` — the loop;
* `electBy_eq_argmin` — what it computes;
* `electBy_perm` — the order of the candidates does not matter;
* `electBy_map_perm_iff` — where keys repeat, when the order changes nothing that is shown of the elected.
-/

namespace Tiai.Lib

variable {α κ : Type} [LinearOrder κ]

/-- The candidate that replaced all the others. -/
def electBy (better : α → α → Bool) (candidates : List α) : Option α :=
  candidates.foldl (fun best a =>
    match best with
    | none => some a
    | some b => if better a b then some a else some b) none

variable {better : α → α → Bool} {key : α → κ} {l l' : List α}

lemma electBy_eq_argmin (hbetter : ∀ a b, better a b = true ↔ key a < key b) :
    electBy better l = l.argmin key := by
  rw [electBy, List.argmin]
  refine List.foldl_ext _ _ _ fun best a _ => ?_
  cases best with
  | none => rfl
  | some b => exact if_congr (hbetter a b) rfl rfl

lemma argmin_perm (hkeys : (l.map key).Nodup) (h : l.Perm l') : l.argmin key = l'.argmin key := by
  have hle : ∀ {l l' : List α} {m : α}, (l.map key).Nodup → l.Perm l' → m ∈ l.argmin key →
      m ∈ l'.argmin key := by
    intro l l' m hkeys h hm
    have hmem : m ∈ l' := h.mem_iff.1 (List.argmin_mem hm)
    cases hfound : l'.argmin key with
    | none => exact absurd (List.argmin_eq_none.1 hfound) (List.ne_nil_of_mem hmem)
    | some n =>
      have hn : n ∈ l := h.mem_iff.2 (List.argmin_mem hfound)
      have heq : key n = key m :=
        le_antisymm (List.le_of_mem_argmin hmem hfound) (List.le_of_mem_argmin hn hm)
      rw [List.inj_on_of_nodup_map hkeys hn (List.argmin_mem hm) heq]
      rfl
  refine Option.ext fun m => ⟨hle hkeys h, hle ?_ h.symm⟩
  exact (h.map key).nodup_iff.1 hkeys

/-- Candidates with distinct keys elect the same one in any order. -/
theorem electBy_perm (hbetter : ∀ a b, better a b = true ↔ key a < key b) (hkeys : (l.map key).Nodup)
    (h : l.Perm l') : electBy better l = electBy better l' := by
  rw [electBy_eq_argmin hbetter, electBy_eq_argmin hbetter, argmin_perm hkeys h]

/-! ### Keys that repeat -/

/-- A candidate that no other outranks. -/
def Leading (better : α → α → Bool) (l : List α) (a : α) : Prop := a ∈ l ∧ ∀ b ∈ l, better b a = false

lemma Leading.perm {a : α} (ha : Leading better l a) (h : l.Perm l') : Leading better l' a :=
  ⟨h.mem_iff.1 ha.1, fun b hb => ha.2 b (h.mem_iff.2 hb)⟩

lemma Leading.key_eq {a b : α} (hbetter : ∀ a b, better a b = true ↔ key a < key b) (ha : Leading better l a)
    (hb : Leading better l b) : key a = key b := by
  have hle : ∀ {a b}, Leading better l a → b ∈ l → key a ≤ key b := by
    intro a b ha hb
    refine le_of_not_gt fun hlt => ?_
    rw [← hbetter, ha.2 b hb] at hlt
    cases hlt
  exact le_antisymm (hle ha hb.1) (hle hb ha.1)

lemma electBy_leading {a : α} (hbetter : ∀ a b, better a b = true ↔ key a < key b) (h : electBy better l = some a) :
    Leading better l a := by
  rw [electBy_eq_argmin hbetter] at h
  refine ⟨List.argmin_mem h, fun b hb => Bool.eq_false_iff.2 fun hlt => ?_⟩
  exact List.not_lt_of_mem_argmin hb h ((hbetter b a).1 hlt)

/-- A leading candidate is elected where it comes first. -/
lemma electBy_cons_leading {a : α} (hbetter : ∀ a b, better a b = true ↔ key a < key b)
    (h : Leading better (a :: l) a) : electBy better (a :: l) = some a := by
  rw [electBy_eq_argmin hbetter, List.argmin_cons]
  cases hrest : l.argmin key with
  | none => rfl
  | some c =>
    have hc : better c a = false := h.2 c (List.mem_cons_of_mem a (List.argmin_mem hrest))
    have hlt : ¬ key c < key a := by
      rw [← hbetter, hc]
      exact Bool.false_ne_true
    exact if_neg hlt

/-- Every leading candidate is elected in some order. -/
lemma exists_perm_electBy {p : α → Bool} {a : α} (hbetter : ∀ a b, better a b = true ↔ key a < key b)
    (h : Leading better (l.filter p) a) : ∃ l' : List α, l'.Perm l ∧ electBy better (l'.filter p) = some a := by
  obtain ⟨hmem, hp⟩ := List.mem_filter.1 h.1
  obtain ⟨s, t, rfl⟩ := List.append_of_mem hmem
  have hperm : (a :: (s ++ t)).Perm (s ++ a :: t) := List.perm_middle.symm
  refine ⟨a :: (s ++ t), hperm, ?_⟩
  have hfirst := h.perm (hperm.symm.filter p)
  rw [List.filter_cons_of_pos hp] at hfirst ⊢
  exact electBy_cons_leading hbetter hfirst

/-- What is shown of the elected is the same in every order exactly when the leading candidates show the same. -/
theorem electBy_map_perm_iff {β : Type} (f : α → β) (p : α → Bool)
    (hbetter : ∀ a b, better a b = true ↔ key a < key b) :
    (∀ l' : List α, l'.Perm l → (electBy better (l'.filter p)).map f = (electBy better (l.filter p)).map f) ↔
      ∀ a b, Leading better (l.filter p) a → Leading better (l.filter p) b → f a = f b := by
  constructor
  · intro hstable a b ha hb
    obtain ⟨l₁, hl₁, helected₁⟩ := exists_perm_electBy hbetter ha
    obtain ⟨l₂, hl₂, helected₂⟩ := exists_perm_electBy hbetter hb
    have hsame := (hstable l₁ hl₁).trans (hstable l₂ hl₂).symm
    rw [helected₁, helected₂] at hsame
    exact Option.some.inj hsame
  · intro hsame l' hl'
    have hperm : (l'.filter p).Perm (l.filter p) := hl'.filter p
    cases helected' : electBy better (l'.filter p) with
    | none =>
      rw [electBy_eq_argmin hbetter, List.argmin_eq_none] at helected'
      rw [helected', List.nil_perm] at hperm
      rw [hperm]
      rfl
    | some a =>
      have ha := (electBy_leading hbetter helected').perm hperm
      cases helected : electBy better (l.filter p) with
      | none =>
        rw [electBy_eq_argmin hbetter, List.argmin_eq_none] at helected
        exact absurd ha.1 (by rw [helected]; exact List.not_mem_nil)
      | some b => exact congrArg some (hsame a b ha (electBy_leading hbetter helected))

end Tiai.Lib
