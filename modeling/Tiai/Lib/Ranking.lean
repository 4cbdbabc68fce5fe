import Mathlib
import Tiai.Lib.Paging

/-!
# The first few of a ranking

Rows counted by their key, and the first of an order that may leave rows tied.

* `tally`, `mem_tally` — `GROUP BY` with its count;
* `countP_join` — the rows that join one row of the left;
* `Leads`, `leads_take` — what is kept of an answer ranks no lower than what is left.
-/

namespace Tiai.Lib

open Sql (Arranged)

variable {α κ : Type}

/-! ### Counted by key -/

section Tally

variable [DecidableEq κ] {key : α → κ} {rows : List α}

/-- `SELECT key, count(*) … GROUP BY key`. -/
def tally (key : α → κ) (rows : List α) : List (κ × ℕ) :=
  (rows.map key).dedup.map fun k => (k, rows.countP fun a => key a = k)

lemma map_fst_tally : (tally key rows).map Prod.fst = (rows.map key).dedup := by
  rw [tally, List.map_map]
  exact List.map_id _

lemma mem_tally {k : κ} {n : ℕ} : (k, n) ∈ tally key rows ↔ k ∈ rows.map key ∧ rows.countP (fun a => key a = k) = n := by
  simp only [tally, List.mem_map, List.mem_dedup, Prod.mk.injEq]
  constructor
  · rintro ⟨k', hk, rfl, rfl⟩
    exact ⟨hk, rfl⟩
  · rintro ⟨hk, rfl⟩
    exact ⟨k, hk, rfl, rfl⟩

/-- The rows of a join, for one row of the left. -/
lemma countP_join {β : Type} (on : α → β → Sql.Truth) (others : List β) (hkeys : (rows.map key).Nodup) {a : α}
    (ha : a ∈ rows) (p : β → Bool) : (Sql.join on others rows).countP (fun row => key row.1 = key a && p row.2) =
      others.countP fun b => on a b = some true && p b := by
  have hrow (a' : α) : ((Sql.select (on a') others).map fun b => (a', b)).countP
      (fun row => key row.1 = key a && p row.2) =
        if key a' = key a then others.countP fun b => on a' b = some true && p b else 0 := by
    rw [List.countP_map, Sql.select, List.countP_filter]
    split_ifs with hsame
    · exact List.countP_congr fun b _ => by simp [hsame, and_comm]
    · exact List.countP_eq_zero.2 fun b _ => by simp [hsame]
  induction rows with
  | nil => cases ha
  | cons a' rows ih =>
    rw [List.map_cons, List.nodup_cons] at hkeys
    unfold Sql.join at ih ⊢
    rw [List.flatMap_cons, List.countP_append, hrow]
    rcases List.mem_cons.1 ha with rfl | ha
    · rw [if_pos rfl, Nat.add_eq_left, List.countP_eq_zero]
      rintro ⟨c, b⟩ hc
      obtain ⟨a', ha', hmem⟩ := List.mem_flatMap.1 hc
      obtain ⟨b', -, hb⟩ := List.mem_map.1 hmem
      obtain ⟨rfl, rfl⟩ := Prod.mk.inj hb
      have hne : key a' ≠ key a := fun hsame => hkeys.1 (hsame ▸ List.mem_map_of_mem ha')
      simp [hne]
    · have hne : key a' ≠ key a := fun hsame => hkeys.1 (hsame ▸ List.mem_map_of_mem ha)
      rw [if_neg hne, Nat.zero_add]
      exact ih hkeys.2 ha

lemma nodup_tally : (tally key rows).Nodup := by
  refine List.Nodup.of_map Prod.fst ?_
  rw [map_fst_tally]
  exact List.nodup_dedup _

end Tally

/-! ### The first of an order -/

section Leads

variable {order : α → α → Ordering} {rows answer : List α}

/-- `kept` are rows, each once, and no row that is left should have come before one of them. -/
structure Leads (first : α → α → Prop) (rows kept : List α) : Prop where
  mem : ∀ a ∈ kept, a ∈ rows
  nodup : kept.Nodup
  lead : ∀ a ∈ kept, ∀ b ∈ rows, b ∉ kept → first a b

/-- An answer that is an image, row by row, is one of an answer. -/
lemma exists_of_perm_map {f : κ → α} {keys : List κ} (h : rows.Perm (keys.map f)) :
    ∃ keys' : List κ, keys'.Perm keys ∧ keys'.map f = rows := by
  induction rows generalizing keys with
  | nil =>
    obtain rfl := List.map_eq_nil_iff.1 (List.nil_perm.1 h)
    exact ⟨[], .refl _, rfl⟩
  | cons a rows ih =>
    obtain ⟨k, hk, rfl⟩ := List.mem_map.1 (h.mem_iff.1 List.mem_cons_self)
    obtain ⟨before, after, rfl⟩ := List.append_of_mem hk
    rw [List.map_append, List.map_cons] at h
    have hrest : rows.Perm ((before ++ after).map f) := by
      rw [List.map_append]
      exact (h.trans List.perm_middle).cons_inv
    obtain ⟨keys', hperm, hmap⟩ := ih hrest
    exact ⟨k :: keys', (hperm.cons k).trans List.perm_middle.symm, by rw [List.map_cons, hmap]⟩

/-- **A limit keeps the first of the order.** -/
theorem leads_take (h : Arranged order rows answer) (hrows : rows.Nodup) (n : ℕ) :
    Leads (fun a b => (order a b).isLE = true) rows (answer.take n) ∧ (answer.take n).length = min n rows.length := by
  have hsorted := h.sorted
  rw [← List.take_append_drop n answer, List.pairwise_append] at hsorted
  refine ⟨⟨fun a ha => h.perm.mem_iff.1 (List.mem_of_mem_take ha),
    (h.perm.nodup_iff.2 hrows).sublist (List.take_sublist _ _), fun a ha b hb hleft => ?_⟩, ?_⟩
  · have hsplit : b ∈ answer.take n ++ answer.drop n := by
      rw [List.take_append_drop]
      exact h.perm.mem_iff.2 hb
    exact hsorted.2.2 a ha b ((List.mem_append.1 hsplit).resolve_left hleft)
  · rw [List.length_take, h.perm.length_eq]

end Leads

end Tiai.Lib
