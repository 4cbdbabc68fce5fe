import Tiai.Lib.Rows

/-!
# Writing a row by its key

`upsert` replaces the row of a key, in its place, or adds one: a dictionary's assignment.  After a sequence of them,
the row of a key is the last one written with it (`rowOf_foldl_upsert`), and no key occurs twice.
-/

namespace Tiai.Lib

variable {ρ κ : Type} [DecidableEq κ] (key : ρ → κ)

/-- The row of its key becomes `r`, or `r` is added. -/
def upsert (rows : List ρ) (r : ρ) : List ρ :=
  if (rowOf key rows (key r)).isSome then putRow key rows r else rows ++ [r]

variable {key} {rows : List ρ} {r x : ρ} {k : κ}

lemma rowOf_append_singleton : rowOf key (rows ++ [r]) k = (rowOf key rows k).or (if key r = k then some r else none) := by
  unfold rowOf
  rw [List.find?_append, List.find?_singleton]
  simp only [decide_eq_true_eq]

/-- The row of a key, once another row has been written in the place of its own. -/
lemma rowOf_putRow : rowOf key (putRow key rows r) k =
    if key r = k then (rowOf key rows k).map fun _ => r else rowOf key rows k := by
  induction rows with
  | nil => simp [putRow, rowOf]
  | cons x rows ih =>
    have hcons : putRow key (x :: rows) r = (if key x = key r then r else x) :: putRow key rows r := rfl
    rw [hcons]
    by_cases hx : key x = key r
    · rw [if_pos hx]
      by_cases hk : key r = k
      · rw [rowOf_cons_of_eq hk, if_pos hk, rowOf_cons_of_eq (hx.trans hk)]
        rfl
      · rw [rowOf_cons_of_ne hk, ih, if_neg hk, if_neg hk, rowOf_cons_of_ne (hx ▸ hk)]
    · rw [if_neg hx]
      by_cases hxk : key x = k
      · have hk : key r ≠ k := fun hk => hx (hxk.trans hk.symm)
        rw [rowOf_cons_of_eq hxk, if_neg hk, rowOf_cons_of_eq hxk]
      · rw [rowOf_cons_of_ne hxk, ih, rowOf_cons_of_ne hxk]

lemma rowOf_upsert : rowOf key (upsert key rows r) k = if key r = k then some r else rowOf key rows k := by
  unfold upsert
  cases hfound : rowOf key rows (key r) with
  | none =>
    rw [if_neg (by simp), rowOf_append_singleton]
    by_cases hk : key r = k
    · rw [← hk, hfound, if_pos rfl]
      rfl
    · rw [if_neg hk, if_neg hk, Option.or_none]
  | some x =>
    rw [if_pos (by simp), rowOf_putRow]
    by_cases hk : key r = k
    · rw [if_pos hk, if_pos hk, ← hk, hfound]
      rfl
    · rw [if_neg hk, if_neg hk]

/-- A row is added under a new key. -/
lemma nodup_append_singleton (h : (rows.map key).Nodup) (hnew : rowOf key rows (key r) = none) :
    ((rows ++ [r]).map key).Nodup := by
  rw [List.map_append, List.map_singleton, List.nodup_append]
  refine ⟨h, List.nodup_singleton _, fun a ha b hb hab => ?_⟩
  rw [hab, List.mem_singleton.1 hb] at ha
  exact rowOf_eq_none_iff.1 hnew ha

lemma nodup_upsert (h : (rows.map key).Nodup) : ((upsert key rows r).map key).Nodup := by
  unfold upsert
  split
  · rw [map_key_putRow]
    exact h
  · rename_i hnone
    exact nodup_append_singleton h (by simpa using hnone)

lemma nodup_foldl_upsert (rs : List ρ) (h : (rows.map key).Nodup) : ((rs.foldl (upsert key) rows).map key).Nodup := by
  induction rs generalizing rows with
  | nil => exact h
  | cons r rs ih => exact ih (nodup_upsert h)

lemma mem_upsert : x ∈ upsert key rows r ↔ x = r ∨ x ∈ rows ∧ key x ≠ key r := by
  unfold upsert
  cases hfound : rowOf key rows (key r) with
  | none =>
    rw [if_neg (by simp), List.mem_append, List.mem_singleton, or_comm]
    refine or_congr_right (iff_self_and.2 fun hx hk => ?_)
    exact rowOf_eq_none_iff.1 hfound (hk ▸ List.mem_map_of_mem hx)
  | some y =>
    rw [if_pos (by simp)]
    refine ⟨mem_putRow, fun h => ?_⟩
    rcases h with rfl | ⟨hx, hk⟩
    · have hkey : key x ∈ rows.map key := by
        rw [← key_of_rowOf hfound]
        exact List.mem_map_of_mem (mem_of_rowOf hfound)
      exact mem_putRow_self hkey
    · exact mem_putRow_of_ne hx hk

/-- What is there after a sequence of writings was there or is written. -/
lemma mem_of_mem_foldl_upsert {rs : List ρ} (h : x ∈ rs.foldl (upsert key) rows) : x ∈ rs ∨ x ∈ rows := by
  induction rs generalizing rows with
  | nil => exact .inr h
  | cons r rs ih =>
    rcases ih h with h | h
    · exact .inl (List.mem_cons_of_mem r h)
    · rcases mem_upsert.1 h with rfl | ⟨h, -⟩
      · exact .inl List.mem_cons_self
      · exact .inr h

lemma length_upsert_of_mem (h : key r ∈ rows.map key) : (upsert key rows r).length = rows.length := by
  have hfound : (rowOf key rows (key r)).isSome = true := by
    rw [Option.isSome_iff_ne_none]
    exact fun hnone => rowOf_eq_none_iff.1 hnone h
  unfold upsert
  rw [if_pos hfound]
  exact List.length_map _

lemma length_upsert_of_not_mem (h : key r ∉ rows.map key) : (upsert key rows r).length = rows.length + 1 := by
  unfold upsert
  rw [rowOf_eq_none_iff.2 h, if_neg (by simp), List.length_append]
  rfl

lemma length_foldl_upsert_le (rs : List ρ) : (rs.foldl (upsert key) rows).length ≤ rows.length + rs.length := by
  induction rs generalizing rows with
  | nil => exact Nat.le_refl _
  | cons r rs ih =>
    have hone : (upsert key rows r).length ≤ rows.length + 1 := by
      by_cases h : key r ∈ rows.map key
      · rw [length_upsert_of_mem h]
        exact Nat.le_succ _
      · exact Nat.le_of_eq (length_upsert_of_not_mem h)
    have hrest : ((r :: rs).foldl (upsert key) rows).length ≤ (upsert key rows r).length + rs.length := ih
    rw [List.length_cons]
    omega

/-- **The last one wins.** -/
theorem rowOf_foldl_upsert (rs : List ρ) : rowOf key (rs.foldl (upsert key) rows) k =
    (rs.filter fun r => key r = k).getLast?.or (rowOf key rows k) := by
  induction rs generalizing rows with
  | nil => rfl
  | cons r rs ih =>
    rw [List.foldl_cons, ih, rowOf_upsert]
    by_cases hk : key r = k
    · rw [if_pos hk, List.filter_cons_of_pos (by simpa using hk), List.getLast?_cons]
      cases (rs.filter fun r => key r = k).getLast? with
      | none => rfl
      | some x => rfl
    · rw [if_neg hk, List.filter_cons_of_neg (by simpa using hk)]

end Tiai.Lib
