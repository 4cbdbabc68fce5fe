import Mathlib.Data.List.Nodup

/-!
# A table of rows with a primary key

Rows are told apart by a key, which a table holds at most once.

* `rowOf`, `putRow` — the row of a key, and its replacement;
* `mem_putRow`, `map_putRow` — what a replacement leaves;
* `rowOf_filter`, `filter_key` — the row of a key among those that are kept, and that there is no other.
-/

namespace Tiai.Lib

variable {ρ κ : Type} [DecidableEq κ] (key : ρ → κ)

/-- The row of a key. -/
def rowOf (rows : List ρ) (k : κ) : Option ρ := rows.find? fun r => key r = k

/-- The row of the same key becomes `r`. -/
def putRow (rows : List ρ) (r : ρ) : List ρ := rows.map fun x => if key x = key r then r else x

variable {key} {rows : List ρ} {r x : ρ} {k : κ}

lemma mem_of_rowOf (h : rowOf key rows k = some r) : r ∈ rows :=
  List.mem_of_find?_eq_some h

lemma key_of_rowOf (h : rowOf key rows k = some r) : key r = k := by
  have hkey := List.find?_some h
  exact of_decide_eq_true hkey

lemma rowOf_cons_of_eq (h : key r = k) : rowOf key (r :: rows) k = some r :=
  List.find?_cons_of_pos (decide_eq_true h)

lemma rowOf_cons_of_ne (h : key r ≠ k) : rowOf key (r :: rows) k = rowOf key rows k :=
  List.find?_cons_of_neg (by simpa using h)

lemma rowOf_eq_none_iff : rowOf key rows k = none ↔ k ∉ rows.map key := by
  rw [rowOf, List.find?_eq_none, List.mem_map]
  constructor
  · rintro h ⟨r, hr, hk⟩
    exact h r hr (decide_eq_true hk)
  · intro h r hr hk
    exact h ⟨r, hr, of_decide_eq_true hk⟩

omit [DecidableEq κ] in
lemma eq_of_key_eq (hkeys : (rows.map key).Nodup) (hr : r ∈ rows) (hx : x ∈ rows)
    (h : key r = key x) : r = x := List.inj_on_of_nodup_map hkeys hr hx h

lemma rowOf_eq_some_iff (hkeys : (rows.map key).Nodup) :
    rowOf key rows k = some r ↔ r ∈ rows ∧ key r = k := by
  constructor
  · intro h
    exact ⟨mem_of_rowOf h, key_of_rowOf h⟩
  · rintro ⟨hr, hk⟩
    cases hfound : rowOf key rows k with
    | none => exact absurd (hk ▸ List.mem_map_of_mem hr) (rowOf_eq_none_iff.1 hfound)
    | some x =>
      have hx := key_of_rowOf hfound
      rw [eq_of_key_eq hkeys (mem_of_rowOf hfound) hr (hx.trans hk.symm)]

/-- Among the rows that `p` keeps, the row of a key is the one there was, if `p` keeps it. -/
lemma rowOf_filter (hkeys : (rows.map key).Nodup) (p : ρ → Bool) (k : κ) :
    rowOf key (rows.filter p) k = (rowOf key rows k).filter p := by
  induction rows with
  | nil => rfl
  | cons x rows ih =>
    rw [List.map_cons, List.nodup_cons] at hkeys
    have hrest := ih hkeys.2
    by_cases hk : key x = k
    · have hnone : rowOf key rows k = none := rowOf_eq_none_iff.2 (hk ▸ hkeys.1)
      rw [rowOf_cons_of_eq hk]
      cases hp : p x with
      | true => rw [List.filter_cons_of_pos hp, rowOf_cons_of_eq hk, Option.filter_some_pos hp]
      | false =>
        rw [List.filter_cons_of_neg (by simp [hp]), hrest, hnone, Option.filter_some_neg (by simp [hp])]
        rfl
    · rw [rowOf_cons_of_ne hk, ← hrest]
      cases hp : p x with
      | true => rw [List.filter_cons_of_pos hp, rowOf_cons_of_ne hk]
      | false => rw [List.filter_cons_of_neg (by simp [hp])]

/-- A key has one row at most. -/
lemma filter_key (hkeys : (rows.map key).Nodup) (k : κ) :
    rows.filter (fun r => key r = k) = (rowOf key rows k).toList := by
  induction rows with
  | nil => rfl
  | cons x rows ih =>
    rw [List.map_cons, List.nodup_cons] at hkeys
    by_cases hk : key x = k
    · have hnone : rowOf key rows k = none := rowOf_eq_none_iff.2 (hk ▸ hkeys.1)
      rw [List.filter_cons_of_pos (by simpa using hk), ih hkeys.2, hnone, rowOf_cons_of_eq hk]
      rfl
    · rw [List.filter_cons_of_neg (by simpa using hk), ih hkeys.2, rowOf_cons_of_ne hk]

lemma mem_putRow (h : x ∈ putRow key rows r) : x = r ∨ x ∈ rows ∧ key x ≠ key r := by
  obtain ⟨y, hy, rfl⟩ := List.mem_map.1 h
  by_cases hk : key y = key r
  · exact Or.inl (if_pos hk)
  · rw [if_neg hk]
    exact Or.inr ⟨hy, hk⟩

lemma mem_putRow_self (h : key r ∈ rows.map key) : r ∈ putRow key rows r := by
  obtain ⟨y, hy, hk⟩ := List.mem_map.1 h
  exact List.mem_map.2 ⟨y, hy, if_pos hk⟩

lemma mem_putRow_of_ne (hx : x ∈ rows) (h : key x ≠ key r) : x ∈ putRow key rows r :=
  List.mem_map.2 ⟨x, hx, if_neg h⟩

/-- A column that the new row has from the old one stays as it was. -/
lemma map_putRow {β : Type} (f : ρ → β) (h : ∀ x ∈ rows, key x = key r → f r = f x) :
    (putRow key rows r).map f = rows.map f := by
  rw [putRow, List.map_map]
  refine List.map_congr_left fun x hx => ?_
  by_cases hk : key x = key r
  · rw [Function.comp_apply, if_pos hk, h x hx hk]
  · rw [Function.comp_apply, if_neg hk]

@[simp] lemma map_key_putRow : (putRow key rows r).map key = rows.map key :=
  map_putRow key fun _ _ h => h.symm

lemma putRow_of_mem (hkeys : (rows.map key).Nodup) (h : r ∈ rows) : putRow key rows r = rows := by
  have hmap : (putRow key rows r).map id = rows.map id :=
    map_putRow id fun x hx hk => eq_of_key_eq hkeys h hx hk.symm
  rwa [List.map_id, List.map_id] at hmap

end Tiai.Lib
