import Tiai.Base
import Tiai.Lib.Upsert

/-!
# One set of components per machine

A child table of the inventory holds, for each machine, rows told apart by a key, with the dates they were first and
last seen.  `_replace_set` makes the rows of one machine what it reported: it writes the reported rows over those of
the same key and deletes the others.

* `Table` — such a table, with its unique constraint;
* `replaceSet` — `_replace_set`;
* `lastReported` — of a report, the row of a key: the last one, if the key is not empty;
* `get_replaceSet` — what each machine and key have afterwards;
* `length_rowsOf_replaceSet` — how many rows the machine has.
-/

namespace Tiai.Inventory

open Lib

/-- A row of a child table. -/
structure Child (δ : Type) where
  machineId : Uuid
  data : δ
  firstSeen : Time
  lastSeen : Time
  deriving DecidableEq

section

variable {δ κ : Type} [DecidableEq κ]

/-- The columns of the unique constraint. -/
def Child.identity (key : δ → κ) (r : Child δ) : Uuid × κ := (r.machineId, key r.data)

/-- The row, first seen at `t`. -/
def Child.since (r : Child δ) (t : Time) : Child δ := { r with firstSeen := t }

omit [DecidableEq κ] in
@[simp] lemma identity_since (key : δ → κ) (r : Child δ) (t : Time) :
    (r.since t).identity key = r.identity key := rfl

/-- A table in which a machine has one row of a key at most. -/
structure Table (key : δ → κ) where
  rows : List (Child δ)
  unique : (rows.map (Child.identity key)).Nodup

/-- The row of a machine under a key. -/
def Table.get {key : δ → κ} (t : Table key) (machineId : Uuid) (k : κ) : Option (Child δ) :=
  rowOf (Child.identity key) t.rows (machineId, k)

omit [DecidableEq κ] in
lemma identity_eq_iff {key : δ → κ} {r : Child δ} {m : Uuid} {k : κ} :
    r.identity key = (m, k) ↔ r.machineId = m ∧ key r.data = k := Prod.mk.injEq .. ▸ Iff.rfl

/-- `INSERT … ON CONFLICT DO UPDATE`, of one row: all but `first_seen` is overwritten. -/
def onConflictDoUpdate (key : δ → κ) (rows : List (Child δ)) (r : Child δ) : List (Child δ) :=
  let stored := rowOf (Child.identity key) rows (r.identity key)
  upsert (Child.identity key) rows (r.since ((stored.map Child.firstSeen).getD r.firstSeen))

/-- The reported rows with a key that is not empty, the last of each key. -/
def deduped (key : δ → κ) (present : κ → Bool) (rows : List (Child δ)) : List (Child δ) :=
  (rows.filter fun r => present (key r.data)).foldl (upsert (Child.identity key)) []

lemma nodup_onConflictDoUpdate {key : δ → κ} {rows : List (Child δ)} (h : (rows.map (Child.identity key)).Nodup)
    (rs : List (Child δ)) : ((rs.foldl (onConflictDoUpdate key) rows).map (Child.identity key)).Nodup := by
  induction rs generalizing rows with
  | nil => exact h
  | cons r rs ih => exact ih (nodup_upsert h)

/-- `_stamped`. -/
def stamped (machineId : Uuid) (now : Time) (data : δ) : Child δ := ⟨machineId, data, now, now⟩

/-- `_replace_set`. -/
def replaceSet {key : δ → κ} (present : κ → Bool) (machineId : Uuid) (reported : List (Child δ)) (t : Table key) :
    Table key where
  rows :=
    let unique := deduped key present reported
    (unique.foldl (onConflictDoUpdate key) t.rows).filter fun r =>
      r.machineId ≠ machineId || key r.data ∈ unique.map fun u => key u.data
  unique := (nodup_onConflictDoUpdate t.unique _).sublist (List.filter_sublist.map _)

/-- What is kept is reported. -/
lemma mem_of_mem_deduped {key : δ → κ} {present : κ → Bool} {rows : List (Child δ)} {r : Child δ}
    (h : r ∈ deduped key present rows) : r ∈ rows := by
  rcases mem_of_mem_foldl_upsert h with h | h
  · exact (List.mem_filter.1 h).1
  · cases h

/-- What a replaced set holds is what it held or what is reported. -/
lemma data_of_mem_replaceSet {key : δ → κ} {present : κ → Bool} {machineId : Uuid} {reported : List (Child δ)}
    {t : Table key} {r : Child δ} (h : r ∈ (replaceSet present machineId reported t).rows) :
    r.data ∈ t.rows.map Child.data ∨ r.data ∈ reported.map Child.data := by
  have hwritten : ∀ (us rows : List (Child δ)), ∀ y ∈ us.foldl (onConflictDoUpdate key) rows,
      y.data ∈ us.map Child.data ∨ y ∈ rows := by
    intro us
    induction us with
    | nil => exact fun rows y hy => Or.inr hy
    | cons u us ih =>
      intro rows y hy
      rcases ih _ y hy with hy | hy
      · exact Or.inl (List.mem_cons_of_mem _ hy)
      · rcases mem_upsert.1 hy with rfl | ⟨hy, -⟩
        · exact Or.inl List.mem_cons_self
        · exact Or.inr hy
  rcases hwritten _ _ r (List.mem_filter.1 h).1 with hr | hr
  · obtain ⟨u, hu, hdata⟩ := List.mem_map.1 hr
    rw [← hdata]
    exact Or.inr (List.mem_map_of_mem (mem_of_mem_deduped hu))
  · exact Or.inl (List.mem_map_of_mem hr)

/-- The row a report gives a key: the last one, if the key is not empty. -/
def lastReported (key : δ → κ) (present : κ → Bool) (reported : List δ) (k : κ) : Option δ :=
  if present k then (reported.filter fun d => key d = k).getLast? else none

variable {key : δ → κ} {present : κ → Bool} {machineId m : Uuid} {k : κ} {now : Time} {reported : List δ}
  {rows us : List (Child δ)} {r : Child δ} {t : Table key}

lemma mem_of_lastReported {d : δ} (h : lastReported key present reported k = some d) : d ∈ reported ∧ key d = k := by
  unfold lastReported at h
  split at h
  · obtain ⟨hd, hk⟩ := List.mem_filter.1 (List.mem_of_getLast? h)
    exact ⟨hd, of_decide_eq_true hk⟩
  · cases h

/-- A row that is written keeps the date its key was first seen, and leaves the others alone. -/
lemma rowOf_onConflictDoUpdate {i : Uuid × κ} : rowOf (Child.identity key) (onConflictDoUpdate key rows r) i =
    if r.identity key = i then
      some (r.since (((rowOf (Child.identity key) rows i).map Child.firstSeen).getD r.firstSeen))
    else rowOf (Child.identity key) rows i := by
  unfold onConflictDoUpdate
  rw [rowOf_upsert, identity_since]
  by_cases hi : r.identity key = i
  · rw [if_pos hi, if_pos hi, hi]
  · rw [if_neg hi, if_neg hi]

/-- Rows of distinct keys, written one after the other. -/
lemma rowOf_foldl_onConflictDoUpdate (hus : (us.map (Child.identity key)).Nodup) (i : Uuid × κ) :
    rowOf (Child.identity key) (us.foldl (onConflictDoUpdate key) rows) i =
      match rowOf (Child.identity key) us i with
      | some r => some (r.since (((rowOf (Child.identity key) rows i).map Child.firstSeen).getD r.firstSeen))
      | none => rowOf (Child.identity key) rows i := by
  induction us generalizing rows with
  | nil => rfl
  | cons r us ih =>
    rw [List.map_cons, List.nodup_cons] at hus
    rw [List.foldl_cons, ih hus.2, rowOf_onConflictDoUpdate]
    by_cases hi : r.identity key = i
    · have hnone : rowOf (Child.identity key) us i = none := rowOf_eq_none_iff.2 (hi ▸ hus.1)
      rw [hnone, rowOf_cons_of_eq hi, if_pos hi]
    · rw [rowOf_cons_of_ne hi, if_neg hi]

lemma nodup_deduped : ((deduped key present rows).map (Child.identity key)).Nodup :=
  nodup_foldl_upsert _ List.nodup_nil

/-- Of the rows of one machine, the last of each key that is not empty. -/
lemma rowOf_deduped (m : Uuid) (k : κ) :
    rowOf (Child.identity key) (deduped key present (reported.map (stamped machineId now))) (m, k) =
      if m = machineId then (lastReported key present reported k).map (stamped machineId now) else none := by
  unfold deduped lastReported
  rw [rowOf_foldl_upsert, List.filter_filter, List.filter_map]
  have hnil : rowOf (Child.identity key) ([] : List (Child δ)) (m, k) = none := rfl
  rw [hnil, Option.or_none]
  by_cases hm : m = machineId
  · subst hm
    rw [if_pos rfl, List.getLast?_map]
    by_cases hk : present k = true
    · rw [if_pos hk]
      congr 2
      refine List.filter_congr fun d _ => ?_
      by_cases hd : key d = k
      · simp [Child.identity, stamped, hd, hk]
      · simp [Child.identity, stamped, hd]
    · have hnone : reported.filter ((fun r => decide (Child.identity key r = (m, k)) && present (key r.data)) ∘
          stamped m now) = [] := by
        refine List.filter_eq_nil_iff.2 fun d _ hd => hk ?_
        simp only [Function.comp_apply, Bool.and_eq_true, decide_eq_true_eq] at hd
        exact (Prod.mk.inj hd.1).2 ▸ hd.2
      rw [hnone, if_neg hk]
      rfl
  · have hnone : reported.filter ((fun r => decide (Child.identity key r = (m, k)) && present (key r.data)) ∘
        stamped machineId now) = [] := by
      refine List.filter_eq_nil_iff.2 fun d _ hd => hm ?_
      simp only [Function.comp_apply, Bool.and_eq_true, decide_eq_true_eq] at hd
      exact (Prod.mk.inj hd.1).1.symm
    rw [hnone, if_neg hm]
    rfl

/-- What is kept of a report is the last of each key. -/
lemma forall_mem_deduped_iff {P : δ → Prop} :
    (∀ r ∈ deduped key present (reported.map (stamped machineId now)), P r.data) ↔
      ∀ d, lastReported key present reported (key d) = some d → P d := by
  constructor
  · intro h d hd
    have hrow : rowOf (Child.identity key) (deduped key present (reported.map (stamped machineId now)))
        (machineId, key d) = some (stamped machineId now d) := by
      rw [rowOf_deduped, if_pos rfl, hd]
      rfl
    exact h _ (mem_of_rowOf hrow)
  · intro h r hr
    obtain ⟨d, -, rfl⟩ := List.mem_map.1 (mem_of_mem_deduped hr)
    have hrow : rowOf (Child.identity key) (deduped key present (reported.map (stamped machineId now)))
        (machineId, key d) = some (stamped machineId now d) := (rowOf_eq_some_iff nodup_deduped).2 ⟨hr, rfl⟩
    rw [rowOf_deduped, if_pos rfl] at hrow
    obtain ⟨d', hd', heq⟩ := Option.map_eq_some_iff.1 hrow
    rw [show d' = d from congrArg Child.data heq] at hd'
    exact h d hd'

/-- The row of a machine and a key after a report of that machine's: the one reported, first seen when it was before. -/
def replacedBy (key : δ → κ) (present : κ → Bool) (machineId : Uuid) (now : Time) (reported : List δ)
    (old : Option (Child δ)) (m : Uuid) (k : κ) : Option (Child δ) :=
  if m = machineId then
    (lastReported key present reported k).map fun d => ⟨machineId, d, (old.map Child.firstSeen).getD now, now⟩
  else old

/-- **A set is replaced.**  The machine has exactly the reported rows with a key, the last of each, first seen when
they were before; the other machines keep theirs. -/
theorem get_replaceSet (m : Uuid) (k : κ) :
    (replaceSet present machineId (reported.map (stamped machineId now)) t).get m k =
      replacedBy key present machineId now reported (t.get m k) m k := by
  let us := deduped key present (reported.map (stamped machineId now))
  have hus : (us.map (Child.identity key)).Nodup := nodup_deduped
  have hrow := @rowOf_foldl_onConflictDoUpdate _ _ _ key t.rows us hus (m, k)
  have hwritten : rowOf (Child.identity key) us (m, k) =
      if m = machineId then (lastReported key present reported k).map (stamped machineId now) else none :=
    rowOf_deduped m k
  change rowOf (Child.identity key) ((us.foldl (onConflictDoUpdate key) t.rows).filter fun r =>
    r.machineId ≠ machineId || key r.data ∈ us.map fun u => key u.data) (m, k) = _
  rw [rowOf_filter (nodup_onConflictDoUpdate t.unique us), hrow, hwritten]
  unfold replacedBy
  by_cases hm : m = machineId
  · subst hm
    rw [if_pos rfl, if_pos rfl]
    cases hlast : lastReported key present reported k with
    | some d =>
      rw [hlast, if_pos rfl] at hwritten
      have hkey : key d = k := (identity_eq_iff.1 (key_of_rowOf hwritten)).2
      have hmem : key d ∈ us.map fun u => key u.data := List.mem_map_of_mem (mem_of_rowOf hwritten)
      exact Option.filter_some_pos (by simpa [Child.since, stamped] using hmem)
    | none =>
      rw [hlast, if_pos rfl] at hwritten
      cases hold : rowOf (Child.identity key) t.rows (m, k) with
      | none => rfl
      | some old =>
        obtain ⟨hmachine, hkey⟩ := identity_eq_iff.1 (key_of_rowOf hold)
        refine Option.filter_some_neg ?_
        rw [Bool.or_eq_false_iff]
        refine ⟨by simpa using hmachine, decide_eq_false fun hmem => ?_⟩
        -- a row that was written under this key would be one of this machine
        obtain ⟨u, hu, hku⟩ := List.mem_map.1 hmem
        have hfound : rowOf (Child.identity key) us (u.machineId, k) = some u :=
          (rowOf_eq_some_iff hus).2 ⟨hu, Prod.ext rfl (hku.trans hkey)⟩
        by_cases hum : u.machineId = m
        · rw [hum, hwritten] at hfound
          cases hfound
        · have hnone : rowOf (Child.identity key) us (u.machineId, k) = none := by
            rw [rowOf_deduped, if_neg hum]
          rw [hnone] at hfound
          cases hfound
  · rw [if_neg hm, if_neg hm]
    change Option.filter _ (rowOf (Child.identity key) t.rows (m, k)) = rowOf (Child.identity key) t.rows (m, k)
    cases hold : rowOf (Child.identity key) t.rows (m, k) with
    | none => rfl
    | some old =>
      have hmachine : old.machineId = m := (identity_eq_iff.1 (key_of_rowOf hold)).1
      exact Option.filter_some_pos (by simp [hmachine, hm])

/-- The rows of a machine. -/
def Table.rowsOf {key : δ → κ} (t : Table key) (m : Uuid) : List (Child δ) := t.rows.filter fun r => r.machineId = m

lemma isSome_rowOf_rowsOf (m m' : Uuid) (k : κ) :
    (rowOf (Child.identity key) (t.rowsOf m) (m', k)).isSome ↔ m' = m ∧ (t.get m k).isSome := by
  rw [Table.rowsOf, rowOf_filter t.unique]
  constructor
  · intro hsome
    obtain ⟨r, hr⟩ := Option.isSome_iff_exists.1 hsome
    obtain ⟨hr, hmachine⟩ := Option.filter_eq_some_iff.1 hr
    have hm : m' = m := (identity_eq_iff.1 (key_of_rowOf hr)).1.symm.trans (of_decide_eq_true hmachine)
    rw [hm] at hr
    exact ⟨hm, Option.isSome_iff_exists.2 ⟨r, hr⟩⟩
  · rintro ⟨rfl, hsome⟩
    obtain ⟨r, hr⟩ := Option.isSome_iff_exists.1 hsome
    have hmachine := (identity_eq_iff.1 (key_of_rowOf hr)).1
    exact Option.isSome_iff_exists.2 ⟨r, Option.filter_eq_some_iff.2 ⟨hr, decide_eq_true hmachine⟩⟩

/-- A machine has as many rows as it has keys. -/
lemma length_rowsOf {us : List (Child δ)} (hus : (us.map (Child.identity key)).Nodup)
    (h : ∀ m' k, (rowOf (Child.identity key) us (m', k)).isSome ↔ m' = m ∧ (t.get m k).isSome) :
    (t.rowsOf m).length = us.length := by
  have hrows : ((t.rowsOf m).map (Child.identity key)).Nodup := t.unique.sublist (List.filter_sublist.map _)
  have hmem : ∀ {l : List (Child δ)} {i}, i ∈ l.map (Child.identity key) ↔ (rowOf (Child.identity key) l i).isSome := by
    intro l i
    rw [Option.isSome_iff_ne_none, Ne, rowOf_eq_none_iff, not_not]
  have hperm : ((t.rowsOf m).map (Child.identity key)).Perm (us.map (Child.identity key)) :=
    (List.perm_ext_iff_of_nodup hrows hus).2 fun ⟨m', k⟩ => by rw [hmem, hmem, h, isSome_rowOf_rowsOf]
  simpa using hperm.length_eq

lemma length_rowsOf_congr {t' : Table key} (h : ∀ k, t'.get m k = t.get m k) :
    (t'.rowsOf m).length = (t.rowsOf m).length := by
  refine length_rowsOf (t.unique.sublist (List.filter_sublist.map _)) fun m' k => ?_
  rw [h, ← isSome_rowOf_rowsOf]

/-- What `_replace_set` returns is how many rows the machine has then. -/
theorem length_rowsOf_replaceSet : ((replaceSet present machineId (reported.map (stamped machineId now)) t).rowsOf
    machineId).length = (deduped key present (reported.map (stamped machineId now))).length := by
  refine length_rowsOf nodup_deduped fun m' k => ?_
  rw [rowOf_deduped, get_replaceSet, replacedBy, if_pos rfl]
  by_cases hm : m' = machineId
  · rw [if_pos hm, Option.isSome_map, Option.isSome_map, and_iff_right hm]
  · rw [if_neg hm]
    exact iff_of_false (by simp) fun h => hm h.1

end

end Tiai.Inventory
