import Mathlib.Data.List.Nodup
import Tiai.Base
import Tiai.Lib.Buckets

/-!
# The hourly counters

`features/usage/models.py` and the writing half of `features/usage/crud.py`: one row per poste and UTC
hour, written by upserts that add, capped at a full hour.  No answer is an error of the database.
-/

namespace Tiai.Usage

open Lib

/-- `SECONDS_PER_HOUR`. -/
def secondsPerHour : ℤ := 3600

/-- `machine_uptime_hourly`: `seconds_on` by the primary key, a poste and the start of an hour. -/
abbrev Uptime := Store (Uuid × Time) ℤ

/-- `ck_machine_uptime_hourly_seconds_on`. -/
def InHour (n : ℤ) : Prop := 0 ≤ n ∧ n ≤ secondsPerHour

instance (n : ℤ) : Decidable (InHour n) := by unfold InHour; infer_instance

/-- One row of an upsert: inserted, or added to the one there is. -/
def addHour (t : Uptime) (row : (Uuid × Time) × ℤ) : Uptime :=
  match t.get row.1 with
  | none => t.put row.1 row.2
  | some n => t.put row.1 (min secondsPerHour (n + row.2))

/-- `_upsert_adding`: one statement, which the constraint refuses as a whole, and which may not propose
one key twice. -/
def upsertAdding (t : Uptime) (rows : List ((Uuid × Time) × ℤ)) : Option Uptime :=
  if (rows.map Prod.fst).Nodup ∧ ∀ row ∈ rows, InHour row.2 then some (rows.foldl addHour t)
  else none

/-- `record`. -/
def record (t : Uptime) (machineId : Uuid) (credits : List (Time × ℤ)) : Option Uptime :=
  match credits.map fun credit => ((machineId, credit.1), credit.2) with
  | [] => some t
  | rows => upsertAdding t rows

/-- `move_to`. -/
def moveTo (t : Uptime) (sourceId targetId : Uuid) : Option Uptime :=
  let sourceRows := (t.filter fun row => row.1.1 = sourceId).map fun row => ((targetId, row.1.2), row.2)
  (upsertAdding t sourceRows).map fun t => t.drop fun key => key.1 = sourceId

/-! ### What an upsert does -/

/-- The primary key, and the check. -/
structure Wf (t : Uptime) : Prop where
  keys : t.keys.Nodup
  check : ∀ row ∈ t, InHour row.2

lemma Wf.amount {t : Uptime} (h : Wf t) (k : Uuid × Time) : InHour (t.amount k) := by
  unfold Store.amount
  cases hk : t.get k with
  | none => exact ⟨Int.le_refl _, by decide⟩
  | some n => exact h.check _ (Store.mem_of_get hk)

lemma Wf.put {t : Uptime} (h : Wf t) (k : Uuid × Time) {n : ℤ} (hn : InHour n) : Wf (t.put k n) where
  keys := Store.nodup_keys_put h.keys k n
  check := by
    intro row hrow
    rcases List.mem_cons.mp hrow with rfl | hrow
    · exact hn
    · exact h.check row (Store.mem_drop.mp hrow).1

/-- A row added: the amounts add up, as far as an hour goes. -/
lemma addHour_eq {t : Uptime} (row : (Uuid × Time) × ℤ) (hrow : InHour row.2) :
    addHour t row = t.put row.1 (min secondsPerHour (t.amount row.1 + row.2)) := by
  unfold addHour Store.amount
  cases t.get row.1 with
  | none =>
    have : min secondsPerHour (0 + row.2) = row.2 := by
      have := hrow.2
      omega
    simp only [Option.getD_none, this]
  | some n => rfl

lemma addHour_wf {t : Uptime} (h : Wf t) (row : (Uuid × Time) × ℤ) (hrow : InHour row.2) :
    Wf (addHour t row) := by
  rw [addHour_eq row hrow]
  refine h.put row.1 ⟨?_, Int.min_le_left _ _⟩
  have := (h.amount row.1).1
  have := hrow.1
  have : (0 : ℤ) ≤ secondsPerHour := by decide
  omega

/-- The rows of one statement, one after the other: where they have a key, the amounts add up. -/
lemma foldl_get {t : Uptime} (h : Wf t) {rows : Store (Uuid × Time) ℤ} (hrows : rows.keys.Nodup)
    (hin : ∀ row ∈ rows, InHour row.2) (k : Uuid × Time) :
    Wf (rows.foldl addHour t) ∧ (rows.foldl addHour t).get k =
      if k ∈ rows.keys then some (min secondsPerHour (t.amount k + rows.amount k)) else t.get k := by
  induction rows generalizing t with
  | nil => exact ⟨h, by simp [Store.keys]⟩
  | cons row rows ih =>
    obtain ⟨hnot, hrows⟩ : row.1 ∉ Store.keys rows ∧ (Store.keys rows).Nodup :=
      List.nodup_cons.mp hrows
    have hrow := hin row List.mem_cons_self
    obtain ⟨hwf, hget⟩ := ih (addHour_wf h row hrow) hrows
      fun r hr => hin r (List.mem_cons_of_mem _ hr)
    refine ⟨hwf, ?_⟩
    rw [List.foldl_cons, hget, addHour_eq row hrow]
    by_cases hk : k = row.1
    · -- the statement has the key once, here
      subst hk
      have hamount : Store.amount (row :: rows) row.1 = row.2 := by simp [Store.amount, Store.get]
      have hmem : row.1 ∈ Store.keys (row :: rows) := List.mem_cons_self ..
      rw [if_neg hnot, if_pos hmem, Store.get_put_self, hamount]
    · have hamount : Store.amount (row :: rows) k = Store.amount rows k := by
        unfold Store.amount Store.get
        rw [List.find?_cons_of_neg (by simpa using Ne.symm hk)]
      have hmem : k ∈ Store.keys (row :: rows) ↔ k ∈ Store.keys rows := by
        simp [Store.keys, hk]
      rw [hamount, Store.amount_put_of_ne _ _ hk, Store.get_put_of_ne _ _ hk]
      simp only [hmem]

/-- While no hour is full, nothing is cut off. -/
lemma foldl_sumOver {p : Uuid × Time → Bool} {t : Uptime} (h : Wf t)
    {rows : Store (Uuid × Time) ℤ} (hrows : rows.keys.Nodup) (hin : ∀ row ∈ rows, InHour row.2)
    (hroom : ∀ row ∈ rows, t.amount row.1 + row.2 ≤ secondsPerHour) :
    (rows.foldl addHour t).sumOver p = t.sumOver p + rows.sumOver p := by
  induction rows generalizing t with
  | nil => simp
  | cons row rows ih =>
    obtain ⟨hnot, hrows⟩ : row.1 ∉ Store.keys rows ∧ (Store.keys rows).Nodup :=
      List.nodup_cons.mp hrows
    have hrow := hin row List.mem_cons_self
    have hadd : addHour t row = t.put row.1 (t.amount row.1 + row.2) := by
      rw [addHour_eq row hrow, Int.min_eq_right (hroom row List.mem_cons_self)]
    rw [List.foldl_cons, ih (addHour_wf h row hrow) hrows
      (fun r hr => hin r (List.mem_cons_of_mem _ hr)), hadd, Store.sumOver_put h.keys,
      Store.sumOver_cons]
    · split <;> omega
    · intro r hr
      have hne : r.1 ≠ row.1 := by
        intro he
        exact hnot (he ▸ List.mem_map_of_mem hr)
      rw [hadd, Store.amount_put_of_ne _ _ hne]
      exact hroom r (List.mem_cons_of_mem _ hr)

/-- **One statement.**  Distinct keys and amounts within an hour are accepted, and add up. -/
theorem upsertAdding_eq {t : Uptime} (h : Wf t) {rows : Store (Uuid × Time) ℤ}
    (hrows : rows.keys.Nodup) (hin : ∀ row ∈ rows, InHour row.2) :
    ∃ t', upsertAdding t rows = some t' ∧ Wf t' ∧
      (∀ k, t'.get k =
        if k ∈ rows.keys then some (min secondsPerHour (t.amount k + rows.amount k)) else t.get k) ∧
      ∀ p, (∀ row ∈ rows, t.amount row.1 + row.2 ≤ secondsPerHour) →
        t'.sumOver p = t.sumOver p + rows.sumOver p :=
  ⟨rows.foldl addHour t, if_pos ⟨hrows, hin⟩, (foldl_get h hrows hin (0, 0)).1,
    fun k => (foldl_get h hrows hin k).2, fun _ hroom => foldl_sumOver h hrows hin hroom⟩

/-! ### A merge -/

/-- The source's rows, under the target. -/
def sourceRows (t : Uptime) (sourceId targetId : Uuid) : Store (Uuid × Time) ℤ :=
  (t.filter fun row => row.1.1 = sourceId).map fun row => ((targetId, row.1.2), row.2)

lemma get_sourceRows (t : Uptime) (sourceId targetId : Uuid) (h : Time) :
    (sourceRows t sourceId targetId).get (targetId, h) = t.get (sourceId, h) := by
  unfold sourceRows Store.get
  rw [List.find?_map, Option.map_map, List.find?_filter]
  refine congrArg (Option.map Prod.snd) (congrArg (fun p => t.find? p) (funext fun row => ?_))
  obtain ⟨⟨m, hr⟩, n⟩ := row
  simp

lemma keys_sourceRows {t : Uptime} (ht : Wf t) (sourceId targetId : Uuid) :
    (sourceRows t sourceId targetId).keys.Nodup := by
  have hk : (sourceRows t sourceId targetId).keys =
      ((t.filter fun row => row.1.1 = sourceId).map Prod.fst).map fun key => (targetId, key.2) := by
    simp [Store.keys, sourceRows, Function.comp_def]
  rw [hk]
  refine List.Nodup.map_on (fun key hkey key' hkey' heq => ?_)
    (ht.keys.sublist (List.filter_sublist.map _))
  obtain ⟨row, hrow, rfl⟩ := List.mem_map.mp hkey
  obtain ⟨row', hrow', rfl⟩ := List.mem_map.mp hkey'
  have h1 : row.1.1 = sourceId := by simpa using (List.mem_filter.mp hrow).2
  have h2 : row'.1.1 = sourceId := by simpa using (List.mem_filter.mp hrow').2
  exact Prod.ext (h1.trans h2.symm) (Prod.mk.inj heq).2

lemma mem_sourceRows {t : Uptime} {sourceId targetId : Uuid} {row : (Uuid × Time) × ℤ}
    (h : row ∈ sourceRows t sourceId targetId) : row.1.1 = targetId ∧ ∃ key, (key, row.2) ∈ t := by
  obtain ⟨x, hx, rfl⟩ := List.mem_map.mp h
  exact ⟨rfl, x.1, (List.mem_filter.mp hx).1⟩

/-- **A merge of the counters.**  It always succeeds; hour by hour the target has what the two had, as far
as an hour goes, and the source has nothing left. -/
theorem moveTo_eq {t : Uptime} (ht : Wf t) {sourceId targetId : Uuid} (hne : targetId ≠ sourceId) :
    ∃ t', moveTo t sourceId targetId = some t' ∧
      (∀ h, t'.amount (targetId, h) =
        min secondsPerHour (t.amount (targetId, h) + t.amount (sourceId, h))) ∧
      (∀ key ∈ t'.keys, key.1 ≠ sourceId) ∧
      ∀ m h, m ≠ targetId → m ≠ sourceId → t'.get (m, h) = t.get (m, h) := by
  have hin : ∀ row ∈ sourceRows t sourceId targetId, InHour row.2 := by
    intro row hrow
    obtain ⟨-, key, hkey⟩ := mem_sourceRows hrow
    exact ht.check (key, row.2) hkey
  obtain ⟨u, hu, -, hget, -⟩ := upsertAdding_eq ht (keys_sourceRows ht sourceId targetId) hin
  refine ⟨u.drop fun key => key.1 = sourceId, ?_, fun h => ?_, fun key hkey => ?_,
    fun m h hm hs => ?_⟩
  · change (upsertAdding t (sourceRows t sourceId targetId)).map _ = _
    rw [hu]
    rfl
  · have hamount : (sourceRows t sourceId targetId).amount (targetId, h) = t.amount (sourceId, h) := by
      unfold Store.amount
      rw [get_sourceRows]
    have hdrop : (u.drop fun key => key.1 = sourceId).amount (targetId, h) = u.amount (targetId, h) := by
      unfold Store.amount
      rw [Store.get_drop, if_neg (by simpa using hne)]
    rw [hdrop, Store.amount, hget]
    split
    · rw [hamount]
      rfl
    · -- the source has no such hour
      rename_i hk
      have hnone := Store.get_eq_none.mpr hk
      rw [get_sourceRows] at hnone
      have hzero : t.amount (sourceId, h) = 0 := by
        rw [Store.amount, hnone]
        rfl
      rw [hzero, Int.add_zero, Int.min_eq_right (ht.amount _).2]
      rfl
  · simpa using Store.mem_keys_drop hkey
  · rw [Store.get_drop, if_neg (by simpa using hs), hget]
    refine if_neg fun hk => ?_
    obtain ⟨row, hrow, hkey⟩ := List.mem_map.mp hk
    have hfst : row.1.1 = m := congrArg Prod.fst hkey
    exact hm (hfst.symm.trans (mem_sourceRows hrow).1)

end Tiai.Usage
