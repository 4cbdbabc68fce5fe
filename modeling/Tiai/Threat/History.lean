import Mathlib
import Tiai.Threat.Model

/-!
# What a run of heartbeats leaves of a detection

* `Effect`, `insertRows_self` — one detection through one statement;
* `lastReport`, `row_of_run` — the stored row is the last report;
* `reported_once` — one row, one alert, and nothing for an unchanged report;
* `dates_stable_iff` — the date of a detection is stable when no later report gives another one.
-/

namespace Tiai.Threats

open Lib

/-! ### The laws -/

/-- The last report of a detection in a batch. -/
def lastOf (reports : List ThreatReport) (id : String) : Option ThreatReport :=
  (reports.filter fun r => r.detectionId = some id).getLast?

/-- And in a run, by a poste. -/
def lastReport (events : List Heartbeat) (machineId : Uuid) (id : String) : Option ThreatReport :=
  lastOf ((events.filter (·.machineId = machineId)).flatMap Heartbeat.detections) id

/-- The poste has reported the detection, which has an identifier. -/
def Reported (events : List Heartbeat) (machineId : Uuid) (id : String) : Prop :=
  id ≠ "" ∧ ∃ e ∈ events, e.machineId = machineId ∧ ∃ r ∈ e.detections, r.detectionId = some id

instance (events : List Heartbeat) (machineId : Uuid) (id : String) : Decidable (Reported events machineId id) := by
  unfold Reported; infer_instance

/-- The rows that the statement of a heartbeat returns. -/
def returnedBy (t : Table) (e : Heartbeat) : List Returned := (insertRows e.machineId t (deduped e.detections)).2

/-- How often a heartbeat returns the detection as new. -/
def timesNew (t : Table) (e : Heartbeat) (id : String) : ℕ :=
  (upsertThreats t e.machineId e.detections).2.newDetections.countP (·.detectionId = some id)

/-- How often a run returns it as new, for a poste. -/
def alerts (returned : List (Uuid × UpsertResult)) (machineId : Uuid) (id : String) : ℕ :=
  ((returned.filter (·.1 = machineId)).map fun r => r.2.newDetections.countP (·.detectionId = some id)).sum

/-- The row of a detection. -/
def storedOf (t : Table) (machineId : Uuid) (id : String) : Option Threat := rowOf Threat.key t.rows (machineId, some id)

/-- What is asked of a run, about a detection. -/
structure Once (events : List Heartbeat) (machineId : Uuid) (id : String) : Prop where
  row : ∃ x r, (run heartbeat .empty events).rows.filter (·.key = (machineId, some id)) = [x] ∧
    lastReport events machineId id = some r ∧ x.mutable = r.mutable
  alert : alerts (results .empty events) machineId id = 1
  first : ∀ before e after, events = before ++ e :: after → e.machineId = machineId →
    (timesNew (run heartbeat .empty before) e id = 1 ↔
      Reported [e] machineId id ∧ ¬Reported before machineId id)
  unchanged : ∀ before e after x r, events = before ++ e :: after → e.machineId = machineId →
    storedOf (run heartbeat .empty before) machineId id = some x → lastOf e.detections id = some r →
    r.mutable = x.mutable → (r.detectedAt = none ∨ r.detectedAt = x.detectedAt) →
      storedOf (run heartbeat .empty (before ++ [e])) machineId id = some x ∧
        (∀ w ∈ returnedBy (run heartbeat .empty before) e, w.row.detectionId ≠ some id) ∧
        timesNew (run heartbeat .empty before) e id = 0

/-! ### One statement -/

/-- What the statement makes of the row of a report, and what it returns of it. -/
inductive Effect (machineId : Uuid) (r : ThreatReport) : Option Threat → Threat → Option Returned → Prop
  | inserted (n : ℕ) : Effect machineId r none (proposed machineId n r) (some ⟨proposed machineId n r, true⟩)
  | updated (x : Threat) (h : differs x r = true) :
    Effect machineId r (some x) (updated x r) (some ⟨updated x r, false⟩)
  | kept (x : Threat) (h : differs x r = false) : Effect machineId r (some x) x none

section Statement

variable {machineId : Uuid} {t : Table} {r : ThreatReport} {rs : List ThreatReport} {k : Uuid × Option String}

lemma Effect.key {old : Option Threat} {x : Threat} {w : Option Returned} (h : Effect machineId r old x w)
    (hold : ∀ y ∈ old, y.key = (machineId, r.detectionId)) : x.key = (machineId, r.detectionId) ∧
      ∀ v ∈ w, v.row.key = (machineId, r.detectionId) := by
  cases h with
  | inserted n =>
    refine ⟨rfl, fun v hv => ?_⟩
    obtain rfl := Option.some.inj hv
    rfl
  | updated x hdiffers =>
    have hx := hold x rfl
    refine ⟨hx, fun v hv => ?_⟩
    obtain rfl := Option.some.inj hv
    exact hx
  | kept x hdiffers => exact ⟨hold x rfl, fun v hv => by cases hv⟩

/-- What a report's row becomes has its mutable columns. -/
lemma Effect.mutable {old : Option Threat} {x : Threat} {w : Option Returned} (h : Effect machineId r old x w) :
    x.mutable = r.mutable := by
  cases h with
  | inserted n => rfl
  | updated x hdiffers => rfl
  | kept x hdiffers =>
    exact (differs_eq_false_iff.1 hdiffers).1

lemma proposed_key (n : ℕ) : (proposed machineId n r).key = (machineId, r.detectionId) := rfl

lemma updated_key (x : Threat) (r : ThreatReport) : (updated x r).key = x.key := rfl

variable (machineId t)

lemma insertOnConflict_self : ∃ x,
    rowOf Threat.key (insertOnConflict machineId t r).1.rows (machineId, r.detectionId) = some x ∧
      Effect machineId r (rowOf Threat.key t.rows (machineId, r.detectionId)) x (insertOnConflict machineId t r).2 := by
  unfold insertOnConflict
  cases hfound : rowOf Threat.key t.rows (machineId, r.detectionId) with
  | none =>
    refine ⟨proposed machineId t.nextId r, ?_, .inserted t.nextId⟩
    rw [rowOf_append_singleton, hfound, proposed_key]
    exact if_pos rfl
  | some x =>
    have hkey := (updated_key x r).trans (key_of_rowOf hfound)
    simp only
    cases hdiffers : differs x r with
    | false =>
      rw [if_neg Bool.false_ne_true]
      exact ⟨x, hfound, .kept x hdiffers⟩
    | true =>
      rw [if_pos rfl]
      refine ⟨updated x r, ?_, .updated x hdiffers⟩
      rw [rowOf_putRow, if_pos hkey, hfound]
      rfl

lemma insertOnConflict_other (hk : (machineId, r.detectionId) ≠ k) :
    rowOf Threat.key (insertOnConflict machineId t r).1.rows k = rowOf Threat.key t.rows k := by
  unfold insertOnConflict
  cases hfound : rowOf Threat.key t.rows (machineId, r.detectionId) with
  | none =>
    simp only
    rw [rowOf_append_singleton, proposed_key, if_neg hk, Option.or_none]
  | some x =>
    have hkey := (updated_key x r).trans (key_of_rowOf hfound)
    simp only
    split
    · rw [rowOf_putRow, if_neg (hkey ▸ hk)]
    · rfl

/-- The rows returned are those of the report. -/
lemma insertOnConflict_returned : ∀ w ∈ (insertOnConflict machineId t r).2, w.row.key = (machineId, r.detectionId) := by
  obtain ⟨x, -, heffect⟩ := insertOnConflict_self machineId t (r := r)
  exact (heffect.key fun y hy => key_of_rowOf hy).2

lemma insertOnConflict_nodup (h : (t.rows.map Threat.key).Nodup) :
    ((insertOnConflict machineId t r).1.rows.map Threat.key).Nodup := by
  unfold insertOnConflict
  cases hfound : rowOf Threat.key t.rows (machineId, r.detectionId) with
  | none => exact nodup_append_singleton h hfound
  | some x =>
    simp only
    split
    · rw [map_key_putRow]
      exact h
    · exact h

/-- A detection that the statement does not name. -/
lemma insertRows_other (hk : ∀ r ∈ rs, (machineId, r.detectionId) ≠ k) :
    rowOf Threat.key (insertRows machineId t rs).1.rows k = rowOf Threat.key t.rows k ∧
      ∀ w ∈ (insertRows machineId t rs).2, w.row.key ≠ k := by
  induction rs generalizing t with
  | nil => exact ⟨rfl, fun w hw => by cases hw⟩
  | cons r rs ih =>
    have hr := hk r List.mem_cons_self
    obtain ⟨hrow, hreturned⟩ := ih (insertOnConflict machineId t r).1 fun r' hr' =>
      hk r' (List.mem_cons_of_mem r hr')
    refine ⟨hrow.trans (insertOnConflict_other machineId t hr), fun w hw => ?_⟩
    rcases List.mem_append.1 hw with hw | hw
    · rw [insertOnConflict_returned machineId t w (Option.mem_toList.1 hw)]
      exact hr
    · exact hreturned w hw

lemma insertRows_nodup (h : (t.rows.map Threat.key).Nodup) :
    ((insertRows machineId t rs).1.rows.map Threat.key).Nodup := by
  induction rs generalizing t with
  | nil => exact h
  | cons r rs ih => exact ih _ (insertOnConflict_nodup machineId t h)

/-- A detection that the statement names once. -/
lemma insertRows_self (hkeys : (rs.map ThreatReport.detectionId).Nodup) (hr : r ∈ rs) : ∃ x w,
    rowOf Threat.key (insertRows machineId t rs).1.rows (machineId, r.detectionId) = some x ∧
      Effect machineId r (rowOf Threat.key t.rows (machineId, r.detectionId)) x w ∧
      (insertRows machineId t rs).2.filter (·.row.key = (machineId, r.detectionId)) = w.toList := by
  induction rs generalizing t with
  | nil => cases hr
  | cons r' rs ih =>
    rw [List.map_cons, List.nodup_cons] at hkeys
    change ∃ x w, rowOf Threat.key (insertRows machineId (insertOnConflict machineId t r').1 rs).1.rows _ = some x ∧
      Effect machineId r _ x w ∧ ((insertOnConflict machineId t r').2.toList ++
        (insertRows machineId (insertOnConflict machineId t r').1 rs).2).filter _ = w.toList
    rcases List.mem_cons.1 hr with rfl | hr
    · -- the row itself: the ones that follow leave it alone
      have hrest : ∀ r' ∈ rs, (machineId, r'.detectionId) ≠ (machineId, r.detectionId) := fun r' hr' heq =>
        hkeys.1 (List.mem_map.2 ⟨r', hr', (Prod.ext_iff.1 heq).2⟩)
      obtain ⟨x, hx, heffect⟩ := insertOnConflict_self machineId t (r := r)
      obtain ⟨hrow, hreturned⟩ := insertRows_other machineId (insertOnConflict machineId t r).1 hrest
      refine ⟨x, (insertOnConflict machineId t r).2, hrow.trans hx, heffect, ?_⟩
      rw [List.filter_append, List.filter_eq_self.2, List.filter_eq_nil_iff.2, List.append_nil]
      · exact fun w hw hself => hreturned w hw (of_decide_eq_true hself)
      · exact fun w hw => decide_eq_true (insertOnConflict_returned machineId t w (Option.mem_toList.1 hw))
    · -- a row before it
      have hne : (machineId, r'.detectionId) ≠ (machineId, r.detectionId) := fun heq =>
        hkeys.1 (List.mem_map.2 ⟨r, hr, (Prod.ext_iff.1 heq).2.symm⟩)
      obtain ⟨x, w, hrow, heffect, hreturned⟩ := ih (insertOnConflict machineId t r').1 hkeys.2 hr
      rw [insertOnConflict_other machineId t hne] at heffect
      refine ⟨x, w, hrow, heffect, ?_⟩
      rw [List.filter_append, hreturned, List.filter_eq_nil_iff.2, List.nil_append]
      intro v hv hself
      rw [insertOnConflict_returned machineId t v (Option.mem_toList.1 hv)] at hself
      exact hne (of_decide_eq_true hself)

end Statement

/-! ### One heartbeat -/

section Batch

variable {reports : List ThreatReport} {id : String}

lemma nodup_deduped : ((deduped reports).map ThreatReport.detectionId).Nodup := nodup_foldl_upsert _ List.nodup_nil

/-- Of a detection with an identifier, the last report is kept. -/
lemma rowOf_deduped (hid : id ≠ "") : rowOf ThreatReport.detectionId (deduped reports) (some id) = lastOf reports id := by
  unfold deduped lastOf
  rw [rowOf_foldl_upsert, List.filter_filter]
  refine (Option.or_none).trans (congrArg List.getLast? (List.filter_congr fun r _ => ?_))
  unfold ThreatReport.keyed
  by_cases hr : r.detectionId = some id
  · simp [hr, hid]
  · simp [hr]

lemma forall_mem_deduped_iff {P : ThreatReport → Prop} :
    (∀ r ∈ deduped reports, P r) ↔ ∀ id r, id ≠ "" → lastOf reports id = some r → P r := by
  constructor
  · intro h id r hid hr
    rw [← rowOf_deduped hid] at hr
    exact h r (mem_of_rowOf hr)
  · intro h r hr
    have hkeyed : r.keyed = true := by
      rcases mem_of_mem_foldl_upsert hr with hmem | hmem
      · exact (List.mem_filter.1 hmem).2
      · cases hmem
    obtain ⟨id, hid, hne⟩ := (Option.any_eq_true _ _).1 hkeyed
    have hne : id ≠ "" := of_decide_eq_true hne
    refine h id r hne ?_
    rw [← rowOf_deduped hne]
    exact (rowOf_eq_some_iff nodup_deduped).2 ⟨hr, hid⟩

/-- What a heartbeat makes of a detection with an identifier. -/
lemma heartbeat_spec (t : Table) (e : Heartbeat) (hid : id ≠ "") :
    match lastOf e.detections id with
    | none => storedOf (heartbeat t e) e.machineId id = storedOf t e.machineId id ∧
        (returnedBy t e).filter (·.row.key = (e.machineId, some id)) = []
    | some r => r.detectionId = some id ∧ ∃ x w, storedOf (heartbeat t e) e.machineId id = some x ∧
        Effect e.machineId r (storedOf t e.machineId id) x w ∧
        (returnedBy t e).filter (·.row.key = (e.machineId, some id)) = w.toList := by
  rw [← rowOf_deduped hid]
  cases hlast : rowOf ThreatReport.detectionId (deduped e.detections) (some id) with
  | none =>
    have hother : ∀ r ∈ deduped e.detections, (e.machineId, r.detectionId) ≠ (e.machineId, some id) := by
      intro r hr heq
      exact rowOf_eq_none_iff.1 hlast (List.mem_map.2 ⟨r, hr, (Prod.ext_iff.1 heq).2⟩)
    obtain ⟨hrow, hreturned⟩ := insertRows_other e.machineId t hother
    refine ⟨hrow, List.filter_eq_nil_iff.2 fun w hw hself => ?_⟩
    exact hreturned w hw (of_decide_eq_true hself)
  | some r =>
    have hrid := key_of_rowOf hlast
    obtain ⟨x, w, hrow, heffect, hreturned⟩ :=
      insertRows_self e.machineId t nodup_deduped (mem_of_rowOf hlast)
    rw [hrid] at hrow heffect hreturned
    exact ⟨hrid, x, w, hrow, heffect, hreturned⟩

/-- The rows returned are the poste's own. -/
lemma returned_machineId (machineId : Uuid) (t : Table) (rs : List ThreatReport) :
    ∀ w ∈ (insertRows machineId t rs).2, w.row.machineId = machineId := by
  induction rs generalizing t with
  | nil => exact fun w hw => by cases hw
  | cons r rs ih =>
    intro w hw
    rcases List.mem_append.1 hw with hw | hw
    · exact (Prod.ext_iff.1 (insertOnConflict_returned machineId t w (Option.mem_toList.1 hw))).1
    · exact ih _ w hw

lemma key_eq_iff {x : Threat} {machineId : Uuid} (id : String) (h : x.machineId = machineId) :
    x.key = (machineId, some id) ↔ x.detectionId = some id := by
  unfold Threat.key
  rw [Prod.ext_iff, and_iff_right h]

lemma timesNew_eq (t : Table) (e : Heartbeat) :
    timesNew t e id = ((returnedBy t e).filter (·.row.key = (e.machineId, some id))).countP Returned.inserted := by
  change (((returnedBy t e).filter Returned.inserted).map Returned.detection).countP _ = _
  rw [List.countP_map, List.countP_filter, List.countP_filter]
  refine List.countP_congr fun w hw => ?_
  have hkey := key_eq_iff id (returned_machineId _ _ _ w hw)
  rw [Bool.and_eq_true_iff, Bool.and_eq_true_iff, decide_eq_true_iff, hkey, and_comm]
  exact and_congr_right fun _ => decide_eq_true_iff

/-- It is new when it is reported, and not stored. -/
lemma timesNew_spec (t : Table) (e : Heartbeat) (hid : id ≠ "") : timesNew t e id =
    if (lastOf e.detections id).isSome = true ∧ storedOf t e.machineId id = none then 1 else 0 := by
  have hspec := heartbeat_spec t e hid
  rw [timesNew_eq]
  cases hlast : lastOf e.detections id with
  | none =>
    rw [hlast] at hspec
    rw [hspec.2, if_neg (by simp)]
    rfl
  | some r =>
    rw [hlast] at hspec
    obtain ⟨-, x, w, -, heffect, hreturned⟩ := hspec
    rw [hreturned]
    cases hold : storedOf t e.machineId id with
    | none =>
      rw [hold] at heffect
      cases heffect
      rfl
    | some y =>
      rw [hold] at heffect
      cases heffect with
      | updated => rfl
      | kept => rfl

lemma timesNew_eq_one {t : Table} {e : Heartbeat} (hid : id ≠ "") : timesNew t e id = 1 ↔
    lastOf e.detections id ≠ none ∧ storedOf t e.machineId id = none := by
  rw [timesNew_spec t e hid, ← Option.isSome_iff_ne_none]
  split
  · rename_i h
    exact iff_of_true rfl h
  · rename_i h
    exact iff_of_false Nat.zero_ne_one h

lemma storedOf_other (t : Table) (e : Heartbeat) {machineId : Uuid} (hne : e.machineId ≠ machineId) :
    storedOf (heartbeat t e) machineId id = storedOf t machineId id :=
  (insertRows_other e.machineId t fun _ _ heq => hne (Prod.ext_iff.1 heq).1).1

lemma lastOf_eq_none : lastOf reports id = none ↔ ∀ r ∈ reports, r.detectionId ≠ some id := by
  unfold lastOf
  rw [List.getLast?_eq_none_iff, List.filter_eq_nil_iff]
  simp only [decide_eq_true_eq]

end Batch

/-! ### A run of them -/

section Runs

variable {events : List Heartbeat} {machineId : Uuid} {id : String}

lemma run_snoc (t : Table) (events : List Heartbeat) (e : Heartbeat) :
    run heartbeat t (events ++ [e]) = heartbeat (run heartbeat t events) e := by
  rw [run_append]
  rfl

lemma lastReport_snoc (events : List Heartbeat) (e : Heartbeat) (machineId : Uuid) (id : String) : lastReport (events ++ [e]) machineId id =
    if e.machineId = machineId then (lastOf e.detections id).or (lastReport events machineId id)
    else lastReport events machineId id := by
  unfold lastReport
  rw [List.filter_append, List.flatMap_append]
  by_cases hm : e.machineId = machineId
  · rw [if_pos hm, List.filter_cons_of_pos (by simpa using hm), List.filter_nil, List.flatMap_singleton]
    unfold lastOf
    rw [List.filter_append, List.getLast?_append]
  · rw [if_neg hm, List.filter_cons_of_neg (by simpa using hm), List.filter_nil, List.flatMap_nil, List.append_nil]

lemma lastReport_one (e : Heartbeat) : lastReport [e] e.machineId id = lastOf e.detections id := by
  have hsnoc := lastReport_snoc [] e e.machineId id
  rw [if_pos rfl] at hsnoc
  exact hsnoc.trans Option.or_none

lemma reported_iff (hid : id ≠ "") : Reported events machineId id ↔ lastReport events machineId id ≠ none := by
  unfold Reported lastReport
  rw [and_iff_right hid, Ne, lastOf_eq_none]
  push Not
  constructor
  · rintro ⟨e, he, hm, r, hr, hrid⟩
    exact ⟨r, List.mem_flatMap.2 ⟨e, List.mem_filter.2 ⟨he, decide_eq_true hm⟩, hr⟩, hrid⟩
  · rintro ⟨r, hr, hrid⟩
    obtain ⟨e, he, hr⟩ := List.mem_flatMap.1 hr
    obtain ⟨he, hm⟩ := List.mem_filter.1 he
    exact ⟨e, he, of_decide_eq_true hm, r, hr, hrid⟩

/-- **The stored row is the last report**, in its mutable columns. -/
theorem row_of_run (hid : id ≠ "") (events : List Heartbeat) (machineId : Uuid) :
    (storedOf (run heartbeat .empty events) machineId id).map Threat.mutable =
      (lastReport events machineId id).map ThreatReport.mutable := by
  induction events using List.reverseRecOn with
  | nil => rfl
  | append_singleton events e ih =>
    rw [run_snoc, lastReport_snoc]
    by_cases hm : e.machineId = machineId
    · subst hm
      rw [if_pos rfl]
      have hspec := heartbeat_spec (run heartbeat .empty events) e hid
      cases hlast : lastOf e.detections id with
      | none =>
        rw [hlast] at hspec
        rw [hspec.1, ih]
        rfl
      | some r =>
        rw [hlast] at hspec
        obtain ⟨-, x, w, hx, heffect, -⟩ := hspec
        rw [hx]
        exact congrArg some heffect.mutable
    · rw [if_neg hm, storedOf_other _ e hm, ih]

lemma results_snoc (t : Table) (events : List Heartbeat) (e : Heartbeat) : results t (events ++ [e]) =
    results t events ++ [(e.machineId, (upsertThreats (run heartbeat t events) e.machineId e.detections).2)] := by
  induction events generalizing t with
  | nil => rfl
  | cons f events ih =>
    rw [List.cons_append, results, ih]
    rfl

lemma alerts_snoc (t : Table) (events : List Heartbeat) (e : Heartbeat) :
    alerts (results t (events ++ [e])) machineId id = alerts (results t events) machineId id +
      if e.machineId = machineId then timesNew (run heartbeat t events) e id else 0 := by
  unfold alerts
  rw [results_snoc, List.filter_append, List.map_append, List.sum_append]
  by_cases hm : e.machineId = machineId
  · rw [if_pos hm, List.filter_cons_of_pos (by simpa using hm)]
    rfl
  · rw [if_neg hm, List.filter_cons_of_neg (by simpa using hm)]
    rfl

/-- A run has returned as new what is stored, once. -/
lemma alerts_of_run (hid : id ≠ "") (events : List Heartbeat) (machineId : Uuid) :
    alerts (results .empty events) machineId id =
      if storedOf (run heartbeat .empty events) machineId id = none then 0 else 1 := by
  induction events using List.reverseRecOn with
  | nil => rfl
  | append_singleton events e ih =>
    rw [alerts_snoc, run_snoc, ih]
    by_cases hm : e.machineId = machineId
    · subst hm
      rw [if_pos rfl, timesNew_spec _ e hid]
      have hspec := heartbeat_spec (run heartbeat .empty events) e hid
      cases hlast : lastOf e.detections id with
      | none =>
        rw [hlast] at hspec
        rw [hspec.1]
        rfl
      | some r =>
        rw [hlast] at hspec
        obtain ⟨-, x, w, hx, -, -⟩ := hspec
        rw [hx]
        cases storedOf (run heartbeat .empty events) e.machineId id with
        | none => rfl
        | some y => rfl
    · rw [if_neg hm, storedOf_other _ e hm, Nat.add_zero]

lemma nodup_of_run (events : List Heartbeat) : ((run heartbeat .empty events).rows.map Threat.key).Nodup :=
  run_invariant (P := fun t => (t.rows.map Threat.key).Nodup) (fun t e h => insertRows_nodup e.machineId t h)
    List.nodup_nil events

end Runs

/-- **One row, one alert.**  Of a detection that a poste has reported, over any run of heartbeats: there is one row,
with the mutable columns of the last report; it is returned as new once, by the first heartbeat that reports it; and a
report that changes nothing is neither written nor returned. -/
theorem reported_once (events : List Heartbeat) (machineId : Uuid) (id : String) (h : Reported events machineId id) :
    Once events machineId id := by
  have hid := h.1
  obtain ⟨r, hr⟩ := Option.ne_none_iff_exists'.1 ((reported_iff hid).1 h)
  have hmutable := row_of_run hid events machineId
  rw [hr, Option.map_some] at hmutable
  obtain ⟨x, hx, hxr⟩ := Option.map_eq_some_iff.1 hmutable
  constructor
  case row =>
    refine ⟨x, r, ?_, hr, hxr⟩
    rw [filter_key (nodup_of_run events)]
    exact congrArg Option.toList hx
  case alert =>
    rw [alerts_of_run hid, hx]
    rfl
  case first =>
    rintro before e after - rfl
    have hbefore := row_of_run hid before e.machineId
    rw [timesNew_eq_one hid, reported_iff hid, reported_iff hid, lastReport_one, not_not]
    refine and_congr_right fun _ => ?_
    rw [← Option.map_eq_none_iff (f := Threat.mutable), hbefore, Option.map_eq_none_iff]
  case unchanged =>
    rintro before e after x r - rfl hx hlast hsame hdate
    have hspec := heartbeat_spec (run heartbeat .empty before) e hid
    rw [hlast, hx] at hspec
    obtain ⟨-, y, w, hy, heffect, hreturned⟩ := hspec
    have hdiffers : differs x r = false := differs_eq_false_iff.2 ⟨hsame.symm, (coalescedDate_eq hdate).symm⟩
    cases heffect with
    | updated _ hx' =>
      rw [hdiffers] at hx'
      cases hx'
    | kept =>
      rw [run_snoc]
      refine ⟨hy, fun w hw hself => ?_, ?_⟩
      · have hkey := (key_eq_iff id (returned_machineId _ _ _ w hw)).2 hself
        exact List.filter_eq_nil_iff.1 hreturned w hw (decide_eq_true hkey)
      · rw [timesNew_eq, hreturned]
        rfl

/-- Two heartbeats, of a detection that Defender has handled meanwhile. -/
theorem reported_once_eicar : Once [⟨1, [eicar "active"]⟩, ⟨1, [eicar "quarantined"]⟩] 1 "DET-NEW" :=
  reported_once _ 1 "DET-NEW" (by decide)

/-! ### The date of a detection -/

/-- The stored date. -/
def dateOf (t : Table) (k : Uuid × Option String) : Option Time := (rowOf Threat.key t.rows k).bind fun x => x.detectedAt

/-- The batch has, for a detection that has a date, the same one or none, in its last report. -/
def SameDate (t : Table) (e : Heartbeat) : Prop :=
  ∀ r ∈ deduped e.detections, ∀ d, dateOf t (e.machineId, r.detectionId) = some d →
    r.detectedAt = none ∨ r.detectedAt = some d

section Dates

variable {machineId : Uuid} {t : Table} {r : ThreatReport}

/-- A report's date replaces the stored one. -/
lemma Effect.date {x y : Threat} {w : Option Returned} (h : Effect machineId r (some x) y w) :
    y.detectedAt = r.detectedAt.or x.detectedAt := by
  cases h with
  | updated => rfl
  | kept _ hdiffers =>
    exact (differs_eq_false_iff.1 hdiffers).2

/-- The date that a heartbeat leaves a detection that it reports. -/
lemma dateOf_reported (t : Table) (e : Heartbeat) (hr : r ∈ deduped e.detections) {d : Time}
    (hd : dateOf t (e.machineId, r.detectionId) = some d) :
    dateOf (heartbeat t e) (e.machineId, r.detectionId) = r.detectedAt.or (some d) := by
  obtain ⟨x, hx, hxd⟩ := Option.bind_eq_some_iff.1 hd
  obtain ⟨y, w, hy, heffect, -⟩ := insertRows_self e.machineId t nodup_deduped hr
  rw [hx] at heffect
  change (rowOf Threat.key (insertRows e.machineId t (deduped e.detections)).1.rows _).bind _ = _
  rw [hy, Option.bind_some, heffect.date, hxd]

lemma dateOf_unreported (t : Table) (e : Heartbeat) {k : Uuid × Option String}
    (hk : ∀ r ∈ deduped e.detections, (e.machineId, r.detectionId) ≠ k) : dateOf (heartbeat t e) k = dateOf t k := by
  change (rowOf Threat.key (insertRows e.machineId t (deduped e.detections)).1.rows k).bind _ = _
  rw [(insertRows_other e.machineId t hk).1]
  rfl

/-- A heartbeat keeps the dates when its own are the same, and only then. -/
lemma dates_kept_iff (t : Table) (e : Heartbeat) :
    (∀ k d, dateOf t k = some d → dateOf (heartbeat t e) k = some d) ↔ SameDate t e := by
  constructor
  · intro h r hr d hd
    have hkept := h _ d hd
    rw [dateOf_reported t e hr hd] at hkept
    cases hdate : r.detectedAt with
    | none => exact .inl rfl
    | some d' =>
      rw [hdate] at hkept
      exact .inr hkept
  · intro h k d hd
    by_cases hk : ∃ r ∈ deduped e.detections, (e.machineId, r.detectionId) = k
    · obtain ⟨r, hr, rfl⟩ := hk
      rw [dateOf_reported t e hr hd]
      rcases h r hr d hd with hnone | hsame
      · rw [hnone]
        rfl
      · rw [hsame]
        rfl
    · push Not at hk
      rw [dateOf_unreported t e hk, hd]

end Dates

/-- **When the dates are stable.**  In every run, a date that is stored stays, whatever follows, exactly when every
heartbeat has the same date or none for the detections that have one. -/
theorem dates_stable_iff (events : List Heartbeat) :
    (∀ fs gs, fs <+: gs → gs <+: events → ∀ k d, dateOf (run heartbeat .empty fs) k = some d →
        dateOf (run heartbeat .empty gs) k = some d) ↔
      Guarded heartbeat SameDate .empty events := by
  constructor
  · intro h
    rw [Guarded.iff_snoc]
    intro fs e hfs
    rw [← dates_kept_iff]
    intro k d hd
    rw [← run_snoc]
    exact h fs (fs ++ [e]) (List.prefix_append fs [e]) hfs k d hd
  · rintro h fs gs ⟨hs, rfl⟩ ⟨rest, rfl⟩ k d hd
    rw [run_append]
    have hguard := (Guarded.append_iff.1 (Guarded.append_iff.1 h).1).2
    exact Guarded.invariant (P := fun t => dateOf t k = some d)
      (fun t e hsame hdate => (dates_kept_iff t e).2 hsame k d hdate) hguard hd

/-- A detection, dated. -/
def dated (detectedAt : Time) : ThreatReport := { eicar "active" with detectedAt := some detectedAt }

/-- **The date moves.**  A later heartbeat gives another date. -/
theorem not_dates_stable : ¬∀ (events : List Heartbeat) (fs gs : List Heartbeat), fs <+: gs → gs <+: events →
    ∀ k d, dateOf (run heartbeat .empty fs) k = some d → dateOf (run heartbeat .empty gs) k = some d := by
  intro h
  have hmoved := h [⟨1, [dated 100]⟩, ⟨1, [dated 200]⟩] [⟨1, [dated 100]⟩] _ ⟨[⟨1, [dated 200]⟩], rfl⟩
    (List.prefix_refl _) (1, some "DET-NEW") 100 (by decide)
  exact absurd hmoved (by decide)

end Tiai.Threats
