import Mathlib.Data.Int.Order.Basic
import Mathlib.Data.List.Pairwise
import Mathlib.Order.Bounds.Basic
import Tiai.Command.Server
import Tiai.Lib.Owned
import Tiai.Usage.Model

/-!
# Merging a duplicate record

`merge_into` (`features/machine/crud.py`) with the `move_to` of the journal, of the verification
requests and of the usage counters: the rows of the source are handed to the target, each table by its
own rule, and the source is deleted with what still refers to it.  No answer is an error of the
database.  The successive `utcnow()` calls of one request are one instant here; of a threat the raw
report is left out.

* `mergeInto_conserves` — from tables that keep their constraints, the merge succeeds, and every row
  there was is where it belongs;
* `merge_relayed` — a wake that the source relayed for itself forgets its relay.
-/

namespace Tiai.Merge

open Lib

/-! ### The tables -/

/-- `Machine`, with the columns a merge carries over. -/
structure Record extends Machine where
  roomId : Option Uuid
  lastMaintenanceAt : Option Time
  deriving DecidableEq, Repr

/-- `Threat`. -/
structure Threat where
  id : ℕ
  machineId : Uuid
  detectionId : Option String
  threatName : Option String
  severity : Option String
  category : Option String
  status : Option String
  actionTaken : Option String
  detectedAt : Option Time
  deriving DecidableEq, Repr

/-- `Intervention`. -/
structure Intervention where
  id : Uuid
  machineId : Uuid
  kind : String
  title : Option String
  note : Option String
  performedBy : String
  performedAt : Time
  checkId : Option Uuid
  maintenanceId : Option Uuid
  createdAt : Time
  updatedAt : Time
  deriving DecidableEq, Repr

/-- `MachineCheck`. -/
structure MachineCheck where
  id : Uuid
  machineId : Uuid
  requestedBy : String
  assignedToId : Option Uuid
  instructions : Option String
  createdAt : Time
  updatedAt : Time
  closedAt : Option Time
  closedBy : Option String
  closingNote : Option String
  deriving DecidableEq, Repr

/-- The tables whose rows are a machine's state, and go with it. -/
inductive StateTable
  | windowsUpdates | inventoryMemoryModules | inventoryDisks | inventoryVolumes | inventoryNics
  | inventoryGpus | machineSoftware
  deriving DecidableEq, Repr

structure StateRow where
  table : StateTable
  id : ℕ
  machineId : Uuid
  deriving DecidableEq, Repr

structure Tables where
  machines : List Record
  commands : List Command
  threats : List Threat
  interventions : List Intervention
  checks : List MachineCheck
  uptime : Usage.Uptime
  state : List StateRow
  deriving Repr

def commandOwner : Owner Command Uuid := ⟨Command.machineId, fun m c => { c with machineId := m }, fun _ _ => rfl⟩
def threatOwner : Owner Threat Uuid := ⟨Threat.machineId, fun m x => { x with machineId := m }, fun _ _ => rfl⟩
def journalOwner : Owner Intervention Uuid :=
  ⟨Intervention.machineId, fun m i => { i with machineId := m }, fun _ _ => rfl⟩
def checkOwner : Owner MachineCheck Uuid :=
  ⟨MachineCheck.machineId, fun m k => { k with machineId := m }, fun _ _ => rfl⟩
def stateOwner : Owner StateRow Uuid := ⟨StateRow.machineId, fun m r => { r with machineId := m }, fun _ _ => rfl⟩

/-- `uq_threats_machine_detection`; two nulls are not equal. -/
def Distinct (x y : Threat) : Prop :=
  ¬(x.machineId = y.machineId ∧ x.detectionId = y.detectionId ∧ x.detectionId ≠ none)

/-- `uq_machine_checks_open`. -/
def NotBothOpen (k l : MachineCheck) : Prop :=
  ¬(k.machineId = l.machineId ∧ k.closedAt = none ∧ l.closedAt = none)

instance : DecidableRel Distinct := fun x y => by unfold Distinct; infer_instance
instance : DecidableRel NotBothOpen := fun k l => by unfold NotBothOpen; infer_instance

/-! ### The merge -/

/-- Whether the target has the detection of this threat. -/
def collides (threats : List Threat) (targetId : Uuid) (x : Threat) : Bool :=
  threats.any fun t => t.machineId = targetId ∧ t.detectionId = x.detectionId

/-- The `DELETE` of the threats that would collide. -/
def deleteColliding (threats : List Threat) (targetId sourceId : Uuid) : List Threat :=
  threats.filter fun x =>
    !(x.machineId = sourceId && x.detectionId.isSome && collides threats targetId x)

/-- The threats' part; the `UPDATE` meets the unique constraint. -/
def moveThreats (threats : List Threat) (targetId sourceId : Uuid) : Option (List Threat) :=
  let moved := threatOwner.move sourceId targetId (deleteColliding threats targetId sourceId)
  if moved.Pairwise Distinct then some moved else none

/-- `open_for_machine`, with `one_or_none`. -/
def openForMachine (checks : List MachineCheck) (machineId : Uuid) : Option (Option MachineCheck) :=
  match checks.filter fun k => k.machineId = machineId ∧ k.closedAt = none with
  | [] => some none
  | [k] => some (some k)
  | _ => none

/-- What the merge writes on the source's open request. -/
def superseded (now : Time) (k : MachineCheck) : MachineCheck :=
  { k with
    closedAt := some now
    closedBy := some "system"
    closingNote := some "Fermée par la fusion du poste dans un autre."
    updatedAt := now }

/-- The first half of `check_crud.move_to`. -/
def supersede (checks : List MachineCheck) (targetId sourceId : Uuid) (now : Time) :
    Option (List MachineCheck) := do
  let targetOpen ← openForMachine checks targetId
  if targetOpen.isSome then
    let sourceOpen ← openForMachine checks sourceId
    match sourceOpen with
    | none => some checks
    | some k => some (checks.map fun x => if x.id = k.id then superseded now x else x)
  else some checks

/-- `check_crud.move_to`. -/
def moveChecks (checks : List MachineCheck) (targetId sourceId : Uuid) (now : Time) :
    Option (List MachineCheck) := do
  let checks ← supersede checks targetId sourceId now
  let moved := checkOwner.move sourceId targetId checks
  if moved.Pairwise NotBothOpen then some moved else none

/-- The later of two visits. -/
def laterVisit (target source : Option Time) : Option Time :=
  match source, target with
  | none, target => target
  | some s, none => some s
  | some s, some t => if s > t then some s else some t

/-- What the merge writes on the row it keeps. -/
def Record.absorb (target source : Record) (now : Time) : Record where
  toMachine := target.toMachine.absorb source.toMachine now
  roomId := if target.roomId = none then source.roomId else target.roomId
  lastMaintenanceAt := laterVisit target.lastMaintenanceAt source.lastMaintenanceAt

/-- `DELETE FROM machines`: what refers to the row goes with it, or forgets it. -/
def Tables.deleteMachine (db : Tables) (id : Uuid) : Tables where
  machines := db.machines.filter (·.id ≠ id)
  commands := (commandOwner.without id db.commands).map fun c =>
    { c with relayMachineId := c.relayMachineId.filter (· ≠ id) }
  threats := threatOwner.without id db.threats
  interventions := journalOwner.without id db.interventions
  checks := checkOwner.without id db.checks
  uptime := db.uptime.drop fun key => key.1 = id
  state := stateOwner.without id db.state

/-- `merge_into`. -/
def mergeInto (db : Tables) (target source : Record) (now : Time) : Option Tables := do
  let threats ← moveThreats db.threats target.id source.id
  let checks ← moveChecks db.checks target.id source.id now
  let uptime ← Usage.moveTo db.uptime source.id target.id
  some (Tables.deleteMachine
    { machines := db.machines.map fun m => if m.id = target.id then target.absorb source now else m
      commands := commandOwner.move source.id target.id db.commands
      threats := threats
      interventions := journalOwner.move source.id target.id db.interventions
      checks := checks
      uptime := uptime
      state := db.state } source.id)

/-- The constraints of the tables. -/
structure Tables.Wf (db : Tables) : Prop where
  machineKeys : (db.machines.map fun m => m.id).Nodup
  checkKeys : (db.checks.map MachineCheck.id).Nodup
  threats : db.threats.Pairwise Distinct
  checks : db.checks.Pairwise NotBothOpen
  uptime : Usage.Wf db.uptime

/-! ### The threats -/

section Threats

variable {threats : List Threat} {targetId sourceId : Uuid}

/-- What is left of the source's detections is not on the target. -/
lemma not_on_target {x y : Threat} (hx : x ∈ deleteColliding threats targetId sourceId)
    (hs : x.machineId = sourceId) (hd : x.detectionId ≠ none) (hy : y ∈ threats)
    (ht : y.machineId = targetId) : y.detectionId ≠ x.detectionId := by
  intro heq
  have hkeep := (List.mem_filter.mp hx).2
  have hcol : collides threats targetId x = true :=
    List.any_eq_true.mpr ⟨y, hy, by simp [ht, heq]⟩
  have hsome : x.detectionId.isSome = true := Option.isSome_iff_ne_none.mpr hd
  simp [hs, hcol, hsome] at hkeep

lemma moved_detectionId (x : Threat) :
    (threatOwner.moved sourceId targetId x).detectionId = x.detectionId := by
  unfold Owner.moved
  split <;> rfl

/-- The unique constraint holds of what the `UPDATE` writes. -/
lemma moveThreats_eq (h : threats.Pairwise Distinct) :
    moveThreats threats targetId sourceId =
      some (threatOwner.move sourceId targetId (deleteColliding threats targetId sourceId)) := by
  refine if_pos (List.pairwise_map.mpr ?_)
  refine (h.filter _).imp_of_mem fun {x y} hx hy hxy hboth => ?_
  obtain ⟨hm, hd, hnone⟩ := hboth
  rw [moved_detectionId, moved_detectionId] at hd
  rw [moved_detectionId] at hnone
  by_cases hxs : x.machineId = sourceId
  · by_cases hys : y.machineId = sourceId
    · exact hxy ⟨hxs.trans hys.symm, hd, hnone⟩
    · -- `y` is the target's own
      rw [threatOwner.moved_of_eq hxs, threatOwner.moved_of_ne hys] at hm
      exact not_on_target hx hxs hnone (List.mem_filter.mp hy).1 hm.symm hd.symm
  · by_cases hys : y.machineId = sourceId
    · rw [threatOwner.moved_of_ne hxs, threatOwner.moved_of_eq hys] at hm
      exact not_on_target hy hys (hd ▸ hnone) (List.mem_filter.mp hx).1 hm hd
    · rw [threatOwner.moved_of_ne hxs, threatOwner.moved_of_ne hys] at hm
      exact hxy ⟨hm, hd, hnone⟩

/-- What the `DELETE` leaves. -/
lemma mem_deleteColliding {x : Threat} : x ∈ deleteColliding threats targetId sourceId ↔
    x ∈ threats ∧ (x.machineId = sourceId → x.detectionId ≠ none →
      ∀ y ∈ threats, y.machineId = targetId → y.detectionId ≠ x.detectionId) := by
  constructor
  · intro hx
    exact ⟨(List.mem_filter.mp hx).1, fun hs hd y hy ht => not_on_target hx hs hd hy ht⟩
  · rintro ⟨hx, hno⟩
    refine List.mem_filter.mpr ⟨hx, ?_⟩
    by_cases hs : x.machineId = sourceId
    · cases hd : x.detectionId with
      | none => simp
      | some d =>
        have hcol : collides threats targetId x = false := by
          refine List.any_eq_false.mpr fun y hy => ?_
          have := hno hs (by simp [hd]) y hy
          simpa using this
        simp [hcol]
    · simp [hs]

end Threats

/-! ### The requests -/

section Checks

variable {checks : List MachineCheck} {targetId sourceId : Uuid} {now : Time}

/-- Whether a machine has an open request. -/
def hasOpen (checks : List MachineCheck) (machineId : Uuid) : Bool :=
  checks.any fun k => k.machineId = machineId ∧ k.closedAt = none

/-- A request as the merge leaves it, its machine apart. -/
def settled (checks : List MachineCheck) (targetId sourceId : Uuid) (now : Time) (k : MachineCheck) :
    MachineCheck :=
  if hasOpen checks targetId = true ∧ k.machineId = sourceId ∧ k.closedAt = none then superseded now k
  else k

/-- There is one open request, or none, so that `one_or_none` answers. -/
lemma openForMachine_eq (h : checks.Pairwise NotBothOpen) (m : Uuid) :
    (openForMachine checks m = some none ∧ hasOpen checks m = false) ∨
      ∃ k ∈ checks, openForMachine checks m = some (some k) ∧ hasOpen checks m = true ∧
        k.machineId = m ∧ k.closedAt = none ∧
        ∀ l ∈ checks, l.machineId = m → l.closedAt = none → l = k := by
  unfold openForMachine
  have hmem : ∀ l, l ∈ checks.filter (fun k => k.machineId = m ∧ k.closedAt = none) ↔
      l ∈ checks ∧ l.machineId = m ∧ l.closedAt = none := by
    intro l
    rw [List.mem_filter]
    simp
  have hpair := h.filter (fun k => decide (k.machineId = m ∧ k.closedAt = none))
  cases hf : checks.filter (fun k => k.machineId = m ∧ k.closedAt = none) with
  | nil =>
    refine Or.inl ⟨rfl, List.any_eq_false.mpr fun l hl hopen => ?_⟩
    have hin := (hmem l).mpr ⟨hl, by simpa using hopen⟩
    rw [hf] at hin
    cases hin
  | cons k rest =>
    rw [hf] at hmem hpair
    obtain ⟨hk, hkm, hko⟩ := (hmem k).mp List.mem_cons_self
    cases rest with
    | nil =>
      refine Or.inr ⟨k, hk, rfl, List.any_eq_true.mpr ⟨k, hk, by simp [hkm, hko]⟩, hkm, hko, ?_⟩
      intro l hl hlm hlo
      exact List.mem_singleton.mp ((hmem l).mpr ⟨hl, hlm, hlo⟩)
    | cons l rest =>
      obtain ⟨hl, hlm, hlo⟩ := (hmem l).mp (List.mem_cons_of_mem _ List.mem_cons_self)
      exact absurd ⟨hkm.trans hlm.symm, hko, hlo⟩ ((List.pairwise_cons.mp hpair).1 l List.mem_cons_self)

lemma supersede_eq (hkeys : (checks.map MachineCheck.id).Nodup) (h : checks.Pairwise NotBothOpen) :
    supersede checks targetId sourceId now = some (checks.map (settled checks targetId sourceId now)) := by
  unfold supersede
  rcases openForMachine_eq h targetId with ⟨ht, hno⟩ | ⟨kt, -, ht, hyes, -⟩
  · have hid : checks.map (settled checks targetId sourceId now) = checks := by
      refine List.map_id'' (fun k => ?_) checks
      exact if_neg fun hc => by rw [hno] at hc; cases hc.1
    rw [ht, hid]
    rfl
  · rcases openForMachine_eq h sourceId with ⟨hs, hno⟩ | ⟨ks, hks, hs, -, hksm, hkso, honly⟩
    · have hid : checks.map (settled checks targetId sourceId now) = checks := by
        refine (List.map_congr_left fun k hk => ?_).trans (List.map_id checks)
        refine if_neg fun hc => ?_
        have := List.any_eq_false.mp hno k hk
        simp [hc.2.1, hc.2.2] at this
      rw [ht, hid]
      change (openForMachine checks sourceId >>= _) = _
      rw [hs]
      rfl
    · rw [ht]
      change (openForMachine checks sourceId >>= _) = _
      rw [hs]
      refine congrArg some (List.map_congr_left fun k hk => ?_)
      unfold settled
      by_cases hid : k.id = ks.id
      · have hkk : k = ks := List.inj_on_of_nodup_map hkeys hk hks hid
        rw [if_pos hid, if_pos ⟨hyes, hkk ▸ hksm, hkk ▸ hkso⟩]
      · rw [if_neg hid, if_neg]
        intro hc
        exact hid (congrArg MachineCheck.id (honly k hk hc.2.1 hc.2.2))

lemma settled_machineId (k : MachineCheck) :
    (settled checks targetId sourceId now k).machineId = k.machineId := by
  unfold settled
  split <;> rfl

/-- What is still open was not superseded. -/
lemma settled_open {k : MachineCheck} (h : (settled checks targetId sourceId now k).closedAt = none) :
    k.closedAt = none ∧ (k.machineId = sourceId → hasOpen checks targetId = false) := by
  unfold settled at h
  split at h
  · cases h
  · rename_i hno
    refine ⟨h, fun hs => ?_⟩
    cases ho : hasOpen checks targetId with
    | false => rfl
    | true => exact absurd ⟨ho, hs, h⟩ hno

lemma moved_settled (k : MachineCheck) :
    checkOwner.moved sourceId targetId (settled checks targetId sourceId now k) =
      { settled checks targetId sourceId now k with
        machineId := if k.machineId = sourceId then targetId else k.machineId } := by
  by_cases hs : k.machineId = sourceId
  · rw [if_pos hs, checkOwner.moved_of_eq ((settled_machineId k).trans hs)]
    rfl
  · rw [if_neg hs, checkOwner.moved_of_ne fun he => hs ((settled_machineId k).symm.trans he),
      ← settled_machineId k]

lemma moved_closedAt (k : MachineCheck) :
    (checkOwner.moved sourceId targetId k).closedAt = k.closedAt := by
  unfold Owner.moved
  split <;> rfl

/-- The target has no open request while one of the source's is left. -/
lemma target_closed {k l : MachineCheck} (hs : k.machineId = sourceId)
    (ho : (settled checks targetId sourceId now k).closedAt = none) (hl : l ∈ checks)
    (ht : l.machineId = targetId) : l.closedAt ≠ none := by
  intro hlo
  have hno := (settled_open ho).2 hs
  have := List.any_eq_false.mp hno l hl
  simp [ht, hlo] at this

/-- The partial index holds of what the `UPDATE` writes. -/
lemma moved_notBothOpen (h : checks.Pairwise NotBothOpen) :
    (checkOwner.move sourceId targetId (checks.map (settled checks targetId sourceId now))).Pairwise
      NotBothOpen := by
  refine List.pairwise_map.mpr (List.pairwise_map.mpr (h.imp_of_mem fun {k l} hk hl hkl hboth => ?_))
  obtain ⟨hm, hko, hlo⟩ := hboth
  rw [moved_closedAt] at hko hlo
  have hko' := (settled_open hko).1
  have hlo' := (settled_open hlo).1
  rw [moved_settled, moved_settled] at hm
  dsimp only at hm
  by_cases hks : k.machineId = sourceId
  · by_cases hls : l.machineId = sourceId
    · exact hkl ⟨hks.trans hls.symm, hko', hlo'⟩
    · -- `l` is the target's own
      rw [if_pos hks, if_neg hls] at hm
      exact target_closed hks hko hl hm.symm hlo'
  · by_cases hls : l.machineId = sourceId
    · rw [if_neg hks, if_pos hls] at hm
      exact target_closed hls hlo hk hm hko'
    · rw [if_neg hks, if_neg hls] at hm
      exact hkl ⟨hm, hko', hlo'⟩

lemma moveChecks_eq (hkeys : (checks.map MachineCheck.id).Nodup) (h : checks.Pairwise NotBothOpen) :
    moveChecks checks targetId sourceId now = some (checkOwner.move sourceId targetId
      (checks.map (settled checks targetId sourceId now))) := by
  unfold moveChecks
  rw [supersede_eq hkeys h]
  exact if_pos (moved_notBothOpen h)

end Checks

/-! ### What is asked of it -/

/-- What a merge makes of the tables `db`. -/
structure Conserved (db : Tables) (target source : Record) (now : Time) (db' : Tables) : Prop where
  /-- Every command is there, under its machine, and otherwise as it was but for a relay that is gone. -/
  commands : ∀ c ∈ db.commands,
    { c with
      machineId := if c.machineId = source.id then target.id else c.machineId
      relayMachineId := c.relayMachineId.filter (· ≠ source.id) } ∈ db'.commands
  commandIds : db'.commands.map Command.id = db.commands.map Command.id
  interventions : ∀ i ∈ db.interventions,
    { i with machineId := if i.machineId = source.id then target.id else i.machineId } ∈
      db'.interventions
  interventionIds : db'.interventions.map Intervention.id = db.interventions.map Intervention.id
  /-- And so is every request, the source's open one closed if the target has one. -/
  checks : ∀ k ∈ db.checks,
    { (if hasOpen db.checks target.id = true ∧ k.machineId = source.id ∧ k.closedAt = none then
        superseded now k else k) with
      machineId := if k.machineId = source.id then target.id else k.machineId } ∈ db'.checks
  checkIds : db'.checks.map MachineCheck.id = db.checks.map MachineCheck.id
  oneOpen : ∀ k ∈ db'.checks, ∀ l ∈ db'.checks, k.machineId = target.id → l.machineId = target.id →
    k.closedAt = none → l.closedAt = none → k = l
  /-- Each detection the two had is on the target once. -/
  detections : ∀ d, (∃ x ∈ db.threats, (x.machineId = target.id ∨ x.machineId = source.id) ∧
      x.detectionId = some d) →
    (db'.threats.filter fun x => x.machineId = target.id ∧ x.detectionId = some d).length = 1
  /-- The target's own row wins, and so does every other machine's. -/
  ownThreats : ∀ x ∈ db.threats, x.machineId ≠ source.id → x ∈ db'.threats
  unidentified : ∀ x ∈ db.threats, x.machineId = source.id → x.detectionId = none →
    { x with machineId := target.id } ∈ db'.threats
  carried : ∀ x ∈ db.threats, x.machineId = source.id →
    (∀ y ∈ db.threats, y.machineId = target.id → y.detectionId ≠ x.detectionId) →
    { x with machineId := target.id } ∈ db'.threats
  threatIds : (db'.threats.map Threat.id).Sublist (db.threats.map Threat.id)
  seconds : ∀ h, db'.uptime.amount (target.id, h) =
    min 3600 (db.uptime.amount (target.id, h) + db.uptime.amount (source.id, h))
  kept : ∃ m ∈ db'.machines, m.id = target.id ∧ m.lastSeen = max target.lastSeen source.lastSeen ∧
    ∀ v : ℤ, m.lastMaintenanceAt = some v ↔ IsGreatest
      {v : ℤ | target.lastMaintenanceAt = some v ∨ source.lastMaintenanceAt = some v} v
  /-- Nothing refers to the source. -/
  gone : (∀ m ∈ db'.machines, m.id ≠ source.id) ∧
    (∀ c ∈ db'.commands, c.machineId ≠ source.id ∧ c.relayMachineId ≠ some source.id) ∧
    (∀ x ∈ db'.threats, x.machineId ≠ source.id) ∧
    (∀ i ∈ db'.interventions, i.machineId ≠ source.id) ∧
    (∀ k ∈ db'.checks, k.machineId ≠ source.id) ∧
    (∀ key ∈ db'.uptime.keys, key.1 ≠ source.id) ∧ ∀ r ∈ db'.state, r.machineId ≠ source.id

/-- There is no visit, or the later one. -/
lemma laterVisit_cases (t s : Option Time) : (laterVisit t s = none ∧ t = none ∧ s = none) ∨
    ∃ v : ℤ, laterVisit t s = some v ∧ IsGreatest {v : ℤ | t = some v ∨ s = some v} v := by
  rcases s with _ | s
  · rcases t with _ | t
    · exact Or.inl ⟨rfl, rfl, rfl⟩
    · refine Or.inr ⟨t, rfl, Or.inl rfl, ?_⟩
      rintro w (hw | hw) <;> cases hw
      exact Int.le_refl t
  · rcases t with _ | t
    · refine Or.inr ⟨s, rfl, Or.inr rfl, ?_⟩
      rintro w (hw | hw) <;> cases hw
      exact Int.le_refl s
    · right
      by_cases h : s > t
      · refine ⟨s, if_pos h, Or.inr rfl, ?_⟩
        rintro w (hw | hw) <;> cases hw
        · exact Int.le_of_lt h
        · exact Int.le_refl s
      · refine ⟨t, if_neg h, Or.inl rfl, ?_⟩
        rintro w (hw | hw) <;> cases hw
        · exact Int.le_refl t
        · exact Int.not_lt.mp h

lemma laterVisit_eq_some (t s : Option Time) (v : ℤ) : laterVisit t s = some v ↔
    IsGreatest {v : ℤ | t = some v ∨ s = some v} v := by
  rcases laterVisit_cases t s with ⟨h, rfl, rfl⟩ | ⟨w, h, hw⟩
  · refine ⟨fun hv => ?_, fun hv => ?_⟩
    · rw [h] at hv
      cases hv
    · rcases hv.1 with hv | hv <;> cases hv
  · rw [h]
    refine ⟨fun hv => Option.some.inj hv ▸ hw, fun hv => ?_⟩
    rw [hw.unique hv]

/-! ### The law -/

section Law

variable {db : Tables} {target source : Record} {now : Time}

lemma max_lastSeen (t s : ℤ) : (if s > t then s else t) = max t s := by
  split <;> omega

/-- A detection is on the target, its own row or the source's. -/
lemma exists_moved_detection (hne : target.id ≠ source.id) {d : String}
    (hd : ∃ x ∈ db.threats, (x.machineId = target.id ∨ x.machineId = source.id) ∧
      x.detectionId = some d) :
    ∃ x ∈ threatOwner.move source.id target.id (deleteColliding db.threats target.id source.id),
      x.machineId = target.id ∧ x.detectionId = some d := by
  by_cases htarget : ∃ y ∈ db.threats, y.machineId = target.id ∧ y.detectionId = some d
  · obtain ⟨y, hy, hyt, hyd⟩ := htarget
    have hys : y.machineId ≠ source.id := hyt ▸ hne
    exact ⟨y, threatOwner.mem_move_of_ne
      (mem_deleteColliding.mpr ⟨hy, fun hs => absurd hs hys⟩) hys, hyt, hyd⟩
  · obtain ⟨x, hx, hxm, hxd⟩ := hd
    have hxs : x.machineId = source.id := by
      rcases hxm with ht | hs
      · exact absurd ⟨x, hx, ht, hxd⟩ htarget
      · exact hs
    refine ⟨_, threatOwner.give_mem_move (mem_deleteColliding.mpr ⟨hx, fun _ _ y hy hyt hyd => ?_⟩) hxs,
      rfl, hxd⟩
    exact htarget ⟨y, hy, hyt, hyd.trans hxd⟩

/-- And it is there once. -/
lemma moved_detection (h : db.threats.Pairwise Distinct) (hne : target.id ≠ source.id) {d : String}
    (hd : ∃ x ∈ db.threats, (x.machineId = target.id ∨ x.machineId = source.id) ∧
      x.detectionId = some d) {moved : List Threat}
    (hm : moveThreats db.threats target.id source.id = some moved) :
    (moved.filter fun x => x.machineId = target.id ∧ x.detectionId = some d).length = 1 := by
  have hunique : moved.Pairwise Distinct := by
    unfold moveThreats at hm
    dsimp only at hm
    split at hm
    · rename_i hp
      exact Option.some.inj hm ▸ hp
    · cases hm
  rw [moveThreats_eq h] at hm
  obtain rfl := Option.some.inj hm
  obtain ⟨x, hx, hxt, hxd⟩ := exists_moved_detection hne hd
  have hpair := hunique.filter (fun x => decide (x.machineId = target.id ∧ x.detectionId = some d))
  have hmem : ∀ y, y ∈ (threatOwner.move source.id target.id
      (deleteColliding db.threats target.id source.id)).filter
        (fun x => x.machineId = target.id ∧ x.detectionId = some d) ↔
      y ∈ threatOwner.move source.id target.id (deleteColliding db.threats target.id source.id) ∧
        y.machineId = target.id ∧ y.detectionId = some d := by
    intro y
    rw [List.mem_filter]
    simp
  have hin := (hmem x).mpr ⟨hx, hxt, hxd⟩
  generalize (threatOwner.move source.id target.id
    (deleteColliding db.threats target.id source.id)).filter
      (fun x => x.machineId = target.id ∧ x.detectionId = some d) = l at hmem hpair hin ⊢
  rcases l with _ | ⟨y, _ | ⟨z, rest⟩⟩
  · cases hin
  · rfl
  · obtain ⟨-, hym, hyd⟩ := (hmem y).mp List.mem_cons_self
    obtain ⟨-, hzm, hzd⟩ := (hmem z).mp (List.mem_cons_of_mem _ List.mem_cons_self)
    have hyz := (List.pairwise_cons.mp hpair).1 z List.mem_cons_self
    exact absurd ⟨hym.trans hzm.symm, hyd.trans hzd.symm, by simp [hyd]⟩ hyz

/-- The tables a merge leaves: no statement has failed, and nothing of the source's history is left for
its deletion to take along. -/
theorem mergeInto_eq (now : Time) (hwf : db.Wf) (hne : target.id ≠ source.id) :
    ∃ uptime, Usage.moveTo db.uptime source.id target.id = some uptime ∧
      mergeInto db target source now = some
        { machines := (db.machines.map fun m =>
            if m.id = target.id then target.absorb source now else m).filter (·.id ≠ source.id)
          commands := (commandOwner.move source.id target.id db.commands).map fun c =>
            { c with relayMachineId := c.relayMachineId.filter (· ≠ source.id) }
          threats := threatOwner.move source.id target.id
            (deleteColliding db.threats target.id source.id)
          interventions := journalOwner.move source.id target.id db.interventions
          checks := checkOwner.move source.id target.id
            (db.checks.map (settled db.checks target.id source.id now))
          uptime := uptime.drop fun key => key.1 = source.id
          state := stateOwner.without source.id db.state } := by
  obtain ⟨uptime, hu, -⟩ := Usage.moveTo_eq hwf.uptime hne
  refine ⟨uptime, hu, ?_⟩
  simp only [mergeInto, moveThreats_eq hwf.threats, moveChecks_eq hwf.checkKeys hwf.checks, hu,
    Option.bind_eq_bind, Option.bind_some, Tables.deleteMachine, commandOwner.without_move hne,
    threatOwner.without_move hne, journalOwner.without_move hne, checkOwner.without_move hne]

/-- The queue's part of a merge is the one its own model has. -/
lemma moved_commands (db : Tables) (targetId sourceId : Uuid) :
    ((commandOwner.move sourceId targetId db.commands).map fun c =>
      { c with relayMachineId := c.relayMachineId.filter (· ≠ sourceId) }) =
    db.commands.map (mergeRow targetId sourceId) := by
  unfold Owner.move
  rw [List.map_map]
  refine List.map_congr_left fun c _ => ?_
  unfold Function.comp mergeRow
  by_cases hs : c.machineId = sourceId
  · rw [commandOwner.moved_of_eq hs, if_pos hs]
    rfl
  · rw [commandOwner.moved_of_ne hs, if_neg hs]

lemma mem_moved_commands (c : Command) (hc : c ∈ db.commands) :
    { c with
      machineId := if c.machineId = source.id then target.id else c.machineId
      relayMachineId := c.relayMachineId.filter (· ≠ source.id) } ∈
    (commandOwner.move source.id target.id db.commands).map fun c =>
      { c with relayMachineId := c.relayMachineId.filter (· ≠ source.id) } := by
  rw [moved_commands]
  exact List.mem_map_of_mem hc

lemma mem_moved_interventions (i : Intervention) (hi : i ∈ db.interventions) :
    { i with machineId := if i.machineId = source.id then target.id else i.machineId } ∈
      journalOwner.move source.id target.id db.interventions := by
  by_cases hs : i.machineId = source.id
  · rw [if_pos hs]
    exact journalOwner.give_mem_move hi hs
  · rw [if_neg hs]
    exact journalOwner.mem_move_of_ne hi hs

lemma mem_moved_checks (k : MachineCheck) (hk : k ∈ db.checks) :
    { settled db.checks target.id source.id now k with
      machineId := if k.machineId = source.id then target.id else k.machineId } ∈
    checkOwner.move source.id target.id (db.checks.map (settled db.checks target.id source.id now)) := by
  rw [← moved_settled]
  exact List.mem_map_of_mem (List.mem_map_of_mem hk)

instance : Std.Symm NotBothOpen where
  symm _ _ h hboth := h ⟨hboth.1.symm, hboth.2.2, hboth.2.1⟩

/-- **A merge conserves the history.**  From tables that keep their constraints, for two machines of the
parc: no statement fails, and every row is where it belongs. -/
theorem mergeInto_conserves (db : Tables) (target source : Record) (now : Time) (hwf : db.Wf)
    (htarget : target ∈ db.machines) (hne : target.id ≠ source.id) :
    ∃ db', mergeInto db target source now = some db' ∧ Conserved db target source now db' := by
  obtain ⟨uptime, hu, hmerge⟩ := mergeInto_eq now hwf hne
  obtain ⟨u, hu', hseconds, hgone, -⟩ := Usage.moveTo_eq hwf.uptime hne
  obtain rfl : u = uptime := Option.some.inj (hu'.symm.trans hu)
  refine ⟨_, hmerge, ?_⟩
  refine
    { commands := mem_moved_commands
      commandIds := ?_
      interventions := mem_moved_interventions
      interventionIds := journalOwner.map_move Intervention.id fun _ => rfl
      checks := mem_moved_checks
      checkIds := ?_
      oneOpen := ?_
      detections := fun d hd => moved_detection hwf.threats hne hd (moveThreats_eq hwf.threats)
      ownThreats := ?_
      unidentified := ?_
      carried := ?_
      threatIds := ?_
      seconds := ?_
      kept := ?_
      gone := ?_ }
  · rw [List.map_map]
    exact commandOwner.map_move Command.id fun _ => rfl
  · rw [checkOwner.map_move MachineCheck.id fun _ => rfl, List.map_map]
    refine List.map_congr_left fun k _ => ?_
    unfold Function.comp settled
    split <;> rfl
  · intro k hk l hl hkt hlt hko hlo
    by_contra hkl
    exact (moved_notBothOpen hwf.checks).forall hk hl hkl ⟨hkt.trans hlt.symm, hko, hlo⟩
  · intro x hx hxs
    exact threatOwner.mem_move_of_ne
      (mem_deleteColliding.mpr ⟨hx, fun hs => absurd hs hxs⟩) hxs
  · intro x hx hxs hnone
    exact threatOwner.give_mem_move
      (mem_deleteColliding.mpr ⟨hx, fun _ hd => absurd hnone hd⟩) hxs
  · intro x hx hxs hno
    exact threatOwner.give_mem_move (mem_deleteColliding.mpr ⟨hx, fun _ _ => hno⟩) hxs
  · rw [threatOwner.map_move Threat.id fun _ => rfl]
    exact List.filter_sublist.map _
  · intro h
    have hdrop : (u.drop fun key => key.1 = source.id).amount (target.id, h) =
        u.amount (target.id, h) := by
      unfold Store.amount
      rw [Store.get_drop, if_neg (by simpa using hne)]
    rw [hdrop]
    exact hseconds h
  · refine ⟨target.absorb source now, ?_, rfl, max_lastSeen _ _, laterVisit_eq_some _ _⟩
    refine List.mem_filter.mpr ⟨List.mem_map.mpr ⟨target, htarget, if_pos rfl⟩, ?_⟩
    simpa [Record.absorb, Machine.absorb] using hne
  · refine ⟨fun m hm => by simpa using (List.mem_filter.mp hm).2, fun c hc => ?_,
      fun x hx => threatOwner.move_ne hne hx, fun i hi => journalOwner.move_ne hne hi,
      fun k hk => checkOwner.move_ne hne hk, fun key hkey => ?_,
      fun r hr => (stateOwner.mem_without.mp hr).2⟩
    · obtain ⟨x, hx, rfl⟩ := List.mem_map.mp hc
      refine ⟨commandOwner.move_ne hne hx, fun hrelay => ?_⟩
      have := (Option.filter_eq_some_iff.mp hrelay).2
      simp at this
    · have hkey : key ∈ (u.drop fun key => key.1 = source.id).keys := hkey
      simpa using Store.mem_keys_drop hkey

end Law

/-! ### A parc of three records -/

def record (id : Uuid) : Record where
  toMachine := .new id "uuid" 0
  roomId := none
  lastMaintenanceAt := none

def detection (id : ℕ) (machineId : Uuid) (detectionId : Option String) : Threat :=
  ⟨id, machineId, detectionId, none, none, none, none, none, none⟩

def openCheck (id machineId : Uuid) : MachineCheck :=
  ⟨id, machineId, "admin", none, none, 0, 0, none, none, none⟩

/-- A wake of the first record that the second one relays. -/
def wake (machineId : Uuid) : Command :=
  { Command.new 10 machineId .wakeOnLan none 0 1 none with relayMachineId := some 2 }

/-- Two of the records have the same detection, an open request and an hour in common. -/
def duplicated : Tables where
  machines := [record 1, record 2, record 3]
  commands := [wake 1]
  threats := [detection 1 1 (some "d"), detection 2 2 (some "d"), detection 3 1 none]
  interventions := []
  checks := [openCheck 20 1, openCheck 21 2]
  uptime := [((1, 0), 2000), ((2, 0), 2000)]
  state := [⟨.windowsUpdates, 1, 1⟩]

lemma duplicated_wf : duplicated.Wf where
  machineKeys := by decide
  checkKeys := by decide
  threats := by decide
  checks := by decide
  uptime := ⟨by decide, by decide⟩

/-- The first record is merged into the second. -/
theorem mergeInto_conserves_duplicated :
    ∃ db', mergeInto duplicated (record 2) (record 1) 5 = some db' ∧
      Conserved duplicated (record 2) (record 1) 5 db' :=
  mergeInto_conserves duplicated (record 2) (record 1) 5 duplicated_wf (by decide) (by decide)

/-- What that leaves of the wake: the second record's, relayed by it. -/
def relayed : Tables :=
  { machines := [record 2, record 3]
    commands := [wake 2]
    threats := []
    interventions := []
    checks := []
    uptime := []
    state := [] }

example : (mergeInto duplicated (record 2) (record 1) 5).map Tables.commands = some relayed.commands := by
  decide

/-- **A relay that is gone.**  The second record is merged into the third: the wake it relayed, and holds
since the first merge, loses its relay and not its machine alone. -/
theorem merge_relayed :
    ¬∀ (db : Tables) (target source : Record) (now : Time), db.Wf → target ∈ db.machines →
      source ∈ db.machines → target.id ≠ source.id →
      ∀ db', mergeInto db target source now = some db' →
        ∀ c ∈ db.commands, c.machineId = source.id →
          { c with machineId := target.id } ∈ db'.commands := by
  intro h
  have hwf : relayed.Wf :=
    ⟨by decide, by decide, List.Pairwise.nil, List.Pairwise.nil, ⟨by decide, by decide⟩⟩
  have hc := h relayed (record 3) (record 2) 5 hwf (by decide) (by decide) (by decide) _ rfl (wake 2)
    (by decide) rfl
  exact absurd hc (by decide)

end Tiai.Merge
