import Mathlib.Data.Int.Order.Basic
import Mathlib.Data.Option.NAry
import Tiai.Base
import Tiai.Lib.Sql

/-!
# When a poste's maintenance is due

`features/maintenance/policy.py` writes one rule twice: `resolve` in Python, for the payloads, and
`due_expr` and `state_clause` in SQL, for the filters and the counts, over the machines left-joined with
their rooms.

* `resolve` — the rule on values, with Python's `None`;
* `dueExpr`, `stateClause` — the rule on columns, with SQL's nulls;
* `resolve_agrees` — they say the same, and the four states are a partition;
* `counts_add_up` — the four counts of a fleet add up to its machines.
-/

namespace Tiai.Maintenance

open Lib

inductive MaintenanceState
  | excluded
  | overdue
  | dueSoon
  | ok
  deriving DecidableEq, Repr

/-- `Origin`: the level a resolved value came from. -/
inductive Origin
  | machine
  | room
  | global
  deriving DecidableEq, Repr

/-- A row of `machines`: the columns of its maintenance. -/
structure Machine where
  roomId : Option Uuid
  maintenanceCycleDays : Option ℤ
  maintenanceOwnerId : Option Uuid
  lastMaintenanceAt : Option Time
  firstSeen : Time
  deriving DecidableEq, Repr

/-- A row of `rooms`. -/
structure Room where
  id : Uuid
  maintenanceCycleDays : Option ℤ
  maintenanceOwnerId : Option Uuid
  deriving DecidableEq, Repr

structure MaintenancePolicy where
  cycleDays : ℤ
  ownerId : Option Uuid
  dueSoonDays : ℤ
  deriving DecidableEq, Repr

structure Resolved where
  cycleDays : ℤ
  cycleOrigin : Origin
  ownerId : Option Uuid
  ownerOrigin : Origin
  dueAt : Option Time
  state : MaintenanceState
  deriving DecidableEq, Repr

/-- `timedelta(days=n)`, and the interval of `make_interval(0, 0, 0, n)` in UTC. -/
def dayspan (n : ℤ) : ℤ := n * 86400000000

/-! ### In Python -/

section Python

variable (machine : Machine) (room : Option Room) (policy : MaintenancePolicy)

/-- The most specific level that has a value. -/
def level {α : Type} (machine room : Option α) : Option (α × Origin) :=
  match machine, room with
  | some a, _ => some (a, .machine)
  | none, some a => some (a, .room)
  | none, none => none

def resolvedCycle : ℤ × Origin :=
  (level machine.maintenanceCycleDays (room.bind Room.maintenanceCycleDays)).getD
    (policy.cycleDays, .global)

def resolvedOwner : Option Uuid × Origin :=
  match level machine.maintenanceOwnerId (room.bind Room.maintenanceOwnerId) with
  | some (owner, origin) => (some owner, origin)
  | none => (policy.ownerId, .global)

/-- `resolve`. -/
def resolve (now : Time) : Resolved :=
  let cycle := resolvedCycle machine room policy
  let owner := resolvedOwner machine room policy
  if cycle.1 ≤ 0 then ⟨cycle.1, cycle.2, owner.1, owner.2, none, .excluded⟩
  else
    let due := machine.lastMaintenanceAt.getD machine.firstSeen + dayspan cycle.1
    let state :=
      if due < now then MaintenanceState.overdue
      else if due - dayspan policy.dueSoonDays ≤ now then .dueSoon
      else .ok
    ⟨cycle.1, cycle.2, owner.1, owner.2, some due, state⟩

end Python

/-! ### In SQL -/

section Columns

variable (policy : MaintenancePolicy) (machine : Machine) (room : Option Room)

/-- `cycle_expr`; without a room, the outer join has nulls for its columns. -/
def cycleExpr : Option ℤ :=
  Sql.coalesce machine.maintenanceCycleDays
    (Sql.coalesce (room.bind Room.maintenanceCycleDays) (some policy.cycleDays))

/-- `x <= y`. -/
def le (x y : Option ℤ) : Sql.Truth := Sql.compare (fun a b => a ≤ b) x y

/-- `x < y`. -/
def lt (x y : Option ℤ) : Sql.Truth := Sql.compare (fun a b => a < b) x y

/-- `due_expr`. -/
def dueExpr : Option Time :=
  let reference := Sql.coalesce machine.lastMaintenanceAt (some machine.firstSeen)
  let cycle := cycleExpr policy machine room
  Sql.caseWhen (le cycle (some 0)) none
    (Option.map₂ (· + ·) reference (cycle.map dayspan))

/-- `state_clause`. -/
def stateClause (state : MaintenanceState) (now : Time) : Sql.Truth :=
  let cycle := cycleExpr policy machine room
  let due := dueExpr policy machine room
  let soon := some (now + dayspan policy.dueSoonDays)
  match state with
  | .excluded => le cycle (some 0)
  | .overdue => (lt (some 0) cycle).and (lt due (some now))
  | .dueSoon => ((lt (some 0) cycle).and (le (some now) due)).and (le due soon)
  | .ok => (lt (some 0) cycle).and (lt soon due)

end Columns

/-! ### One rule -/

section Agree

variable {machine : Machine} {room : Option Room} {policy : MaintenancePolicy} {now : Time}

@[simp] lemma le_some {a b : ℤ} : le (some a) (some b) = some true ↔ a ≤ b := by
  simp [le, Sql.compare]

@[simp] lemma lt_some {a b : ℤ} : lt (some a) (some b) = some true ↔ a < b := by
  simp [lt, Sql.compare]

@[simp] lemma lt_none {a : ℤ} : lt none (some a) ≠ some true := by
  simp [lt, Sql.compare]

/-- The columns coalesce to the level that is resolved: never null. -/
lemma cycleExpr_eq : cycleExpr policy machine room = some (resolvedCycle machine room policy).1 := by
  unfold cycleExpr resolvedCycle
  cases machine.maintenanceCycleDays with
  | some cycle => rfl
  | none =>
    cases room.bind Room.maintenanceCycleDays with
    | some cycle => rfl
    | none => rfl

lemma dueExpr_excluded (h : (resolvedCycle machine room policy).1 ≤ 0) :
    dueExpr policy machine room = none := by
  simp only [dueExpr, cycleExpr_eq, Sql.caseWhen, le_some]
  exact if_pos h

lemma dueExpr_due (h : ¬(resolvedCycle machine room policy).1 ≤ 0) :
    dueExpr policy machine room = some (machine.lastMaintenanceAt.getD machine.firstSeen +
      dayspan (resolvedCycle machine room policy).1) := by
  simp only [dueExpr, cycleExpr_eq, Sql.caseWhen, le_some]
  rw [if_neg h]
  cases machine.lastMaintenanceAt with
  | none => rfl
  | some last => rfl

/-- The due date is the same on both sides. -/
lemma resolve_due : (resolve machine room policy now).dueAt = dueExpr policy machine room := by
  unfold resolve
  by_cases h : (resolvedCycle machine room policy).1 ≤ 0
  · rw [dueExpr_excluded h]
    simp only [if_pos h]
  · rw [dueExpr_due h]
    simp only [if_neg h]

lemma stateClause_excluded (h : (resolvedCycle machine room policy).1 ≤ 0) (s : MaintenanceState) :
    stateClause policy machine room s now = some true ↔ s = .excluded := by
  have hpositive : ¬0 < (resolvedCycle machine room policy).1 := by omega
  unfold stateClause
  simp only [cycleExpr_eq]
  cases s with
  | excluded => simp [h]
  | overdue => simp [hpositive]
  | dueSoon => simp [hpositive]
  | ok => simp [hpositive]

/-- What the clauses say of a poste with a cycle. -/
lemma stateClause_due (h : ¬(resolvedCycle machine room policy).1 ≤ 0) {due : ℤ}
    (hdue : dueExpr policy machine room = some due) (s : MaintenanceState) :
    stateClause policy machine room s now = some true ↔ match s with
      | .excluded => False
      | .overdue => due < now
      | .dueSoon => now ≤ due ∧ due ≤ now + dayspan policy.dueSoonDays
      | .ok => now + dayspan policy.dueSoonDays < due := by
  have hpositive : 0 < (resolvedCycle machine room policy).1 := by omega
  unfold stateClause
  simp only [cycleExpr_eq, hdue]
  cases s with
  | excluded => simp [h]
  | overdue => simp [hpositive]
  | dueSoon => simp [hpositive]
  | ok => simp [hpositive]

/-- The bounds of the two sides meet: `due - soon ≤ now` is `due ≤ now + soon`. -/
lemma state_of_due {due now soon : ℤ} (hsoon : 0 ≤ soon) (s : MaintenanceState) :
    (if due < now then MaintenanceState.overdue else if due - soon ≤ now then .dueSoon else .ok) = s ↔
      match s with
      | .excluded => False
      | .overdue => due < now
      | .dueSoon => now ≤ due ∧ due ≤ now + soon
      | .ok => now + soon < due := by
  rcases Int.lt_or_le due now with hover | hnow
  · rw [if_pos hover]
    cases s with
    | excluded => simp
    | overdue => simpa using hover
    | dueSoon =>
      have : ¬now ≤ due := by omega
      simp [this]
    | ok =>
      have : ¬now + soon < due := by omega
      simp [this]
  · rw [if_neg (Int.not_lt.2 hnow)]
    rcases Int.lt_or_le now (due - soon) with hfar | hnear
    · have hfar' : now + soon < due := by omega
      rw [if_neg (Int.not_le.2 hfar)]
      cases s with
      | excluded => simp
      | overdue => simpa using hnow
      | dueSoon => simpa [hnow] using hfar'
      | ok => simpa using hfar'
    · have hnear' : due ≤ now + soon := by omega
      rw [if_pos hnear]
      cases s with
      | excluded => simp
      | overdue => simpa using hnow
      | dueSoon => simpa [hnow] using hnear'
      | ok => simpa using hnear'

/-- The state is the one whose clause is true. -/
lemma resolve_state (hsoon : 0 ≤ policy.dueSoonDays) (s : MaintenanceState) :
    (resolve machine room policy now).state = s ↔ stateClause policy machine room s now = some true := by
  by_cases h : (resolvedCycle machine room policy).1 ≤ 0
  · rw [stateClause_excluded h]
    unfold resolve
    simp only [if_pos h]
    exact eq_comm
  · have hspan : 0 ≤ dayspan policy.dueSoonDays := by
      unfold dayspan
      omega
    rw [stateClause_due h (dueExpr_due h), ← state_of_due hspan]
    unfold resolve
    simp only [if_neg h]

/-- **One rule.**  The state resolved is the one whose clause is true, and only that one's is; the due date
is the column's. -/
theorem resolve_agrees (machine : Machine) (room : Option Room) (policy : MaintenancePolicy) (now : Time)
    (hsoon : 0 ≤ policy.dueSoonDays) :
    (∀ s, (resolve machine room policy now).state = s ↔
      stateClause policy machine room s now = some true) ∧
    (resolve machine room policy now).dueAt = dueExpr policy machine room ∧
    ∃! s, stateClause policy machine room s now = some true := by
  refine ⟨resolve_state hsoon, resolve_due, (resolve machine room policy now).state, ?_, ?_⟩
  · exact (resolve_state hsoon _).1 rfl
  · intro s hs
    exact ((resolve_state hsoon s).2 hs).symm

/-- The room's cycle overrides the parc's, and the due instant itself is due soon, not overdue. -/
theorem resolve_agrees_room :
    let machine : Machine := ⟨some 3, none, none, none, 0⟩
    let room : Room := ⟨3, some 30, none⟩
    let policy : MaintenancePolicy := ⟨90, some 7, 14⟩
    (∀ s, (resolve machine (some room) policy (dayspan 30)).state = s ↔
      stateClause policy machine (some room) s (dayspan 30) = some true) ∧
    (resolve machine (some room) policy (dayspan 30)).dueAt = dueExpr policy machine (some room) ∧
    (∃! s, stateClause policy machine (some room) s (dayspan 30) = some true) ∧
    resolve machine (some room) policy (dayspan 30) =
      ⟨30, .room, some 7, .global, some (dayspan 30), .dueSoon⟩ := by
  obtain ⟨hstate, hdue, hone⟩ := resolve_agrees ⟨some 3, none, none, none, 0⟩ (some ⟨3, some 30, none⟩)
    ⟨90, some 7, 14⟩ (dayspan 30) (by decide)
  exact ⟨hstate, hdue, hone, by decide⟩

end Agree

/-! ### The counts -/

/-- `Room.id = Machine.room_id`. -/
def inRoom (machine : Machine) (room : Room) : Sql.Truth := Sql.eq (some room.id) machine.roomId

/-- The machines beside their rooms. -/
def placed (rooms : List Room) (machines : List Machine) : List (Machine × Option Room) :=
  Sql.leftJoin inRoom rooms machines

/-- How many rows a state's clause selects. -/
def countIn (policy : MaintenancePolicy) (now : Time) (rows : List (Machine × Option Room))
    (s : MaintenanceState) : ℕ :=
  (Sql.select (fun row => stateClause policy row.1 row.2 s now) rows).length

lemma countIn_cons {policy : MaintenancePolicy} (hsoon : 0 ≤ policy.dueSoonDays) (now : Time)
    (row : Machine × Option Room) (rows : List (Machine × Option Room)) (s : MaintenanceState) :
    countIn policy now (row :: rows) s =
      countIn policy now rows s + if (resolve row.1 row.2 policy now).state = s then 1 else 0 := by
  unfold countIn Sql.select
  rw [List.filter_cons]
  by_cases h : stateClause policy row.1 row.2 s now = some true
  · rw [if_pos (decide_eq_true h), if_pos ((resolve_state hsoon s).2 h), List.length_cons]
  · rw [if_neg (by simpa using h), if_neg (mt (resolve_state hsoon s).1 h), Nat.add_zero]

/-- Each row is counted once. -/
lemma countIn_rows {policy : MaintenancePolicy} (hsoon : 0 ≤ policy.dueSoonDays) (now : Time)
    (rows : List (Machine × Option Room)) :
    countIn policy now rows .excluded + countIn policy now rows .overdue +
      countIn policy now rows .dueSoon + countIn policy now rows .ok = rows.length := by
  induction rows with
  | nil => rfl
  | cons row rows ih =>
    simp only [countIn_cons hsoon, List.length_cons, ← ih]
    cases (resolve row.1 row.2 policy now).state with
    | excluded => simp; omega
    | overdue => simp; omega
    | dueSoon => simp; omega
    | ok => simp; omega

/-- The rooms' ids being distinct, the join has a row for each machine. -/
lemma length_placed {rooms : List Room} (hrooms : (rooms.map Room.id).Nodup) (machines : List Machine) :
    (placed rooms machines).length = machines.length := by
  exact Sql.length_leftJoin fun machine _ => Sql.length_select_key hrooms machine.roomId

/-- **The counts add up.**  The four states partition the fleet. -/
theorem counts_add_up {policy : MaintenancePolicy} (hsoon : 0 ≤ policy.dueSoonDays) (now : Time)
    {rooms : List Room} (hrooms : (rooms.map Room.id).Nodup) (machines : List Machine) :
    countIn policy now (placed rooms machines) .excluded +
      countIn policy now (placed rooms machines) .overdue +
      countIn policy now (placed rooms machines) .dueSoon +
      countIn policy now (placed rooms machines) .ok = machines.length := by
  rw [countIn_rows hsoon, length_placed hrooms]

end Tiai.Maintenance
