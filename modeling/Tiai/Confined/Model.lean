import Tiai.Lib.Store
import Tiai.Maintenance.Policy
import Tiai.Room.Site

/-!
# What the console reads of postes, rooms and visits

The tables behind the maintenance, room, building, check and intervention routes, and the queries of
`features/maintenance/crud.py`, `features/room/crud.py`, `features/check/crud.py`,
`features/intervention/crud.py` and `features/setting/crud.py` on them.  Each query takes the scope that its
caller gives it, or none.

* `Db`, `Db.Legal` — the tables, and the constraints that the database and the routes enforce;
* `fleetResolved`, `groupDue` — the postes with their maintenance, and what is due of it;
* `listSessions`, `sessionItems`, `recordSession` — visits;
* `listRooms`, `listBuildings`, `buildingCounts` — places;
* `listChecks`, `listForMachine` — the checks and the journal of postes.
-/

namespace Tiai.Confined

open Lib
open Rooms (roomOn buildingOn)
open Maintenance (MaintenancePolicy MaintenanceState Resolved)

/-! ### Data -/

/-- What the reads depend on beside the database. -/
structure Env where
  /-- `str.lower`. -/
  lower : String → String
  /-- The database's `lower()`. -/
  sqlLower : String → String
  /-- The database's order of texts. -/
  collate : String → String → Ordering
  /-- `uuid.UUID`, of a text; `none` is its `ValueError`. -/
  parseUuid : String → Option Uuid

/-- `Machine`: its place, its name, and its maintenance. -/
structure Machine extends Rooms.Machine where
  hostname : Option String
  firstSeen : Time
  lastMaintenanceAt : Option Time
  maintenanceCycleDays : Option ℤ
  maintenanceOwnerId : Option Uuid
  deriving DecidableEq, Repr

/-- `Intervention`. -/
structure Intervention where
  id : Uuid
  machineId : Uuid
  kind : String
  title : Option String
  note : Option String
  performedBy : String
  performedAt : Time
  checkId : Option Uuid
  maintenanceId : Option Uuid
  createdAt : Time
  updatedAt : Time
  deriving DecidableEq, Repr

/-- `MachineCheck`. -/
structure MachineCheck where
  id : Uuid
  machineId : Uuid
  requestedBy : String
  assignedToId : Option Uuid
  instructions : Option String
  createdAt : Time
  updatedAt : Time
  closedAt : Option Time
  closedBy : Option String
  closingNote : Option String
  deriving DecidableEq, Repr

/-- `Maintenance`: a visit. -/
structure Visit where
  id : Uuid
  roomId : Option Uuid
  roomName : Option String
  performedBy : String
  performedAt : Time
  note : Option String
  createdAt : Time
  deriving DecidableEq, Repr

/-- `User`: an account, as others read it. -/
structure User where
  id : Uuid
  email : String
  fullName : Option String
  isActive : Bool
  deriving DecidableEq, Repr

def Machine.key (m : Machine) : Uuid := m.id
def Intervention.key (i : Intervention) : Uuid := i.id
def MachineCheck.key (c : MachineCheck) : Uuid := c.id
def Visit.key (v : Visit) : Uuid := v.id
def User.key (u : User) : Uuid := u.id

/-- The tables; of the settings, what `maintenance_policy` makes of them. -/
structure Db where
  machines : List Machine
  rooms : List Rooms.Room
  buildings : List Rooms.Building
  interventions : List Intervention
  checks : List MachineCheck
  visits : List Visit
  users : List User
  policy : MaintenancePolicy

namespace Db

variable (d : Db)

def tables : Rooms.Tables := ⟨d.machines.map Machine.toMachine, d.rooms, d.buildings⟩

def places : Places := d.tables.places

/-- `session.get(Machine, id)`. -/
def getMachine (id : Uuid) : Option Machine := rowOf Machine.key d.machines id

/-- `machine_clause`. -/
def machineClause (scope : Option Scope) (m : Machine) : Bool := visible d.places scope m.toPoste

/-- `machine_ids_clause`. -/
def machineIdsClause (scope : Option Scope) (machineId : Uuid) : Bool :=
  scope = none || d.machines.any fun m => m.id = machineId && d.machineClause scope m

/-- `machine_visible`. -/
def machineVisible (scope : Option Scope) (machineId : Uuid) : Bool := d.machineIdsClause scope machineId

/-- `room_clause`. -/
def roomClause (scope : Option Scope) (r : Rooms.Room) : Bool := roomVisible d.places scope r.toRoom

/-- `building_clause`. -/
def buildingClause (scope : Option Scope) (b : Rooms.Building) : Bool :=
  buildingVisible d.places scope b.toBuilding

end Db

/-- The constraints of the tables, and that a room in a building has no site of its own. -/
structure Db.Legal (d : Db) : Prop where
  places : d.tables.Legal
  inBuilding : ∀ r ∈ d.rooms, r.buildingId ≠ none → r.location = none
  interventionIds : (d.interventions.map Intervention.key).Nodup
  checkIds : (d.checks.map MachineCheck.key).Nodup
  visitIds : (d.visits.map Visit.key).Nodup
  userIds : (d.users.map User.key).Nodup
  interventionMachine : ∀ i ∈ d.interventions, i.machineId ∈ d.machines.map Machine.key
  interventionCheck : ∀ i ∈ d.interventions, ∀ c ∈ i.checkId, c ∈ d.checks.map MachineCheck.key
  interventionVisit : ∀ i ∈ d.interventions, ∀ v ∈ i.maintenanceId, v ∈ d.visits.map Visit.key
  checkMachine : ∀ c ∈ d.checks, c.machineId ∈ d.machines.map Machine.key
  checkAssignee : ∀ c ∈ d.checks, ∀ u ∈ c.assignedToId, u ∈ d.users.map User.key
  checkOpen : ∀ c ∈ d.checks, ∀ e ∈ d.checks, c.closedAt = none → e.closedAt = none →
    c.machineId = e.machineId → c.id = e.id
  visitRoom : ∀ v ∈ d.visits, ∀ r ∈ v.roomId, r ∈ d.rooms.map Rooms.Room.key
  machineOwner : ∀ m ∈ d.machines, ∀ u ∈ m.maintenanceOwnerId, u ∈ d.users.map User.key
  roomOwner : ∀ r ∈ d.rooms, ∀ u ∈ r.maintenanceOwnerId, u ∈ d.users.map User.key

/-! ### `setting.crud` -/

/-- `full_name or email`. -/
def User.name (u : User) : String :=
  match u.fullName with
  | some name => if name = "" then u.email else name
  | none => u.email

/-- `user_names`. -/
def userNames (d : Db) (ids : List Uuid) : Store Uuid String :=
  (d.users.filter (·.id ∈ ids)).map fun u => (u.id, u.name)

/-! ### `maintenance.crud` -/

section Due

variable (env : Env) (d : Db)

/-- What its maintenance depends on. -/
def Machine.upkeep (m : Machine) : Maintenance.Machine :=
  ⟨m.roomId, m.maintenanceCycleDays, m.maintenanceOwnerId, m.lastMaintenanceAt, m.firstSeen⟩

def roomUpkeep (r : Rooms.Room) : Maintenance.Room := ⟨r.id, r.maintenanceCycleDays, r.maintenanceOwnerId⟩

/-- A poste beside its room and its building, or nulls. -/
structure FleetRow where
  machine : Machine
  room : Option Rooms.Room
  building : Option Rooms.Building
  deriving DecidableEq

def FleetRow.resolve (policy : MaintenancePolicy) (now : Time) (row : FleetRow) : Resolved :=
  Maintenance.resolve row.machine.upkeep (row.room.map roomUpkeep) policy now

/-- The postes, outer-joined with their rooms and these with their buildings. -/
def fleetRows : List FleetRow :=
  (Sql.leftJoin (fun row b => buildingOn row.2 b) d.buildings
    (Sql.leftJoin (fun m r => roomOn m.toMachine r) d.rooms d.machines)).map fun row => ⟨row.1.1, row.1.2, row.2⟩

/-- `fleet_resolved`. -/
def fleetResolved (scope : Option Scope) (now : Time) : List (FleetRow × Resolved) :=
  ((fleetRows d).filter fun row => d.machineClause scope row.machine).map fun row => (row, row.resolve d.policy now)

structure DueRoom where
  room : Rooms.Room
  building : Option Rooms.Building
  ownerId : Option Uuid
  cycleDays : ℤ
  total : ℕ
  overdue : ℕ
  dueSoon : ℕ
  excluded : ℕ
  nextDueAt : Option Time
  machines : List (Machine × Resolved)

/-- The entry of a room, before its postes. -/
def DueRoom.new (policy : MaintenancePolicy) (room : Rooms.Room) (building : Option Rooms.Building) : DueRoom where
  room := room
  building := building
  ownerId := room.maintenanceOwnerId.or policy.ownerId
  cycleDays := room.maintenanceCycleDays.getD policy.cycleDays
  total := 0
  overdue := 0
  dueSoon := 0
  excluded := 0
  nextDueAt := none
  machines := []

/-- The earlier of two instants, the first of which may be missing. -/
def earlier (next : Option Time) (due : Option Time) : Option Time :=
  match due with
  | none => next
  | some due => if next.all (due < ·) then some due else next

/-- One more poste of a room. -/
def DueRoom.add (e : DueRoom) (m : Machine) (res : Resolved) : DueRoom :=
  let e := { e with total := e.total + 1, machines := e.machines ++ [(m, res)] }
  match res.state with
  | .excluded => { e with excluded := e.excluded + 1 }
  | .overdue => { e with overdue := e.overdue + 1, nextDueAt := earlier e.nextDueAt res.dueAt }
  | .dueSoon => { e with dueSoon := e.dueSoon + 1, nextDueAt := earlier e.nextDueAt res.dueAt }
  | .ok => { e with nextDueAt := earlier e.nextDueAt res.dueAt }

lemma add_room (e : DueRoom) (m : Machine) (res : Resolved) : (e.add m res).room = e.room := by
  unfold DueRoom.add
  cases res.state with
  | excluded => rfl
  | overdue => rfl
  | dueSoon => rfl
  | ok => rfl

/-- The loop of `group_due`: the rooms in the order they appear, and the postes in none. -/
def groupStep (policy : MaintenancePolicy) (ownerFilter : Option Uuid) (unowned : Bool)
    (acc : List DueRoom × List (Machine × Resolved)) (entry : FleetRow × Resolved) :
    List DueRoom × List (Machine × Resolved) :=
  let (row, res) := entry
  if ownerFilter.any fun owner => res.ownerId ≠ some owner then acc
  else if unowned && res.ownerId.isSome then acc
  else
    match row.room with
    | none => if res.state = .excluded then acc else (acc.1, acc.2 ++ [(row.machine, res)])
    | some room =>
      if acc.1.any fun e => e.room.id = room.id then
        (acc.1.map fun e => if e.room.id = room.id then e.add row.machine res else e, acc.2)
      else (acc.1 ++ [(DueRoom.new policy room row.building).add row.machine res], acc.2)

/-- By the next due date, and by name where nothing is due. -/
def dueRoomOrder (a b : DueRoom) : Ordering :=
  (Sql.nullsLast compare a.nextDueAt b.nextDueAt).then (compare (env.lower a.room.name) (env.lower b.room.name))

def dueOrder (a b : Machine × Resolved) : Ordering := Sql.nullsLast compare a.2.dueAt b.2.dueAt

/-- `group_due`. -/
def groupDue (resolved : List (FleetRow × Resolved)) (policy : MaintenancePolicy) (ownerFilter : Option Uuid)
    (unowned : Bool) : List DueRoom × List (Machine × Resolved) :=
  let (rooms, loose) := resolved.foldl (groupStep policy ownerFilter unowned) ([], [])
  (Sql.orderBy (dueRoomOrder env) rooms, Sql.orderBy dueOrder loose)

end Due

section Visits

variable (env : Env) (d : Db) (scope : Option Scope)

/-- `_visit_clause`: its room is visible, or one of its postes is. -/
def visitClause (v : Visit) : Bool :=
  scope = none ||
    (d.rooms.any fun r => v.roomId = some r.id && d.roomClause scope r) ||
    d.interventions.any fun i => i.maintenanceId = some v.id && d.machineIdsClause scope i.machineId

/-- `list_sessions`: the visits, newest first, and how many there are. -/
def listSessions (roomId machineId : Option Uuid) (page pageSize : ℕ) : List Visit × ℕ :=
  let found := d.visits.filter fun v =>
    visitClause d scope v && (roomId.all fun r => v.roomId = some r) &&
      machineId.all fun m => d.interventions.any fun i => i.machineId = m && i.maintenanceId = some v.id
  (Sql.page page pageSize (Sql.orderBy (fun v w => compare w.performedAt v.performedAt) found), found.length)

/-- `Machine.id = Intervention.machine_id`. -/
def machineOn (i : Intervention) (m : Machine) : Sql.Truth := Sql.eq (some m.key) (some i.machineId)

/-- `session_items`. -/
def sessionItems (visitId : Uuid) : List (Intervention × Machine) :=
  Sql.orderBy (fun a b => Sql.nullsLast env.collate (a.2.hostname.map env.sqlLower) (b.2.hostname.map env.sqlLower))
    ((Sql.join machineOn d.machines d.interventions).filter fun item =>
      d.machineClause scope item.2 && item.1.maintenanceId = some visitId)

/-- `item_counts`, of one visit. -/
def itemCount (visitId : Uuid) : ℕ := d.interventions.countP (·.maintenanceId = some visitId)

/-- A visit moves the poste forward on its cycle, never back. -/
def Machine.visited (m : Machine) (performedAt now : Time) : Machine :=
  if m.lastMaintenanceAt.all (· < performedAt) then
    { m with lastMaintenanceAt := some performedAt, updatedAt := now }
  else m

/-- `record_session`, for the postes `machines`; the visit and its entries get the ids drawn. -/
def recordSession (room : Option Rooms.Room) (machines : List Machine) (notes : Uuid → Option String)
    (performedBy : String) (performedAt : Time) (note : Option String) (visitId : Uuid) (entryId : Uuid → Uuid)
    (now : Time) : Db × Visit :=
  let visit : Visit :=
    { id := visitId, roomId := room.map fun r => r.id, roomName := room.map fun r => r.name,
      performedBy, performedAt, note, createdAt := now }
  let title := match room with
    | some r => "Maintenance — " ++ r.name
    | none => "Maintenance"
  let entries := machines.map fun m =>
    { id := entryId m.id, machineId := m.id, kind := "maintenance", title := some title, note := notes m.id,
      performedBy, performedAt, checkId := none, maintenanceId := some visitId, createdAt := now,
      updatedAt := now : Intervention }
  ({ d with
      visits := d.visits ++ [visit]
      interventions := d.interventions ++ entries
      machines := d.machines.map fun m => if m.id ∈ machines.map Machine.key then m.visited performedAt now else m },
    visit)

end Visits

/-! ### `room.crud` -/

section Places

variable (env : Env) (d : Db) (scope : Option Scope)

/-- `list_buildings`. -/
def listBuildings : List Rooms.Building :=
  Sql.orderBy
    (fun a b => (Sql.nullsLast env.collate a.location b.location).then
      (env.collate (env.sqlLower a.name) (env.sqlLower b.name)))
    (d.buildings.filter (d.buildingClause scope))

/-- `list_rooms`. -/
def listRooms : List (Rooms.Room × Option Rooms.Building) :=
  let site (row : Rooms.Room × Option Rooms.Building) := Rooms.roomLocation (some row.1) row.2
  let building (row : Rooms.Room × Option Rooms.Building) := row.2.map fun b => env.sqlLower b.name
  Sql.orderBy
    (fun a b => ((Sql.nullsLast env.collate (site a) (site b)).then
      (Sql.nullsLast env.collate (building a) (building b))).then
      (env.collate (env.sqlLower a.1.name) (env.sqlLower b.1.name)))
    ((Rooms.roomRows d.tables).filter fun row => d.roomClause scope row.1)

structure BuildingCounts where
  rooms : ℕ
  machines : ℕ
  deriving DecidableEq

/-- `building_counts`, of one building. -/
def buildingCounts (buildingId : Uuid) : BuildingCounts :=
  let rooms := d.rooms.filter (·.buildingId = some buildingId)
  ⟨rooms.length, (Sql.join (fun r m => roomOn m r) (d.machines.map Machine.toMachine) rooms).length⟩

end Places

/-! ### `check.crud` and `intervention.crud` -/

section Journals

variable (d : Db)

/-- Open first, the one waiting longest first; then closed, newest first. -/
def checkOrder (a b : MachineCheck) : Ordering :=
  ((compare a.closedAt.isSome b.closedAt.isSome).then
    (Sql.nullsLast (fun x y => compare y x) a.closedAt b.closedAt)).then (compare a.createdAt b.createdAt)

/-- `list_checks`. -/
def listChecks (keep : MachineCheck → Bool) (openOnly : Bool) (assignedToId : Option Uuid) (unassigned : Bool)
    (machineId : Option Uuid) (page pageSize : ℕ) : List MachineCheck × ℕ :=
  let found := d.checks.filter fun c =>
    keep c && (!openOnly || c.closedAt.isNone) && (assignedToId.all fun u => c.assignedToId = some u) &&
      (!unassigned || c.assignedToId.isNone) && machineId.all fun m => c.machineId = m
  (Sql.page page pageSize (Sql.orderBy checkOrder found), found.length)

/-- `list_for_machine`. -/
def listForMachine (machineId : Uuid) (page pageSize : ℕ) : List Intervention × ℕ :=
  let found := d.interventions.filter fun i => i.machineId = machineId
  (Sql.page page pageSize
    (Sql.orderBy (fun a b => (compare b.performedAt a.performedAt).then (compare b.createdAt a.createdAt)) found),
    found.length)

end Journals

end Tiai.Confined
