import Mathlib
import Tiai.Confined.Model

/-!
# The routes that read, for an account of a scope

`api/routes/maintenance.py`, `api/routes/rooms.py`, `api/routes/checks.py` and `api/routes/interventions.py`:
the routes that read, and the recording of a visit with what it answers.

* `Read`, `respond` — what may be asked, and the answer from a state of the database;
* `Route` — the kinds of reads;
* `Response.apart` — an answer apart from the counts of visits and buildings.
-/

namespace Tiai.Confined

open Lib
open Maintenance (MaintenanceState Resolved)

/-! ### What is answered -/

structure UserRef where
  id : Uuid
  name : String
  deriving DecidableEq

/-- A page of a list: `SessionList`, `CheckList` and `InterventionList`. -/
structure Paged (α : Type) where
  items : List α
  total : ℕ
  page : ℕ
  pageSize : ℕ
  deriving DecidableEq

structure DueMachineOut where
  id : Uuid
  hostname : Option String
  location : Option String
  roomName : Option String
  buildingName : Option String
  lastMaintenanceAt : Option Time
  dueAt : Option Time
  state : MaintenanceState
  owner : Option UserRef
  deriving DecidableEq

structure DueRoomOut where
  id : Uuid
  name : String
  buildingName : Option String
  location : Option String
  owner : Option UserRef
  cycleDays : ℤ
  total : ℕ
  overdue : ℕ
  dueSoon : ℕ
  excluded : ℕ
  nextDueAt : Option Time
  machines : List DueMachineOut
  deriving DecidableEq

structure DueOut where
  rooms : List DueRoomOut
  machines : List DueMachineOut
  overdue : ℕ
  dueSoon : ℕ
  deriving DecidableEq

structure SessionItemOut where
  interventionId : Uuid
  machineId : Uuid
  hostname : Option String
  note : Option String
  deriving DecidableEq

structure SessionOut where
  id : Uuid
  roomId : Option Uuid
  roomName : Option String
  performedBy : String
  performedAt : Time
  note : Option String
  machineCount : ℕ
  items : List SessionItemOut
  deriving DecidableEq

structure BuildingOut where
  id : Uuid
  name : String
  location : Option String
  notes : Option String
  roomCount : ℕ
  machineCount : ℕ
  createdAt : Time
  updatedAt : Time
  deriving DecidableEq

structure BuildingRef where
  id : Uuid
  name : String
  location : Option String
  deriving DecidableEq

structure RoomOut where
  id : Uuid
  name : String
  building : Option BuildingRef
  location : Option String
  effectiveLocation : Option String
  notes : Option String
  adKey : Option String
  machineCount : ℕ
  mismatchCount : ℕ
  maintenanceCycleDays : Option ℤ
  maintenanceOwnerName : Option String
  effectiveCycleDays : ℤ
  effectiveOwnerName : Option String
  maintenanceOverdue : ℕ
  maintenanceDueSoon : ℕ
  createdAt : Time
  updatedAt : Time
  deriving DecidableEq

structure MachineRef where
  id : Uuid
  hostname : Option String
  location : Option String
  roomName : Option String
  buildingName : Option String
  deriving DecidableEq

structure CheckOut where
  id : Uuid
  machineId : Uuid
  requestedBy : String
  assignedTo : Option UserRef
  instructions : Option String
  createdAt : Time
  updatedAt : Time
  closedAt : Option Time
  closedBy : Option String
  closingNote : Option String
  machine : Option MachineRef
  deriving DecidableEq

/-! ### Errors and helpers -/

def maintenanceNotFound : AppError := ⟨.maintenanceNotFound, 404, "Maintenance session not found"⟩

def checkNotFound : AppError := ⟨.checkNotFound, 404, "Check not found"⟩

def ownerInvalid : AppError :=
  ⟨.requestValidationError, 422, "owner must be an account id, 'me' or 'none'"⟩

def assigneeInvalid : AppError :=
  ⟨.requestValidationError, 422, "assigned_to must be an account id, 'me' or 'none'"⟩

/-- `_clean`. -/
def clean (text : Option String) : Option String :=
  text.bind fun t => let cleaned := strip t; if cleaned = "" then none else some cleaned

/-- `_ref`. -/
def ref (names : Store Uuid String) (userId : Option Uuid) : Option UserRef :=
  userId.bind fun id => (names.get id).map fun name => ⟨id, name⟩

/-- `_require_machine`. -/
def requireMachine (d : Db) (scope : Option Scope) (machineId : Uuid) : Except AppError Machine :=
  match d.getMachine machineId with
  | none => .error Rooms.machineNotFound
  | some machine => if d.machineVisible scope machineId then .ok machine else .error Rooms.machineNotFound

/-- The query parameters `owner` and `assigned_to`: one account, or the absence of one. -/
def accountFilter (env : Env) (currentId : Uuid) (invalid : AppError) (value : Option String) :
    Except AppError (Option Uuid × Bool) :=
  match value with
  | none => .ok (none, false)
  | some text =>
    if text = "me" then .ok (some currentId, false)
    else if text = "none" then .ok (none, true)
    else if text = "" then .ok (none, false)
    else
      match env.parseUuid text with
      | some id => .ok (some id, false)
      | none => .error invalid

/-! ### `maintenance` -/

section MaintenanceRoutes

variable (env : Env) (d : Db) (scope : Option Scope) (now : Time)

def dueMachineOut (names : Store Uuid String) (room : Option Rooms.Room) (building : Option Rooms.Building)
    (entry : Machine × Resolved) : DueMachineOut where
  id := entry.1.id
  hostname := entry.1.hostname
  location := entry.1.location
  roomName := room.map fun r => r.name
  buildingName := building.map fun b => b.name
  lastMaintenanceAt := entry.1.lastMaintenanceAt
  dueAt := entry.2.dueAt
  state := entry.2.state
  owner := ref names entry.2.ownerId

def dueRoomOut (names : Store Uuid String) (r : DueRoom) : DueRoomOut where
  id := r.room.id
  name := r.room.name
  buildingName := r.building.map fun b => b.name
  location := Rooms.effectiveLocation (some r.room) r.building
  owner := ref names r.ownerId
  cycleDays := r.cycleDays
  total := r.total
  overdue := r.overdue
  dueSoon := r.dueSoon
  excluded := r.excluded
  nextDueAt := r.nextDueAt
  machines := (Sql.orderBy dueOrder r.machines).map (dueMachineOut names (some r.room) r.building)

/-- `due`, of the postes that were resolved. -/
def dueOut (resolved : List (FleetRow × Resolved)) (ownerId : Option Uuid) (unowned : Bool) : DueOut :=
  let (rooms, loose) := groupDue env resolved d.policy ownerId unowned
  let names := userNames d (rooms.filterMap DueRoom.ownerId ++ (loose.filterMap fun m => m.2.ownerId) ++
    rooms.flatMap fun r => r.machines.filterMap fun m => m.2.ownerId)
  { rooms := rooms.map (dueRoomOut names)
    machines := loose.map (dueMachineOut names none none)
    overdue := (rooms.map DueRoom.overdue).sum + loose.countP (·.2.state = .overdue)
    dueSoon := (rooms.map DueRoom.dueSoon).sum + loose.countP (·.2.state = .dueSoon) }

/-- `due`. -/
def due (currentId : Uuid) (owner : Option String) : Except AppError DueOut := do
  let (ownerId, unowned) ← accountFilter env currentId ownerInvalid owner
  return dueOut env d (fleetResolved d scope now) ownerId unowned

def sessionItemOut (item : Intervention × Machine) : SessionItemOut :=
  ⟨item.1.id, item.2.id, item.2.hostname, item.1.note⟩

/-- `_session_out`, with the items. -/
def sessionOut (visit : Visit) : SessionOut where
  id := visit.id
  roomId := visit.roomId
  roomName := visit.roomName
  performedBy := visit.performedBy
  performedAt := visit.performedAt
  note := visit.note
  machineCount := itemCount d visit.id
  items := (sessionItems env d scope visit.id).map sessionItemOut

/-- A visit in the list: without its items. -/
def listedSession (visit : Visit) : SessionOut where
  id := visit.id
  roomId := visit.roomId
  roomName := visit.roomName
  performedBy := visit.performedBy
  performedAt := visit.performedAt
  note := visit.note
  machineCount := itemCount d visit.id
  items := []

/-- The route `list_sessions`. -/
def sessions (roomId machineId : Option Uuid) (page pageSize : ℕ) : Paged SessionOut :=
  let (rows, total) := listSessions d scope roomId machineId page pageSize
  ⟨rows.map (listedSession d), total, page, pageSize⟩

/-- `get_session`: `_session_out` is not given the scope. -/
def getSession (id : Uuid) : Except AppError SessionOut :=
  match rowOf Visit.key d.visits id with
  | none => .error maintenanceNotFound
  | some visit =>
    if visitClause d scope visit then .ok (sessionOut env d none visit) else .error maintenanceNotFound

structure SessionItemIn where
  machineId : Uuid
  note : Option String
  deriving DecidableEq

structure SessionCreate where
  roomId : Option Uuid
  performedAt : Option Time
  note : Option String
  items : List SessionItemIn
  deriving DecidableEq

/-- The note of a poste: the last one given of it. -/
def SessionCreate.notes (payload : SessionCreate) (machineId : Uuid) : Option String :=
  (payload.items.reverse.find? (·.machineId = machineId)).bind fun item => clean item.note

/-- The room that a visit names. -/
def requireRoomOf (roomId : Option Uuid) : Except AppError (Option Rooms.Room) :=
  match roomId with
  | none => .ok none
  | some id => some <$> Rooms.requireRoom d.tables scope id

/-- The route `record_session`; `visitId` and `entryId` are drawn. -/
def recordRoute (currentEmail : String) (payload : SessionCreate) (visitId : Uuid) (entryId : Uuid → Uuid) :
    Except AppError (Db × SessionOut) := do
  let room ← requireRoomOf d scope payload.roomId
  let ids := payload.items.map SessionItemIn.machineId
  let machines := d.machines.filter fun m => m.id ∈ ids && d.machineClause scope m
  Rooms.check (machines.length = ids.dedup.length) Rooms.machineNotFound
  let (d', visit) := recordSession d room machines payload.notes currentEmail (payload.performedAt.getD now)
    (clean payload.note) visitId entryId now
  return (d', sessionOut env d' scope visit)

end MaintenanceRoutes

/-! ### `rooms` -/

section RoomRoutes

variable (env : Env) (d : Db) (scope : Option Scope) (now : Time)

/-- A row of `_buildings_out`. -/
def buildingOut (b : Rooms.Building) : BuildingOut where
  id := b.id
  name := b.name
  location := b.location
  notes := b.notes
  roomCount := (buildingCounts d b.id).rooms
  machineCount := (buildingCounts d b.id).machines
  createdAt := b.createdAt
  updatedAt := b.updatedAt

/-- How many postes of a room are in a state; the whole fleet is resolved. -/
def stateCount (roomId : Uuid) (state : MaintenanceState) : ℕ :=
  (fleetResolved d none now).countP fun entry => entry.1.machine.roomId = some roomId ∧ entry.2.state = state

/-- A row of `_rooms_out`. -/
def roomOut (names : Store Uuid String) (row : Rooms.Room × Option Rooms.Building) : RoomOut :=
  let r := row.1
  let counts := Rooms.roomCounts d.tables r.id
  { id := r.id
    name := r.name
    building := row.2.map fun b => ⟨b.id, b.name, b.location⟩
    location := r.location
    effectiveLocation := Rooms.effectiveLocation (some r) row.2
    notes := r.notes
    adKey := r.adKey
    machineCount := counts.machines
    mismatchCount := counts.mismatched
    maintenanceCycleDays := r.maintenanceCycleDays
    maintenanceOwnerName := r.maintenanceOwnerId.bind names.get
    effectiveCycleDays := r.maintenanceCycleDays.getD d.policy.cycleDays
    effectiveOwnerName := (r.maintenanceOwnerId.or d.policy.ownerId).bind names.get
    maintenanceOverdue := stateCount d now r.id .overdue
    maintenanceDueSoon := stateCount d now r.id .dueSoon
    createdAt := r.createdAt
    updatedAt := r.updatedAt }

/-- The names of the owners of rooms. -/
def ownerNames (rows : List (Rooms.Room × Option Rooms.Building)) : Store Uuid String :=
  userNames d (rows.filterMap (fun row => row.1.maintenanceOwnerId) ++ d.policy.ownerId.toList)

/-- `_rooms_out`. -/
def roomsOut (rows : List (Rooms.Room × Option Rooms.Building)) : List RoomOut :=
  rows.map (roomOut d now (ownerNames d rows))

/-- `get_room`, then `_room_out`. -/
def getRoom (id : Uuid) : Except AppError RoomOut := do
  let room ← Rooms.requireRoom d.tables scope id
  let row := (room, room.buildingId.bind (Rooms.getBuilding d.tables))
  return roomOut d now (ownerNames d [row]) row

end RoomRoutes

/-! ### `checks` and `interventions` -/

section JournalRoutes

variable (env : Env) (d : Db) (scope : Option Scope)

/-- The postes that checks are about, with their places. -/
def machineRefs (ids : List Uuid) : Store Uuid MachineRef :=
  (d.machines.filter (·.id ∈ ids)).map fun m =>
    let placement := Rooms.placement d.tables m.roomId
    (m.id, ⟨m.id, m.hostname, m.location, placement.room.map fun r => r.name,
      placement.building.map fun b => b.name⟩)

def checkOut (names : Store Uuid String) (refs : Store Uuid MachineRef) (c : MachineCheck) : CheckOut where
  id := c.id
  machineId := c.machineId
  requestedBy := c.requestedBy
  assignedTo := ref names c.assignedToId
  instructions := c.instructions
  createdAt := c.createdAt
  updatedAt := c.updatedAt
  closedAt := c.closedAt
  closedBy := c.closedBy
  closingNote := c.closingNote
  machine := refs.get c.machineId

/-- `_out`. -/
def checksOut (rows : List MachineCheck) (withMachine : Bool) : List CheckOut :=
  let names := userNames d (rows.filterMap MachineCheck.assignedToId)
  let refs := if withMachine then machineRefs d (rows.map MachineCheck.machineId) else []
  rows.map (checkOut names refs)

/-- `list_machine_checks`. -/
def machineChecks (machineId : Uuid) (page pageSize : ℕ) : Except AppError (Paged CheckOut) := do
  let _ ← requireMachine d scope machineId
  let (rows, total) := listChecks d (fun _ => true) false none false (some machineId) page pageSize
  return ⟨checksOut d rows false, total, page, pageSize⟩

/-- The route `list_checks`. -/
def checks (currentId : Uuid) (openOnly : Bool) (assignedTo : Option String) (page pageSize : ℕ) :
    Except AppError (Paged CheckOut) := do
  let (assignedToId, unassigned) ← accountFilter env currentId assigneeInvalid assignedTo
  let (rows, total) :=
    listChecks d (fun c => d.machineIdsClause scope c.machineId) openOnly assignedToId unassigned none page pageSize
  return ⟨checksOut d rows true, total, page, pageSize⟩

/-- `_require_check`, then `_one`. -/
def getCheck (id : Uuid) : Except AppError CheckOut :=
  match rowOf MachineCheck.key d.checks id with
  | none => .error checkNotFound
  | some row =>
    if d.machineVisible scope row.machineId then
      .ok (checkOut (userNames d row.assignedToId.toList) (machineRefs d [row.machineId]) row)
    else .error checkNotFound

/-- `assignable_users`. -/
def assignableUsers : List UserRef :=
  (Sql.orderBy (fun u v => env.collate u.email v.email) (d.users.filter User.isActive)).map fun u => ⟨u.id, u.name⟩

/-- `list_interventions`. -/
def interventions (machineId : Uuid) (page pageSize : ℕ) : Except AppError (Paged Intervention) := do
  let _ ← requireMachine d scope machineId
  let (rows, total) := listForMachine d machineId page pageSize
  return ⟨rows, total, page, pageSize⟩

end JournalRoutes

/-! ### Reads -/

inductive Read
  | due (owner : Option String)
  | sessions (roomId machineId : Option Uuid) (page pageSize : ℕ)
  | session (id : Uuid)
  | record (payload : SessionCreate) (visitId : Uuid) (entryId : Uuid → Uuid)
  | buildings
  | rooms
  | room (id : Uuid)
  | machineChecks (machineId : Uuid) (page pageSize : ℕ)
  | checks (openOnly : Bool) (assignedTo : Option String) (page pageSize : ℕ)
  | check (id : Uuid)
  | assignableUsers
  | interventions (machineId : Uuid) (page pageSize : ℕ)

/-- The kinds of reads; the list of visits is two, as it is asked of a poste or not. -/
inductive Route
  | due
  | sessions
  | machineSessions
  | session
  | record
  | buildings
  | rooms
  | room
  | machineChecks
  | checks
  | check
  | assignableUsers
  | interventions
  deriving DecidableEq

def Read.route : Read → Route
  | .due _ => .due
  | .sessions _ none _ _ => .sessions
  | .sessions _ (some _) _ _ => .machineSessions
  | .session _ => .session
  | .record _ _ _ => .record
  | .buildings => .buildings
  | .rooms => .rooms
  | .room _ => .room
  | .machineChecks _ _ _ => .machineChecks
  | .checks _ _ _ _ => .checks
  | .check _ => .check
  | .assignableUsers => .assignableUsers
  | .interventions _ _ _ => .interventions

inductive Response
  | due (out : DueOut)
  | sessions (out : Paged SessionOut)
  | session (out : SessionOut)
  | buildings (out : List BuildingOut)
  | rooms (out : List RoomOut)
  | room (out : RoomOut)
  | checks (out : Paged CheckOut)
  | check (out : CheckOut)
  | users (out : List UserRef)
  | interventions (out : Paged Intervention)
  deriving DecidableEq

/-- The answer to a read by the account `current`. -/
def respond (env : Env) (current : User) (scope : Option Scope) (now : Time) (d : Db) : Read → Except AppError Response
  | .due owner => .due <$> due env d scope now current.id owner
  | .sessions roomId machineId page pageSize => .ok (.sessions (sessions d scope roomId machineId page pageSize))
  | .session id => .session <$> getSession env d scope id
  | .record payload visitId entryId =>
    (fun out => .session out.2) <$> recordRoute env d scope now current.email payload visitId entryId
  | .buildings => .ok (.buildings ((listBuildings env d scope).map (buildingOut d)))
  | .rooms => .ok (.rooms (roomsOut d now (listRooms env d scope)))
  | .room id => .room <$> getRoom d scope now id
  | .machineChecks machineId page pageSize => .checks <$> machineChecks d scope machineId page pageSize
  | .checks openOnly assignedTo page pageSize =>
    .checks <$> checks env d scope current.id openOnly assignedTo page pageSize
  | .check id => .check <$> getCheck d scope id
  | .assignableUsers => .ok (.users (assignableUsers env d))
  | .interventions machineId page pageSize => .interventions <$> interventions d scope machineId page pageSize

/-! ### Apart from the counts -/

def SessionOut.apart (out : SessionOut) : SessionOut := { out with machineCount := 0 }

def BuildingOut.apart (out : BuildingOut) : BuildingOut := { out with roomCount := 0, machineCount := 0 }

/-- The answer apart from the counts of visits and buildings. -/
def Response.apart : Response → Response
  | .sessions out => .sessions { out with items := out.items.map SessionOut.apart }
  | .session out => .session out.apart
  | .buildings out => .buildings (out.map BuildingOut.apart)
  | out => out

end Tiai.Confined
