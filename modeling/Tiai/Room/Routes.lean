import Tiai.Lib.Checked
import Tiai.Machine.Model
import Tiai.Room.Directory

/-!
# The routes of buildings and rooms

`api/routes/rooms.py`, past the validation of the bodies, and the two places of `api/routes/agent.py` where an
agent says where its poste is.  A request answers with the tables it commits and what it returns of them; an
error rolls it back.  Permissions, the audit log, and the details of the errors are left out.

* `createBuilding` … `syncDirectory` — the routes;
* `enrollPlace`, `heartbeatPlace` — the site and the directory block of an agent.
-/

namespace Tiai.Rooms

open Lib

/-! ### Bodies -/

structure BuildingCreate where
  name : String
  location : Option String
  notes : Option String

/-- A field is left out, null, or a value. -/
structure BuildingUpdate where
  name : Option (Option String)
  location : Option (Option String)
  notes : Option (Option String)

structure RoomCreate where
  name : String
  buildingId : Option Uuid
  location : Option String
  notes : Option String

structure RoomUpdate where
  name : Option (Option String)
  buildingId : Option (Option Uuid)
  location : Option (Option String)
  notes : Option (Option String)

/-- `DirectoryReport`. -/
structure DirectoryReport where
  distinguishedName : Option String
  ou : Option String
  ouDn : Option String
  adLocation : Option String

/-! ### Refusals -/

def scopeRestricted : AppError :=
  ⟨.authScopeRestricted, 403, "This reaches beyond the places your account is confined to"⟩

def buildingNotFound : AppError := ⟨.buildingNotFound, 404, "Building not found"⟩

def buildingNameTaken : AppError :=
  ⟨.buildingNameTaken, 409, "A building of this name already exists on this site"⟩

def roomNotFound : AppError := ⟨.roomNotFound, 404, "Room not found"⟩

def roomNameTaken : AppError := ⟨.roomNameTaken, 409, "A room of this name already exists in this building"⟩

def placementLocked : AppError :=
  ⟨.roomPlacementLocked, 409, "Postes are filed by the directory (ROOM_SOURCE); manual placement is disabled"⟩

def machineNotFound : AppError := ⟨.machineNotFound, 404, "Machine not found"⟩

/-- `if not …: raise`. -/
def check (ok : Bool) (error : AppError) : Except AppError Unit := if ok then .ok () else .error error

lemma check_ok {ok : Bool} {error : AppError} {u : Unit} (h : check ok error = .ok u) : ok = true := by
  unfold check at h
  split at h
  · assumption
  · cases h

/-! ### Helpers -/

/-- `_clean_name`. -/
def cleanName (name : String) : String := joinWords (words name)

/-- `_building_writable`. -/
def buildingWritable (building : Building) (scope : Option Scope) : Bool :=
  scope.all fun s => building.id ∈ s.buildings || inSet s.locations building.location

/-- `_room_writable`, on the flushed rows. -/
def roomWritable (t : Tables) (room : Room) (scope : Option Scope) : Bool :=
  roomVisible t.places scope room.toRoom

section Requirements

variable (t : Tables) (scope : Option Scope)

/-- `_require_building`. -/
def requireBuilding (id : Uuid) : Except AppError Building :=
  match getBuilding t id with
  | none => .error buildingNotFound
  | some building =>
    if buildingVisible t.places scope building.toBuilding then .ok building else .error buildingNotFound

/-- `_require_room`. -/
def requireRoom (id : Uuid) : Except AppError Room :=
  match getRoom t id with
  | none => .error roomNotFound
  | some room => if roomVisible t.places scope room.toRoom then .ok room else .error roomNotFound

/-- `_require_machines`. -/
def requireMachines (ids : List Uuid) : Except AppError (List Machine) :=
  let machines := t.machines.filter fun m => m.id ∈ ids ∧ visible t.places scope m.toPoste = true
  if machines.length ≠ ids.dedup.length then .error machineNotFound else .ok machines

/-- `_reject_building_name_taken`. -/
def rejectBuildingNameTaken (location : Option String) (name : String) (exclude : Option Uuid) :
    Except AppError Unit :=
  check ((buildingByName t location name).all fun existing => exclude = some existing.id) buildingNameTaken

/-- `_reject_room_name_taken`. -/
def rejectRoomNameTaken (buildingId : Option Uuid) (name : String) (exclude : Option Uuid) :
    Except AppError Unit :=
  check ((roomByName t buildingId name).all fun existing => exclude = some existing.id) roomNameTaken

end Requirements

/-! ### Buildings -/

section Buildings

variable (scope : Option Scope) (now : Time) (t : Tables)

/-- `create_building`. -/
def createBuilding (uuid4 : Uuid4) (payload : BuildingCreate) : Except AppError (Tables × Building) := do
  let name := cleanName payload.name
  let location := cleanLocation payload.location
  check (scope.all fun s => inSet s.locations location) scopeRestricted
  rejectBuildingNameTaken t location name none
  let building : Building :=
    { id := uuid4.draw (t.buildings.map Building.key)
      name, location, notes := payload.notes, createdAt := now, updatedAt := now }
  let t ← flush { t with buildings := t.buildings ++ [building] }
  return (t, building)

/-- The supplied fields of a building. -/
def Building.apply (building : Building) (payload : BuildingUpdate) : Building :=
  { building with
    name := (payload.name.bind id).elim building.name cleanName
    location := payload.location.elim building.location cleanLocation
    notes := payload.notes.getD building.notes
    updatedAt := now }

/-- The name of a building that takes another, or another site. -/
def checkBuildingName (building updated : Building) : Except AppError Unit :=
  if updated.name ≠ building.name ∨ updated.location ≠ building.location then
    rejectBuildingNameTaken t updated.location updated.name (some building.id)
  else .ok ()

/-- `update_building`; a name that is null is not a text to clean. -/
def updateBuilding (id : Uuid) (payload : BuildingUpdate) : Except AppError (Tables × Building) := do
  let building ← requireBuilding t scope id
  check (buildingWritable building scope) scopeRestricted
  check (payload.name ≠ some none) serverError
  let updated := building.apply now payload
  checkBuildingName t building updated
  check (buildingWritable updated scope) scopeRestricted
  let t ← flush (t.writeBuilding updated)
  return (t, updated)

/-- `detach_building`, on one room. -/
def detached (building : Building) (room : Room) : Room :=
  if room.buildingId = some building.id ∧ room.location = none then
    { room with location := building.location, updatedAt := now }
  else room

/-- `ON DELETE SET NULL`, on one room. -/
def unlinked (building : Building) (room : Room) : Room :=
  if room.buildingId = some building.id then { room with buildingId := none } else room

/-- What `delete_building` writes. -/
def withoutBuilding (building : Building) : Tables :=
  { t with
    rooms := (t.rooms.map (detached now building)).map (unlinked building)
    buildings := t.buildings.filter (·.id ≠ building.id) }

/-- `delete_building`. -/
def deleteBuilding (id : Uuid) : Except AppError Tables := do
  let building ← requireBuilding t scope id
  check (buildingWritable building scope) scopeRestricted
  flush (withoutBuilding now t building)

end Buildings

/-! ### Rooms -/

section Rooms

variable (scope : Option Scope) (now : Time) (t : Tables)

/-- The building that a body names, if it names one. -/
def requireBuildingOf (buildingId : Option Uuid) : Except AppError Unit :=
  match buildingId with
  | none => .ok ()
  | some id => (requireBuilding t scope id).map fun _ => ()

/-- `create_room`. -/
def createRoom (uuid4 : Uuid4) (payload : RoomCreate) : Except AppError (Tables × Room) := do
  let name := cleanName payload.name
  requireBuildingOf scope t payload.buildingId
  rejectRoomNameTaken t payload.buildingId name none
  let room : Room :=
    { id := uuid4.draw (t.rooms.map Room.key)
      name, buildingId := payload.buildingId
      location := if payload.buildingId = none then cleanLocation payload.location else none
      adKey := none, maintenanceCycleDays := none, maintenanceOwnerId := none
      notes := payload.notes, createdAt := now, updatedAt := now }
  let t ← flush { t with rooms := t.rooms ++ [room] }
  check (roomWritable t room scope) scopeRestricted
  return (t, room)

/-- The supplied fields of a room; in a building, it has no site of its own. -/
def Room.apply (room : Room) (payload : RoomUpdate) : Room :=
  let buildingId := payload.buildingId.getD room.buildingId
  { room with
    name := (payload.name.bind id).elim room.name cleanName
    buildingId
    location := if buildingId = none then payload.location.elim room.location cleanLocation else none
    notes := payload.notes.getD room.notes
    updatedAt := now }

/-- The name of a room that takes another, or another building. -/
def checkRoomName (room updated : Room) : Except AppError Unit :=
  if updated.name ≠ room.name ∨ updated.buildingId ≠ room.buildingId then
    rejectRoomNameTaken t updated.buildingId updated.name (some room.id)
  else .ok ()

/-- `update_room`. -/
def updateRoom (roomId : Uuid) (payload : RoomUpdate) : Except AppError (Tables × Room) := do
  let room ← requireRoom t scope roomId
  check (payload.name ≠ some none) serverError
  requireBuildingOf scope t (payload.buildingId.bind id)
  let updated := room.apply now payload
  checkRoomName t room updated
  let t ← flush (t.writeRoom updated)
  check (roomWritable t updated scope) scopeRestricted
  return (t, updated)

/-- `ON DELETE SET NULL`, on one poste. -/
def leftRoom (room : Room) (machine : Machine) : Machine :=
  if machine.roomId = some room.id then { machine with roomId := none } else machine

/-- `delete_room`. -/
def deleteRoom (id : Uuid) : Except AppError Tables := do
  let room ← requireRoom t scope id
  flush { t with machines := t.machines.map (leftRoom room), rooms := t.rooms.filter (·.id ≠ room.id) }

/-! ### Postes -/

/-- `PlacementResult`. -/
structure PlacementResult where
  moved : ℕ
  mismatched : List Uuid
  deriving DecidableEq

/-- `set_room`. -/
def setRoom (ids : List Uuid) (roomId : Option Uuid) : Tables × ℕ :=
  let machines := t.machines.map fun m => if m.id ∈ ids then { m with roomId, updatedAt := now } else m
  ({ t with machines }, (t.machines.filter (·.id ∈ ids)).length)

/-- `place_machines`. -/
def placeMachines (source : RoomSource) (id : Uuid) (ids : List Uuid) :
    Except AppError (Tables × PlacementResult) := do
  check (source = .manual) placementLocked
  let room ← requireRoom t scope id
  let machines ← requireMachines t scope ids
  let site := (placement t (some room.id)).location
  let mismatched := (machines.filter fun m => locationMismatch m.location site).map Machine.key
  let (t, moved) := setRoom now t ids (some room.id)
  let t ← flush t
  return (t, ⟨moved, mismatched⟩)

/-- `unassign_machines`. -/
def unassignMachines (source : RoomSource) (ids : List Uuid) : Except AppError (Tables × PlacementResult) := do
  check (source = .manual) placementLocked
  let _ ← requireMachines t scope ids
  let (t, moved) := setRoom now t ids none
  let t ← flush t
  return (t, ⟨moved, []⟩)

/-- `sync_directory`; the query gives the postes in the order `machines`. -/
def syncDirectory (source : RoomSource) (uuid4 : Uuid4) (machines : List Machine) :
    Except AppError (Tables × SyncResult) := do
  check scope.isNone scopeRestricted
  let (t, result) ← syncFromDirectory source uuid4 now t machines
  let t ← flush t
  return (t, result)

end Rooms

/-! ### Agents -/

/-- `TEXT_MAX` and `DN_MAX` of the inventory. -/
def labelMax : ℕ := 200
def dnMax : ℕ := 500

/-- `_bounded`. -/
def bounded (limit : ℕ) (value : Option String) : Option String :=
  (value.map fun v => truncate limit (strip v)).filter (· ≠ "")

section Agents

variable (now : Time) (t : Tables)

/-- The part of `enroll` that concerns the site: a poste that is new, or enrolled again. -/
def enrollPlace (id : Uuid) (location : Option (Option String)) : Except AppError Tables :=
  match getMachine t id with
  | none =>
    flush { t with machines := t.machines ++
      [{ id, location := location.elim none cleanLocation, roomId := none, adDistinguishedName := none,
         adOu := none, adOuDn := none, adLocation := none, updatedAt := now }] }
  | some m => flush (t.writeMachine { m with location := location.elim m.location cleanLocation, updatedAt := now })

/-- The directory block, on the columns of its own. -/
def Machine.readDirectory (m : Machine) (directory : DirectoryReport) : Machine :=
  { m with
    adDistinguishedName := bounded dnMax directory.distinguishedName
    adOu := bounded labelMax directory.ou
    adOuDn := bounded dnMax directory.ouDn
    adLocation := bounded labelMax directory.adLocation }

/-- The part of `heartbeat` that says where the poste is, on the row of the agent's token. -/
def heartbeatPlace (source : RoomSource) (uuid4 : Uuid4) (id : Uuid) (location : Option (Option String))
    (directory : Option DirectoryReport) : Except AppError Tables :=
  match getMachine t id with
  | none => .ok t
  | some m => do
    let m := { m with location := location.elim m.location cleanLocation, updatedAt := now }
    match directory with
    | none => flush (t.writeMachine m)
    | some directory =>
      let m := m.readDirectory directory
      let t ← flush (t.writeMachine m)
      let (t, _) ← placeFromDirectory source uuid4 now t m
      flush t

end Agents

end Tiai.Rooms
