import Tiai.Base
import Tiai.Lib.Rows
import Tiai.Lib.Sql
import Tiai.Text
import Tiai.User.Scope

/-!
# Buildings, rooms, and the postes in them

`features/room/models.py`, and the site of a room as `features/room/crud.py` and `api/routes/machines.py`
derive it: once in Python, once in SQL.

* `Tables`, `Tables.Legal`, `flush` — the three tables, and the constraints that the database enforces;
* `effectiveLocation`, `locationMismatch`, `placement` — the site in Python;
* `roomLocation`, `mismatchClause`, `machineRows` — the site in SQL, over the postes joined with their places;
* `roomCounts` — the counts of a room.
-/

namespace Tiai.Rooms

open Lib

/-! ### The tables -/

/-- `Building`. -/
structure Building extends Tiai.Building where
  name : String
  notes : Option String
  createdAt : Time
  updatedAt : Time
  deriving DecidableEq, Repr

/-- `Room`. -/
structure Room extends Tiai.Room where
  name : String
  adKey : Option String
  maintenanceCycleDays : Option ℤ
  maintenanceOwnerId : Option Uuid
  notes : Option String
  createdAt : Time
  updatedAt : Time
  deriving DecidableEq, Repr

/-- `Machine`: its site, its room, and what its agent read in the directory. -/
structure Machine extends Poste where
  adDistinguishedName : Option String
  adOu : Option String
  adOuDn : Option String
  adLocation : Option String
  updatedAt : Time
  deriving DecidableEq, Repr

def Building.key (b : Building) : Uuid := b.id
def Room.key (r : Room) : Uuid := r.id
def Machine.key (m : Machine) : Uuid := m.id

structure Tables where
  machines : List Machine
  rooms : List Room
  buildings : List Building
  deriving DecidableEq, Repr

def Tables.empty : Tables := ⟨[], [], []⟩

/-- What a scope reads of the tables. -/
def Tables.places (t : Tables) : Places :=
  ⟨t.machines.map Machine.toPoste, t.rooms.map Room.toRoom, t.buildings.map Building.toBuilding⟩

/-- The constraints: primary keys, `uq_buildings_location_name` and `uq_rooms_building_name` (`NULLS NOT
DISTINCT`), the unique `ad_key` (where nulls are distinct), and the foreign keys. -/
structure Tables.Legal (t : Tables) : Prop where
  machineIds : (t.machines.map Machine.key).Nodup
  roomIds : (t.rooms.map Room.key).Nodup
  buildingIds : (t.buildings.map Building.key).Nodup
  buildingNames : ∀ b ∈ t.buildings, ∀ c ∈ t.buildings, b.location = c.location → b.name = c.name → b.id = c.id
  roomNames : ∀ r ∈ t.rooms, ∀ q ∈ t.rooms, r.buildingId = q.buildingId → r.name = q.name → r.id = q.id
  adKeys : ∀ r ∈ t.rooms, ∀ q ∈ t.rooms, r.adKey = q.adKey → r.adKey ≠ none → r.id = q.id
  roomBuilding : ∀ r ∈ t.rooms, ∀ b ∈ r.buildingId, b ∈ t.buildings.map Building.key
  machineRoom : ∀ m ∈ t.machines, ∀ r ∈ m.roomId, r ∈ t.rooms.map Room.key

instance (t : Tables) : Decidable t.Legal :=
  decidable_of_iff
    ((t.machines.map Machine.key).Nodup ∧ (t.rooms.map Room.key).Nodup ∧
      (t.buildings.map Building.key).Nodup ∧
      (∀ b ∈ t.buildings, ∀ c ∈ t.buildings, b.location = c.location → b.name = c.name → b.id = c.id) ∧
      (∀ r ∈ t.rooms, ∀ q ∈ t.rooms, r.buildingId = q.buildingId → r.name = q.name → r.id = q.id) ∧
      (∀ r ∈ t.rooms, ∀ q ∈ t.rooms, r.adKey = q.adKey → r.adKey ≠ none → r.id = q.id) ∧
      (∀ r ∈ t.rooms, ∀ b ∈ r.buildingId, b ∈ t.buildings.map Building.key) ∧
      ∀ m ∈ t.machines, ∀ r ∈ m.roomId, r ∈ t.rooms.map Room.key)
    ⟨fun ⟨h₁, h₂, h₃, h₄, h₅, h₆, h₇, h₈⟩ => ⟨h₁, h₂, h₃, h₄, h₅, h₆, h₇, h₈⟩,
      fun ⟨h₁, h₂, h₃, h₄, h₅, h₆, h₇, h₈⟩ => ⟨h₁, h₂, h₃, h₄, h₅, h₆, h₇, h₈⟩⟩

/-- The primary keys. -/
structure Tables.Keyed (t : Tables) : Prop where
  machineIds : (t.machines.map Machine.key).Nodup
  roomIds : (t.rooms.map Room.key).Nodup
  buildingIds : (t.buildings.map Building.key).Nodup

lemma Tables.Legal.keyed {t : Tables} (h : t.Legal) : t.Keyed := ⟨h.machineIds, h.roomIds, h.buildingIds⟩

/-- What the handler of unhandled exceptions answers. -/
def serverError : AppError := ⟨.internalServerError, 500, "Internal server error"⟩

/-- What a request has written reaches the database: an `IntegrityError` is nobody's to handle. -/
def flush (t : Tables) : Except AppError Tables := if t.Legal then .ok t else .error serverError

/-- `uuid.uuid4`, drawn beside the identifiers in use. -/
structure Uuid4 where
  draw : List Uuid → Uuid
  fresh : ∀ used, draw used ∉ used

section Lookups

variable (t : Tables)

/-- `session.get(Machine, id)`. -/
def getMachine (id : Uuid) : Option Machine := rowOf Machine.key t.machines id

/-- `get_building`. -/
def getBuilding (id : Uuid) : Option Building := rowOf Building.key t.buildings id

/-- `get_room`. -/
def getRoom (id : Uuid) : Option Room := rowOf Room.key t.rooms id

/-- `building_by_name`: without a site, those without one. -/
def buildingByName (location : Option String) (name : String) : Option Building :=
  t.buildings.find? fun b => b.name = name && b.location = location

/-- `room_by_name`: without a building, those in none. -/
def roomByName (buildingId : Option Uuid) (name : String) : Option Room :=
  t.rooms.find? fun r => r.name = name && r.buildingId = buildingId

def Tables.writeMachine (m : Machine) : Tables := { t with machines := putRow Machine.key t.machines m }

def Tables.writeRoom (r : Room) : Tables := { t with rooms := putRow Room.key t.rooms r }

def Tables.writeBuilding (b : Building) : Tables :=
  { t with buildings := putRow Building.key t.buildings b }

end Lookups

/-! ### The site, in Python -/

/-- `effective_location`. -/
def effectiveLocation (room : Option Room) (building : Option Building) : Option String :=
  match room, building with
  | none, _ => none
  | some _, some building => building.location
  | some room, none => room.location

/-- Whether a text is true: there, and not empty. -/
def truthy (text : Option String) : Bool := text.any (· ≠ "")

/-- `location_mismatch`. -/
def locationMismatch (machineLocation roomLocation : Option String) : Bool :=
  truthy machineLocation && truthy roomLocation && machineLocation ≠ roomLocation

structure Placement where
  room : Option Room
  building : Option Building
  deriving DecidableEq

/-- `Placement.location`. -/
def Placement.location (p : Placement) : Option String := effectiveLocation p.room p.building

/-! ### The site, in SQL -/

/-- `… ON rooms.id = machines.room_id`. -/
def roomOn (m : Machine) (r : Room) : Sql.Truth := Sql.eq (some r.id) m.roomId

/-- `… ON buildings.id = rooms.building_id`. -/
def buildingOn (room : Option Room) (b : Building) : Sql.Truth :=
  Sql.eq (some b.id) (room.bind fun r => r.buildingId)

/-- A poste beside its room and its building, or nulls. -/
structure MachineRow where
  machine : Machine
  room : Option Room
  building : Option Building
  deriving DecidableEq

/-- The postes, outer-joined with their rooms and these with their buildings. -/
def machineRows (t : Tables) : List MachineRow :=
  (Sql.leftJoin (fun row b => buildingOn row.2 b) t.buildings
    (Sql.leftJoin roomOn t.rooms t.machines)).map fun row => ⟨row.1.1, row.1.2, row.2⟩

/-- The rooms, outer-joined with their buildings. -/
def roomRows (t : Tables) : List (Room × Option Building) :=
  Sql.leftJoin (fun r b => buildingOn (some r) b) t.buildings t.rooms

/-- `placement`: the entry of `placements`, or nothing. -/
def placement (t : Tables) (roomId : Option Uuid) : Placement :=
  match roomId.bind fun id => (roomRows t).find? fun row => row.1.id = id with
  | some (room, building) => ⟨some room, building⟩
  | none => ⟨none, none⟩

/-- `_room_location`. -/
def roomLocation (room : Option Room) (building : Option Building) : Option String :=
  Sql.coalesce (building.bind fun b => b.location) (room.bind fun r => r.location)

/-- `_mismatch_clause`. -/
def mismatchClause (row : MachineRow) : Sql.Truth :=
  let site := roomLocation row.room row.building
  ((Sql.isNotNull row.machine.location).and (Sql.isNotNull site)).and
    (Sql.ne row.machine.location site)

/-- The `location_mismatch` facet of `_filtered_machines`. -/
def filteredMachines (t : Tables) (locationMismatch : Option Bool) : List MachineRow :=
  match locationMismatch with
  | none => machineRows t
  | some true => Sql.select mismatchClause (machineRows t)
  | some false => Sql.select (fun row => (mismatchClause row).not) (machineRows t)

/-- `RoomCounts`. -/
structure RoomCounts where
  machines : ℕ
  mismatched : ℕ
  deriving DecidableEq

/-- `room_counts`, of one room: its group, over the postes joined with their room. -/
def roomCounts (t : Tables) (roomId : Uuid) : RoomCounts :=
  let joined := Sql.leftJoin (fun row b => buildingOn (some row.2) b) t.buildings
    (Sql.join roomOn t.rooms t.machines)
  let group := (joined.map fun row => MachineRow.mk row.1.1 (some row.1.2) row.2).filter
    fun row => row.machine.roomId = some roomId
  ⟨group.length, (Sql.select mismatchClause group).length⟩

end Tiai.Rooms
