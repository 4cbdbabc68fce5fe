import Tiai.Lib.Runs
import Tiai.Room.Routes

/-!
# One notion of a room's site

Runs of the building and room routes, and of the agents, one request at a time.

* `Sited`, `sited_run` — a room in a building has no site of its own, and no site is the empty text;
* `machineRows_eq` — a poste is joined with its room and its building;
* `one_site` — Python and SQL agree on the site of every poste, in every state reached;
* `building_removed` — when a building can be removed.
-/

namespace Tiai.Rooms

open Lib

/-! ### Runs -/

/-- The order in which a query without `ORDER BY` gives the postes. -/
structure RowOrder where
  apply : List Machine → List Machine
  perm : ∀ machines, (apply machines).Perm machines

inductive Request
  | createBuilding (scope : Option Scope) (uuid4 : Uuid4) (payload : BuildingCreate)
  | updateBuilding (scope : Option Scope) (id : Uuid) (payload : BuildingUpdate)
  | deleteBuilding (scope : Option Scope) (id : Uuid)
  | createRoom (scope : Option Scope) (uuid4 : Uuid4) (payload : RoomCreate)
  | updateRoom (scope : Option Scope) (id : Uuid) (payload : RoomUpdate)
  | deleteRoom (scope : Option Scope) (id : Uuid)
  | placeMachines (scope : Option Scope) (source : RoomSource) (id : Uuid) (ids : List Uuid)
  | unassignMachines (scope : Option Scope) (source : RoomSource) (ids : List Uuid)
  | syncDirectory (scope : Option Scope) (source : RoomSource) (uuid4 : Uuid4) (order : RowOrder)
  | enroll (id : Uuid) (location : Option (Option String))
  | heartbeat (source : RoomSource) (uuid4 : Uuid4) (id : Uuid) (location : Option (Option String))
      (directory : Option DirectoryReport)

structure Event where
  now : Time
  request : Request

/-- What a request writes. -/
def write (t : Tables) (e : Event) : Except AppError Tables :=
  match e.request with
  | .createBuilding scope uuid4 payload => Prod.fst <$> createBuilding scope e.now t uuid4 payload
  | .updateBuilding scope id payload => Prod.fst <$> updateBuilding scope e.now t id payload
  | .deleteBuilding scope id => deleteBuilding scope e.now t id
  | .createRoom scope uuid4 payload => Prod.fst <$> createRoom scope e.now t uuid4 payload
  | .updateRoom scope id payload => Prod.fst <$> updateRoom scope e.now t id payload
  | .deleteRoom scope id => deleteRoom scope t id
  | .placeMachines scope source id ids => Prod.fst <$> placeMachines scope e.now t source id ids
  | .unassignMachines scope source ids => Prod.fst <$> unassignMachines scope e.now t source ids
  | .syncDirectory scope source uuid4 order =>
    Prod.fst <$> syncDirectory scope e.now t source uuid4 (order.apply t.machines)
  | .enroll id location => enrollPlace e.now t id location
  | .heartbeat source uuid4 id location directory =>
    heartbeatPlace e.now t source uuid4 id location directory

/-- One request, committed; an error rolls it back. -/
def step (t : Tables) (e : Event) : Tables :=
  match write t e >>= flush with
  | .ok t' => t'
  | .error _ => t

/-! ### What every request keeps -/

/-- A room in a building has no site of its own, and a site is not the empty text. -/
structure Sited (t : Tables) : Prop where
  inBuilding : ∀ r ∈ t.rooms, r.buildingId ≠ none → r.location = none
  rooms : ∀ r ∈ t.rooms, r.location ≠ some ""
  buildings : ∀ b ∈ t.buildings, b.location ≠ some ""
  machines : ∀ m ∈ t.machines, m.location ≠ some ""

section Steps

variable {t t' : Tables} {scope : Option Scope} {now : Time} {source : RoomSource} {uuid4 : Uuid4} {id : Uuid}

lemma cleanLocation_ne (value : Option String) : cleanLocation value ≠ some "" := by
  unfold cleanLocation
  cases value with
  | none => simp
  | some v =>
    dsimp only
    split
    · simp
    · rename_i h
      simpa using h

lemma flush_ok (h : flush t = .ok t') : t' = t ∧ t.Legal := by
  unfold flush at h
  split at h
  · rename_i legal
    cases h
    exact ⟨rfl, legal⟩
  · cases h

lemma map_fst_ok {α : Type} {x : Except AppError (Tables × α)} (h : Prod.fst <$> x = .ok t') :
    ∃ a, x = .ok (t', a) := by
  cases x with
  | error e => cases h
  | ok p =>
    obtain ⟨t₁, a⟩ := p
    cases h
    exact ⟨a, rfl⟩

lemma requireBuilding_ok {b : Building} (h : requireBuilding t scope id = .ok b) :
    b ∈ t.buildings ∧ b.id = id := by
  unfold requireBuilding at h
  split at h
  · cases h
  · rename_i building hget
    split at h
    · cases h
      exact ⟨mem_of_rowOf hget, show b.key = id from key_of_rowOf hget⟩
    · cases h

lemma requireRoom_ok {r : Room} (h : requireRoom t scope id = .ok r) : r ∈ t.rooms ∧ r.id = id := by
  unfold requireRoom at h
  split at h
  · cases h
  · rename_i room hget
    split at h
    · cases h
      exact ⟨mem_of_rowOf hget, show r.key = id from key_of_rowOf hget⟩
    · cases h

lemma unlinked_detached_of_eq {building : Building} {room : Room} (hin : room.buildingId = some building.id)
    (hsite : room.location = none) : unlinked building (detached now building room) =
      { room with buildingId := none, location := building.location, updatedAt := now } := by
  rw [detached, if_pos ⟨hin, hsite⟩, unlinked, if_pos hin]

lemma unlinked_detached_of_ne {building : Building} {room : Room} (hin : room.buildingId ≠ some building.id) :
    unlinked building (detached now building room) = room := by
  rw [detached, if_neg fun h => hin h.1, unlinked, if_neg hin]

lemma Sited.writeMachine {m : Machine} (h : Sited t) (hm : m.location ≠ some "") :
    Sited (t.writeMachine m) := by
  refine { h with machines := fun x hx => ?_ }
  rcases mem_putRow hx with rfl | ⟨hx, -⟩
  · exact hm
  · exact h.machines x hx

/-- Rooms that come from rooms, or are sited themselves. -/
lemma Sited.withRooms {rooms : List Room} (h : Sited t)
    (hrooms : ∀ r ∈ rooms, r ∈ t.rooms ∨
      (r.buildingId ≠ none → r.location = none) ∧ r.location ≠ some "") :
    Sited { t with rooms := rooms } := by
  refine { h with inBuilding := fun r hr hb => ?_, rooms := fun r hr => ?_ }
  · rcases hrooms r hr with hr | ⟨hin, -⟩
    · exact h.inBuilding r hr hb
    · exact hin hb
  · rcases hrooms r hr with hr | ⟨-, hne⟩
    · exact h.rooms r hr
    · exact hne

lemma createBuilding_sited {payload : BuildingCreate} {b : Building} (h : Sited t)
    (hok : createBuilding scope now t uuid4 payload = .ok (t', b)) : Sited t' := by
  unfold createBuilding at hok
  obtain ⟨-, -, hok⟩ := bind_eq_ok hok
  obtain ⟨-, -, hok⟩ := bind_eq_ok hok
  obtain ⟨t₁, hflush, hok⟩ := bind_eq_ok hok
  cases hok
  obtain ⟨rfl, -⟩ := flush_ok hflush
  refine { h with buildings := fun x hx => ?_ }
  rcases List.mem_append.1 hx with hx | hx
  · exact h.buildings x hx
  · rw [List.mem_singleton.1 hx]
    exact cleanLocation_ne _

lemma updateBuilding_sited {payload : BuildingUpdate} {b : Building} (h : Sited t)
    (hok : updateBuilding scope now t id payload = .ok (t', b)) : Sited t' := by
  unfold updateBuilding at hok
  obtain ⟨building, hbuilding, hok⟩ := bind_eq_ok hok
  obtain ⟨-, -, hok⟩ := bind_eq_ok hok
  obtain ⟨-, -, hok⟩ := bind_eq_ok hok
  obtain ⟨-, -, hok⟩ := bind_eq_ok hok
  obtain ⟨-, -, hok⟩ := bind_eq_ok hok
  obtain ⟨t₁, hflush, hok⟩ := bind_eq_ok hok
  cases hok
  obtain ⟨rfl, -⟩ := flush_ok hflush
  refine { h with buildings := fun x hx => ?_ }
  rcases mem_putRow hx with rfl | ⟨hx, -⟩
  · change payload.location.elim building.location cleanLocation ≠ some ""
    cases payload.location with
    | none => exact h.buildings building (requireBuilding_ok hbuilding).1
    | some location => exact cleanLocation_ne location
  · exact h.buildings x hx

lemma deleteBuilding_sited (h : Sited t) (hok : deleteBuilding scope now t id = .ok t') : Sited t' := by
  unfold deleteBuilding at hok
  obtain ⟨building, hbuilding, hok⟩ := bind_eq_ok hok
  obtain ⟨-, -, hok⟩ := bind_eq_ok hok
  obtain ⟨rfl, -⟩ := flush_ok hok
  have hmem := (requireBuilding_ok hbuilding).1
  have hrooms : ∀ r ∈ (withoutBuilding now t building).rooms,
      r ∈ t.rooms ∨ (r.buildingId ≠ none → r.location = none) ∧ r.location ≠ some "" := by
    intro r hr
    obtain ⟨x, hx, rfl⟩ := List.mem_map.1 hr
    obtain ⟨y, hy, rfl⟩ := List.mem_map.1 hx
    by_cases hin : y.buildingId = some building.id
    · right
      rw [unlinked_detached_of_eq hin (h.inBuilding y hy (by rw [hin]; simp))]
      exact ⟨fun hne => absurd rfl hne, h.buildings building hmem⟩
    · left
      rw [unlinked_detached_of_ne hin]
      exact hy
  have hrooms := h.withRooms hrooms
  exact { hrooms with buildings := fun b hb => h.buildings b (List.mem_of_mem_filter hb) }

lemma createRoom_sited {payload : RoomCreate} {r : Room} (h : Sited t)
    (hok : createRoom scope now t uuid4 payload = .ok (t', r)) : Sited t' := by
  unfold createRoom at hok
  obtain ⟨-, -, hok⟩ := bind_eq_ok hok
  obtain ⟨-, -, hok⟩ := bind_eq_ok hok
  obtain ⟨t₁, hflush, hok⟩ := bind_eq_ok hok
  obtain ⟨-, -, hok⟩ := bind_eq_ok hok
  cases hok
  obtain ⟨rfl, -⟩ := flush_ok hflush
  refine h.withRooms fun x hx => ?_
  rcases List.mem_append.1 hx with hx | hx
  · exact Or.inl hx
  · right
    rw [List.mem_singleton.1 hx]
    by_cases hb : payload.buildingId = none
    · refine ⟨fun hne => absurd hb hne, ?_⟩
      simp only [if_pos hb]
      exact cleanLocation_ne _
    · simp [if_neg hb]

lemma updateRoom_sited {payload : RoomUpdate} {r : Room} (h : Sited t)
    (hok : updateRoom scope now t id payload = .ok (t', r)) : Sited t' := by
  unfold updateRoom at hok
  obtain ⟨room, hroom, hok⟩ := bind_eq_ok hok
  obtain ⟨-, -, hok⟩ := bind_eq_ok hok
  obtain ⟨-, -, hok⟩ := bind_eq_ok hok
  obtain ⟨-, -, hok⟩ := bind_eq_ok hok
  obtain ⟨t₁, hflush, hok⟩ := bind_eq_ok hok
  obtain ⟨-, -, hok⟩ := bind_eq_ok hok
  cases hok
  obtain ⟨rfl, -⟩ := flush_ok hflush
  have hmem := (requireRoom_ok hroom).1
  refine h.withRooms fun x hx => ?_
  rcases mem_putRow hx with rfl | ⟨hx, -⟩
  · right
    change (payload.buildingId.getD room.buildingId ≠ none →
        (if payload.buildingId.getD room.buildingId = none then
          payload.location.elim room.location cleanLocation else none) = none) ∧
      (if payload.buildingId.getD room.buildingId = none then
        payload.location.elim room.location cleanLocation else none) ≠ some ""
    split
    · rename_i hb
      refine ⟨fun hne => absurd hb hne, ?_⟩
      cases payload.location with
      | none => exact h.rooms room hmem
      | some location => exact cleanLocation_ne location
    · simp
  · exact Or.inl hx

/-- Postes are moved from room to room. -/
lemma Sited.moved {machines : List Machine} (h : Sited t)
    (hmachines : ∀ m ∈ machines, ∃ x ∈ t.machines, m.location = x.location) :
    Sited { t with machines := machines } := by
  refine { h with machines := fun m hm => ?_ }
  obtain ⟨x, hx, heq⟩ := hmachines m hm
  rw [heq]
  exact h.machines x hx

lemma deleteRoom_sited (h : Sited t) (hok : deleteRoom scope t id = .ok t') : Sited t' := by
  unfold deleteRoom at hok
  obtain ⟨room, -, hok⟩ := bind_eq_ok hok
  obtain ⟨rfl, -⟩ := flush_ok hok
  have hrooms : Sited { t with rooms := t.rooms.filter (·.id ≠ room.id) } :=
    h.withRooms fun r hr => Or.inl (List.mem_of_mem_filter hr)
  refine hrooms.moved fun m hm => ?_
  obtain ⟨x, hx, rfl⟩ := List.mem_map.1 hm
  exact ⟨x, hx, by unfold leftRoom; split <;> rfl⟩

lemma setRoom_sited (h : Sited t) (ids : List Uuid) (roomId : Option Uuid) :
    Sited (setRoom now t ids roomId).1 := by
  refine h.moved fun m hm => ?_
  obtain ⟨x, hx, rfl⟩ := List.mem_map.1 hm
  exact ⟨x, hx, by split <;> rfl⟩

lemma placeMachines_sited {ids : List Uuid} {result : PlacementResult} (h : Sited t)
    (hok : placeMachines scope now t source id ids = .ok (t', result)) : Sited t' := by
  unfold placeMachines at hok
  obtain ⟨-, -, hok⟩ := bind_eq_ok hok
  obtain ⟨room, -, hok⟩ := bind_eq_ok hok
  obtain ⟨machines, -, hok⟩ := bind_eq_ok hok
  obtain ⟨t₁, hflush, hok⟩ := bind_eq_ok hok
  cases hok
  obtain ⟨rfl, -⟩ := flush_ok hflush
  exact setRoom_sited h ids _

lemma unassignMachines_sited {ids : List Uuid} {result : PlacementResult} (h : Sited t)
    (hok : unassignMachines scope now t source ids = .ok (t', result)) : Sited t' := by
  unfold unassignMachines at hok
  obtain ⟨-, -, hok⟩ := bind_eq_ok hok
  obtain ⟨machines, -, hok⟩ := bind_eq_ok hok
  obtain ⟨t₁, hflush, hok⟩ := bind_eq_ok hok
  cases hok
  obtain ⟨rfl, -⟩ := flush_ok hflush
  exact setRoom_sited h ids _

lemma roomForKey_sited {key name : String} {room : Room} {created : Bool} (h : Sited t)
    (hok : roomForKey uuid4 now t key name = .ok (t', room, created)) : Sited t' := by
  unfold roomForKey at hok
  split at hok
  · cases hok
    exact h
  · split at hok
    · rename_i loose hloose
      obtain ⟨t₁, hflush, hok⟩ := bind_eq_ok hok
      cases hok
      obtain ⟨rfl, -⟩ := flush_ok hflush
      obtain ⟨hname, -⟩ := Option.filter_eq_some_iff.1 hloose
      have hmem : loose ∈ t.rooms := List.mem_of_find?_eq_some hname
      refine h.withRooms fun x hx => ?_
      rcases mem_putRow hx with rfl | ⟨hx, -⟩
      · exact Or.inr ⟨h.inBuilding loose hmem, h.rooms loose hmem⟩
      · exact Or.inl hx
    · obtain ⟨t₁, hflush, hok⟩ := bind_eq_ok hok
      cases hok
      obtain ⟨rfl, -⟩ := flush_ok hflush
      refine h.withRooms fun x hx => ?_
      rcases List.mem_append.1 hx with hx | hx
      · exact Or.inl hx
      · rw [List.mem_singleton.1 hx]
        exact Or.inr ⟨fun _ => rfl, by simp [newRoom]⟩

lemma setRoomOf_sited {m : Machine} (h : Sited t) (hm : m.location ≠ some "") (roomId : Option Uuid) :
    Sited (setRoomOf now t m roomId) := by
  unfold setRoomOf
  split
  · exact h.writeMachine hm
  · exact h

lemma placeFromDirectory_sited {m : Machine} {created : Bool} (h : Sited t) (hm : m.location ≠ some "")
    (hok : placeFromDirectory source uuid4 now t m = .ok (t', created)) : Sited t' := by
  unfold placeFromDirectory at hok
  split at hok
  · cases hok
    exact h
  · split at hok
    · cases hok
      exact setRoomOf_sited h hm none
    · obtain ⟨⟨t₁, room, c⟩, hroom, hok⟩ := bind_eq_ok hok
      cases hok
      exact setRoomOf_sited (roomForKey_sited h hroom) hm _

lemma syncLoop_sited {machines : List Machine} (hmachines : ∀ m ∈ machines, m.location ≠ some "")
    {t : Tables} {result result' : SyncResult} (h : Sited t)
    (hok : syncLoop source uuid4 now t result machines = .ok (t', result')) : Sited t' := by
  induction machines generalizing t result with
  | nil =>
    cases hok
    exact h
  | cons m machines ih =>
    unfold syncLoop at hok
    obtain ⟨⟨t₁, created⟩, hplace, hok⟩ := bind_eq_ok hok
    have h₁ := placeFromDirectory_sited h (hmachines m List.mem_cons_self) hplace
    exact ih (fun x hx => hmachines x (List.mem_cons_of_mem m hx)) h₁ hok

lemma syncDirectory_sited {machines : List Machine} (hmachines : ∀ m ∈ machines, m.location ≠ some "")
    {result : SyncResult} (h : Sited t)
    (hok : syncDirectory scope now t source uuid4 machines = .ok (t', result)) : Sited t' := by
  unfold syncDirectory at hok
  obtain ⟨-, -, hok⟩ := bind_eq_ok hok
  obtain ⟨⟨t₁, result₁⟩, hsync, hok⟩ := bind_eq_ok hok
  obtain ⟨t₂, hflush, hok⟩ := bind_eq_ok hok
  cases hok
  obtain ⟨rfl, -⟩ := flush_ok hflush
  unfold syncFromDirectory at hsync
  split at hsync
  · cases hsync
    exact h
  · exact syncLoop_sited hmachines h hsync

/-- What an agent says of its site is cleaned; when it says nothing, the site stays. -/
lemma location_ne {m : Machine} (h : m.location ≠ some "") (location : Option (Option String)) :
    location.elim m.location cleanLocation ≠ some "" := by
  cases location with
  | none => exact h
  | some location => exact cleanLocation_ne location

lemma enrollPlace_sited {location : Option (Option String)} (h : Sited t)
    (hok : enrollPlace now t id location = .ok t') : Sited t' := by
  unfold enrollPlace at hok
  split at hok
  · obtain ⟨rfl, -⟩ := flush_ok hok
    refine { h with machines := fun x hx => ?_ }
    rcases List.mem_append.1 hx with hx | hx
    · exact h.machines x hx
    · rw [List.mem_singleton.1 hx]
      cases location with
      | none => simp
      | some location => exact cleanLocation_ne location
  · rename_i m hget
    obtain ⟨rfl, -⟩ := flush_ok hok
    exact h.writeMachine (location_ne (h.machines m (mem_of_rowOf hget)) location)

lemma heartbeatPlace_sited {location : Option (Option String)} {directory : Option DirectoryReport}
    (h : Sited t) (hok : heartbeatPlace now t source uuid4 id location directory = .ok t') : Sited t' := by
  unfold heartbeatPlace at hok
  split at hok
  · cases hok
    exact h
  · rename_i m hget
    have hm := location_ne (h.machines m (mem_of_rowOf hget)) location
    cases directory with
    | none =>
      obtain ⟨rfl, -⟩ := flush_ok hok
      exact h.writeMachine hm
    | some directory =>
      obtain ⟨t₁, hflush, hok⟩ := bind_eq_ok hok
      obtain ⟨⟨t₂, created⟩, hplace, hlast⟩ := bind_eq_ok hok
      obtain ⟨rfl, -⟩ := flush_ok (show flush t₂ = .ok t' from hlast)
      obtain ⟨rfl, -⟩ := flush_ok hflush
      exact placeFromDirectory_sited (h.writeMachine hm) hm hplace

/-- Every request keeps the sites in order. -/
lemma write_sited {e : Event} (h : Sited t) (hok : write t e = .ok t') : Sited t' := by
  obtain ⟨now, request⟩ := e
  cases request with
  | createBuilding scope uuid4 payload =>
    obtain ⟨b, hok⟩ := map_fst_ok hok
    exact createBuilding_sited h hok
  | updateBuilding scope id payload =>
    obtain ⟨b, hok⟩ := map_fst_ok hok
    exact updateBuilding_sited h hok
  | deleteBuilding scope id => exact deleteBuilding_sited h hok
  | createRoom scope uuid4 payload =>
    obtain ⟨r, hok⟩ := map_fst_ok hok
    exact createRoom_sited h hok
  | updateRoom scope id payload =>
    obtain ⟨r, hok⟩ := map_fst_ok hok
    exact updateRoom_sited h hok
  | deleteRoom scope id => exact deleteRoom_sited h hok
  | placeMachines scope source id ids =>
    obtain ⟨result, hok⟩ := map_fst_ok hok
    exact placeMachines_sited h hok
  | unassignMachines scope source ids =>
    obtain ⟨result, hok⟩ := map_fst_ok hok
    exact unassignMachines_sited h hok
  | syncDirectory scope source uuid4 order =>
    obtain ⟨result, hok⟩ := map_fst_ok hok
    exact syncDirectory_sited (fun m hm => h.machines m ((order.perm t.machines).subset hm)) h hok
  | enroll id location => exact enrollPlace_sited h hok
  | heartbeat source uuid4 id location directory => exact heartbeatPlace_sited h hok

end Steps

/-- What holds of every state reached. -/
structure Sound (t : Tables) : Prop extends Sited t where
  legal : t.Legal

lemma step_sound (t : Tables) (e : Event) (h : Sound t) : Sound (step t e) := by
  unfold step
  cases hok : write t e >>= flush with
  | error _ => exact h
  | ok t' =>
    obtain ⟨t₁, hwrite, hflush⟩ := bind_eq_ok hok
    obtain ⟨rfl, legal⟩ := flush_ok hflush
    exact ⟨write_sited h.toSited hwrite, legal⟩

/-- **Every state reached** keeps the constraints, and its sites in order. -/
theorem run_sound (events : List Event) : Sound (run step .empty events) := by
  refine run_invariant step_sound ?_ events
  exact ⟨⟨by simp [Tables.empty], by simp [Tables.empty], by simp [Tables.empty], by simp [Tables.empty]⟩,
    by decide⟩

/-! ### A poste beside its room and its building -/

section Placed

variable {t : Tables}

/-- The room of a poste. -/
def roomOf (t : Tables) (m : Machine) : Option Room := m.roomId.bind (getRoom t)

/-- The building of a room. -/
def buildingOf (t : Tables) (room : Option Room) : Option Building :=
  (room.bind fun r => r.buildingId).bind (getBuilding t)

lemma select_roomOn (keyed : t.Keyed) (m : Machine) :
    Sql.select (roomOn m) t.rooms = (roomOf t m).toList := Sql.select_key keyed.roomIds m.roomId

lemma select_buildingOn (keyed : t.Keyed) (room : Option Room) :
    Sql.select (buildingOn room) t.buildings = (buildingOf t room).toList :=
  Sql.select_key keyed.buildingIds (room.bind fun r => r.buildingId)

/-- **The join** has one row for each poste: its room and its building. -/
theorem machineRows_eq (keyed : t.Keyed) :
    machineRows t = t.machines.map fun m => ⟨m, roomOf t m, buildingOf t (roomOf t m)⟩ := by
  rw [machineRows, Sql.leftJoin_eq_map (roomOf t) fun m _ => select_roomOn keyed m,
    Sql.leftJoin_eq_map (fun row => buildingOf t row.2) fun row _ => select_buildingOn keyed row.2,
    List.map_map, List.map_map]
  rfl

lemma roomRows_eq (keyed : t.Keyed) : roomRows t = t.rooms.map fun r => (r, buildingOf t (some r)) :=
  Sql.leftJoin_eq_map (fun r => buildingOf t (some r)) fun r _ => select_buildingOn keyed (some r)

/-- The query for one placement finds what the join finds. -/
lemma placement_eq (keyed : t.Keyed) (m : Machine) :
    placement t m.roomId = ⟨roomOf t m, buildingOf t (roomOf t m)⟩ := by
  have hfind (id : Uuid) : (roomRows t).find? (fun row => row.1.id = id) =
      (getRoom t id).map fun r => (r, buildingOf t (some r)) := by
    rw [roomRows_eq keyed, List.find?_map]
    rfl
  unfold placement roomOf
  cases m.roomId with
  | none => rfl
  | some id =>
    rw [Option.bind_some, Option.bind_some, hfind]
    cases getRoom t id with
    | none => rfl
    | some r => rfl

/-- The site that a scope compares is the one of the column. -/
lemma roomSite_eq (r : Room) : roomSite t.places r.toRoom =
    ((r.buildingId.bind (getBuilding t)).bind fun b => b.location).or r.location := by
  unfold roomSite
  have hfind : ∀ id, (t.places.buildings.find? fun b => b.id = id) =
      (getBuilding t id).map Building.toBuilding := by
    intro id
    change (t.buildings.map Building.toBuilding).find? _ = _
    rw [List.find?_map]
    rfl
  cases r.buildingId with
  | none => rfl
  | some id =>
    rw [Option.bind_some, hfind]
    cases hget : getBuilding t id with
    | none => rw [Option.bind_some, hget]; rfl
    | some b => rw [Option.bind_some, hget]; rfl

/-- A room in a building has no second answer to give. -/
lemma effectiveLocation_eq (h : Sound t) (m : Machine) :
    effectiveLocation (roomOf t m) (buildingOf t (roomOf t m)) =
      roomLocation (roomOf t m) (buildingOf t (roomOf t m)) := by
  cases hroom : roomOf t m with
  | none => rfl
  | some r =>
    have hmem : r ∈ t.rooms := by
      obtain ⟨id, -, hget⟩ := Option.bind_eq_some_iff.1 hroom
      exact mem_of_rowOf hget
    cases hbuilding : buildingOf t (some r) with
    | none => rfl
    | some b =>
      have hin : r.buildingId ≠ none := by
        intro hnone
        simp [buildingOf, hnone] at hbuilding
      change b.location = b.location.or r.location
      rw [h.inBuilding r hmem hin, Option.or_none]

lemma effectiveLocation_ne (h : Sound t) (m : Machine) :
    effectiveLocation (roomOf t m) (buildingOf t (roomOf t m)) ≠ some "" := by
  cases hroom : roomOf t m with
  | none => simp [effectiveLocation]
  | some r =>
    cases hbuilding : buildingOf t (some r) with
    | none =>
      obtain ⟨id, -, hget⟩ := Option.bind_eq_some_iff.1 hroom
      exact h.rooms r (mem_of_rowOf hget)
    | some b =>
      obtain ⟨id, -, hget⟩ := Option.bind_eq_some_iff.1 hbuilding
      exact h.buildings b (mem_of_rowOf hget)

/-- On texts that are not empty, the clause is the test, and never unknown. -/
lemma mismatchClause_eq {row : MachineRow} {site : Option String}
    (hsite : roomLocation row.room row.building = site) (hmachine : row.machine.location ≠ some "")
    (hroom : site ≠ some "") : mismatchClause row = some (locationMismatch row.machine.location site) := by
  unfold mismatchClause locationMismatch
  rw [hsite]
  cases hm : row.machine.location with
  | none => cases site <;> rfl
  | some l =>
    rw [hm] at hmachine
    cases site with
    | none => simp [truthy, Sql.isNotNull, Sql.Truth.and]
    | some s =>
      have hl : l ≠ "" := fun h => hmachine (h ▸ rfl)
      have hs : s ≠ "" := fun h => hroom (h ▸ rfl)
      by_cases heq : l = s
      · simp [truthy, Sql.isNotNull, Sql.Truth.and, Sql.ne, Sql.compare, hs, heq]
      · simp [truthy, Sql.isNotNull, Sql.Truth.and, Sql.ne, Sql.compare, hl, hs, heq]

/-- A poste, joined with its places. -/
def rowOfMachine (t : Tables) (m : Machine) : MachineRow := ⟨m, roomOf t m, buildingOf t (roomOf t m)⟩

/-- The group of a room holds its postes. -/
lemma roomCounts_eq (keyed : t.Keyed) {room : Room} (hroom : room ∈ t.rooms) :
    roomCounts t room.id =
      ⟨(t.machines.filter (·.roomId = some room.id)).length,
        (Sql.select mismatchClause
          ((t.machines.filter (·.roomId = some room.id)).map (rowOfMachine t))).length⟩ := by
  have hget : getRoom t room.id = some room := (rowOf_eq_some_iff keyed.roomIds).2 ⟨hroom, rfl⟩
  have hgroup : ((Sql.leftJoin (fun row b => buildingOn (some row.2) b) t.buildings
      (Sql.join roomOn t.rooms t.machines)).map fun row => MachineRow.mk row.1.1 (some row.1.2) row.2).filter
        (fun row => row.machine.roomId = some room.id) =
      (t.machines.filter (·.roomId = some room.id)).map (rowOfMachine t) := by
    rw [Sql.join_eq_filterMap (roomOf t) fun m _ => select_roomOn keyed m,
      Sql.leftJoin_eq_map (fun row : Machine × Room => buildingOf t (some row.2)) fun row _ =>
        select_buildingOn keyed (some row.2),
      List.map_map, List.map_filterMap, List.filter_filterMap, ← List.filterMap_eq_map, List.filterMap_filter]
    refine List.filterMap_congr fun m _ => ?_
    by_cases hin : m.roomId = some room.id
    · have hof : roomOf t m = some room := by rw [roomOf, hin, Option.bind_some, hget]
      simp [hof, hin, rowOfMachine]
    · cases hof : roomOf t m with
      | none => simp [hin]
      | some r => simp [hin]
  unfold roomCounts
  dsimp only
  rw [hgroup, List.length_map]

end Placed

/-- Whether a poste is on another site than its room, in Python. -/
def mismatched (t : Tables) (m : Machine) : Bool := locationMismatch m.location (placement t m.roomId).location

section Mismatch

variable {t : Tables}

/-- The clause is the test, and never unknown. -/
lemma mismatchClause_rowOfMachine (sound : Sound t) {m : Machine} (hm : m ∈ t.machines) :
    mismatchClause (rowOfMachine t m) = some (mismatched t m) := by
  have hsite := effectiveLocation_eq sound m
  rw [mismatched, placement_eq sound.legal.keyed]
  exact mismatchClause_eq hsite.symm (sound.machines m hm) (effectiveLocation_ne sound m)

/-- A clause on the joined rows is a test on the postes. -/
lemma select_rowOfMachine (p : MachineRow → Sql.Truth) (q : Machine → Bool) {machines : List Machine}
    (h : ∀ m ∈ machines, p (rowOfMachine t m) = some (q m)) :
    Sql.select p (machines.map (rowOfMachine t)) = (machines.filter q).map (rowOfMachine t) := by
  rw [Sql.select, List.filter_map]
  congr 1
  refine List.filter_congr fun m hm => ?_
  simp [h m hm]

lemma filteredMachines_eq (sound : Sound t) (b : Bool) : filteredMachines t (some b) =
    (t.machines.filter (mismatched t · = b)).map (rowOfMachine t) := by
  cases b with
  | true =>
    rw [filteredMachines, machineRows_eq sound.legal.keyed]
    refine select_rowOfMachine mismatchClause _ fun m hm => ?_
    rw [mismatchClause_rowOfMachine sound hm]
    simp
  | false =>
    rw [filteredMachines, machineRows_eq sound.legal.keyed]
    refine select_rowOfMachine (fun row => (mismatchClause row).not) _ fun m hm => ?_
    rw [mismatchClause_rowOfMachine sound hm]
    cases mismatched t m <;> rfl

lemma mem_filteredMachines (sound : Sound t) {m : Machine} (hm : m ∈ t.machines) (b : Bool) :
    rowOfMachine t m ∈ filteredMachines t (some b) ↔ mismatched t m = b := by
  rw [filteredMachines_eq sound, List.mem_map]
  constructor
  · rintro ⟨x, hx, heq⟩
    obtain rfl : x = m := congrArg MachineRow.machine heq
    exact of_decide_eq_true (List.mem_filter.1 hx).2
  · intro h
    exact ⟨m, List.mem_filter.2 ⟨hm, decide_eq_true h⟩, rfl⟩

end Mismatch

/-- **One notion of a room's site.**  In every state reached, a room in a building has no site of its own; a
poste is joined once, with the placement that Python finds; the site and the test of Python are the column and
the clause of SQL, which is never unknown; and the filters and the counts are those of the test. -/
theorem one_site (events : List Event) :
    let t := run step .empty events
    (∀ r ∈ t.rooms, r.buildingId ≠ none → r.location = none) ∧
    (machineRows t).map MachineRow.machine = t.machines ∧
    (∀ row ∈ machineRows t, placement t row.machine.roomId = ⟨row.room, row.building⟩ ∧
      (placement t row.machine.roomId).location = roomLocation row.room row.building ∧
      mismatchClause row = some (mismatched t row.machine)) ∧
    (∀ b, (filteredMachines t (some b)).map MachineRow.machine = t.machines.filter (mismatched t · = b)) ∧
    (∀ row ∈ machineRows t,
      row ∈ filteredMachines t (some false) ↔ row ∉ filteredMachines t (some true)) ∧
    ∀ r ∈ t.rooms, roomCounts t r.id =
      ⟨(t.machines.filter (·.roomId = some r.id)).length,
        (t.machines.filter fun m => m.roomId = some r.id ∧ mismatched t m = true).length⟩ := by
  intro t
  have sound : Sound t := run_sound events
  have keyed := sound.legal.keyed
  have hrows : machineRows t = t.machines.map (rowOfMachine t) := machineRows_eq keyed
  have hmachine : MachineRow.machine ∘ rowOfMachine t = id := rfl
  refine ⟨sound.inBuilding, ?_, ?_, ?_, ?_, ?_⟩
  · rw [hrows, List.map_map, hmachine, List.map_id]
  · intro row hrow
    rw [hrows] at hrow
    obtain ⟨m, hm, rfl⟩ := List.mem_map.1 hrow
    have hplace : placement t m.roomId = ⟨roomOf t m, buildingOf t (roomOf t m)⟩ := placement_eq keyed m
    refine ⟨hplace, ?_, mismatchClause_rowOfMachine sound hm⟩
    change (placement t m.roomId).location = _
    rw [hplace]
    exact effectiveLocation_eq sound m
  · intro b
    rw [filteredMachines_eq sound, List.map_map, hmachine, List.map_id]
  · intro row hrow
    rw [hrows] at hrow
    obtain ⟨m, hm, rfl⟩ := List.mem_map.1 hrow
    rw [mem_filteredMachines sound hm, mem_filteredMachines sound hm]
    cases mismatched t m <;> simp
  · intro r hr
    rw [roomCounts_eq keyed hr, select_rowOfMachine mismatchClause (mismatched t) fun m hm =>
      mismatchClause_rowOfMachine sound (List.mem_of_mem_filter hm), List.length_map, List.filter_filter]
    congr 2
    refine List.filter_congr fun m _ => ?_
    simp [Bool.and_comm]

/-! ### A building is removed -/

section Removal

variable {t : Tables} {building : Building} {now : Time}

/-- The site of a room, in Python. -/
def siteOf (t : Tables) (room : Room) : Option String := effectiveLocation (some room) (buildingOf t (some room))

/-- A room of the building has the name of a room in none. -/
def Collides (t : Tables) (building : Building) : Prop :=
  ∃ r ∈ t.rooms, ∃ q ∈ t.rooms, r.buildingId = some building.id ∧ q.buildingId = none ∧ r.name = q.name

/-- A room, after its building was removed. -/
def removed (now : Time) (building : Building) (room : Room) : Room := unlinked building (detached now building room)

lemma removed_key (room : Room) : (removed now building room).key = room.key := by
  unfold removed unlinked detached Room.key
  split <;> split <;> rfl

lemma removed_name (room : Room) : (removed now building room).name = room.name := by
  unfold removed unlinked detached
  split <;> split <;> rfl

lemma removed_adKey (room : Room) : (removed now building room).adKey = room.adKey := by
  unfold removed unlinked detached
  split <;> split <;> rfl

lemma removed_buildingId (room : Room) : (removed now building room).buildingId =
    if room.buildingId = some building.id then none else room.buildingId := by
  unfold removed unlinked detached
  by_cases hin : room.buildingId = some building.id
  · by_cases hloc : room.location = none <;> simp [hin, hloc]
  · simp [hin]

lemma withoutBuilding_rooms : (withoutBuilding now t building).rooms = t.rooms.map (removed now building) := by
  rw [withoutBuilding, List.map_map]
  rfl

/-- **The uniqueness of the names** is the only constraint at stake. -/
theorem withoutBuilding_legal_iff (legal : t.Legal) :
    (withoutBuilding now t building).Legal ↔ ¬Collides t building := by
  have hkeys : (withoutBuilding now t building).rooms.map Room.key = t.rooms.map Room.key := by
    rw [withoutBuilding_rooms, List.map_map]
    exact List.map_congr_left fun r _ => removed_key r
  have hmem : ∀ r ∈ (withoutBuilding now t building).rooms, ∃ x ∈ t.rooms, r = removed now building x := by
    intro r hr
    rw [withoutBuilding_rooms] at hr
    obtain ⟨x, hx, rfl⟩ := List.mem_map.1 hr
    exact ⟨x, hx, rfl⟩
  constructor
  · rintro h ⟨r, hr, q, hq, hin, hloose, hname⟩
    have hrooms := h.roomNames (removed now building r) (by
      rw [withoutBuilding_rooms]
      exact List.mem_map_of_mem hr) (removed now building q) (by
      rw [withoutBuilding_rooms]
      exact List.mem_map_of_mem hq)
    rw [removed_buildingId, removed_buildingId, removed_name, removed_name, if_pos hin,
      if_neg (by rw [hloose]; simp)] at hrooms
    have hid : (removed now building r).key = (removed now building q).key := hrooms hloose.symm hname
    rw [removed_key, removed_key] at hid
    rw [eq_of_key_eq legal.roomIds hr hq hid, hloose] at hin
    cases hin
  · intro hfree
    refine { legal with
      roomIds := ?_, buildingIds := ?_, buildingNames := ?_, roomNames := ?_, adKeys := ?_, roomBuilding := ?_,
      machineRoom := ?_ }
    · rw [hkeys]
      exact legal.roomIds
    · exact legal.buildingIds.sublist (List.filter_sublist.map _)
    · intro b hb c hc
      exact legal.buildingNames b (List.mem_of_mem_filter hb) c (List.mem_of_mem_filter hc)
    · intro r hr q hq
      obtain ⟨x, hx, rfl⟩ := hmem r hr
      obtain ⟨y, hy, rfl⟩ := hmem q hq
      rw [removed_buildingId, removed_buildingId, removed_name, removed_name]
      intro hbuilding hname
      have hid : x.id = y.id := by
        by_cases hxin : x.buildingId = some building.id <;> by_cases hyin : y.buildingId = some building.id
        · exact legal.roomNames x hx y hy (hxin.trans hyin.symm) hname
        · rw [if_pos hxin, if_neg hyin] at hbuilding
          exact absurd ⟨x, hx, y, hy, hxin, hbuilding.symm, hname⟩ hfree
        · rw [if_neg hxin, if_pos hyin] at hbuilding
          exact absurd ⟨y, hy, x, hx, hyin, hbuilding, hname.symm⟩ hfree
        · rw [if_neg hxin, if_neg hyin] at hbuilding
          exact legal.roomNames x hx y hy hbuilding hname
      calc (removed now building x).id = x.id := removed_key x
        _ = y.id := hid
        _ = (removed now building y).id := (removed_key y).symm
    · intro r hr q hq
      obtain ⟨x, hx, rfl⟩ := hmem r hr
      obtain ⟨y, hy, rfl⟩ := hmem q hq
      rw [removed_adKey, removed_adKey]
      intro hkey hsome
      calc (removed now building x).id = x.id := removed_key x
        _ = y.id := legal.adKeys x hx y hy hkey hsome
        _ = (removed now building y).id := (removed_key y).symm
    · intro r hr b hb
      obtain ⟨x, hx, rfl⟩ := hmem r hr
      rw [removed_buildingId] at hb
      split at hb
      · cases hb
      · rename_i hne
        obtain ⟨c, hc, hcb⟩ := List.mem_map.1 (legal.roomBuilding x hx b hb)
        refine List.mem_map.2 ⟨c, List.mem_filter.2 ⟨hc, decide_eq_true fun hid => hne ?_⟩, hcb⟩
        rw [show x.buildingId = some b from hb, ← hcb]
        exact congrArg some hid
    · intro m hm r hr
      rw [hkeys]
      exact legal.machineRoom m hm r hr

/-- Who may write a building sees it. -/
lemma requireBuilding_of_writable (legal : t.Legal) (hmem : building ∈ t.buildings) {scope : Option Scope}
    (hwritable : buildingWritable building scope = true) : requireBuilding t scope building.id = .ok building := by
  have hget : getBuilding t building.id = some building := (rowOf_eq_some_iff legal.buildingIds).2 ⟨hmem, rfl⟩
  have hvisible : buildingVisible t.places scope building.toBuilding = true := by
    cases scope with
    | none => rfl
    | some s =>
      simp only [buildingWritable, Option.all_some, Bool.or_eq_true] at hwritable
      simp only [buildingVisible, Option.all_some, buildingIn, Bool.or_eq_true]
      exact Or.inl hwritable.symm
  rw [requireBuilding, hget]
  exact if_pos hvisible

/-- A room keeps its site when its building is removed, and is left alone when another one is. -/
lemma siteOf_removed (sound : Sound t) (hmem : building ∈ t.buildings) {room : Room} (hroom : room ∈ t.rooms) :
    (room.buildingId = some building.id →
      siteOf (withoutBuilding now t building) (removed now building room) = siteOf t room) ∧
    (room.buildingId ≠ some building.id → removed now building room = room) := by
  refine ⟨fun hin => ?_, fun hne => unlinked_detached_of_ne hne⟩
  have hsite : room.location = none := sound.inBuilding room hroom (by rw [hin]; simp)
  have hget : getBuilding t building.id = some building :=
    (rowOf_eq_some_iff sound.legal.buildingIds).2 ⟨hmem, rfl⟩
  have hbuilding : buildingOf t (some room) = some building := by
    rw [buildingOf, Option.bind_some, hin, Option.bind_some, hget]
  rw [siteOf, siteOf, removed, unlinked_detached_of_eq hin hsite, hbuilding]
  rfl

end Removal

/-- **When a building can be removed.**  In every state reached, its removal by an account that may write it
succeeds — the rooms that were in it on the same site as before, every other one as it was — exactly when none
of its rooms has the name of a room that is in no building. -/
theorem building_removed (events : List Event) (building : Building)
    (hmem : building ∈ (run step .empty events).buildings) (scope : Option Scope)
    (hwritable : buildingWritable building scope = true) (now : Time) :
    let t := run step .empty events
    (∃ t', deleteBuilding scope now t building.id = .ok t' ∧ building.id ∉ t'.buildings.map Building.key ∧
      t'.rooms.map Room.key = t.rooms.map Room.key ∧
      ∀ r ∈ t.rooms, ∃ r' ∈ t'.rooms, r'.id = r.id ∧
        (r.buildingId = some building.id → siteOf t' r' = siteOf t r) ∧
        (r.buildingId ≠ some building.id → r' = r)) ↔
    ¬∃ r ∈ t.rooms, ∃ q ∈ t.rooms, r.buildingId = some building.id ∧ q.buildingId = none ∧ r.name = q.name := by
  intro t
  have sound : Sound t := run_sound events
  have hrun : deleteBuilding scope now t building.id = flush (withoutBuilding now t building) := by
    have hcheck : check (buildingWritable building scope) scopeRestricted = .ok () := if_pos hwritable
    rw [deleteBuilding, requireBuilding_of_writable sound.legal hmem hwritable, ok_bind, hcheck, ok_bind]
  rw [hrun]
  constructor
  · rintro ⟨t', hok, -⟩
    obtain ⟨rfl, hlegal⟩ := flush_ok hok
    exact (withoutBuilding_legal_iff sound.legal).1 hlegal
  · intro hfree
    refine ⟨_, flush_of_legal ((withoutBuilding_legal_iff sound.legal).2 hfree), ?_, ?_, ?_⟩
    · intro hin
      obtain ⟨b, hb, hid⟩ := List.mem_map.1 hin
      exact absurd hid (of_decide_eq_true (List.mem_filter.1 hb).2)
    · rw [withoutBuilding_rooms, List.map_map]
      exact List.map_congr_left fun r _ => removed_key r
    · intro r hr
      refine ⟨removed now building r, ?_, removed_key r, siteOf_removed sound hmem hr⟩
      rw [withoutBuilding_rooms]
      exact List.mem_map_of_mem hr

/-- A building on a site, and a room in it. -/
def roomInBuilding : List Event :=
  [⟨1, .createBuilding none .next ⟨"Bâtiment A", some "Nord", none⟩⟩,
    ⟨2, .createRoom none .next ⟨"B12", some 1, none, none⟩⟩]

theorem building_removed_alone :
    ∃ t', deleteBuilding none 9 (run step .empty roomInBuilding) 1 = .ok t' ∧
      ∃ r' ∈ t'.rooms, r'.id = 1 ∧ siteOf t' r' = some "Nord" := by
  have hremoved := building_removed roomInBuilding ⟨⟨1, some "Nord"⟩, "Bâtiment A", none, 1, 1⟩ (by decide) none
    rfl 9
  obtain ⟨t', hok, -, -, hrooms⟩ := hremoved.2 (by decide)
  obtain ⟨r', hr', hid, hsite, -⟩ := hrooms
    ⟨⟨1, some 1, none⟩, "B12", none, none, none, none, 2, 2⟩ (by decide)
  exact ⟨t', hok, r', hr', hid, (hsite rfl).trans (by decide)⟩

/-- Another room has the name of the first, and is in no building: the removal is not the caller's to repair. -/
theorem building_not_removed :
    let t := run step .empty (roomInBuilding ++ [⟨3, .createRoom none .next ⟨"B12", none, none, none⟩⟩])
    (∃ building ∈ t.buildings, building.id = 1 ∧ buildingWritable building none = true) ∧
      deleteBuilding none 9 t 1 = .error serverError := by
  decide

end Tiai.Rooms
