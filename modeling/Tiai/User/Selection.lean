import Mathlib.Data.Finset.Sort
import Mathlib.Data.String.Basic
import Tiai.Lib.Sql
import Tiai.User.Scope

/-!
# The machines a scope selects

`_room_ids_in` and `machine_clause` of `features/user/scope.py`, as the SQL they build: an outer join of the
rooms with their buildings, nulls, and `WHERE`.

* `Parc` — the three tables, with the keys the database enforces;
* `machineClause`, `selected` — what a scope keeps of the machines;
* `machineClause_iff` — the clause is true of the machines that are `visible`;
* `scope_sound` — the comparison and the union of scopes, and deleted places, in terms of machines.
-/

namespace Tiai

open Lib

/-! ### The parc -/

/-- The tables, with their primary keys and the foreign keys between them. -/
structure Parc extends Places where
  rooms_nodup : (rooms.map Room.id).Nodup
  buildings_nodup : (buildings.map Building.id).Nodup
  room_building : ∀ room ∈ rooms, ∀ b, room.buildingId = some b → b ∈ buildings.map Building.id
  machine_room : ∀ m ∈ machines, ∀ r, m.roomId = some r → r ∈ rooms.map Room.id

/-- `delete_room`: its machines stay, room-less (`ON DELETE SET NULL`). -/
def Parc.deleteRoom (parc : Parc) (id : Uuid) : Parc where
  machines := parc.machines.map fun m => if m.roomId = some id then { m with roomId := none } else m
  rooms := parc.rooms.filter (·.id ≠ id)
  buildings := parc.buildings
  rooms_nodup := parc.rooms_nodup.sublist (List.filter_sublist.map _)
  buildings_nodup := parc.buildings_nodup
  room_building room hroom := parc.room_building room (List.mem_of_mem_filter hroom)
  machine_room := by
    intro m hm r hr
    obtain ⟨m', hm', rfl⟩ := List.mem_map.1 hm
    split at hr
    · cases hr
    · rename_i hid
      obtain ⟨room, hroom, rfl⟩ := List.mem_map.1 (parc.machine_room m' hm' r hr)
      have hne : room.id ≠ id := fun h => hid (by rw [hr, h])
      exact List.mem_map_of_mem (List.mem_filter.2 ⟨hroom, decide_eq_true hne⟩)

/-- A room of a building that is deleted: it keeps the site it inherited (`detach_building`). -/
def Room.detached (building : Building) (room : Room) : Room :=
  if room.buildingId = some building.id then
    { room with buildingId := none, location := room.location.or building.location }
  else room

lemma Room.detached_id (building : Building) (room : Room) : (room.detached building).id = room.id := by
  unfold Room.detached
  split <;> rfl

/-- `delete_building`. -/
def Parc.deleteBuilding (parc : Parc) (building : Building) : Parc where
  machines := parc.machines
  rooms := parc.rooms.map (Room.detached building)
  buildings := parc.buildings.filter (·.id ≠ building.id)
  rooms_nodup := by
    rw [List.map_map]
    exact (List.map_congr_left fun room _ => Room.detached_id building room) ▸ parc.rooms_nodup
  buildings_nodup := parc.buildings_nodup.sublist (List.filter_sublist.map _)
  room_building := by
    intro room hroom b hb
    obtain ⟨room', hroom', rfl⟩ := List.mem_map.1 hroom
    unfold Room.detached at hb
    split at hb
    · cases hb
    · rename_i hid
      obtain ⟨c, hc, rfl⟩ := List.mem_map.1 (parc.room_building room' hroom' b hb)
      have hne : c.id ≠ building.id := fun h => hid (by rw [hb, h])
      exact List.mem_map_of_mem (List.mem_filter.2 ⟨hc, decide_eq_true hne⟩)
  machine_room := by
    intro m hm r hr
    obtain ⟨room, hroom, rfl⟩ := List.mem_map.1 (parc.machine_room m hm r hr)
    rw [List.map_map]
    exact List.mem_map.2 ⟨room, hroom, Room.detached_id building room⟩

/-! ### The clause -/

section Clause

variable (places : Places) (scope : Scope)

/-- `x.in_(sorted(values))`, left out when there are no values. -/
def inCondition {α : Type} [LinearOrder α] (x : Option α) (values : Finset α) : List Sql.Truth :=
  if values = ∅ then [] else [Sql.isIn x ((values.sort (· ≤ ·)).map some)]

/-- The rooms, each beside its building. -/
def roomRows : List (Room × Option Building) :=
  Sql.leftJoin (fun room building => Sql.eq (some building.id) room.buildingId) places.buildings
    places.rooms

/-- The conditions of `_room_ids_in`. -/
def roomConditions (row : Room × Option Building) : List Sql.Truth :=
  inCondition (Sql.coalesce (row.2.bind Building.location) row.1.location) scope.locations ++
    inCondition row.1.buildingId scope.buildings ++ inCondition (some row.1.id) scope.rooms

/-- `_room_ids_in`. -/
def roomIdsIn : List (Option Uuid) :=
  (Sql.select (fun row => Sql.anyOf (roomConditions scope row)) (roomRows places)).map fun row =>
    some row.1.id

/-- `machine_clause`, of a scope that restricts. -/
def machineClause (m : Poste) : Sql.Truth :=
  Sql.anyOf (inCondition m.location scope.locations ++
    if scope.isEmpty then [] else [Sql.isIn m.roomId (roomIdsIn places scope)])

end Clause

/-- The machines a scope selects: `restrict`, by `machine_clause`. -/
def selected (places : Places) (scope : Option Scope) : List Poste :=
  match scope with
  | none => places.machines
  | some scope => Sql.select (machineClause places scope) places.machines

/-! ### What the clause says -/

section Selected

variable {parc : Parc} {scope : Scope} {m : Poste}

lemma inCondition_iff {α : Type} [LinearOrder α] {x : Option α} {values : Finset α} :
    some true ∈ inCondition x values ↔ inSet values x = true := by
  rw [inSet_iff]
  unfold inCondition
  split
  · rename_i hempty
    simp [hempty]
  · rw [List.mem_singleton, eq_comm, Sql.isIn_eq_true]
    constructor
    · rintro ⟨a, hx, ha⟩
      obtain ⟨b, hb, hab⟩ := List.mem_map.1 ha
      obtain rfl := Option.some.inj hab
      exact ⟨b, (Finset.mem_sort _).1 hb, hx⟩
    · rintro ⟨a, ha, hx⟩
      exact ⟨a, hx, List.mem_map_of_mem ((Finset.mem_sort _).2 ha)⟩

/-- A room is beside its building, of which there is at most one. -/
lemma mem_roomRows {room : Room} {building : Option Building} :
    (room, building) ∈ roomRows parc.toPlaces ↔ room ∈ parc.rooms ∧
      building = room.buildingId.bind fun b => parc.buildings.find? (·.id = b) := by
  rw [roomRows, Sql.mem_leftJoin]
  refine and_congr_right fun hroom => ?_
  have hon (c : Building) : Sql.eq (some c.id) room.buildingId = some true ↔ room.buildingId = some c.id := by
    rw [Sql.eq_eq_true]
    constructor
    · rintro ⟨a, ha, hb⟩
      rw [ha, hb]
    · intro h
      exact ⟨c.id, rfl, h⟩
  simp only [hon, ne_eq]
  cases hb : room.buildingId with
  | none => simp
  | some b =>
    obtain ⟨c, hc, hid⟩ := List.mem_map.1 (parc.room_building room hroom b hb)
    have hfind : parc.buildings.find? (·.id = b) = some c := by
      obtain ⟨d, hd⟩ : ∃ d, parc.buildings.find? (·.id = b) = some d := by
        rw [← Option.isSome_iff_exists, List.find?_isSome]
        exact ⟨c, hc, by simpa using hid⟩
      have hdid : d.id = b := by simpa using List.find?_some hd
      rw [hd, List.inj_on_of_nodup_map parc.buildings_nodup (List.mem_of_find?_eq_some hd) hc
        (hdid.trans hid.symm)]
    simp only [Option.bind_some, hfind, Option.some.injEq]
    constructor
    · rintro (⟨d, hd, hdid, rfl⟩ | ⟨hnone, -⟩)
      · rw [List.inj_on_of_nodup_map parc.buildings_nodup hd hc (hdid.symm.trans hid.symm)]
      · exact absurd hid.symm (hnone c hc)
    · rintro rfl
      exact .inl ⟨c, hc, hid.symm, rfl⟩

lemma mem_roomIdsIn {id : Uuid} : some id ∈ roomIdsIn parc.toPlaces scope ↔
    ∃ room ∈ parc.rooms, room.id = id ∧ roomIn parc.toPlaces scope room = true := by
  have hconditions (room : Room) (building : Option Building)
      (hb : building = room.buildingId.bind fun b => parc.buildings.find? (·.id = b)) :
      Sql.anyOf (roomConditions scope (room, building)) = some true ↔
        roomIn parc.toPlaces scope room = true := by
    subst hb
    have hid : inSet scope.rooms (some room.id) = true ↔ room.id ∈ scope.rooms := by simp [inSet]
    rw [Sql.anyOf_eq_true, roomConditions, List.mem_append, List.mem_append, inCondition_iff,
      inCondition_iff, inCondition_iff, roomIn, Bool.or_eq_true, Bool.or_eq_true, decide_eq_true_iff, hid]
    exact Iff.rfl
  rw [roomIdsIn, List.mem_map]
  constructor
  · rintro ⟨⟨room, building⟩, hrow, hid⟩
    obtain ⟨hrow, hclause⟩ := Sql.mem_select.1 hrow
    obtain ⟨hroom, hb⟩ := mem_roomRows.1 hrow
    exact ⟨room, hroom, Option.some.inj hid, (hconditions room building hb).1 hclause⟩
  · rintro ⟨room, hroom, rfl, hin⟩
    exact ⟨(room, _), Sql.mem_select.2 ⟨mem_roomRows.2 ⟨hroom, rfl⟩, (hconditions room _ rfl).2 hin⟩, rfl⟩

/-- **The clause is true of the machines that are visible.** -/
theorem machineClause_iff :
    machineClause parc.toPlaces scope m = some true ↔ visible parc.toPlaces (some scope) m = true := by
  rw [machineClause, Sql.anyOf_eq_true, List.mem_append, inCondition_iff, visible_some_iff]
  refine or_congr_right ?_
  by_cases he : scope.isEmpty = true
  · obtain rfl := isEmpty_iff.mp he
    simp [he, roomIn_empty]
  · rw [if_neg he, List.mem_singleton, eq_comm, Sql.isIn_eq_true]
    constructor
    · rintro ⟨id, hid, hin⟩
      obtain ⟨room, hroom, rfl, h⟩ := mem_roomIdsIn.1 hin
      exact ⟨room, hroom, hid, h⟩
    · rintro ⟨room, hroom, hid, h⟩
      exact ⟨room.id, hid, mem_roomIdsIn.2 ⟨room, hroom, rfl, h⟩⟩

lemma mem_selected {scope : Option Scope} : m ∈ selected parc.toPlaces scope ↔
    m ∈ parc.machines ∧ visible parc.toPlaces scope m = true := by
  cases scope with
  | none => simp [selected, visible]
  | some scope => rw [selected, Sql.mem_select, machineClause_iff]

/-- A place that is no longer there: no room is it, or in it. -/
lemma roomIn_gone {buildings rooms : Finset Uuid}
    (hbuildings : ∀ b ∈ buildings, b ∉ parc.buildings.map Building.id)
    (hrooms : ∀ r ∈ rooms, r ∉ parc.rooms.map Room.id) {room : Room} (hroom : room ∈ parc.rooms) :
    roomIn parc.toPlaces ⟨∅, buildings, rooms⟩ room = false := by
  rw [← Bool.not_eq_true, roomIn, Bool.or_eq_true, Bool.or_eq_true, inSet_iff, inSet_iff,
    decide_eq_true_iff]
  rintro ((⟨l, hl, -⟩ | ⟨b, hb, hid⟩) | hr)
  · exact absurd hl (Finset.notMem_empty l)
  · exact hbuildings b hb (parc.room_building room hroom b hid)
  · exact hrooms room.id hr (List.mem_map_of_mem hroom)

lemma visible_gone {buildings rooms : Finset Uuid}
    (hbuildings : ∀ b ∈ buildings, b ∉ parc.buildings.map Building.id)
    (hrooms : ∀ r ∈ rooms, r ∉ parc.rooms.map Room.id) :
    visible parc.toPlaces (some ⟨∅, buildings, rooms⟩) m = false := by
  rw [← Bool.not_eq_true, visible_some_iff]
  rintro (h | ⟨room, hroom, -, h⟩)
  · obtain ⟨l, hl, -⟩ := inSet_iff.1 h
    exact absurd hl (Finset.notMem_empty l)
  · rw [roomIn_gone hbuildings hrooms hroom] at h
    cases h

end Selected

/-- **What scopes say of machines.**  No wider, no more machines; a union selects what one of its scopes
does; and the identifiers of deleted buildings and rooms select nothing, alone or beside others. -/
theorem scope_sound (parc : Parc) :
    (∀ actor target : Option Scope, scopeWider actor target = false →
      ∀ m ∈ selected parc.toPlaces target, m ∈ selected parc.toPlaces actor) ∧
    (∀ (scopes : List (Option Scope)) (m : Poste),
      m ∈ selected parc.toPlaces (scopeUnion scopes) ↔ ∃ s ∈ scopes, m ∈ selected parc.toPlaces s) ∧
    ∀ (s : Scope) (buildings rooms : Finset Uuid),
      (∀ b ∈ buildings, b ∉ parc.buildings.map Building.id) →
      (∀ r ∈ rooms, r ∉ parc.rooms.map Room.id) →
      (∀ m, m ∉ selected parc.toPlaces (some ⟨∅, buildings, rooms⟩)) ∧
      ∀ m, m ∈ selected parc.toPlaces (some (s.or ⟨∅, buildings, rooms⟩)) ↔
        m ∈ selected parc.toPlaces (some s) := by
  refine ⟨fun actor target hwider m hm => ?_, fun scopes m => ?_, fun s buildings rooms hb hr => ⟨?_, ?_⟩⟩
  · obtain ⟨hmem, hvisible⟩ := mem_selected.1 hm
    exact mem_selected.2 ⟨hmem, visible_of_not_wider hwider hvisible⟩
  · simp only [mem_selected, visible_scopeUnion]
    constructor
    · rintro ⟨hmem, s, hs, hvisible⟩
      exact ⟨s, hs, hmem, hvisible⟩
    · rintro ⟨s, hs, hmem, hvisible⟩
      exact ⟨hmem, s, hs, hvisible⟩
  · intro m hm
    have hvisible := (mem_selected.1 hm).2
    rw [visible_gone hb hr] at hvisible
    cases hvisible
  · intro m
    rw [mem_selected, mem_selected, visible_or, visible_gone hb hr]
    simp

/-- A deleted room's identifier names none, -/
lemma Parc.deleteRoom_gone (parc : Parc) (id : Uuid) : id ∉ (parc.deleteRoom id).rooms.map Room.id := by
  intro h
  obtain ⟨room, hroom, hid⟩ := List.mem_map.1 h
  have hne := (List.mem_filter.1 hroom).2
  simp [hid] at hne

/-- nor a deleted building's. -/
lemma Parc.deleteBuilding_gone (parc : Parc) (building : Building) :
    building.id ∉ (parc.deleteBuilding building).buildings.map Building.id := by
  intro h
  obtain ⟨b, hb, hid⟩ := List.mem_map.1 h
  have hne := (List.mem_filter.1 hb).2
  simp [hid] at hne

end Tiai
