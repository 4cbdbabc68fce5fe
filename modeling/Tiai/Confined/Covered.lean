import Tiai.Confined.Seen

/-!
# The reads that a scope covers

Each read of a confined account, answered from the whole and from the part that its scope sees.

* `recordRoute_seen`, `roomsOut_seen`, `buildingsOut_seen`, … — one lemma for each route;
* `placed_seen` — a poste that is selected by its room is seen with its place;
* `Route.covered`, `respond_seen` — the reads whose answer from the part is the answer from the whole.
-/

namespace Tiai.Confined

open Lib
open Maintenance (MaintenanceState)

/-! ### Visits -/

section VisitReads

variable {d : Db} {s : Scope} {env : Env}

lemma visitClause_seen (h : d.Sited) (v : Visit) : visitClause (d.seen s) (some s) v = visitClause d (some s) v := by
  have hrooms : ((d.seen s).rooms.any fun r => v.roomId = some r.id && (d.seen s).roomClause (some s) r) =
      d.rooms.any fun r => v.roomId = some r.id && d.roomClause (some s) r := by
    rw [Bool.eq_iff_iff, List.any_eq_true, List.any_eq_true]
    constructor
    · rintro ⟨r, hr, hboth⟩
      obtain ⟨hmem, hin⟩ := List.mem_filter.1 hr
      exact ⟨r, hmem, by rw [Bool.and_eq_true] at hboth ⊢; exact ⟨hboth.1, hin⟩⟩
    · rintro ⟨r, hr, hboth⟩
      rw [Bool.and_eq_true] at hboth
      refine ⟨r, mem_rooms_seen hr hboth.2, ?_⟩
      rw [Bool.and_eq_true]
      exact ⟨hboth.1, roomClause_seen h hr hboth.2⟩
  have hentries : ((d.seen s).interventions.any fun i =>
        i.maintenanceId = some v.id && (d.seen s).machineIdsClause (some s) i.machineId) =
      d.interventions.any fun i => i.maintenanceId = some v.id && d.machineIdsClause (some s) i.machineId := by
    simp only [machineIdsClause_seen h]
    change (d.interventions.filter _).any _ = _
    rw [List.any_filter]
    congr 1
    funext i
    cases d.machineIdsClause (some s) i.machineId <;> simp
  unfold visitClause
  rw [hrooms, hentries]

lemma sessions_seen (h : d.Sited) (roomId : Option Uuid) (page pageSize : ℕ) :
    (sessions d (some s) roomId none page pageSize).items.map SessionOut.apart =
        (sessions (d.seen s) (some s) roomId none page pageSize).items.map SessionOut.apart ∧
      (sessions d (some s) roomId none page pageSize).total =
        (sessions (d.seen s) (some s) roomId none page pageSize).total := by
  have hlist : listSessions (d.seen s) (some s) roomId none page pageSize =
      listSessions d (some s) roomId none page pageSize := by
    unfold listSessions
    simp only [visitClause_seen h, Option.all_none]
    rfl
  unfold sessions
  rw [hlist, List.map_map, List.map_map]
  exact ⟨rfl, rfl⟩

/-- The items, as rows of the join. -/
lemma sessionItems_eq (h : d.Sited) (scope : Option Scope) (visitId : Uuid) : sessionItems env d scope visitId =
    Sql.orderBy
      (fun a b => Sql.nullsLast env.collate (a.2.hostname.map env.sqlLower) (b.2.hostname.map env.sqlLower))
      ((d.interventions.filterMap fun i =>
          ((d.getMachine i.machineId).filter (d.machineClause scope)).map fun m => (i, m)).filter
        fun item => item.1.maintenanceId = some visitId) := by
  unfold sessionItems
  rw [Sql.join_eq_filterMap (fun i => d.getMachine i.machineId) fun i _ => Sql.select_key h.machineIds _,
    List.filter_filterMap, List.filter_filterMap]
  congr 1
  refine List.filterMap_congr fun i _ => ?_
  cases d.getMachine i.machineId with
  | none => rfl
  | some m => cases hin : d.machineClause scope m <;> simp [Option.filter, hin]

lemma sessionItems_seen (h : d.Sited) (visitId : Uuid) :
    sessionItems env (d.seen s) (some s) visitId = sessionItems env d (some s) visitId := by
  rw [sessionItems_eq h, sessionItems_eq h.seen]
  congr 2
  change (d.interventions.filter _).filterMap _ = _
  rw [List.filterMap_filter]
  refine List.filterMap_congr fun i _ => ?_
  rw [machineIdsClause_eq h, getMachine_seen h]
  cases d.getMachine i.machineId with
  | none => rfl
  | some m =>
    cases hin : d.machineClause (some s) m with
    | true => simp [Option.filter, hin, machineClause_seen h hin]
    | false => simp [Option.filter, hin]

lemma sessionOut_seen (h : d.Sited) (visit : Visit) :
    (sessionOut env d (some s) visit).apart = (sessionOut env (d.seen s) (some s) visit).apart := by
  simp only [SessionOut.apart, sessionOut, sessionItems_seen h]

/-- A visit changes neither the place of a poste nor its name. -/
lemma visited_place (m : Machine) (performedAt now : Time) :
    (m.visited performedAt now).toPoste = m.toPoste ∧ (m.visited performedAt now).hostname = m.hostname := by
  unfold Machine.visited
  split
  · exact ⟨rfl, rfl⟩
  · exact ⟨rfl, rfl⟩

section Recorded

variable {room : Option Rooms.Room} {machines : List Machine} {notes : Uuid → Option String} {performedBy : String}
  {performedAt now : Time} {note : Option String} {visitId : Uuid} {entryId : Uuid → Uuid}

/-- The postes of a recorded visit keep their places. -/
lemma recorded_place (machines : List Machine) (performedAt now : Time) (m : Machine) :
    (if m.id ∈ machines.map Machine.key then m.visited performedAt now else m).toPoste = m.toPoste := by
  split
  · exact (visited_place m performedAt now).1
  · rfl

lemma recorded_machineClause (scope : Option Scope) :
    (recordSession d room machines notes performedBy performedAt note visitId entryId now).1.machineClause scope =
      d.machineClause scope := rfl

lemma recorded_machineIdsClause (scope : Option Scope) (id : Uuid) :
    (recordSession d room machines notes performedBy performedAt note visitId entryId now).1.machineIdsClause scope id =
      d.machineIdsClause scope id := by
  unfold Db.machineIdsClause
  congr 1
  simp only [recorded_machineClause]
  change (d.machines.map _).any _ = _
  rw [List.any_map]
  congr 1
  funext m
  have hplace := recorded_place machines performedAt now m
  unfold Db.machineClause
  simp only [Function.comp_apply, hplace]

lemma recorded_sited (h : d.Sited) :
    (recordSession d room machines notes performedBy performedAt note visitId entryId now).1.Sited where
  keyed := by
    refine ⟨?_, h.keyed.roomIds, h.keyed.buildingIds⟩
    have hkey : ∀ m : Machine, Machine.key
        (if m.id ∈ machines.map Machine.key then m.visited performedAt now else m) = m.key := fun m =>
      congrArg Poste.id (recorded_place machines performedAt now m)
    have hkeys : ((d.machines.map fun m => if m.id ∈ machines.map Machine.key then m.visited performedAt now else m).map
        Machine.key) = d.machines.map Machine.key := by
      rw [List.map_map]
      exact List.map_congr_left fun m _ => hkey m
    change (((d.machines.map _).map Machine.toMachine).map Rooms.Machine.key).Nodup
    rw [List.map_map]
    exact hkeys ▸ h.machineIds
  inBuilding := h.inBuilding

/-- What is seen of a recorded visit is the visit recorded on what is seen. -/
lemma recorded_seen (hmachines : ∀ m ∈ machines, d.machineIdsClause (some s) m.id = true) :
    (recordSession d room machines notes performedBy performedAt note visitId entryId now).1.seen s =
      (recordSession (d.seen s) room machines notes performedBy performedAt note visitId entryId now).1 := by
  unfold Db.seen
  simp only [recorded_machineIdsClause, recorded_machineClause]
  unfold recordSession
  simp only [Db.mk.injEq, and_true]
  refine ⟨?_, ?_, ?_, ?_⟩
  · rw [List.filter_map]
    congr 1
    refine List.filter_congr fun m _ => ?_
    have hplace := recorded_place machines performedAt now m
    unfold Db.machineClause
    simp only [Function.comp_apply, hplace]
  · rfl
  · rfl
  · rw [List.filter_append]
    congr 1
    refine List.filter_eq_self.2 fun i hi => ?_
    obtain ⟨m, hm, rfl⟩ := List.mem_map.1 hi
    exact hmachines m hm

lemma recorded_out (h : d.Sited) (hmachines : ∀ m ∈ machines, d.machineIdsClause (some s) m.id = true)
    (visit : Visit) :
    (sessionOut env (recordSession d room machines notes performedBy performedAt note visitId entryId now).1 (some s)
      visit).apart =
    (sessionOut env (recordSession (d.seen s) room machines notes performedBy performedAt note visitId entryId now).1
      (some s) visit).apart := by
  rw [sessionOut_seen (recorded_sited h), recorded_seen hmachines]

end Recorded

lemma recordRoute_seen (h : d.Sited) (now : Time) (currentEmail : String) (payload : SessionCreate) (visitId : Uuid)
    (entryId : Uuid → Uuid) :
    (fun out => out.2.apart) <$> recordRoute env d (some s) now currentEmail payload visitId entryId =
      (fun out => out.2.apart) <$> recordRoute env (d.seen s) (some s) now currentEmail payload visitId entryId := by
  have hroom : requireRoomOf (d.seen s) (some s) payload.roomId = requireRoomOf d (some s) payload.roomId := by
    unfold requireRoomOf
    cases payload.roomId with
    | none => rfl
    | some id =>
      dsimp only
      rw [requireRoom_seen h]
  have hmachines : ∀ ids : List Uuid,
      (d.seen s).machines.filter (fun m => m.id ∈ ids && (d.seen s).machineClause (some s) m) =
        d.machines.filter fun m => m.id ∈ ids && d.machineClause (some s) m := by
    intro ids
    change (d.machines.filter _).filter _ = _
    rw [List.filter_filter]
    refine List.filter_congr fun m _ => ?_
    cases hin : d.machineClause (some s) m with
    | true => rw [machineClause_seen h hin, Bool.and_true]
    | false => rw [Bool.and_false, Bool.and_false]
  unfold recordRoute
  rw [hroom, map_bind, map_bind]
  refine bind_congr_ok fun room _ => ?_
  dsimp only
  rw [hmachines, map_bind, map_bind]
  refine bind_congr_ok fun _ _ => ?_
  have hvisible : ∀ m ∈ d.machines.filter (fun m => m.id ∈ payload.items.map SessionItemIn.machineId &&
      d.machineClause (some s) m), d.machineIdsClause (some s) m.id = true := by
    intro m hm
    obtain ⟨hmem, hboth⟩ := List.mem_filter.1 hm
    rw [Bool.and_eq_true] at hboth
    have hget : d.getMachine m.id = some m := (rowOf_eq_some_iff h.machineIds).2 ⟨hmem, rfl⟩
    rw [machineIdsClause_eq h, hget, Option.any_some, hboth.2]
  exact congrArg Except.ok (recorded_out h hvisible _)

end VisitReads

/-! ### Rooms and buildings -/

section PlaceReads

variable {d : Db} {s : Scope} {env : Env} {now : Time}

lemma roomRows_seen (h : d.Sited) :
    (Rooms.roomRows (d.seen s).tables).filter (fun row => (d.seen s).roomClause (some s) row.1) =
      (Rooms.roomRows d.tables).filter fun row => d.roomClause (some s) row.1 := by
  rw [Rooms.roomRows_eq h.keyed, Rooms.roomRows_eq h.seen.keyed, List.filter_map, List.filter_map]
  change ((d.rooms.filter _).filter _).map _ = (d.rooms.filter _).map _
  rw [filter_filter_seen]
  · refine List.map_congr_left fun r hr => ?_
    obtain ⟨hmem, hin⟩ := List.mem_filter.1 hr
    rw [buildingOf_seen h hmem hin]
  · exact fun r hr hin => roomClause_seen h hr hin

lemma fleetRows_eq (h : d.Sited) : fleetRows d = d.machines.map fun (m : Machine) =>
    FleetRow.mk m (Rooms.roomOf d.tables m.toMachine)
      (Rooms.buildingOf d.tables (Rooms.roomOf d.tables m.toMachine)) := by
  have hrooms : Sql.leftJoin (fun (m : Machine) r => Rooms.roomOn m.toMachine r) d.rooms d.machines =
      d.machines.map fun (m : Machine) => (m, Rooms.roomOf d.tables m.toMachine) :=
    Sql.leftJoin_eq_map (fun (m : Machine) => Rooms.roomOf d.tables m.toMachine) fun m _ =>
      Rooms.select_roomOn h.keyed m.toMachine
  have hbuildings : ∀ rows : List (Machine × Option Rooms.Room),
      Sql.leftJoin (fun (row : Machine × Option Rooms.Room) b => Rooms.buildingOn row.2 b) d.buildings rows =
        rows.map fun row => (row, Rooms.buildingOf d.tables row.2) := fun rows =>
    Sql.leftJoin_eq_map (fun (row : Machine × Option Rooms.Room) => Rooms.buildingOf d.tables row.2) fun row _ =>
      Rooms.select_buildingOn h.keyed row.2
  unfold fleetRows
  rw [hrooms, hbuildings, List.map_map, List.map_map]
  rfl

/-- The row of a poste in a visible room. -/
lemma roomOf_seen (h : d.Sited) {m : Machine} {r : Rooms.Room} (hr : r ∈ d.rooms) (hin : d.roomClause (some s) r = true)
    (hroom : m.roomId = some r.id) : Rooms.roomOf (d.seen s).tables m.toMachine = some r ∧
      Rooms.roomOf d.tables m.toMachine = some r := by
  have hget : Rooms.getRoom d.tables r.id = some r := (rowOf_eq_some_iff h.keyed.roomIds).2 ⟨hr, rfl⟩
  unfold Rooms.roomOf
  rw [hroom, Option.bind_some, Option.bind_some, getRoom_seen h, hget]
  exact ⟨Option.filter_some_pos hin, rfl⟩

/-- The postes of a visible room are all seen. -/
lemma machines_of_room (hr : r ∈ d.rooms) (hin : d.roomClause (some s) r = true) :
    (d.seen s).machines.filter (fun m => m.roomId = some r.id) = d.machines.filter fun m => m.roomId = some r.id := by
  change (d.machines.filter _).filter _ = _
  rw [List.filter_filter]
  refine List.filter_congr fun m _ => ?_
  by_cases hroom : m.roomId = some r.id
  · rw [machineClause_of_room hr hin hroom, Bool.and_true]
  · rw [decide_eq_false hroom, Bool.false_and]

/-- The tables that the counts of rooms read: the postes of a visible room are all there. -/
lemma tables_machines_of_room (hr : r ∈ d.rooms) (hin : d.roomClause (some s) r = true) :
    (d.seen s).tables.machines.filter (fun m => m.roomId = some r.id) =
      d.tables.machines.filter fun m => m.roomId = some r.id := by
  have hmachines := congrArg (List.map Machine.toMachine) (machines_of_room hr hin)
  change ((d.seen s).machines.map Machine.toMachine).filter _ = (d.machines.map Machine.toMachine).filter _
  rw [List.filter_map, List.filter_map]
  exact hmachines

lemma roomCounts_seen (h : d.Sited) (hr : r ∈ d.rooms) (hin : d.roomClause (some s) r = true) :
    Rooms.roomCounts (d.seen s).tables r.id = Rooms.roomCounts d.tables r.id := by
  have hrows : ∀ m ∈ d.tables.machines.filter (fun m => m.roomId = some r.id),
      Rooms.rowOfMachine (d.seen s).tables m = Rooms.rowOfMachine d.tables m := by
    intro m hm
    obtain ⟨hmem, hroom⟩ := List.mem_filter.1 hm
    obtain ⟨m, -, rfl⟩ := List.mem_map.1 hmem
    obtain ⟨hseen, hof⟩ := roomOf_seen h hr hin (of_decide_eq_true hroom)
    unfold Rooms.rowOfMachine
    rw [hseen, hof, buildingOf_seen h hr hin]
  rw [Rooms.roomCounts_eq h.keyed hr, Rooms.roomCounts_eq h.seen.keyed (mem_rooms_seen hr hin),
    tables_machines_of_room hr hin, List.map_congr_left hrows]

lemma stateCount_eq (h : d.Sited) (roomId : Uuid) (state : MaintenanceState) : stateCount d now roomId state =
    ((d.machines.filter fun m => m.roomId = some roomId).filter fun m =>
      (Maintenance.resolve m.upkeep ((Rooms.roomOf d.tables m.toMachine).map roomUpkeep) d.policy now).state =
        state).length := by
  have hall : (fleetRows d).filter (fun row => d.machineClause none row.machine) = fleetRows d :=
    List.filter_eq_self.2 fun _ _ => rfl
  unfold stateCount fleetResolved
  rw [hall, fleetRows_eq h, List.map_map, List.countP_map, List.countP_eq_length_filter, List.filter_filter]
  congr 1
  refine List.filter_congr fun m _ => ?_
  simp only [Function.comp_apply, FleetRow.resolve, Bool.decide_and, Bool.and_comm]

/-- How its postes stand is the same, whoever counts. -/
lemma stateCount_seen (h : d.Sited) (hr : r ∈ d.rooms) (hin : d.roomClause (some s) r = true)
    (state : MaintenanceState) : stateCount (d.seen s) now r.id state = stateCount d now r.id state := by
  rw [stateCount_eq h, stateCount_eq h.seen, machines_of_room hr hin]
  congr 1
  refine List.filter_congr fun m hm => ?_
  obtain ⟨hseen, hof⟩ := roomOf_seen h hr hin (of_decide_eq_true (List.mem_filter.1 hm).2)
  rw [hseen, hof]
  rfl

lemma roomOut_seen (h : d.Sited) (hr : r ∈ d.rooms) (hin : d.roomClause (some s) r = true)
    (names : Store Uuid String) (building : Option Rooms.Building) :
    roomOut (d.seen s) now names (r, building) = roomOut d now names (r, building) := by
  unfold roomOut
  simp only [roomCounts_seen h hr hin, stateCount_seen h hr hin]
  rfl

lemma listRooms_seen (h : d.Sited) : listRooms env (d.seen s) (some s) = listRooms env d (some s) := by
  unfold listRooms
  rw [roomRows_seen h]

lemma mem_listRooms {row : Rooms.Room × Option Rooms.Building} (h : d.Sited)
    (hrow : row ∈ listRooms env d (some s)) : row.1 ∈ d.rooms ∧ d.roomClause (some s) row.1 = true := by
  unfold listRooms Sql.orderBy at hrow
  rw [List.mem_mergeSort, List.mem_filter, Rooms.roomRows_eq h.keyed] at hrow
  obtain ⟨hmem, hin⟩ := hrow
  obtain ⟨r, hr, rfl⟩ := List.mem_map.1 hmem
  exact ⟨hr, hin⟩

lemma roomsOut_seen (h : d.Sited) :
    roomsOut (d.seen s) now (listRooms env (d.seen s) (some s)) = roomsOut d now (listRooms env d (some s)) := by
  rw [listRooms_seen h]
  unfold roomsOut
  refine List.map_congr_left fun row hrow => ?_
  obtain ⟨hr, hin⟩ := mem_listRooms h hrow
  exact roomOut_seen h hr hin _ _

lemma getRoomRoute_seen (h : d.Sited) (id : Uuid) : getRoom (d.seen s) (some s) now id = getRoom d (some s) now id := by
  unfold getRoom
  rw [requireRoom_seen h]
  refine bind_congr_ok fun r hok => ?_
  obtain ⟨hr, hin⟩ := requireRoom_ok hok
  have hbuilding : r.buildingId.bind (Rooms.getBuilding (d.seen s).tables) =
      r.buildingId.bind (Rooms.getBuilding d.tables) := buildingOf_seen h hr hin
  have hnames : ∀ rows, ownerNames (d.seen s) rows = ownerNames d rows := fun _ => rfl
  dsimp only
  rw [hbuilding, hnames, roomOut_seen h hr hin]

lemma listBuildings_seen : listBuildings env (d.seen s) (some s) = listBuildings env d (some s) := by
  have hfilter : (d.seen s).buildings.filter ((d.seen s).buildingClause (some s)) =
      d.buildings.filter (d.buildingClause (some s)) :=
    filter_filter_seen fun b _ hin => buildingClause_seen hin
  unfold listBuildings
  rw [hfilter]

lemma buildingsOut_seen : ((listBuildings env d (some s)).map (buildingOut d)).map BuildingOut.apart =
    ((listBuildings env (d.seen s) (some s)).map (buildingOut (d.seen s))).map BuildingOut.apart := by
  rw [listBuildings_seen, List.map_map, List.map_map]
  rfl

end PlaceReads

/-! ### Checks and journals -/

section JournalReads

variable {d : Db} {s : Scope} {env : Env}

lemma userNames_seen (ids : List Uuid) : userNames (d.seen s) ids = userNames d ids := rfl

lemma listChecks_seen {keep keep' : MachineCheck → Bool} {openOnly unassigned : Bool}
    {assignedToId machineId : Option Uuid} {page pageSize : ℕ}
    (hkeep : ∀ c, keep' c = keep c)
    (hin : ∀ c, keep c = true → (∀ m ∈ machineId, c.machineId = m) → d.machineIdsClause (some s) c.machineId = true) :
    listChecks (d.seen s) keep' openOnly assignedToId unassigned machineId page pageSize =
      listChecks d keep openOnly assignedToId unassigned machineId page pageSize := by
  have hfound : (d.seen s).checks.filter (fun c =>
        keep' c && (!openOnly || c.closedAt.isNone) && (assignedToId.all fun u => c.assignedToId = some u) &&
          (!unassigned || c.assignedToId.isNone) && machineId.all fun m => c.machineId = m) =
      d.checks.filter fun c =>
        keep c && (!openOnly || c.closedAt.isNone) && (assignedToId.all fun u => c.assignedToId = some u) &&
          (!unassigned || c.assignedToId.isNone) && machineId.all fun m => c.machineId = m := by
    change (d.checks.filter _).filter _ = _
    rw [List.filter_filter]
    refine List.filter_congr fun c _ => ?_
    rw [hkeep]
    cases hclause : d.machineIdsClause (some s) c.machineId with
    | true => rw [Bool.and_true]
    | false =>
      rw [Bool.and_false, eq_comm, Bool.eq_false_iff]
      intro hall
      simp only [Bool.and_eq_true] at hall
      have htrue := hin c hall.1.1.1.1 fun m hm => by
        have hmachine := hall.2
        rw [Option.mem_def.1 hm, Option.all_some] at hmachine
        exact of_decide_eq_true hmachine
      rw [hclause] at htrue
      cases htrue
  unfold listChecks
  dsimp only
  rw [hfound]

lemma keep_of_mem_listChecks {keep : MachineCheck → Bool} {openOnly unassigned : Bool}
    {assignedToId machineId : Option Uuid} {page pageSize : ℕ} {c : MachineCheck}
    (hc : c ∈ (listChecks d keep openOnly assignedToId unassigned machineId page pageSize).1) : keep c = true := by
  unfold listChecks Sql.page Sql.orderBy at hc
  have hfound := List.mem_of_mem_drop (List.mem_of_mem_take hc)
  rw [List.mem_mergeSort, List.mem_filter] at hfound
  simp only [Bool.and_eq_true] at hfound
  exact hfound.2.1.1.1.1

lemma machineChecks_seen (h : d.Sited) (machineId : Uuid) (page pageSize : ℕ) :
    machineChecks (d.seen s) (some s) machineId page pageSize = machineChecks d (some s) machineId page pageSize := by
  unfold machineChecks
  rw [requireMachine_seen h]
  refine bind_congr_ok fun m hok => ?_
  have hclause := requireMachine_ok hok
  have hlist : listChecks (d.seen s) (fun _ => true) false none false (some machineId) page pageSize =
      listChecks d (fun _ => true) false none false (some machineId) page pageSize :=
    listChecks_seen (fun _ => rfl) fun c _ hmachine => by rw [hmachine machineId rfl]; exact hclause
  have hout : ∀ rows, checksOut (d.seen s) rows false = checksOut d rows false := fun _ => rfl
  rw [hlist]
  dsimp only
  rw [hout]

lemma interventions_seen (h : d.Sited) (machineId : Uuid) (page pageSize : ℕ) :
    interventions (d.seen s) (some s) machineId page pageSize = interventions d (some s) machineId page pageSize := by
  unfold interventions
  rw [requireMachine_seen h]
  refine bind_congr_ok fun m hok => ?_
  have hclause := requireMachine_ok hok
  have hfound : (d.seen s).interventions.filter (fun i => i.machineId = machineId) =
      d.interventions.filter fun i => i.machineId = machineId := by
    change (d.interventions.filter _).filter _ = _
    rw [List.filter_filter]
    refine List.filter_congr fun i _ => ?_
    by_cases hid : i.machineId = machineId
    · rw [hid, hclause, Bool.and_true]
    · rw [decide_eq_false hid, Bool.false_and]
  unfold listForMachine
  rw [hfound]

/-! ### Postes with their places -/

/-- Where the scope names no site, a poste is selected by its room. -/
lemma room_of_selected (hsites : s.locations = ∅) {m : Machine} (hin : d.machineClause (some s) m = true) :
    ∃ r ∈ d.rooms, m.roomId = some r.id ∧ d.roomClause (some s) r = true := by
  rcases machineClause_iff.1 hin with hsite | hroom
  · rw [hsites] at hsite
    obtain ⟨l, hl, -⟩ := inSet_iff.1 hsite
    exact absurd hl (Finset.notMem_empty l)
  · exact hroom

/-- And is seen with its room and its building. -/
lemma placed_seen (h : d.Sited) (hsites : s.locations = ∅) {m : Machine} (hin : d.machineClause (some s) m = true) :
    Rooms.roomOf (d.seen s).tables m.toMachine = Rooms.roomOf d.tables m.toMachine ∧
      Rooms.buildingOf (d.seen s).tables (Rooms.roomOf d.tables m.toMachine) =
        Rooms.buildingOf d.tables (Rooms.roomOf d.tables m.toMachine) := by
  obtain ⟨r, hr, hroom, hrin⟩ := room_of_selected hsites hin
  obtain ⟨hseen, hof⟩ := roomOf_seen h hr hrin hroom
  rw [hseen, hof, buildingOf_seen h hr hrin]
  exact ⟨rfl, rfl⟩

lemma fleetResolved_seen (h : d.Sited) (hsites : s.locations = ∅) (now : Time) :
    fleetResolved (d.seen s) (some s) now = fleetResolved d (some s) now := by
  have hfilter : (d.seen s).machines.filter ((d.seen s).machineClause (some s)) =
      d.machines.filter (d.machineClause (some s)) :=
    filter_filter_seen fun m _ hin => machineClause_seen h hin
  unfold fleetResolved
  rw [fleetRows_eq h, fleetRows_eq h.seen, List.filter_map, List.filter_map, List.map_map, List.map_map]
  change ((d.seen s).machines.filter ((d.seen s).machineClause (some s))).map _ =
    (d.machines.filter (d.machineClause (some s))).map _
  rw [hfilter]
  refine List.map_congr_left fun m hm => ?_
  obtain ⟨hroom, hbuilding⟩ := placed_seen h hsites (List.mem_filter.1 hm).2
  simp only [Function.comp_apply, hroom, hbuilding]
  rfl

lemma due_seen (h : d.Sited) (hsites : s.locations = ∅) (now : Time) (currentId : Uuid) (owner : Option String) :
    due env (d.seen s) (some s) now currentId owner = due env d (some s) now currentId owner := by
  unfold due
  rw [fleetResolved_seen h hsites]
  rfl

/-- The postes that visible checks are about, with their places. -/
lemma machineRefs_seen (h : d.Sited) (hsites : s.locations = ∅) {ids : List Uuid}
    (hids : ∀ id ∈ ids, d.machineIdsClause (some s) id = true) : machineRefs (d.seen s) ids = machineRefs d ids := by
  have hclause : ∀ m ∈ d.machines, m.id ∈ ids → d.machineClause (some s) m = true := by
    intro m hm hid
    have hget : d.getMachine m.id = some m := (rowOf_eq_some_iff h.machineIds).2 ⟨hm, rfl⟩
    have hin := hids m.id hid
    rwa [machineIdsClause_eq h, hget, Option.any_some] at hin
  have hfilter : (d.seen s).machines.filter (fun m => m.id ∈ ids) = d.machines.filter fun m => m.id ∈ ids := by
    change (d.machines.filter _).filter _ = _
    rw [List.filter_filter]
    refine List.filter_congr fun m hm => ?_
    by_cases hid : m.id ∈ ids
    · rw [hclause m hm hid, Bool.and_true]
    · rw [decide_eq_false hid, Bool.false_and]
  unfold machineRefs
  rw [hfilter]
  refine List.map_congr_left fun m hm => ?_
  obtain ⟨hmem, hid⟩ := List.mem_filter.1 hm
  obtain ⟨hroom, hbuilding⟩ := placed_seen h hsites (hclause m hmem (of_decide_eq_true hid))
  dsimp only
  rw [Rooms.placement_eq h.keyed m.toMachine, Rooms.placement_eq h.seen.keyed m.toMachine, hroom, hbuilding]

lemma checksOut_seen (h : d.Sited) (hsites : s.locations = ∅) {rows : List MachineCheck}
    (hrows : ∀ c ∈ rows, d.machineIdsClause (some s) c.machineId = true) :
    checksOut (d.seen s) rows true = checksOut d rows true := by
  have hrefs : machineRefs (d.seen s) (rows.map MachineCheck.machineId) =
      machineRefs d (rows.map MachineCheck.machineId) := by
    refine machineRefs_seen h hsites fun id hid => ?_
    obtain ⟨c, hc, rfl⟩ := List.mem_map.1 hid
    exact hrows c hc
  unfold checksOut
  rw [if_pos rfl, if_pos rfl, hrefs, userNames_seen]

lemma checks_seen (h : d.Sited) (hsites : s.locations = ∅) (currentId : Uuid) (openOnly : Bool)
    (assignedTo : Option String) (page pageSize : ℕ) :
    checks env (d.seen s) (some s) currentId openOnly assignedTo page pageSize =
      checks env d (some s) currentId openOnly assignedTo page pageSize := by
  have hlist : ∀ assignedToId unassigned,
      listChecks (d.seen s) (fun c => (d.seen s).machineIdsClause (some s) c.machineId) openOnly assignedToId
          unassigned none page pageSize =
        listChecks d (fun c => d.machineIdsClause (some s) c.machineId) openOnly assignedToId unassigned none page
          pageSize := fun _ _ =>
    listChecks_seen (fun c => machineIdsClause_seen h c.machineId) fun c hkeep _ => hkeep
  have hout : ∀ assignedToId unassigned,
      checksOut (d.seen s) (listChecks d (fun c => d.machineIdsClause (some s) c.machineId) openOnly assignedToId
          unassigned none page pageSize).1 true =
        checksOut d (listChecks d (fun c => d.machineIdsClause (some s) c.machineId) openOnly assignedToId
          unassigned none page pageSize).1 true := fun _ _ =>
    checksOut_seen h hsites fun c hc => keep_of_mem_listChecks hc
  unfold checks
  refine bind_congr_ok fun filter _ => ?_
  obtain ⟨assignedToId, unassigned⟩ := filter
  dsimp only
  rw [hlist, hout]

lemma getCheck_seen (h : d.Legal) (hsites : s.locations = ∅) (id : Uuid) :
    getCheck (d.seen s) (some s) id = getCheck d (some s) id := by
  have hget : rowOf MachineCheck.key (d.seen s).checks id =
      (rowOf MachineCheck.key d.checks id).filter fun c => d.machineIdsClause (some s) c.machineId :=
    rowOf_filter h.checkIds _ id
  unfold getCheck
  rw [hget]
  cases rowOf MachineCheck.key d.checks id with
  | none => rfl
  | some c =>
    have hvisible : (d.seen s).machineVisible (some s) c.machineId = d.machineVisible (some s) c.machineId :=
      machineIdsClause_seen h.sited c.machineId
    cases hin : d.machineIdsClause (some s) c.machineId with
    | true =>
      have hrefs : machineRefs (d.seen s) [c.machineId] = machineRefs d [c.machineId] := by
        refine machineRefs_seen h.sited hsites fun id hid => ?_
        rw [List.mem_singleton.1 hid, hin]
      have hkept : (some c).filter (fun c => d.machineIdsClause (some s) c.machineId) = some c :=
        Option.filter_some_pos hin
      rw [hkept]
      dsimp only
      rw [hvisible, hrefs, userNames_seen]
    | false =>
      have hdropped : (some c).filter (fun c => d.machineIdsClause (some s) c.machineId) = none :=
        Option.filter_some_neg (by simp [hin])
      rw [hdropped]
      dsimp only
      rw [Db.machineVisible, hin]
      rfl

end JournalReads

/-! ### Every read -/

/-- The reads of which a scope sees no more than its part: those of a visit, only when it selects nothing, and
those that show postes with their places, only when it names no site. -/
def Route.covered (s : Scope) : Route → Prop
  | .session | .machineSessions => s = .empty
  | .due | .checks | .check => s.locations = ∅
  | _ => True

section Reads

variable {d : Db} {s : Scope} {env : Env} {current : User} {now : Time}

lemma visitClause_empty (d : Db) (v : Visit) : visitClause d (some .empty) v = false := by
  have hroom : ∀ r, d.roomClause (some .empty) r = false := fun r => roomIn_empty r.toRoom
  have hmachine : ∀ m, d.machineClause (some .empty) m = false := fun m => visible_empty
  unfold visitClause Db.machineIdsClause
  simp [hroom, hmachine]

lemma listSessions_empty (d : Db) (roomId machineId : Option Uuid) (page pageSize : ℕ) :
    listSessions d (some .empty) roomId machineId page pageSize = ([], 0) := by
  unfold listSessions Sql.orderBy Sql.page
  simp [visitClause_empty]

/-- **The answer from the part.**  A read that is covered answers from what the scope sees, apart from the counts
of visits and buildings. -/
theorem respond_seen (h : d.Legal) (read : Read) (hcovered : read.route.covered s) :
    Response.apart <$> respond env current (some s) now d read =
      Response.apart <$> respond env current (some s) now (d.seen s) read := by
  cases read with
  | due owner => exact congrArg (fun out => Response.apart <$> Response.due <$> out) (due_seen h.sited hcovered _ _ _).symm
  | sessions roomId machineId page pageSize =>
    have hsessions : (sessions d (some s) roomId machineId page pageSize).items.map SessionOut.apart =
          (sessions (d.seen s) (some s) roomId machineId page pageSize).items.map SessionOut.apart ∧
        (sessions d (some s) roomId machineId page pageSize).total =
          (sessions (d.seen s) (some s) roomId machineId page pageSize).total := by
      cases machineId with
      | none => exact sessions_seen h.sited roomId page pageSize
      | some m =>
        obtain rfl : s = .empty := hcovered
        unfold sessions
        rw [listSessions_empty, listSessions_empty]
        exact ⟨rfl, rfl⟩
    obtain ⟨hitems, htotal⟩ := hsessions
    refine congrArg Except.ok (congrArg Response.sessions ?_)
    rw [Paged.mk.injEq]
    exact ⟨hitems, htotal, rfl, rfl⟩
  | session id =>
    obtain rfl : s = .empty := hcovered
    have hnone : ∀ d' : Db, getSession env d' (some .empty) id = .error maintenanceNotFound := by
      intro d'
      unfold getSession
      split
      · rfl
      · rw [visitClause_empty]
        rfl
    unfold respond
    dsimp only
    rw [hnone, hnone]
  | record payload visitId entryId =>
    have hsession : ∀ x : Except AppError (Db × SessionOut),
        Response.apart <$> (fun out => Response.session out.2) <$> x =
          Response.session <$> (fun out => out.2.apart) <$> x := by
      intro x
      cases x with
      | error e => rfl
      | ok out => rfl
    unfold respond
    dsimp only
    rw [hsession, hsession, recordRoute_seen h.sited]
  | buildings => exact congrArg (fun out => Except.ok (Response.buildings out)) buildingsOut_seen
  | rooms => exact congrArg (fun out => Except.ok (Response.rooms out)) (roomsOut_seen h.sited).symm
  | room id => exact congrArg (fun out => Response.apart <$> Response.room <$> out) (getRoomRoute_seen h.sited id).symm
  | machineChecks machineId page pageSize =>
    exact congrArg (fun out => Response.apart <$> Response.checks <$> out)
      (machineChecks_seen h.sited machineId page pageSize).symm
  | checks openOnly assignedTo page pageSize =>
    exact congrArg (fun out => Response.apart <$> Response.checks <$> out)
      (checks_seen h.sited hcovered current.id openOnly assignedTo page pageSize).symm
  | check id =>
    exact congrArg (fun out => Response.apart <$> Response.check <$> out) (getCheck_seen h hcovered id).symm
  | assignableUsers => rfl
  | interventions machineId page pageSize =>
    exact congrArg (fun out => Response.apart <$> Response.interventions <$> out)
      (interventions_seen h.sited machineId page pageSize).symm

end Reads

end Tiai.Confined
