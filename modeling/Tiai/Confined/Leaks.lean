import Mathlib.Data.Fintype.EquivFin
import Tiai.Confined.Covered

/-!
# What leaks out of a scope

The reads that answer from beyond what the scope sees, and that no others do.

* `Route.Within` — the law for one kind of read: two states that look the same through the scope are answered
  the same; `Leak` — a read of two states that breaks it;
* `session_leaks`, `machineSessions_leaks` — a visit that covered a poste elsewhere;
* `due_leaks`, `checks_leaks`, `check_leaks` — a poste that is on a site of the scope, in a room elsewhere;
* `within_iff_covered` — when the law holds.
-/

namespace Tiai.Confined

open Lib

/-- The reads of this kind answer the same on two states that look the same through the scope. -/
def Route.Within (env : Env) (current : User) (now : Time) (s : Scope) (route : Route) : Prop :=
  ∀ read : Read, read.route = route → ∀ d d' : Db, d.Legal → d'.Legal → d.seen s = d'.seen s →
    Response.apart <$> respond env current (some s) now d read =
      Response.apart <$> respond env current (some s) now d' read

/-- A read that answers two states apart, where the scope sees the same. -/
structure Leak (env : Env) (current : User) (now : Time) (s : Scope) (read : Read) (d d' : Db) : Prop where
  legal : d.Legal
  legal' : d'.Legal
  seen : d.seen s = d'.seen s
  answer : Response.apart <$> respond env current (some s) now d read ≠
    Response.apart <$> respond env current (some s) now d' read

lemma Leak.not_within {env : Env} {current : User} {now : Time} {s : Scope} {read : Read} {d d' : Db}
    (h : Leak env current now s read d d') : ¬ read.route.Within env current now s := fun hwithin =>
  h.answer (hwithin read rfl d d' h.legal h.legal' h.seen)

/-! ### Rows -/

def plainBuilding (id : Uuid) : Rooms.Building :=
  { id, location := none, name := "Bâtiment", notes := none, createdAt := 0, updatedAt := 0 }

def plainRoom (id : Uuid) (buildingId : Option Uuid) (location : Option String) (name : String) : Rooms.Room :=
  { id, buildingId, location, name, adKey := none, maintenanceCycleDays := none, maintenanceOwnerId := none,
    notes := none, createdAt := 0, updatedAt := 0 }

def plainMachine (location : Option String) (roomId : Option Uuid) : Machine :=
  { id := 0, location, roomId, adDistinguishedName := none, adOu := none, adOuDn := none, adLocation := none,
    updatedAt := 0, hostname := none, firstSeen := 0, lastMaintenanceAt := none, maintenanceCycleDays := none,
    maintenanceOwnerId := none }

def plainPolicy : Maintenance.MaintenancePolicy := ⟨90, none, 14⟩

/-- One poste, one room and no more than one building are legal, when each is where it says. -/
lemma one_legal {m : Machine} {room : Rooms.Room} {building : Option Rooms.Building}
    (hroom : ∀ id ∈ m.roomId, id = room.id) (hbuilding : ∀ id ∈ room.buildingId, ∃ b ∈ building, b.id = id) :
    (⟨[m.toMachine], [room], building.toList⟩ : Rooms.Tables).Legal where
  machineIds := List.nodup_singleton _
  roomIds := List.nodup_singleton _
  buildingIds := by
    cases building with
    | none => exact List.nodup_nil
    | some b => exact List.nodup_singleton _
  buildingNames b hb c hc _ _ := by
    rw [Option.mem_toList] at hb hc
    rw [Option.mem_unique hb hc]
  roomNames r hr q hq _ _ := by
    rw [List.mem_singleton.1 hr, List.mem_singleton.1 hq]
  adKeys r hr q hq _ _ := by
    rw [List.mem_singleton.1 hr, List.mem_singleton.1 hq]
  roomBuilding r hr id hid := by
    rw [List.mem_singleton.1 hr] at hid
    obtain ⟨b, hb, rfl⟩ := hbuilding id hid
    exact List.mem_map.2 ⟨b, Option.mem_toList.2 hb, rfl⟩
  machineRoom m' hm id hid := by
    rw [List.mem_singleton.1 hm] at hid
    rw [hroom id hid]
    exact List.mem_singleton_self _

/-! ### A visit that covered a poste elsewhere -/

def visitOf (room : Rooms.Room) : Visit :=
  { id := 0, roomId := some room.id, roomName := some room.name, performedBy := "admin@test.local",
    performedAt := 0, note := none, createdAt := 0 }

def visitEntry : Intervention :=
  { id := 0, machineId := 0, kind := "maintenance", title := some "Maintenance", note := some "hors portée",
    performedBy := "admin@test.local", performedAt := 0, checkId := none, maintenanceId := some 0,
    createdAt := 0, updatedAt := 0 }

/-- A visit of `room`, and a poste in no place with these entries. -/
def visited (room : Rooms.Room) (building : Option Rooms.Building) (entries : List Intervention) : Db where
  machines := [plainMachine none none]
  rooms := [room]
  buildings := building.toList
  interventions := entries
  checks := []
  visits := [visitOf room]
  users := []
  policy := plainPolicy

/-- A room of which the scope sees a visit. -/
structure Shown (s : Scope) (room : Rooms.Room) (building : Option Rooms.Building) : Prop where
  inBuilding : ∀ id ∈ room.buildingId, ∃ b ∈ building, b.id = id
  site : room.buildingId ≠ none → room.location = none
  unowned : room.maintenanceOwnerId = none
  visible : ∀ entries, (visited room building entries).roomClause (some s) room = true

section Visited

variable {env : Env} {current : User} {now : Time} {s : Scope} {room : Rooms.Room} {building : Option Rooms.Building}
  {entries : List Intervention}

lemma visited_legal (h : Shown s room building) (hentries : entries = [visitEntry] ∨ entries = []) :
    (visited room building entries).Legal where
  places := one_legal (by simp [plainMachine]) h.inBuilding
  inBuilding r hr := by
    obtain rfl := List.mem_singleton.1 hr
    exact h.site
  interventionIds := by rcases hentries with rfl | rfl <;> simp [visited]
  checkIds := by simp [visited]
  visitIds := by simp [visited]
  userIds := by simp [visited]
  interventionMachine := by
    rcases hentries with rfl | rfl <;> simp [visited, visitEntry, plainMachine, Machine.key]
  interventionCheck := by rcases hentries with rfl | rfl <;> simp [visited, visitEntry]
  interventionVisit := by rcases hentries with rfl | rfl <;> simp [visited, visitEntry, visitOf, Visit.key]
  checkMachine := by simp [visited]
  checkAssignee := by simp [visited]
  checkOpen := by simp [visited]
  visitRoom := by simp [visited, visitOf, Rooms.Room.key]
  machineOwner := by simp [visited, plainMachine]
  roomOwner r hr := by
    obtain rfl := List.mem_singleton.1 hr
    simp [h.unowned]

/-- A poste in no place is in no scope. -/
lemma unplaced_hidden (d : Db) : d.machineClause (some s) (plainMachine none none) = false := by
  rw [← Bool.not_eq_true, machineClause_iff]
  rintro (hsite | ⟨r, -, hroom, -⟩)
  · cases hsite
  · cases hroom

/-- Nothing is seen of its entries. -/
lemma visited_seen : (visited room building [visitEntry]).seen s = (visited room building []).seen s := by
  have hhidden : (visited room building [visitEntry]).machineIdsClause (some s) visitEntry.machineId = false := by
    unfold Db.machineIdsClause
    have hmachines : (visited room building [visitEntry]).machines = [plainMachine none none] := rfl
    rw [hmachines, List.any_cons, List.any_nil, unplaced_hidden, Bool.and_false]
    rfl
  have hnone : [visitEntry].filter
      (fun i => (visited room building [visitEntry]).machineIdsClause (some s) i.machineId) = [] := by
    rw [List.filter_cons_of_neg (Bool.not_eq_true _ ▸ hhidden), List.filter_nil]
  have hseen : (visited room building [visitEntry]).seen s =
      { (visited room building []).seen s with
        interventions := ([visitEntry].filter
          (fun i => (visited room building [visitEntry]).machineIdsClause (some s) i.machineId)) } := rfl
  rw [hseen, hnone]
  rfl

lemma visited_visible (h : Shown s room building) :
    visitClause (visited room building entries) (some s) (visitOf room) = true := by
  unfold visitClause
  have hany : (visited room building entries).rooms.any (fun r =>
      (visitOf room).roomId = some r.id && (visited room building entries).roomClause (some s) r) = true := by
    rw [List.any_eq_true]
    exact ⟨room, List.mem_singleton_self room, by simp [visitOf, h.visible]⟩
  rw [hany, Bool.or_true, Bool.true_or]

/-- The detail shows the items of the poste elsewhere. -/
lemma visited_items (env : Env) (h : Shown s room building) (hentries : entries = [visitEntry] ∨ entries = []) :
    ∃ out, getSession env (visited room building entries) (some s) 0 = .ok out ∧
      out.items.length = entries.length := by
  have hvisit : rowOf Visit.key (visited room building entries).visits 0 = some (visitOf room) :=
    rowOf_cons_of_eq rfl
  refine ⟨sessionOut env (visited room building entries) none (visitOf room), ?_, ?_⟩
  · unfold getSession
    rw [hvisit]
    dsimp only
    rw [if_pos (visited_visible h)]
  · unfold sessionOut sessionItems Sql.orderBy
    rw [List.length_map, List.length_mergeSort]
    rcases hentries with rfl | rfl
    · rfl
    · rfl

/-- And so it tells whether there are any. -/
lemma session_leaks (h : Shown s room building) :
    Leak env current now s (.session 0) (visited room building [visitEntry]) (visited room building []) where
  legal := visited_legal h (.inl rfl)
  legal' := visited_legal h (.inr rfl)
  seen := visited_seen
  answer := by
    obtain ⟨out, hout, hitems⟩ := visited_items env h (.inl rfl)
    obtain ⟨out', hout', hitems'⟩ := visited_items env h (.inr rfl)
    unfold respond
    dsimp only
    rw [hout, hout']
    intro heq
    have hsame : out.apart.items = out'.apart.items :=
      congrArg SessionOut.items (Response.session.inj (Except.ok.inj heq))
    have hlength : out.items.length = out'.items.length := congrArg List.length hsame
    rw [hitems, hitems'] at hlength
    cases hlength

/-- The visits of the poste elsewhere. -/
lemma visited_total (h : Shown s room building) (hentries : entries = [visitEntry] ∨ entries = []) :
    (sessions (visited room building entries) (some s) none (some 0) 1 25).total = entries.length := by
  have hvisits : (visited room building entries).visits = [visitOf room] := rfl
  unfold sessions listSessions
  dsimp only
  rw [hvisits]
  rcases hentries with rfl | rfl
  · rw [List.filter_cons_of_pos]
    · rfl
    · rw [visited_visible h]
      rfl
  · rw [List.filter_cons_of_neg]
    · rfl
    · rw [visited_visible h]
      exact Bool.false_ne_true

/-- The list of visits, asked of it, tells the same. -/
lemma machineSessions_leaks (h : Shown s room building) :
    Leak env current now s (.sessions none (some 0) 1 25) (visited room building [visitEntry])
      (visited room building []) where
  legal := visited_legal h (.inl rfl)
  legal' := visited_legal h (.inr rfl)
  seen := visited_seen
  answer := by
    intro heq
    have hsame := congrArg Paged.total (Response.sessions.inj (Except.ok.inj heq))
    have htotal : (sessions (visited room building [visitEntry]) (some s) none (some 0) 1 25).total =
        (sessions (visited room building []) (some s) none (some 0) 1 25).total := hsame
    rw [visited_total h (.inl rfl), visited_total h (.inr rfl)] at htotal
    cases htotal

end Visited

/-- A scope that selects something sees the visits of some room. -/
lemma exists_shown {s : Scope} (hs : s ≠ .empty) : ∃ room building, Shown s room building := by
  have hnames : (∃ l, l ∈ s.locations) ∨ (∃ b, b ∈ s.buildings) ∨ ∃ r, r ∈ s.rooms := by
    rw [← Finset.Nonempty, ← Finset.Nonempty, ← Finset.Nonempty]
    by_contra hnone
    rw [not_or, not_or, Finset.not_nonempty_iff_eq_empty, Finset.not_nonempty_iff_eq_empty,
      Finset.not_nonempty_iff_eq_empty] at hnone
    obtain ⟨locations, buildings, rooms⟩ := s
    exact hs (by rw [Scope.empty, Scope.mk.injEq]; exact hnone)
  rcases hnames with ⟨l, hl⟩ | ⟨b, hb⟩ | ⟨r, hr⟩
  · refine ⟨plainRoom 0 none (some l) "A", none, by simp [plainRoom], by simp [plainRoom], rfl, fun entries => ?_⟩
    exact roomClause_iff.2 (.inl (inSet_iff.2 ⟨l, hl, rfl⟩))
  · refine ⟨plainRoom 0 (some b) none "A", some (plainBuilding b), ?_, fun _ => rfl, rfl, fun entries => ?_⟩
    · intro id hid
      obtain rfl := Option.some.inj hid
      exact ⟨plainBuilding b, rfl, rfl⟩
    · exact roomClause_iff.2 (.inr (.inl (inSet_iff.2 ⟨b, hb, rfl⟩)))
  · refine ⟨plainRoom r none none "A", none, by simp [plainRoom], by simp [plainRoom], rfl, fun entries => ?_⟩
    exact roomClause_iff.2 (.inr (.inr hr))

/-! ### A poste on a site of the scope, in a room elsewhere -/

def openCheck : MachineCheck :=
  { id := 0, machineId := 0, requestedBy := "admin@test.local", assignedToId := none, instructions := none,
    createdAt := 0, updatedAt := 0, closedAt := none, closedBy := none, closingNote := none }

/-- A poste on the site `l`, waiting for a check, in the room `ρ`. -/
def placed (l : String) (ρ : Uuid) (name : String) : Db where
  machines := [plainMachine (some l) (some ρ)]
  rooms := [plainRoom ρ none none name]
  buildings := []
  interventions := []
  checks := [openCheck]
  visits := []
  users := []
  policy := plainPolicy

section Placed

variable {env : Env} {current : User} {now : Time} {s : Scope} {l : String} {ρ : Uuid} {name : String}

lemma placed_legal : (placed l ρ name).Legal where
  places := show (⟨[_], [_], Option.toList none⟩ : Rooms.Tables).Legal from
    one_legal (by simp [plainMachine, plainRoom]) (by simp [plainRoom])
  inBuilding r hr h := by
    obtain rfl := List.mem_singleton.1 hr
    exact absurd rfl h
  interventionIds := by simp [placed]
  checkIds := by simp [placed]
  visitIds := by simp [placed]
  userIds := by simp [placed]
  interventionMachine := by simp [placed]
  interventionCheck := by simp [placed]
  interventionVisit := by simp [placed]
  checkMachine := by simp [placed, openCheck, plainMachine, Machine.key]
  checkAssignee := by simp [placed, openCheck]
  checkOpen := by simp [placed]
  visitRoom := by simp [placed]
  machineOwner := by simp [placed, plainMachine]
  roomOwner := by simp [placed, plainRoom]

lemma placed_hidden (hρ : ρ ∉ s.rooms) : (placed l ρ name).roomClause (some s) (plainRoom ρ none none name) = false := by
  rw [← Bool.not_eq_true, roomClause_iff]
  rintro (hsite | hbuilding | hroom)
  · cases hsite
  · cases hbuilding
  · exact hρ hroom

/-- The name of the room is not seen. -/
lemma placed_seen_eq (hρ : ρ ∉ s.rooms) (name name' : String) :
    (placed l ρ name).seen s = (placed l ρ name').seen s := by
  have hrooms : ∀ name, (placed l ρ name).rooms.filter ((placed l ρ name).roomClause (some s)) = [] := by
    intro name
    change [plainRoom ρ none none name].filter _ = []
    rw [List.filter_cons_of_neg (Bool.not_eq_true _ ▸ placed_hidden hρ), List.filter_nil]
  unfold Db.seen
  rw [hrooms, hrooms]
  rfl

lemma placed_selected (hl : l ∈ s.locations) :
    (placed l ρ name).machineClause (some s) (plainMachine (some l) (some ρ)) = true :=
  machineClause_iff.2 (.inl (inSet_iff.2 ⟨l, hl, rfl⟩))

lemma placed_room : Rooms.roomOf (placed l ρ name).tables (plainMachine (some l) (some ρ)).toMachine =
    some (plainRoom ρ none none name) := by
  have hget : Rooms.getRoom (placed l ρ name).tables ρ = some (plainRoom ρ none none name) := rowOf_cons_of_eq rfl
  exact hget

lemma placed_fleet (ρ : Uuid) (name : String) (hl : l ∈ s.locations) (now : Time) :
    ∃ res, fleetResolved (placed l ρ name) (some s) now =
      [(⟨plainMachine (some l) (some ρ), some (plainRoom ρ none none name), none⟩, res)] := by
  have hrows : fleetRows (placed l ρ name) =
      [⟨plainMachine (some l) (some ρ), some (plainRoom ρ none none name), none⟩] := by
    rw [fleetRows_eq placed_legal.sited]
    change [FleetRow.mk _ _ _] = _
    rw [placed_room]
    rfl
  unfold fleetResolved
  rw [hrows, List.filter_cons_of_pos]
  · exact ⟨_, rfl⟩
  · exact placed_selected hl

/-- The due list names the room. -/
lemma placed_due (env : Env) (ρ : Uuid) (name : String) (hl : l ∈ s.locations) (now : Time) (currentId : Uuid) :
    ∃ out, due env (placed l ρ name) (some s) now currentId none = .ok out ∧ out.rooms.map DueRoomOut.name = [name] := by
  obtain ⟨res, hfleet⟩ := placed_fleet ρ name hl now
  refine ⟨dueOut env (placed l ρ name) (fleetResolved (placed l ρ name) (some s) now) none false, rfl, ?_⟩
  rw [hfleet]
  unfold dueOut groupDue Sql.orderBy
  rw [List.foldl_cons, List.foldl_nil]
  change (List.map _ (List.mergeSort [DueRoom.add _ _ _] _)).map DueRoomOut.name = _
  rw [List.mergeSort_singleton, List.map_singleton, List.map_singleton]
  change [(DueRoom.add _ _ _).room.name] = _
  rw [add_room]
  rfl

lemma due_leaks (hl : l ∈ s.locations) (hρ : ρ ∉ s.rooms) :
    Leak env current now s (.due none) (placed l ρ "A") (placed l ρ "B") where
  legal := placed_legal
  legal' := placed_legal
  seen := placed_seen_eq hρ "A" "B"
  answer := by
    obtain ⟨out, hout, hnames⟩ := placed_due env ρ "A" hl now current.id
    obtain ⟨out', hout', hnames'⟩ := placed_due env ρ "B" hl now current.id
    unfold respond
    dsimp only
    rw [hout, hout']
    intro heq
    have hsame : out.rooms = out'.rooms := congrArg DueOut.rooms (Response.due.inj (Except.ok.inj heq))
    rw [hsame, hnames'] at hnames
    revert hnames
    decide

/-- Where the poste of a check is. -/
lemma placed_refs : machineRefs (placed l ρ name) [openCheck.machineId] = [(0, ⟨0, none, some l, some name, none⟩)] := by
  have hplacement : Rooms.placement (placed l ρ name).tables (some ρ) = ⟨some (plainRoom ρ none none name), none⟩ := by
    have hkeyed : (placed l ρ name).tables.Keyed := placed_legal.sited.keyed
    have heq := Rooms.placement_eq hkeyed (plainMachine (some l) (some ρ)).toMachine
    rw [placed_room] at heq
    exact heq
  have hrefs : machineRefs (placed l ρ name) [openCheck.machineId] =
      [(0, ⟨0, none, some l, (Rooms.placement (placed l ρ name).tables (some ρ)).room.map fun r => r.name,
        (Rooms.placement (placed l ρ name).tables (some ρ)).building.map fun b => b.name⟩)] := rfl
  rw [hrefs, hplacement]
  rfl

lemma placed_visible (hl : l ∈ s.locations) : (placed l ρ name).machineIdsClause (some s) openCheck.machineId = true := by
  rw [machineIdsClause_eq placed_legal.sited]
  exact placed_selected hl

/-- A check says in which room its poste is. -/
lemma placed_check (ρ : Uuid) (name : String) (hl : l ∈ s.locations) : ∃ out, getCheck (placed l ρ name) (some s) 0 = .ok out ∧
    out.machine.map MachineRef.roomName = some (some name) := by
  have hcheck : rowOf MachineCheck.key (placed l ρ name).checks 0 = some openCheck := rowOf_cons_of_eq rfl
  refine ⟨checkOut [] (machineRefs (placed l ρ name) [openCheck.machineId]) openCheck, ?_, ?_⟩
  · unfold getCheck
    rw [hcheck]
    dsimp only
    rw [Db.machineVisible, if_pos (placed_visible hl)]
    rfl
  · rw [placed_refs]
    rfl

lemma check_leaks (hl : l ∈ s.locations) (hρ : ρ ∉ s.rooms) :
    Leak env current now s (.check 0) (placed l ρ "A") (placed l ρ "B") where
  legal := placed_legal
  legal' := placed_legal
  seen := placed_seen_eq hρ "A" "B"
  answer := by
    obtain ⟨out, hout, hroom⟩ := placed_check ρ "A" hl
    obtain ⟨out', hout', hroom'⟩ := placed_check ρ "B" hl
    unfold respond
    dsimp only
    rw [hout, hout']
    intro heq
    have hsame : out = out' := Response.check.inj (Except.ok.inj heq)
    rw [hsame, hroom'] at hroom
    revert hroom
    decide

/-- And so does the list of checks. -/
lemma placed_checks (env : Env) (ρ : Uuid) (name : String) (hl : l ∈ s.locations) (currentId : Uuid) :
    ∃ out, checks env (placed l ρ name) (some s) currentId false none 1 50 = .ok out ∧
      out.items.map (fun c => c.machine.map MachineRef.roomName) = [some (some name)] := by
  have hlist : listChecks (placed l ρ name) (fun c => (placed l ρ name).machineIdsClause (some s) c.machineId) false
      none false none 1 50 = ([openCheck], 1) := by
    have hchecks : (placed l ρ name).checks = [openCheck] := rfl
    unfold listChecks Sql.orderBy
    dsimp only
    rw [hchecks, List.filter_cons_of_pos]
    · rw [List.filter_nil, List.mergeSort_singleton]
      rfl
    · rw [placed_visible hl]
      rfl
  refine ⟨⟨checksOut (placed l ρ name) [openCheck] true, 1, 1, 50⟩, ?_, ?_⟩
  · unfold checks
    change Except.ok (Paged.mk (checksOut _ (listChecks _ _ _ none false none 1 50).1 true)
      (listChecks _ _ _ none false none 1 50).2 1 50) = _
    rw [hlist]
  · unfold checksOut
    rw [if_pos rfl, List.map_singleton, List.map_singleton, List.map_singleton, placed_refs]
    rfl

lemma checks_leaks (hl : l ∈ s.locations) (hρ : ρ ∉ s.rooms) :
    Leak env current now s (.checks false none 1 50) (placed l ρ "A") (placed l ρ "B") where
  legal := placed_legal
  legal' := placed_legal
  seen := placed_seen_eq hρ "A" "B"
  answer := by
    obtain ⟨out, hout, hrooms⟩ := placed_checks env ρ "A" hl current.id
    obtain ⟨out', hout', hrooms'⟩ := placed_checks env ρ "B" hl current.id
    unfold respond
    dsimp only
    rw [hout, hout']
    intro heq
    have hsame : out = out' := Response.checks.inj (Except.ok.inj heq)
    rw [hsame, hrooms'] at hrooms
    revert hrooms
    decide

end Placed

/-! ### When the law holds -/

section Confinement

variable {env : Env} {current : User} {now : Time} {s : Scope}

lemma covered_within {route : Route} (hcovered : route.covered s) : route.Within env current now s := by
  rintro read rfl d d' h h' hseen
  calc Response.apart <$> respond env current (some s) now d read
      = Response.apart <$> respond env current (some s) now (d.seen s) read := respond_seen h read hcovered
    _ = Response.apart <$> respond env current (some s) now (d'.seen s) read := by rw [hseen]
    _ = Response.apart <$> respond env current (some s) now d' read := (respond_seen h' read hcovered).symm

lemma site_of_not_covered (hs : s.locations ≠ ∅) : ∃ l ∈ s.locations, ∃ ρ, ρ ∉ s.rooms := by
  obtain ⟨l, hl⟩ := Finset.nonempty_iff_ne_empty.2 hs
  obtain ⟨ρ, hρ⟩ := Infinite.exists_notMem_finset s.rooms
  exact ⟨l, hl, ρ, hρ⟩

lemma not_within_of_not_covered {route : Route} (hcovered : ¬ route.covered s) :
    ¬ route.Within env current now s := by
  cases route with
  | session =>
    obtain ⟨room, building, h⟩ := exists_shown hcovered
    exact (session_leaks h).not_within
  | machineSessions =>
    obtain ⟨room, building, h⟩ := exists_shown hcovered
    exact (machineSessions_leaks h).not_within
  | due =>
    obtain ⟨l, hl, ρ, hρ⟩ := site_of_not_covered hcovered
    exact (due_leaks hl hρ).not_within
  | checks =>
    obtain ⟨l, hl, ρ, hρ⟩ := site_of_not_covered hcovered
    exact (checks_leaks hl hρ).not_within
  | check =>
    obtain ⟨l, hl, ρ, hρ⟩ := site_of_not_covered hcovered
    exact (check_leaks hl hρ).not_within
  | sessions => exact absurd trivial hcovered
  | record => exact absurd trivial hcovered
  | buildings => exact absurd trivial hcovered
  | rooms => exact absurd trivial hcovered
  | room => exact absurd trivial hcovered
  | machineChecks => exact absurd trivial hcovered
  | assignableUsers => exact absurd trivial hcovered
  | interventions => exact absurd trivial hcovered

end Confinement

/-- **When a confined account reads nothing beyond its scope.**  The detail of a visit and the visits of a poste
keep to the scope only when it selects nothing; the due list and the checks with their postes, only when it names
no site; every other read, always. -/
theorem within_iff_covered (env : Env) (current : User) (now : Time) (s : Scope) (route : Route) :
    route.Within env current now s ↔ route.covered s := by
  constructor
  · intro hwithin
    by_contra hcovered
    exact not_within_of_not_covered hcovered hwithin
  · exact covered_within

/-- The scope of the accounts of one site. -/
def lycee : Scope := ⟨{"Lycée A"}, ∅, ∅⟩

def lyceeRoom : Rooms.Room := plainRoom 1 none (some "Lycée A") "CDI"

def Env.ascii : Env where
  lower text := String.ofList (text.toList.map Char.toLower)
  sqlLower text := String.ofList (text.toList.map Char.toLower)
  collate text other := compare text other
  parseUuid _ := none

def reader : User := ⟨1, "reader@test.local", none, true⟩

/-- A visit of the site shows the note left on a poste elsewhere; and a poste of the site, the name of a room
elsewhere. -/
theorem not_confined :
    Leak .ascii reader 0 lycee (.session 0) (visited lyceeRoom none [visitEntry]) (visited lyceeRoom none []) ∧
      Leak .ascii reader 0 lycee (.sessions none (some 0) 1 25) (visited lyceeRoom none [visitEntry])
        (visited lyceeRoom none []) ∧
      Leak .ascii reader 0 lycee (.due none) (placed "Lycée A" 7 "A") (placed "Lycée A" 7 "B") ∧
      Leak .ascii reader 0 lycee (.checks false none 1 50) (placed "Lycée A" 7 "A") (placed "Lycée A" 7 "B") ∧
      Leak .ascii reader 0 lycee (.check 0) (placed "Lycée A" 7 "A") (placed "Lycée A" 7 "B") := by
  have hsite : "Lycée A" ∈ lycee.locations := by decide
  have hroom : 7 ∉ lycee.rooms := by decide
  have hshown : Shown lycee lyceeRoom none :=
    ⟨by simp [lyceeRoom, plainRoom], by simp [lyceeRoom, plainRoom], rfl, fun entries =>
      roomClause_iff.2 (.inl (inSet_iff.2 ⟨"Lycée A", hsite, rfl⟩))⟩
  exact ⟨session_leaks hshown, machineSessions_leaks hshown, due_leaks hsite hroom, checks_leaks hsite hroom,
    check_leaks hsite hroom⟩

end Tiai.Confined
