import Tiai.Confined.Routes

/-!
# What a scope sees

The part of the tables that a scope selects, and the clauses and the lookups on it.

* `Db.seen` — that part: the postes selected with what hangs off them, the rooms and buildings made visible,
  and the visits, the accounts and the settings as they are;
* `roomIn_seen`, `machineClause_seen`, … — the scope selects there what it selects in the whole;
* `requireMachine_seen`, `requireRoom_seen` — and what a route finds by its id.
-/

namespace Tiai.Confined

open Lib

/-- The part of the tables that a scope selects. -/
def Db.seen (d : Db) (s : Scope) : Db where
  machines := d.machines.filter (d.machineClause (some s))
  rooms := d.rooms.filter (d.roomClause (some s))
  buildings := d.buildings.filter (d.buildingClause (some s))
  interventions := d.interventions.filter fun i => d.machineIdsClause (some s) i.machineId
  checks := d.checks.filter fun c => d.machineIdsClause (some s) c.machineId
  visits := d.visits
  users := d.users
  policy := d.policy

/-- What the queries rely on: the keys of postes, rooms and buildings, and one site for a room. -/
structure Db.Sited (d : Db) : Prop where
  keyed : d.tables.Keyed
  inBuilding : ∀ r ∈ d.rooms, r.buildingId ≠ none → r.location = none

lemma Db.Legal.sited {d : Db} (h : d.Legal) : d.Sited := ⟨h.places.keyed, h.inBuilding⟩

section Clauses

variable {d : Db} {s : Scope} {m : Machine} {r : Rooms.Room} {b : Rooms.Building}

lemma Db.Sited.machineIds (h : d.Sited) : (d.machines.map Machine.key).Nodup := by
  have hids := h.keyed.machineIds
  rw [Db.tables, List.map_map] at hids
  exact hids

/-! ### The clauses -/

lemma machineClause_iff : d.machineClause (some s) m = true ↔
    inSet s.locations m.location = true ∨
      ∃ r ∈ d.rooms, m.roomId = some r.id ∧ d.roomClause (some s) r = true := by
  rw [Db.machineClause, visible_some_iff]
  refine or_congr_right ⟨?_, ?_⟩
  · rintro ⟨room, hroom, hid, hin⟩
    obtain ⟨r, hr, rfl⟩ := List.mem_map.1 hroom
    exact ⟨r, hr, hid, hin⟩
  · rintro ⟨r, hr, hid, hin⟩
    exact ⟨r.toRoom, List.mem_map_of_mem hr, hid, hin⟩

lemma roomClause_iff : d.roomClause (some s) r = true ↔
    inSet s.locations (roomSite d.places r.toRoom) = true ∨ inSet s.buildings r.buildingId = true ∨
      r.id ∈ s.rooms := by
  change roomIn d.places s r.toRoom = true ↔ _
  rw [roomIn, Bool.or_eq_true, Bool.or_eq_true, decide_eq_true_iff, or_assoc]

lemma buildingClause_iff : d.buildingClause (some s) b = true ↔
    inSet s.locations b.location = true ∨ b.id ∈ s.buildings ∨
      ∃ r ∈ d.rooms, r.id ∈ s.rooms ∧ r.buildingId = some b.id := by
  change buildingIn d.places s b.toBuilding = true ↔ _
  rw [buildingIn, Bool.or_eq_true, Bool.or_eq_true, decide_eq_true_iff, or_assoc, List.any_eq_true]
  refine or_congr_right (or_congr_right ⟨?_, ?_⟩)
  · rintro ⟨room, hroom, hin⟩
    obtain ⟨r, hr, rfl⟩ := List.mem_map.1 hroom
    exact ⟨r, hr, by simpa using hin⟩
  · rintro ⟨r, hr, hin⟩
    exact ⟨r.toRoom, List.mem_map_of_mem hr, by simpa using hin⟩

lemma roomSite_eq : roomSite d.places r.toRoom =
    ((r.buildingId.bind (Rooms.getBuilding d.tables)).bind fun b => b.location).or r.location :=
  Rooms.roomSite_eq r

/-- The building of a visible room is visible. -/
lemma buildingClause_of_room (h : d.Sited) (hr : r ∈ d.rooms) (hin : d.roomClause (some s) r = true)
    (hb : b ∈ d.buildings) (hbuilding : r.buildingId = some b.id) : d.buildingClause (some s) b = true := by
  rw [buildingClause_iff]
  rcases roomClause_iff.1 hin with hsite | hnamed | hroom
  · left
    have hget : Rooms.getBuilding d.tables b.id = some b := (rowOf_eq_some_iff h.keyed.buildingIds).2 ⟨hb, rfl⟩
    have hown : r.location = none := h.inBuilding r hr (by simp [hbuilding])
    rw [roomSite_eq, hbuilding, Option.bind_some, hget, Option.bind_some, hown, Option.or_none] at hsite
    exact hsite
  · right; left
    rw [hbuilding] at hnamed
    simpa [inSet] using hnamed
  · exact .inr (.inr ⟨r, hr, hroom, hbuilding⟩)

/-- The postes of a visible room are visible. -/
lemma machineClause_of_room (hr : r ∈ d.rooms) (hin : d.roomClause (some s) r = true) (hroom : m.roomId = some r.id) :
    d.machineClause (some s) m = true := machineClause_iff.2 (.inr ⟨r, hr, hroom, hin⟩)

/-! ### Rows of the part -/

lemma Db.Sited.seen (h : d.Sited) : (d.seen s).Sited where
  keyed := by
    refine ⟨?_, h.keyed.roomIds.sublist (List.filter_sublist.map _),
      h.keyed.buildingIds.sublist (List.filter_sublist.map _)⟩
    exact h.keyed.machineIds.sublist ((List.filter_sublist.map _).map _)
  inBuilding r hr := h.inBuilding r (List.mem_of_mem_filter hr)

lemma getMachine_seen (h : d.Sited) (id : Uuid) :
    (d.seen s).getMachine id = (d.getMachine id).filter (d.machineClause (some s)) :=
  rowOf_filter h.machineIds _ id

lemma getRoom_seen (h : d.Sited) (id : Uuid) : Rooms.getRoom (d.seen s).tables id =
    (Rooms.getRoom d.tables id).filter (d.roomClause (some s)) := rowOf_filter h.keyed.roomIds _ id

lemma getBuilding_seen (h : d.Sited) (id : Uuid) : Rooms.getBuilding (d.seen s).tables id =
    (Rooms.getBuilding d.tables id).filter (d.buildingClause (some s)) := rowOf_filter h.keyed.buildingIds _ id

/-- A visible room keeps its building. -/
lemma buildingOf_seen (h : d.Sited) (hr : r ∈ d.rooms) (hin : d.roomClause (some s) r = true) :
    Rooms.buildingOf (d.seen s).tables (some r) = Rooms.buildingOf d.tables (some r) := by
  unfold Rooms.buildingOf
  rw [Option.bind_some]
  cases hbuilding : r.buildingId with
  | none => rfl
  | some id =>
    rw [Option.bind_some, Option.bind_some, getBuilding_seen h]
    cases hget : Rooms.getBuilding d.tables id with
    | none => rfl
    | some b =>
      have hid : b.id = id := show Rooms.Building.key b = id from key_of_rowOf hget
      rw [Option.filter_some_pos (buildingClause_of_room h hr hin (mem_of_rowOf hget) (hid ▸ hbuilding))]

/-! ### The clauses on the part -/

lemma roomClause_seen (h : d.Sited) (hr : r ∈ d.rooms) (hin : d.roomClause (some s) r = true) :
    (d.seen s).roomClause (some s) r = true := by
  have hsite : roomSite (d.seen s).places r.toRoom = roomSite d.places r.toRoom := by
    have hbuilding := buildingOf_seen h hr hin
    unfold Rooms.buildingOf at hbuilding
    rw [Option.bind_some] at hbuilding
    rw [roomSite_eq, roomSite_eq, hbuilding]
  rw [roomClause_iff] at hin ⊢
  rw [hsite]
  exact hin

lemma mem_rooms_seen (hr : r ∈ d.rooms) (hin : d.roomClause (some s) r = true) : r ∈ (d.seen s).rooms :=
  List.mem_filter.2 ⟨hr, hin⟩

lemma machineClause_seen (h : d.Sited) (hin : d.machineClause (some s) m = true) :
    (d.seen s).machineClause (some s) m = true := by
  rw [machineClause_iff] at hin ⊢
  rcases hin with hsite | ⟨r, hr, hroom, hin⟩
  · exact .inl hsite
  · exact .inr ⟨r, mem_rooms_seen hr hin, hroom, roomClause_seen h hr hin⟩

lemma buildingClause_seen (hin : d.buildingClause (some s) b = true) :
    (d.seen s).buildingClause (some s) b = true := by
  rw [buildingClause_iff] at hin ⊢
  rcases hin with hsite | hnamed | ⟨r, hr, hroom, hbuilding⟩
  · exact .inl hsite
  · exact .inr (.inl hnamed)
  · exact .inr (.inr ⟨r, mem_rooms_seen hr (roomClause_iff.2 (.inr (.inr hroom))), hroom, hbuilding⟩)

/-- A clause that keeps what it kept selects the same rows of the part. -/
lemma filter_filter_seen {α : Type} {rows : List α} {p q : α → Bool} (h : ∀ a ∈ rows, p a = true → q a = true) :
    (rows.filter p).filter q = rows.filter p := by
  refine List.filter_eq_self.2 fun a ha => ?_
  obtain ⟨hmem, hp⟩ := List.mem_filter.1 ha
  exact h a hmem hp

lemma machineIdsClause_eq (h : d.Sited) (id : Uuid) :
    d.machineIdsClause (some s) id = (d.getMachine id).any (d.machineClause (some s)) := by
  rw [Bool.eq_iff_iff]
  unfold Db.machineIdsClause
  simp only [reduceCtorEq, decide_false, Bool.false_or, List.any_eq_true, Bool.and_eq_true, decide_eq_true_eq,
    Option.any_eq_true]
  constructor
  · rintro ⟨m, hm, hid, hin⟩
    exact ⟨m, (rowOf_eq_some_iff h.machineIds).2 ⟨hm, hid⟩, hin⟩
  · rintro ⟨m, hget, hin⟩
    exact ⟨m, mem_of_rowOf hget, show Machine.key m = id from key_of_rowOf hget, hin⟩

lemma machineIdsClause_seen (h : d.Sited) (id : Uuid) :
    (d.seen s).machineIdsClause (some s) id = d.machineIdsClause (some s) id := by
  rw [machineIdsClause_eq h, machineIdsClause_eq h.seen, getMachine_seen h]
  cases d.getMachine id with
  | none => rfl
  | some m =>
    cases hin : d.machineClause (some s) m with
    | true => rw [Option.filter_some_pos hin, Option.any_some, Option.any_some, machineClause_seen h hin, hin]
    | false => rw [Option.filter_some_neg (by simp [hin]), Option.any_none, Option.any_some, hin]

end Clauses

/-! ### Postes and rooms that are named -/

section Named

variable {d : Db} {s : Scope}

lemma machineVisible_of_get (h : d.Sited) {id : Uuid} {m : Machine} (hget : d.getMachine id = some m) :
    d.machineVisible (some s) id = d.machineClause (some s) m := by
  rw [Db.machineVisible, machineIdsClause_eq h, hget, Option.any_some]

lemma requireMachine_seen (h : d.Sited) (id : Uuid) :
    requireMachine (d.seen s) (some s) id = requireMachine d (some s) id := by
  have hvisible : (d.seen s).machineVisible (some s) id = d.machineVisible (some s) id := machineIdsClause_seen h id
  unfold requireMachine
  rw [getMachine_seen h, hvisible]
  cases hget : d.getMachine id with
  | none => rfl
  | some m =>
    rw [machineVisible_of_get h hget]
    cases hin : d.machineClause (some s) m with
    | true => rw [Option.filter_some_pos hin]
    | false => rw [Option.filter_some_neg (by simp [hin])]; rfl

lemma requireMachine_ok {id : Uuid} {m : Machine} (hok : requireMachine d (some s) id = .ok m) :
    d.machineIdsClause (some s) id = true := by
  unfold requireMachine at hok
  split at hok
  · cases hok
  · split at hok
    · assumption
    · cases hok

lemma requireRoom_seen (h : d.Sited) (id : Uuid) :
    Rooms.requireRoom (d.seen s).tables (some s) id = Rooms.requireRoom d.tables (some s) id := by
  unfold Rooms.requireRoom
  rw [getRoom_seen h]
  cases hget : Rooms.getRoom d.tables id with
  | none => rfl
  | some r =>
    have hr : r ∈ d.rooms := mem_of_rowOf hget
    cases hin : d.roomClause (some s) r with
    | true =>
      have hseen := roomClause_seen h hr hin
      rw [Option.filter_some_pos hin]
      unfold Db.roomClause Db.places at hin hseen
      dsimp only
      rw [hin, hseen]
    | false =>
      rw [Option.filter_some_neg (by simp [hin])]
      unfold Db.roomClause Db.places at hin
      dsimp only
      rw [hin]
      rfl

lemma requireRoom_ok {id : Uuid} {r : Rooms.Room} (hok : Rooms.requireRoom d.tables (some s) id = .ok r) :
    r ∈ d.rooms ∧ d.roomClause (some s) r = true := by
  unfold Rooms.requireRoom at hok
  split at hok
  · cases hok
  · rename_i room hget
    split at hok
    · rename_i hin
      obtain rfl := Except.ok.inj hok
      exact ⟨mem_of_rowOf hget, hin⟩
    · cases hok

end Named

end Tiai.Confined
