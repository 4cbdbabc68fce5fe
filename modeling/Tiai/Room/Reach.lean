import Mathlib.Data.List.Perm.Subperm
import Tiai.Room.Site

/-!
# The reach of a confined account

What the requests of an account do to the postes that its own scope selects.

* `selected` — the postes that a scope selects;
* `Narrows` — what a write may do to rooms and postes, and `Narrows.selected`: it selects no more than before;
* `write_narrows` — one request of the account;
* `reach_shrinks` — any number of them.
-/

namespace Tiai.Rooms

open Lib

/-- The postes that a scope selects. -/
def selected (t : Tables) (s : Scope) : Finset Uuid :=
  ((t.machines.filter fun m => visible t.places (some s) m.toPoste).map Machine.key).toFinset

/-- A request on buildings, rooms and placements, by an account of scope `s`. -/
def Request.By (s : Scope) : Request → Prop
  | .createBuilding scope _ _ | .updateBuilding scope _ _ | .deleteBuilding scope _ | .createRoom scope _ _
  | .updateRoom scope _ _ | .deleteRoom scope _ | .placeMachines scope _ _ _ | .unassignMachines scope _ _ =>
    scope = some s
  | _ => False

section Reach

variable {t t' : Tables} {s : Scope} {now : Time} {uuid4 : Uuid4} {source : RoomSource} {id : Uuid}
  {r : Room} {b : Building} {m : Machine}

lemma mem_selected : id ∈ selected t s ↔
    ∃ m ∈ t.machines, m.id = id ∧ visible t.places (some s) m.toPoste = true := by
  unfold selected
  rw [List.mem_toFinset, List.mem_map]
  constructor
  · rintro ⟨m, hm, hid⟩
    obtain ⟨hmem, hin⟩ := List.mem_filter.1 hm
    exact ⟨m, hmem, hid, hin⟩
  · rintro ⟨m, hmem, hid, hin⟩
    exact ⟨m, List.mem_filter.2 ⟨hmem, hin⟩, hid⟩

/-! ### Rooms and the buildings they are in -/

/-- A poste is selected by its own site, or by its room. -/
lemma visible_iff : visible t.places (some s) m.toPoste = true ↔
    inSet s.locations m.location = true ∨
      ∃ r ∈ t.rooms, m.roomId = some r.id ∧ roomIn t.places s r.toRoom = true := by
  rw [visible_some_iff]
  refine or_congr_right ⟨?_, ?_⟩
  · rintro ⟨room, hroom, hid, hin⟩
    obtain ⟨r, hr, rfl⟩ := List.mem_map.1 hroom
    exact ⟨r, hr, hid, hin⟩
  · rintro ⟨r, hr, hid, hin⟩
    exact ⟨r.toRoom, List.mem_map_of_mem hr, hid, hin⟩

lemma roomIn_iff : roomIn t.places s r.toRoom = true ↔
    inSet s.locations (roomSite t.places r.toRoom) = true ∨ inSet s.buildings r.buildingId = true ∨
      r.id ∈ s.rooms := by
  rw [roomIn, Bool.or_eq_true, Bool.or_eq_true, decide_eq_true_iff, or_assoc]

/-- The site of a room in a building: the building's, if it has one. -/
lemma roomSite_of_building (legal : t.Legal) (hb : b ∈ t.buildings) (hin : r.buildingId = some b.id) :
    roomSite t.places r.toRoom = b.location.or r.location := by
  have hget : getBuilding t b.id = some b := (rowOf_eq_some_iff legal.buildingIds).2 ⟨hb, rfl⟩
  rw [roomSite_eq, hin, Option.bind_some, hget, Option.bind_some]

lemma roomSite_of_none (hin : r.buildingId = none) : roomSite t.places r.toRoom = r.location := by
  rw [roomSite_eq, hin]
  rfl

/-- A room is seen alike where its building is the same. -/
lemma roomIn_congr (legal : t.Legal) (legal' : t'.Legal) (hr : r ∈ t.rooms)
    (hsame : ∀ b ∈ t.buildings, r.buildingId = some b.id → b ∈ t'.buildings) :
    roomIn t'.places s r.toRoom = roomIn t.places s r.toRoom := by
  have hsite : roomSite t'.places r.toRoom = roomSite t.places r.toRoom := by
    cases hin : r.buildingId with
    | none => rw [roomSite_of_none hin, roomSite_of_none hin]
    | some building =>
      obtain ⟨b, hb, rfl⟩ := List.mem_map.1 (legal.roomBuilding r hr building hin)
      rw [roomSite_of_building legal hb hin, roomSite_of_building legal' (hsame b hb hin) hin]
  rw [Bool.eq_iff_iff, roomIn_iff, roomIn_iff, hsite]

/-- Who may write a building sees all of its rooms. -/
lemma roomIn_of_writable (legal : t.Legal) (hb : b ∈ t.buildings) (hwritable : buildingWritable b (some s) = true)
    (hin : r.buildingId = some b.id) : roomIn t.places s r.toRoom = true := by
  have hwritable : (decide (b.id ∈ s.buildings) || inSet s.locations b.location) = true := hwritable
  rw [Bool.or_eq_true, decide_eq_true_iff] at hwritable
  rw [roomIn_iff]
  rcases hwritable with hnamed | hsite
  · exact .inr (.inl (by rw [hin]; exact inSet_iff.2 ⟨b.id, hnamed, rfl⟩))
  · left
    obtain ⟨l, hl, hloc⟩ := inSet_iff.1 hsite
    rw [roomSite_of_building legal hb hin, hloc]
    exact inSet_iff.2 ⟨l, hl, rfl⟩

/-! ### Writes that narrow the reach -/

/-- Every poste was there, on its site; it is in its room, in none, or was selected; and a room that is seen was
seen, or has no poste. -/
structure Narrows (s : Scope) (t t' : Tables) : Prop where
  machines : ∀ m' ∈ t'.machines, ∃ m ∈ t.machines, m.id = m'.id ∧ m.location = m'.location ∧
    (m'.roomId = m.roomId ∨ m'.roomId = none ∨ visible t.places (some s) m.toPoste = true)
  rooms : ∀ r' ∈ t'.rooms, roomIn t'.places s r'.toRoom = true →
    (∀ m ∈ t.machines, m.roomId ≠ some r'.id) ∨ ∃ r ∈ t.rooms, r.id = r'.id ∧ roomIn t.places s r.toRoom = true

lemma Narrows.selected (h : Narrows s t t') : selected t' s ⊆ selected t s := by
  intro id hid
  obtain ⟨m', hm', rfl, hvisible⟩ := mem_selected.1 hid
  obtain ⟨m, hm, hkey, hlocation, hroom⟩ := h.machines m' hm'
  refine mem_selected.2 ⟨m, hm, hkey, ?_⟩
  rcases visible_iff.1 hvisible with hsite | ⟨r', hr', hin, hseen⟩
  · exact visible_iff.2 (.inl (hlocation ▸ hsite))
  · rcases hroom with hsame | hnone | hbefore
    · rw [hsame] at hin
      rcases h.rooms r' hr' hseen with hempty | ⟨r, hr, hrid, hrin⟩
      · exact absurd hin (hempty m hm)
      · exact visible_iff.2 (.inr ⟨r, hr, hrid ▸ hin, hrin⟩)
    · rw [hnone] at hin
      cases hin
    · exact hbefore

/-- Nothing is done to postes. -/
lemma machines_same (h : t'.machines = t.machines) : ∀ m' ∈ t'.machines, ∃ m ∈ t.machines, m.id = m'.id ∧
    m.location = m'.location ∧
      (m'.roomId = m.roomId ∨ m'.roomId = none ∨ visible t.places (some s) m.toPoste = true) :=
  fun m' hm' => ⟨m', h ▸ hm', rfl, rfl, .inl rfl⟩

/-! ### One request -/

lemma requireRoom_visible (h : requireRoom t (some s) id = .ok r) : roomIn t.places s r.toRoom = true := by
  unfold requireRoom at h
  split at h
  · cases h
  · split at h
    · rename_i hin
      cases h
      exact hin
    · cases h

/-- The postes that a request names are selected. -/
lemma requireMachines_visible (legal : t.Legal) {ids : List Uuid} {machines : List Machine}
    (h : requireMachines t (some s) ids = .ok machines) (hm : m ∈ t.machines) (hid : m.id ∈ ids) :
    visible t.places (some s) m.toPoste = true := by
  let found := t.machines.filter fun m => m.id ∈ ids ∧ visible t.places (some s) m.toPoste = true
  have hlength : found.length = ids.dedup.length := by
    by_contra hne
    unfold requireMachines at h
    dsimp only at h
    rw [if_pos hne] at h
    cases h
  have hmem : ∀ x ∈ found, x ∈ t.machines ∧ x.id ∈ ids ∧ visible t.places (some s) x.toPoste = true := by
    intro x hx
    obtain ⟨hx, hboth⟩ := List.mem_filter.1 hx
    exact ⟨hx, of_decide_eq_true hboth⟩
  have hnodup : (found.map Machine.key).Nodup := legal.machineIds.sublist (List.filter_sublist.map _)
  have hsubset : found.map Machine.key ⊆ ids.dedup := by
    intro x hx
    obtain ⟨y, hy, rfl⟩ := List.mem_map.1 hx
    exact List.mem_dedup.2 (hmem y hy).2.1
  -- as many postes are found as are named, so every one that is named is found
  have hperm : (found.map Machine.key).Perm ids.dedup :=
    (hnodup.subperm hsubset).perm_of_length_le (by rw [List.length_map, hlength])
  obtain ⟨x, hx, hkey⟩ := List.mem_map.1 (hperm.mem_iff.2 (List.mem_dedup.2 hid))
  obtain ⟨hx, -, hvisible⟩ := hmem x hx
  rwa [eq_of_key_eq legal.machineIds hx hm hkey] at hvisible

lemma createBuilding_narrows {payload : BuildingCreate} (legal : t.Legal)
    (hok : createBuilding (some s) now t uuid4 payload = .ok (t', b)) : Narrows s t t' := by
  unfold createBuilding at hok
  obtain ⟨-, -, hok⟩ := bind_eq_ok hok
  obtain ⟨-, -, hok⟩ := bind_eq_ok hok
  obtain ⟨t₁, hflush, hok⟩ := bind_eq_ok hok
  cases hok
  obtain ⟨rfl, legal'⟩ := flush_ok hflush
  refine ⟨machines_same rfl, fun r hr hin => .inr ⟨r, hr, rfl, ?_⟩⟩
  rwa [roomIn_congr legal legal' hr fun b hb _ => List.mem_append_left _ hb] at hin

lemma updateBuilding_narrows {payload : BuildingUpdate} (legal : t.Legal)
    (hok : updateBuilding (some s) now t id payload = .ok (t', b)) : Narrows s t t' := by
  unfold updateBuilding at hok
  obtain ⟨building, hbuilding, hok⟩ := bind_eq_ok hok
  obtain ⟨_, hwritable, hok⟩ := bind_eq_ok hok
  obtain ⟨-, -, hok⟩ := bind_eq_ok hok
  obtain ⟨-, -, hok⟩ := bind_eq_ok hok
  obtain ⟨-, -, hok⟩ := bind_eq_ok hok
  obtain ⟨t₁, hflush, hok⟩ := bind_eq_ok hok
  cases hok
  obtain ⟨rfl, legal'⟩ := flush_ok hflush
  have hmem := (requireBuilding_ok hbuilding).1
  refine ⟨machines_same rfl, fun r hr hin => .inr ⟨r, hr, rfl, ?_⟩⟩
  by_cases hof : r.buildingId = some building.id
  · exact roomIn_of_writable legal hmem (check_ok hwritable) hof
  · rwa [roomIn_congr legal legal' hr fun b hb hrb => ?_] at hin
    exact mem_putRow_of_ne hb fun heq => hof (hrb.trans (congrArg some heq))

lemma detached_id (building : Building) (r : Room) : (detached now building r).id = r.id := by
  unfold detached
  split <;> rfl

lemma unlinked_id (building : Building) (r : Room) : (unlinked building r).id = r.id := by
  unfold unlinked
  split <;> rfl

lemma deleteBuilding_narrows (legal : t.Legal) (hok : deleteBuilding (some s) now t id = .ok t') :
    Narrows s t t' := by
  unfold deleteBuilding at hok
  obtain ⟨building, hbuilding, hok⟩ := bind_eq_ok hok
  obtain ⟨_, hwritable, hok⟩ := bind_eq_ok hok
  obtain ⟨rfl, legal'⟩ := flush_ok hok
  have hmem := (requireBuilding_ok hbuilding).1
  refine ⟨machines_same rfl, fun r' hr' hin => .inr ?_⟩
  obtain ⟨x, hx, rfl⟩ := List.mem_map.1 hr'
  obtain ⟨r, hr, rfl⟩ := List.mem_map.1 hx
  by_cases hof : r.buildingId = some building.id
  · refine ⟨r, hr, ?_, roomIn_of_writable legal hmem (check_ok hwritable) hof⟩
    exact (detached_id building r).symm.trans (unlinked_id building _).symm
  · rw [unlinked_detached_of_ne hof] at hin hr' ⊢
    refine ⟨r, hr, rfl, ?_⟩
    rwa [roomIn_congr legal legal' hr fun b hb hrb => ?_] at hin
    exact List.mem_filter.2 ⟨hb, decide_eq_true fun heq => hof (hrb.trans (congrArg some heq))⟩

lemma createRoom_narrows {payload : RoomCreate} (legal : t.Legal)
    (hok : createRoom (some s) now t uuid4 payload = .ok (t', r)) : Narrows s t t' := by
  unfold createRoom at hok
  obtain ⟨-, -, hok⟩ := bind_eq_ok hok
  obtain ⟨-, -, hok⟩ := bind_eq_ok hok
  obtain ⟨t₁, hflush, hok⟩ := bind_eq_ok hok
  obtain ⟨-, -, hok⟩ := bind_eq_ok hok
  cases hok
  obtain ⟨rfl, legal'⟩ := flush_ok hflush
  refine ⟨machines_same rfl, fun r' hr' hin => ?_⟩
  rcases List.mem_append.1 hr' with hold | hnew
  · right
    refine ⟨r', hold, rfl, ?_⟩
    rwa [roomIn_congr legal legal' hold fun b hb _ => hb] at hin
  · left
    intro m hm hroom
    rw [List.mem_singleton.1 hnew] at hroom
    exact uuid4.fresh _ (legal.machineRoom m hm _ hroom)

lemma updateRoom_narrows {payload : RoomUpdate} (legal : t.Legal)
    (hok : updateRoom (some s) now t id payload = .ok (t', r)) : Narrows s t t' := by
  unfold updateRoom at hok
  obtain ⟨room, hroom, hok⟩ := bind_eq_ok hok
  obtain ⟨-, -, hok⟩ := bind_eq_ok hok
  obtain ⟨-, -, hok⟩ := bind_eq_ok hok
  obtain ⟨-, -, hok⟩ := bind_eq_ok hok
  obtain ⟨t₁, hflush, hok⟩ := bind_eq_ok hok
  obtain ⟨-, -, hok⟩ := bind_eq_ok hok
  cases hok
  obtain ⟨rfl, legal'⟩ := flush_ok hflush
  refine ⟨machines_same rfl, fun r' hr' hin => .inr ?_⟩
  rcases mem_putRow hr' with rfl | ⟨hold, -⟩
  · exact ⟨room, (requireRoom_ok hroom).1, rfl, requireRoom_visible hroom⟩
  · refine ⟨r', hold, rfl, ?_⟩
    rwa [roomIn_congr legal legal' hold fun b hb _ => hb] at hin

lemma deleteRoom_narrows (legal : t.Legal) (hok : deleteRoom (some s) t id = .ok t') : Narrows s t t' := by
  unfold deleteRoom at hok
  obtain ⟨room, -, hok⟩ := bind_eq_ok hok
  obtain ⟨rfl, legal'⟩ := flush_ok hok
  refine ⟨fun m' hm' => ?_, fun r' hr' hin => .inr ?_⟩
  · obtain ⟨m, hm, rfl⟩ := List.mem_map.1 hm'
    refine ⟨m, hm, ?_⟩
    unfold leftRoom
    split
    · exact ⟨rfl, rfl, .inr (.inl rfl)⟩
    · exact ⟨rfl, rfl, .inl rfl⟩
  · have hold := List.mem_of_mem_filter hr'
    refine ⟨r', hold, rfl, ?_⟩
    rwa [roomIn_congr legal legal' hold fun b hb _ => hb] at hin

/-- Postes that are selected are moved. -/
lemma setRoom_narrows {ids : List Uuid} {machines : List Machine} (legal : t.Legal)
    (hmachines : requireMachines t (some s) ids = .ok machines) (roomId : Option Uuid) :
    Narrows s t (setRoom now t ids roomId).1 := by
  refine ⟨fun m' hm' => ?_, fun r hr hin => .inr ⟨r, hr, rfl, hin⟩⟩
  obtain ⟨m, hm, rfl⟩ := List.mem_map.1 hm'
  refine ⟨m, hm, ?_⟩
  split
  · rename_i hid
    exact ⟨rfl, rfl, .inr (.inr (requireMachines_visible legal hmachines hm hid))⟩
  · exact ⟨rfl, rfl, .inl rfl⟩

lemma placeMachines_narrows {ids : List Uuid} {result : PlacementResult} (legal : t.Legal)
    (hok : placeMachines (some s) now t source id ids = .ok (t', result)) : Narrows s t t' := by
  unfold placeMachines at hok
  obtain ⟨-, -, hok⟩ := bind_eq_ok hok
  obtain ⟨room, -, hok⟩ := bind_eq_ok hok
  obtain ⟨machines, hmachines, hok⟩ := bind_eq_ok hok
  obtain ⟨t₁, hflush, hok⟩ := bind_eq_ok hok
  cases hok
  obtain ⟨rfl, -⟩ := flush_ok hflush
  exact setRoom_narrows legal hmachines _

lemma unassignMachines_narrows {ids : List Uuid} {result : PlacementResult} (legal : t.Legal)
    (hok : unassignMachines (some s) now t source ids = .ok (t', result)) : Narrows s t t' := by
  unfold unassignMachines at hok
  obtain ⟨-, -, hok⟩ := bind_eq_ok hok
  obtain ⟨machines, hmachines, hok⟩ := bind_eq_ok hok
  obtain ⟨t₁, hflush, hok⟩ := bind_eq_ok hok
  cases hok
  obtain ⟨rfl, -⟩ := flush_ok hflush
  exact setRoom_narrows legal hmachines _

/-- One request of the account. -/
lemma write_narrows {e : Event} (hby : e.request.By s) (legal : t.Legal) (hok : write t e = .ok t') :
    Narrows s t t' := by
  obtain ⟨now, request⟩ := e
  cases request with
  | createBuilding scope uuid4 payload =>
    obtain rfl : scope = some s := hby
    obtain ⟨b, hok⟩ := map_fst_ok hok
    exact createBuilding_narrows legal hok
  | updateBuilding scope id payload =>
    obtain rfl : scope = some s := hby
    obtain ⟨b, hok⟩ := map_fst_ok hok
    exact updateBuilding_narrows legal hok
  | deleteBuilding scope id =>
    obtain rfl : scope = some s := hby
    exact deleteBuilding_narrows legal hok
  | createRoom scope uuid4 payload =>
    obtain rfl : scope = some s := hby
    obtain ⟨r, hok⟩ := map_fst_ok hok
    exact createRoom_narrows legal hok
  | updateRoom scope id payload =>
    obtain rfl : scope = some s := hby
    obtain ⟨r, hok⟩ := map_fst_ok hok
    exact updateRoom_narrows legal hok
  | deleteRoom scope id =>
    obtain rfl : scope = some s := hby
    exact deleteRoom_narrows legal hok
  | placeMachines scope source id ids =>
    obtain rfl : scope = some s := hby
    obtain ⟨result, hok⟩ := map_fst_ok hok
    exact placeMachines_narrows legal hok
  | unassignMachines scope source ids =>
    obtain rfl : scope = some s := hby
    obtain ⟨result, hok⟩ := map_fst_ok hok
    exact unassignMachines_narrows legal hok
  | syncDirectory scope source uuid4 order => exact hby.elim
  | enroll id location => exact hby.elim
  | heartbeat source uuid4 id location directory => exact hby.elim

lemma step_selected {e : Event} (hby : e.request.By s) (legal : t.Legal) :
    (step t e).Legal ∧ selected (step t e) s ⊆ selected t s := by
  unfold step
  cases hok : write t e >>= flush with
  | error _ => exact ⟨legal, subset_rfl⟩
  | ok t' =>
    obtain ⟨t₁, hwrite, hflush⟩ := bind_eq_ok hok
    obtain ⟨rfl, legal'⟩ := flush_ok hflush
    exact ⟨legal', (write_narrows hby legal hwrite).selected⟩

end Reach

/-- **A confined account cannot widen its reach.**  Whatever it asks of buildings, rooms and placements, its scope
selects no poste that it did not select before. -/
theorem reach_shrinks (s : Scope) {t : Tables} (legal : t.Legal) (events : List Event)
    (hby : ∀ e ∈ events, e.request.By s) : selected (run step t events) s ⊆ selected t s := by
  induction events generalizing t with
  | nil => exact subset_rfl
  | cons e events ih =>
    obtain ⟨legal', hstep⟩ := step_selected (hby e List.mem_cons_self) legal
    exact (ih legal' fun e he => hby e (List.mem_cons_of_mem _ he)).trans hstep

/-- Two buildings of a site that the account names, and a poste on another site. -/
def twoSites : Tables where
  machines :=
    [{ id := 1, location := some "Lycée A", roomId := none, adDistinguishedName := none, adOu := none
       adOuDn := none, adLocation := none, updatedAt := 0 },
     { id := 2, location := some "Lycée B", roomId := some 20, adDistinguishedName := none, adOu := none
       adOuDn := none, adLocation := none, updatedAt := 0 }]
  rooms :=
    [{ id := 10, buildingId := some 5, location := none, name := "CDI", adKey := none
       maintenanceCycleDays := none, maintenanceOwnerId := none, notes := none, createdAt := 0, updatedAt := 0 },
     { id := 20, buildingId := none, location := some "Lycée B", name := "CDI", adKey := none
       maintenanceCycleDays := none, maintenanceOwnerId := none, notes := none, createdAt := 0, updatedAt := 0 }]
  buildings := [{ id := 5, location := some "Lycée A", name := "A", notes := none, createdAt := 0, updatedAt := 0 }]

/-- A placement, a building removed, and a room moved. -/
theorem reach_shrinks_twoSites :
    selected (run step twoSites
      [⟨1, .placeMachines (some ⟨{"Lycée A"}, ∅, ∅⟩) .manual 10 [1]⟩, ⟨2, .deleteBuilding (some ⟨{"Lycée A"}, ∅, ∅⟩) 5⟩,
        ⟨3, .updateRoom (some ⟨{"Lycée A"}, ∅, ∅⟩) 20 ⟨none, none, some (some "Lycée A"), none⟩⟩])
      ⟨{"Lycée A"}, ∅, ∅⟩ ⊆ selected twoSites ⟨{"Lycée A"}, ∅, ∅⟩ := by
  refine reach_shrinks _ (by decide) _ fun e he => ?_
  simp only [List.mem_cons, List.not_mem_nil, or_false] at he
  rcases he with rfl | rfl | rfl <;> rfl

end Tiai.Rooms
