import Tiai.Confined.Covered
import Tiai.Lib.Grouping

/-!
# What is due counts everybody once

`group_due` reads the resolved postes one after the other and puts each that the filter keeps into the entry of its
room, or among the loose ones.

* `selected`, `placement` — what the filter keeps, and where a poste belongs;
* `DueRoom.Counted` — the counts of an entry are those of its postes;
* `Grouped.step`, `grouped_foldl` — what the loop has placed after each poste;
* `placements_groupDue` — the placements are those of the selected postes, in some order;
* `groupDue_counts_everybody` — each once, with the right counts; and every owner in turn, with nobody, gives all.
-/

namespace Tiai.Confined

open Lib
open Maintenance (MaintenancePolicy MaintenanceState Resolved)

/-! ### Where a poste belongs -/

/-- Whether the filter keeps a poste. -/
def selected (ownerFilter : Option Uuid) (unowned : Bool) (entry : FleetRow × Resolved) : Bool :=
  ownerFilter.all (fun owner => entry.2.ownerId = some owner) && (!unowned || entry.2.ownerId.isNone)

/-- A poste beside the room it is listed under, or none. -/
abbrev Placement := Option Uuid × Machine × Resolved

/-- Under its room; or loose, if it has none and is not excluded. -/
def placement (entry : FleetRow × Resolved) : Option Placement :=
  match entry.1.room with
  | some room => some (some room.id, entry.1.machine, entry.2)
  | none => if entry.2.state = .excluded then none else some (none, entry.1.machine, entry.2)

def DueRoom.placements (e : DueRoom) : List Placement := e.machines.map fun m => (some e.room.id, m)

/-- Where every poste of a result is listed. -/
def placements (due : List DueRoom × List (Machine × Resolved)) : List Placement :=
  due.1.flatMap DueRoom.placements ++ due.2.map fun m => (none, m)

/-- The counts of an entry are those of its postes. -/
structure DueRoom.Counted (e : DueRoom) : Prop where
  total : e.total = e.machines.length
  overdue : e.overdue = e.machines.countP (·.2.state = .overdue)
  dueSoon : e.dueSoon = e.machines.countP (·.2.state = .dueSoon)
  excluded : e.excluded = e.machines.countP (·.2.state = .excluded)
  nextDueAt : e.nextDueAt = ((e.machines.filter (·.2.state ≠ .excluded)).filterMap (·.2.dueAt)).min?

lemma selected_owner (owner : Uuid) :
    selected (some owner) false = fun entry => decide (entry.2.ownerId = some owner) := by
  funext entry
  simp [selected]

lemma selected_nobody : selected none true = fun entry => decide (entry.2.ownerId = none) := by
  funext entry
  cases howner : entry.2.ownerId with
  | none => simp [selected, howner]
  | some owner => simp [selected, howner]

lemma selected_everybody : selected none false = fun _ => true := rfl

section

variable {e : DueRoom} {m : Machine} {res : Resolved} {policy : MaintenancePolicy} {ownerFilter : Option Uuid}
  {unowned : Bool} {done : List (FleetRow × Resolved)} {acc : List DueRoom × List (Machine × Resolved)}
  {entry : FleetRow × Resolved}

/-! ### One more poste of a room -/

lemma add_machines (e : DueRoom) (m : Machine) (res : Resolved) :
    (e.add m res).machines = e.machines ++ [(m, res)] := by
  unfold DueRoom.add
  cases res.state with
  | excluded => rfl
  | overdue => rfl
  | dueSoon => rfl
  | ok => rfl

lemma min?_append_toList (dues : List Time) (due : Option Time) :
    (dues ++ due.toList).min? = earlier dues.min? due := by
  cases due with
  | none =>
    rw [Option.toList_none, List.append_nil]
    rfl
  | some t =>
    cases dues with
    | nil => rfl
    | cons s dues =>
      rw [Option.toList_some, List.cons_append, List.min?_cons', List.min?_cons', List.foldl_append]
      unfold earlier
      simp only [List.foldl_cons, List.foldl_nil, Option.all_some, decide_eq_true_eq]
      split
      · rename_i h
        rw [min_eq_right (le_of_lt h)]
      · rename_i h
        rw [min_eq_left (not_lt.1 h)]

lemma counted_new (policy : MaintenancePolicy) (room : Rooms.Room) (building : Option Rooms.Building) :
    (DueRoom.new policy room building).Counted := ⟨rfl, rfl, rfl, rfl, rfl⟩

lemma DueRoom.Counted.add (h : e.Counted) (m : Machine) (res : Resolved) : (e.add m res).Counted := by
  have hnext : res.state ≠ .excluded →
      (((e.machines ++ [(m, res)]).filter (·.2.state ≠ .excluded)).filterMap (·.2.dueAt)).min? =
        earlier e.nextDueAt res.dueAt := by
    intro hstate
    rw [List.filter_append, List.filterMap_append, h.nextDueAt, ← min?_append_toList]
    congr 2
    rw [List.filter_cons_of_pos (by simpa using hstate), List.filter_nil]
    cases hdue : res.dueAt with
    | none => simp [hdue]
    | some t => simp [hdue]
  have htotal : (e.add m res).total = e.total + 1 := by
    unfold DueRoom.add
    cases res.state with
    | excluded => rfl
    | overdue => rfl
    | dueSoon => rfl
    | ok => rfl
  refine ⟨?_, ?_, ?_, ?_, ?_⟩ <;> rw [add_machines]
  · rw [htotal, h.total, List.length_append, List.length_singleton]
  · rw [List.countP_append, ← h.overdue]
    cases hstate : res.state <;> simp [DueRoom.add, hstate]
  · rw [List.countP_append, ← h.dueSoon]
    cases hstate : res.state <;> simp [DueRoom.add, hstate]
  · rw [List.countP_append, ← h.excluded]
    cases hstate : res.state <;> simp [DueRoom.add, hstate]
  · cases hstate : res.state with
    | excluded =>
      rw [List.filter_append, List.filter_cons_of_neg (by simpa using hstate), List.filter_nil, List.append_nil,
        ← h.nextDueAt]
      simp only [DueRoom.add, hstate]
    | overdue =>
      rw [hnext (by simp [hstate])]
      simp only [DueRoom.add, hstate]
    | dueSoon =>
      rw [hnext (by simp [hstate])]
      simp only [DueRoom.add, hstate]
    | ok =>
      rw [hnext (by simp [hstate])]
      simp only [DueRoom.add, hstate]

/-! ### The loop -/

/-- What the loop has placed of the postes in `done`. -/
structure Grouped (done : List (FleetRow × Resolved)) (acc : List DueRoom × List (Machine × Resolved)) : Prop where
  ids : (acc.1.map fun e => e.room.id).Nodup
  counted : ∀ e ∈ acc.1, e.Counted
  placed : (placements acc).Perm (done.filterMap placement)

lemma groupStep_of_not_selected (h : selected ownerFilter unowned entry = false) :
    groupStep policy ownerFilter unowned acc entry = acc := by
  obtain ⟨row, res⟩ := entry
  unfold groupStep
  dsimp only at h ⊢
  by_cases howner : (ownerFilter.any fun owner => res.ownerId ≠ some owner) = true
  · rw [if_pos howner]
  · rw [if_neg howner]
    have hall : (ownerFilter.all fun owner => res.ownerId = some owner) = true := by
      cases ownerFilter with
      | none => rfl
      | some owner => simpa using howner
    unfold selected at h
    rw [hall, Bool.true_and] at h
    rw [if_pos]
    cases unowned with
    | false => cases h
    | true => simpa using h

/-- A selected poste is put into the entry of its room, a new one if there was none, or among the loose ones. -/
lemma groupStep_of_selected (h : selected ownerFilter unowned entry = true) :
    groupStep policy ownerFilter unowned acc entry =
      match entry.1.room with
      | none => if entry.2.state = .excluded then acc else (acc.1, acc.2 ++ [(entry.1.machine, entry.2)])
      | some room =>
        if room.id ∈ acc.1.map fun e => e.room.id then
          (updateGroup (fun e => e.room.id) room.id (fun e => e.add entry.1.machine entry.2) acc.1, acc.2)
        else (acc.1 ++ [(DueRoom.new policy room entry.1.building).add entry.1.machine entry.2], acc.2) := by
  obtain ⟨row, res⟩ := entry
  obtain ⟨howner, hunowned⟩ := Bool.and_eq_true_iff.1 h
  have hkept : ¬(ownerFilter.any fun owner => res.ownerId ≠ some owner) = true := by
    cases ownerFilter with
    | none => simp
    | some owner => simpa using howner
  have hheld : ¬(unowned && res.ownerId.isSome) = true := by
    cases unowned with
    | false => simp
    | true => simpa using hunowned
  unfold groupStep
  dsimp only
  rw [if_neg hkept, if_neg hheld]
  cases row.room with
  | none => rfl
  | some room =>
    refine if_congr ?_ rfl rfl
    rw [List.any_eq_true, List.mem_map]
    constructor
    · rintro ⟨e, he, hid⟩
      exact ⟨e, he, of_decide_eq_true hid⟩
    · rintro ⟨e, he, hid⟩
      exact ⟨e, he, decide_eq_true hid⟩

lemma placements_add (e : DueRoom) (m : Machine) (res : Resolved) :
    (e.add m res).placements = e.placements ++ [(some e.room.id, m, res)] := by
  unfold DueRoom.placements
  rw [add_machines, add_room, List.map_append]
  rfl

lemma filterMap_placement_append (placed : Option Placement) (hplacement : placement entry = placed) :
    (done ++ [entry]).filterMap placement = done.filterMap placement ++ placed.toList := by
  rw [List.filterMap_append]
  cases placed with
  | none => rw [List.filterMap_cons_none hplacement, List.filterMap_nil, Option.toList_none]
  | some p => rw [List.filterMap_cons_some hplacement, List.filterMap_nil, Option.toList_some]

lemma placements_swap {p : List Placement} :
    (acc.1.flatMap DueRoom.placements ++ p ++ acc.2.map fun m => ((none, m) : Placement)).Perm
      (placements acc ++ p) := by
  rw [placements, List.append_assoc, List.append_assoc]
  exact List.perm_append_comm.append_left _

/-- **One poste is placed once.** -/
theorem Grouped.step (h : Grouped done acc) (hselected : selected ownerFilter unowned entry = true) :
    Grouped (done ++ [entry]) (groupStep policy ownerFilter unowned acc entry) := by
  rw [groupStep_of_selected hselected]
  cases hroom : entry.1.room with
  | none =>
    by_cases hstate : entry.2.state = .excluded
    · have hplacement : placement entry = none := by
        unfold placement
        rw [hroom]
        exact if_pos hstate
      simp only [if_pos hstate]
      refine ⟨h.ids, h.counted, ?_⟩
      rw [filterMap_placement_append none hplacement, Option.toList_none, List.append_nil]
      exact h.placed
    · have hplacement : placement entry = some (none, entry.1.machine, entry.2) := by
        unfold placement
        rw [hroom]
        exact if_neg hstate
      simp only [if_neg hstate]
      refine ⟨h.ids, h.counted, ?_⟩
      rw [filterMap_placement_append _ hplacement, placements, List.map_append, ← List.append_assoc]
      exact h.placed.append_right _
  | some room =>
    have hplacement : placement entry = some (some room.id, entry.1.machine, entry.2) := by
      unfold placement
      rw [hroom]
    by_cases hmem : room.id ∈ acc.1.map fun e => e.room.id
    · simp only [if_pos hmem]
      refine ⟨?_, fun e he => ?_, ?_⟩
      · rw [map_key_updateGroup fun e => by rw [add_room]]
        exact h.ids
      · rcases mem_updateGroup he with hold | ⟨old, hold, -, rfl⟩
        · exact h.counted e hold
        · exact (h.counted old hold).add _ _
      · rw [filterMap_placement_append _ hplacement, placements]
        have hgrown := flatMap_updateGroup DueRoom.placements h.ids hmem fun e he =>
          he ▸ placements_add e entry.1.machine entry.2
        exact (hgrown.append_right _).trans (placements_swap.trans (h.placed.append_right _))
    · simp only [if_neg hmem]
      refine ⟨?_, fun e he => ?_, ?_⟩
      · rw [List.map_append, List.nodup_append]
        refine ⟨h.ids, List.nodup_singleton _, fun a ha b hb hab => hmem ?_⟩
        rw [List.map_singleton, add_room, List.mem_singleton] at hb
        rw [hab, hb] at ha
        exact ha
      · rcases List.mem_append.1 he with hold | hnew
        · exact h.counted e hold
        · rw [List.mem_singleton.1 hnew]
          exact (counted_new policy room entry.1.building).add _ _
      · rw [filterMap_placement_append _ hplacement, placements, List.flatMap_append, List.flatMap_singleton,
          placements_add]
        exact placements_swap.trans (h.placed.append_right _)

lemma grouped_foldl (policy : MaintenancePolicy) (ownerFilter : Option Uuid) (unowned : Bool)
    (resolved : List (FleetRow × Resolved)) (h : Grouped done acc) :
    Grouped (done ++ resolved.filter (selected ownerFilter unowned))
      (resolved.foldl (groupStep policy ownerFilter unowned) acc) := by
  induction resolved generalizing done acc with
  | nil =>
    rw [List.filter_nil, List.append_nil]
    exact h
  | cons entry resolved ih =>
    rw [List.foldl_cons]
    cases hselected : selected ownerFilter unowned entry with
    | true =>
      rw [List.filter_cons_of_pos hselected, ← List.singleton_append, ← List.append_assoc]
      exact ih (h.step hselected)
    | false =>
      rw [List.filter_cons_of_neg (by simp [hselected]), groupStep_of_not_selected hselected]
      exact ih h

lemma grouped_nil : Grouped [] (([], []) : List DueRoom × List (Machine × Resolved)) :=
  ⟨List.nodup_nil, fun _ he => absurd he List.not_mem_nil, List.Perm.refl _⟩

/-! ### The result -/

section

variable (env : Env) (resolved : List (FleetRow × Resolved)) (policy : MaintenancePolicy)
  (ownerFilter : Option Uuid) (unowned : Bool)

/-- The order of a result changes neither its entries nor its placements. -/
theorem groupDue_grouped : Grouped (resolved.filter (selected ownerFilter unowned))
    (groupDue env resolved policy ownerFilter unowned) := by
  have h := grouped_foldl policy ownerFilter unowned resolved grouped_nil
  rw [List.nil_append] at h
  have hrooms : (groupDue env resolved policy ownerFilter unowned).1.Perm
      (resolved.foldl (groupStep policy ownerFilter unowned) ([], [])).1 := List.mergeSort_perm _ _
  have hloose : (groupDue env resolved policy ownerFilter unowned).2.Perm
      (resolved.foldl (groupStep policy ownerFilter unowned) ([], [])).2 := List.mergeSort_perm _ _
  refine ⟨?_, fun e he => h.counted e (hrooms.mem_iff.1 he), ?_⟩
  · exact (hrooms.map _).nodup_iff.2 h.ids
  · exact ((hrooms.flatMap_right _).append (hloose.map _)).trans h.placed

theorem placements_groupDue : (placements (groupDue env resolved policy ownerFilter unowned)).Perm
    ((resolved.filter (selected ownerFilter unowned)).filterMap placement) :=
  (groupDue_grouped env resolved policy ownerFilter unowned).placed

/-- A poste that the filter keeps is listed where it belongs and nowhere else; another is not listed. -/
theorem placements_of_machine (hdistinct : (resolved.map fun entry => entry.1.machine.id).Nodup)
    (hentry : entry ∈ resolved) :
    (placements (groupDue env resolved policy ownerFilter unowned)).filter
        (fun p => p.2.1.id = entry.1.machine.id) =
      if selected ownerFilter unowned entry then (placement entry).toList else [] := by
  have hplaced := (placements_groupDue env resolved policy ownerFilter unowned).filter
    fun p => decide (p.2.1.id = entry.1.machine.id)
  have hkey : ∀ e : FleetRow × Resolved, ∀ p ∈ placement e, p.2.1.id = e.1.machine.id := by
    intro e p hp
    unfold placement at hp
    split at hp
    · cases hp
      rfl
    · split at hp
      · cases hp
      · cases hp
        rfl
  -- the placements of one machine are those of its rows
  have hrows : ((resolved.filter (selected ownerFilter unowned)).filterMap placement).filter
      (fun p => decide (p.2.1.id = entry.1.machine.id)) =
        ((resolved.filter fun e => decide (e.1.machine.id = entry.1.machine.id)).filter
          (selected ownerFilter unowned)).filterMap placement := by
    rw [List.filter_filterMap, List.filter_comm, List.filterMap_filter, List.filterMap_filter,
      List.filterMap_filter]
    refine List.filterMap_congr fun e _ => ?_
    cases hp : placement e with
    | none => simp
    | some p =>
      have hpkey := hkey e p hp
      by_cases hid : e.1.machine.id = entry.1.machine.id
      · have hkept : decide (p.2.1.id = entry.1.machine.id) = true := decide_eq_true (hpkey.trans hid)
        simp [Option.filter, hkept, hid]
      · have hdropped : decide (p.2.1.id = entry.1.machine.id) = false :=
          decide_eq_false fun h => hid (hpkey.symm.trans h)
        simp [Option.filter, hdropped, hid]
  have hone : resolved.filter (fun e => decide (e.1.machine.id = entry.1.machine.id)) = [entry] := by
    rw [filter_key hdistinct, (rowOf_eq_some_iff hdistinct).2 ⟨hentry, rfl⟩]
    rfl
  rw [hrows, hone] at hplaced
  cases hselected : selected ownerFilter unowned entry with
  | true =>
    rw [List.filter_cons_of_pos hselected, List.filter_nil, List.filterMap_cons] at hplaced
    rw [if_pos rfl]
    cases hp : placement entry with
    | none =>
      rw [hp] at hplaced
      exact List.perm_nil.1 hplaced
    | some p =>
      rw [hp] at hplaced
      exact List.perm_singleton.1 hplaced
  | false =>
    rw [List.filter_cons_of_neg (by simp [hselected])] at hplaced
    exact List.perm_nil.1 hplaced

/-- Every owner in turn, and nobody: the unfiltered result. -/
theorem placements_by_owner {owners : List Uuid} (howners : owners.Nodup)
    (hcovered : ∀ entry ∈ resolved, ∀ owner, entry.2.ownerId = some owner → owner ∈ owners) :
    (owners.flatMap (fun owner => placements (groupDue env resolved policy (some owner) false)) ++
        placements (groupDue env resolved policy none true)).Perm
      (placements (groupDue env resolved policy none false)) := by
  have hkeys : (owners.map some ++ [none]).Nodup := by
    rw [List.nodup_append]
    refine ⟨howners.map (Option.some_injective _), List.nodup_singleton _, ?_⟩
    rintro a ha b hb rfl
    obtain ⟨owner, -, rfl⟩ := List.mem_map.1 ha
    exact absurd (List.mem_singleton.1 hb) (Option.some_ne_none owner)
  have hall : ∀ entry ∈ resolved, entry.2.ownerId ∈ owners.map some ++ [none] := by
    intro entry hentry
    cases howner : entry.2.ownerId with
    | none => exact List.mem_append_right _ (List.mem_singleton_self none)
    | some owner => exact List.mem_append_left _ (List.mem_map_of_mem (hcovered entry hentry owner howner))
  have hsplit := (flatMap_filter_perm (fun entry : FleetRow × Resolved => entry.2.ownerId) hkeys hall).filterMap
    placement
  rw [List.flatMap_append, List.filterMap_append, List.flatMap_map, List.filterMap_flatMap,
    List.flatMap_singleton] at hsplit
  have heach : ∀ owner, (placements (groupDue env resolved policy (some owner) false)).Perm
      ((resolved.filter fun entry => entry.2.ownerId = some owner).filterMap placement) := by
    intro owner
    rw [← selected_owner]
    exact placements_groupDue env resolved policy (some owner) false
  have hnobody : (placements (groupDue env resolved policy none true)).Perm
      ((resolved.filter fun entry => entry.2.ownerId = none).filterMap placement) := by
    rw [← selected_nobody]
    exact placements_groupDue env resolved policy none true
  have hwhole : (placements (groupDue env resolved policy none false)).Perm (resolved.filterMap placement) := by
    have hplaced := placements_groupDue env resolved policy none false
    rwa [selected_everybody, List.filter_true] at hplaced
  exact ((List.Perm.flatMap_left _ fun owner _ => heach owner).append hnobody).trans (hsplit.trans hwhole.symm)

end

end

/-- **Everybody is counted once.**  Of distinct postes, each that the filter keeps is listed exactly once: in the
entry of its room, or among the loose ones if it has no room and is not excluded.  Rooms have one entry each, with the
counts of its postes and the earliest due date of those that are not excluded.  The results for every owner in turn
and for nobody are together the unfiltered one. -/
theorem groupDue_counts_everybody (env : Env) (resolved : List (FleetRow × Resolved)) (policy : MaintenancePolicy)
    (ownerFilter : Option Uuid) (unowned : Bool)
    (hdistinct : (resolved.map fun entry => entry.1.machine.id).Nodup) :
    (∀ entry ∈ resolved, (placements (groupDue env resolved policy ownerFilter unowned)).filter
        (fun p => p.2.1.id = entry.1.machine.id) =
      if selected ownerFilter unowned entry then (placement entry).toList else []) ∧
    (∀ p ∈ placements (groupDue env resolved policy ownerFilter unowned),
      ∃ entry ∈ resolved, placement entry = some p) ∧
    ((groupDue env resolved policy ownerFilter unowned).1.map fun e => e.room.id).Nodup ∧
    (∀ e ∈ (groupDue env resolved policy ownerFilter unowned).1, e.Counted) ∧
    ∀ owners : List Uuid, owners.Nodup →
      (∀ entry ∈ resolved, ∀ owner, entry.2.ownerId = some owner → owner ∈ owners) →
      (owners.flatMap (fun owner => placements (groupDue env resolved policy (some owner) false)) ++
          placements (groupDue env resolved policy none true)).Perm
        (placements (groupDue env resolved policy none false)) := by
  have hgrouped := groupDue_grouped env resolved policy ownerFilter unowned
  refine ⟨fun entry hentry => placements_of_machine env resolved policy ownerFilter unowned hdistinct hentry,
    fun p hp => ?_, hgrouped.ids, hgrouped.counted,
    fun owners howners hcovered => placements_by_owner env resolved policy howners hcovered⟩
  obtain ⟨entry, hentry, hplacement⟩ := List.mem_filterMap.1 (hgrouped.placed.mem_iff.1 hp)
  exact ⟨entry, (List.mem_filter.1 hentry).1, hplacement⟩

/-- The postes that a route groups are distinct. -/
theorem fleetResolved_distinct {d : Db} (h : d.Legal) (scope : Option Scope) (now : Time) :
    ((fleetResolved d scope now).map fun entry => entry.1.machine.id).Nodup := by
  have hids : (d.machines.map fun m => m.id).Nodup := by
    have hmachines := h.places.machineIds
    rw [Db.tables, List.map_map] at hmachines
    exact hmachines
  unfold fleetResolved
  rw [fleetRows_eq h.sited, List.filter_map, List.map_map, List.map_map]
  exact hids.sublist (List.filter_sublist.map _)

def lab : Rooms.Room :=
  { id := 7, buildingId := none, location := none, name := "Lab", adKey := none, maintenanceCycleDays := none,
    maintenanceOwnerId := none, notes := none, createdAt := 0, updatedAt := 0 }

def labPoste (id : Uuid) : Machine :=
  { id, location := none, roomId := some lab.id, adDistinguishedName := none, adOu := none, adOuDn := none,
    adLocation := none, updatedAt := 0, hostname := none, firstSeen := 0, lastMaintenanceAt := none,
    maintenanceCycleDays := none, maintenanceOwnerId := none }

/-- Two postes of a room, one of them excluded and the other late, and a poste in no room. -/
def labDue : List (FleetRow × Resolved) :=
  [(⟨labPoste 1, some lab, none⟩, ⟨90, .global, none, .global, some 500, .overdue⟩),
    (⟨labPoste 2, some lab, none⟩, ⟨0, .machine, none, .global, none, .excluded⟩),
    (⟨{ labPoste 3 with roomId := none }, none, none⟩, ⟨90, .global, some 4, .machine, some 900, .ok⟩)]

def asciiEnv : Env := ⟨String.toLower, String.toLower, compare, fun _ => none⟩

/-- The entry of the room has both postes, one of them excluded, and the due date of the other. -/
theorem groupDue_counts_everybody_lab :
    (∀ e ∈ (groupDue asciiEnv labDue ⟨90, none, 14⟩ none false).1, e.Counted) ∧
    (groupDue asciiEnv labDue ⟨90, none, 14⟩ none false).1.map
      (fun e => (e.total, e.overdue, e.excluded, e.nextDueAt)) = [(2, 1, 1, some 500)] := by
  refine ⟨(groupDue_counts_everybody asciiEnv labDue ⟨90, none, 14⟩ none false (by decide)).2.2.2.1, ?_⟩
  unfold groupDue Sql.orderBy
  change (List.mergeSort [_] _).map _ = _
  rw [List.mergeSort_singleton]
  rfl

end Tiai.Confined
