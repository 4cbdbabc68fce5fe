import Mathlib.Data.Finset.Dedup
import Mathlib.Data.Finset.Basic
import Mathlib.Tactic.Tauto
import Tiai.Text
import Tiai.Base

/-!
# Where an account may look

`features/user/scope.py`: the places a group is confined to, and the machines that are there.  `none`
is the whole parc.

* `Scope`, `Scope.covers`, `scopeUnion`, `scopeWider` — the confinement, and its comparison;
* `visible`, `roomVisible`, `buildingVisible` — the three clauses, on one row of a parc;
* `visible_scopeUnion`, `visible_of_not_wider` — what the two say about machines.
-/

namespace Tiai

/-! ### The scope of a group -/

/-- A row of `group_scopes`; an identifier that does not parse is `none`. -/
inductive ScopeRow
  | location (value : String)
  | building (id : Option Uuid)
  | room (id : Option Uuid)
  deriving DecidableEq, Repr

/-- `Scope`. -/
structure Scope where
  locations : Finset String
  buildings : Finset Uuid
  rooms : Finset Uuid
  deriving DecidableEq

namespace Scope

/-- `Scope()`. -/
def empty : Scope := ⟨∅, ∅, ∅⟩

/-- `Scope.from_rows`. -/
def fromRows (rows : List ScopeRow) : Scope where
  locations := (rows.filterMap fun | .location value => some value | _ => none).toFinset
  buildings := (rows.filterMap fun | .building id => id | _ => none).toFinset
  rooms := (rows.filterMap fun | .room id => id | _ => none).toFinset

def isEmpty (s : Scope) : Bool := s.locations = ∅ && s.buildings = ∅ && s.rooms = ∅

/-- `Scope.__or__`. -/
def or (s t : Scope) : Scope :=
  ⟨s.locations ∪ t.locations, s.buildings ∪ t.buildings, s.rooms ∪ t.rooms⟩

/-- `Scope.covers`. -/
def covers (s t : Scope) : Bool :=
  t.locations ⊆ s.locations && t.buildings ⊆ s.buildings && t.rooms ⊆ s.rooms

end Scope

/-- The loop of `union`. -/
def scopeUnionFrom (out : Scope) : List (Option Scope) → Option Scope
  | [] => some out
  | none :: _ => none
  | some s :: scopes => scopeUnionFrom (out.or s) scopes

/-- `union`. -/
def scopeUnion (scopes : List (Option Scope)) : Option Scope := scopeUnionFrom .empty scopes

/-- `wider`. -/
def scopeWider (actor target : Option Scope) : Bool :=
  match actor, target with
  | none, _ => false
  | some _, none => true
  | some a, some t => !a.covers t

/-! ### The places -/

/-- `Building`: the columns a scope reads. -/
structure Building where
  id : Uuid
  location : Option String
  deriving DecidableEq, Repr

/-- `Room`. -/
structure Room where
  id : Uuid
  buildingId : Option Uuid
  location : Option String
  deriving DecidableEq, Repr

/-- A row of `machines`: the columns a scope reads. -/
structure Poste where
  id : Uuid
  location : Option String
  roomId : Option Uuid
  deriving DecidableEq, Repr

structure Places where
  machines : List Poste
  rooms : List Room
  buildings : List Building
  deriving DecidableEq, Repr

/-- `COALESCE(buildings.location, rooms.location)`, after the outer join. -/
def roomSite (places : Places) (room : Room) : Option String :=
  ((room.buildingId.bind fun b => places.buildings.find? (·.id = b)).bind Building.location).or
    room.location

/-- `x IN (…)`, where a null is in nothing. -/
def inSet {α : Type} [DecidableEq α] (s : Finset α) (x : Option α) : Bool := x.any (· ∈ s)

/-- `_room_ids_in`, of one room. -/
def roomIn (places : Places) (scope : Scope) (room : Room) : Bool :=
  inSet scope.locations (roomSite places room) || inSet scope.buildings room.buildingId ||
    room.id ∈ scope.rooms

/-- `machine_clause`, of one machine. -/
def visible (places : Places) (scope : Option Scope) (m : Poste) : Bool :=
  match scope with
  | none => true
  | some scope =>
    inSet scope.locations m.location ||
      (!scope.isEmpty && places.rooms.any fun room => m.roomId = some room.id && roomIn places scope room)

/-- `room_clause`, of one room. -/
def roomVisible (places : Places) (scope : Option Scope) (room : Room) : Bool :=
  scope.all fun scope => roomIn places scope room

/-- The conditions of `building_clause`: on an allowed site, allowed itself, or holding an allowed room. -/
def buildingIn (places : Places) (scope : Scope) (building : Building) : Bool :=
  inSet scope.locations building.location || building.id ∈ scope.buildings ||
    places.rooms.any fun room => room.id ∈ scope.rooms && room.buildingId = some building.id

/-- `building_clause`, of one building. -/
def buildingVisible (places : Places) (scope : Option Scope) (building : Building) : Bool :=
  scope.all fun scope => buildingIn places scope building

/-! ### What a scope means -/

section Meaning

variable {places : Places} {s t : Scope} {m : Poste}

lemma inSet_iff {α : Type} [DecidableEq α] {s : Finset α} {x : Option α} :
    inSet s x = true ↔ ∃ a ∈ s, x = some a := by
  cases x with
  | none => simp [inSet]
  | some a => simp [inSet]

lemma roomIn_empty (room : Room) : roomIn places .empty room = false := by
  cases hs : roomSite places room <;> cases hb : room.buildingId <;>
    simp [roomIn, inSet, Scope.empty, hs, hb]

lemma isEmpty_iff : s.isEmpty = true ↔ s = .empty := by
  obtain ⟨l, b, r⟩ := s
  simp [Scope.isEmpty, Scope.empty, and_assoc]

/-- The test for emptiness saves a query, no more. -/
lemma visible_some_iff : visible places (some s) m = true ↔
    inSet s.locations m.location = true ∨
      ∃ room ∈ places.rooms, m.roomId = some room.id ∧ roomIn places s room = true := by
  unfold visible
  by_cases he : s.isEmpty = true
  · obtain rfl := isEmpty_iff.mp he
    simp [roomIn_empty, he]
  · simp [he]

lemma visible_empty : visible places (some .empty) m = false := by
  rw [← Bool.not_eq_true, visible_some_iff]
  rintro (h | ⟨room, -, -, h⟩)
  · obtain ⟨l, hl, -⟩ := inSet_iff.mp h
    exact absurd hl (Finset.notMem_empty l)
  · rw [roomIn_empty] at h
    cases h

lemma inSet_union {α : Type} [DecidableEq α] {s t : Finset α} {x : Option α} :
    inSet (s ∪ t) x = true ↔ inSet s x = true ∨ inSet t x = true := by
  simp only [inSet_iff, Finset.mem_union]
  constructor
  · rintro ⟨a, ha | ha, hx⟩
    · exact Or.inl ⟨a, ha, hx⟩
    · exact Or.inr ⟨a, ha, hx⟩
  · rintro (⟨a, ha, hx⟩ | ⟨a, ha, hx⟩)
    · exact ⟨a, Or.inl ha, hx⟩
    · exact ⟨a, Or.inr ha, hx⟩

lemma roomIn_or {room : Room} : roomIn places (s.or t) room = true ↔
    roomIn places s room = true ∨ roomIn places t room = true := by
  simp only [roomIn, Scope.or, Bool.or_eq_true, inSet_union, decide_eq_true_eq, Finset.mem_union]
  tauto

lemma visible_or : visible places (some (s.or t)) m = true ↔
    visible places (some s) m = true ∨ visible places (some t) m = true := by
  simp only [visible_some_iff, roomIn_or]
  constructor
  · rintro (h | ⟨room, hr, hm, h | h⟩)
    · rcases inSet_union.mp h with h | h
      · exact Or.inl (Or.inl h)
      · exact Or.inr (Or.inl h)
    · exact Or.inl (Or.inr ⟨room, hr, hm, h⟩)
    · exact Or.inr (Or.inr ⟨room, hr, hm, h⟩)
  · rintro ((h | ⟨room, hr, hm, h⟩) | (h | ⟨room, hr, hm, h⟩))
    · exact Or.inl (inSet_union.mpr (Or.inl h))
    · exact Or.inr ⟨room, hr, hm, Or.inl h⟩
    · exact Or.inl (inSet_union.mpr (Or.inr h))
    · exact Or.inr ⟨room, hr, hm, Or.inr h⟩

lemma visible_scopeUnionFrom (out : Scope) (scopes : List (Option Scope)) :
    visible places (scopeUnionFrom out scopes) m = true ↔
      visible places (some out) m = true ∨ ∃ s ∈ scopes, visible places s m = true := by
  induction scopes generalizing out with
  | nil => simp [scopeUnionFrom]
  | cons s scopes ih =>
    cases s with
    | none => simp [scopeUnionFrom, visible]
    | some s =>
      rw [scopeUnionFrom, ih, visible_or]
      simp [or_assoc]

/-- **A union of scopes** shows the machines that one of them shows. -/
theorem visible_scopeUnion (scopes : List (Option Scope)) :
    visible places (scopeUnion scopes) m = true ↔ ∃ s ∈ scopes, visible places s m = true := by
  rw [scopeUnion, visible_scopeUnionFrom, visible_empty]
  simp

lemma covers_or (h : s.covers t = true) : s.or t = s := by
  unfold Scope.covers at h
  simp only [Bool.and_eq_true, decide_eq_true_eq] at h
  obtain ⟨⟨hl, hb⟩, hr⟩ := h
  obtain ⟨l, b, r⟩ := s
  simp only [Scope.or, Scope.mk.injEq, Finset.union_eq_left]
  exact ⟨hl, hb, hr⟩

/-- **No wider, no more machines.** -/
theorem visible_of_not_wider {actor target : Option Scope} (h : scopeWider actor target = false)
    (hm : visible places target m = true) : visible places actor m = true := by
  cases actor with
  | none => rfl
  | some a =>
    cases target with
    | none => cases h
    | some t =>
      have hcovers : a.covers t = true := by simpa [scopeWider] using h
      rw [← covers_or hcovers]
      exact visible_or.mpr (Or.inr hm)

end Meaning

end Tiai
