import Tiai.Lib.FreeName
import Tiai.Room.Model

/-!
# Postes filed by the directory

The second half of `features/room/crud.py`: a poste has a key in the directory, the room of a key is found,
adopted or created, and a synchronisation files every poste.

* `directoryKey`, `roomForKey`, `placeFromDirectory`, `syncFromDirectory` — the four functions;
* `roomForKey_spec`, `placeFromDirectory_spec` — what they do to legal tables, in which they never fail;
* `sync_files` — after a synchronisation, in whatever order, postes share a room when they share a key.
-/

namespace Tiai.Rooms

open Lib

/-- `ROOM_SOURCE`. -/
inductive RoomSource
  | manual
  | adOu
  | adLocation
  deriving DecidableEq, Repr

/-- `directory_key`: the room's key, and the name to give it when it has to be created. -/
def directoryKey (machine : Machine) : RoomSource → Option (String × String)
  | .adOu =>
    match machine.adOuDn, machine.adOu with
    | some dn, some ou => if dn ≠ "" ∧ ou ≠ "" then some (dn, ou) else none
    | _, _ => none
  | .adLocation =>
    match machine.adLocation with
    | some location => if location ≠ "" then some (location, location) else none
    | none => none
  | .manual => none

/-! ### The name of a new room -/

/-- The name, then `f"{name} ({n})"` from 2 on. -/
def candidate (name : String) : ℕ → String
  | 0 => name
  | n + 1 => name ++ (" (" ++ (Nat.repr (n + 2) ++ ")"))

lemma repr_injective : Function.Injective Nat.repr := by
  intro m n h
  have hdigits : Nat.toDigits 10 m = Nat.toDigits 10 n := by
    rw [← Nat.toList_repr, ← Nat.toList_repr, h]
  have hvalue := congrArg (Nat.ofDigitChars 10 · 0) hdigits
  simpa using hvalue

lemma candidate_injective (name : String) : Function.Injective (candidate name) := by
  have hlong (n : ℕ) : candidate name (n + 1) ≠ name := by
    intro h
    have hlength := congrArg String.length h
    simp [candidate] at hlength
  intro m n h
  rcases m with _ | m <;> rcases n with _ | n
  · rfl
  · exact absurd h.symm (hlong n)
  · exact absurd h (hlong m)
  · have h := (String.append_right_inj name).1 h
    have h := (String.append_right_inj " (").1 h
    have h := (String.append_left_inj ")").1 h
    have := repr_injective h
    omega

/-- The later names are no shorter. -/
lemma length_candidate_mono (name : String) {m n : ℕ} (h : m ≤ n) :
    (candidate name m).length ≤ (candidate name n).length := by
  rcases m with _ | m <;> rcases n with _ | n
  · exact Nat.le_refl _
  · simp [candidate]
  · omega
  · have hlt : n + 2 < 10 ^ (n + 2).repr.length := (Nat.length_repr_le_iff Nat.length_repr_pos).1 (Nat.le_refl _)
    have hdigits : (m + 2).repr.length ≤ (n + 2).repr.length :=
      (Nat.length_repr_le_iff Nat.length_repr_pos).2 (by omega)
    simpa [candidate] using hdigits

def nameCandidates (name : String) : Candidates String := ⟨candidate name, candidate_injective name⟩

/-- The names of the rooms in no building. -/
def looseNames (t : Tables) : List String := (t.rooms.filter (·.buildingId = none)).map Room.name

/-- `while await room_by_name(session, None, candidate) is not None`. -/
def freeName (t : Tables) (name : String) : String := firstFree (nameCandidates name) (looseNames t) 0

/-! ### Filing -/

section Filing

variable (source : RoomSource) (uuid4 : Uuid4) (now : Time)

/-- `Room(name=…, ad_key=…)`. -/
def newRoom (t : Tables) (key name : String) : Room where
  id := uuid4.draw (t.rooms.map Room.key)
  name := freeName t name
  buildingId := none
  adKey := some key
  location := none
  maintenanceCycleDays := none
  maintenanceOwnerId := none
  notes := none
  createdAt := now
  updatedAt := now

/-- The room made by hand that the directory takes over. -/
def Room.adopted (loose : Room) (key : String) : Room := { loose with adKey := some key, updatedAt := now }

/-- `room_for_key`: the room, and whether it was created. -/
def roomForKey (t : Tables) (key name : String) : Except AppError (Tables × Room × Bool) :=
  match t.rooms.find? (·.adKey = some key) with
  | some room => .ok (t, room, false)
  | none =>
    match (roomByName t none name).filter (·.adKey = none) with
    | some loose => do
      let room := loose.adopted now key
      let t ← flush (t.writeRoom room)
      return (t, room, false)
    | none => do
      let room := newRoom uuid4 now t key name
      let t ← flush { t with rooms := t.rooms ++ [room] }
      return (t, room, true)

/-- `machine.room_id = …`, unless it is that already. -/
def setRoomOf (t : Tables) (machine : Machine) (roomId : Option Uuid) : Tables :=
  if machine.roomId ≠ roomId then t.writeMachine { machine with roomId := roomId, updatedAt := now } else t

/-- `place_from_directory`: whether a room was created on the way. -/
def placeFromDirectory (t : Tables) (machine : Machine) : Except AppError (Tables × Bool) :=
  if source = .manual then .ok (t, false)
  else
    match directoryKey machine source with
    | none => .ok (setRoomOf now t machine none, false)
    | some (key, name) => do
      let (t, room, created) ← roomForKey uuid4 now t key name
      return (setRoomOf now t machine (some room.id), created)

structure SyncResult where
  placed : ℕ
  unplaced : ℕ
  roomsCreated : ℕ
  deriving DecidableEq

/-- What a poste adds to `placed` or `unplaced`. -/
def SyncResult.count (result : SyncResult) (machine : Machine) : SyncResult :=
  if directoryKey machine source = none then
    if machine.roomId ≠ none then { result with unplaced := result.unplaced + 1 } else result
  else { result with placed := result.placed + 1 }

/-- The loop of `sync_from_directory`. -/
def syncLoop (t : Tables) (result : SyncResult) : List Machine → Except AppError (Tables × SyncResult)
  | [] => .ok (t, result)
  | machine :: machines => do
    let counted := result.count source machine
    let (t, created) ← placeFromDirectory source uuid4 now t machine
    syncLoop t (if created then { counted with roomsCreated := counted.roomsCreated + 1 } else counted) machines

/-- `sync_from_directory`; `machines` are the postes in the order in which the query gives them. -/
def syncFromDirectory (t : Tables) (machines : List Machine) : Except AppError (Tables × SyncResult) :=
  if source = .manual then .ok (t, ⟨0, 0, 0⟩) else syncLoop source uuid4 now t ⟨0, 0, 0⟩ machines

end Filing

/-! ### What filing does to legal tables -/

section Specs

variable {t t' : Tables} {source : RoomSource} {uuid4 : Uuid4} {now : Time}

lemma flush_of_legal (legal : t.Legal) : flush t = .ok t := if_pos legal

/-- A room that has a key stays as it is. -/
def Keeps (t t' : Tables) : Prop := ∀ r ∈ t.rooms, r.adKey ≠ none → r ∈ t'.rooms

lemma adopt_legal (legal : t.Legal) (now : Time) {loose : Room} (hloose : loose ∈ t.rooms) {key : String}
    (hfree : ∀ r ∈ t.rooms, r.adKey ≠ some key) :
    (t.writeRoom (loose.adopted now key)).Legal := by
  have hrow : ∀ r ∈ (t.writeRoom (loose.adopted now key)).rooms,
      (∃ x ∈ t.rooms, x.id = r.id ∧ x.buildingId = r.buildingId ∧ x.name = r.name) ∧
        (r ∈ t.rooms ∨ r.id = loose.id ∧ r.adKey = some key) := by
    intro r hr
    rcases mem_putRow hr with rfl | ⟨hr, -⟩
    · exact ⟨⟨loose, hloose, rfl, rfl, rfl⟩, Or.inr ⟨rfl, rfl⟩⟩
    · exact ⟨⟨r, hr, rfl, rfl, rfl⟩, Or.inl hr⟩
  refine { legal with roomIds := ?_, roomNames := ?_, adKeys := ?_, roomBuilding := ?_, machineRoom := ?_ }
  · rw [Tables.writeRoom, map_key_putRow]
    exact legal.roomIds
  · intro r hr q hq hbuilding hname
    obtain ⟨⟨x, hx, hxid, hxb, hxn⟩, -⟩ := hrow r hr
    obtain ⟨⟨y, hy, hyid, hyb, hyn⟩, -⟩ := hrow q hq
    rw [← hxid, ← hyid]
    exact legal.roomNames x hx y hy (hxb.trans (hbuilding.trans hyb.symm)) (hxn.trans (hname.trans hyn.symm))
  · intro r hr q hq hkey hsome
    rcases (hrow r hr).2 with hr' | ⟨hrid, hrkey⟩ <;> rcases (hrow q hq).2 with hq' | ⟨hqid, hqkey⟩
    · exact legal.adKeys r hr' q hq' hkey hsome
    · exact absurd (hkey.trans hqkey) (hfree r hr')
    · exact absurd (hkey.symm.trans hrkey) (hfree q hq')
    · rw [hrid, hqid]
  · intro r hr b hb
    obtain ⟨⟨x, hx, -, hxb, -⟩, -⟩ := hrow r hr
    exact legal.roomBuilding x hx b (hxb ▸ hb)
  · intro m hm r hr
    rw [Tables.writeRoom, map_key_putRow]
    exact legal.machineRoom m hm r hr

lemma freeName_notMem (t : Tables) (name : String) : freeName t name ∉ looseNames t :=
  firstFree_notMem _ _ _

lemma mem_looseNames {r : Room} (hr : r ∈ t.rooms) (hb : r.buildingId = none) : r.name ∈ looseNames t :=
  List.mem_map_of_mem (List.mem_filter.2 ⟨hr, decide_eq_true hb⟩)

lemma create_legal (legal : t.Legal) (uuid4 : Uuid4) (now : Time) {key : String} (name : String)
    (hfree : ∀ r ∈ t.rooms, r.adKey ≠ some key) :
    ({ t with rooms := t.rooms ++ [newRoom uuid4 now t key name] } : Tables).Legal := by
  set new := newRoom uuid4 now t key name with hnew
  have hname : ∀ r ∈ t.rooms, r.buildingId = none → r.name ≠ new.name := by
    intro r hr hb heq
    exact freeName_notMem t name (show new.name ∈ looseNames t from heq ▸ mem_looseNames hr hb)
  have hmem : ∀ r ∈ t.rooms ++ [new], r ∈ t.rooms ∨ r = new := by
    intro r hr
    rcases List.mem_append.1 hr with hr | hr
    · exact Or.inl hr
    · exact Or.inr (List.mem_singleton.1 hr)
  refine { legal with roomIds := ?_, roomNames := ?_, adKeys := ?_, roomBuilding := ?_, machineRoom := ?_ }
  · rw [List.map_append, List.nodup_append]
    refine ⟨legal.roomIds, List.nodup_singleton _, ?_⟩
    rintro a ha b hb rfl
    rw [List.map_singleton, List.mem_singleton] at hb
    rw [hb] at ha
    exact uuid4.fresh (t.rooms.map Room.key) ha
  · intro r hr q hq hb hn
    rcases hmem r hr with hr | rfl <;> rcases hmem q hq with hq | rfl
    · exact legal.roomNames r hr q hq hb hn
    · exact absurd hn (hname r hr hb)
    · exact absurd hn.symm (hname q hq hb.symm)
    · rfl
  · intro r hr q hq hk hsome
    rcases hmem r hr with hr | rfl <;> rcases hmem q hq with hq | rfl
    · exact legal.adKeys r hr q hq hk hsome
    · exact absurd hk (hfree r hr)
    · exact absurd hk.symm (hfree q hq)
    · rfl
  · intro r hr b hb
    rcases hmem r hr with hr | rfl
    · exact legal.roomBuilding r hr b hb
    · cases hb
  · intro m hm r hr
    rw [List.map_append]
    exact List.mem_append_left _ (legal.machineRoom m hm r hr)

/-- **The room of a key** is found, adopted or created, without ever failing. -/
theorem roomForKey_spec (legal : t.Legal) (uuid4 : Uuid4) (now : Time) (key name : String) :
    ∃ t' room created, roomForKey uuid4 now t key name = .ok (t', room, created) ∧ t'.Legal ∧ Keeps t t' ∧
      room ∈ t'.rooms ∧ room.adKey = some key ∧ t'.machines = t.machines := by
  unfold roomForKey
  cases hfound : t.rooms.find? (·.adKey = some key) with
  | some room =>
    have hkey : room.adKey = some key := by simpa using List.find?_some hfound
    exact ⟨t, room, false, rfl, legal, fun r hr _ => hr, List.mem_of_find?_eq_some hfound, hkey, rfl⟩
  | none =>
    have hfree : ∀ r ∈ t.rooms, r.adKey ≠ some key := by simpa using hfound
    cases hloose : (roomByName t none name).filter (·.adKey = none) with
    | some loose =>
      obtain ⟨hname, hnone⟩ := Option.filter_eq_some_iff.1 hloose
      have hmem : loose ∈ t.rooms := List.mem_of_find?_eq_some hname
      have hlegal := adopt_legal legal now hmem hfree
      refine ⟨_, _, false, by dsimp only; rw [flush_of_legal hlegal]; rfl, hlegal, ?_, mem_putRow_self ?_, rfl, rfl⟩
      · intro r hr hkeyed
        refine mem_putRow_of_ne hr fun hid => hkeyed ?_
        rw [eq_of_key_eq legal.roomIds hr hmem hid]
        exact of_decide_eq_true hnone
      · exact show loose.key ∈ t.rooms.map Room.key from List.mem_map_of_mem hmem
    | none =>
      have hlegal := create_legal legal uuid4 now name hfree
      refine ⟨_, _, true, by dsimp only; rw [flush_of_legal hlegal]; rfl, hlegal, ?_, ?_, rfl, rfl⟩
      · exact fun r hr _ => List.mem_append_left _ hr
      · exact List.mem_append_right _ (List.mem_singleton.2 rfl)

lemma writeMachine_legal (legal : t.Legal) {m : Machine}
    (hroom : ∀ r ∈ m.roomId, r ∈ t.rooms.map Room.key) : (t.writeMachine m).Legal := by
  refine { legal with machineIds := ?_, machineRoom := ?_ }
  · rw [Tables.writeMachine, map_key_putRow]
    exact legal.machineIds
  · intro x hx r hr
    rcases mem_putRow hx with rfl | ⟨hx, -⟩
    · exact hroom r hr
    · exact legal.machineRoom x hx r hr

lemma setRoomOf_eq (legal : t.Legal) (now : Time) {m : Machine} (hm : m ∈ t.machines) (roomId : Option Uuid) :
    ∃ m' : Machine, setRoomOf now t m roomId = t.writeMachine m' ∧ m'.key = m.key ∧ m'.roomId = roomId ∧
      ∀ source, directoryKey m' source = directoryKey m source := by
  unfold setRoomOf
  by_cases h : m.roomId = roomId
  · refine ⟨m, ?_, rfl, h, fun _ => rfl⟩
    rw [if_neg (not_not.2 h), Tables.writeMachine, putRow_of_mem legal.machineIds hm]
  · exact ⟨_, if_pos h, rfl, rfl, fun source => by cases source <;> rfl⟩

/-- Where the directory says: in the room of its key, or in none. -/
def Filed (source : RoomSource) (t : Tables) (m : Machine) : Prop :=
  match directoryKey m source with
  | none => m.roomId = none
  | some (key, _) => ∃ room ∈ t.rooms, room.adKey = some key ∧ m.roomId = some room.id

lemma Filed.mono {m : Machine} (h : Filed source t m) (hrooms : Keeps t t') : Filed source t' m := by
  unfold Filed at h ⊢
  split at h
  · exact h
  · obtain ⟨room, hroom, hkey, hid⟩ := h
    exact ⟨room, hrooms room hroom (by rw [hkey]; simp), hkey, hid⟩

/-- **Filing a poste** does not fail, and leaves it where the directory says. -/
theorem placeFromDirectory_spec (legal : t.Legal) (hsource : source ≠ .manual) (uuid4 : Uuid4) (now : Time)
    {m : Machine} (hm : m ∈ t.machines) :
    ∃ t' created, ∃ m' : Machine, placeFromDirectory source uuid4 now t m = .ok (t', created) ∧ t'.Legal ∧
      Keeps t t' ∧ t'.machines = putRow Machine.key t.machines m' ∧ m'.key = m.key ∧
      directoryKey m' source = directoryKey m source ∧ Filed source t' m' := by
  rw [placeFromDirectory, if_neg hsource]
  cases hkey : directoryKey m source with
  | none =>
    obtain ⟨m', heq, hid, hroom, hdir⟩ := setRoomOf_eq legal now hm none
    refine ⟨_, false, m', rfl, ?_, ?_, ?_, hid, (hdir source).trans hkey, ?_⟩
    · rw [heq]
      exact writeMachine_legal legal fun r hr => by rw [hroom] at hr; cases hr
    · rw [heq]
      exact fun r hr _ => hr
    · rw [heq]
      rfl
    · simp only [Filed, (hdir source).trans hkey]
      exact hroom
  | some entry =>
    obtain ⟨key, name⟩ := entry
    obtain ⟨t₁, room, created, hrun, hlegal, hkeeps, hmem, hadKey, hmachines⟩ :=
      roomForKey_spec legal uuid4 now key name
    obtain ⟨m', heq, hid, hroom, hdir⟩ := setRoomOf_eq hlegal now (hmachines ▸ hm) (some room.id)
    refine ⟨setRoomOf now t₁ m (some room.id), created, m', by simp only [hrun]; rfl, ?_, ?_, ?_, hid,
      (hdir source).trans hkey, ?_⟩
    · rw [heq]
      refine writeMachine_legal hlegal fun r hr => ?_
      rw [hroom] at hr
      obtain rfl := Option.some.inj hr
      exact show room.key ∈ t₁.rooms.map Room.key from List.mem_map_of_mem hmem
    · rw [heq]
      exact hkeeps
    · rw [heq, ← hmachines]
      rfl
    · simp only [Filed, (hdir source).trans hkey]
      rw [heq]
      exact ⟨room, hmem, hadKey, hroom⟩

/-- What a synchronisation reads of the postes. -/
def Tables.readings (t : Tables) (source : RoomSource) : List (Uuid × Option (String × String)) :=
  t.machines.map fun m => (m.key, directoryKey m source)

/-- The loop files the postes it goes through; the others were filed before. -/
lemma syncLoop_spec (hsource : source ≠ .manual) (uuid4 : Uuid4) (now : Time) {machines : List Machine}
    (hnodup : (machines.map Machine.key).Nodup) (t : Tables) (legal : t.Legal) (result : SyncResult)
    (hmem : ∀ m ∈ machines, m ∈ t.machines)
    (hdone : ∀ m ∈ t.machines, m.key ∉ machines.map Machine.key → Filed source t m) :
    ∃ t' result', syncLoop source uuid4 now t result machines = .ok (t', result') ∧ t'.Legal ∧
      t'.readings source = t.readings source ∧ ∀ m ∈ t'.machines, Filed source t' m := by
  induction machines generalizing t result with
  | nil => exact ⟨t, result, rfl, legal, rfl, fun m hm => hdone m hm List.not_mem_nil⟩
  | cons m machines ih =>
    have hm := hmem m List.mem_cons_self
    obtain ⟨t₁, created, m', hplace, hlegal, hkeeps, hmachines, hid, hdir, hfiled⟩ :=
      placeFromDirectory_spec legal hsource uuid4 now hm
    rw [List.map_cons, List.nodup_cons] at hnodup
    obtain ⟨hnot, hnodup⟩ := hnodup
    have hother (x : Machine) (hx : x ∈ t₁.machines) : x = m' ∨ x ∈ t.machines ∧ x.key ≠ m'.key := by
      rw [hmachines] at hx
      exact mem_putRow hx
    have hreadings : t₁.readings source = t.readings source := by
      rw [Tables.readings, hmachines]
      refine map_putRow _ fun x hx hk => ?_
      rw [eq_of_key_eq legal.machineIds hx hm (hk.trans hid), hid, hdir]
    have hrest : ∀ x ∈ machines, x ∈ t₁.machines := by
      intro x hx
      rw [hmachines]
      refine mem_putRow_of_ne (hmem x (List.mem_cons_of_mem m hx)) fun hk => hnot ?_
      rw [← hid, ← hk]
      exact List.mem_map_of_mem hx
    obtain ⟨t', result', hloop, hlegal', hreadings', hall⟩ := ih hnodup t₁ hlegal _ hrest (by
      intro x hx hout
      rcases hother x hx with rfl | ⟨hx, hne⟩
      · exact hfiled
      · refine (hdone x hx ?_).mono hkeeps
        rw [List.map_cons, List.mem_cons, ← hid]
        rintro (hk | hin)
        · exact hne hk
        · exact hout hin)
    refine ⟨t', result', ?_, hlegal', hreadings'.trans hreadings, hall⟩
    rw [syncLoop, hplace]
    exact hloop

/-- A poste that is where the directory says stays there. -/
lemma placeFromDirectory_of_filed (legal : t.Legal) {m : Machine} (h : Filed source t m) :
    placeFromDirectory source uuid4 now t m = .ok (t, false) := by
  unfold placeFromDirectory Filed at *
  split
  · rfl
  · split at h
    · rename_i hkey
      simp only [setRoomOf, h, ne_eq, not_true_eq_false, if_false]
    · rename_i key name hkey
      obtain ⟨room, hroom, hadKey, hid⟩ := h
      have hfound : ∃ q, t.rooms.find? (·.adKey = some key) = some q := by
        rw [← Option.isSome_iff_exists, List.find?_isSome]
        exact ⟨room, hroom, decide_eq_true hadKey⟩
      obtain ⟨q, hq⟩ := hfound
      have hqkey : q.adKey = some key := by simpa using List.find?_some hq
      have hsame : q.id = room.id :=
        legal.adKeys q (List.mem_of_find?_eq_some hq) room hroom (hqkey.trans hadKey.symm) (by rw [hqkey]; simp)
      have hrun : roomForKey uuid4 now t key name = .ok (t, q, false) := by rw [roomForKey, hq]
      simp only [hrun]
      change Except.ok (setRoomOf now t m (some q.id), false) = _
      rw [setRoomOf, hsame, hid, if_neg (not_not.2 rfl)]

lemma syncLoop_of_filed (legal : t.Legal) (uuid4 : Uuid4) (now : Time) {machines : List Machine}
    (h : ∀ m ∈ machines, Filed source t m) (result : SyncResult) :
    ∃ result', syncLoop source uuid4 now t result machines = .ok (t, result') := by
  induction machines generalizing result with
  | nil => exact ⟨result, rfl⟩
  | cons m machines ih =>
    obtain ⟨result', hloop⟩ := ih (fun x hx => h x (List.mem_cons_of_mem m hx)) (result.count source m)
    refine ⟨result', ?_⟩
    rw [syncLoop, placeFromDirectory_of_filed legal (h m List.mem_cons_self)]
    exact hloop

end Specs

/-- **The search for a name ends**, on the first candidate that no room outside the buildings has. -/
theorem freeName_spec (t : Tables) (name : String) :
    ∃ n, freeName t name = candidate name n ∧ freeName t name ∉ looseNames t ∧
      ∀ i < n, candidate name i ∈ looseNames t := by
  obtain ⟨n, heq, htaken⟩ := firstFree_eq (nameCandidates name) (looseNames t) 0
  rw [Nat.zero_add] at heq
  refine ⟨n, heq, freeName_notMem t name, fun i hi => ?_⟩
  have hi := htaken i hi
  rwa [Nat.zero_add] at hi

/-- **A synchronisation is well defined.**  It succeeds on all legal tables, in whatever order the postes are
processed, and leaves them legal; postes share a room when they have the same key, those without a key have
none; and a second one, in any order, changes nothing. -/
theorem sync_files {t : Tables} (legal : t.Legal) {source : RoomSource} (hsource : source ≠ .manual)
    (uuid4 : Uuid4) (now : Time) {machines : List Machine} (hall : machines.Perm t.machines) :
    (∀ s name, ∃ n, freeName s name = candidate name n ∧ ∀ i < n, candidate name i ∈ looseNames s) ∧
    ∃ t' result, syncFromDirectory source uuid4 now t machines = .ok (t', result) ∧ t'.Legal ∧
      t'.readings source = t.readings source ∧
      (∀ m ∈ t'.machines, ∀ m' ∈ t'.machines, ∀ key name key' name',
        directoryKey m source = some (key, name) → directoryKey m' source = some (key', name') →
        m.roomId ≠ none ∧ (m.roomId = m'.roomId ↔ key = key')) ∧
      (∀ m ∈ t'.machines, directoryKey m source = none → m.roomId = none) ∧
      ∀ (uuid4' : Uuid4) (now' : Time) (machines' : List Machine), machines'.Perm t'.machines →
        ∃ result', syncFromDirectory source uuid4' now' t' machines' = .ok (t', result') := by
  have hnodup : (machines.map Machine.key).Nodup := (hall.map Machine.key).nodup_iff.2 legal.machineIds
  refine ⟨fun s name => ?_, ?_⟩
  · obtain ⟨n, heq, -, htaken⟩ := freeName_spec s name
    exact ⟨n, heq, htaken⟩
  obtain ⟨t', result, hloop, hlegal, hreadings, hfiled⟩ :=
    syncLoop_spec hsource uuid4 now hnodup t legal ⟨0, 0, 0⟩ (fun m hm => hall.subset hm) (by
      intro m hm hout
      exact absurd (List.mem_map_of_mem (hall.symm.subset hm)) hout)
  refine ⟨t', result, by rw [syncFromDirectory, if_neg hsource, hloop], hlegal, hreadings, ?_, ?_, ?_⟩
  · intro m hm m' hm' key name key' name' hkey hkey'
    have hroom := hfiled m hm
    have hroom' := hfiled m' hm'
    simp only [Filed, hkey] at hroom
    simp only [Filed, hkey'] at hroom'
    obtain ⟨room, hmem, hadKey, hid⟩ := hroom
    obtain ⟨room', hmem', hadKey', hid'⟩ := hroom'
    refine ⟨by rw [hid]; simp, ?_, ?_⟩
    · intro hsame
      rw [hid, hid'] at hsame
      have hrooms : room = room' := eq_of_key_eq hlegal.roomIds hmem hmem' (Option.some.inj hsame)
      rw [hrooms, hadKey'] at hadKey
      exact (Option.some.inj hadKey).symm
    · rintro rfl
      rw [hid, hid', hlegal.adKeys room hmem room' hmem' (hadKey.trans hadKey'.symm) (by rw [hadKey]; simp)]
  · intro m hm hkey
    have hroom := hfiled m hm
    simp only [Filed, hkey] at hroom
    exact hroom
  · intro uuid4' now' machines' hperm
    rw [syncFromDirectory, if_neg hsource]
    exact syncLoop_of_filed hlegal uuid4' now' (fun m hm => hfiled m (hperm.subset hm)) _

/-- Two organisational units of one name, and a room of that name made by hand. -/
def twoUnits : Tables where
  machines := [⟨⟨1, none, some 7⟩, none, some "B12", some "OU=B12,OU=Nord", none, 0⟩,
    ⟨⟨2, none, none⟩, none, some "B12", some "OU=B12,OU=Sud", none, 0⟩,
    ⟨⟨3, none, none⟩, none, some "B12", some "OU=B12,OU=Nord", none, 0⟩,
    ⟨⟨4, none, some 7⟩, none, none, none, none, 0⟩]
  rooms := [⟨⟨7, none, none⟩, "B12", none, none, none, none, 0, 0⟩]
  buildings := []

/-- Identifiers in order. -/
def Uuid4.next : Uuid4 where
  draw used := used.foldr max 0 + 1
  fresh used h := by
    have hle : ∀ l : List Uuid, ∀ a ∈ l, a ≤ l.foldr max 0 := by
      intro l
      induction l with
      | nil => intro a ha; cases ha
      | cons b l ih =>
        intro a ha
        rw [List.foldr_cons]
        rcases List.mem_cons.1 ha with rfl | ha
        · exact le_max_left _ _
        · exact le_max_of_le_right (ih a ha)
    exact absurd (hle used _ h) (Nat.not_succ_le_self _)

theorem sync_files_twoUnits : ∃ t' result,
    syncFromDirectory .adOu .next 5 twoUnits twoUnits.machines.reverse = .ok (t', result) ∧ t'.Legal := by
  obtain ⟨-, t', result, hsync, hlegal, -⟩ :=
    sync_files (show twoUnits.Legal by decide) (show RoomSource.adOu ≠ .manual by decide) .next 5
      (List.reverse_perm _)
  exact ⟨t', result, hsync, hlegal⟩

end Tiai.Rooms
