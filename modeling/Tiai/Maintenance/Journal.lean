import Tiai.Confined.Routes
import Tiai.Lib.Latest
import Tiai.Lib.Runs
import Tiai.Machine.Merge

/-!
# The maintenance cycle and the journal

`record_session` of `features/maintenance/crud.py`, the routes of `api/routes/interventions.py` that write, and
`merge_machine`: they change the journal of the postes and `last_maintenance_at`, which is "denormalised from the
journal".  What the caller's scope shows is part of a request, and a body is one that has been validated; the audit
entries are left out.

* `recordSession`, `createIntervention`, `updateIntervention`, `deleteIntervention`, `mergeMachine` — the writes;
* `Denormalised` — each `last_maintenance_at` is the latest visit that the journal has of the poste;
* `Sound` — the edit or the deletion of a visit's entry leaves a later one;
* `denormalised_iff` — the copy is exact all along a run when, and only when, its requests are sound.
-/

namespace Tiai.Journal

open Lib
open Merge (Record Intervention journalOwner laterVisit)
open Confined (SessionCreate SessionItemIn Visit clean)
open Rooms (check machineNotFound roomNotFound serverError)

/-! ### Data -/

inductive InterventionKind
  | maintenance | verification | incident | softwareInstall | upgrade | other
  deriving DecidableEq, Repr

def InterventionKind.value : InterventionKind → String
  | maintenance => "maintenance"
  | verification => "verification"
  | incident => "incident"
  | softwareInstall => "software_install"
  | upgrade => "upgrade"
  | other => "other"

structure InterventionCreate where
  kind : InterventionKind
  title : Option String
  note : Option String
  performedAt : Option Time

/-- `InterventionUpdate`: a field is not given, null, or a value. -/
structure InterventionUpdate where
  kind : Option (Option InterventionKind)
  title : Option (Option String)
  note : Option (Option String)
  performedAt : Option (Option Time)

structure Db where
  tables : Merge.Tables
  visits : List Visit

/-- Who asks, with the postes that his scope shows, and the rooms, by their names. -/
structure Caller where
  email : String
  machines : Uuid → Bool
  rooms : Uuid → Option String

/-! ### The routes -/

def interventionNotFound : AppError := ⟨.interventionNotFound, 404, "Intervention not found"⟩

def mergeSelf : AppError := ⟨.machineMergeSelf, 400, "Cannot merge a machine into itself"⟩

def recordKey (m : Record) : Uuid := m.id

def entryKey (i : Intervention) : Uuid := i.id

section Routes

variable (db : Db) (caller : Caller) (now : Time)

/-- `_require_machine`. -/
def requireMachine (id : Uuid) : Except AppError Record :=
  match rowOf recordKey db.tables.machines id with
  | some m => if caller.machines id then .ok m else .error machineNotFound
  | none => .error machineNotFound

/-- `_require_intervention`. -/
def requireIntervention (id : Uuid) : Except AppError Intervention :=
  match rowOf entryKey db.tables.interventions id with
  | some i => if caller.machines i.machineId then .ok i else .error interventionNotFound
  | none => .error interventionNotFound

/-- `_require_room`, of the room that a visit names. -/
def requireRoom (roomId : Option Uuid) : Except AppError (Option (Uuid × String)) :=
  match roomId with
  | none => .ok none
  | some id =>
    match caller.rooms id with
    | some name => .ok (some (id, name))
    | none => .error roomNotFound

/-- `session.commit()`: an identifier drawn twice is an `IntegrityError`, and nobody's to handle. -/
def commit : Except AppError Db :=
  if (db.tables.interventions.map entryKey).Nodup ∧ (db.visits.map Visit.key).Nodup then .ok db
  else .error serverError

/-- A visit moves the poste forward on its cycle, never back. -/
def visited (performedAt : Time) (m : Record) : Record :=
  if m.lastMaintenanceAt.all (· < performedAt) then
    { m with lastMaintenanceAt := some performedAt, updatedAt := now }
  else m

/-- `record_session` of the CRUD, for the postes `machines`; the visit and its entries get the ids drawn. -/
def recordSession (room : Option (Uuid × String)) (machines : List Record) (notes : Uuid → Option String)
    (performedAt : Time) (note : Option String) (visitId : Uuid) (entryId : Uuid → Uuid) : Db :=
  let visit : Visit :=
    { id := visitId, roomId := room.map Prod.fst, roomName := room.map Prod.snd, performedBy := caller.email,
      performedAt, note, createdAt := now }
  let title := match room with
    | some (_, name) => "Maintenance — " ++ name
    | none => "Maintenance"
  let entries := machines.map fun m =>
    { id := entryId m.id, machineId := m.id, kind := InterventionKind.maintenance.value, title := some title,
      note := notes m.id, performedBy := caller.email, performedAt, checkId := none,
      maintenanceId := some visitId, createdAt := now, updatedAt := now : Intervention }
  { visits := db.visits ++ [visit]
    tables := { db.tables with
      interventions := db.tables.interventions ++ entries
      machines := db.tables.machines.map fun m =>
        if m.id ∈ machines.map recordKey then visited now performedAt m else m } }

/-- The route `record_session`; `visitId` and `entryId` are drawn. -/
def recordRoute (payload : SessionCreate) (visitId : Uuid) (entryId : Uuid → Uuid) : Except AppError Db := do
  let room ← requireRoom caller payload.roomId
  let ids := payload.items.map SessionItemIn.machineId
  let machines := db.tables.machines.filter fun m => m.id ∈ ids && caller.machines m.id
  check (machines.length = ids.dedup.length) machineNotFound
  commit (recordSession db caller now room machines payload.notes (payload.performedAt.getD now)
    (clean payload.note) visitId entryId)

/-- `create_intervention`; `id` is drawn. -/
def createIntervention (machineId : Uuid) (payload : InterventionCreate) (id : Uuid) : Except AppError Db := do
  let machine ← requireMachine db caller machineId
  let row : Intervention :=
    { id, machineId := machine.id, kind := payload.kind.value, title := clean payload.title,
      note := clean payload.note, performedBy := caller.email, performedAt := payload.performedAt.getD now,
      checkId := none, maintenanceId := none, createdAt := now, updatedAt := now }
  commit { db with tables := { db.tables with interventions := db.tables.interventions ++ [row] } }

/-- What `update_intervention` writes on the row. -/
def edited (payload : InterventionUpdate) (row : Intervention) : Intervention :=
  { row with
    kind := (payload.kind.join.map InterventionKind.value).getD row.kind
    title := match payload.title with
      | some title => clean title
      | none => row.title
    note := match payload.note with
      | some note => clean note
      | none => row.note
    performedAt := payload.performedAt.join.getD row.performedAt
    updatedAt := now }

/-- `update_intervention`. -/
def updateIntervention (id : Uuid) (payload : InterventionUpdate) : Except AppError Db := do
  let row ← requireIntervention db caller id
  return { db with tables := { db.tables with
    interventions := putRow entryKey db.tables.interventions (edited now payload row) } }

/-- `delete_intervention`. -/
def deleteIntervention (id : Uuid) : Except AppError Db := do
  let row ← requireIntervention db caller id
  return { db with tables := { db.tables with
    interventions := db.tables.interventions.filter (·.id ≠ row.id) } }

/-- `merge_machine`: the machine of the path is the one kept. -/
def mergeMachine (machineId sourceId : Uuid) : Except AppError Db := do
  check (machineId ≠ sourceId) mergeSelf
  let target ← requireMachine db caller machineId
  let source ← requireMachine db caller sourceId
  match Merge.mergeInto db.tables target source now with
  | some tables => return { db with tables }
  | none => throw serverError

end Routes

/-! ### Runs -/

inductive Request
  | record (payload : SessionCreate) (visitId : Uuid) (entryId : Uuid → Uuid)
  | create (machineId : Uuid) (payload : InterventionCreate) (id : Uuid)
  | update (id : Uuid) (payload : InterventionUpdate)
  | delete (id : Uuid)
  | merge (machineId sourceId : Uuid)

structure Event where
  caller : Caller
  now : Time
  request : Request

def handle (db : Db) (e : Event) : Except AppError Db :=
  match e.request with
  | .record payload visitId entryId => recordRoute db e.caller e.now payload visitId entryId
  | .create machineId payload id => createIntervention db e.caller e.now machineId payload id
  | .update id payload => updateIntervention db e.caller e.now id payload
  | .delete id => deleteIntervention db e.caller id
  | .merge machineId sourceId => mergeMachine db e.caller e.now machineId sourceId

/-- A request that fails is rolled back. -/
def step (db : Db) (e : Event) : Db :=
  match handle db e with
  | .ok db' => db'
  | .error _ => db

/-- The dates of the visits that a journal has of a poste. -/
def visitDates (journal : List Intervention) (machineId : Uuid) : List Time :=
  (journal.filter fun i => i.machineId = machineId ∧ i.maintenanceId ≠ none).map Intervention.performedAt

/-- Each copy is the latest visit in the journal. -/
def DenormalisedFrom (machines : List Record) (journal : List Intervention) : Prop :=
  ∀ m ∈ machines, m.lastMaintenanceAt = (visitDates journal m.id).max?

def Denormalised (db : Db) : Prop := DenormalisedFrom db.tables.machines db.tables.interventions

instance (db : Db) : Decidable (Denormalised db) := by unfold Denormalised DenormalisedFrom; infer_instance

/-- The journal has another visit of the poste, at `date` or later. -/
def Covered (journal : List Intervention) (i : Intervention) (date : Time) : Prop :=
  ∃ j ∈ journal, j.id ≠ i.id ∧ j.machineId = i.machineId ∧ j.maintenanceId ≠ none ∧ date ≤ j.performedAt

/-- An edit that moves the date of a visit's entry leaves a visit no earlier than both dates, a deletion of such an
entry a visit no earlier than it. -/
def Sound (db : Db) (e : Event) : Prop :=
  match e.request with
  | .update id payload =>
    ∀ i, requireIntervention db e.caller id = .ok i → i.maintenanceId ≠ none →
      ∀ date, payload.performedAt = some (some date) →
        i.performedAt = date ∨ Covered db.tables.interventions i (max i.performedAt date)
  | .delete id =>
    ∀ i, requireIntervention db e.caller id = .ok i → i.maintenanceId ≠ none →
      Covered db.tables.interventions i i.performedAt
  | _ => True

/-! ### The visits of a journal -/

section Visits

variable {journal : List Intervention} {i : Intervention} {k : Uuid} {v : Time}

lemma mem_visitDates : v ∈ visitDates journal k ↔
    ∃ i ∈ journal, i.machineId = k ∧ i.maintenanceId ≠ none ∧ i.performedAt = v := by
  unfold visitDates
  rw [List.mem_map]
  constructor
  · rintro ⟨i, hi, rfl⟩
    obtain ⟨hi, hvisit⟩ := List.mem_filter.1 hi
    obtain ⟨hk, hnone⟩ := of_decide_eq_true hvisit
    exact ⟨i, hi, hk, hnone, rfl⟩
  · rintro ⟨i, hi, hk, hnone, rfl⟩
    exact ⟨i, List.mem_filter.2 ⟨hi, decide_eq_true ⟨hk, hnone⟩⟩, rfl⟩

/-- The rest of the journal, without an entry. -/
def others (journal : List Intervention) (i : Intervention) : List Intervention :=
  journal.filter fun j => j.id ≠ i.id

lemma mem_others {j : Intervention} : j ∈ others journal i ↔ j ∈ journal ∧ j.id ≠ i.id := by
  unfold others
  rw [List.mem_filter, decide_eq_true_iff]

lemma covered_iff {date : Time} :
    Covered journal i date ↔ ∃ w ∈ visitDates (others journal i) i.machineId, date ≤ w := by
  constructor
  · rintro ⟨j, hj, hne, hk, hvisit, hle⟩
    exact ⟨j.performedAt, mem_visitDates.2 ⟨j, mem_others.2 ⟨hj, hne⟩, hk, hvisit, rfl⟩, hle⟩
  · rintro ⟨w, hw, hle⟩
    obtain ⟨j, hj, hk, hvisit, rfl⟩ := mem_visitDates.1 hw
    obtain ⟨hj, hne⟩ := mem_others.1 hj
    exact ⟨j, hj, hne, hk, hvisit, hle⟩

/-- The visits of a poste: that of an entry, and those of the others. -/
lemma mem_visitDates_split (hkeys : (journal.map entryKey).Nodup) (hi : i ∈ journal) :
    v ∈ visitDates journal k ↔ (i.machineId = k ∧ i.maintenanceId ≠ none ∧ i.performedAt = v) ∨
      v ∈ visitDates (others journal i) k := by
  rw [mem_visitDates, mem_visitDates]
  constructor
  · rintro ⟨j, hj, hjv⟩
    by_cases hid : j.id = i.id
    · obtain rfl := eq_of_key_eq hkeys hj hi hid
      exact .inl hjv
    · exact .inr ⟨j, mem_others.2 ⟨hj, hid⟩, hjv⟩
  · rintro (hiv | ⟨j, hj, hjv⟩)
    · exact ⟨i, hi, hiv⟩
    · exact ⟨j, (mem_others.1 hj).1, hjv⟩

lemma mem_putRow_iff {j : Intervention} (hi : i.id ∈ journal.map entryKey) :
    j ∈ putRow entryKey journal i ↔ j = i ∨ j ∈ others journal i := by
  rw [mem_others]
  constructor
  · exact mem_putRow
  · rintro (rfl | ⟨hj, hne⟩)
    · exact mem_putRow_self hi
    · exact mem_putRow_of_ne hj hne

/-- With an entry in the place of another one. -/
lemma mem_visitDates_putRow (hi : i.id ∈ journal.map entryKey) :
    v ∈ visitDates (putRow entryKey journal i) k ↔
      (i.machineId = k ∧ i.maintenanceId ≠ none ∧ i.performedAt = v) ∨
        v ∈ visitDates (others journal i) k := by
  rw [mem_visitDates, mem_visitDates]
  constructor
  · rintro ⟨j, hj, hjv⟩
    rcases (mem_putRow_iff hi).1 hj with rfl | hj
    · exact .inl hjv
    · exact .inr ⟨j, hj, hjv⟩
  · rintro (hiv | ⟨j, hj, hjv⟩)
    · exact ⟨i, (mem_putRow_iff hi).2 (.inl rfl), hiv⟩
    · exact ⟨j, (mem_putRow_iff hi).2 (.inr hj), hjv⟩

lemma visitDates_append (journal entries : List Intervention) (k : Uuid) :
    visitDates (journal ++ entries) k = visitDates journal k ++ visitDates entries k := by
  unfold visitDates
  rw [List.filter_append, List.map_append]

/-- The visits after the journal of a poste has been handed to another one. -/
lemma mem_visitDates_move {source target : Uuid} :
    v ∈ visitDates (journalOwner.move source target journal) k ↔
      ∃ i ∈ journal, (if i.machineId = source then target else i.machineId) = k ∧
        i.maintenanceId ≠ none ∧ i.performedAt = v := by
  have hmoved (i : Intervention) : journalOwner.moved source target i =
      { i with machineId := if i.machineId = source then target else i.machineId } := by
    unfold Owner.moved
    change (if i.machineId = source then { i with machineId := target } else i) = _
    split <;> rfl
  rw [mem_visitDates]
  constructor
  · rintro ⟨j, hj, hjv⟩
    obtain ⟨i, hi, rfl⟩ := List.mem_map.1 hj
    rw [hmoved] at hjv
    exact ⟨i, hi, hjv⟩
  · rintro ⟨i, hi, hiv⟩
    refine ⟨_, List.mem_map_of_mem hi, ?_⟩
    rw [hmoved]
    exact hiv

end Visits

/-! ### What a request can do -/

/-- The keys that the copy relies on. -/
structure Legal (machines : List Record) (journal : List Intervention) : Prop where
  machineIds : (machines.map recordKey).Nodup
  entryIds : (journal.map entryKey).Nodup
  entryMachine : ∀ i ∈ journal, i.machineId ∈ machines.map recordKey

/-- What a request makes of the machines and of the journal, and when it is sound. -/
inductive Outcome (machines : List Record) (journal : List Intervention) :
    List Record → List Intervention → Prop → Prop
  | refused {sound : Prop} (h : sound) : Outcome machines journal machines journal sound
  | recorded (done : List Record) (entry : Record → Intervention) (performedAt now : Time)
      (hdone : ∀ m ∈ done, m ∈ machines)
      (hentry : ∀ m, (entry m).machineId = m.id ∧ (entry m).maintenanceId ≠ none ∧
        (entry m).performedAt = performedAt)
      (hkeys : ((journal ++ done.map entry).map entryKey).Nodup) :
      Outcome machines journal
        (machines.map fun m => if m.id ∈ done.map recordKey then visited now performedAt m else m)
        (journal ++ done.map entry) True
  | created (i : Intervention) (hmachine : i.machineId ∈ machines.map recordKey) (hnone : i.maintenanceId = none)
      (hkeys : ((journal ++ [i]).map entryKey).Nodup) :
      Outcome machines journal machines (journal ++ [i]) True
  | edited (i j : Intervention) (hi : i ∈ journal) (hid : j.id = i.id) (hmachine : j.machineId = i.machineId)
      (hvisit : j.maintenanceId = i.maintenanceId) {sound : Prop}
      (hsound : sound ↔ (i.maintenanceId ≠ none →
        i.performedAt = j.performedAt ∨ Covered journal i (max i.performedAt j.performedAt))) :
      Outcome machines journal machines (putRow entryKey journal j) sound
  | deleted (i : Intervention) (hi : i ∈ journal) {sound : Prop}
      (hsound : sound ↔ (i.maintenanceId ≠ none → Covered journal i i.performedAt)) :
      Outcome machines journal machines (others journal i) sound
  | merged (target source : Record) (now : Time) (htarget : target ∈ machines) (hsource : source ∈ machines)
      (hne : target.id ≠ source.id) :
      Outcome machines journal
        ((machines.map fun m => if m.id = target.id then target.absorb source now else m).filter
          (·.id ≠ source.id))
        (journalOwner.move source.id target.id journal) True

section Step

variable {db : Db} {caller : Caller} {now : Time} {id : Uuid}

lemma requireMachine_ok {m : Record} (h : requireMachine db caller id = .ok m) :
    m ∈ db.tables.machines ∧ recordKey m = id := by
  unfold requireMachine at h
  split at h
  · rename_i found hfound
    split at h
    · cases h
      exact ⟨mem_of_rowOf hfound, key_of_rowOf hfound⟩
    · cases h
  · cases h

lemma mem_of_requireIntervention {i : Intervention} (h : requireIntervention db caller id = .ok i) :
    i ∈ db.tables.interventions := by
  unfold requireIntervention at h
  split at h
  · rename_i found hfound
    split at h
    · cases h
      exact mem_of_rowOf hfound
    · cases h
  · cases h

lemma commit_ok {db' : Db} (h : commit db = .ok db') :
    db' = db ∧ (db.tables.interventions.map entryKey).Nodup := by
  unfold commit at h
  split at h
  · rename_i hkeys
    cases h
    exact ⟨rfl, hkeys.1⟩
  · cases h

/-- What a merge makes of the machines and of the journal. -/
lemma mergeInto_ok {tables tables' : Merge.Tables} {target source : Record} (hne : target.id ≠ source.id)
    (h : Merge.mergeInto tables target source now = some tables') :
    tables'.machines = (tables.machines.map fun m =>
        if m.id = target.id then target.absorb source now else m).filter (·.id ≠ source.id) ∧
      tables'.interventions = journalOwner.move source.id target.id tables.interventions := by
  unfold Merge.mergeInto at h
  obtain ⟨threats, -, h⟩ := Option.bind_eq_some_iff.1 h
  obtain ⟨checks, -, h⟩ := Option.bind_eq_some_iff.1 h
  obtain ⟨uptime, -, h⟩ := Option.bind_eq_some_iff.1 h
  obtain rfl := Option.some.inj h
  exact ⟨rfl, journalOwner.without_move hne⟩

/-- What `db'` is, of `db`. -/
abbrev Becomes (db db' : Db) (sound : Prop) : Prop :=
  Outcome db.tables.machines db.tables.interventions db'.tables.machines db'.tables.interventions sound

lemma recordRoute_outcome {payload : SessionCreate} {visitId : Uuid} {entryId : Uuid → Uuid} {db' : Db}
    (h : recordRoute db caller now payload visitId entryId = .ok db') : Becomes db db' True := by
  unfold recordRoute at h
  obtain ⟨room, -, h⟩ := bind_eq_ok h
  obtain ⟨-, -, h⟩ := bind_eq_ok h
  obtain ⟨rfl, hkeys⟩ := commit_ok h
  exact .recorded _ _ (payload.performedAt.getD now) now (fun m hm => (List.mem_filter.1 hm).1)
    (fun m => ⟨rfl, Option.some_ne_none visitId, rfl⟩) hkeys

lemma createIntervention_outcome {machineId : Uuid} {payload : InterventionCreate} {db' : Db}
    (h : createIntervention db caller now machineId payload id = .ok db') : Becomes db db' True := by
  unfold createIntervention at h
  obtain ⟨m, hm, h⟩ := bind_eq_ok h
  obtain ⟨rfl, hkeys⟩ := commit_ok h
  exact .created _ (List.mem_map_of_mem (requireMachine_ok hm).1) rfl hkeys

lemma mergeMachine_outcome {machineId sourceId : Uuid} {db' : Db}
    (h : mergeMachine db caller now machineId sourceId = .ok db') : Becomes db db' True := by
  unfold mergeMachine at h
  obtain ⟨_, hself, h⟩ := bind_eq_ok h
  obtain ⟨target, htarget, h⟩ := bind_eq_ok h
  obtain ⟨source, hsource, h⟩ := bind_eq_ok h
  obtain ⟨htarget, htid⟩ := requireMachine_ok htarget
  obtain ⟨hsource, hsid⟩ := requireMachine_ok hsource
  have hne : recordKey target ≠ recordKey source := by
    rw [htid, hsid]
    exact of_decide_eq_true (Rooms.check_ok hself)
  split at h
  · rename_i tables hmerge
    cases h
    obtain ⟨hmachines, hjournal⟩ := mergeInto_ok hne hmerge
    unfold Becomes
    rw [hmachines, hjournal]
    exact .merged target source now htarget hsource hne
  · cases h

/-- The date that an edit leaves. -/
lemma edited_sound {payload : InterventionUpdate} {i : Intervention} {P : Time → Prop} :
    (∀ date, payload.performedAt = some (some date) → i.performedAt = date ∨ P date) ↔
      i.performedAt = (edited now payload i).performedAt ∨ P (edited now payload i).performedAt := by
  unfold edited
  match hdate : payload.performedAt with
  | none => simp
  | some none => simp
  | some (some date) => simp

lemma updateIntervention_outcome {payload : InterventionUpdate} :
    Becomes db (step db ⟨caller, now, .update id payload⟩) (Sound db ⟨caller, now, .update id payload⟩) := by
  simp only [step, handle, updateIntervention, Sound]
  cases hi : requireIntervention db caller id with
  | error e => exact .refused fun i h => by cases h
  | ok i =>
    refine .edited i (edited now payload i) (mem_of_requireIntervention hi) rfl rfl rfl ?_
    constructor
    · intro h hvisit
      exact edited_sound.1 (h i rfl hvisit)
    · rintro h j ⟨⟩ hvisit
      exact edited_sound.2 (h hvisit)

lemma deleteIntervention_outcome :
    Becomes db (step db ⟨caller, now, .delete id⟩) (Sound db ⟨caller, now, .delete id⟩) := by
  simp only [step, handle, deleteIntervention, Sound]
  cases hi : requireIntervention db caller id with
  | error e => exact .refused fun i h => by cases h
  | ok i =>
    refine .deleted i (mem_of_requireIntervention hi) ⟨fun h hvisit => h i rfl hvisit, ?_⟩
    rintro h j ⟨⟩ hvisit
    exact h hvisit

lemma step_outcome (db : Db) (e : Event) : Becomes db (step db e) (Sound db e) := by
  obtain ⟨caller, now, request⟩ := e
  cases request with
  | update id payload => exact updateIntervention_outcome
  | delete id => exact deleteIntervention_outcome
  | record payload visitId entryId =>
    simp only [step, Sound]
    split
    · rename_i h
      exact recordRoute_outcome h
    · exact .refused trivial
  | create machineId payload id =>
    simp only [step, Sound]
    split
    · rename_i h
      exact createIntervention_outcome h
    · exact .refused trivial
  | merge machineId sourceId =>
    simp only [step, Sound]
    split
    · rename_i h
      exact mergeMachine_outcome h
    · exact .refused trivial

end Step

/-! ### The copy -/

section Copy

variable {machines machines' : List Record} {journal journal' : List Intervention} {sound : Prop}

lemma mem_absorbed {target source m : Record} {now : Time} :
    m ∈ (machines.map fun m => if m.id = target.id then target.absorb source now else m).filter
      (·.id ≠ source.id) ↔ m.id ≠ source.id ∧
        ∃ x ∈ machines, (if x.id = target.id then target.absorb source now else x) = m := by
  rw [List.mem_filter, List.mem_map, decide_eq_true_iff, and_comm]

lemma absorbed_key (target source : Record) (now : Time) (x : Record) :
    recordKey (if x.id = target.id then target.absorb source now else x) = x.id := by
  split
  · rename_i h
    exact h.symm
  · rfl

lemma visited_key {m : Record} {now performedAt : Time} : recordKey (visited now performedAt m) = m.id := by
  unfold visited
  split <;> rfl

lemma Outcome.legal (h : Outcome machines journal machines' journal' sound) (hl : Legal machines journal) :
    Legal machines' journal' := by
  cases h with
  | refused => exact hl
  | recorded done entry performedAt now hdone hentry hkeys =>
    have hids : (machines.map fun m =>
        if m.id ∈ done.map recordKey then visited now performedAt m else m).map recordKey =
          machines.map recordKey := by
      rw [List.map_map]
      refine List.map_congr_left fun m _ => ?_
      rw [Function.comp_apply]
      split
      · exact visited_key
      · rfl
    refine ⟨hids ▸ hl.machineIds, hkeys, fun i hi => ?_⟩
    rw [hids]
    rcases List.mem_append.1 hi with hi | hi
    · exact hl.entryMachine i hi
    · obtain ⟨m, hm, rfl⟩ := List.mem_map.1 hi
      rw [(hentry m).1]
      exact List.mem_map_of_mem (hdone m hm)
  | created i hmachine hnone hkeys =>
    refine ⟨hl.machineIds, hkeys, fun j hj => ?_⟩
    rcases List.mem_append.1 hj with hj | hj
    · exact hl.entryMachine j hj
    · rw [List.mem_singleton.1 hj]
      exact hmachine
  | edited i j hi hid hmachine hvisit =>
    refine ⟨hl.machineIds, ?_, fun x hx => ?_⟩
    · rw [map_key_putRow]
      exact hl.entryIds
    · rcases mem_putRow hx with rfl | ⟨hx, -⟩
      · rw [hmachine]
        exact hl.entryMachine i hi
      · exact hl.entryMachine x hx
  | deleted i hi =>
    refine ⟨hl.machineIds, hl.entryIds.sublist (List.filter_sublist.map entryKey), fun j hj => ?_⟩
    exact hl.entryMachine j (mem_others.1 hj).1
  | merged target source now htarget hsource hne =>
    refine ⟨?_, ?_, fun i hi => ?_⟩
    · refine List.Nodup.sublist (List.filter_sublist.map recordKey) ?_
      rw [List.map_map]
      have hids := List.map_congr_left (l := machines) fun x _ => absorbed_key target source now x
      exact hids ▸ hl.machineIds
    · rw [journalOwner.map_move entryKey fun _ => rfl]
      exact hl.entryIds
    · have hgone : i.machineId ≠ source.id := journalOwner.move_ne hne hi
      obtain ⟨j, hj, rfl⟩ := List.mem_map.1 hi
      have hkept : (journalOwner.moved source.id target.id j).machineId ∈ machines.map recordKey := by
        by_cases hs : j.machineId = source.id
        · rw [journalOwner.moved_of_eq hs]
          exact List.mem_map_of_mem htarget
        · rw [journalOwner.moved_of_ne hs]
          exact hl.entryMachine j hj
      obtain ⟨x, hx, hxi⟩ := List.mem_map.1 hkept
      refine List.mem_map.2 ⟨_, mem_absorbed.2 ⟨?_, x, hx, rfl⟩, (absorbed_key target source now x).trans hxi⟩
      exact fun h => hgone (hxi.symm.trans ((absorbed_key target source now x).symm.trans h))

/-- A visit moves the copy forward. -/
lemma visited_last (m : Record) (now performedAt : Time) :
    (visited now performedAt m).lastMaintenanceAt = later m.lastMaintenanceAt (some performedAt) := by
  unfold visited
  cases hlast : m.lastMaintenanceAt with
  | none => rfl
  | some last =>
    by_cases hlt : last < performedAt
    · simp [hlt, later, max_eq_right (Int.le_of_lt hlt)]
    · simp [hlt, later, hlast, max_eq_left (Int.not_lt.1 hlt)]

lemma laterVisit_eq_later (target source : Option Time) : laterVisit target source = later target source := by
  cases target with
  | none => cases source <;> rfl
  | some t =>
    cases source with
    | none => rfl
    | some s =>
      unfold laterVisit later
      simp only
      split
      · rename_i h
        rw [max_eq_right (Int.le_of_lt h)]
      · rename_i h
        rw [max_eq_left (Int.not_lt.1 h)]

/-- The visits of the entries that `record_session` adds. -/
lemma mem_visitDates_entries {done : List Record} {entry : Record → Intervention} {performedAt v : Time} {k : Uuid}
    (hentry : ∀ m, (entry m).machineId = m.id ∧ (entry m).maintenanceId ≠ none ∧
      (entry m).performedAt = performedAt) :
    v ∈ visitDates (done.map entry) k ↔ k ∈ done.map recordKey ∧ performedAt = v := by
  rw [mem_visitDates]
  constructor
  · rintro ⟨i, hi, hk, -, hv⟩
    obtain ⟨m, hm, rfl⟩ := List.mem_map.1 hi
    obtain ⟨hmachine, -, hdate⟩ := hentry m
    exact ⟨hk ▸ hmachine ▸ List.mem_map_of_mem hm, hdate ▸ hv⟩
  · rintro ⟨hk, rfl⟩
    obtain ⟨m, hm, rfl⟩ := List.mem_map.1 hk
    exact ⟨entry m, List.mem_map_of_mem hm, hentry m⟩

lemma denormalised_recorded {done : List Record} {entry : Record → Intervention} {performedAt now : Time}
    (hentry : ∀ m, (entry m).machineId = m.id ∧ (entry m).maintenanceId ≠ none ∧
      (entry m).performedAt = performedAt) (h : DenormalisedFrom machines journal) :
    DenormalisedFrom (machines.map fun m => if m.id ∈ done.map recordKey then visited now performedAt m else m)
      (journal ++ done.map entry) := by
  intro m hm
  obtain ⟨x, hx, rfl⟩ := List.mem_map.1 hm
  have hunion : ∀ k v, v ∈ visitDates (journal ++ done.map entry) k ↔
      v ∈ visitDates journal k ∨ (k ∈ done.map recordKey ∧ performedAt = v) := by
    intro k v
    rw [visitDates_append, List.mem_append, mem_visitDates_entries hentry]
  by_cases hin : x.id ∈ done.map recordKey
  · rw [if_pos hin, visited_last, h x hx]
    refine (max?_union (s := [performedAt]) fun v => ?_).symm
    rw [show (visited now performedAt x).id = x.id from visited_key, hunion, List.mem_singleton]
    exact or_congr_right ⟨fun hv => hv.2.symm, fun hv => ⟨hin, hv.symm⟩⟩
  · rw [if_neg hin, h x hx]
    refine max?_congr fun v => ?_
    rw [hunion]
    exact ⟨.inl, fun hv => hv.resolve_right fun hentry => hin hentry.1⟩

lemma denormalised_merged {target source : Record} {now : Time} (htarget : target ∈ machines)
    (hsource : source ∈ machines) (hne : target.id ≠ source.id) (h : DenormalisedFrom machines journal) :
    DenormalisedFrom
      ((machines.map fun m => if m.id = target.id then target.absorb source now else m).filter (·.id ≠ source.id))
      (journalOwner.move source.id target.id journal) := by
  intro m hm
  obtain ⟨hgone, x, hx, rfl⟩ := mem_absorbed.1 hm
  by_cases hkept : x.id = target.id
  · rw [if_pos hkept]
    change laterVisit target.lastMaintenanceAt source.lastMaintenanceAt =
      (visitDates (journalOwner.move source.id target.id journal) target.id).max?
    rw [laterVisit_eq_later, h target htarget, h source hsource]
    refine (max?_union fun v => ?_).symm
    rw [mem_visitDates_move, mem_visitDates, mem_visitDates]
    constructor
    · rintro ⟨i, hi, hk, hiv⟩
      split at hk
      · rename_i hs
        exact .inr ⟨i, hi, hs, hiv⟩
      · exact .inl ⟨i, hi, hk, hiv⟩
    · rintro (⟨i, hi, hk, hiv⟩ | ⟨i, hi, hk, hiv⟩)
      · exact ⟨i, hi, (if_neg (hk ▸ hne)).trans hk, hiv⟩
      · exact ⟨i, hi, if_pos hk, hiv⟩
  · rw [if_neg hkept] at hgone ⊢
    rw [h x hx]
    refine max?_congr fun v => ?_
    rw [mem_visitDates_move, mem_visitDates]
    constructor
    · rintro ⟨i, hi, hk, hiv⟩
      exact ⟨i, hi, (if_neg (hk ▸ hgone)).trans hk, hiv⟩
    · rintro ⟨i, hi, hk, hiv⟩
      split at hk
      · exact absurd hk.symm hkept
      · exact ⟨i, hi, hk, hiv⟩

/-- When another journal has the same of every poste but one, where it lacks a visit's entry: that poste decides. -/
lemma denormalised_without_iff {i : Intervention} (hl : Legal machines journal) (h : DenormalisedFrom machines journal)
    (hi : i ∈ journal) (hrest : ∀ k, ¬(i.machineId = k ∧ i.maintenanceId ≠ none) →
      ∀ v, v ∈ visitDates journal' k ↔ v ∈ visitDates (others journal i) k) :
    DenormalisedFrom machines journal' ↔ (i.maintenanceId ≠ none → (visitDates journal' i.machineId).max? =
      (i.performedAt :: visitDates (others journal i) i.machineId).max?) := by
  have hwhole (hvisit : i.maintenanceId ≠ none) : (visitDates journal i.machineId).max? =
      (i.performedAt :: visitDates (others journal i) i.machineId).max? := by
    refine max?_congr fun v => ?_
    rw [mem_visitDates_split hl.entryIds hi, List.mem_cons]
    exact or_congr_left ⟨fun hv => hv.2.2.symm, fun hv => ⟨rfl, hvisit, hv.symm⟩⟩
  constructor
  · intro h' hvisit
    obtain ⟨m, hm, hid⟩ := List.mem_map.1 (hl.entryMachine i hi)
    rw [← hwhole hvisit, ← hid]
    exact (h' m hm).symm.trans (h m hm)
  · intro hdecides m hm
    rw [h m hm]
    by_cases hof : i.machineId = m.id ∧ i.maintenanceId ≠ none
    · obtain ⟨hid, hvisit⟩ := hof
      rw [← hid, hwhole hvisit, hdecides hvisit]
    · refine max?_congr fun v => ?_
      rw [hrest m.id hof, mem_visitDates_split hl.entryIds hi]
      exact ⟨fun hv => hv.resolve_left fun ⟨hid, hvisit, _⟩ => hof ⟨hid, hvisit⟩, .inr⟩

lemma denormalised_edited_iff {i j : Intervention} (hl : Legal machines journal) (h : DenormalisedFrom machines journal)
    (hi : i ∈ journal) (hid : j.id = i.id) (hmachine : j.machineId = i.machineId)
    (hvisit : j.maintenanceId = i.maintenanceId) :
    DenormalisedFrom machines (putRow entryKey journal j) ↔ (i.maintenanceId ≠ none →
      i.performedAt = j.performedAt ∨ Covered journal i (max i.performedAt j.performedAt)) := by
  have hsplit : ∀ k v, v ∈ visitDates (putRow entryKey journal j) k ↔
      (i.machineId = k ∧ i.maintenanceId ≠ none ∧ j.performedAt = v) ∨ v ∈ visitDates (others journal i) k := by
    intro k v
    rw [mem_visitDates_putRow (hid ▸ List.mem_map_of_mem hi), hmachine, hvisit]
    unfold others
    rw [hid]
  rw [denormalised_without_iff hl h hi]
  · refine imp_congr_right fun hnone => ?_
    have hput : (visitDates (putRow entryKey journal j) i.machineId).max? =
        (j.performedAt :: visitDates (others journal i) i.machineId).max? := by
      refine max?_congr fun v => ?_
      rw [hsplit, List.mem_cons]
      exact or_congr_left ⟨fun hv => hv.2.2.symm, fun hv => ⟨rfl, hnone, hv.symm⟩⟩
    rw [hput, max?_replace_iff, covered_iff]
  · intro k hno v
    rw [hsplit]
    exact ⟨fun hv => hv.resolve_left fun ⟨hk, hnone, _⟩ => hno ⟨hk, hnone⟩, .inr⟩

lemma denormalised_deleted_iff {i : Intervention} (hl : Legal machines journal) (h : DenormalisedFrom machines journal)
    (hi : i ∈ journal) : DenormalisedFrom machines (others journal i) ↔
      (i.maintenanceId ≠ none → Covered journal i i.performedAt) := by
  rw [denormalised_without_iff hl h hi fun _ _ _ => Iff.rfl]
  refine imp_congr_right fun _ => ?_
  rw [eq_comm, max?_drop_iff, covered_iff]

/-- A request keeps the copy exact when it is sound, and only then. -/
lemma Outcome.exact_iff (ho : Outcome machines journal machines' journal' sound)
    (hl : Legal machines journal) (h : DenormalisedFrom machines journal) :
    DenormalisedFrom machines' journal' ↔ sound := by
  cases ho with
  | refused hsound => exact ⟨fun _ => hsound, fun _ => h⟩
  | recorded done entry performedAt now hdone hentry hkeys =>
    exact ⟨fun _ => trivial, fun _ => denormalised_recorded hentry h⟩
  | created i hmachine hnone hkeys =>
    refine ⟨fun _ => trivial, fun _ m hm => ?_⟩
    rw [h m hm, visitDates_append]
    have hno : visitDates [i] m.id = [] := by simp [visitDates, hnone]
    rw [hno, List.append_nil]
  | edited i j hi hid hmachine hvisit hsound =>
    rw [hsound]
    exact denormalised_edited_iff hl h hi hid hmachine hvisit
  | deleted i hi hsound =>
    rw [hsound]
    exact denormalised_deleted_iff hl h hi
  | merged target source now htarget hsource hne =>
    exact ⟨fun _ => trivial, fun _ => denormalised_merged htarget hsource hne h⟩

end Copy

/-- The keys of the tables. -/
def Db.Legal (db : Db) : Prop := Journal.Legal db.tables.machines db.tables.interventions

/-- **When the cycle rests on the journal.**  From a state where each `last_maintenance_at` is the latest visit that
the journal has of its poste, it is so in every state of a run exactly when every edit and every deletion of a visit's
entry leaves a later one. -/
theorem denormalised_iff (db : Db) (hlegal : db.Legal) (h : Denormalised db) (events : List Event) :
    (∀ fs, fs <+: events → Denormalised (run step db fs)) ↔ Guarded step Sound db events :=
  Guarded.iff_prefixes (I := Db.Legal) (fun s e hl => (step_outcome s e).legal hl)
    (fun s e hl hs => (step_outcome s e).exact_iff hl hs) hlegal h events

/-! ### A visit deleted -/

/-- A poste that nobody has visited. -/
def unvisited : Record where
  toMachine := Machine.new 1 "a" 0
  roomId := none
  lastMaintenanceAt := none

def parc : Db where
  tables := ⟨[unvisited], [], [], [], [], [], []⟩
  visits := []

def technician : Caller := ⟨"tech@example.org", fun _ => true, fun _ => none⟩

/-- A visit of the poste, at 100, whose entry has the id 20. -/
def visit : Event := ⟨technician, 200, .record ⟨none, some 100, none, [⟨1, none⟩]⟩ 10 fun _ => 20⟩

def withdrawal : Event := ⟨technician, 300, .delete 20⟩

lemma parc_legal : parc.Legal := ⟨by decide, List.nodup_nil, fun _ h => by cases h⟩

lemma parc_denormalised : Denormalised parc := by decide

/-- The visit alone. -/
theorem denormalised_iff_visit :
    (∀ fs, fs <+: [visit] → Denormalised (run step parc fs)) ↔ Guarded step Sound parc [visit] :=
  denormalised_iff parc parc_legal parc_denormalised [visit]

/-- **The visit stays.**  The entry of the only visit is deleted: the poste keeps its date. -/
theorem not_denormalised :
    ¬∀ (db : Db), db.Legal → Denormalised db → ∀ events, Denormalised (run step db events) := by
  intro h
  have hstale := h parc parc_legal parc_denormalised [visit, withdrawal]
  exact absurd hstale (by decide)

end Tiai.Journal
