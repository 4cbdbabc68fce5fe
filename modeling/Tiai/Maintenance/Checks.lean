import Tiai.Lib.Column
import Tiai.Lib.Runs
import Tiai.Lib.Store
import Tiai.Maintenance.Journal

/-!
# Verification requests, all at once

The routes of `api/routes/checks.py` that write, and the part of `merge_into` that touches the requests and the
journal, as transactions that read committed rows and write, at their commit, the columns they changed.  A merge goes
through the statements that matter here, one after the other; the others, and the mails and audit entries, are left
out.  A row lock only delays a commit, so that a run with locks is a run here; anything else that makes a transaction
fail is the event `abort`.  What a caller's scope shows, and which accounts are active, are part of his request.

* `createCheck`, `createChecksBulk`, `updateCheck`, `closeCheck` — what the routes have read when they commit;
* `Merging` — how far a merge has got;
* `Txn.write` — a commit, under `uq_machine_checks_open` and the foreign keys;
* `step` — the steps of a run.
-/

namespace Tiai.Checks

open Lib
open Merge (MachineCheck Intervention NotBothOpen checkOwner journalOwner openForMachine superseded)
open Confined (clean checkNotFound)
open Journal (InterventionKind entryKey)
open Rooms (check machineNotFound serverError)

/-! ### Data -/

structure Db where
  machines : List Uuid
  checks : List MachineCheck
  interventions : List Intervention
  deriving DecidableEq

structure CheckCreate where
  assignedToId : Option Uuid
  instructions : Option String

/-- `CheckUpdate`: a field is not given, null, or a value. -/
structure CheckUpdate where
  assignedToId : Option (Option Uuid)
  instructions : Option (Option String)

structure CheckClose where
  note : Option String
  closedAt : Option Time

/-- Who asks, with the postes that his scope shows, and the accounts that are active. -/
structure Caller where
  email : String
  machines : Uuid → Bool
  accounts : Uuid → Bool

/-- `MachineCheck(…)`, before its identifier is drawn. -/
structure NewCheck where
  machineId : Uuid
  requestedBy : String
  assignedToId : Option Uuid
  instructions : Option String
  createdAt : Time

def NewCheck.row (c : NewCheck) (id : Uuid) : MachineCheck where
  id := id
  machineId := c.machineId
  requestedBy := c.requestedBy
  assignedToId := c.assignedToId
  instructions := c.instructions
  createdAt := c.createdAt
  updatedAt := c.createdAt
  closedAt := none
  closedBy := none
  closingNote := none

/-- The rows, under the identifiers drawn from `next` on. -/
def rows (next : Uuid) : List NewCheck → List MachineCheck
  | [] => []
  | c :: cs => c.row next :: rows (next + 1) cs

/-- What `close_check` writes. -/
structure Closing where
  closedAt : Time
  closedBy : String
  note : Option String
  now : Time

/-- How far a merge has got: the journal entries that it has moved, whether the target has an open request, the
open request of the source that it closes, and the requests that it has moved. -/
inductive Merging
  | begun
  | journal (entries : List Uuid)
  | targetRead (entries : List Uuid) (targetOpen : Bool)
  | sourceRead (entries : List Uuid) (closes : Option MachineCheck)
  | requests (entries : List Uuid) (closes : Option MachineCheck) (moved : List Uuid)

/-- A transaction under way. -/
inductive Txn
  | create (new : List NewCheck)
  | update (read new : MachineCheck)
  | close (read : MachineCheck) (closing : Closing)
  | merge (targetId sourceId : Uuid) (now : Time) (progress : Merging)

/-! ### What a route reads -/

def checkAlreadyOpen : AppError := ⟨.checkAlreadyOpen, 409, "A verification is already open on this machine"⟩

def checkClosed : AppError := ⟨.checkClosed, 409, "This check is closed"⟩

def userNotFound : AppError := ⟨.userNotFound, 404, "User not found"⟩

section Routes

variable (db : Db) (caller : Caller) (now : Time)

/-- `_require_check`. -/
def requireCheck (id : Uuid) : Except AppError MachineCheck :=
  match rowOf MachineCheck.id db.checks id with
  | some k => if caller.machines k.machineId then .ok k else .error checkNotFound
  | none => .error checkNotFound

/-- `_require_assignee`. -/
def requireAssignee (userId : Option Uuid) : Except AppError Unit := check (userId.all caller.accounts) userNotFound

/-- The row that a creation adds for a poste. -/
def newCheck (payload : CheckCreate) (machineId : Uuid) : NewCheck :=
  ⟨machineId, caller.email, payload.assignedToId, clean payload.instructions, now⟩

/-- `create_check`. -/
def createCheck (machineId : Uuid) (payload : CheckCreate) : Except AppError Txn := do
  check (caller.machines machineId) machineNotFound
  match openForMachine db.checks machineId with
  | none => throw serverError
  | some (some _) => throw checkAlreadyOpen
  | some none =>
    requireAssignee caller payload.assignedToId
    return .create [newCheck caller now payload machineId]

/-- `create_checks_bulk`. -/
def createChecksBulk (machineIds : List Uuid) (payload : CheckCreate) : Except AppError Txn := do
  requireAssignee caller payload.assignedToId
  check (machineIds.all caller.machines) machineNotFound
  let already := db.checks.filter fun k => k.machineId ∈ machineIds ∧ k.closedAt = none
  let asked := machineIds.dedup.filter fun m => m ∉ already.map MachineCheck.machineId
  return .create (asked.map (newCheck caller now payload))

/-- `update_check`. -/
def updateCheck (id : Uuid) (payload : CheckUpdate) : Except AppError Txn := do
  let row ← requireCheck db caller id
  check (row.closedAt = none) checkClosed
  requireAssignee caller payload.assignedToId.join
  return .update row { row with
    assignedToId := payload.assignedToId.getD row.assignedToId
    instructions := match payload.instructions with
      | some instructions => clean instructions
      | none => row.instructions
    updatedAt := now }

/-- `close_check`. -/
def closeCheck (id : Uuid) (payload : CheckClose) : Except AppError Txn := do
  let row ← requireCheck db caller id
  check (row.closedAt = none) checkClosed
  return .close row ⟨payload.closedAt.getD now, caller.email, clean payload.note, now⟩

/-- `merge_machine`, before the first statement of `merge_into`. -/
def mergeMachine (machineId sourceId : Uuid) : Except AppError Txn := do
  check (machineId ≠ sourceId) Journal.mergeSelf
  check (caller.machines machineId) machineNotFound
  check (caller.machines sourceId) machineNotFound
  return .merge machineId sourceId now .begun

end Routes

/-! ### The statements of a merge -/

/-- The requests of a machine. -/
def Db.requestsOf (db : Db) (id : Uuid) : List Uuid := (db.checks.filter (·.machineId = id)).map MachineCheck.id

/-- The next statement: it sees the rows that are committed. -/
def Merging.next (db : Db) (targetId sourceId : Uuid) : Merging → Option Merging
  | .begun => some (.journal ((db.interventions.filter (·.machineId = sourceId)).map entryKey))
  | .journal entries => (openForMachine db.checks targetId).map fun found => .targetRead entries found.isSome
  | .targetRead entries false => some (.sourceRead entries none)
  | .targetRead entries true => (openForMachine db.checks sourceId).map (.sourceRead entries)
  | .sourceRead entries closes => some (.requests entries closes (db.requestsOf sourceId))
  | .requests entries closes moved => some (.requests entries closes moved)

/-- The journal entries that it has moved, once it has moved them. -/
def Merging.entries : Merging → Option (List Uuid)
  | .begun => none
  | .journal entries | .targetRead entries _ | .sourceRead entries _ | .requests entries _ _ => some entries

/-! ### Commits -/

/-- The columns that a transaction changed are written, the others stay. -/
def rowWriteBack (read new row : MachineCheck) : MachineCheck where
  id := row.id
  machineId := row.machineId
  requestedBy := row.requestedBy
  assignedToId := writeBack read.assignedToId new.assignedToId row.assignedToId
  instructions := writeBack read.instructions new.instructions row.instructions
  createdAt := row.createdAt
  updatedAt := writeBack read.updatedAt new.updatedAt row.updatedAt
  closedAt := writeBack read.closedAt new.closedAt row.closedAt
  closedBy := writeBack read.closedBy new.closedBy row.closedBy
  closingNote := writeBack read.closingNote new.closingNote row.closingNote

/-- `UPDATE machine_checks SET … WHERE id = …`; no row is a `StaleDataError`. -/
def updateRow (checks : List MachineCheck) (read new : MachineCheck) : Option (List MachineCheck) :=
  if read.id ∈ checks.map MachineCheck.id then
    some (checks.map fun k => if k.id = read.id then rowWriteBack read new k else k)
  else none

/-- The merge closes the request that it has read. -/
def supersedeRead (checks : List MachineCheck) (closes : Option MachineCheck) (now : Time) :
    Option (List MachineCheck) :=
  match closes with
  | some read => updateRow checks read (superseded now read)
  | none => some checks

/-- The row as the route leaves it. -/
def closed (closing : Closing) (read : MachineCheck) : MachineCheck :=
  { read with
    closedAt := some closing.closedAt
    closedBy := some closing.closedBy
    closingNote := closing.note
    updatedAt := closing.now }

/-- The line that closing adds to the journal. -/
def closingEntry (closing : Closing) (read : MachineCheck) (id : Uuid) : Intervention where
  id := id
  machineId := read.machineId
  kind := InterventionKind.verification.value
  title := some "Vérification"
  note := closing.note
  performedBy := closing.closedBy
  performedAt := closing.closedAt
  checkId := some read.id
  maintenanceId := none
  createdAt := closing.now
  updatedAt := closing.now

/-- `uq_machine_checks_open`. -/
def flush (db : Db) : Option Db := if db.checks.Pairwise NotBothOpen then some db else none

/-- A journal without the requests that are gone: `ON DELETE SET NULL`. -/
def forget (gone : List Uuid) (i : Intervention) : Intervention :=
  { i with checkId := i.checkId.filter (· ∉ gone) }

/-- `DELETE FROM machines`, with what refers to the row. -/
def Db.deleteMachine (db : Db) (id : Uuid) : Db where
  machines := db.machines.filter (· ≠ id)
  checks := checkOwner.without id db.checks
  interventions := (journalOwner.without id db.interventions).map (forget (db.requestsOf id))

def moveCheck (targetId : Uuid) (moved : List Uuid) (k : MachineCheck) : MachineCheck :=
  if k.id ∈ moved then { k with machineId := targetId } else k

def moveEntry (targetId : Uuid) (entries : List Uuid) (i : Intervention) : Intervention :=
  if i.id ∈ entries then { i with machineId := targetId } else i

/-- The rows that a merge moved, wherever they have gone since. -/
def Db.moved (db : Db) (targetId : Uuid) (entries requests : List Uuid) : Db where
  machines := db.machines
  checks := db.checks.map (moveCheck targetId requests)
  interventions := db.interventions.map (moveEntry targetId entries)

/-- What a transaction writes, unless a constraint rejects it; the new identifiers are drawn from `next` on. -/
def Txn.write (db : Db) (next : Uuid) : Txn → Option Db
  | .create new =>
    if ∀ c ∈ new, c.machineId ∈ db.machines then flush { db with checks := db.checks ++ rows next new } else none
  | .update read new => do
    let checks ← updateRow db.checks read new
    flush { db with checks }
  | .close read closing => do
    let checks ← updateRow db.checks read (closed closing read)
    if read.machineId ∈ db.machines then
      flush { db with checks, interventions := db.interventions ++ [closingEntry closing read next] }
    else none
  | .merge targetId sourceId now (.requests entries closes moved) => do
    let checks ← supersedeRead db.checks closes now
    if targetId ∈ db.machines then
      flush ((({ db with checks } : Db).moved targetId entries moved).deleteMachine sourceId)
    else none
  | .merge _ _ _ _ => none

/-- How many identifiers it draws. -/
def Txn.drawn : Txn → ℕ
  | .create new => new.length
  | .close _ _ => 1
  | _ => 0

/-- The request that it closes through the route. -/
def Txn.closes : Txn → List Uuid
  | .close read _ => [read.id]
  | _ => []

/-! ### Runs -/

/-- The committed rows, the transactions under way, the next identifier to draw, and the requests that the route
`close` has closed so far. -/
structure State where
  db : Db
  pending : Store ℕ Txn
  next : ℕ
  byRoute : List Uuid

/-- No request has been made yet. -/
def State.initial (machines : List Uuid) : State := ⟨⟨machines, [], []⟩, [], 0, []⟩

inductive Request
  | create (machineId : Uuid) (payload : CheckCreate)
  | bulk (machineIds : List Uuid) (payload : CheckCreate)
  | update (id : Uuid) (payload : CheckUpdate)
  | close (id : Uuid) (payload : CheckClose)
  | merge (machineId sourceId : Uuid)

inductive Event
  | request (caller : Caller) (now : Time) (request : Request)
  /-- A merge goes on. -/
  | statement (n : ℕ)
  | commit (n : ℕ)
  | abort (n : ℕ)

def handle (db : Db) (caller : Caller) (now : Time) : Request → Except AppError Txn
  | .create machineId payload => createCheck db caller now machineId payload
  | .bulk machineIds payload => createChecksBulk db caller now machineIds payload
  | .update id payload => updateCheck db caller now id payload
  | .close id payload => closeCheck db caller now id payload
  | .merge machineId sourceId => mergeMachine caller now machineId sourceId

/-- A transaction ends. -/
def State.leave (s : State) (n : ℕ) : State := { s with pending := s.pending.drop (· = n) }

/-- What a commit of `txn` makes of the rows; one that a constraint rejects is rolled back. -/
def State.apply (s : State) (txn : Txn) : State :=
  match txn.write s.db s.next with
  | some db => { s with db, next := s.next + txn.drawn, byRoute := txn.closes ++ s.byRoute }
  | none => s

def step (s : State) : Event → State
  | .request caller now request =>
    match handle s.db caller now request with
    | .ok txn => { s with pending := s.pending.put s.next txn, next := s.next + 1 }
    | .error _ => s
  | .statement n =>
    match s.pending.get n with
    | some (.merge targetId sourceId now progress) =>
      match progress.next s.db targetId sourceId with
      | some progress => { s with pending := s.pending.put n (.merge targetId sourceId now progress) }
      | none => s.leave n
    | _ => s
  | .commit n =>
    match s.pending.get n with
    | some txn => (s.leave n).apply txn
    | none => s
  | .abort n => s.leave n

end Tiai.Checks
