import Mathlib.Algebra.Order.Field.Rat
import Mathlib.Order.Std
import Tiai.Command.Queue
import Tiai.Confined.Model
import Tiai.Lib.Paging
import Tiai.Machine.Merge
import Tiai.Usage.Model

/-!
# The lists that come in pages

The nine queries that take a page and its size, each with its tables, its joins, its filters and its
`ORDER BY`: `api/routes/machines.py`, `threats.py`, `commands.py` and `software.py`, and `list_users`,
`list_entries`, `list_for_machine`, `list_checks` and `list_sessions` of the features.

* `Stored` — the tables, with the keys that the database enforces;
* `Listing`, `Listing.answer` — a query before its pages, and a page of it;
* `machineList`, `userList`, … — the nine;
* `ListQuery` — what a client may ask of them.
-/

namespace Tiai.Lists

open Lib
open Std (TransCmp)
open Maintenance (MaintenancePolicy)

/-! ### The tables -/

/-- What the database makes of texts; its collation is deterministic. -/
structure Text where
  /-- `lower()`. -/
  lower : String → String
  /-- `value ILIKE pattern`. -/
  ilike : String → String → Bool
  collate : String → String → Ordering
  trans : TransCmp collate
  eq_of_collate : ∀ s t, collate s t = .eq → s = t

instance (text : Text) : TransCmp text.collate := text.trans

/-- `Machine`, with the columns the list sorts by. -/
structure Machine extends toConfined : Confined.Machine where
  domain : Option String
  agentVersion : Option String
  avProductName : Option String
  wuPendingCount : Option ℤ
  sessionUserPresent : Option Bool
  hwModel : Option String
  ramTotalMb : Option ℤ
  systemVolumeTotalMb : Option ℤ
  systemVolumeFreeMb : Option ℤ
  lastSeen : Time
  deriving DecidableEq

/-- `User`: what the list of accounts filters and sorts by. -/
structure Account where
  id : Uuid
  email : String
  fullName : Option String
  createdAt : Time
  deriving DecidableEq, Repr

/-- `AuditEntry`; `details` is its JSON. -/
structure AuditEntry where
  id : Uuid
  at_ : Time
  actor : String
  action : String
  resourceType : String
  resourceId : String
  details : String
  ip : Option String
  deriving DecidableEq, Repr

/-- `Software`. -/
structure Software where
  id : ℕ
  name : String
  version : String
  publisher : String
  firstSeen : Time
  deriving DecidableEq, Repr

/-- `MachineSoftware`. -/
structure MachineSoftware where
  machineId : Uuid
  softwareId : ℕ
  deriving DecidableEq, Repr

/-- The tables behind the lists; of the settings, what `maintenance_policy` makes of them. -/
structure Tables where
  machines : List Machine
  rooms : List Rooms.Room
  buildings : List Rooms.Building
  checks : List Confined.MachineCheck
  uptime : Usage.Uptime
  users : List Account
  threats : List Merge.Threat
  commands : List Command
  audit : List AuditEntry
  software : List Software
  installed : List MachineSoftware
  interventions : List Confined.Intervention
  visits : List Confined.Visit
  policy : MaintenancePolicy

/-- The part that the scopes and the maintenance queries read. -/
def Tables.db (t : Tables) : Confined.Db where
  machines := t.machines.map Machine.toConfined
  rooms := t.rooms
  buildings := t.buildings
  interventions := t.interventions
  checks := t.checks
  visits := t.visits
  users := []
  policy := t.policy

/-- The tables in a state the database accepts: the primary keys, one account for an address in lower case,
one open request for a poste, and one entry of the catalogue for a name, a version and a publisher. -/
structure Stored (text : Text) extends Tables where
  machineIds : (machines.map fun m => m.id).Nodup
  roomIds : (rooms.map Rooms.Room.key).Nodup
  buildingIds : (buildings.map Rooms.Building.key).Nodup
  checkIds : (checks.map Confined.MachineCheck.key).Nodup
  checkOpen : ∀ c ∈ checks, ∀ e ∈ checks, c.closedAt = none → e.closedAt = none →
    c.machineId = e.machineId → c.id = e.id
  userIds : (users.map Account.id).Nodup
  userEmails : (users.map fun u => text.lower u.email).Nodup
  threatIds : (threats.map Merge.Threat.id).Nodup
  commandIds : (commands.map Command.id).Nodup
  auditIds : (audit.map AuditEntry.id).Nodup
  softwareIds : (software.map Software.id).Nodup
  softwareIdentity : (software.map fun s => (s.name, s.version, s.publisher)).Nodup
  interventionIds : (interventions.map Confined.Intervention.key).Nodup
  visitIds : (visits.map Confined.Visit.key).Nodup

/-! ### A list -/

/-- A query: the rows it matches, each once, and its `ORDER BY`. -/
structure Listing where
  Row : Type
  rows : List Row
  order : Row → Row → Ordering
  trans : TransCmp order
  nodup : rows.Nodup

/-- A page of an answer, and the total. -/
def Listing.answer (l : Listing) (answer : List l.Row) (page pageSize : ℕ) : List l.Row × ℕ :=
  (Sql.page page pageSize answer, l.rows.length)

/-- `ilike(f"%{value}%")`, of a column that may be null. -/
def contains (text : Text) (value : String) (column : Option String) : Bool :=
  column.any fun c => text.ilike c ("%" ++ value ++ "%")

/-- `if value:`, then a clause. -/
def given (value : Option String) (clause : String → Bool) : Bool := value.all fun v => v = "" || clause v

section Queries

variable {text : Text} (s : Stored text)

/-- Rows of a table with a key, filtered. -/
lemma nodup_filter {α κ : Type} {key : α → κ} {rows : List α} (h : (rows.map key).Nodup) (p : α → Bool) :
    (rows.filter p).Nodup := (List.Nodup.of_map key h).filter p

/-! ### Accounts, threats, commands, the audit log -/

/-- `list_users`. -/
def userList (search : Option String) : Listing where
  Row := Account
  rows := s.users.filter fun u =>
    given search fun v => contains text v (some u.email) || contains text v u.fullName
  order u v := (compare v.createdAt u.createdAt).then (text.collate u.email v.email)
  trans := Sql.transCmp_then (Sql.transCmp_desc (Sql.transCmp_on compare Account.createdAt))
    (Sql.transCmp_on text.collate Account.email)
  nodup := nodup_filter s.userIds _

/-- `list_threats`. -/
def threatList (scope : Option Scope) (machineId : Option Uuid) (status severity : Option String) : Listing where
  Row := Merge.Threat
  rows := s.threats.filter fun x =>
    s.db.machineIdsClause scope x.machineId && (machineId.all fun m => x.machineId = m) &&
      (status.all fun v => x.status = some v) && severity.all fun v => x.severity = some v
  order x y := (Sql.nullsLast (fun a b => compare b a) x.detectedAt y.detectedAt).then (compare y.id x.id)
  trans := Sql.transCmp_then
    (Sql.transCmp_on (Sql.nullsLast fun a b => compare b a) Merge.Threat.detectedAt)
    (Sql.transCmp_desc (Sql.transCmp_on compare Merge.Threat.id))
  nodup := nodup_filter s.threatIds _

lemma markExpired_ids (commands : List Command) (now : Time) :
    (markExpired commands now none).map Command.id = commands.map Command.id := by
  rw [markExpired, List.map_map]
  refine List.map_congr_left fun c _ => ?_
  simp only [Function.comp_apply, expireRow]
  split <;> rfl

/-- `list_commands`, on the table that `mark_expired` has swept. -/
def commandList (now : Time) (scope : Option Scope) (status : Option CommandStatus)
    (machineId packageId : Option Uuid) : Listing where
  Row := Command
  rows := (markExpired s.commands now none).filter fun c =>
    s.db.machineIdsClause scope c.machineId && (status.all fun v => c.status = v) &&
      (machineId.all fun m => c.machineId = m) && packageId.all fun p => c.packageId = some p
  order c d := (compare d.createdAt c.createdAt).then (compare c.id d.id)
  trans := Sql.transCmp_then (Sql.transCmp_desc (Sql.transCmp_on compare Command.createdAt))
    (Sql.transCmp_on compare Command.id)
  nodup := nodup_filter (markExpired_ids s.commands now ▸ s.commandIds) _

/-- `_escape_like`. -/
def escapeLike (value : String) : String :=
  ((value.replace "\\" "\\\\").replace "%" "\\%").replace "_" "\\_"

/-- The filters of `list_entries`. -/
structure AuditFilters where
  action : Option String
  actor : Option String
  resourceType : Option String
  resourceId : Option String
  since : Option Time
  until_ : Option Time

def AuditFilters.clause (text : Text) (f : AuditFilters) (e : AuditEntry) : Bool :=
  (given f.action fun v => e.action = v) &&
    (given f.actor fun v => contains text (escapeLike v) (some e.actor)) &&
    (given f.resourceType fun v => e.resourceType = v) && (given f.resourceId fun v => e.resourceId = v) &&
    (f.since.all fun t => t ≤ e.at_) && f.until_.all fun t => e.at_ < t

/-- `list_entries`. -/
def auditList (f : AuditFilters) : Listing where
  Row := AuditEntry
  rows := s.audit.filter (f.clause text)
  order e f := compare f.at_ e.at_
  trans := Sql.transCmp_desc (Sql.transCmp_on compare AuditEntry.at_)
  nodup := nodup_filter s.auditIds _

/-! ### Journals, requests, visits -/

/-- `list_for_machine`. -/
def journalList (machineId : Uuid) : Listing where
  Row := Confined.Intervention
  rows := s.interventions.filter fun i => i.machineId = machineId
  order a b := (compare b.performedAt a.performedAt).then (compare b.createdAt a.createdAt)
  trans := Sql.transCmp_then (Sql.transCmp_desc (Sql.transCmp_on compare Confined.Intervention.performedAt))
    (Sql.transCmp_desc (Sql.transCmp_on compare Confined.Intervention.createdAt))
  nodup := nodup_filter s.interventionIds _

/-- `list_checks`, within a scope or for one poste. -/
def checkList (scope : Option Scope) (openOnly : Bool) (assignedToId : Option Uuid) (unassigned : Bool)
    (machineId : Option Uuid) : Listing where
  Row := Confined.MachineCheck
  rows := s.checks.filter fun c =>
    s.db.machineIdsClause scope c.machineId && (!openOnly || c.closedAt.isNone) &&
      (assignedToId.all fun u => c.assignedToId = some u) && (!unassigned || c.assignedToId.isNone) &&
      machineId.all fun m => c.machineId = m
  order := Confined.checkOrder
  trans := Sql.transCmp_then
    (Sql.transCmp_then (Sql.transCmp_on compare fun c : Confined.MachineCheck => c.closedAt.isSome)
      (Sql.transCmp_on (Sql.nullsLast fun x y => compare y x) Confined.MachineCheck.closedAt))
    (Sql.transCmp_on compare Confined.MachineCheck.createdAt)
  nodup := nodup_filter s.checkIds _

/-- `list_sessions`. -/
def visitList (scope : Option Scope) (roomId machineId : Option Uuid) : Listing where
  Row := Confined.Visit
  rows := s.visits.filter fun v =>
    Confined.visitClause s.db scope v && (roomId.all fun r => v.roomId = some r) &&
      machineId.all fun m => s.interventions.any fun i => i.machineId = m && i.maintenanceId = some v.id
  order v w := compare w.performedAt v.performedAt
  trans := Sql.transCmp_desc (Sql.transCmp_on compare Confined.Visit.performedAt)
  nodup := nodup_filter s.visitIds _

section Answers

variable {s}

/-! With one answer for all the pages, these are the lists of a scope's journals. -/

theorem listForMachine_eq (machineId : Uuid) (page pageSize : ℕ) :
    Confined.listForMachine s.db machineId page pageSize =
      (journalList s machineId).answer (Sql.orderBy (journalList s machineId).order (journalList s machineId).rows)
        page pageSize := rfl

theorem listChecks_eq (scope : Option Scope) (openOnly : Bool) (assignedToId : Option Uuid) (unassigned : Bool)
    (machineId : Option Uuid) (page pageSize : ℕ) :
    Confined.listChecks s.db (fun c => s.db.machineIdsClause scope c.machineId) openOnly assignedToId unassigned
        machineId page pageSize =
      (checkList s scope openOnly assignedToId unassigned machineId).answer
        (Sql.orderBy (checkList s scope openOnly assignedToId unassigned machineId).order
          (checkList s scope openOnly assignedToId unassigned machineId).rows) page pageSize := rfl

theorem listSessions_eq (scope : Option Scope) (roomId machineId : Option Uuid) (page pageSize : ℕ) :
    Confined.listSessions s.db scope roomId machineId page pageSize =
      (visitList s scope roomId machineId).answer
        (Sql.orderBy (visitList s scope roomId machineId).order (visitList s scope roomId machineId).rows)
        page pageSize := rfl

end Answers

/-! ### The software catalogue -/

/-- `SoftwareSortField`. -/
inductive SoftwareSortField
  | name
  | version
  | publisher
  | machineCount
  deriving DecidableEq, Repr

/-- An entry and `machine_count`. -/
structure CatalogueRow where
  entry : Software
  machineCount : ℕ
  deriving DecidableEq

/-- The entries, outer-joined with the links in scope. -/
def installedRows (scope : Option Scope) : List (Software × Option MachineSoftware) :=
  Sql.leftJoin
    (fun e link => (Sql.eq (some link.softwareId) (some e.id)).and
      (some (s.db.machineIdsClause scope link.machineId)))
    s.installed s.software

/-- `_installed_count`, of a group: the rows whose link is not null. -/
def installedCount (found : List (Software × Option MachineSoftware)) (e : Software) : ℕ :=
  found.countP fun row => row.1 = e && row.2.isSome

/-- `_catalogue_query`: grouped by entry, and without the groups nobody carries. -/
def catalogue (search : Option String) (scope : Option Scope) : List CatalogueRow :=
  let found := (installedRows s scope).filter fun row => given search fun v =>
    contains text v (some row.1.name) || contains text v (some row.1.publisher)
  ((found.map Prod.fst).dedup.map fun e => ⟨e, installedCount found e⟩).filter fun row => 0 < row.machineCount

/-- An order, or its reverse. -/
def directed {α : Type} (descending : Bool) (order : α → α → Ordering) : α → α → Ordering :=
  if descending then fun a b => order b a else order

lemma transCmp_directed {α : Type} (descending : Bool) {order : α → α → Ordering} (h : TransCmp order) :
    TransCmp (directed descending order) := by
  cases descending with
  | false => exact h
  | true => exact Sql.transCmp_desc h

/-- `_sort_clause`, before its direction. -/
def softwareKey (text : Text) : SoftwareSortField → CatalogueRow → CatalogueRow → Ordering
  | .name => fun a b => text.collate (text.lower a.entry.name) (text.lower b.entry.name)
  | .version => fun a b => text.collate (text.lower a.entry.version) (text.lower b.entry.version)
  | .publisher => fun a b => text.collate (text.lower a.entry.publisher) (text.lower b.entry.publisher)
  | .machineCount => fun a b => compare a.machineCount b.machineCount

lemma transCmp_softwareKey (field : SoftwareSortField) : TransCmp (softwareKey text field) := by
  cases field with
  | name => exact Sql.transCmp_on text.collate fun row : CatalogueRow => text.lower row.entry.name
  | version => exact Sql.transCmp_on text.collate fun row : CatalogueRow => text.lower row.entry.version
  | publisher => exact Sql.transCmp_on text.collate fun row : CatalogueRow => text.lower row.entry.publisher
  | machineCount => exact Sql.transCmp_on compare CatalogueRow.machineCount

/-- `list_software`. -/
def softwareList (search : Option String) (scope : Option Scope) (sortBy : SoftwareSortField)
    (sortDesc : Bool) : Listing where
  Row := CatalogueRow
  rows := catalogue s search scope
  order a b := ((directed sortDesc (softwareKey text sortBy) a b).then
    (text.collate (text.lower a.entry.name) (text.lower b.entry.name))).then
    (text.collate a.entry.version b.entry.version)
  trans := Sql.transCmp_then
    (Sql.transCmp_then (transCmp_directed sortDesc (transCmp_softwareKey sortBy))
      (Sql.transCmp_on text.collate fun row : CatalogueRow => text.lower row.entry.name))
    (Sql.transCmp_on text.collate fun row : CatalogueRow => row.entry.version)
  nodup := by
    refine List.Nodup.filter _ (List.Nodup.of_map CatalogueRow.entry ?_)
    rw [List.map_map]
    exact (List.map_id _).symm ▸ List.nodup_dedup _

/-! ### The machines -/

/-- `MachineSortField`. -/
inductive MachineSortField
  | hostname
  | domain
  | location
  | building
  | room
  | maintenanceDueAt
  | avProductName
  | wuPendingCount
  | sessionUserPresent
  | lastSeen
  | hwModel
  | ramTotalMb
  | diskFreePercent
  | agentVersion
  | usageHours
  deriving DecidableEq, Repr

/-- A poste beside its room, its building, its open request and its seconds in the window, or nulls. -/
structure MachineRow where
  machine : Machine
  room : Option Rooms.Room
  building : Option Rooms.Building
  check : Option Confined.MachineCheck
  seconds : Option ℤ

/-- `seconds_by_machine`: grouped by poste. -/
def secondsByMachine (uptime : Usage.Uptime) (start : Time) : List (Uuid × ℤ) :=
  let window := uptime.filter fun row => start ≤ row.1.2
  (window.map fun row => row.1.1).dedup.map fun id =>
    (id, ((window.filter fun row => row.1.1 = id).map Prod.snd).sum)

/-- The joins of `_filtered_machines`. -/
def machineRows (start : Time) : List MachineRow :=
  let placed := Sql.leftJoin (fun row b => Rooms.buildingOn row.2 b) s.buildings
    (Sql.leftJoin (fun (m : Machine) r => Rooms.roomOn m.toConfined.toMachine r) s.rooms s.machines)
  let checked := Sql.leftJoin
    (fun row c => (Sql.eq (some c.machineId) (some row.1.1.id)).and (some c.closedAt.isNone)) s.checks placed
  let used := Sql.leftJoin (fun row u => Sql.eq (some u.1) (some row.1.1.1.id))
    (secondsByMachine s.uptime start) checked
  used.map fun row => ⟨row.1.1.1.1, row.1.1.1.2, row.1.1.2, row.1.2, row.2.map Prod.snd⟩

section Joins

variable {s : Stored text}

/-- At most one open request for a poste. -/
lemma length_select_open (id : Uuid) :
    (Sql.select (fun c => (Sql.eq (some c.machineId) (some id)).and (some c.closedAt.isNone)) s.checks).length ≤
      1 := by
  have hmem {c : Confined.MachineCheck}
      (hc : c ∈ Sql.select (fun c => (Sql.eq (some c.machineId) (some id)).and (some c.closedAt.isNone)) s.checks) :
      c ∈ s.checks ∧ c.machineId = id ∧ c.closedAt = none := by
    obtain ⟨hc, hclause⟩ := Sql.mem_select.1 hc
    obtain ⟨hid, hopen⟩ := Sql.and_eq_true.1 hclause
    obtain ⟨k, hk, hk'⟩ := Sql.eq_eq_true.1 hid
    exact ⟨hc, (Option.some.inj hk).trans (Option.some.inj hk').symm, by simpa using hopen⟩
  have hnodup := (List.Nodup.of_map Confined.MachineCheck.key s.checkIds).filter fun c =>
    decide ((Sql.eq (some c.machineId) (some id)).and (some c.closedAt.isNone) = some true)
  match hfound : Sql.select (fun c => (Sql.eq (some c.machineId) (some id)).and (some c.closedAt.isNone)) s.checks with
  | [] =>
    rw [hfound]
    exact Nat.zero_le 1
  | [_] =>
    rw [hfound]
    exact Nat.le_refl 1
  | c :: e :: rest =>
    rw [hfound] at hmem
    obtain ⟨hc, hcid, hcopen⟩ := hmem (c := c) (by simp)
    obtain ⟨he, heid, heopen⟩ := hmem (c := e) (by simp)
    have hsame := List.inj_on_of_nodup_map s.checkIds hc he
      (s.checkOpen c hc e he hcopen heopen (hcid.trans heid.symm))
    change (Sql.select _ _).Nodup at hnodup
    rw [hfound, hsame] at hnodup
    simp at hnodup

/-- The sums of the window are one a poste. -/
lemma nodup_seconds (uptime : Usage.Uptime) (start : Time) :
    ((secondsByMachine uptime start).map Prod.fst).Nodup := by
  rw [secondsByMachine, List.map_map]
  exact (List.map_id _).symm ▸ List.nodup_dedup _

/-- **None of the joins multiplies rows**: there is one for each poste. -/
theorem map_machine_machineRows (start : Time) :
    (machineRows s start).map MachineRow.machine = s.machines := by
  have hroom (m : Machine) : (Sql.select (Rooms.roomOn m.toConfined.toMachine) s.rooms).length ≤ 1 :=
    Sql.length_select_key s.roomIds m.roomId
  have hbuilding (room : Option Rooms.Room) : (Sql.select (Rooms.buildingOn room) s.buildings).length ≤ 1 :=
    Sql.length_select_key s.buildingIds (room.bind fun r => r.buildingId)
  have hseconds (id : Uuid) :
      (Sql.select (fun u => Sql.eq (some u.1) (some id)) (secondsByMachine s.uptime start)).length ≤ 1 :=
    Sql.length_select_key (nodup_seconds s.uptime start) (some id)
  have hmachine : (MachineRow.machine ∘ fun row : (((Machine × Option Rooms.Room) × Option Rooms.Building) ×
      Option Confined.MachineCheck) × Option (Uuid × ℤ) =>
        (⟨row.1.1.1.1, row.1.1.1.2, row.1.1.2, row.1.2, row.2.map Prod.snd⟩ : MachineRow)) =
      ((Prod.fst ∘ Prod.fst) ∘ Prod.fst) ∘ Prod.fst := rfl
  rw [machineRows, List.map_map, hmachine, ← List.map_map, Sql.map_fst_leftJoin fun row _ => hseconds row.1.1.1.id,
    ← List.map_map, Sql.map_fst_leftJoin fun row _ => length_select_open row.1.1.id,
    ← List.map_map, Sql.map_fst_leftJoin fun row _ => hbuilding row.2,
    Sql.map_fst_leftJoin fun m _ => hroom m]

end Joins

/-- `usage_hours_expr`: null for a poste enrolled inside the window. -/
def usageHoursExpr (start : Time) (row : MachineRow) : Option ℚ :=
  if row.machine.firstSeen ≤ start then some ((row.seconds.getD 0 : ℚ) / (Usage.secondsPerHour : ℚ)) else none

/-- `disk_free_percent`: null where the volume has no size. -/
def diskFreePercent (row : MachineRow) : Option ℚ := do
  let free ← row.machine.systemVolumeFreeMb
  let total ← row.machine.systemVolumeTotalMb
  if total = 0 then none else some ((free : ℚ) * 100 / (total : ℚ))

/-- `due_expr`, of the row. -/
def dueExpr (policy : MaintenancePolicy) (row : MachineRow) : Option Time :=
  Maintenance.dueExpr policy row.machine.toConfined.upkeep (row.room.map Confined.roomUpkeep)

/-- `_agent_version_rank`: the place of the version among those of the parc, newest first. -/
def agentVersionRank (versions : List String) (row : MachineRow) : Option ℕ :=
  row.machine.agentVersion.bind fun v => versions.reverse.idxOf? v

/-- `ASC` or `DESC`, nulls last either way. -/
def byColumn {κ : Type} (descending : Bool) (cmp : κ → κ → Ordering) (key : MachineRow → Option κ) :
    MachineRow → MachineRow → Ordering :=
  fun a b => Sql.nullsLast (directed descending cmp) (key a) (key b)

/-- `_sort_clause`, by `_sort_key`; with no version on the parc, the column of versions is sorted as it is. -/
def sortClause (text : Text) (policy : MaintenancePolicy) (versions : List String) (start : Time)
    (descending : Bool) : MachineSortField → MachineRow → MachineRow → Ordering
  | .hostname => byColumn descending text.collate fun r => r.machine.hostname.map text.lower
  | .domain => byColumn descending text.collate fun r => r.machine.domain.map text.lower
  | .location => byColumn descending text.collate fun r => r.machine.location.map text.lower
  | .building => byColumn descending text.collate fun r => r.building.map fun b => text.lower b.name
  | .room => byColumn descending text.collate fun r => r.room.map fun q => text.lower q.name
  | .maintenanceDueAt => byColumn descending compare (dueExpr policy)
  | .avProductName => byColumn descending text.collate fun r => r.machine.avProductName.map text.lower
  | .wuPendingCount => byColumn descending compare fun r => r.machine.wuPendingCount
  | .sessionUserPresent => byColumn descending compare fun r => r.machine.sessionUserPresent
  | .lastSeen => byColumn descending compare fun r => some r.machine.lastSeen
  | .hwModel => byColumn descending text.collate fun r => r.machine.hwModel.map text.lower
  | .ramTotalMb => byColumn descending compare fun r => r.machine.ramTotalMb
  | .diskFreePercent => byColumn descending compare diskFreePercent
  | .agentVersion =>
    if versions = [] then byColumn descending text.collate fun r => r.machine.agentVersion
    else byColumn descending compare (agentVersionRank versions)
  | .usageHours => byColumn descending compare (usageHoursExpr start)

lemma transCmp_byColumn {κ : Type} (descending : Bool) (cmp : κ → κ → Ordering) [hcmp : TransCmp cmp]
    (key : MachineRow → Option κ) : TransCmp (byColumn descending cmp key) := by
  have := transCmp_directed descending hcmp
  exact Sql.transCmp_on (Sql.nullsLast (directed descending cmp)) key

lemma transCmp_sortClause (policy : MaintenancePolicy) (versions : List String) (start : Time)
    (descending : Bool) (field : MachineSortField) :
    TransCmp (sortClause text policy versions start descending field) := by
  cases field with
  | agentVersion =>
    simp only [sortClause]
    split
    · exact transCmp_byColumn _ _ _
    · exact transCmp_byColumn _ _ _
  | _ => exact transCmp_byColumn _ _ _

/-- By the last contact, then by id. -/
def contactOrder (a b : MachineRow) : Ordering :=
  (compare b.machine.lastSeen a.machine.lastSeen).then (compare a.machine.id b.machine.id)

lemma transCmp_contactOrder : TransCmp contactOrder :=
  Sql.transCmp_then
    (Sql.transCmp_desc (Sql.transCmp_on compare fun row : MachineRow => row.machine.lastSeen))
    (Sql.transCmp_on compare fun row : MachineRow => row.machine.id)

/-- The `ORDER BY` of `list_machines`. -/
def machineOrder (text : Text) (policy : MaintenancePolicy) (versions : List String) (start : Time)
    (sort : Option (MachineSortField × Bool)) : MachineRow → MachineRow → Ordering :=
  match sort with
  | none => contactOrder
  | some (field, descending) => fun a b =>
    (sortClause text policy versions start descending field a b).then (contactOrder a b)

lemma transCmp_machineOrder (policy : MaintenancePolicy) (versions : List String) (start : Time)
    (sort : Option (MachineSortField × Bool)) : TransCmp (machineOrder text policy versions start sort) := by
  match sort with
  | none => exact transCmp_contactOrder
  | some (field, descending) =>
    exact Sql.transCmp_then (transCmp_sortClause policy versions start descending field) transCmp_contactOrder

/-- `list_machines`, on `_filtered_machines`: the scope, and any `facets` of the joined row. -/
def machineList (scope : Option Scope) (facets : MachineRow → Bool) (start : Time) (versions : List String)
    (sort : Option (MachineSortField × Bool)) : Listing where
  Row := MachineRow
  rows := (machineRows s start).filter fun row =>
    s.db.machineClause scope row.machine.toConfined && facets row
  order := machineOrder text s.policy versions start sort
  trans := transCmp_machineOrder s.policy versions start sort
  nodup := by
    refine List.Nodup.filter _ (List.Nodup.of_map MachineRow.machine ?_)
    rw [map_machine_machineRows]
    exact List.Nodup.of_map _ s.machineIds

/-! ### What a client may ask -/

/-- A list, with its filters and its sort; `start` and `now` are the clock's. -/
inductive ListQuery
  | machines (scope : Option Scope) (facets : MachineRow → Bool) (start : Time) (versions : List String)
    (sort : Option (MachineSortField × Bool))
  | users (search : Option String)
  | threats (scope : Option Scope) (machineId : Option Uuid) (status severity : Option String)
  | commands (now : Time) (scope : Option Scope) (status : Option CommandStatus)
    (machineId packageId : Option Uuid)
  | audit (filters : AuditFilters)
  | software (search : Option String) (scope : Option Scope) (sortBy : SoftwareSortField) (sortDesc : Bool)
  | journal (machineId : Uuid)
  | checks (scope : Option Scope) (openOnly : Bool) (assignedToId : Option Uuid) (unassigned : Bool)
    (machineId : Option Uuid)
  | visits (scope : Option Scope) (roomId machineId : Option Uuid)

def ListQuery.listing : ListQuery → Listing
  | machines scope facets start versions sort => machineList s scope facets start versions sort
  | users search => userList s search
  | threats scope machineId status severity => threatList s scope machineId status severity
  | commands now scope status machineId packageId => commandList s now scope status machineId packageId
  | audit filters => auditList s filters
  | software search scope sortBy sortDesc => softwareList s search scope sortBy sortDesc
  | journal machineId => journalList s machineId
  | checks scope openOnly assignedToId unassigned machineId =>
    checkList s scope openOnly assignedToId unassigned machineId
  | visits scope roomId machineId => visitList s scope roomId machineId

/-- The pages from the first to the last of the total, each of what the database answers to its request, are
the rows. -/
def Listing.ShownOnce (l : Listing) (pageSize : ℕ) : Prop :=
  ∀ answers : ℕ → List l.Row, (∀ page, Sql.Arranged l.order l.rows (answers page)) →
    ((List.range (Sql.pageCount pageSize l.rows.length)).flatMap fun page =>
      (l.answer (answers page) (page + 1) pageSize).1).Perm l.rows

end Queries

end Tiai.Lists
