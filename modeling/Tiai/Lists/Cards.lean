import Mathlib
import Tiai.Lists.Model
import Tiai.Machine.AgentVersion
import Tiai.Machine.LowDisk
import Tiai.Machine.Online
import Tiai.Machine.Search
import Tiai.Usage.Accounting

/-!
# The cards of the dashboard

`overview` (`api/routes/stats.py`), and the facets of `_filtered_machines` (`api/routes/machines.py`) with the clauses
of `features/machine/status.py` and `features/usage/crud.py`.  No answer is an error of the database.

* `Fleet`, `Settings` — the tables and the settings that both read;
* `MachineFilters`, `listMachines` — the list of postes, by its facets;
* `overview`, `Figure` — the figures, and the facet that each is counted with;
* `figure_eq_total` — a figure is the total of the list with its facet;
* `softwareCount_eq_total` — and that of the programs, of the catalogue.
-/

namespace Tiai.Lists.Cards

open Lib Lib.Sql
open AgentVersion (Digits latestVersion outdatedVersions)
open Maintenance (MaintenancePolicy MaintenanceState)

/-! ### What is read -/

/-- The columns of `machines` that the facets and the figures read, past those of the list. -/
structure Columns where
  machineUuid : MachineSearch.Text
  ipAddress : Option MachineSearch.Text
  macAddress : Option {s : String // Wol.IsCanonicalMac s}
  osVersion : Option MachineSearch.Text
  hwManufacturer : Option MachineSearch.Text
  cpuModel : Option MachineSearch.Text
  hwChassisType : Option String
  isUpToDate : Option Bool
  needsVerification : Bool
  wuRebootRequired : Bool
  lastQuickScan : Option Time
  lastFullScan : Option Time
  /-- The day, since the epoch. -/
  biosDate : Option ℤ

/-- `Volume`. -/
structure Volume where
  machineId : Uuid
  isSystem : Option Bool
  encryptionStatus : Option String

/-- The tables, with the keys of `Stored`, and the foreign keys to a poste and to an entry of the catalogue. -/
structure Fleet (text : Text) extends Stored text where
  columns : Uuid → Columns
  volumes : List Volume
  threatMachine : ∀ x ∈ threats, x.machineId ∈ machines.map fun m => m.id
  checkMachine : ∀ c ∈ checks, c.machineId ∈ machines.map fun m => m.id
  installedMachine : ∀ l ∈ installed, l.machineId ∈ machines.map fun m => m.id
  installedSoftware : ∀ l ∈ installed, l.softwareId ∈ software.map Software.id

/-- A whole number that a browser holds exactly. -/
abbrev Whole : Type := {n : ℕ // n < 2 ^ 53}

/-- What `policies` makes of the settings, the maintenance apart, and `OFFLINE_AFTER_SECONDS`. -/
structure Settings where
  inactiveAfterDays : ℤ
  lowDiskFreePercent : Whole
  hardwareAgingYears : ℤ
  agentExpectedVersion : Option String
  usageWindowDays : ℤ
  usageLowHours : Whole
  usageHighHours : Whole
  offlineAfterSeconds : ℤ

/-- `timedelta(days=n)`, in microseconds. -/
def dayspan (n : ℤ) : ℤ := n * 86400000000

/-! ### The clauses of a poste -/

inductive MachineStatus
  | upToDate
  | outdated
  | needsVerification
  | inactive
  deriving DecidableEq

inductive WindowsUpdateFilter
  | pending
  | rebootRequired
  deriving DecidableEq

inductive ScanFilter
  | quick
  | full
  | both
  deriving DecidableEq

section Clauses

variable {text : Text} (s : Fleet text)

/-- `status_clause`. -/
def statusClause (status : MachineStatus) (now inactiveAfterDays : ℤ) (m : Machine) : Truth :=
  match status with
  | .upToDate => some ((s.columns m.id).isUpToDate = some true)
  | .outdated => some ((s.columns m.id).isUpToDate ≠ some true)
  | .needsVerification => some (s.columns m.id).needsVerification
  | .inactive => compare (fun x y => x < y) (some m.lastSeen) (some (now - dayspan inactiveAfterDays))

/-- `windows_update_clause`. -/
def windowsUpdateClause (wu : WindowsUpdateFilter) (m : Machine) : Truth :=
  match wu with
  | .pending => compare (fun x y => x > y) m.wuPendingCount (some 0)
  | .rebootRequired => some (s.columns m.id).wuRebootRequired

/-- `agent_outdated_clause`. -/
def agentOutdatedClause (outdated : List String) (value : Bool) (m : Machine) : Truth :=
  if outdated = [] then if value then some false else isNotNull m.agentVersion
  else if value then isIn m.agentVersion (outdated.map some)
  else (isIn m.agentVersion (outdated.map some)).not

/-- `_scan_overdue`. -/
def scanOverdue (column : Option Time) (cutoff : Time) : Truth :=
  Truth.or (some column.isNone) (compare (fun x y => x < y) column (some cutoff))

/-- `scan_clause`. -/
def scanClause (scan : ScanFilter) (cutoff : Time) (m : Machine) : Truth :=
  let quick := scanOverdue (s.columns m.id).lastQuickScan cutoff
  let full := scanOverdue (s.columns m.id).lastFullScan cutoff
  match scan with
  | .quick => quick
  | .full => full
  | .both => quick.and full

/-- `ram_nominal_gb`. -/
def ramNominalGb (m : Machine) : Option ℤ := m.ramTotalMb.map fun mb => ⌈(mb : ℚ) / 1024⌉

/-- `ram_clause`, of its bounds. -/
def ramClause (minGb maxGb : Option ℤ) (m : Machine) : Bool :=
  m.ramTotalMb.isSome && (minGb.all fun gb => compare (fun x y => x ≥ y) (ramNominalGb m) (some gb) = some true) &&
    maxGb.all fun gb => compare (fun x y => x ≤ y) (ramNominalGb m) (some gb) = some true

/-- `aging_hardware_clause`. -/
def agingHardwareClause (now years : ℤ) (m : Machine) : Truth :=
  let cutoff := (now - dayspan (365 * years)) / dayspan 1
  compare (fun x y => x < y) (s.columns m.id).biosDate (some cutoff)

/-- A system volume that is known not to be encrypted. -/
def unencryptedClause (m : Machine) : Truth :=
  some (s.volumes.any fun v => v.machineId = m.id && v.isSystem = some true &&
    ne v.encryptionStatus (some "FullyEncrypted") = some true)

/-- A poste with an active threat. -/
def activeThreatClause (m : Machine) : Truth :=
  some (s.threats.any fun x => x.machineId = m.id && x.status = some "active")

/-- `low_disk_clause`. -/
def lowDiskClause (percent : ℤ) (m : Machine) : Except OutOfRange Truth :=
  LowDisk.lowDiskClause m.systemVolumeFreeMb m.systemVolumeTotalMb percent

/-- `window_start`. -/
def windowStart (now days : ℤ) : Time := Usage.hourStart now - dayspan days

/-- `usage_clause`, of a poste and its seconds in the window, if it has any. -/
def usageClause (start : Time) (hoursBelow hoursAbove : Option ℚ) (m : Machine) (seconds : Option ℤ) : Bool :=
  let secondsOn : ℤ := seconds.getD 0
  (hoursBelow.all fun hours => m.firstSeen ≤ start && (secondsOn : ℚ) < hours * Usage.secondsPerHour) &&
    hoursAbove.all fun hours => (secondsOn : ℚ) > hours * Usage.secondsPerHour

end Clauses

/-! ### The versions of the parc -/

section Versions

variable (py : Digits) {text : Text} (s : Fleet text)

/-- The distinct versions, in the order that the database gives them. -/
def Reported (names : List String) : Prop :=
  names.Perm ((s.machines.filterMap fun m => m.agentVersion).filter fun v => v ≠ "").dedup

structure FleetVersions where
  latest : Option String
  outdated : List String

/-- `fleet_versions`, without its counts. -/
def fleetVersions (agentExpectedVersion : Option String) (names : List String) : FleetVersions :=
  let latest := (agentExpectedVersion.filter fun v => v ≠ "").or (latestVersion py names)
  ⟨latest, outdatedVersions py names latest⟩

end Versions

/-! ### The list, by its facets -/

/-- `MachineFilters`, without the scope. -/
structure MachineFilters extends MachineSearch.MachineFilters where
  domain : Option String
  location : Option String
  roomId : Option Uuid
  buildingId : Option Uuid
  withoutRoom : Option Bool
  locationMismatch : Option Bool
  checkOpen : Option Bool
  maintenanceState : Option MaintenanceState
  status : Option MachineStatus
  online : Option Bool
  wuStatus : Option WindowsUpdateFilter
  scanType : Option ScanFilter
  scanOlderThanDays : ℤ
  withActiveThreats : Option Bool
  hwChassisType : Option String
  ramMinGb : Option ℤ
  ramMaxGb : Option ℤ
  diskFreeBelow : Option ℤ
  softwareId : Option ℤ
  agentVersion : Option String
  agentOutdated : Option Bool
  usageDays : Option ℤ
  usageHoursBelow : Option ℚ
  usageHoursAbove : Option ℚ

/-- No facet. -/
def MachineFilters.all : MachineFilters where
  search := none
  antivirus := none
  osVersion := none
  hwModel := none
  hwManufacturer := none
  cpuModel := none
  domain := none
  location := none
  roomId := none
  buildingId := none
  withoutRoom := none
  locationMismatch := none
  checkOpen := none
  maintenanceState := none
  status := none
  online := none
  wuStatus := none
  scanType := none
  scanOlderThanDays := 7
  withActiveThreats := none
  hwChassisType := none
  ramMinGb := none
  ramMaxGb := none
  diskFreeBelow := none
  softwareId := none
  agentVersion := none
  agentOutdated := none
  usageDays := none
  usageHoursBelow := none
  usageHoursAbove := none

/-- `if … is not None: stmt.where(clause)`. -/
def whereSet {α : Type} (value : Option α) (clause : α → Truth) : Bool := value.all fun v => clause v = some true

/-- `if …: stmt.where(column == value)`, of a text. -/
def whereText (value column : Option String) : Bool :=
  whereSet (value.filter fun v => v ≠ "") fun v => eq column (some v)

/-- A clause, or its negation. -/
def orNot (clause : Truth) (value : Bool) : Truth := if value then clause else clause.not

section List

variable (py : Digits) (locale : MachineSearch.Locale) {text : Text} (s : Fleet text) (settings : Settings)

/-- What the search looks at. -/
def searched (m : Machine) : MachineSearch.Machine where
  hostname := m.hostname.map String.toList
  machineUuid := (s.columns m.id).machineUuid
  ipAddress := (s.columns m.id).ipAddress
  macAddress := (s.columns m.id).macAddress
  avProductName := m.avProductName.map String.toList
  osVersion := (s.columns m.id).osVersion
  hwModel := m.hwModel.map String.toList
  hwManufacturer := (s.columns m.id).hwManufacturer
  cpuModel := (s.columns m.id).cpuModel

/-- `_mismatch_clause`, of the row. -/
def mismatchClause (row : MachineRow) : Truth :=
  Rooms.mismatchClause ⟨row.machine.toConfined.toMachine, row.room, row.building⟩

/-- The facets of `_filtered_machines`, but that of the disk. -/
def MachineFilters.facets (f : MachineFilters) (outdated : List String) (start now : Time) (row : MachineRow) : Bool :=
  let m := row.machine
  usageClause start f.usageHoursBelow f.usageHoursAbove m row.seconds &&
  whereSet f.checkOpen (fun isOpen => some (if isOpen then row.check.isSome else row.check.isNone)) &&
  whereSet f.maintenanceState (fun state =>
    Maintenance.stateClause s.policy m.toConfined.upkeep (row.room.map Confined.roomUpkeep) state now) &&
  whereSet f.roomId (fun id => eq m.roomId (some id)) &&
  whereSet f.buildingId (fun id => eq (row.room.bind fun r => r.buildingId) (some id)) &&
  whereSet (f.withoutRoom.filter id) (fun _ => some m.roomId.isNone) &&
  whereSet f.locationMismatch (orNot (mismatchClause row)) &&
  whereText f.agentVersion m.agentVersion &&
  whereSet f.agentOutdated (fun value => agentOutdatedClause outdated value m) &&
  MachineSearch.selects py locale f.toMachineFilters (searched s m) &&
  whereText f.domain m.domain &&
  whereText f.location m.location &&
  whereText f.hwChassisType (s.columns m.id).hwChassisType &&
  (f.ramMinGb.isNone && f.ramMaxGb.isNone || ramClause f.ramMinGb f.ramMaxGb m) &&
  whereSet f.softwareId (fun id => some (s.installed.any fun l => l.machineId = m.id && (l.softwareId : ℤ) = id)) &&
  whereSet f.status (fun status => statusClause s status now settings.inactiveAfterDays m) &&
  whereSet f.online (fun online => Online.onlineClause online now settings.offlineAfterSeconds m.lastSeen) &&
  whereSet f.wuStatus (fun wu => windowsUpdateClause s wu m) &&
  whereSet f.scanType (fun scan => scanClause s scan (now - dayspan f.scanOlderThanDays) m) &&
  whereSet f.withActiveThreats (orNot (activeThreatClause s m))

/-- The postes that `low_disk_clause` leaves, if it is asked for. -/
def diskKept (diskFreeBelow : Option ℤ) : Option (List Machine) :=
  (diskFreeBelow.elim (.ok s.machines) fun percent => selectChecked (lowDiskClause percent) s.machines).toOption

/-- `list_machines`, before its page. -/
def listMachines (scope : Option Scope) (f : MachineFilters) (names versions : List String) (now : Time)
    (sort : Option (MachineSortField × Bool)) : Option Listing :=
  if MachineSearch.refused f.texts then none else
  (diskKept s f.diskFreeBelow).map fun kept =>
    let start := windowStart now (f.usageDays.getD settings.usageWindowDays)
    let outdated := (fleetVersions py settings.agentExpectedVersion names).outdated
    machineList s.toStored scope
      (fun row => row.machine ∈ kept && f.facets py locale s settings outdated start now row) start versions sort

end List

/-! ### The figures -/

structure StatsOverview where
  total : ℕ
  upToDate : ℕ
  outdated : ℕ
  needsVerification : ℕ
  inactive : ℕ
  withActiveThreats : ℕ
  machinesWuPending : ℕ
  machinesRebootRequired : ℕ
  machinesLowDisk : ℕ
  machinesUnencrypted : ℕ
  machinesAging : ℕ
  softwareCount : ℕ
  lowDiskFreePercent : Whole
  hardwareAgingYears : ℤ
  machinesAgentOutdated : ℕ
  openChecks : ℕ
  machinesMaintenanceOverdue : ℕ
  machinesMaintenanceDueSoon : ℕ
  agentLatestVersion : Option String
  machinesUsageLow : ℕ
  machinesUsageHigh : ℕ
  usageLowHours : Whole
  usageHighHours : Whole
  usageWindowDays : ℤ
  usageSince : Option Time
  deriving DecidableEq

section Overview

variable (py : Digits) {text : Text} (s : Fleet text) (settings : Settings) (scope : Option Scope)

/-- `_count`. -/
def count (clause : Machine → Truth) : ℕ :=
  (select clause (s.machines.filter fun m => s.db.machineClause scope m.toConfined)).length

/-- `machines`, outer-joined with `rooms`. -/
def roomJoined : List (Machine × Option Rooms.Room) :=
  (leftJoin (fun (m : Machine) r => Rooms.roomOn m.toConfined.toMachine r) s.rooms s.machines).filter fun row =>
    s.db.machineClause scope row.1.toConfined

/-- `machines`, outer-joined with `seconds_by_machine`. -/
def secondsJoined (start : Time) : List (Machine × Option (Uuid × ℤ)) :=
  (leftJoin (fun (m : Machine) u => eq (some u.1) (some m.id)) (secondsByMachine s.uptime start) s.machines).filter
    fun row => s.db.machineClause scope row.1.toConfined

def maintenanceCount (state : MaintenanceState) (now : Time) : ℕ :=
  (select (fun row =>
      Maintenance.stateClause s.policy row.1.toConfined.upkeep (row.2.map Confined.roomUpkeep) state now)
    (roomJoined s scope)).length

def usageCount (start : Time) (hoursBelow hoursAbove : Option ℚ) : ℕ :=
  (secondsJoined s scope start).countP fun row => usageClause start hoursBelow hoursAbove row.1 (row.2.map Prod.snd)

/-- `overview`. -/
def overview (names : List String) (now : Time) : Option StatsOverview := do
  let days := settings.inactiveAfterDays
  let lowDisk ← (selectChecked (lowDiskClause settings.lowDiskFreePercent.1) s.machines).toOption
  let fleet := fleetVersions py settings.agentExpectedVersion names
  let total := count s scope fun _ => some true
  let upToDate := count s scope (statusClause s .upToDate now days)
  let usageStart := windowStart now settings.usageWindowDays
  return {
    total := total
    upToDate := upToDate
    outdated := total - upToDate
    needsVerification := count s scope (statusClause s .needsVerification now days)
    inactive := count s scope (statusClause s .inactive now days)
    withActiveThreats := ((s.threats.filter fun x =>
      s.db.machineIdsClause scope x.machineId && x.status = some "active").map Merge.Threat.machineId).dedup.length
    machinesWuPending := count s scope fun m => compare (fun x y => x > y) m.wuPendingCount (some 0)
    machinesRebootRequired := count s scope fun m => some (s.columns m.id).wuRebootRequired
    machinesLowDisk := (lowDisk.filter fun m => s.db.machineClause scope m.toConfined).length
    machinesUnencrypted := count s scope (unencryptedClause s)
    machinesAging := count s scope (agingHardwareClause s now settings.hardwareAgingYears)
    softwareCount := ((s.installed.filter fun l =>
      s.db.machineIdsClause scope l.machineId).map MachineSoftware.softwareId).dedup.length
    lowDiskFreePercent := settings.lowDiskFreePercent
    hardwareAgingYears := settings.hardwareAgingYears
    machinesAgentOutdated := if fleet.outdated = [] then 0 else count s scope (agentOutdatedClause fleet.outdated true)
    openChecks := s.checks.countP fun c => s.db.machineIdsClause scope c.machineId && c.closedAt.isNone
    machinesMaintenanceOverdue := maintenanceCount s scope .overdue now
    machinesMaintenanceDueSoon := maintenanceCount s scope .dueSoon now
    agentLatestVersion := fleet.latest
    machinesUsageLow := usageCount s scope usageStart (some settings.usageLowHours.1) none
    machinesUsageHigh := usageCount s scope usageStart none (some settings.usageHighHours.1)
    usageLowHours := settings.usageLowHours
    usageHighHours := settings.usageHighHours
    usageWindowDays := settings.usageWindowDays
    usageSince := (s.uptime.map fun row => row.1.2).min? }

end Overview

/-! ### The cards -/

/-- The figures that a facet of the list has the postes of. -/
inductive Figure
  | total
  | upToDate
  | outdated
  | needsVerification
  | inactive
  | withActiveThreats
  | wuPending
  | rebootRequired
  | lowDisk
  | agentOutdated
  | openChecks
  | maintenanceOverdue
  | maintenanceDueSoon
  | usageLow
  | usageHigh
  deriving DecidableEq

/-- What the overview says. -/
def Figure.value (o : StatsOverview) : Figure → ℕ
  | total => o.total
  | upToDate => o.upToDate
  | outdated => o.outdated
  | needsVerification => o.needsVerification
  | inactive => o.inactive
  | withActiveThreats => o.withActiveThreats
  | wuPending => o.machinesWuPending
  | rebootRequired => o.machinesRebootRequired
  | lowDisk => o.machinesLowDisk
  | agentOutdated => o.machinesAgentOutdated
  | openChecks => o.openChecks
  | maintenanceOverdue => o.machinesMaintenanceOverdue
  | maintenanceDueSoon => o.machinesMaintenanceDueSoon
  | usageLow => o.machinesUsageLow
  | usageHigh => o.machinesUsageHigh

/-- The facet. -/
def Figure.facet (o : StatsOverview) : Figure → MachineFilters
  | total => .all
  | upToDate => { MachineFilters.all with status := some .upToDate }
  | outdated => { MachineFilters.all with status := some .outdated }
  | needsVerification => { MachineFilters.all with status := some .needsVerification }
  | inactive => { MachineFilters.all with status := some .inactive }
  | withActiveThreats => { MachineFilters.all with withActiveThreats := some true }
  | wuPending => { MachineFilters.all with wuStatus := some .pending }
  | rebootRequired => { MachineFilters.all with wuStatus := some .rebootRequired }
  | lowDisk => { MachineFilters.all with diskFreeBelow := some o.lowDiskFreePercent.1 }
  | agentOutdated => { MachineFilters.all with agentOutdated := some true }
  | openChecks => { MachineFilters.all with checkOpen := some true }
  | maintenanceOverdue => { MachineFilters.all with maintenanceState := some .overdue }
  | maintenanceDueSoon => { MachineFilters.all with maintenanceState := some .dueSoon }
  | usageLow => { MachineFilters.all with usageHoursBelow := some o.usageLowHours.1 }
  | usageHigh => { MachineFilters.all with usageHoursAbove := some o.usageHighHours.1 }

/-! ### One row for a poste -/

section Rows

variable {text : Text} {s : Fleet text}

lemma eq_head_toList {α : Type} {l : List α} (h : l.length ≤ 1) : l = l.head?.toList := by
  match l, h with
  | [], _ => rfl
  | [_], _ => rfl

/-- A join that finds one row at most. -/
lemma leftJoin_eq_head {α β : Type} {on : α → β → Truth} {others : List β} {rows : List α}
    (h : ∀ a, (select (on a) others).length ≤ 1) :
    leftJoin on others rows = rows.map fun a => (a, (select (on a) others).head?) :=
  leftJoin_eq_map (fun a => (select (on a) others).head?) fun a _ => eq_head_toList (h a)

variable (s)

def roomOf (m : Machine) : Option Rooms.Room := (select (Rooms.roomOn m.toConfined.toMachine) s.rooms).head?

def openCheck (m : Machine) : Option Confined.MachineCheck :=
  (select (fun c => (eq (some c.machineId) (some m.id)).and (some c.closedAt.isNone)) s.checks).head?

def secondsOf (start : Time) (m : Machine) : Option ℤ :=
  (select (fun u => eq (some u.1) (some m.id)) (secondsByMachine s.uptime start)).head?.map Prod.snd

/-- The row of a poste in the list. -/
def rowFor (start : Time) (m : Machine) : MachineRow where
  machine := m
  room := roomOf s m
  building := (select (Rooms.buildingOn (roomOf s m)) s.buildings).head?
  check := openCheck s m
  seconds := secondsOf s start m

lemma roomJoined_eq (scope : Option Scope) : roomJoined s scope =
    (s.machines.filter fun m => s.db.machineClause scope m.toConfined).map fun m => (m, roomOf s m) := by
  have hroom (m : Machine) : (select (Rooms.roomOn m.toConfined.toMachine) s.rooms).length ≤ 1 :=
    length_select_key s.roomIds m.roomId
  rw [roomJoined, leftJoin_eq_head hroom, List.filter_map]
  rfl

lemma secondsJoined_eq (scope : Option Scope) (start : Time) :
    (secondsJoined s scope start).map (fun row => (row.1, row.2.map Prod.snd)) =
      (s.machines.filter fun m => s.db.machineClause scope m.toConfined).map fun m => (m, secondsOf s start m) := by
  have hseconds (m : Machine) :
      (select (fun u => eq (some u.1) (some m.id)) (secondsByMachine s.uptime start)).length ≤ 1 :=
    length_select_key (nodup_seconds s.uptime start) (some m.id)
  rw [secondsJoined, leftJoin_eq_head hseconds, List.filter_map, List.map_map]
  rfl

lemma machineRows_eq (start : Time) : machineRows s.toStored start = s.machines.map (rowFor s start) := by
  have hroom (m : Machine) : (select (Rooms.roomOn m.toConfined.toMachine) s.rooms).length ≤ 1 :=
    length_select_key s.roomIds m.roomId
  have hbuilding (row : Machine × Option Rooms.Room) :
      (select (Rooms.buildingOn row.2) s.buildings).length ≤ 1 :=
    length_select_key s.buildingIds (row.2.bind fun r => r.buildingId)
  have hcheck (row : (Machine × Option Rooms.Room) × Option Rooms.Building) :
      (select (fun c => (eq (some c.machineId) (some row.1.1.id)).and (some c.closedAt.isNone)) s.checks).length ≤ 1 :=
    length_select_open row.1.1.id
  have hseconds (row : ((Machine × Option Rooms.Room) × Option Rooms.Building) × Option Confined.MachineCheck) :
      (select (fun u => eq (some u.1) (some row.1.1.1.id)) (secondsByMachine s.uptime start)).length ≤ 1 :=
    length_select_key (nodup_seconds s.uptime start) (some row.1.1.1.id)
  rw [machineRows, leftJoin_eq_head hroom, leftJoin_eq_head hbuilding, leftJoin_eq_head hcheck,
    leftJoin_eq_head hseconds]
  simp only [List.map_map]
  rfl

/-- The total of a list of postes. -/
lemma length_machineList (scope : Option Scope) (facets : MachineRow → Bool) (start : Time) (versions : List String)
    (sort : Option (MachineSortField × Bool)) :
    (machineList s.toStored scope facets start versions sort).rows.length =
      s.machines.countP fun m => s.db.machineClause scope m.toConfined && facets (rowFor s start m) := by
  change (((machineRows s.toStored start).filter _).length) = _
  rw [← List.countP_eq_length_filter, machineRows_eq, List.countP_map]
  rfl

lemma count_eq (scope : Option Scope) (clause : Machine → Truth) : count s scope clause =
    s.machines.countP fun m => s.db.machineClause scope m.toConfined && decide (clause m = some true) := by
  rw [count, select, ← List.countP_eq_length_filter, List.countP_filter]
  exact List.countP_congr fun m _ => by rw [Bool.and_comm]

end Rows

/-! ### What a figure counts -/

section Counted

variable {text : Text} (s : Fleet text) (settings : Settings)

/-- Whether a figure counts a poste, in scope. -/
def Figure.counts (outdatedVersions : List String) (now : Time) (m : Machine) : Figure → Bool
  | total => true
  | upToDate => statusClause s .upToDate now settings.inactiveAfterDays m = some true
  | outdated => statusClause s .outdated now settings.inactiveAfterDays m = some true
  | needsVerification => statusClause s .needsVerification now settings.inactiveAfterDays m = some true
  | inactive => statusClause s .inactive now settings.inactiveAfterDays m = some true
  | withActiveThreats => activeThreatClause s m = some true
  | wuPending => windowsUpdateClause s .pending m = some true
  | rebootRequired => windowsUpdateClause s .rebootRequired m = some true
  | lowDisk => LowDisk.exactClause m.systemVolumeFreeMb m.systemVolumeTotalMb settings.lowDiskFreePercent.1 = some true
  | agentOutdated => agentOutdatedClause outdatedVersions true m = some true
  | openChecks => (openCheck s m).isSome
  | maintenanceOverdue =>
    Maintenance.stateClause s.policy m.toConfined.upkeep ((roomOf s m).map Confined.roomUpkeep) .overdue now = some true
  | maintenanceDueSoon =>
    Maintenance.stateClause s.policy m.toConfined.upkeep ((roomOf s m).map Confined.roomUpkeep) .dueSoon now = some true
  | usageLow => usageClause (windowStart now settings.usageWindowDays) (some settings.usageLowHours.1) none m
      (secondsOf s (windowStart now settings.usageWindowDays) m)
  | usageHigh => usageClause (windowStart now settings.usageWindowDays) none (some settings.usageHighHours.1) m
      (secondsOf s (windowStart now settings.usageWindowDays) m)

/-- The facet of a figure leaves the postes that it counts. -/
lemma facets_facet (py : Digits) (locale : MachineSearch.Locale) {o : StatsOverview} (fig : Figure)
    (hdisk : fig ≠ .lowDisk) (hlow : o.usageLowHours = settings.usageLowHours)
    (hhigh : o.usageHighHours = settings.usageHighHours) (outdated : List String) (now : Time) (m : Machine) :
    (fig.facet o).facets py locale s settings outdated (windowStart now settings.usageWindowDays) now
        (rowFor s (windowStart now settings.usageWindowDays) m) =
      fig.counts s settings outdated now m := by
  cases fig <;>
    simp [Figure.facet, MachineFilters.all, MachineFilters.facets, MachineSearch.selects, MachineSearch.given,
      usageClause, whereSet, whereText, orNot, Figure.counts, rowFor, hlow, hhigh] at hdisk ⊢ <;>
    rfl

variable {s}

/-- Distinct postes, counted by their identifiers. -/
lemma length_eq_countP {ids : List Uuid} (hids : ids.Nodup) {p : Machine → Bool}
    (h : ∀ id, id ∈ ids ↔ ∃ m ∈ s.machines, m.id = id ∧ p m = true) : ids.length = s.machines.countP p := by
  have hperm : ids.Perm ((s.machines.filter p).map fun m => m.id) := by
    refine (List.perm_ext_iff_of_nodup hids ((s.machineIds).sublist (List.filter_sublist.map _))).2 fun id => ?_
    rw [h id, List.mem_map]
    constructor
    · rintro ⟨m, hm, hid, hp⟩
      exact ⟨m, List.mem_filter.2 ⟨hm, hp⟩, hid⟩
    · rintro ⟨m, hm, hid⟩
      exact ⟨m, (List.mem_filter.1 hm).1, hid, (List.mem_filter.1 hm).2⟩
  rw [hperm.length_eq, List.length_map, List.countP_eq_length_filter]

/-- A row of a poste is in scope when its poste is. -/
lemma machineIdsClause_iff {scope : Option Scope} {id : Uuid} (hid : id ∈ s.machines.map fun m => m.id) :
    s.db.machineIdsClause scope id = true ↔
      ∃ m ∈ s.machines, m.id = id ∧ s.db.machineClause scope m.toConfined = true := by
  unfold Confined.Db.machineIdsClause
  cases scope with
  | none =>
    obtain ⟨m, hm, hmid⟩ := List.mem_map.1 hid
    exact iff_of_true rfl ⟨m, hm, hmid, rfl⟩
  | some scope =>
    simp [Tables.db]

/-- Rows that belong to postes: as many postes in scope have one as there are postes among those in scope. -/
lemma distinct_eq_countP {α : Type} (rows : List α) (machineId : α → Uuid) (p : α → Bool) (scope : Option Scope)
    (hrows : ∀ a ∈ rows, machineId a ∈ s.machines.map fun m => m.id) :
    ((rows.filter fun a => s.db.machineIdsClause scope (machineId a) && p a).map machineId).dedup.length =
      s.machines.countP fun m => s.db.machineClause scope m.toConfined &&
        rows.any fun a => machineId a = m.id && p a := by
  refine length_eq_countP (List.nodup_dedup _) fun id => ?_
  simp only [List.mem_dedup, List.mem_map, List.mem_filter, Bool.and_eq_true, List.any_eq_true, decide_eq_true_eq]
  constructor
  · rintro ⟨a, ⟨ha, hscope, hp⟩, rfl⟩
    obtain ⟨m, hm, hid, hclause⟩ := (machineIdsClause_iff (hrows a ha)).1 hscope
    exact ⟨m, hm, hid, hclause, a, ha, hid.symm, hp⟩
  · rintro ⟨m, hm, rfl, hclause, a, ha, hid, hp⟩
    exact ⟨a, ⟨ha, (machineIdsClause_iff (hrows a ha)).2 ⟨m, hm, hid.symm, hclause⟩, hp⟩, hid⟩

lemma isSome_openCheck (m : Machine) : (openCheck s m).isSome =
    s.checks.any fun c => c.machineId = m.id && c.closedAt.isNone := by
  rw [openCheck, select, List.head?_filter, Bool.eq_iff_iff, List.find?_isSome, List.any_eq_true]
  refine exists_congr fun c => and_congr_right fun _ => ?_
  rw [decide_eq_true_eq, and_eq_true, eq_eq_true, Bool.and_eq_true, decide_eq_true_eq]
  constructor
  · rintro ⟨⟨k, hk, hk'⟩, hopen⟩
    exact ⟨(Option.some.inj hk).trans (Option.some.inj hk').symm, Option.some.inj hopen⟩
  · rintro ⟨hid, hopen⟩
    exact ⟨⟨c.machineId, rfl, congrArg some hid.symm⟩, congrArg some hopen⟩

end Counted

/-! ### The versions, in whatever order -/

section Order

variable {py : Digits} {names names' : List String}

lemma mem_outdatedVersions {latest : Option String} {v : String} : v ∈ outdatedVersions py names latest ↔
    v ∈ names ∧ v ≠ "" ∧ ∃ k ∈ latest.map (AgentVersion.versionKey py), AgentVersion.versionKey py v < k := by
  cases latest with
  | none => simp [outdatedVersions]
  | some l => simp [outdatedVersions]

variable (py) in
lemma exists_latestVersion {v : String} (hv : v ∈ names) (hne : v ≠ "" ∧ strip v ≠ "") :
    ∃ l, latestVersion py names = some l := by
  refine Option.ne_none_iff_exists'.1 fun hnone => ?_
  have hbetter : ∀ a b : String, decide (AgentVersion.versionKey py b < AgentVersion.versionKey py a) = true ↔
      OrderDual.toDual (AgentVersion.versionKey py a) < OrderDual.toDual (AgentVersion.versionKey py b) := by
    intro a b
    rw [decide_eq_true_eq, OrderDual.toDual_lt_toDual]
  rw [latestVersion, electBy_eq_argmin hbetter, List.argmin_eq_none] at hnone
  have hcandidate : v ∈ names.filter fun v => v ≠ "" ∧ strip v ≠ "" := List.mem_filter.2 ⟨hv, decide_eq_true hne⟩
  rw [hnone] at hcandidate
  cases hcandidate

/-- One candidate ranks as the other. -/
lemma versionKey_latest_le {l l' : String} (h : ∀ v ∈ names', v ∈ names) (hl : latestVersion py names = some l)
    (hl' : latestVersion py names' = some l') : AgentVersion.versionKey py l' ≤ AgentVersion.versionKey py l := by
  obtain ⟨hmem, hne⟩ := List.mem_filter.1 (AgentVersion.latestVersion_leading hl').1
  exact (AgentVersion.le_latestVersion hl (h l' hmem) (of_decide_eq_true hne).2).2

lemma versionKey_latest_perm (h : names.Perm names') :
    (latestVersion py names).map (AgentVersion.versionKey py) =
      (latestVersion py names').map (AgentVersion.versionKey py) := by
  cases hl : latestVersion py names with
  | none =>
    cases hl' : latestVersion py names' with
    | none => rfl
    | some l' =>
      obtain ⟨hmem, hne⟩ := List.mem_filter.1 (AgentVersion.latestVersion_leading hl').1
      obtain ⟨l, hsome⟩ := exists_latestVersion py (h.mem_iff.2 hmem) (of_decide_eq_true hne)
      rw [hl] at hsome
      cases hsome
  | some l =>
    obtain ⟨hmem, hne⟩ := List.mem_filter.1 (AgentVersion.latestVersion_leading hl).1
    obtain ⟨l', hl'⟩ := exists_latestVersion py (h.mem_iff.1 hmem) (of_decide_eq_true hne)
    rw [hl']
    exact congrArg some (le_antisymm (versionKey_latest_le (fun v => h.mem_iff.1) hl' hl)
      (versionKey_latest_le (fun v => h.mem_iff.2) hl hl'))

/-- The versions that are behind are the same, in whichever order the database gives those of the parc. -/
lemma mem_outdated_iff (expected : Option String) (h : names.Perm names') (v : String) :
    v ∈ (fleetVersions py expected names).outdated ↔ v ∈ (fleetVersions py expected names').outdated := by
  have hkey : ((expected.filter fun v => v ≠ "").or (latestVersion py names)).map (AgentVersion.versionKey py) =
      ((expected.filter fun v => v ≠ "").or (latestVersion py names')).map (AgentVersion.versionKey py) := by
    cases expected.filter fun v => v ≠ "" with
    | none => exact versionKey_latest_perm h
    | some _ => rfl
  rw [fleetVersions, fleetVersions, mem_outdatedVersions, mem_outdatedVersions, hkey, h.mem_iff]

end Order

/-! ### A figure is the total of its list -/

section Totals

variable {text : Text} {s : Fleet text} {settings : Settings} {py : Digits} {scope : Option Scope}

lemma decide_isIn {x : Option String} {values values' : List String} (h : ∀ v, v ∈ values ↔ v ∈ values') :
    decide (isIn x (values.map some) = some true) = decide (isIn x (values'.map some) = some true) := by
  rw [decide_eq_decide, isIn_eq_true, isIn_eq_true]
  simp [h]

/-- What is behind, by the versions that are. -/
lemma agentOutdated_eq (outdated : List String) (m : Machine) :
    decide (agentOutdatedClause outdated true m = some true) =
      decide (isIn m.agentVersion (outdated.map some) = some true) := by
  unfold agentOutdatedClause
  split
  · rename_i hnone
    rw [hnone]
    rfl
  · rfl

lemma counts_congr {outdated outdated' : List String} (h : ∀ v, v ∈ outdated ↔ v ∈ outdated') (fig : Figure)
    (now : Time) (m : Machine) : fig.counts s settings outdated now m = fig.counts s settings outdated' now m := by
  cases fig with
  | agentOutdated =>
    change decide (agentOutdatedClause outdated true m = some true) =
      decide (agentOutdatedClause outdated' true m = some true)
    rw [agentOutdated_eq, agentOutdated_eq, decide_isIn h]
  | _ => rfl

/-- The open requests in scope are those of distinct postes. -/
lemma openChecks_eq : (s.checks.countP fun c => s.db.machineIdsClause scope c.machineId && c.closedAt.isNone) =
    s.machines.countP fun m => s.db.machineClause scope m.toConfined && (openCheck s m).isSome := by
  have hdistinct : ((s.checks.filter fun c =>
      s.db.machineIdsClause scope c.machineId && c.closedAt.isNone).map Confined.MachineCheck.machineId).Nodup := by
    refine List.Nodup.map_on ?_ ((List.Nodup.of_map _ s.checkIds).filter _)
    intro c hc e he hid
    obtain ⟨hc, hcopen⟩ := List.mem_filter.1 hc
    obtain ⟨he, heopen⟩ := List.mem_filter.1 he
    have hsame := s.checkOpen c hc e he (Option.isNone_iff_eq_none.1 (Bool.and_eq_true_iff.1 hcopen).2)
      (Option.isNone_iff_eq_none.1 (Bool.and_eq_true_iff.1 heopen).2) hid
    exact List.inj_on_of_nodup_map s.checkIds hc he hsame
  have hcount := distinct_eq_countP s.checks Confined.MachineCheck.machineId (fun c => c.closedAt.isNone) scope
    s.checkMachine
  rw [hdistinct.dedup, List.length_map, ← List.countP_eq_length_filter] at hcount
  rw [hcount]
  exact List.countP_congr fun m _ => by rw [isSome_openCheck]

lemma maintenanceCount_eq (state : MaintenanceState) (now : Time) : maintenanceCount s scope state now =
    s.machines.countP fun m => s.db.machineClause scope m.toConfined &&
      decide (Maintenance.stateClause s.policy m.toConfined.upkeep ((roomOf s m).map Confined.roomUpkeep) state now =
        some true) := by
  rw [maintenanceCount, select, ← List.countP_eq_length_filter, roomJoined_eq, List.countP_map, List.countP_filter]
  exact List.countP_congr fun m _ => by rw [Bool.and_comm]; rfl

lemma usageCount_eq (start : Time) (hoursBelow hoursAbove : Option ℚ) :
    usageCount s scope start hoursBelow hoursAbove =
      s.machines.countP fun m => s.db.machineClause scope m.toConfined &&
        usageClause start hoursBelow hoursAbove m (secondsOf s start m) := by
  have hmap : usageCount s scope start hoursBelow hoursAbove =
      ((secondsJoined s scope start).map fun row => (row.1, row.2.map Prod.snd)).countP fun row =>
        usageClause start hoursBelow hoursAbove row.1 row.2 := by
    rw [List.countP_map]
    rfl
  rw [hmap, secondsJoined_eq, List.countP_map, List.countP_filter]
  exact List.countP_congr fun m _ => by rw [Bool.and_comm]; rfl

/-- The postes that are low on disk. -/
lemma kept_eq {kept : List Machine} {percent : ℤ} (h : selectChecked (lowDiskClause percent) s.machines = .ok kept) :
    kept = select (fun m => LowDisk.exactClause m.systemVolumeFreeMb m.systemVolumeTotalMb percent) s.machines := by
  have hclause (m : Machine) (truth : Truth) : lowDiskClause percent m = .ok truth ↔
      LowDisk.ProductsFit m.systemVolumeFreeMb m.systemVolumeTotalMb percent ∧
        LowDisk.exactClause m.systemVolumeFreeMb m.systemVolumeTotalMb percent = truth :=
    LowDisk.lowDiskClause_eq_ok_iff
  exact ((selectChecked_eq_ok_iff hclause).1 h).2.symm

lemma mem_kept {kept : List Machine} {percent : ℤ} {m : Machine}
    (h : selectChecked (lowDiskClause percent) s.machines = .ok kept) : m ∈ kept ↔ m ∈ s.machines ∧
      LowDisk.exactClause m.systemVolumeFreeMb m.systemVolumeTotalMb percent = some true := by
  rw [kept_eq h, mem_select]

/-- Those in scope. -/
lemma lowDisk_eq {kept : List Machine} {percent : ℤ} (h : selectChecked (lowDiskClause percent) s.machines = .ok kept) :
    (kept.filter fun m => s.db.machineClause scope m.toConfined).length =
      s.machines.countP fun m => s.db.machineClause scope m.toConfined &&
        decide (LowDisk.exactClause m.systemVolumeFreeMb m.systemVolumeTotalMb percent = some true) := by
  rw [kept_eq h, ← List.countP_eq_length_filter, select, List.countP_filter]

/-- The rest of those in scope. -/
lemma countP_rest {p q : Machine → Bool} (h : ∀ m, q m = !p m) :
    (s.machines.countP fun m => s.db.machineClause scope m.toConfined) -
        (s.machines.countP fun m => s.db.machineClause scope m.toConfined && p m) =
      s.machines.countP fun m => s.db.machineClause scope m.toConfined && q m := by
  have hsplit := List.length_eq_countP_add_countP p (l := s.machines.filter fun m =>
    s.db.machineClause scope m.toConfined)
  rw [← List.countP_eq_length_filter, List.countP_filter, List.countP_filter] at hsplit
  simp only [h, hsplit]
  simp [Bool.and_comm]

lemma ok_of_toOption {α ε : Type} {x : Except ε α} {a : α} (h : x.toOption = some a) : x = .ok a := by
  cases x with
  | error e => cases h
  | ok b => exact congrArg _ (Option.some.inj h)

/-- **What a figure says**: as many postes as it counts. -/
lemma value_eq {names : List String} {now : Time} {o : StatsOverview}
    (h : overview py s settings scope names now = some o) (fig : Figure) :
    fig.value o = s.machines.countP fun m => s.db.machineClause scope m.toConfined &&
      fig.counts s settings (fleetVersions py settings.agentExpectedVersion names).outdated now m := by
  obtain ⟨kept, hkept, h⟩ := Option.bind_eq_some_iff.1 h
  cases h
  cases fig with
  | total =>
    rw [Figure.value, count_eq]
    rfl
  | outdated =>
    have htotal : count s scope (fun _ => some true) =
        s.machines.countP fun m => s.db.machineClause scope m.toConfined := by
      rw [count_eq]
      simp
    change count s scope _ - count s scope _ = _
    rw [htotal, count_eq]
    exact countP_rest fun m => by simp [Figure.counts, statusClause]
  | lowDisk => exact lowDisk_eq (ok_of_toOption hkept)
  | withActiveThreats =>
    rw [Figure.value, distinct_eq_countP s.threats Merge.Threat.machineId (fun x => x.status = some "active") scope
      s.threatMachine]
    exact List.countP_congr fun m _ => by simp [Figure.counts, activeThreatClause]
  | agentOutdated =>
    change (if (fleetVersions py settings.agentExpectedVersion names).outdated = [] then 0 else count s scope _) = _
    split
    · rename_i hnone
      rw [eq_comm, List.countP_eq_zero]
      simp [Figure.counts, agentOutdatedClause, hnone]
    · exact count_eq s scope _
  | openChecks => exact openChecks_eq
  | maintenanceOverdue => exact maintenanceCount_eq .overdue now
  | maintenanceDueSoon => exact maintenanceCount_eq .dueSoon now
  | usageLow => exact usageCount_eq _ _ _
  | usageHigh => exact usageCount_eq _ _ _
  | _ => exact count_eq s scope _

variable (locale : MachineSearch.Locale)

/-- Nothing is searched. -/
lemma refused_facet (o : StatsOverview) (fig : Figure) : MachineSearch.refused (fig.facet o).texts = false := by
  cases fig <;> rfl

/-- **A figure is the total of the list with its facet**, read at the same instant, and in whichever order the
database gives the versions of the parc to each. -/
theorem figure_eq_total {names names' versions : List String} (hnames : names.Perm names') {now : Time}
    {o : StatsOverview} (h : overview py s settings scope names now = some o) (fig : Figure)
    (sort : Option (MachineSortField × Bool)) :
    ∃ l, listMachines py locale s settings scope (fig.facet o) names' versions now sort = some l ∧
      l.rows.length = fig.value o := by
  rw [value_eq h fig]
  obtain ⟨kept, hkept, ho⟩ := Option.bind_eq_some_iff.1 h
  have hsettings : o.lowDiskFreePercent = settings.lowDiskFreePercent ∧ o.usageLowHours = settings.usageLowHours ∧
      o.usageHighHours = settings.usageHighHours := by
    cases ho
    exact ⟨rfl, rfl, rfl⟩
  obtain ⟨hpercent, hlow, hhigh⟩ := hsettings
  have hwindow : (fig.facet o).usageDays.getD settings.usageWindowDays = settings.usageWindowDays := by
    cases fig <;> rfl
  rw [listMachines, refused_facet, if_neg Bool.false_ne_true]
  have hcounts (m : Machine) : fig.counts s settings (fleetVersions py settings.agentExpectedVersion names').outdated
      now m = fig.counts s settings (fleetVersions py settings.agentExpectedVersion names).outdated now m :=
    counts_congr (mem_outdated_iff settings.agentExpectedVersion hnames.symm) fig now m
  by_cases hdisk : fig = .lowDisk
  · subst hdisk
    have hkept' : diskKept s (Figure.lowDisk.facet o).diskFreeBelow = some kept := by
      change (selectChecked (lowDiskClause o.lowDiskFreePercent.1) s.machines).toOption = some kept
      rw [hpercent]
      exact hkept
    refine ⟨_, by rw [hkept']; rfl, ?_⟩
    rw [hwindow, length_machineList]
    refine List.countP_congr fun m hm => ?_
    have hfacets : (Figure.lowDisk.facet o).facets py locale s settings
        (fleetVersions py settings.agentExpectedVersion names').outdated (windowStart now settings.usageWindowDays) now
          (rowFor s (windowStart now settings.usageWindowDays) m) = true :=
      facets_facet s settings py locale .total (by decide) hlow hhigh _ now m
    have hmem : m ∈ kept ↔ Figure.lowDisk.counts s settings
        (fleetVersions py settings.agentExpectedVersion names).outdated now m = true := by
      rw [mem_kept (ok_of_toOption hkept), and_iff_right hm]
      exact (decide_eq_true_iff).symm
    rw [hfacets, Bool.and_true, Bool.and_eq_true, Bool.and_eq_true, decide_eq_true_eq, ← hmem]
    rfl
  · have hall : diskKept s (fig.facet o).diskFreeBelow = some s.machines := by
      cases fig with
      | lowDisk => exact absurd rfl hdisk
      | _ => rfl
    refine ⟨_, by rw [hall]; rfl, ?_⟩
    rw [hwindow, length_machineList]
    refine List.countP_congr fun m hm => ?_
    rw [facets_facet s settings py locale fig hdisk hlow hhigh, hcounts]
    simp [rowFor, hm]

end Totals

/-! ### The catalogue -/

section Catalogue

variable {text : Text} {s : Fleet text} {scope : Option Scope}

/-- A link of an entry, in scope. -/
lemma on_link {e : Software} {l : MachineSoftware} :
    (eq (some l.softwareId) (some e.id)).and (some (s.db.machineIdsClause scope l.machineId)) = some true ↔
      l.softwareId = e.id ∧ s.db.machineIdsClause scope l.machineId = true := by
  rw [and_eq_true, eq_eq_true]
  constructor
  · rintro ⟨⟨k, hk, hk'⟩, hscope⟩
    exact ⟨(Option.some.inj hk).trans (Option.some.inj hk').symm, Option.some.inj hscope⟩
  · rintro ⟨hid, hscope⟩
    exact ⟨⟨l.softwareId, rfl, congrArg some hid.symm⟩, congrArg some hscope⟩

/-- The entries of the catalogue: those that somebody in scope carries. -/
lemma mem_catalogue {e : Software} : e ∈ (catalogue s.toStored none scope).map CatalogueRow.entry ↔
    e ∈ s.software ∧ ∃ l ∈ s.installed, l.softwareId = e.id ∧ s.db.machineIdsClause scope l.machineId = true := by
  have hfound : (installedRows s.toStored scope).filter (fun row => Lists.given none fun v =>
      contains text v (some row.1.name) || contains text v (some row.1.publisher)) = installedRows s.toStored scope :=
    List.filter_eq_self.2 fun _ _ => rfl
  have hrow (e : Software) : 0 < installedCount (installedRows s.toStored scope) e ↔
      e ∈ s.software ∧ ∃ l ∈ s.installed, l.softwareId = e.id ∧ s.db.machineIdsClause scope l.machineId = true := by
    rw [installedCount, List.countP_pos_iff]
    constructor
    · rintro ⟨⟨e', link⟩, hmem, hrow⟩
      obtain ⟨he, hlink⟩ := Bool.and_eq_true_iff.1 hrow
      obtain rfl : e' = e := of_decide_eq_true he
      obtain ⟨he', hjoined⟩ := mem_leftJoin.1 hmem
      rcases hjoined with ⟨l, hl, hon, -⟩ | ⟨-, rfl⟩
      · exact ⟨he', l, hl, on_link.1 hon⟩
      · cases hlink
    · rintro ⟨he, l, hl, hon⟩
      exact ⟨(e, some l), mem_leftJoin.2 ⟨he, .inl ⟨l, hl, on_link.2 hon, rfl⟩⟩, by simp⟩
  rw [catalogue, hfound]
  simp only [List.mem_map, List.mem_filter, List.mem_dedup, decide_eq_true_eq]
  constructor
  · rintro ⟨row, ⟨⟨e', -, rfl⟩, hpos⟩, rfl⟩
    exact (hrow e').1 hpos
  · intro h
    have hpos := (hrow e).2 h
    obtain ⟨row, hmem, hp⟩ := List.countP_pos_iff.1 hpos
    have he : row.1 = e := of_decide_eq_true (Bool.and_eq_true_iff.1 hp).1
    exact ⟨_, ⟨⟨e, ⟨row, hmem, he⟩, rfl⟩, hpos⟩, rfl⟩

/-- **The catalogue has the programs of the card.** -/
theorem softwareCount_eq_total {settings : Settings} {py : Digits} {names : List String} {now : Time}
    {o : StatsOverview} (h : overview py s settings scope names now = some o) (sortBy : SoftwareSortField)
    (sortDesc : Bool) : (softwareList s.toStored none scope sortBy sortDesc).rows.length = o.softwareCount := by
  obtain ⟨kept, -, h⟩ := Option.bind_eq_some_iff.1 h
  cases h
  change (catalogue s.toStored none scope).length = List.length (List.dedup _)
  have hentries : ((catalogue s.toStored none scope).map CatalogueRow.entry).Nodup := by
    rw [catalogue]
    refine List.Nodup.sublist (List.filter_sublist.map _) ?_
    rw [List.map_map]
    exact (List.map_id _).symm ▸ List.nodup_dedup _
  have hids : (((catalogue s.toStored none scope).map CatalogueRow.entry).map Software.id).Nodup :=
    hentries.map_on fun e he e' he' => List.inj_on_of_nodup_map s.softwareIds (mem_catalogue.1 he).1
      (mem_catalogue.1 he').1
  have hperm : (((catalogue s.toStored none scope).map CatalogueRow.entry).map Software.id).Perm
      ((s.installed.filter fun l => s.db.machineIdsClause scope l.machineId).map MachineSoftware.softwareId).dedup := by
    refine (List.perm_ext_iff_of_nodup hids (List.nodup_dedup _)).2 fun id => ?_
    rw [List.mem_map, List.mem_dedup, List.mem_map]
    constructor
    · rintro ⟨e, he, rfl⟩
      obtain ⟨-, l, hl, hid, hscope⟩ := mem_catalogue.1 he
      exact ⟨l, List.mem_filter.2 ⟨hl, hscope⟩, hid⟩
    · rintro ⟨l, hl, rfl⟩
      obtain ⟨hl, hscope⟩ := List.mem_filter.1 hl
      obtain ⟨e, he, hid⟩ := List.mem_map.1 (s.installedSoftware l hl)
      exact ⟨e, mem_catalogue.2 ⟨he, l, hl, hid.symm, hscope⟩, hid⟩
  rw [← hperm.length_eq, List.length_map, List.length_map]

end Catalogue

end Tiai.Lists.Cards
