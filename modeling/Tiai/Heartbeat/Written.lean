import Tiai.Heartbeat.Body
import Tiai.Lib.Columns
import Tiai.Room.Directory
import Tiai.Usage.Accounting

/-!
# What a heartbeat writes

`heartbeat` (`api/routes/agent.py`) as the statements it sends, each with its values and the columns they go to.  Of
what is stored, only what decides what is written is here.  The commands it hands out and the wakes it closes are
written with times, identifiers and constants, and are left out.

* `replacePending`, `applyInventory`, `placeFromDirectory`, `record`, `upsertThreats`, `queueThreatAlert` — the
  statements, in their order;
* `machineCells` — the columns of the machine;
* `heartbeat` — the transaction.
-/

namespace Tiai.Heartbeats

open Inventory Threats WindowsUpdate Lib.Sql

/-! ### What is stored -/

/-- The poste, and the tables of the places. -/
structure Stored where
  tables : Rooms.Tables
  machine : Rooms.Machine
  legal : tables.Legal
  known : machine ∈ tables.machines
  machineUuid : Text
  hostname : Option Text
  domain : Option Text
  ipAddress : Option Text
  sessionUsername : Option Text
  inventoryHash : Option String
  lastSeen : Time
  /-- The detections it has reported before. -/
  detections : List String

/-- What an alert is written with, and to whom: nobody, where mail is off. -/
structure Alerts where
  projectName : Text
  consoleBaseUrl : Option Text
  /-- `str(machine.id)`. -/
  machineId : Text
  maxItems : ℕ
  maxAgeHours : ℕ
  recipients : List Text
  /-- `strftime`. -/
  strftime : Time → Text

/-- The server, and the token it would offer. -/
structure Context where
  texts : Texts
  source : Rooms.RoomSource
  uuid4 : Rooms.Uuid4
  offlineAfterSeconds : ℕ
  alerts : Alerts
  now : Time
  /-- The hash of the token, where one is due. -/
  offered : Option Text

/-! ### The sets -/

/-- A row of a child table. -/
def childCells {δ : Type} (cells : δ → List Cell) (r : Child δ) : List Cell :=
  .plain "machine_id" :: .plain "first_seen" :: .plain "last_seen" :: cells r.data

/-- The rows of `_replace_set`. -/
def kept {δ : Type} (key : δ → String) (machineId : Uuid) (now : Time) (reports : List δ) : List (Child δ) :=
  Inventory.deduped key nonEmpty (reports.map (stamped machineId now))

/-- `_replace_set`, of a list that was read. -/
def replaceSetOf {δ : Type} (constraint : String) (key : δ → String) (cells : δ → List Cell) (machineId : Uuid)
    (now : Time) (reports : Option (List δ)) : Except Failure Unit :=
  match reports with
  | none => .ok ()
  | some reports =>
    upsertRows constraint (Child.identity key) (childCells cells) (kept key machineId now reports)

def updateCells (u : PendingUpdate) : List Cell :=
  [.text "update_id" (some u.updateId), .text "kb" u.kb, .text "title" (some u.title), .text "severity" u.severity,
    .text "type" (some u.type), .text "categories" u.categories, .plain "is_downloaded", .plain "size_mb"]

def memoryModuleCells (r : MemoryModuleReport) : List Cell :=
  [.text "slot" (some r.slot), .integer "capacity_mb" r.capacityMb, .text "type" r.type,
    .integer "speed_mhz" r.speedMhz, .text "manufacturer" r.manufacturer, .text "serial" r.serial, .text "form_factor" r.formFactor]

def diskCells (r : DiskReport) : List Cell :=
  [.text "device_id" (some r.deviceId), .text "model" r.model, .text "serial" r.serial, .text "firmware" r.firmware,
    .text "media_type" r.mediaType, .text "bus_type" r.busType, .integer "size_mb" r.sizeMb,
    .text "health_status" r.healthStatus, .plain "is_removable"]

def volumeCells (r : VolumeReport) : List Cell :=
  [.text "letter" (some r.letter), .text "label" r.label, .text "filesystem" r.filesystem,
    .integer "total_mb" r.totalMb, .integer "free_mb" r.freeMb, .plain "is_system", .text "encryption_status" r.encryptionStatus]

def nicCells (r : NicReport) : List Cell :=
  [.text "key" (some r.key), .text "name" r.name, .text "mac" r.mac, .text "type" (some r.type),
    .integer "speed_mbps" r.speedMbps, .plain "is_up", .plain "is_virtual", .text "ip_address" r.ipAddress,
    .integer "ip_prefix_length" r.ipPrefixLength, .plain "is_dhcp", .text "gateway" r.gateway,
    .text "driver_version" r.driverVersion]

def gpuCells (r : GpuReport) : List Cell :=
  [.text "name" (some r.name), .text "chipset" r.chipset, .integer "memory_mb" r.memoryMb,
    .text "driver_version" r.driverVersion, .plain "driver_date", .text "resolution" r.resolution]

/-- `replace_pending`, and the count of what is pending then. -/
def replacePending (machineId : Uuid) (now : Time) (wu : WUStateReport) : Except Failure Unit :=
  upsertRows "uq_windows_updates_machine_update" (Child.identity PendingUpdate.updateId) (childCells updateCells)
    (pendingRows machineId now (wu.pending.getD []))

/-- A row of the catalogue. -/
def softwareCells (t : Triple) : List Cell :=
  [.text "name" (some t.1), .text "version" (some t.2.1), .text "publisher" (some t.2.2), .plain "first_seen"]

/-- A link to the catalogue; the program's identifier is of its triple. -/
def linkCells (r : SoftwareReport) : List Cell :=
  [.plain "software_id", .plain "install_date", .text "arch" r.arch, .text "source" r.source,
    .text "install_location" r.installLocation]

/-- The links of `replace_software`. -/
def keptSoftware (machineId : Uuid) (now : Time) (reports : List SoftwareReport) : List (Child SoftwareReport) :=
  Inventory.deduped SoftwareReport.triple (fun t => nonEmpty t.1) (reports.map (stamped machineId now))

/-- `replace_software`. -/
def replaceSoftware (machineId : Uuid) (now : Time) (reports : Option (List SoftwareReport)) : Except Failure Unit :=
  match reports with
  | none => .ok ()
  | some reports => do
    upsertRows "uq_software_identity" id softwareCells (namedTriples reports)
    upsertRows "uq_machine_software_identity" (Child.identity SoftwareReport.triple) (childCells linkCells)
      (keptSoftware machineId now reports)

/-- The tables of `apply_inventory`. -/
def applyInventory (machineId : Uuid) (now : Time) (r : InventoryReport) : Except Failure Unit := do
  replaceSetOf "uq_inv_memory_machine_slot" MemoryModuleReport.slot memoryModuleCells machineId now r.memoryModules
  replaceSetOf "uq_inv_disks_machine_device" DiskReport.deviceId diskCells machineId now r.disks
  replaceSetOf "uq_inv_volumes_machine_letter" VolumeReport.letter volumeCells machineId now r.volumes
  replaceSetOf "uq_inv_nics_machine_key" NicReport.key nicCells machineId now r.nics
  replaceSetOf "uq_inv_gpus_machine_name" GpuReport.name gpuCells machineId now r.gpus
  replaceSoftware machineId now r.software

/-! ### The room -/

/-- The machine, with what its directory says. -/
def DirectoryReport.on (d : DirectoryReport) (machine : Rooms.Machine) : Rooms.Machine :=
  { machine with
    adDistinguishedName := d.distinguishedName
    adOu := d.ou
    adOuDn := d.ouDn
    adLocation := d.adLocation }

/-- The name of the room that is created for a key, where none has it and none is adopted. -/
def createdName (t : Rooms.Tables) (key name : String) : Option String :=
  match t.rooms.find? (·.adKey = some key) with
  | some _ => none
  | none =>
    match (Rooms.roomByName t none name).filter (·.adKey = none) with
    | some _ => none
    | none => some (Rooms.freeName t name)

/-- The row of `rooms` that `room_for_key` writes. -/
def roomCells (t : Rooms.Tables) (key name : String) : List Cell :=
  match createdName t key name with
  | some created => [.plain "id", .varchar "name" 100 (some created), .varchar "ad_key" 500 (some key),
      .varchar "location" 120 none, .integer "maintenance_cycle_days" none, .varchar "notes" 2000 none]
  | none => if t.rooms.any (·.adKey = some key) then [] else [.varchar "ad_key" 500 (some key), .plain "updated_at"]

/-- `place_from_directory`: the tables, in legal tables as `Rooms.placeFromDirectory` leaves them. -/
def placeFromDirectory (ctx : Context) (t : Rooms.Tables) (machine : Rooms.Machine) : Except Failure Rooms.Tables :=
  if ctx.source = .manual then .ok t
  else do
    match Rooms.directoryKey machine ctx.source with
    | none => .ok ()
    | some (key, name) => accept (roomCells t key name)
    match Rooms.placeFromDirectory ctx.source ctx.uuid4 ctx.now t machine with
    | .ok (t', _) => .ok t'
    | .error _ => .error (.conflict "rooms")

/-- The directory block. -/
def applyDirectory (ctx : Context) (s : Stored) (directory : Option DirectoryReport) : Except Failure Rooms.Tables :=
  match directory with
  | none => .ok s.tables
  | some d => placeFromDirectory ctx (s.tables.writeMachine (d.on s.machine)) (d.on s.machine)

/-! ### Usage, detections, alert -/

def creditCells (c : ℤ × ℤ) : List Cell := [.plain "machine_id", .plain "hour", .integer "seconds_on" (some c.2)]

/-- `record`, of what the gap is worth. -/
def record (ctx : Context) (s : Stored) : Except Failure Unit :=
  upsertRows "machine_uptime" Prod.fst creditCells
    ((Usage.creditForGap s.lastSeen ctx.now ctx.offlineAfterSeconds).getD [])

/-- The texts of a detection. -/
def threatTexts (r : ThreatReport) : List (Option String) :=
  [r.detectionId, r.threatName, r.severity, r.category, r.status, r.actionTaken]

def threatCells (r : ThreatReport) : List Cell :=
  [.text "detection_id" r.detectionId, .text "threat_name" r.threatName, .text "severity" r.severity,
    .text "category" r.category, .text "status" r.status, .text "action_taken" r.actionTaken, .plain "detected_at",
    ⟨"raw", .jsonb, .json ((threatTexts r).filterMap id) r.extra⟩]

def upsertThreats (reports : List ThreatReport) : Except Failure Unit :=
  upsertRows "uq_threats_machine_detection" ThreatReport.detectionId threatCells (Threats.deduped reports)

/-- `new_detections`. -/
def newDetections (s : Stored) (reports : List ThreatReport) : List ThreatReport :=
  (Threats.deduped reports).filter fun r => r.detectionId.all (· ∉ s.detections)

/-- `recent_detections`. -/
def recentDetections (ctx : Context) (rs : List ThreatReport) : List ThreatReport :=
  rs.filter fun r => r.detectedAt.all (ctx.now - minutes (60 * ctx.alerts.maxAgeHours) ≤ ·)

/-- `a or b`. -/
def orText (a : Option String) (b : String) : String := (a.filter (· ≠ "")).getD b

/-- What an alert says of the machine. -/
structure MachineContext where
  machineUuid : String
  hostname : Option String
  domain : Option String
  ipAddress : Option String
  sessionUsername : Option String

/-- `MachineContext.of`, once the body is on the machine. -/
def machineContext (s : Stored) (b : Body) : MachineContext where
  machineUuid := s.machineUuid.1
  hostname := b.hostname.or (s.hostname.map Subtype.val)
  domain := b.domain.or (s.domain.map Subtype.val)
  ipAddress := b.ipAddress.or (s.ipAddress.map Subtype.val)
  sessionUsername := (b.session.map SessionState.username).getD (s.sessionUsername.map Subtype.val)

/-- The line of a detection. -/
def detectionLine (alerts : Alerts) (r : ThreatReport) : String :=
  let parts := [orText r.threatName "menace non nommée"] ++
    ((r.severity.filter (· ≠ "")).map ("sévérité " ++ ·)).toList ++
    ((r.status.filter (· ≠ "")).map ("statut " ++ ·)).toList ++
    (r.detectedAt.map fun t => "détectée le " ++ (alerts.strftime t).1).toList
  "  • " ++ " — ".intercalate parts

/-- `render_alert`. -/
def renderAlert (alerts : Alerts) (m : MachineContext) (rs : List ThreatReport) : String × String :=
  let name := orText m.hostname m.machineUuid
  let count := rs.length
  let subject :=
    if count = 1 then alerts.projectName.1 ++ " — menace détectée sur " ++ name
    else alerts.projectName.1 ++ " — " ++ count.repr ++ " menaces détectées sur " ++ name
  let lines :=
    ["Microsoft Defender a signalé " ++ count.repr ++ " détection(s) sur le poste " ++ name ++ ".", ""] ++
    (rs.take alerts.maxItems).map (detectionLine alerts) ++
    (if count > alerts.maxItems then ["  … et " ++ (count - alerts.maxItems).repr ++ " autre(s) détection(s)"]
      else []) ++
    ["", "Poste : " ++ name, "UUID : " ++ m.machineUuid, "Domaine : " ++ orText m.domain "—",
      "Adresse IP : " ++ orText m.ipAddress "—", "Session ouverte : " ++ orText m.sessionUsername "—", ""] ++
    (match alerts.consoleBaseUrl with
      | some base => ["Ouvrir la fiche du poste : " ++ base.1 ++ "/machines/" ++ alerts.machineId.1, ""]
      | none => []) ++
    ["Vous recevez ce message parce que votre " ++ "compte est réglé sur les alertes immédiates. " ++
      "Changez-le dans la console, page « Mon compte »."]
  (subject, "\n".intercalate lines)

def outboxCells (mail : String × String) (address : Text) : List Cell :=
  [.text "to_address" (some address.1), .text "subject" (some mail.1), .text "body" (some mail.2),
    .text "status" (some "pending"), .integer "attempts" (some 0), .text "last_error" none]

/-- `queue_threat_alert`. -/
def queueThreatAlert (ctx : Context) (s : Stored) (b : Body) : Except Failure Unit :=
  let fresh := recentDetections ctx (newDetections s b.threats)
  if fresh = [] then .ok ()
  else accept (ctx.alerts.recipients.flatMap (outboxCells (renderAlert ctx.alerts (machineContext s b) fresh)))

/-! ### The machine -/

/-- A column that is written where there is a value. -/
def given (cell : Option String → Cell) (value : Option String) : List Cell :=
  if value.isSome then [cell value] else []

def attributeCells (b : Body) : List Cell :=
  given (.text "hostname") b.hostname ++ given (.text "domain") b.domain ++
    (b.location.map (Cell.text "location")).toList ++ given (.text "ip_address") b.ipAddress ++
    given (.text "mac_address") b.macAddress ++
    (b.ipPrefixLength.map fun n => Cell.integer "ip_prefix_length" (some n)).toList ++
    given (.text "os_version") b.osVersion ++ given (.text "agent_version") b.agentVersion

def defenderCells (d : DefenderState) : List Cell :=
  [.plain "rtp_enabled", .plain "av_enabled", .text "signature_version" d.signatureVersion,
    .plain "signature_last_updated", .integer "signature_age_days" d.signatureAgeDays, .plain "last_quick_scan",
    .plain "last_full_scan", .text "running_mode" d.runningMode, .plain "is_up_to_date"]

def avProductCells (av : AVProduct) : List Cell :=
  [.text "av_product_name" (some av.name), .plain "av_product_enabled", .plain "av_product_signatures_up_to_date",
    .plain "av_product_is_defender", .plain "is_up_to_date"]

def sessionCells (s : SessionState) : List Cell :=
  [.plain "session_user_present", .text "session_username" s.username, .text "session_state" s.state,
    .plain "session_is_remote"]

def wuCells (machineId : Uuid) (now : Time) (wu : WUStateReport) : List Cell :=
  [.plain "wu_reboot_required", .plain "wu_last_search", .plain "wu_last_install",
    .integer "wu_pending_count" (some (pendingRows machineId now (wu.pending.getD [])).length)]

def factsCells (f : Facts) : List Cell :=
  [.text "hw_manufacturer" f.hwManufacturer, .text "hw_model" f.hwModel, .text "hw_serial" f.hwSerial,
    .text "hw_chassis_type" f.hwChassisType, .plain "hw_is_virtual", .text "hw_hypervisor" f.hwHypervisor,
    .text "mb_manufacturer" f.mbManufacturer, .text "mb_model" f.mbModel, .text "mb_serial" f.mbSerial,
    .text "bios_vendor" f.biosVendor, .text "bios_version" f.biosVersion, .plain "bios_date", .plain "secure_boot",
    .text "tpm_version" f.tpmVersion, .text "cpu_model" f.cpuModel, .text "cpu_manufacturer" f.cpuManufacturer,
    .integer "cpu_cores" f.cpuCores, .integer "cpu_threads" f.cpuThreads, .integer "cpu_speed_mhz" f.cpuSpeedMhz,
    .integer "cpu_count" f.cpuCount, .integer "ram_total_mb" f.ramTotalMb, .integer "ram_slots_total" f.ramSlotsTotal,
    .integer "ram_slots_used" f.ramSlotsUsed, .text "os_architecture" f.osArchitecture, .plain "os_install_date",
    .plain "last_boot_time"]

/-- The figures of the system volume, where the volumes were read. -/
def systemVolumeCells (volumes : Option (List VolumeReport)) : List Cell :=
  match volumes with
  | none => []
  | some volumes =>
    let system := volumes.find? VolumeReport.isSystem
    [.integer "system_volume_total_mb" (system.bind VolumeReport.totalMb),
      .integer "system_volume_free_mb" (system.bind VolumeReport.freeMb)]

/-- The hash is the one that is stored. -/
def isUnchanged (s : Stored) (r : InventoryReport) : Bool := r.hash ≠ "" && s.inventoryHash = some r.hash

def inventoryCells (s : Stored) (r : InventoryReport) : List Cell :=
  if isUnchanged s r then [.plain "inventory_last_seen"]
  else factsCells r.facts ++ systemVolumeCells r.volumes ++
    [.text "inventory_hash" (orNone r.hash), .plain "inventory_last_seen"]

def directoryCells (d : DirectoryReport) : List Cell :=
  [.text "ad_distinguished_name" d.distinguishedName, .text "ad_ou" d.ou, .text "ad_ou_dn" d.ouDn,
    .text "ad_location" d.adLocation, .plain "room_id"]

def fingerprintCells (fp : Fingerprint) : List Cell :=
  .plain "needs_verification" :: (given (.text "machine_guid") fp.machineGuid ++
    given (.text "smbios_uuid") fp.smbiosUuid ++ given (.text "tpm_ek_hash") fp.tpmEkHash)

/-- The columns of the machine that the heartbeat sets. -/
def machineCells (ctx : Context) (s : Stored) (b : Body) : List Cell :=
  attributeCells b ++ b.defender.toList.flatMap defenderCells ++ b.avProduct.toList.flatMap avProductCells ++
    b.session.toList.flatMap sessionCells ++ b.windowsUpdate.toList.flatMap (wuCells s.machine.id ctx.now) ++
    b.inventory.toList.flatMap (fun inv =>
      inventoryCells s inv.report ++ inv.directory.toList.flatMap directoryCells) ++
    b.fingerprint.toList.flatMap fingerprintCells ++ [.plain "last_seen", .plain "updated_at"] ++
    given (.text "pending_token_hash") (if b.supportsTokenRotation then ctx.offered.map Subtype.val else none)

/-! ### The transaction -/

/-- The inventory block. -/
def storeInventory (ctx : Context) (s : Stored) (inventory : Option InventoryBlock) : Except Failure Rooms.Tables :=
  match inventory with
  | none => .ok s.tables
  | some inv => do
    if isUnchanged s inv.report then .ok () else applyInventory s.machine.id ctx.now inv.report
    applyDirectory ctx s inv.directory

/-- `heartbeat`, of a body whose validators are run: the tables of the places, once it commits. -/
def handle (ctx : Context) (s : Stored) (b : Body) : Except Failure Rooms.Tables := do
  match b.windowsUpdate with
  | none => .ok ()
  | some wu => replacePending s.machine.id ctx.now wu
  let tables ← storeInventory ctx s b.inventory
  record ctx s
  upsertThreats b.threats
  queueThreatAlert ctx s b
  accept (machineCells ctx s b)
  return tables

def heartbeat (ctx : Context) (s : Stored) (body : Body) : Except Failure Rooms.Tables :=
  handle ctx s (body.validate ctx.texts)

end Tiai.Heartbeats
