import Tiai.Inventory.Model
import Tiai.Machine.LowDisk
import Tiai.Machine.WindowsUpdate
import Tiai.Threat.Model
import Tiai.Wol.Packet

/-!
# The body of a heartbeat

`HeartbeatRequest` (`api/routes/agent.py`) with all its blocks, and what their validators leave of each field.  A body
here is one whose fields have their types: every such body is accepted.

* `bounded` — the bounds of the inventory's texts;
* `InventoryBlock.bound` — the inventory, with what the directory says of the poste;
* `Body.validate` — a body.
-/

namespace Tiai.Heartbeats

open Inventory Threats WindowsUpdate
open LowDisk (maxMb boundedInt)

/-- What the validators call: `str.lower`, `str.upper`, and `str(ip_address(value))`, none for its `ValueError`. -/
structure Texts where
  lower : String → String
  upper : String → String
  ipAddress : String → Option String

variable (texts : Texts)

/-! ### The inventory -/

/-- `PATH_MAX`, `HASH_MAX`, `DN_MAX`. -/
def pathMax : ℕ := 400
def hashMax : ℕ := 64
def dnMax : ℕ := 500

/-- `MAX_MEMORY_MODULES`, `MAX_DISKS`, `MAX_VOLUMES`, `MAX_NICS`, `MAX_GPUS`, `MAX_SOFTWARE`. -/
def maxMemoryModules : ℕ := 64
def maxDisks : ℕ := 32
def maxVolumes : ℕ := 64
def maxNics : ℕ := 64
def maxGpus : ℕ := 8
def maxSoftware : ℕ := 2000

/-- `MAX_COUNT`, `MAX_MHZ`, `MAX_MBPS`. -/
def maxCount : ℤ := 4096
def maxMhz : ℤ := 100000
def maxMbps : ℤ := 10000000

/-- `_bounded`. -/
def bounded (value : Option String) (limit : ℕ) : Option String :=
  value.bind fun s => orNone (truncate limit (strip s))

/-- `_bound_prefix`, of an adapter and of the heartbeat. -/
def boundedPrefix (value : Option ℤ) : Option ℤ := value.filter fun n => 1 ≤ n ∧ n ≤ 128

def boundMemoryModule (r : MemoryModuleReport) : MemoryModuleReport where
  slot := truncate textMax (strip r.slot)
  capacityMb := boundedInt r.capacityMb maxMb
  type := bounded r.type textMax
  speedMhz := boundedInt r.speedMhz maxMhz
  manufacturer := bounded r.manufacturer textMax
  serial := bounded r.serial textMax
  formFactor := bounded r.formFactor textMax

def boundDisk (r : DiskReport) : DiskReport where
  deviceId := truncate textMax (strip r.deviceId)
  model := bounded r.model textMax
  serial := bounded r.serial textMax
  firmware := bounded r.firmware textMax
  mediaType := bounded r.mediaType textMax
  busType := bounded r.busType textMax
  sizeMb := boundedInt r.sizeMb maxMb
  healthStatus := bounded r.healthStatus textMax
  isRemovable := r.isRemovable

def boundVolume (r : VolumeReport) : VolumeReport where
  letter := truncate 8 (texts.upper (strip r.letter))
  label := bounded r.label textMax
  filesystem := bounded r.filesystem textMax
  totalMb := boundedInt r.totalMb maxMb
  freeMb := boundedInt r.freeMb maxMb
  isSystem := r.isSystem
  encryptionStatus := bounded r.encryptionStatus textMax

/-- `_known_type`, of an adapter. -/
def nicType (value : String) : String :=
  let normalized := texts.lower (strip value)
  if normalized = "wifi" ∨ normalized = "ethernet" then normalized else "other"

def boundNic (r : NicReport) : NicReport where
  key := truncate textMax (strip r.key)
  name := bounded r.name textMax
  mac := bounded r.mac textMax
  type := nicType texts r.type
  speedMbps := boundedInt r.speedMbps maxMbps
  isUp := r.isUp
  isVirtual := r.isVirtual
  ipAddress := bounded r.ipAddress textMax
  ipPrefixLength := boundedPrefix r.ipPrefixLength
  isDhcp := r.isDhcp
  gateway := bounded r.gateway textMax
  driverVersion := bounded r.driverVersion textMax

def boundGpu (r : GpuReport) : GpuReport where
  name := truncate textMax (strip r.name)
  chipset := bounded r.chipset textMax
  memoryMb := boundedInt r.memoryMb maxMb
  driverVersion := bounded r.driverVersion textMax
  driverDate := r.driverDate
  resolution := bounded r.resolution textMax

def boundSoftware (r : SoftwareReport) : SoftwareReport where
  name := truncate textMax (strip r.name)
  version := truncate textMax (strip r.version)
  publisher := truncate textMax (strip r.publisher)
  installDate := r.installDate
  arch := bounded r.arch textMax
  source := bounded r.source textMax
  installLocation := bounded r.installLocation pathMax

def boundFacts (f : Facts) : Facts where
  hwManufacturer := bounded f.hwManufacturer textMax
  hwModel := bounded f.hwModel textMax
  hwSerial := bounded f.hwSerial textMax
  hwChassisType := bounded f.hwChassisType textMax
  hwIsVirtual := f.hwIsVirtual
  hwHypervisor := bounded f.hwHypervisor textMax
  mbManufacturer := bounded f.mbManufacturer textMax
  mbModel := bounded f.mbModel textMax
  mbSerial := bounded f.mbSerial textMax
  biosVendor := bounded f.biosVendor textMax
  biosVersion := bounded f.biosVersion textMax
  biosDate := f.biosDate
  secureBoot := f.secureBoot
  tpmVersion := bounded f.tpmVersion textMax
  cpuModel := bounded f.cpuModel textMax
  cpuManufacturer := bounded f.cpuManufacturer textMax
  cpuCores := boundedInt f.cpuCores maxCount
  cpuThreads := boundedInt f.cpuThreads maxCount
  cpuSpeedMhz := boundedInt f.cpuSpeedMhz maxMhz
  cpuCount := boundedInt f.cpuCount maxCount
  ramTotalMb := boundedInt f.ramTotalMb maxMb
  ramSlotsTotal := boundedInt f.ramSlotsTotal maxCount
  ramSlotsUsed := boundedInt f.ramSlotsUsed maxCount
  osArchitecture := bounded f.osArchitecture textMax
  osInstallDate := f.osInstallDate
  lastBootTime := f.lastBootTime

def boundReport (r : InventoryReport) : InventoryReport where
  hash := truncate hashMax (strip r.hash)
  facts := boundFacts r.facts
  memoryModules := r.memoryModules.map fun rs => (rs.map boundMemoryModule).take maxMemoryModules
  disks := r.disks.map fun rs => (rs.map boundDisk).take maxDisks
  volumes := r.volumes.map fun rs => (rs.map (boundVolume texts)).take maxVolumes
  nics := r.nics.map fun rs => (rs.map (boundNic texts)).take maxNics
  gpus := r.gpus.map fun rs => (rs.map boundGpu).take maxGpus
  software := r.software.map fun rs => (rs.map boundSoftware).take maxSoftware

/-- A field that is no text is none. -/
structure DirectoryReport where
  distinguishedName : Option String
  ou : Option String
  ouDn : Option String
  adLocation : Option String
deriving DecidableEq

def DirectoryReport.bound (d : DirectoryReport) : DirectoryReport where
  distinguishedName := bounded d.distinguishedName dnMax
  ou := bounded d.ou textMax
  ouDn := bounded d.ouDn dnMax
  adLocation := bounded d.adLocation textMax

structure InventoryBlock where
  report : InventoryReport
  directory : Option DirectoryReport
deriving DecidableEq

def InventoryBlock.bound (b : InventoryBlock) : InventoryBlock :=
  ⟨boundReport texts b.report, b.directory.map DirectoryReport.bound⟩

/-! ### The other blocks -/

structure DefenderState where
  rtpEnabled : Option Bool
  avEnabled : Option Bool
  signatureVersion : Option String
  signatureLastUpdated : Option Time
  signatureAgeDays : Option ℤ
  lastQuickScan : Option Time
  lastFullScan : Option Time
  runningMode : Option String
deriving DecidableEq

def DefenderState.bound (d : DefenderState) : DefenderState :=
  { d with
    signatureVersion := boundText d.signatureVersion textMax
    runningMode := boundText d.runningMode textMax }

/-- `AV_PRODUCT_NAME_MAX`. -/
def avProductNameMax : ℕ := 120

structure AVProduct where
  name : String
  enabled : Option Bool
  signaturesUpToDate : Option Bool
  isDefender : Bool
deriving DecidableEq

def AVProduct.bound (av : AVProduct) : AVProduct := { av with name := truncate avProductNameMax (strip av.name) }

structure SessionState where
  userPresent : Bool
  username : Option String
  state : Option String
  isRemote : Bool
deriving DecidableEq

def SessionState.bound (s : SessionState) : SessionState :=
  { s with
    username := boundText s.username nameMax
    state := boundText s.state nameMax }

/-! ### A body -/

/-- `HeartbeatRequest`; `location` is absent, null, or a text. -/
structure Body where
  hostname : Option String
  domain : Option String
  location : Option (Option String)
  ipAddress : Option String
  macAddress : Option String
  ipPrefixLength : Option ℤ
  osVersion : Option String
  agentVersion : Option String
  defender : Option DefenderState
  avProduct : Option AVProduct
  session : Option SessionState
  windowsUpdate : Option WUStateReport
  inventory : Option InventoryBlock
  fingerprint : Option Fingerprint
  threats : List ThreatReport
  supportsTokenRotation : Bool

/-- A body that says nothing. -/
def Body.empty : Body :=
  ⟨none, none, none, none, none, none, none, none, none, none, none, none, none, none, [], false⟩

/-- The body, its validators run. -/
def Body.validate (b : Body) : Body where
  hostname := boundText b.hostname nameMax
  domain := boundText b.domain nameMax
  location := b.location.map cleanLocation
  ipAddress := b.ipAddress.bind texts.ipAddress
  macAddress := Wol.normalizeMac b.macAddress
  ipPrefixLength := boundedPrefix b.ipPrefixLength
  osVersion := boundText b.osVersion textMax
  agentVersion := boundText b.agentVersion textMax
  defender := b.defender.map DefenderState.bound
  avProduct := b.avProduct.map AVProduct.bound
  session := b.session.map SessionState.bound
  windowsUpdate := b.windowsUpdate.map fun wu => { wu with pending := some (wu.validated texts.lower) }
  inventory := b.inventory.map (InventoryBlock.bound texts)
  fingerprint := b.fingerprint.map Fingerprint.bound
  threats := validated b.threats
  supportsTokenRotation := b.supportsTokenRotation

end Tiai.Heartbeats
