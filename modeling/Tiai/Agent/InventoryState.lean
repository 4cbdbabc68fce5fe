import Mathlib
import Tiai.Deploy.Manifest
import Tiai.Lib.Calendar
import Tiai.Lib.Json
import Tiai.Lib.Sha256
import Tiai.Lib.SortSlice
import Tiai.Lib.Utf8

/-!
# The inventory that is hashed

`models.InventoryState` (`internal/models/models.go`) and `InventoryHash` (`internal/collector/inventory.go`): the lists
are sorted, and what is hashed is the JSON text of the whole, with no hash in it.

* `MemoryModule.json`, … — what `json.Marshal` makes of each entry;
* `InventoryState.json` — and of the whole; a time that has no text is an error;
* `sortInventory`, `inventoryHash` — the order, and the hash.
-/

namespace Tiai.Collector

open Lib Utf8

/-! ### Values -/

/-- Strings are compared by their bytes. -/
scoped instance byteOrder : LinearOrder UInt8 where
  le_refl := UInt8.le_refl
  le_trans _ _ _ := UInt8.le_trans
  le_antisymm _ _ := UInt8.le_antisymm
  le_total := UInt8.le_total
  lt_iff_le_not_ge a b := by
    rw [UInt8.not_le]
    exact ⟨fun h => ⟨UInt8.le_of_lt h, h⟩, And.right⟩
  toDecidableLE := inferInstance

/-- What is written of a string: its characters, and no more than that of a byte that is none. -/
def written (s : Bytes) : List (Option Char) :=
  (runes s).map fun
    | .char c => some c
    | .stray _ => none

def string (s : Bytes) : Json := .str (written s)

/-- A field of a struct; `none` where `omitempty` leaves it out. -/
abbrev Field := String × Option Json

def object (fields : List Field) : Json := .obj (fields.filterMap fun f => f.2.map fun j => (f.1, j))

def omitEmpty (s : Bytes) : Option Json := if s = [] then none else some (string s)

def omitZero (n : ℤ) : Option Json := if n = 0 then none else some (.num n)

/-- A slice; `none` is `nil`. -/
def array {α : Type} (json : α → Json) : Option (List α) → Json
  | none => .null
  | some l => .arr (l.map json)

/-! ### Times -/

/-- A `time.Time` in UTC, by the Unix time. -/
structure Instant where
  seconds : ℤ
  nanos : Fin 1000000000

/-- The ordinal of its day. -/
def Instant.day (t : Instant) : ℤ := t.seconds / 86400 + 719163

def Instant.year (t : Instant) : ℤ := Calendar.year t.day

def monthLengths (leap : Bool) : List ℕ := [31, if leap then 29 else 28, 31, 30, 31, 30, 31, 31, 30, 31, 30, 31]

/-- The month and the day, of a day of the year. -/
def monthDay (month : ℕ) : List ℕ → ℕ → ℕ × ℕ
  | n :: ns, day => if day ≤ n then (month, day) else monthDay (month + 1) ns (day - n)
  | [], day => (month, day)

/-- With leading zeros. -/
def padded (width n : ℕ) : List Char := (Nat.toDigits 10 n).leftpad width '0'

/-- `2006-01-02T15:04:05.999999999Z`. -/
def Instant.format (t : Instant) : List Char :=
  let leap : Bool := Calendar.daysBeforeYear (t.year + 1) - Calendar.daysBeforeYear t.year = 366
  let (month, day) := monthDay 1 (monthLengths leap) (t.day - Calendar.daysBeforeYear t.year).toNat
  let s := (t.seconds % 86400).toNat
  let fraction := if t.nanos = 0 then [] else '.' :: (padded 9 t.nanos).rdropWhile (· = '0')
  padded 4 t.year.toNat ++ '-' :: padded 2 month ++ '-' :: padded 2 day ++ 'T' :: padded 2 (s / 3600) ++
    ':' :: padded 2 (s / 60 % 60) ++ ':' :: padded 2 (s % 60) ++ fraction ++ ['Z']

example : Instant.format ⟨1709208000, 50⟩ = "2024-02-29T12:00:00.00000005Z".toList := by decide

/-- `MarshalJSON`: a year that has not four digits is an error. -/
def marshalTime (t : Instant) : Option Json :=
  if t.year < 0 ∨ 10000 ≤ t.year then none else some (.str (t.format.map some))

def omitTime : Option Instant → Option (Option Json)
  | none => some none
  | some t => (marshalTime t).map some

/-! ### Entries -/

structure MemoryModule where
  slot : Bytes
  capacityMB : Option ℤ
  type : Bytes
  speedMHz : Option ℤ
  manufacturer : Bytes
  serial : Bytes
  formFactor : Bytes

def MemoryModule.json (m : MemoryModule) : Json :=
  object [("slot", string m.slot), ("capacity_mb", m.capacityMB.map .num), ("type", omitEmpty m.type),
    ("speed_mhz", m.speedMHz.map .num), ("manufacturer", omitEmpty m.manufacturer), ("serial", omitEmpty m.serial),
    ("form_factor", omitEmpty m.formFactor)]

structure Disk where
  deviceID : Bytes
  model : Bytes
  serial : Bytes
  firmware : Bytes
  mediaType : Bytes
  busType : Bytes
  sizeMB : Option ℤ
  healthStatus : Bytes
  isRemovable : Bool

def Disk.json (d : Disk) : Json :=
  object [("device_id", string d.deviceID), ("model", omitEmpty d.model), ("serial", omitEmpty d.serial),
    ("firmware", omitEmpty d.firmware), ("media_type", omitEmpty d.mediaType), ("bus_type", omitEmpty d.busType),
    ("size_mb", d.sizeMB.map .num), ("health_status", omitEmpty d.healthStatus),
    ("is_removable", some (.bool d.isRemovable))]

structure Volume where
  letter : Bytes
  label : Bytes
  filesystem : Bytes
  totalMB : Option ℤ
  freeMB : Option ℤ
  isSystem : Bool
  encryptionStatus : Bytes

def Volume.json (v : Volume) : Json :=
  object [("letter", string v.letter), ("label", omitEmpty v.label), ("filesystem", omitEmpty v.filesystem),
    ("total_mb", v.totalMB.map .num), ("free_mb", v.freeMB.map .num), ("is_system", some (.bool v.isSystem)),
    ("encryption_status", omitEmpty v.encryptionStatus)]

structure Nic where
  key : Bytes
  name : Bytes
  mac : Bytes
  type : Bytes
  speedMbps : Option ℤ
  isUp : Bool
  isVirtual : Bool
  ipAddress : Bytes
  ipPrefixLength : ℤ
  isDHCP : Option Bool
  gateway : Bytes

def Nic.json (n : Nic) : Json :=
  object [("key", string n.key), ("name", omitEmpty n.name), ("mac", omitEmpty n.mac), ("type", omitEmpty n.type),
    ("speed_mbps", n.speedMbps.map .num), ("is_up", some (.bool n.isUp)), ("is_virtual", some (.bool n.isVirtual)),
    ("ip_address", omitEmpty n.ipAddress), ("ip_prefix_length", omitZero n.ipPrefixLength),
    ("is_dhcp", n.isDHCP.map .bool), ("gateway", omitEmpty n.gateway)]

structure Gpu where
  name : Bytes
  chipset : Bytes
  memoryMB : Option ℤ
  driverVersion : Bytes
  driverDate : Bytes
  resolution : Bytes

def Gpu.json (g : Gpu) : Json :=
  object [("name", string g.name), ("chipset", omitEmpty g.chipset), ("memory_mb", g.memoryMB.map .num),
    ("driver_version", omitEmpty g.driverVersion), ("driver_date", omitEmpty g.driverDate),
    ("resolution", omitEmpty g.resolution)]

structure Software where
  name : Bytes
  version : Bytes
  publisher : Bytes
  installDate : Bytes
  arch : Bytes
  source : Bytes
  installLocation : Bytes

def Software.json (s : Software) : Json :=
  object [("name", string s.name), ("version", string s.version), ("publisher", string s.publisher),
    ("install_date", omitEmpty s.installDate), ("arch", omitEmpty s.arch), ("source", omitEmpty s.source),
    ("install_location", omitEmpty s.installLocation)]

structure DirectoryState where
  distinguishedName : Bytes
  ou : Bytes
  ouDN : Bytes
  adLocation : Bytes

def DirectoryState.json (d : DirectoryState) : Json :=
  object [("distinguished_name", omitEmpty d.distinguishedName), ("ou", omitEmpty d.ou), ("ou_dn", omitEmpty d.ouDN),
    ("ad_location", omitEmpty d.adLocation)]

/-! ### The inventory -/

/-- What is not a list. -/
structure Facts where
  hwManufacturer : Bytes
  hwModel : Bytes
  hwSerial : Bytes
  hwChassisType : Bytes
  hwIsVirtual : Bool
  hwHypervisor : Bytes
  mbManufacturer : Bytes
  mbModel : Bytes
  mbSerial : Bytes
  biosVendor : Bytes
  biosVersion : Bytes
  biosDate : Bytes
  secureBoot : Option Bool
  tpmVersion : Bytes
  cpuModel : Bytes
  cpuManufacturer : Bytes
  cpuCores : Option ℤ
  cpuThreads : Option ℤ
  cpuSpeedMHz : Option ℤ
  cpuCount : Option ℤ
  ramTotalMB : Option ℤ
  ramSlotsTotal : Option ℤ
  ramSlotsUsed : Option ℤ
  osArchitecture : Bytes
  osInstallDate : Option Instant
  lastBootTime : Option Instant
  directory : Option DirectoryState

/-- `models.InventoryState`; a list of `none` is `nil`. -/
structure InventoryState extends Facts where
  hash : Bytes
  memoryModules : Option (List MemoryModule)
  disks : Option (List Disk)
  volumes : Option (List Volume)
  nics : Option (List Nic)
  gpus : Option (List Gpu)
  software : Option (List Software)

/-- The fields before the lists. -/
def Facts.fields (f : Facts) (osInstallDate lastBootTime : Option Json) : List Field :=
  [("hw_manufacturer", omitEmpty f.hwManufacturer), ("hw_model", omitEmpty f.hwModel),
    ("hw_serial", omitEmpty f.hwSerial), ("hw_chassis_type", omitEmpty f.hwChassisType),
    ("hw_is_virtual", some (.bool f.hwIsVirtual)), ("hw_hypervisor", omitEmpty f.hwHypervisor),
    ("mb_manufacturer", omitEmpty f.mbManufacturer), ("mb_model", omitEmpty f.mbModel),
    ("mb_serial", omitEmpty f.mbSerial), ("bios_vendor", omitEmpty f.biosVendor),
    ("bios_version", omitEmpty f.biosVersion), ("bios_date", omitEmpty f.biosDate),
    ("secure_boot", f.secureBoot.map .bool), ("tpm_version", omitEmpty f.tpmVersion),
    ("cpu_model", omitEmpty f.cpuModel), ("cpu_manufacturer", omitEmpty f.cpuManufacturer),
    ("cpu_cores", f.cpuCores.map .num), ("cpu_threads", f.cpuThreads.map .num),
    ("cpu_speed_mhz", f.cpuSpeedMHz.map .num), ("cpu_count", f.cpuCount.map .num),
    ("ram_total_mb", f.ramTotalMB.map .num), ("ram_slots_total", f.ramSlotsTotal.map .num),
    ("ram_slots_used", f.ramSlotsUsed.map .num), ("os_architecture", omitEmpty f.osArchitecture),
    ("os_install_date", osInstallDate), ("last_boot_time", lastBootTime)]

/-- The lists, in the order of the fields. -/
def InventoryState.lists (inv : InventoryState) : List Json :=
  [array MemoryModule.json inv.memoryModules, array Disk.json inv.disks, array Volume.json inv.volumes,
    array Nic.json inv.nics, array Gpu.json inv.gpus, array Software.json inv.software]

/-- `json.Marshal`. -/
def InventoryState.json (inv : InventoryState) : Option Json := do
  let osInstallDate ← omitTime inv.osInstallDate
  let lastBootTime ← omitTime inv.lastBootTime
  let names := ["memory_modules", "disks", "volumes", "nics", "gpus", "software"]
  some (object ([("hash", omitEmpty inv.hash)] ++ inv.fields osInstallDate lastBootTime ++
    names.zip (inv.lists.map some) ++ [("directory", inv.directory.map DirectoryState.json)]))

/-! ### The order and the hash -/

def lessSoftware (a b : Software) : Bool :=
  if a.name ≠ b.name then a.name < b.name
  else if a.version ≠ b.version then a.version < b.version
  else a.publisher < b.publisher

variable (sort : SortSlice)

def sortInventory (inv : InventoryState) : InventoryState where
  toFacts := inv.toFacts
  hash := inv.hash
  memoryModules := inv.memoryModules.map (sort.sort fun a b => a.slot < b.slot)
  disks := inv.disks.map (sort.sort fun a b => a.deviceID < b.deviceID)
  volumes := inv.volumes.map (sort.sort fun a b => a.letter < b.letter)
  nics := inv.nics.map (sort.sort fun a b => a.key < b.key)
  gpus := inv.gpus.map (sort.sort fun a b => a.name < b.name)
  software := inv.software.map (sort.sort lessSoftware)

/-- `InventoryHash`: the hash is empty if the inventory has no text. -/
def inventoryHash (inv : InventoryState) : InventoryState :=
  let inv := { sortInventory sort inv with hash := [] }
  match inv.json with
  | none => inv
  | some encoded => { inv with hash := utf8 (Deploy.hexEncode (Sha256.sha256 (encode encoded.write))) }

end Tiai.Collector
