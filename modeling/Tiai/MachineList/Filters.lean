import Mathlib
import Tiai.MachineList.Query

/-!
# The filters of the machine list

`utils/machineListFilters.ts`, with the reading of hours of `utils/usageFilter.ts`, and what the widgets of
`components/machines-list` emit.

* `MachineFilters` — what the page holds;
* `machineFiltersFromQuery`, `machineFiltersToQuery` — the filters of a URL, and the URL of filters;
* `machineFiltersToParams` — what the list asks the server with;
* `WidgetEdit`, `edit` — a change of a widget.
-/

namespace Tiai.MachineList

variable (js : Numbers)

/-! ### The filters -/

/-- What a box hands back. -/
inductive Typed
  | null
  | text (s : String)
  | number (n : js.Value)
deriving DecidableEq

inductive RamOp
  | min
  | max
deriving DecidableEq

structure MachineFilters where
  search : String
  domain : String
  location : Option String
  building : Option String
  room : Option String
  mismatch : Option String
  checkOpen : Option String
  maintenance : Option String
  antivirus : Option String
  status : Option MachineStatus
  wu : Option WindowsUpdateFilter
  scan : Option String
  os : Option String
  agent : Option String
  threatsOnly : Bool
  onlineOnly : Bool
  model : Option String
  manufacturer : Option String
  processor : Option String
  chassis : Option String
  ramOp : Option RamOp
  ramGb : Typed js
  diskFree : Option js.Value
  usageBelow : Typed js
  usageAbove : Typed js
  usageDays : Option js.Value
  softwareId : Option js.Value
deriving DecidableEq

def emptyMachineFilters : MachineFilters js where
  search := ""
  domain := ""
  location := none
  building := none
  room := none
  mismatch := none
  checkOpen := none
  maintenance := none
  antivirus := none
  status := none
  wu := none
  scan := none
  os := none
  agent := none
  threatsOnly := false
  onlineOnly := false
  model := none
  manufacturer := none
  processor := none
  chassis := none
  ramOp := none
  ramGb := .null
  diskFree := none
  usageBelow := .null
  usageAbove := .null
  usageDays := none
  softwareId := none

/-- `ROOM_NONE` and `AGENT_OUTDATED`. -/
def roomNone : String := "none"
def agentOutdated : String := "outdated"

/-- The values of the closed dropdowns, but « tous ». -/
def maintenanceOptions : List String := ["overdue", "due_soon", "ok", "excluded"]
def scanOptions : List String := ["quick:7", "quick:30", "full:7", "full:30", "both:7", "both:30"]
def trueOptions : List String := ["true"]
def diskOptions : List js.Value := [js.literal 10 (by decide), js.literal 20 (by decide)]

variable {js}

/-! ### The figures -/

/-- `ramGbValue`. -/
def ramGbValue (f : MachineFilters js) : Option js.Value :=
  match f.ramGb with
  | .null => none
  | .text s => ((given s).bind js.number).filter (isPositiveInteger js)
  | .number n => (some n).filter (isPositiveInteger js)

def isRamActive (f : MachineFilters js) : Bool := f.ramOp.isSome && (ramGbValue f).isSome

/-- `value.replace(',', '.')`: the first one. -/
def replaceComma : List Char → List Char
  | [] => []
  | c :: cs => if c = ',' then '.' :: cs else c :: replaceComma cs

def parseHours : Typed js → Option js.Value
  | .null => none
  | .text s => ((given s).bind fun s => js.number (String.ofList (replaceComma s.toList))).filter fun n => 0 ≤ n.1
  | .number n => (some n).filter fun n => 0 ≤ n.1

/-! ### From the URL -/

/-- `AGENT_OUTDATED`, or an exact version. -/
def agentOf (q : LocationQuery) : Option String :=
  if queryValue (q "agent_outdated") = some "true" then some agentOutdated else queryValue (q "agent_version")

/-- `x ?? null`, of a figure. -/
def figure : Option js.Value → Typed js
  | none => .null
  | some n => .number n

variable (js) in
def machineFiltersFromQuery (q : LocationQuery) : MachineFilters js :=
  let ramMin := queryInt js (q "ram_min_gb")
  let ramMax := queryInt js (q "ram_max_gb")
  { search := (queryValue (q "search")).getD ""
    domain := (queryValue (q "domain")).getD ""
    location := queryValue (q "location")
    building := queryValue (q "building")
    room := queryValue (q "room")
    mismatch := (queryValue (q "location_mismatch")).filter (· = "true")
    checkOpen := (queryValue (q "check_open")).filter (· = "true")
    maintenance := (queryValue (q "maintenance_state")).filter (· ∈ maintenanceOptions)
    antivirus := queryValue (q "antivirus")
    os := queryValue (q "os_version")
    agent := agentOf q
    status := (queryValue (q "status")).bind (oneOf machineStatuses)
    wu := (queryValue (q "wu_status")).bind (oneOf wuFilters)
    scan := ((queryValue (q "scan_type")).filter (· ∈ scanFilters)).map fun scanType =>
      scanType ++ ":" ++ js.string (scanDays js (q "scan_days"))
    threatsOnly := queryValue (q "with_active_threats") = some "true"
    onlineOnly := queryValue (q "online") = some "true"
    model := queryValue (q "hw_model")
    manufacturer := queryValue (q "hw_manufacturer")
    processor := queryValue (q "cpu_model")
    chassis := (queryValue (q "hw_chassis_type")).filter (· ∈ chassisTypes)
    ramOp := if ramMin.isSome then some .min else if ramMax.isSome then some .max else none
    ramGb := figure (ramMin.or ramMax)
    diskFree := ((queryValue (q "disk_free_below")).bind js.number).filter (· ∈ diskOptions js)
    usageBelow := figure (queryFloat js (q "usage_hours_below"))
    usageAbove := figure (queryFloat js (q "usage_hours_above"))
    usageDays := (queryInt js (q "usage_days")).filter fun n => n.1 ≤ usageMaxDays
    softwareId := ((queryValue (q "software_id")).bind js.number).filter (isPositiveInteger js) }

/-! ### To the URL, and to the server -/

/-- `scan.split(':')`. -/
def scanParts (scan : String) : List String := (scan.toList.splitOn ':').map String.ofList

/-- `if (f.x)`, of a text that may be null. -/
def givenText (s : Option String) : Option String := s.filter (· ≠ "")

/-- `if (f.x) query.y = 'true'`. -/
def trueText (condition : Bool) : Option String := if condition then some "true" else none

/-- The entries of `machineFiltersToQuery`, each with its value if it has one. -/
def queryEntries (f : MachineFilters js) : List (String × Option String) :=
  let ram := if isRamActive f then (ramGbValue f).map js.string else none
  [("search", given f.search),
    ("domain", given f.domain),
    ("location", givenText f.location),
    ("building", givenText f.building),
    ("room", givenText f.room),
    ("location_mismatch", givenText f.mismatch),
    ("check_open", givenText f.checkOpen),
    ("maintenance_state", givenText f.maintenance),
    ("antivirus", givenText f.antivirus),
    ("os_version", givenText f.os),
    ("agent_outdated", trueText (f.agent = some agentOutdated)),
    ("agent_version", if f.agent = some agentOutdated then none else givenText f.agent),
    ("status", f.status.map Subtype.val),
    ("wu_status", f.wu.map Subtype.val),
    ("scan_type", (givenText f.scan).bind fun scan => (scanParts scan)[0]?),
    ("scan_days", (givenText f.scan).bind fun scan => (scanParts scan)[1]?),
    ("with_active_threats", trueText f.threatsOnly),
    ("online", trueText f.onlineOnly),
    ("hw_model", givenText f.model),
    ("hw_manufacturer", givenText f.manufacturer),
    ("cpu_model", givenText f.processor),
    ("hw_chassis_type", givenText f.chassis),
    ("ram_min_gb", if f.ramOp = some .min then ram else none),
    ("ram_max_gb", if f.ramOp = some .min then none else ram),
    ("disk_free_below", f.diskFree.map js.string),
    ("usage_hours_below", (parseHours f.usageBelow).map js.string),
    ("usage_hours_above", (parseHours f.usageAbove).map js.string),
    ("usage_days", f.usageDays.map js.string),
    ("software_id", f.softwareId.map js.string)]

def machineFiltersToQuery (f : MachineFilters js) : List (String × String) :=
  (queryEntries f).filterMap fun (name, value) => value.map (name, ·)

/-- A record of texts, as a query. -/
def asQuery (record : List (String × String)) : LocationQuery := fun name => (record.lookup name).map .text

def machineFiltersToParams (f : MachineFilters js) : ListMachinesParams js where
  search := given f.search
  domain := given f.domain
  location := givenText f.location
  buildingId := givenText f.building
  withoutRoom := flag (f.room = some roomNone)
  roomId := if f.room = some roomNone then none else givenText f.room
  locationMismatch := flag (givenText f.mismatch).isSome
  checkOpen := flag (givenText f.checkOpen).isSome
  maintenanceState := givenText f.maintenance
  antivirus := givenText f.antivirus
  osVersion := givenText f.os
  agentOutdated := flag (f.agent = some agentOutdated)
  agentVersion := if f.agent = some agentOutdated then none else givenText f.agent
  status := f.status
  wuStatus := f.wu
  scanType := (givenText f.scan).bind fun scan => (scanParts scan)[0]?
  scanOlderThanDays := (givenText f.scan).bind fun scan => (scanParts scan)[1]?.bind js.number
  withActiveThreats := flag f.threatsOnly
  online := flag f.onlineOnly
  hwModel := givenText f.model
  hwManufacturer := givenText f.manufacturer
  cpuModel := givenText f.processor
  hwChassisType := givenText f.chassis
  ramMinGb := if isRamActive f ∧ f.ramOp = some .min then ramGbValue f else none
  ramMaxGb := if isRamActive f ∧ f.ramOp ≠ some .min then ramGbValue f else none
  diskFreeBelow := f.diskFree
  usageHoursBelow := parseHours f.usageBelow
  usageHoursAbove := parseHours f.usageAbove
  usageDays := f.usageDays
  softwareId := f.softwareId
  sortBy := none
  sortDesc := none

/-! ### The widgets -/

/-- The dropdowns that the fleet fills: the keys of `MachineFleetOptions`. -/
inductive FleetKey
  | antivirus
  | os
  | agent
  | location
  | building
  | room
  | model
  | manufacturer
  | processor
  | chassis
deriving DecidableEq

def setFleet (f : MachineFilters js) (v : Option String) : FleetKey → MachineFilters js
  | .antivirus => { f with antivirus := v }
  | .os => { f with os := v }
  | .agent => { f with agent := v }
  | .location => { f with location := v }
  | .building => { f with building := v }
  | .room => { f with room := v }
  | .model => { f with model := v }
  | .manufacturer => { f with manufacturer := v }
  | .processor => { f with processor := v }
  | .chassis => { f with chassis := v }

/-- `MachineFilterKey`: the chips. -/
inductive MachineFilterKey
  | fleet (key : FleetKey)
  | mismatch
  | check
  | maintenance
  | status
  | wu
  | scan
  | ram
  | disk
  | usage
  | software
deriving DecidableEq

def clearUsageFilter (f : MachineFilters js) : MachineFilters js :=
  { f with
    usageBelow := .null
    usageAbove := .null
    usageDays := none }

def clearMachineFilter (f : MachineFilters js) : MachineFilterKey → MachineFilters js
  | .fleet key => setFleet f none key
  | .mismatch => { f with mismatch := none }
  | .check => { f with checkOpen := none }
  | .maintenance => { f with maintenance := none }
  | .status => { f with status := none }
  | .wu => { f with wu := none }
  | .scan => { f with scan := none }
  | .ram =>
    { f with
      ramOp := none
      ramGb := .null }
  | .disk => { f with diskFree := none }
  | .usage => clearUsageFilter f
  | .software => { f with softwareId := none }

/-- `UsagePreset`. -/
inductive UsagePreset
  | low
  | mid
  | high
  | custom
deriving DecidableEq

variable (js) in
structure UsageThresholds where
  low : js.Value
  high : js.Value

variable (js) in
/-- What a widget emits: a dropdown one of its options, a box what was typed; `usageMode`, with the thresholds the page
has, if any. -/
inductive WidgetEdit
  | search (v : Option String)
  | onlineOnly (v : Bool)
  | threatsOnly (v : Bool)
  | fleet (key : FleetKey) (v : Option String)
  | status (v : Option MachineStatus)
  | wu (v : Option WindowsUpdateFilter)
  | scan (v : Option (OneOf scanOptions))
  | mismatch (v : Option (OneOf trueOptions))
  | maintenance (v : Option (OneOf maintenanceOptions))
  | checkOpen (v : Option (OneOf trueOptions))
  | ramOp (v : Option RamOp)
  | ramGb (v : Typed js)
  | diskFree (v : Option {n : js.Value // n ∈ diskOptions js})
  | usageBelow (v : Typed js)
  | usageAbove (v : Typed js)
  | usageMode (mode : Option UsagePreset) (t : Option (UsageThresholds js))
  | clear (key : MachineFilterKey)
  | clearAll

/-- `usageMode.set`. -/
def setUsageMode (f : MachineFilters js) : Option UsagePreset → Option (UsageThresholds js) → MachineFilters js
  | some .custom, _ => f
  | some .low, some t =>
    { f with
      usageBelow := .number t.low
      usageAbove := .null }
  | some .mid, some t =>
    { f with
      usageBelow := .number t.high
      usageAbove := .number t.low }
  | some .high, some t =>
    { f with
      usageBelow := .null
      usageAbove := .number t.high }
  | _, _ => clearUsageFilter f

/-- `set(patch)`. -/
def edit (f : MachineFilters js) : WidgetEdit js → MachineFilters js
  | .search v => { f with search := v.getD "" }
  | .onlineOnly v => { f with onlineOnly := v }
  | .threatsOnly v => { f with threatsOnly := v }
  | .fleet key v => setFleet f v key
  | .status v => { f with status := v }
  | .wu v => { f with wu := v }
  | .scan v => { f with scan := v.map Subtype.val }
  | .mismatch v => { f with mismatch := v.map Subtype.val }
  | .maintenance v => { f with maintenance := v.map Subtype.val }
  | .checkOpen v => { f with checkOpen := v.map Subtype.val }
  | .ramOp v => { f with ramOp := v }
  | .ramGb v => { f with ramGb := v }
  | .diskFree v => { f with diskFree := v.map Subtype.val }
  | .usageBelow v => { f with usageBelow := v }
  | .usageAbove v => { f with usageAbove := v }
  | .usageMode mode t => setUsageMode f mode t
  | .clear key => clearMachineFilter f key
  | .clearAll => emptyMachineFilters js

end Tiai.MachineList
