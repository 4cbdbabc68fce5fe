import Mathlib

/-!
# The machine list in a URL

`utils/machineQuery.ts`: the query of the machine list, and the parameters that the fiche d'un poste asks the server
with.  A value of the language that is absent, and one that is undefined, are one here.

* `Numbers`, `Numbers.Documented` — what the language does with a number and its text;
* `LocationQuery`, `queryValue`, `queryInt`, `queryFloat` — a query, and how a value of it is read;
* `machineListParamsFromQuery` — the parameters of a query.
-/

namespace Tiai.MachineList

/-! ### Numbers -/

/-- The finite numbers, as far as a URL carries them. -/
structure Numbers where
  IsNumber : ℚ → Prop
  natural : ∀ n : ℕ, n < 2 ^ 53 → IsNumber n
  /-- `Number(s)`, none for one that is not finite. -/
  number : String → Option {x : ℚ // IsNumber x}
  /-- `String(n)`. -/
  string : {x : ℚ // IsNumber x} → String

abbrev Numbers.Value (js : Numbers) : Type := {x : ℚ // js.IsNumber x}

instance Numbers.lawful (js : Numbers) : LawfulBEq js.Value := inferInstance

def Numbers.literal (js : Numbers) (n : ℕ) (h : n < 2 ^ 53) : js.Value := ⟨n, js.natural n h⟩

/-- What is documented of them. -/
structure Numbers.Documented (js : Numbers) : Prop where
  roundTrip : ∀ n : js.Value, js.number (js.string n) = some n
  digits : ∀ n h, js.string (js.literal n h) = n.repr
  written : ∀ n : js.Value, js.string n ≠ ""

/-! ### A query -/

inductive LocationQueryValue
  | null
  | text (s : String)
  | list (values : List (Option String))

/-- Of each name, the value, if it has one. -/
abbrev LocationQuery := String → Option LocationQueryValue

/-- `if (s)`, of a text. -/
def given (s : String) : Option String := if s = "" then none else some s

/-- `queryValue`. -/
def queryValue : Option LocationQueryValue → Option String
  | some (.text s) => given s
  | some (.list (some s :: _)) => given s
  | _ => none

/-- A text that is one of those of a union. -/
abbrev OneOf (values : List String) : Type := {s : String // s ∈ values}

def oneOf (values : List String) (s : String) : Option (OneOf values) := if h : s ∈ values then some ⟨s, h⟩ else none

def machineStatuses : List String := ["up_to_date", "outdated", "needs_verification", "inactive"]

def wuFilters : List String := ["pending", "reboot_required"]

def scanFilters : List String := ["quick", "full", "both"]

def maintenanceStates : List String := ["excluded", "overdue", "due_soon", "ok"]

/-- The values of `CHASSIS_TYPES`. -/
def chassisTypes : List String := ["desktop", "laptop", "tablet", "all-in-one", "server"]

def machineSortFields : List String :=
  ["hostname", "domain", "location", "building", "room", "maintenance_due_at", "av_product_name", "wu_pending_count",
    "session_user_present", "last_seen", "hw_model", "ram_total_mb", "disk_free_percent", "agent_version",
    "usage_hours"]

/-- The type `MachineStatus`. -/
abbrev MachineStatus : Type := OneOf machineStatuses

abbrev WindowsUpdateFilter : Type := OneOf wuFilters

section

variable (js : Numbers)

/-- `SCAN_AGE_DAYS`, and its first. -/
def scanAgeDays : List js.Value := [js.literal 7 (by decide), js.literal 30 (by decide)]
def firstScanAge : js.Value := js.literal 7 (by decide)

/-- `USAGE_MAX_DAYS`. -/
def usageMaxDays : ℚ := 90

/-- `Number.isInteger(n) && n > 0`. -/
def isPositiveInteger (n : js.Value) : Bool := n.1.isInt && 0 < n.1

def queryInt (v : Option LocationQueryValue) : Option js.Value :=
  ((queryValue v).bind js.number).filter (isPositiveInteger js)

def queryFloat (v : Option LocationQueryValue) : Option js.Value :=
  ((queryValue v).bind js.number).filter fun n => 0 ≤ n.1

/-- The age of a scan in a query: one that is offered. -/
def scanDays (v : Option LocationQueryValue) : js.Value :=
  (((queryValue v).bind js.number).filter (· ∈ scanAgeDays js)).getD (firstScanAge js)

/-- `ListMachinesParams`, without the page. -/
structure ListMachinesParams where
  search : Option String
  domain : Option String
  location : Option String
  roomId : Option String
  buildingId : Option String
  withoutRoom : Option Bool
  locationMismatch : Option Bool
  checkOpen : Option Bool
  maintenanceState : Option String
  antivirus : Option String
  osVersion : Option String
  status : Option MachineStatus
  online : Option Bool
  wuStatus : Option WindowsUpdateFilter
  scanType : Option String
  scanOlderThanDays : Option js.Value
  withActiveThreats : Option Bool
  hwModel : Option String
  hwManufacturer : Option String
  cpuModel : Option String
  hwChassisType : Option String
  ramMinGb : Option js.Value
  ramMaxGb : Option js.Value
  diskFreeBelow : Option js.Value
  softwareId : Option js.Value
  agentVersion : Option String
  agentOutdated : Option Bool
  usageDays : Option js.Value
  usageHoursBelow : Option js.Value
  usageHoursAbove : Option js.Value
  sortBy : Option String
  sortDesc : Option Bool

/-- `if (…) params.… = true`. -/
def flag (condition : Bool) : Option Bool := if condition then some true else none

def machineListParamsFromQuery (q : LocationQuery) : ListMachinesParams js where
  search := queryValue (q "search")
  domain := queryValue (q "domain")
  location := queryValue (q "location")
  withoutRoom := flag (queryValue (q "room") = some "none")
  roomId := (queryValue (q "room")).filter (· ≠ "none")
  buildingId := queryValue (q "building")
  locationMismatch := flag (queryValue (q "location_mismatch") = some "true")
  checkOpen := flag (queryValue (q "check_open") = some "true")
  maintenanceState := (queryValue (q "maintenance_state")).filter (· ∈ maintenanceStates)
  antivirus := queryValue (q "antivirus")
  osVersion := queryValue (q "os_version")
  status := (queryValue (q "status")).bind (oneOf machineStatuses)
  wuStatus := (queryValue (q "wu_status")).bind (oneOf wuFilters)
  scanType := (queryValue (q "scan_type")).filter (· ∈ scanFilters)
  scanOlderThanDays :=
    ((queryValue (q "scan_type")).filter (· ∈ scanFilters)).map fun _ => scanDays js (q "scan_days")
  withActiveThreats := flag (queryValue (q "with_active_threats") = some "true")
  online := flag (queryValue (q "online") = some "true")
  hwModel := queryValue (q "hw_model")
  hwManufacturer := queryValue (q "hw_manufacturer")
  cpuModel := queryValue (q "cpu_model")
  hwChassisType := (queryValue (q "hw_chassis_type")).filter (· ∈ chassisTypes)
  ramMinGb := queryInt js (q "ram_min_gb")
  ramMaxGb := queryInt js (q "ram_max_gb")
  diskFreeBelow := (queryInt js (q "disk_free_below")).filter fun n => n.1 ≤ 100
  softwareId := queryInt js (q "software_id")
  agentVersion := queryValue (q "agent_version")
  agentOutdated := flag (queryValue (q "agent_outdated") = some "true")
  usageDays := (queryInt js (q "usage_days")).filter fun n => n.1 ≤ usageMaxDays
  usageHoursBelow := queryFloat js (q "usage_hours_below")
  usageHoursAbove := queryFloat js (q "usage_hours_above")
  sortBy := (queryValue (q "sort_by")).filter (· ∈ machineSortFields)
  sortDesc :=
    ((queryValue (q "sort_by")).filter (· ∈ machineSortFields)).map fun _ => queryValue (q "sort_desc") ≠ some "false"

end

end Tiai.MachineList
