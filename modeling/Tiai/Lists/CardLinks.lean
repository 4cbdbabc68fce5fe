import Mathlib
import Tiai.Lists.Cards
import Tiai.Lists.ShownOnce
import Tiai.MachineList.Walked

/-!
# What a card of the dashboard opens

The links of `DashboardPage.vue`, the page of postes that reads them (`utils/machineListFilters.ts`), and
`machine_filters` (`api/routes/machines.py`), which reads what the page asks.

* `Figure.link` — the query of a card;
* `requested` — the filters of a request;
* `opened_link` — the page asks for the facet of the card, but for a threshold of the disk that it does not offer;
* `card_opens_its_list` — the list then has as many postes as the card says.
-/

namespace Tiai.Lists.Cards

open MachineList (Numbers ListMachinesParams machineFiltersFromQuery machineFiltersToParams asQuery)
open Maintenance (MaintenanceState)

/-! ### The request -/

/-- A parameter that is absent, or read; one that cannot be is a 422. -/
def readParam {α β : Type} (read : α → Option β) : Option α → Option (Option β)
  | none => some none
  | some a => (read a).map some

def maintenanceStateOf : String → Option MaintenanceState
  | "excluded" => some .excluded
  | "overdue" => some .overdue
  | "due_soon" => some .dueSoon
  | "ok" => some .ok
  | _ => none

def statusOf : String → Option MachineStatus
  | "up_to_date" => some .upToDate
  | "outdated" => some .outdated
  | "needs_verification" => some .needsVerification
  | "inactive" => some .inactive
  | _ => none

def windowsUpdateOf : String → Option WindowsUpdateFilter
  | "pending" => some .pending
  | "reboot_required" => some .rebootRequired
  | _ => none

def scanOf : String → Option ScanFilter
  | "quick" => some .quick
  | "full" => some .full
  | "both" => some .both
  | _ => none

section Request

variable (js : Numbers) (readUuid : String → Option Uuid)

/-- An `int` with its bounds, of the number that was written. -/
def wholeOf (low high : Option ℤ) (n : js.Value) : Option ℤ :=
  if n.1.isInt && low.all (· ≤ n.1.num) && high.all (n.1.num ≤ ·) then some n.1.num else none

/-- A `float` that is not negative. -/
def hoursOf (n : js.Value) : Option ℚ := if 0 ≤ n.1 then some n.1 else none

/-- `machine_filters`, without the scope. -/
def requested (p : ListMachinesParams js) : Option MachineFilters := do
  let roomId ← readParam readUuid p.roomId
  let buildingId ← readParam readUuid p.buildingId
  let maintenanceState ← readParam maintenanceStateOf p.maintenanceState
  let status ← readParam (fun v => statusOf v.1) p.status
  let wuStatus ← readParam (fun v => windowsUpdateOf v.1) p.wuStatus
  let scanType ← readParam scanOf p.scanType
  let scanOlderThanDays ← readParam (wholeOf js (some 1) none) p.scanOlderThanDays
  let ramMinGb ← readParam (wholeOf js (some 1) none) p.ramMinGb
  let ramMaxGb ← readParam (wholeOf js (some 1) none) p.ramMaxGb
  let diskFreeBelow ← readParam (wholeOf js (some 1) (some 100)) p.diskFreeBelow
  let softwareId ← readParam (wholeOf js none none) p.softwareId
  let usageDays ← readParam (wholeOf js (some 1) (some 90)) p.usageDays
  let usageHoursBelow ← readParam (hoursOf js) p.usageHoursBelow
  let usageHoursAbove ← readParam (hoursOf js) p.usageHoursAbove
  return {
    search := p.search.map String.toList
    antivirus := p.antivirus.map String.toList
    osVersion := p.osVersion.map String.toList
    hwModel := p.hwModel.map String.toList
    hwManufacturer := p.hwManufacturer.map String.toList
    cpuModel := p.cpuModel.map String.toList
    domain := p.domain
    location := p.location
    roomId := roomId
    buildingId := buildingId
    withoutRoom := p.withoutRoom
    locationMismatch := p.locationMismatch
    checkOpen := p.checkOpen
    maintenanceState := maintenanceState
    status := status
    online := p.online
    wuStatus := wuStatus
    scanType := scanType
    scanOlderThanDays := scanOlderThanDays.getD 7
    withActiveThreats := p.withActiveThreats
    hwChassisType := p.hwChassisType
    ramMinGb := ramMinGb
    ramMaxGb := ramMaxGb
    diskFreeBelow := diskFreeBelow
    softwareId := softwareId
    agentVersion := p.agentVersion
    agentOutdated := p.agentOutdated
    usageDays := usageDays
    usageHoursBelow := usageHoursBelow
    usageHoursAbove := usageHoursAbove }

/-! ### The links -/

/-- `String(n)`. -/
def written (n : Whole) : String := js.string (js.literal n.1 n.2)

/-- The query of a card; three figures are captions, and no card. -/
def Figure.link (o : StatsOverview) : Figure → Option (List (String × String))
  | total => some []
  | upToDate => none
  | outdated => some [("status", "outdated")]
  | needsVerification => some [("status", "needs_verification")]
  | inactive => some [("status", "inactive")]
  | withActiveThreats => some [("with_active_threats", "true")]
  | wuPending => some [("wu_status", "pending")]
  | rebootRequired => none
  | lowDisk => some [("disk_free_below", written js o.lowDiskFreePercent)]
  | agentOutdated => some [("agent_outdated", "true")]
  | openChecks => some [("check_open", "true")]
  | maintenanceOverdue => some [("maintenance_state", "overdue")]
  | maintenanceDueSoon => none
  | usageLow => some [("usage_hours_below", written js o.usageLowHours)]
  | usageHigh => some [("usage_hours_above", written js o.usageHighHours)]

/-- The filters of the page of postes, opened at a query, as the server reads them. -/
def opened (query : List (String × String)) : Option MachineFilters :=
  requested js readUuid (machineFiltersToParams (machineFiltersFromQuery js (asQuery query)))

end Request

/-! ### What a card opens -/

section Opened

variable {js : Numbers} (readUuid : String → Option Uuid)

/-- A threshold that the page does not offer. -/
def offGrid (o : StatsOverview) : Bool := o.lowDiskFreePercent.1 ≠ 10 && o.lowDiskFreePercent.1 ≠ 20

lemma queryValue_written (hjs : js.Documented) (n : Whole) :
    MachineList.queryValue (some (.text (written js n))) = some (written js n) :=
  if_neg (hjs.written _)

lemma number_written (hjs : js.Documented) (n : Whole) : js.number (written js n) = some (js.literal n.1 n.2) :=
  hjs.roundTrip _

lemma filters_usageBelow (text : String) :
    machineFiltersFromQuery js (asQuery [("usage_hours_below", text)]) =
      { MachineList.emptyMachineFilters js with
        usageBelow := MachineList.figure (MachineList.queryFloat js (some (.text text))) } := rfl

lemma filters_usageAbove (text : String) :
    machineFiltersFromQuery js (asQuery [("usage_hours_above", text)]) =
      { MachineList.emptyMachineFilters js with
        usageAbove := MachineList.figure (MachineList.queryFloat js (some (.text text))) } := rfl

lemma filters_diskFree (text : String) :
    machineFiltersFromQuery js (asQuery [("disk_free_below", text)]) =
      { MachineList.emptyMachineFilters js with
        diskFree := ((MachineList.queryValue (some (.text text))).bind js.number).filter
          (· ∈ MachineList.diskOptions js) } := rfl

lemma queryFloat_written (hjs : js.Documented) (n : Whole) :
    MachineList.queryFloat js (some (.text (written js n))) = some (js.literal n.1 n.2) := by
  have hnonneg : (0 : ℚ) ≤ (js.literal n.1 n.2).1 := Nat.cast_nonneg n.1
  rw [MachineList.queryFloat, queryValue_written hjs, Option.bind_some, number_written hjs]
  simp [hnonneg]

lemma hoursOf_literal (n : Whole) : hoursOf js (js.literal n.1 n.2) = some (n.1 : ℚ) :=
  if_pos (Nat.cast_nonneg n.1)

/-- What the page asks with a threshold of hours. -/
lemma parseHours_literal (n : Whole) :
    MachineList.parseHours (.number (js.literal n.1 n.2)) = some (js.literal n.1 n.2) := by
  have hnonneg : (0 : ℚ) ≤ (js.literal n.1 n.2).1 := Nat.cast_nonneg n.1
  simp [MachineList.parseHours, hnonneg]

lemma mem_diskOptions {n : Whole} :
    js.literal n.1 n.2 ∈ MachineList.diskOptions js ↔ n.1 = 10 ∨ n.1 = 20 := by
  have heq (k : ℕ) (hk : k < 2 ^ 53) : js.literal n.1 n.2 = js.literal k hk ↔ n.1 = k := by
    rw [Numbers.literal, Numbers.literal, Subtype.mk.injEq, Nat.cast_inj]
  simp [MachineList.diskOptions, heq]

lemma wholeOf_literal {n : Whole} (h : n.1 = 10 ∨ n.1 = 20) :
    wholeOf js (some 1) (some 100) (js.literal n.1 n.2) = some (n.1 : ℤ) := by
  have hint : (js.literal n.1 n.2).1.isInt = true := by simp [Numbers.literal, Rat.isInt]
  have hnum : (js.literal n.1 n.2).1.num = n.1 := by simp [Numbers.literal]
  rw [wholeOf, hint, hnum]
  rcases h with h | h <;> simp [h]

/-- **The page asks for the facet of the card**, or for every poste. -/
lemma opened_link (hjs : js.Documented) (o : StatsOverview) {fig : Figure} {query : List (String × String)}
    (hlink : fig.link js o = some query) :
    opened js readUuid query =
      some (if fig = .lowDisk ∧ offGrid o = true then Figure.total.facet o else fig.facet o) := by
  cases fig with
  | upToDate | rebootRequired | maintenanceDueSoon => cases hlink
  | lowDisk =>
    cases hlink
    rw [opened, filters_diskFree, queryValue_written hjs, Option.bind_some, number_written hjs]
    by_cases hoff : offGrid o = true
    · have hnot : ¬js.literal o.lowDiskFreePercent.1 o.lowDiskFreePercent.2 ∈ MachineList.diskOptions js := by
        rw [mem_diskOptions]
        simpa [offGrid] using hoff
      rw [if_pos ⟨rfl, hoff⟩, Option.filter_some_neg (by simpa using hnot)]
      rfl
    · have hmem : o.lowDiskFreePercent.1 = 10 ∨ o.lowDiskFreePercent.1 = 20 := by
        simpa [offGrid, imp_iff_not_or] using hoff
      rw [if_neg fun h => hoff h.2, Option.filter_some_pos (by simpa using mem_diskOptions.2 hmem)]
      simp only [machineFiltersToParams, requested, readParam, wholeOf_literal hmem]
      rfl
  | usageLow =>
    cases hlink
    rw [if_neg (by simp), opened, filters_usageBelow, queryFloat_written hjs]
    simp only [MachineList.figure, machineFiltersToParams, parseHours_literal]
    simp only [requested, readParam, hoursOf_literal]
    rfl
  | usageHigh =>
    cases hlink
    rw [if_neg (by simp), opened, filters_usageAbove, queryFloat_written hjs]
    simp only [MachineList.figure, machineFiltersToParams, parseHours_literal]
    simp only [requested, readParam, hoursOf_literal]
    rfl
  | total =>
    cases hlink
    rfl
  | _ =>
    cases hlink
    rw [if_neg (by simp)]
    rfl

variable {text : Text} {s : Fleet text} {settings : Settings} {py : AgentVersion.Digits} {scope : Option Scope}
  (locale : MachineSearch.Locale)

/-- **A card opens a list of as many postes as it says**, whatever the parc, the scope and the settings, read at the
same instant; a threshold of the disk that the page does not offer opens the whole parc. -/
theorem card_opens_its_list (hjs : js.Documented) {names names' versions : List String} (hnames : names.Perm names')
    {now : Time} {o : StatsOverview} (h : overview py s settings scope names now = some o) {fig : Figure}
    {query : List (String × String)} (hlink : fig.link js o = some query) (sort : Option (MachineSortField × Bool)) :
    ∃ f l, opened js readUuid query = some f ∧
      listMachines py locale s settings scope f names' versions now sort = some l ∧
      l.rows.length = if fig = .lowDisk ∧ offGrid o = true then o.total else fig.value o := by
  rw [opened_link readUuid hjs o hlink]
  by_cases hoff : fig = .lowDisk ∧ offGrid o = true
  · rw [if_pos hoff, if_pos hoff]
    obtain ⟨l, hl, htotal⟩ := figure_eq_total locale hnames h .total sort
    exact ⟨_, l, rfl, hl, htotal⟩
  · rw [if_neg hoff, if_neg hoff]
    obtain ⟨l, hl, htotal⟩ := figure_eq_total locale hnames h fig sort
    exact ⟨_, l, rfl, hl, htotal⟩

end Opened

/-! ### A threshold of fifteen percent -/

/-- A poste with so much free of a disk of 1000 MB. -/
def posteFree (id : Uuid) (free : ℤ) : Machine where
  id := id
  location := none
  roomId := none
  adDistinguishedName := none
  adOu := none
  adOuDn := none
  adLocation := none
  updatedAt := 0
  hostname := none
  firstSeen := 0
  lastMaintenanceAt := none
  maintenanceCycleDays := none
  maintenanceOwnerId := none
  domain := none
  agentVersion := some "0.5.0"
  avProductName := none
  wuPendingCount := none
  sessionUserPresent := none
  hwModel := none
  ramTotalMb := none
  systemVolumeTotalMb := some 1000
  systemVolumeFreeMb := some free
  lastSeen := 0

def plainColumns : Columns where
  machineUuid := []
  ipAddress := none
  macAddress := none
  osVersion := none
  hwManufacturer := none
  cpuModel := none
  hwChassisType := none
  isUpToDate := some true
  needsVerification := false
  wuRebootRequired := false
  lastQuickScan := none
  lastFullScan := none
  biosDate := none

/-- Two postes, of which one has twelve percent of its disk left. -/
def twoPostes : Fleet plainText where
  toStored := { twoVisits 100 200 with
    machines := [posteFree 1 120, posteFree 2 500]
    machineIds := by simp [posteFree] }
  columns _ := plainColumns
  volumes := []
  threatMachine := fun _ hx => nomatch hx
  checkMachine := fun _ hc => nomatch hc
  installedMachine := fun _ hl => nomatch hl
  installedSoftware := fun _ hl => nomatch hl

lemma lt_wholeBound (n : Fin 101) : (n : ℕ) < 2 ^ 53 := by omega

/-- The percentages, and hours no longer. -/
def whole (n : Fin 101) : Whole := ⟨n, lt_wholeBound n⟩

def fifteenPercent : Settings where
  inactiveAfterDays := 30
  lowDiskFreePercent := whole 15
  hardwareAgingYears := 5
  agentExpectedVersion := none
  usageWindowDays := 7
  usageLowHours := whole 10
  usageHighHours := whole 30
  offlineAfterSeconds := 180

/-- What the dashboard says of them. -/
def twoPostesOverview : StatsOverview where
  total := 2
  upToDate := 2
  outdated := 0
  needsVerification := 0
  inactive := 0
  withActiveThreats := 0
  machinesWuPending := 0
  machinesRebootRequired := 0
  machinesLowDisk := 1
  machinesUnencrypted := 0
  machinesAging := 0
  softwareCount := 0
  lowDiskFreePercent := whole 15
  hardwareAgingYears := 5
  machinesAgentOutdated := 0
  openChecks := 0
  machinesMaintenanceOverdue := 0
  machinesMaintenanceDueSoon := 0
  agentLatestVersion := some "0.5.0"
  machinesUsageLow := 0
  machinesUsageHigh := 0
  usageLowHours := whole 10
  usageHighHours := whole 30
  usageWindowDays := 7
  usageSince := none

lemma overview_twoPostes :
    overview .ascii twoPostes fifteenPercent none ["0.5.0"] 0 = some twoPostesOverview := by
  decide +kernel

/-- The card says one, and the list has both. -/
theorem card_opens_its_list_fifteen : twoPostesOverview.machinesLowDisk = 1 ∧
    ∃ f l, opened MachineList.decimal (fun _ => none) [("disk_free_below", "15")] = some f ∧
      listMachines .ascii MachineSearch.asciiLower twoPostes fifteenPercent none f ["0.5.0"] [] 0 none = some l ∧
      l.rows.length = 2 := by
  have hlink : Figure.lowDisk.link MachineList.decimal twoPostesOverview = some [("disk_free_below", "15")] := by
    decide +kernel
  exact ⟨rfl, card_opens_its_list (fun _ => none) _ MachineList.decimal_documented (List.Perm.refl _)
    overview_twoPostes hlink none⟩

end Tiai.Lists.Cards
