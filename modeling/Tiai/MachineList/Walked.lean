import Tiai.Lib.Runs
import Tiai.MachineList.Filters

/-!
# The fiche walks the list that is shown

The page writes its filters into the URL, and reads them back; the fiche d'un poste asks the server with what the URL
says, the list with what the page holds.

* `Offered`, `offered_run` — what the page holds is what a URL or a widget may set;
* `Carries`, `carries_toQuery` — what is written into a URL is read from it;
* `paramsFromQuery_eq_iff` — the two ask the same, but for a kind of poste outside the closed list;
* `filtersFromQuery_eq` — what the page holds then, as it is read;
* `list_is_walked` — both, for whatever URL and whatever was set since.
-/

namespace Tiai.MachineList

open Lib

variable {js : Numbers}

/-! ### What the page holds -/

/-- What no widget and no URL could have set is not there. -/
structure Offered (f : MachineFilters js) : Prop where
  mismatch : ∀ v ∈ f.mismatch, v = "true"
  checkOpen : ∀ v ∈ f.checkOpen, v = "true"
  maintenance : ∀ v ∈ f.maintenance, v ∈ maintenanceOptions
  scan : ∀ v ∈ f.scan, v ∈ scanOptions
  diskFree : ∀ n ∈ f.diskFree, n ∈ diskOptions js
  usageDays : ∀ n ∈ f.usageDays, isPositiveInteger js n = true ∧ n.1 ≤ usageMaxDays
  softwareId : ∀ n ∈ f.softwareId, isPositiveInteger js n = true

lemma offered_empty : Offered (emptyMachineFilters js) := by
  constructor <;> (intro v hv; cases hv)

lemma of_mem_filter {α : Type} {o : Option α} {p : α → Prop} [DecidablePred p] {a : α}
    (h : a ∈ o.filter fun a => decide (p a)) : p a := of_decide_eq_true (Option.mem_filter_iff.1 h).2

/-- A scan that is written from an age that is offered. -/
lemma scan_mem_options (hjs : js.Documented) {scanType : String} (htype : scanType ∈ scanFilters)
    {v : Option LocationQueryValue} : scanType ++ ":" ++ js.string (scanDays js v) ∈ scanOptions := by
  have hdays : scanDays js v ∈ scanAgeDays js := by
    unfold scanDays
    cases h : ((queryValue v).bind js.number).filter (· ∈ scanAgeDays js) with
    | none => exact List.mem_cons_self
    | some n =>
      have hn := of_mem_filter h
      simpa using hn
  have hstring : js.string (scanDays js v) = "7" ∨ js.string (scanDays js v) = "30" := by
    rcases List.mem_cons.1 hdays with h | h
    · rw [h, hjs.digits]
      exact .inl rfl
    · rw [List.mem_singleton.1 h, hjs.digits]
      exact .inr rfl
  simp only [scanFilters, List.mem_cons, List.not_mem_nil, or_false] at htype
  rcases htype with rfl | rfl | rfl <;> rcases hstring with h | h <;> rw [h] <;> decide

lemma offered_fromQuery (hjs : js.Documented) (q : LocationQuery) : Offered (machineFiltersFromQuery js q) where
  mismatch := fun v hv => of_mem_filter (p := (· = "true")) hv
  checkOpen := fun v hv => of_mem_filter (p := (· = "true")) hv
  maintenance := fun v hv => of_mem_filter (p := (· ∈ maintenanceOptions)) hv
  scan := by
    intro v hv
    obtain ⟨scanType, htype, rfl⟩ := Option.map_eq_some_iff.1 hv
    exact scan_mem_options hjs (of_mem_filter htype)
  diskFree := fun n hn => of_mem_filter (p := (· ∈ diskOptions js)) hn
  usageDays := by
    intro n hn
    obtain ⟨hint, hmax⟩ := Option.mem_filter_iff.1 hn
    exact ⟨(Option.mem_filter_iff.1 hint).2, of_decide_eq_true hmax⟩
  softwareId := fun n hn => (Option.mem_filter_iff.1 hn).2

/-- A value that an option of a dropdown is. -/
lemma mem_of_mem_map_val {α : Type} {p : α → Prop} {o : Option {a // p a}} {a : α} (h : a ∈ o.map Subtype.val) :
    p a := by
  obtain ⟨b, -, rfl⟩ := Option.map_eq_some_iff.1 h
  exact b.2

lemma offered_clearUsageFilter {f : MachineFilters js} (h : Offered f) : Offered (clearUsageFilter f) :=
  { h with usageDays := fun n hn => by cases hn }

lemma offered_setUsageMode {f : MachineFilters js} (h : Offered f) (mode : Option UsagePreset)
    (t : Option (UsageThresholds js)) : Offered (setUsageMode f mode t) := by
  unfold setUsageMode
  split
  · exact h
  · exact { h with }
  · exact { h with }
  · exact { h with }
  · exact offered_clearUsageFilter h

lemma offered_clear {f : MachineFilters js} (h : Offered f) (key : MachineFilterKey) :
    Offered (clearMachineFilter f key) := by
  cases key with
  | fleet key => cases key <;> exact { h with }
  | mismatch => exact { h with mismatch := fun v hv => by cases hv }
  | check => exact { h with checkOpen := fun v hv => by cases hv }
  | maintenance => exact { h with maintenance := fun v hv => by cases hv }
  | status => exact { h with }
  | wu => exact { h with }
  | scan => exact { h with scan := fun v hv => by cases hv }
  | ram => exact { h with }
  | disk => exact { h with diskFree := fun n hn => by cases hn }
  | usage => exact offered_clearUsageFilter h
  | software => exact { h with softwareId := fun n hn => by cases hn }

/-- **A widget sets what it offers.** -/
lemma offered_edit {f : MachineFilters js} (h : Offered f) (e : WidgetEdit js) : Offered (edit f e) := by
  cases e with
  | search v => exact { h with }
  | onlineOnly v => exact { h with }
  | threatsOnly v => exact { h with }
  | fleet key v => cases key <;> exact { h with }
  | status v => exact { h with }
  | wu v => exact { h with }
  | scan v => exact { h with scan := fun a ha => mem_of_mem_map_val ha }
  | mismatch v => exact { h with mismatch := fun a ha => List.mem_singleton.1 (mem_of_mem_map_val ha) }
  | maintenance v => exact { h with maintenance := fun a ha => mem_of_mem_map_val ha }
  | checkOpen v => exact { h with checkOpen := fun a ha => List.mem_singleton.1 (mem_of_mem_map_val ha) }
  | ramOp v => exact { h with }
  | ramGb v => exact { h with }
  | diskFree v => exact { h with diskFree := fun a ha => mem_of_mem_map_val ha }
  | usageBelow v => exact { h with }
  | usageAbove v => exact { h with }
  | usageMode mode t => exact offered_setUsageMode h mode t
  | clear key => exact offered_clear h key
  | clearAll => exact offered_empty

/-- **What the page holds is offered**, whatever URL it came from and whatever was set since. -/
theorem offered_run (hjs : js.Documented) (q : LocationQuery) (edits : List (WidgetEdit js)) :
    Offered (run edit (machineFiltersFromQuery js q) edits) :=
  run_invariant (P := Offered) (fun _ e h => offered_edit h e) (offered_fromQuery hjs q) edits

/-! ### What is written is read -/

/-- A name that is not among the entries. -/
lemma lookup_filterMap_of_not_mem {α : Type} {entries : List (String × Option α)} {name : String}
    (h : name ∉ entries.map Prod.fst) :
    (entries.filterMap fun (name, value) => value.map (name, ·)).lookup name = none := by
  rw [List.lookup_eq_none_iff]
  intro p hp
  obtain ⟨⟨n, o⟩, hentry, hvalue⟩ := List.mem_filterMap.1 hp
  obtain ⟨a, -, rfl⟩ := Option.map_eq_some_iff.1 hvalue
  have hne : name ≠ n := fun heq => h (heq ▸ List.mem_map_of_mem hentry)
  simpa using hne

/-- An entry of distinct names is what its name is looked up as. -/
lemma lookup_filterMap {α : Type} {entries : List (String × Option α)} (hnames : (entries.map Prod.fst).Nodup)
    {name : String} {value : Option α} (h : (name, value) ∈ entries) :
    (entries.filterMap fun (name, value) => value.map (name, ·)).lookup name = value := by
  induction entries with
  | nil => cases h
  | cons entry entries ih =>
    rw [List.map_cons, List.nodup_cons] at hnames
    rcases List.mem_cons.1 h with rfl | htail
    · cases value with
      | none => exact show (entries.filterMap _).lookup name = none from lookup_filterMap_of_not_mem hnames.1
      | some a => simp
    · obtain ⟨n, o⟩ := entry
      have hmem : name ∈ entries.map Prod.fst := List.mem_map.2 ⟨_, htail, rfl⟩
      have hne : (name == n) = false := by simpa using fun heq : name = n => hnames.1 (heq ▸ hmem)
      cases o with
      | none => exact ih hnames.2 htail
      | some a => simpa [List.lookup_cons, hne] using ih hnames.2 htail

/-- The names of a URL's parameters are distinct. -/
lemma nodup_names (f : MachineFilters js) : ((queryEntries f).map Prod.fst).Nodup := by
  simp only [queryEntries, List.map_cons, List.map_nil]
  decide

/-- A value that a URL keeps: it is not empty. -/
def Written (v : Option String) : Prop := ∀ s ∈ v, s ≠ ""

lemma written_none : Written none := fun s hs => by cases hs

lemma written_given {s : String} : Written (given s) := by
  unfold given
  split
  · exact written_none
  · rename_i hs
    exact fun t ht => Option.some.inj ht ▸ hs

lemma written_givenText {s : Option String} : Written (givenText s) :=
  fun _ ht => of_mem_filter (p := (· ≠ "")) ht

lemma written_trueText {b : Bool} : Written (trueText b) := by
  unfold trueText
  split
  · exact fun t ht => Option.some.inj ht ▸ (by decide)
  · exact written_none

lemma written_string (hjs : js.Documented) {o : Option js.Value} : Written (o.map js.string) := by
  intro s hs
  obtain ⟨n, -, rfl⟩ := Option.map_eq_some_iff.1 hs
  exact hjs.written n

lemma written_oneOf {values : List String} (h : "" ∉ values) {o : Option (OneOf values)} :
    Written (o.map Subtype.val) := by
  intro s hs hempty
  exact h (hempty ▸ mem_of_mem_map_val hs)

lemma written_ite {p : Prop} [Decidable p] {v w : Option String} (hv : Written v) (hw : Written w) :
    Written (if p then v else w) := by
  split
  · exact hv
  · exact hw

lemma queryValue_text {s : Option String} (h : Written s) : queryValue (s.map .text) = s := by
  cases s with
  | none => rfl
  | some t => exact if_neg (h t rfl)

/-- The two halves of a scan that is offered. -/
lemma scanParts_of_mem (hjs : js.Documented) {scan : String} (h : scan ∈ scanOptions) :
    ∃ scanType ∈ scanFilters, ∃ n ∈ scanAgeDays js,
      scanParts scan = [scanType, js.string n] ∧ scan = scanType ++ ":" ++ js.string n := by
  have hseven : js.string (js.literal 7 (by decide)) = "7" := hjs.digits 7 _
  have hthirty : js.string (js.literal 30 (by decide)) = "30" := hjs.digits 30 _
  have h7 : js.literal 7 (by decide) ∈ scanAgeDays js := List.mem_cons_self
  have h30 : js.literal 30 (by decide) ∈ scanAgeDays js := List.mem_cons_of_mem _ List.mem_cons_self
  simp only [scanOptions, List.mem_cons, List.not_mem_nil, or_false] at h
  rcases h with rfl | rfl | rfl | rfl | rfl | rfl
  · exact ⟨"quick", by decide, _, h7, by rw [hseven]; decide, by rw [hseven]; decide⟩
  · exact ⟨"quick", by decide, _, h30, by rw [hthirty]; decide, by rw [hthirty]; decide⟩
  · exact ⟨"full", by decide, _, h7, by rw [hseven]; decide, by rw [hseven]; decide⟩
  · exact ⟨"full", by decide, _, h30, by rw [hthirty]; decide, by rw [hthirty]; decide⟩
  · exact ⟨"both", by decide, _, h7, by rw [hseven]; decide, by rw [hseven]; decide⟩
  · exact ⟨"both", by decide, _, h30, by rw [hthirty]; decide, by rw [hthirty]; decide⟩

lemma written_scanPart (hjs : js.Documented) {f : MachineFilters js} (hf : Offered f) (i : ℕ) :
    Written ((givenText f.scan).bind fun scan => (scanParts scan)[i]?) := by
  intro s hs
  obtain ⟨scan, hscan, hs⟩ := Option.bind_eq_some_iff.1 hs
  obtain ⟨scanType, htype, n, -, hparts, -⟩ := scanParts_of_mem hjs (hf.scan scan (Option.mem_filter_iff.1 hscan).1)
  rw [hparts] at hs
  have hmem := List.mem_of_getElem? hs
  simp only [List.mem_cons, List.not_mem_nil, or_false] at hmem
  rcases hmem with rfl | rfl
  · rintro rfl
    exact absurd htype (by decide)
  · exact hjs.written n

/-- No value that is written is empty. -/
lemma written_entries (hjs : js.Documented) {f : MachineFilters js} (hf : Offered f) :
    ∀ e ∈ queryEntries f, Written e.2 := by
  have hram : Written (if isRamActive f then (ramGbValue f).map js.string else none) :=
    written_ite (written_string hjs) written_none
  simp only [queryEntries, List.forall_mem_cons]
  exact ⟨written_given, written_given, written_givenText, written_givenText, written_givenText, written_givenText,
    written_givenText, written_givenText, written_givenText, written_givenText, written_trueText,
    written_ite written_none written_givenText, written_oneOf (by decide), written_oneOf (by decide),
    written_scanPart hjs hf 0, written_scanPart hjs hf 1, written_trueText, written_trueText, written_givenText,
    written_givenText, written_givenText, written_givenText, written_ite hram written_none,
    written_ite written_none hram, written_string hjs, written_string hjs, written_string hjs, written_string hjs,
    written_string hjs, fun e he => by cases he⟩

/-- The memory bound of one side. -/
def ramBound (f : MachineFilters js) (lower : Bool) : Option js.Value :=
  if isRamActive f ∧ decide (f.ramOp = some .min) = lower then ramGbValue f else none

/-- A URL that carries the filters. -/
structure Carries (f : MachineFilters js) (q : LocationQuery) : Prop where
  search : queryValue (q "search") = given f.search
  domain : queryValue (q "domain") = given f.domain
  location : queryValue (q "location") = givenText f.location
  building : queryValue (q "building") = givenText f.building
  room : queryValue (q "room") = givenText f.room
  mismatch : queryValue (q "location_mismatch") = givenText f.mismatch
  checkOpen : queryValue (q "check_open") = givenText f.checkOpen
  maintenance : queryValue (q "maintenance_state") = givenText f.maintenance
  antivirus : queryValue (q "antivirus") = givenText f.antivirus
  os : queryValue (q "os_version") = givenText f.os
  agentOutdated : queryValue (q "agent_outdated") = trueText (f.agent = some agentOutdated)
  agentVersion : queryValue (q "agent_version") =
    if f.agent = some MachineList.agentOutdated then none else givenText f.agent
  status : queryValue (q "status") = f.status.map Subtype.val
  wu : queryValue (q "wu_status") = f.wu.map Subtype.val
  scanType : queryValue (q "scan_type") = (givenText f.scan).bind fun scan => (scanParts scan)[0]?
  scanDays : queryValue (q "scan_days") = (givenText f.scan).bind fun scan => (scanParts scan)[1]?
  threatsOnly : queryValue (q "with_active_threats") = trueText f.threatsOnly
  onlineOnly : queryValue (q "online") = trueText f.onlineOnly
  model : queryValue (q "hw_model") = givenText f.model
  manufacturer : queryValue (q "hw_manufacturer") = givenText f.manufacturer
  processor : queryValue (q "cpu_model") = givenText f.processor
  chassis : queryValue (q "hw_chassis_type") = givenText f.chassis
  ramMin : queryValue (q "ram_min_gb") = (ramBound f true).map js.string
  ramMax : queryValue (q "ram_max_gb") = (ramBound f false).map js.string
  diskFree : queryValue (q "disk_free_below") = f.diskFree.map js.string
  usageBelow : queryValue (q "usage_hours_below") = (parseHours f.usageBelow).map js.string
  usageAbove : queryValue (q "usage_hours_above") = (parseHours f.usageAbove).map js.string
  usageDays : queryValue (q "usage_days") = f.usageDays.map js.string
  softwareId : queryValue (q "software_id") = f.softwareId.map js.string
  unsorted : queryValue (q "sort_by") = none

/-- **What is written is read.** -/
theorem carries_toQuery (hjs : js.Documented) {f : MachineFilters js} (hf : Offered f) :
    Carries f (asQuery (machineFiltersToQuery f)) := by
  have hread : ∀ name value, (name, value) ∈ queryEntries f →
      queryValue (asQuery (machineFiltersToQuery f) name) = value := by
    intro name value h
    rw [asQuery, machineFiltersToQuery, lookup_filterMap (nodup_names f) h]
    exact queryValue_text (written_entries hjs hf _ h)
  have hmin : (if f.ramOp = some .min then (if isRamActive f then (ramGbValue f).map js.string else none) else none) =
      (ramBound f true).map js.string := by
    unfold ramBound
    by_cases hop : f.ramOp = some .min <;> by_cases hactive : isRamActive f = true <;> simp [hop, hactive]
  have hmax : (if f.ramOp = some .min then none else if isRamActive f then (ramGbValue f).map js.string else none) =
      (ramBound f false).map js.string := by
    unfold ramBound
    by_cases hop : f.ramOp = some .min <;> by_cases hactive : isRamActive f = true <;> simp [hop, hactive]
  constructor
  case ramMin => rw [← hmin]; exact hread _ _ (by simp [queryEntries])
  case ramMax => rw [← hmax]; exact hread _ _ (by simp [queryEntries])
  case unsorted =>
    rw [asQuery, machineFiltersToQuery, lookup_filterMap_of_not_mem]
    · rfl
    · simp [queryEntries]
  all_goals exact hread _ _ (by simp [queryEntries])

/-! ### Reading a value back -/

lemma trueText_eq_some {b : Bool} : trueText b = some "true" ↔ b = true := by
  cases b <;> simp [trueText]

lemma oneOf_val {values : List String} (o : Option (OneOf values)) :
    (o.map Subtype.val).bind (oneOf values) = o := by
  cases o with
  | none => rfl
  | some v => exact dif_pos v.2

lemma filter_eq_self {α : Type} {o : Option α} {p : α → Bool} (h : ∀ a ∈ o, p a = true) : o.filter p = o := by
  cases o with
  | none => rfl
  | some a => exact Option.filter_some_pos (h a rfl)

lemma bind_number (hjs : js.Documented) (o : Option js.Value) : (o.map js.string).bind js.number = o := by
  cases o with
  | none => rfl
  | some n => exact hjs.roundTrip n

lemma queryInt_eq (hjs : js.Documented) {v : Option LocationQueryValue} {o : Option js.Value}
    (h : queryValue v = o.map js.string) (hpositive : ∀ n ∈ o, isPositiveInteger js n = true) : queryInt js v = o := by
  rw [queryInt, h, bind_number hjs]
  exact filter_eq_self hpositive

lemma queryFloat_eq (hjs : js.Documented) {v : Option LocationQueryValue} {o : Option js.Value}
    (h : queryValue v = o.map js.string) (hsign : ∀ n ∈ o, 0 ≤ n.1) : queryFloat js v = o := by
  rw [queryFloat, h, bind_number hjs]
  exact filter_eq_self fun n hn => decide_eq_true (hsign n hn)

lemma isPositiveInteger_ramBound (f : MachineFilters js) (lower : Bool) :
    ∀ n ∈ ramBound f lower, isPositiveInteger js n = true := by
  intro n hn
  unfold ramBound at hn
  split at hn
  · unfold ramGbValue at hn
    split at hn
    · cases hn
    · exact (Option.mem_filter_iff.1 hn).2
    · exact (Option.mem_filter_iff.1 hn).2
  · cases hn

lemma nonneg_parseHours (t : Typed js) : ∀ n ∈ parseHours t, 0 ≤ n.1 := by
  intro n hn
  unfold parseHours at hn
  split at hn
  · cases hn
  · exact of_decide_eq_true (Option.mem_filter_iff.1 hn).2
  · exact of_decide_eq_true (Option.mem_filter_iff.1 hn).2

/-- A percentage that is offered. -/
lemma diskOption_spec {n : js.Value} (h : n ∈ diskOptions js) : isPositiveInteger js n = true ∧ n.1 ≤ 100 := by
  have hoption : ∀ k ∈ [10, 20], ((k : ℕ) : ℚ).isInt = true ∧ 0 < ((k : ℕ) : ℚ) ∧ ((k : ℕ) : ℚ) ≤ 100 := by decide
  have hvalue : ∃ k ∈ [10, 20], n.1 = ((k : ℕ) : ℚ) := by
    simp only [diskOptions, List.mem_cons, List.not_mem_nil, or_false] at h
    rcases h with rfl | rfl
    · exact ⟨10, by decide, rfl⟩
    · exact ⟨20, by decide, rfl⟩
  obtain ⟨k, hk, heq⟩ := hvalue
  obtain ⟨hint, hpos, hle⟩ := hoption k hk
  rw [isPositiveInteger, heq]
  exact ⟨by simp [hint, hpos], hle⟩

section

variable {f : MachineFilters js} {q : LocationQuery}

/-- A scan, as the server is asked and as the page holds it. -/
lemma scan_read (hjs : js.Documented) (hf : Offered f) (h : Carries f q) :
    (queryValue (q "scan_type")).filter (· ∈ scanFilters) = (givenText f.scan).bind (fun scan => (scanParts scan)[0]?) ∧
    ((queryValue (q "scan_type")).filter (· ∈ scanFilters)).map (fun _ => scanDays js (q "scan_days")) =
      (givenText f.scan).bind (fun scan => (scanParts scan)[1]?.bind js.number) ∧
    ((queryValue (q "scan_type")).filter (· ∈ scanFilters)).map
      (fun scanType => scanType ++ ":" ++ js.string (scanDays js (q "scan_days"))) = f.scan := by
  rw [h.scanType]
  unfold scanDays
  rw [h.scanDays]
  cases hscan : f.scan with
  | none => exact ⟨rfl, rfl, rfl⟩
  | some scan =>
    obtain ⟨scanType, htype, n, hn, hparts, rfl⟩ := scanParts_of_mem hjs (hf.scan scan hscan)
    have hgiven : givenText (some (scanType ++ ":" ++ js.string n)) = some (scanType ++ ":" ++ js.string n) := by
      refine filter_eq_self fun t ht => decide_eq_true ?_
      rw [← Option.some.inj ht]
      exact fun hempty => by simpa using congrArg String.length hempty
    have hdays : (some n).filter (· ∈ scanAgeDays js) = some n := Option.filter_some_pos (decide_eq_true hn)
    rw [hgiven]
    simp [hparts, htype, hjs.roundTrip, hdays]

lemma room_read (room : Option String) :
    (decide (givenText room = some "none") = decide (room = some roomNone)) ∧
      (givenText room).filter (· ≠ "none") = if room = some roomNone then none else givenText room := by
  unfold givenText roomNone
  cases room with
  | none => simp
  | some r =>
    by_cases hempty : r = ""
    · subst hempty
      simp [Option.filter]
    · by_cases hnone : r = "none" <;> simp [Option.filter, hempty, hnone]

lemma filter_of_offered {o : Option String} {values : List String} (h : ∀ v ∈ o, v ∈ values) :
    (givenText o).filter (· ∈ values) = givenText o :=
  filter_eq_self fun v hv => decide_eq_true (h v (Option.mem_filter_iff.1 hv).1)

lemma maintenance_read (hf : Offered f) :
    (givenText f.maintenance).filter (· ∈ maintenanceStates) = givenText f.maintenance := by
  refine filter_of_offered fun v hv => ?_
  have hstates : ∀ v ∈ maintenanceOptions, v ∈ maintenanceStates := by decide
  exact hstates v (hf.maintenance v hv)

/-- A dropdown of one entry. -/
lemma true_read {o : Option String} (h : ∀ v ∈ o, v = "true") :
    decide (givenText o = some "true") = (givenText o).isSome ∧ (givenText o).filter (· = "true") = o := by
  cases o with
  | none => exact ⟨rfl, rfl⟩
  | some v =>
    rw [h v rfl]
    exact ⟨rfl, rfl⟩

lemma ram_read (hjs : js.Documented) (h : Carries f q) :
    queryInt js (q "ram_min_gb") = ramBound f true ∧ queryInt js (q "ram_max_gb") = ramBound f false :=
  ⟨queryInt_eq hjs h.ramMin (isPositiveInteger_ramBound f true),
    queryInt_eq hjs h.ramMax (isPositiveInteger_ramBound f false)⟩

lemma usage_read (hjs : js.Documented) (h : Carries f q) :
    queryFloat js (q "usage_hours_below") = parseHours f.usageBelow ∧
      queryFloat js (q "usage_hours_above") = parseHours f.usageAbove :=
  ⟨queryFloat_eq hjs h.usageBelow (nonneg_parseHours f.usageBelow),
    queryFloat_eq hjs h.usageAbove (nonneg_parseHours f.usageAbove)⟩

lemma usageDays_read (hjs : js.Documented) (hf : Offered f) (h : Carries f q) :
    (queryInt js (q "usage_days")).filter (fun n => n.1 ≤ usageMaxDays) = f.usageDays := by
  rw [queryInt_eq hjs h.usageDays fun n hn => (hf.usageDays n hn).1]
  exact filter_eq_self fun n hn => decide_eq_true (hf.usageDays n hn).2

/-- **What the fiche asks** is what the list asks, the kind of poste only when it is one that a URL may name. -/
theorem paramsFromQuery_eq (hjs : js.Documented) (hf : Offered f) (h : Carries f q) :
    machineListParamsFromQuery js q =
      { machineFiltersToParams f with hwChassisType := (givenText f.chassis).filter (· ∈ chassisTypes) } := by
  obtain ⟨hscanType, hscanDays, -⟩ := scan_read hjs hf h
  obtain ⟨hwithoutRoom, hroomId⟩ := room_read f.room
  have hdisk : (queryInt js (q "disk_free_below")).filter (fun n => n.1 ≤ 100) = f.diskFree := by
    rw [queryInt_eq hjs h.diskFree fun n hn => (diskOption_spec (hf.diskFree n hn)).1]
    exact filter_eq_self fun n hn => decide_eq_true (diskOption_spec (hf.diskFree n hn)).2
  have hsoftware : queryInt js (q "software_id") = f.softwareId := queryInt_eq hjs h.softwareId hf.softwareId
  simp only [machineListParamsFromQuery, machineFiltersToParams, hscanDays, ram_read hjs h, hdisk,
    usageDays_read hjs hf h, hsoftware, usage_read hjs h, h.search, h.domain, h.location, h.building, h.room,
    h.mismatch, h.checkOpen, h.maintenance, h.antivirus, h.os, h.agentOutdated, h.agentVersion, h.status, h.wu, h.threatsOnly, h.onlineOnly,
    h.model, h.manufacturer, h.processor, h.chassis, h.unsorted, hwithoutRoom, hroomId, maintenance_read hf,
    (true_read hf.mismatch).1, (true_read hf.checkOpen).1, oneOf_val, trueText_eq_some]
  simp [hscanType, ramBound]

/-- The dropdown of the kinds of poste offers what the fleet has, and a URL may only name the kinds of a closed list. -/
theorem paramsFromQuery_eq_iff (hjs : js.Documented) (hf : Offered f) (h : Carries f q) :
    machineListParamsFromQuery js q = machineFiltersToParams f ↔ ∀ kind ∈ givenText f.chassis, kind ∈ chassisTypes := by
  rw [paramsFromQuery_eq hjs hf h]
  constructor
  · intro heq kind hkind
    have hchassis : (givenText f.chassis).filter (· ∈ chassisTypes) = givenText f.chassis :=
      congrArg ListMachinesParams.hwChassisType heq
    rw [← hchassis] at hkind
    exact of_mem_filter hkind
  · intro hkinds
    rw [show (givenText f.chassis).filter (· ∈ chassisTypes) = (machineFiltersToParams f).hwChassisType from
      filter_eq_self fun kind hkind => decide_eq_true (hkinds kind hkind)]

/-! ### The filters, read back -/

/-- The filters as they are read: an empty text is none, and so is a pair for the memory that is not complete; a figure
that was typed is its number, if it is one. -/
def asRead (f : MachineFilters js) : MachineFilters js :=
  { f with
    location := givenText f.location
    building := givenText f.building
    room := givenText f.room
    antivirus := givenText f.antivirus
    os := givenText f.os
    agent := givenText f.agent
    model := givenText f.model
    manufacturer := givenText f.manufacturer
    processor := givenText f.processor
    chassis := givenText f.chassis
    ramOp := if isRamActive f then f.ramOp else none
    ramGb := if isRamActive f then figure (ramGbValue f) else .null
    usageBelow := figure (parseHours f.usageBelow)
    usageAbove := figure (parseHours f.usageAbove) }

lemma given_getD (s : String) : (given s).getD "" = s := by
  unfold given
  split
  · rename_i hs
    exact hs.symm
  · rfl

lemma maintenance_held (hf : Offered f) :
    (givenText f.maintenance).filter (· ∈ maintenanceOptions) = f.maintenance := by
  rw [filter_of_offered hf.maintenance]
  refine filter_eq_self fun v hv => decide_eq_true ?_
  rintro rfl
  exact absurd (hf.maintenance "" hv) (by decide)

lemma agent_read (h : Carries f q) : agentOf q = givenText f.agent := by
  unfold agentOf
  rw [h.agentOutdated, h.agentVersion]
  by_cases hagent : f.agent = some agentOutdated
  · simp only [hagent, decide_true, trueText, if_true]
    rfl
  · simp [hagent, trueText]

/-- The pair for the memory. -/
lemma ram_held (f : MachineFilters js) :
    (if (ramBound f true).isSome then some RamOp.min else if (ramBound f false).isSome then some .max else none) =
        (if isRamActive f then f.ramOp else none) ∧
      figure ((ramBound f true).or (ramBound f false)) = if isRamActive f then figure (ramGbValue f) else .null := by
  unfold ramBound
  by_cases hactive : isRamActive f = true
  · obtain ⟨hop, hvalue⟩ : f.ramOp.isSome = true ∧ (ramGbValue f).isSome = true := by
      simpa [isRamActive] using hactive
    cases hop' : f.ramOp with
    | none => rw [hop'] at hop; cases hop
    | some op => cases op <;> simp [hactive, hvalue]
  · simp [hactive, figure]

/-- **What the page holds after the URL was read** is what it held, as it is read. -/
theorem filtersFromQuery_eq (hjs : js.Documented) (hf : Offered f) (h : Carries f q) :
    machineFiltersFromQuery js q =
      { asRead f with chassis := (givenText f.chassis).filter (· ∈ chassisTypes) } := by
  obtain ⟨-, -, hscan⟩ := scan_read hjs hf h
  obtain ⟨hramOp, hramGb⟩ := ram_held f
  have hdisk : ((queryValue (q "disk_free_below")).bind js.number).filter (· ∈ diskOptions js) = f.diskFree := by
    rw [h.diskFree, bind_number hjs]
    exact filter_eq_self fun n hn => decide_eq_true (hf.diskFree n hn)
  have hsoftware : ((queryValue (q "software_id")).bind js.number).filter (isPositiveInteger js) = f.softwareId := by
    rw [h.softwareId, bind_number hjs]
    exact filter_eq_self hf.softwareId
  simp only [machineFiltersFromQuery, asRead, hscan, ram_read hjs h, hramOp, hramGb, hdisk, usageDays_read hjs hf h,
    hsoftware, usage_read hjs h, agent_read h, h.search, h.domain, h.location, h.building, h.room, h.mismatch,
    h.checkOpen, h.maintenance, h.antivirus, h.os, h.status, h.wu, h.threatsOnly, h.onlineOnly, h.model, h.manufacturer, h.processor, h.chassis,
    given_getD, (true_read hf.mismatch).2, (true_read hf.checkOpen).2, maintenance_held hf, oneOf_val, trueText_eq_some,
    Bool.decide_eq_true]

end

/-! ### The list and the fiche -/

/-- **The fiche walks the list that is shown**, and the page holds what it held, as it is read: for whatever URL and
whatever was set since, the kind of poste one of the closed list. -/
theorem list_is_walked (hjs : js.Documented) (q : LocationQuery) (edits : List (WidgetEdit js))
    (hkinds : ∀ kind ∈ givenText (run edit (machineFiltersFromQuery js q) edits).chassis, kind ∈ chassisTypes) :
    let f := run edit (machineFiltersFromQuery js q) edits
    machineListParamsFromQuery js (asQuery (machineFiltersToQuery f)) = machineFiltersToParams f ∧
      machineFiltersFromQuery js (asQuery (machineFiltersToQuery f)) = asRead f := by
  have hf := offered_run hjs q edits
  dsimp only
  generalize run edit (machineFiltersFromQuery js q) edits = f at hf hkinds ⊢
  have hcarries := carries_toQuery hjs hf
  refine ⟨(paramsFromQuery_eq_iff hjs hf hcarries).2 hkinds, ?_⟩
  rw [filtersFromQuery_eq hjs hf hcarries]
  rw [show (givenText f.chassis).filter (· ∈ chassisTypes) = (asRead f).chassis from
    filter_eq_self fun kind hkind => decide_eq_true (hkinds kind hkind)]

/-- The natural numbers, in decimal. -/
def decimal : Numbers where
  IsNumber x := ((x.num.toNat : ℕ) : ℚ) = x
  natural n _ := by simp
  number s :=
    if s.toList.all Char.isDigit then some ⟨(Nat.ofDigitChars 10 s.toList 0 : ℕ), by simp⟩ else none
  string n := n.1.num.toNat.repr

lemma decimal_documented : decimal.Documented where
  roundTrip := by
    intro n
    have hdigits : (n.1.num.toNat.repr).toList.all Char.isDigit = true := by
      rw [Nat.toList_repr, List.all_eq_true]
      exact fun c hc => Nat.isDigit_of_mem_toDigits (by decide) (by decide) hc
    have hvalue : Nat.ofDigitChars 10 (n.1.num.toNat.repr).toList 0 = n.1.num.toNat := by
      rw [Nat.toList_repr]
      simp
    refine (if_pos hdigits).trans (congrArg some (Subtype.ext ?_))
    exact (congrArg (Nat.cast (R := ℚ)) hvalue).trans n.2
  digits n _ := by simp [decimal, Numbers.literal]
  written n := Nat.repr_ne_empty

/-- A URL of the dashboard, and what a reader sets on the page. -/
def dashboardQuery : LocationQuery := asQuery [("status", "outdated"), ("ram_max_gb", "8")]

def readerEdits : List (WidgetEdit decimal) :=
  [.search (some "pc-12"), .fleet .chassis (some "laptop"), .ramOp (some .min), .ramGb (.text "16"),
    .scan (some ⟨"full:30", by decide⟩)]

theorem list_is_walked_dashboard :
    let f := run edit (machineFiltersFromQuery decimal dashboardQuery) readerEdits
    machineListParamsFromQuery decimal (asQuery (machineFiltersToQuery f)) = machineFiltersToParams f ∧
      machineFiltersFromQuery decimal (asQuery (machineFiltersToQuery f)) = asRead f :=
  list_is_walked decimal_documented dashboardQuery readerEdits (by decide)

/-- The page, after a kind of poste that the agent reports by its code was picked. -/
def pickedCode : MachineFilters decimal :=
  run edit (machineFiltersFromQuery decimal fun _ => none) [.fleet .chassis (some "chassis-25")]

/-- And after a figure was typed. -/
def typedFigure : MachineFilters decimal :=
  run edit (machineFiltersFromQuery decimal fun _ => none) [.ramOp (some .min), .ramGb (.text "16")]

theorem list_is_not_walked :
    machineListParamsFromQuery decimal (asQuery (machineFiltersToQuery pickedCode)) ≠
        machineFiltersToParams pickedCode ∧
      isRamActive typedFigure = true ∧
      machineFiltersFromQuery decimal (asQuery (machineFiltersToQuery typedFigure)) ≠ typedFigure := by
  refine ⟨fun heq => ?_, by decide, fun heq => ?_⟩
  · have hchassis := congrArg ListMachinesParams.hwChassisType heq
    exact absurd hchassis (by decide)
  · have hram := congrArg MachineFilters.ramGb heq
    exact absurd hram (by decide)

end Tiai.MachineList
