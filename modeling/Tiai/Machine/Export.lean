import Mathlib
import Tiai.Lib.Csv
import Tiai.Lib.Trim
import Tiai.Machine.Online
import Tiai.Maintenance.Policy
import Tiai.Room.Model
import Tiai.Text

/-!
# The fleet in a spreadsheet

`api/machine_export.py` and `api/csv_export.py`, as `export_machines_csv` (`api/routes/machines.py`) puts them together:
the columns that a request asks for, the cells of a poste, and the file.  The rows are those of the list, and the file
is read by whoever follows the quotes.

* `columns`, `resolveColumns` — the catalogue, and the columns asked for;
* `csvValue`, `neutralize`, `csvResponse` — a cell, and the file;
* `resolveColumns_eq` — the columns are those asked for, each once and in that order, or the request is refused;
* `export_reads_back` — the file read back, and its cells that a spreadsheet would run.
-/

namespace Tiai.MachineExport

open Lib

/-! ### The catalogue -/

/-- A value of a cell, by its type. -/
inductive Value
  | none
  | text (s : String)
  | int (n : ℤ)
  | float (q : ℚ)
  | bool (b : Bool)
  | date (d : ℤ)
  | datetime (t : Time)
  deriving DecidableEq

/-- The truth of a value. -/
def Value.truthy : Value → Bool
  | .none => false
  | .text s => s ≠ ""
  | .int n => n ≠ 0
  | .float q => q ≠ 0
  | .bool b => b
  | .date _ => true
  | .datetime _ => true

/-- `v or w`. -/
def Value.or (v w : Value) : Value := if v.truthy then v else w

def Value.ofText (s : Option String) : Value := s.elim .none .text

def Value.toText : Value → Option String
  | .text s => some s
  | _ => Option.none

inductive Kind
  | text
  | int
  | float
  | bool
  | date
  | datetime
  deriving DecidableEq

/-- What `MachineCheck` gives to the export. -/
structure OpenCheck where
  instructions : Option String

/-- `ExportRow`, read at an instant; `machine` is `getattr`. -/
structure ExportRow where
  machine : String → Value
  room : Option Rooms.Room
  building : Option Rooms.Building
  check : Option OpenCheck
  checkAssignedTo : Option String
  maintenance : Option Maintenance.Resolved
  maintenanceOwner : Option String
  usageHours : Option ℚ
  now : Time
  offlineAfterSeconds : ℤ
  /-- `round(free * 100 / total)`, in doubles. -/
  percent : ℤ → ℤ → ℤ

structure ExportColumn where
  key : String
  label : String
  kind : Kind
  read : ExportRow → Value
  default : Bool

section Readers

variable (r : ExportRow)

/-- `_attr`. -/
def attr (name : String) : ExportRow → Value := fun r => r.machine name

/-- `_building`. -/
def buildingName : Value := .ofText (r.building.map fun b => b.name)

/-- `_room`. -/
def roomName : Value := .ofText (r.room.map fun room => room.name)

def checkOpen : Value := .bool r.check.isSome

def checkAssignedTo : Value := if r.check.isSome then .ofText r.checkAssignedTo else .none

def checkInstructions : Value := .ofText (r.check.bind OpenCheck.instructions)

/-- `MAINTENANCE_LABELS`. -/
def maintenanceLabel : Maintenance.MaintenanceState → String
  | .excluded => "Exclu"
  | .overdue => "En retard"
  | .dueSoon => "À échéance"
  | .ok => "À jour"

def maintenanceState : Value := .ofText (r.maintenance.map fun m => maintenanceLabel m.state)

def maintenanceDue : Value := (r.maintenance.bind fun m => m.dueAt).elim .none .datetime

def maintenanceOwner : Value := .ofText r.maintenanceOwner

def locationMismatch : Value :=
  if r.room.isNone then .none
  else .bool (Rooms.locationMismatch (r.machine "location").toText (Rooms.effectiveLocation r.room r.building))

/-- `CHASSIS_LABELS`. -/
def chassisLabels : List (String × String) :=
  [("desktop", "Poste fixe"), ("laptop", "Portable"), ("tablet", "Tablette"), ("all-in-one", "Tout-en-un"),
    ("server", "Serveur")]

def chassis : Value :=
  let value := r.machine "hw_chassis_type"
  if value.truthy then (value.toText.bind fun v => chassisLabels.lookup v).elim value .text else .none

def ramGb : Value :=
  match r.machine "ram_total_mb" with
  | .int mb => .int ⌈(mb : ℚ) / 1024⌉
  | _ => .none

def freePercent : Value :=
  match r.machine "system_volume_total_mb", r.machine "system_volume_free_mb" with
  | .int total, .int free => if total = 0 then .none else .int (r.percent free total)
  | _, _ => .none

def online : Value :=
  match r.machine "last_seen" with
  | .datetime lastSeen => .bool (Online.isOnline lastSeen r.now r.offlineAfterSeconds)
  | _ => .none

def session : Value :=
  match r.machine "session_user_present" with
  | .none => .none
  | present => if present.truthy then (r.machine "session_username").or (.text "Utilisateur connecté")
    else .text "Aucun utilisateur"

def usageHours : Value := r.usageHours.elim .none .float

/-- `_antivirus`. -/
def antivirusName : Value :=
  match r.machine "av_product_name" with
  | .none => .none
  | name => name.or (.text "Aucun")

end Readers

/-- `COLUMNS`. -/
def columns : List ExportColumn := [
  ⟨"hostname", "Nom", .text, attr "hostname", true⟩,
  ⟨"domain", "Domaine", .text, attr "domain", true⟩,
  ⟨"location", "Emplacement", .text, attr "location", false⟩,
  ⟨"building", "Bâtiment", .text, buildingName, false⟩,
  ⟨"room", "Salle", .text, roomName, false⟩,
  ⟨"location_mismatch", "Emplacement divergent", .bool, locationMismatch, false⟩,
  ⟨"check_open", "Vérification demandée", .bool, checkOpen, false⟩,
  ⟨"check_assigned_to", "Vérification affectée à", .text, checkAssignedTo, false⟩,
  ⟨"check_instructions", "Vérification : consignes", .text, checkInstructions, false⟩,
  ⟨"maintenance_state", "Maintenance", .text, maintenanceState, false⟩,
  ⟨"maintenance_due_at", "Maintenance due le", .datetime, maintenanceDue, false⟩,
  ⟨"maintenance_owner", "Responsable maintenance", .text, maintenanceOwner, false⟩,
  ⟨"last_maintenance_at", "Dernière maintenance", .datetime, attr "last_maintenance_at", false⟩,
  ⟨"ip_address", "Adresse IP", .text, attr "ip_address", true⟩,
  ⟨"mac_address", "Adresse MAC", .text, attr "mac_address", false⟩,
  ⟨"os_version", "OS", .text, attr "os_version", true⟩,
  ⟨"os_architecture", "Architecture", .text, attr "os_architecture", true⟩,
  ⟨"machine_uuid", "UUID machine", .text, attr "machine_uuid", false⟩,
  ⟨"agent_version", "Version agent", .text, attr "agent_version", false⟩,
  ⟨"session", "Session", .text, session, false⟩,
  ⟨"is_online", "Allumé", .bool, online, false⟩,
  ⟨"usage_hours", "Heures allumées", .float, usageHours, false⟩,
  ⟨"needs_verification", "À vérifier", .bool, attr "needs_verification", false⟩,
  ⟨"last_seen", "Vu le", .datetime, attr "last_seen", true⟩,
  ⟨"first_seen", "Premier contact", .datetime, attr "first_seen", false⟩,
  ⟨"av_product_name", "Antivirus", .text, antivirusName, true⟩,
  ⟨"is_up_to_date", "Antivirus à jour", .bool, attr "is_up_to_date", false⟩,
  ⟨"av_product_enabled", "Protection active", .bool, attr "av_product_enabled", false⟩,
  ⟨"rtp_enabled", "Protection temps réel (Defender)", .bool, attr "rtp_enabled", false⟩,
  ⟨"running_mode", "Mode Defender", .text, attr "running_mode", false⟩,
  ⟨"signature_version", "Version signatures", .text, attr "signature_version", false⟩,
  ⟨"signature_last_updated", "Signatures mises à jour le", .datetime, attr "signature_last_updated", false⟩,
  ⟨"signature_age_days", "Âge signatures (j)", .int, attr "signature_age_days", false⟩,
  ⟨"last_quick_scan", "Dernier scan rapide", .datetime, attr "last_quick_scan", false⟩,
  ⟨"last_full_scan", "Dernier scan complet", .datetime, attr "last_full_scan", false⟩,
  ⟨"wu_pending_count", "MAJ en attente", .int, attr "wu_pending_count", true⟩,
  ⟨"wu_reboot_required", "Redémarrage requis", .bool, attr "wu_reboot_required", false⟩,
  ⟨"wu_last_search", "Dernière recherche MAJ", .datetime, attr "wu_last_search", false⟩,
  ⟨"wu_last_install", "Dernière installation MAJ", .datetime, attr "wu_last_install", false⟩,
  ⟨"hw_manufacturer", "Constructeur", .text, attr "hw_manufacturer", true⟩,
  ⟨"hw_model", "Modèle", .text, attr "hw_model", true⟩,
  ⟨"hw_serial", "N° de série", .text, attr "hw_serial", true⟩,
  ⟨"hw_chassis_type", "Châssis", .text, chassis, true⟩,
  ⟨"hw_is_virtual", "Machine virtuelle", .bool, attr "hw_is_virtual", false⟩,
  ⟨"hw_hypervisor", "Hyperviseur", .text, attr "hw_hypervisor", false⟩,
  ⟨"mb_manufacturer", "Carte mère (constructeur)", .text, attr "mb_manufacturer", false⟩,
  ⟨"mb_model", "Carte mère (modèle)", .text, attr "mb_model", false⟩,
  ⟨"bios_vendor", "BIOS (éditeur)", .text, attr "bios_vendor", false⟩,
  ⟨"bios_version", "BIOS", .text, attr "bios_version", true⟩,
  ⟨"bios_date", "Date BIOS", .date, attr "bios_date", true⟩,
  ⟨"secure_boot", "Secure Boot", .bool, attr "secure_boot", false⟩,
  ⟨"tpm_version", "TPM", .text, attr "tpm_version", false⟩,
  ⟨"cpu_model", "Processeur", .text, attr "cpu_model", true⟩,
  ⟨"cpu_manufacturer", "Processeur (fabricant)", .text, attr "cpu_manufacturer", false⟩,
  ⟨"cpu_cores", "Cœurs", .int, attr "cpu_cores", true⟩,
  ⟨"cpu_threads", "Threads", .int, attr "cpu_threads", false⟩,
  ⟨"cpu_speed_mhz", "Fréquence (MHz)", .int, attr "cpu_speed_mhz", false⟩,
  ⟨"cpu_count", "Processeurs", .int, attr "cpu_count", false⟩,
  ⟨"ram_total_gb", "RAM (Gio)", .int, ramGb, true⟩,
  ⟨"ram_total_mb", "RAM (Mio)", .int, attr "ram_total_mb", false⟩,
  ⟨"ram_slots_used", "Barrettes utilisées", .int, attr "ram_slots_used", false⟩,
  ⟨"ram_slots_total", "Emplacements mémoire", .int, attr "ram_slots_total", false⟩,
  ⟨"system_volume_total_mb", "Disque système (Mio)", .int, attr "system_volume_total_mb", true⟩,
  ⟨"system_volume_free_mb", "Libre (Mio)", .int, attr "system_volume_free_mb", true⟩,
  ⟨"disk_free_percent", "Libre (%)", .int, freePercent, true⟩,
  ⟨"os_install_date", "Windows installé le", .datetime, attr "os_install_date", false⟩,
  ⟨"last_boot_time", "Dernier démarrage", .datetime, attr "last_boot_time", false⟩,
  ⟨"inventory_last_seen", "Inventaire du", .datetime, attr "inventory_last_seen", true⟩]

/-- `_BY_KEY`. -/
def byKey (key : String) : Option ExportColumn := columns.find? fun c => c.key = key

def defaultColumns : List ExportColumn := columns.filter ExportColumn.default

/-! ### The columns of a request -/

/-- The keys that a request names. -/
def requestedKeys (keys : String) : List String :=
  ((keys.toList.splitOn ',').map fun raw => strip (String.ofList raw)).filter fun key => key ≠ ""

/-- A turn of the loop of `resolve_columns`: the columns, and the keys that name none. -/
def chooseKey (acc : List ExportColumn × List String) (key : String) : List ExportColumn × List String :=
  match byKey key with
  | none => (acc.1, acc.2 ++ [key])
  | some column => if acc.1.any (fun c => c.key = column.key) then acc else (acc.1 ++ [column], acc.2)

/-- What `resolve_columns` raises; its details are the unknown keys. -/
def unknownColumns (unknown : List String) : AppError × List String :=
  (⟨.requestValidationError, 422, "Unknown export column(s)"⟩, unknown)

/-- `resolve_columns`. -/
def resolveColumns (keys : Option String) : Except (AppError × List String) (List ExportColumn) :=
  match keys with
  | none => .ok defaultColumns
  | some keys =>
    if strip keys = "" then .ok defaultColumns else
    let chosen := (requestedKeys keys).foldl chooseKey ([], [])
    if chosen.2 ≠ [] then .error (unknownColumns chosen.2)
    else if chosen.1 = [] then .ok defaultColumns
    else .ok chosen.1

/-- `_WINDOWED`. -/
def windowed : List String := ["usage_hours"]

/-- `headers`. -/
def headers (chosen : List ExportColumn) (usageDays : ℕ) : List String :=
  chosen.map fun c => if c.key ∈ windowed then c.label ++ " (" ++ toString usageDays ++ " j)" else c.label

/-! ### The cells -/

/-- What Python and the zone table make of values. -/
structure Rendering where
  /-- `astimezone(tz).strftime("%Y-%m-%d %H:%M")`. -/
  stamp : Time → String
  isoformat : Value → String
  /-- `str`, of a value that is no text. -/
  str : Value → String

/-- `BOOL_LABELS`. -/
def boolLabel (b : Bool) : String := if b then "Oui" else "Non"

/-- `csv_value`. -/
def csvValue (render : Rendering) (column : ExportColumn) (value : Value) : Value :=
  match value with
  | .none => .none
  | value =>
    match column.kind, value with
    | .bool, value => .text (boolLabel value.truthy)
    | .datetime, .datetime t => .text (render.stamp t)
    | .date, .date d => .text (render.isoformat (.date d))
    | .date, .datetime t => .text (render.isoformat (.datetime t))
    | _, value => value

def formulaTriggers : List Char := ['=', '+', '-', '@', '\t', '\r']

/-- `startswith(FORMULA_TRIGGERS)`. -/
def isFormula (cell : List Char) : Bool := cell.head?.any fun c => c ∈ formulaTriggers

/-- `neutralize`. -/
def neutralize (value : Value) : Value :=
  match value with
  | .none => .text ""
  | .text s => if isFormula s.toList then .text ("'" ++ s) else .text s
  | value => value

/-- What the writer makes of a value. -/
def written (render : Rendering) : Value → List Char
  | .none => []
  | .text s => s.toList
  | value => (render.str value).toList

/-! ### The file -/

/-- `DELIMITER`, of the dialect `excel`. -/
def dialect : Csv.Dialect := ⟨';', by decide, by decide, by decide⟩

def bom : Char := '\uFEFF'

/-- `csv_response`. -/
def csvResponse (render : Rendering) (header : List String) (rows : List (List Value)) : List Char :=
  bom :: Csv.write dialect (header.map String.toList ::
    rows.map fun row => row.map fun value => written render (neutralize value))

/-- `export_machines_csv`, of the rows of the list. -/
def exportMachinesCsv (render : Rendering) (keys : Option String) (usageDays : ℕ) (machines : List ExportRow) :
    Except (AppError × List String) (List Char) :=
  match resolveColumns keys with
  | .error e => .error e
  | .ok chosen => .ok (csvResponse render (headers chosen usageDays)
      (machines.map fun m => chosen.map fun c => csvValue render c (c.read m)))

/-! ### The columns asked for -/

/-- The keys that a request names, if it names any. -/
def asked (keys : Option String) : List String := keys.elim [] requestedKeys

/-- Each key once, where it comes first. -/
def firsts (keys : List String) : List String := keys.reverse.dedup.reverse

def isKnown (key : String) : Bool := (byKey key).isSome

variable {keys : Option String} {chosen : List ExportColumn} {column : ExportColumn} {key : String}

lemma key_of_byKey (h : byKey key = some column) : column.key = key := by
  simpa using List.find?_some h

lemma mem_firsts {ks : List String} : key ∈ firsts ks ↔ key ∈ ks := by simp [firsts]

lemma firsts_concat (ks : List String) (key : String) :
    firsts (ks ++ [key]) = if key ∈ ks then firsts ks else firsts ks ++ [key] := by
  unfold firsts
  rw [List.reverse_append, List.reverse_singleton, List.singleton_append]
  split_ifs with hmem
  · rw [List.dedup_cons_of_mem (List.mem_reverse.2 hmem)]
  · rw [List.dedup_cons_of_notMem (by simpa using hmem), List.reverse_cons]

/-- The loop keeps the known keys, each where it comes first, and collects the others. -/
lemma foldl_chooseKey (ks : List String) : ks.foldl chooseKey ([], []) =
    ((firsts (ks.filter isKnown)).filterMap byKey, ks.filter fun key => !isKnown key) := by
  induction ks using List.reverseRecOn with
  | nil => rfl
  | append_singleton ks key ih =>
    rw [List.foldl_concat, ih, chooseKey, List.filter_append, List.filter_append]
    cases hkey : byKey key with
    | none =>
      have hunknown : isKnown key = false := by rw [isKnown, hkey]; rfl
      simp [hunknown]
    | some column =>
      have hknown : isKnown key = true := by rw [isKnown, hkey]; rfl
      have hcolumn : column.key = key := key_of_byKey hkey
      have hany : ((firsts (ks.filter isKnown)).filterMap byKey).any (fun c => c.key = column.key) = true ↔
          key ∈ ks.filter isKnown := by
        rw [List.any_eq_true, ← mem_firsts, hcolumn]
        constructor
        · rintro ⟨c, hc, hsame⟩
          obtain ⟨key', hkey', hfound⟩ := List.mem_filterMap.1 hc
          rw [← of_decide_eq_true hsame, key_of_byKey hfound]
          exact hkey'
        · intro hmem
          exact ⟨column, List.mem_filterMap.2 ⟨key, hmem, hkey⟩, by simp [hcolumn]⟩
      have hlast : [key].filter isKnown = [key] := by simp [hknown]
      rw [hlast, firsts_concat]
      dsimp only
      by_cases hmem : key ∈ ks.filter isKnown
      · rw [if_pos (hany.2 hmem), if_pos hmem]
        simp [hknown]
      · rw [if_neg (fun h => hmem (hany.1 h)), if_neg hmem, List.filterMap_append]
        simp [hknown, hkey]

/-- A blank request names no key. -/
lemma requestedKeys_blank {keys : String} (h : strip keys = "") : requestedKeys keys = [] := by
  have htrim : trimBy isSpace keys.toList = [] := by
    change stripChars keys.toList = []
    rw [← toList_strip, h]
    rfl
  have hcomma : ',' ∉ keys.toList := by
    obtain ⟨before, after, hsplit, hbefore, hafter⟩ := trimBy_split isSpace keys.toList
    rw [htrim] at hsplit
    intro hmem
    rw [hsplit] at hmem
    rcases List.mem_append.1 hmem with hmem | hmem
    · rcases List.mem_append.1 hmem with hmem | hmem
      · exact absurd (hbefore _ hmem) (by decide)
      · cases hmem
    · exact absurd (hafter _ hmem) (by decide)
  unfold requestedKeys
  rw [List.splitOn_eq_singleton hcomma]
  simp [h]

/-- **The columns of a request.**  Those asked for, each once and in that order; all of them known. -/
theorem resolveColumns_eq (keys : Option String) : resolveColumns keys =
    if (asked keys).all isKnown then
      .ok (if asked keys = [] then defaultColumns else (firsts (asked keys)).filterMap byKey)
    else .error (unknownColumns ((asked keys).filter fun key => !isKnown key)) := by
  cases keys with
  | none => rfl
  | some keys =>
    change resolveColumns (some keys) = if (requestedKeys keys).all isKnown then _ else _
    unfold resolveColumns
    dsimp only
    by_cases hblank : strip keys = ""
    · have hnone : asked (some keys) = [] := requestedKeys_blank hblank
      rw [if_pos hblank, hnone, requestedKeys_blank hblank]
      rfl
    rw [if_neg hblank, foldl_chooseKey]
    dsimp only
    by_cases hall : (requestedKeys keys).all isKnown = true
    · have hnone : (requestedKeys keys).filter (fun key => !isKnown key) = [] := by
        rw [List.filter_eq_nil_iff]
        intro key hkey
        simpa using List.all_eq_true.1 hall key hkey
      have hsame : (requestedKeys keys).filter isKnown = requestedKeys keys :=
        List.filter_eq_self.2 (List.all_eq_true.1 hall)
      rw [if_neg (not_not.2 hnone), if_pos hall, hsame]
      change _ = Except.ok (if requestedKeys keys = [] then defaultColumns else _)
      by_cases hempty : requestedKeys keys = []
      · rw [if_pos hempty, if_pos (by rw [hempty]; rfl)]
      · -- A key that is asked for and known gives a column.
        have hcolumns : (firsts (requestedKeys keys)).filterMap byKey ≠ [] := by
          obtain ⟨key, hkey⟩ := List.exists_mem_of_ne_nil _ hempty
          obtain ⟨column, hcolumn⟩ := Option.isSome_iff_exists.1 (List.all_eq_true.1 hall key hkey)
          exact List.ne_nil_of_mem (List.mem_filterMap.2 ⟨key, mem_firsts.2 hkey, hcolumn⟩)
        rw [if_neg hcolumns, if_neg hempty]
        rfl
    · have hsome : (requestedKeys keys).filter (fun key => !isKnown key) ≠ [] := by
        intro hnone
        refine hall (List.all_eq_true.2 fun key hkey => ?_)
        simpa using List.filter_eq_nil_iff.1 hnone key hkey
      rw [if_pos hsome, if_neg hall]
      rfl

lemma mem_columns (h : resolveColumns keys = .ok chosen) (hcolumn : column ∈ chosen) : column ∈ columns := by
  rw [resolveColumns_eq] at h
  split_ifs at h
  · cases h
    exact List.mem_of_mem_filter hcolumn
  · cases h
    obtain ⟨key, -, hkey⟩ := List.mem_filterMap.1 hcolumn
    exact List.mem_of_find?_eq_some hkey

/-! ### The file read back -/

/-- No label of the catalogue is empty, or a formula. -/
lemma labels_inert : ∀ c ∈ columns, c.label.toList ≠ [] ∧ isFormula c.label.toList = false := by
  decide +kernel

lemma isFormula_append {t u : List Char} (h : t ≠ []) : isFormula (t ++ u) = isFormula t := by
  cases t with
  | nil => exact absurd rfl h
  | cons c t => rfl

/-- The cell of a poste in a column, as it is written. -/
def cell (render : Rendering) (column : ExportColumn) (m : ExportRow) : List Char :=
  written render (neutralize (csvValue render column (column.read m)))

/-- A text is written so that it is no formula; what begins as one is another value. -/
lemma isFormula_written {render : Rendering} {value : Value}
    (h : isFormula (written render (neutralize value)) = true) :
    value ≠ .none ∧ ∀ s, value ≠ .text s := by
  constructor
  · rintro rfl
    cases h
  · rintro s rfl
    unfold neutralize at h
    dsimp only at h
    split_ifs at h with hs
    · have hquote : isFormula (written render (.text ("'" ++ s))) = false := by
        change isFormula ("'" ++ s).toList = false
        rw [String.toList_append]
        rfl
      rw [hquote] at h
      cases h
    · exact hs h

/-- What whoever opens the file finds. -/
structure ReadBack (render : Rendering) (chosen : List ExportColumn) (usageDays : ℕ) (machines : List ExportRow)
    (content : List Char) : Prop where
  marked : content.head? = some bom
  /-- A line of headers, and one a poste. -/
  lines : Csv.read dialect content.tail = some ((headers chosen usageDays).map String.toList ::
    machines.map fun m => chosen.map fun c => cell render c m)
  /-- A cell that begins as a formula holds no text. -/
  inert : ∀ m ∈ machines, ∀ c ∈ chosen, isFormula (cell render c m) = true →
    csvValue render c (c.read m) ≠ .none ∧ ∀ s, csvValue render c (c.read m) ≠ .text s
  headed : ∀ header ∈ headers chosen usageDays, isFormula header.toList = false

/-- **The export, read back.**  Whatever the postes call themselves. -/
theorem export_reads_back {render : Rendering} {usageDays : ℕ} {machines : List ExportRow} {content : List Char}
    (h : exportMachinesCsv render keys usageDays machines = .ok content) :
    (asked keys).all isKnown = true ∧
      ReadBack render (if asked keys = [] then defaultColumns else (firsts (asked keys)).filterMap byKey) usageDays
        machines content := by
  unfold exportMachinesCsv at h
  cases hchosen : resolveColumns keys with
  | error e =>
    rw [hchosen] at h
    cases h
  | ok chosen =>
    rw [hchosen] at h
    cases h
    have hcolumns := hchosen
    rw [resolveColumns_eq] at hcolumns
    split at hcolumns
    · rename_i hall
      cases hcolumns
      refine ⟨hall, rfl, ?_, fun m _ c _ hformula => isFormula_written hformula, ?_⟩
      · change Csv.read dialect (Csv.write dialect _) = _
        rw [Csv.read_write, List.map_map]
        refine congrArg (fun rows => some (_ :: rows)) (List.map_congr_left fun m _ => ?_)
        exact List.map_map
      · intro header hheader
        obtain ⟨c, hc, rfl⟩ := List.mem_map.1 hheader
        obtain ⟨hne, hinert⟩ := labels_inert c (mem_columns hchosen hc)
        split_ifs
        · rw [String.toList_append, String.toList_append, String.toList_append, List.append_assoc, List.append_assoc,
            isFormula_append hne]
          exact hinert
        · exact hinert
    · cases hcolumns

/-- A poste of that name, on for so long, as a file writes it. -/
def posteNamed (hostname : String) (hours : ℚ) : ExportRow where
  machine name := if name = "hostname" then .text hostname else .none
  room := none
  building := none
  check := none
  checkAssignedTo := none
  maintenance := none
  maintenanceOwner := none
  usageHours := some hours
  now := 0
  offlineAfterSeconds := 180
  percent free total := free * 100 / total

def shortRendering : Rendering where
  stamp _ := "1970-01-01 00:00"
  isoformat _ := "1970-01-01"
  str value := if value = .float (5 / 2) then "2.5" else ""

theorem export_reads_back_formula :
    exportMachinesCsv shortRendering (some "hostname, usage_hours,hostname") 7 [posteNamed "=1;2" (5 / 2)] =
      .ok "\uFEFFNom;Heures allumées (7 j)\r\n\"'=1;2\";2.5\r\n".toList ∧
    (asked (some "hostname, usage_hours,hostname")).all isKnown = true ∧ ReadBack shortRendering
      (if asked (some "hostname, usage_hours,hostname") = [] then defaultColumns
        else (firsts (asked (some "hostname, usage_hours,hostname"))).filterMap byKey) 7
      [posteNamed "=1;2" (5 / 2)] "\uFEFFNom;Heures allumées (7 j)\r\n\"'=1;2\";2.5\r\n".toList := by
  have hfile : exportMachinesCsv shortRendering (some "hostname, usage_hours,hostname") 7
      [posteNamed "=1;2" (5 / 2)] = .ok "\uFEFFNom;Heures allumées (7 j)\r\n\"'=1;2\";2.5\r\n".toList := by
    decide +kernel
  exact ⟨hfile, export_reads_back hfile⟩

end Tiai.MachineExport
