import Mathlib.Data.List.Dedup
import Tiai.Inventory.Sets
import Tiai.Lib.Sql

/-!
# The inventory of a poste

`features/inventory/crud.py` and the part of the heartbeat that decides whether to call it.  A report has the facts of
cardinality one, which are columns of the machine, and six lists, which are child tables; software goes through a
catalogue that the whole parc shares.

* `InventoryReport` — a report, as the schemas leave it: trimmed, bounded and capped;
* `Stored` — the tables, with the constraints of the database;
* `replaceSoftware`, `applyInventory` — a report is stored;
* `heartbeatInventory` — unless it has the hash of the one stored last.
-/

namespace Tiai.Inventory

open Lib

/-! ### Reports -/

/-- A `date`, by its number. -/
abbrev Date := ℤ

structure MemoryModuleReport where
  slot : String
  capacityMb : Option ℤ
  type : Option String
  speedMhz : Option ℤ
  manufacturer : Option String
  serial : Option String
  formFactor : Option String
  deriving DecidableEq

structure DiskReport where
  deviceId : String
  model : Option String
  serial : Option String
  firmware : Option String
  mediaType : Option String
  busType : Option String
  sizeMb : Option ℤ
  healthStatus : Option String
  isRemovable : Bool
  deriving DecidableEq

structure VolumeReport where
  letter : String
  label : Option String
  filesystem : Option String
  totalMb : Option ℤ
  freeMb : Option ℤ
  isSystem : Bool
  encryptionStatus : Option String
  deriving DecidableEq

structure NicReport where
  key : String
  name : Option String
  mac : Option String
  type : String
  speedMbps : Option ℤ
  isUp : Bool
  isVirtual : Bool
  ipAddress : Option String
  ipPrefixLength : Option ℤ
  isDhcp : Option Bool
  gateway : Option String
  driverVersion : Option String
  deriving DecidableEq

structure GpuReport where
  name : String
  chipset : Option String
  memoryMb : Option ℤ
  driverVersion : Option String
  driverDate : Option Date
  resolution : Option String
  deriving DecidableEq

structure SoftwareReport where
  name : String
  version : String
  publisher : String
  installDate : Option Date
  arch : Option String
  source : Option String
  installLocation : Option String
  deriving DecidableEq

/-- The facts of cardinality one. -/
structure Facts where
  hwManufacturer : Option String
  hwModel : Option String
  hwSerial : Option String
  hwChassisType : Option String
  hwIsVirtual : Bool
  hwHypervisor : Option String
  mbManufacturer : Option String
  mbModel : Option String
  mbSerial : Option String
  biosVendor : Option String
  biosVersion : Option String
  biosDate : Option Date
  secureBoot : Option Bool
  tpmVersion : Option String
  cpuModel : Option String
  cpuManufacturer : Option String
  cpuCores : Option ℤ
  cpuThreads : Option ℤ
  cpuSpeedMhz : Option ℤ
  cpuCount : Option ℤ
  ramTotalMb : Option ℤ
  ramSlotsTotal : Option ℤ
  ramSlotsUsed : Option ℤ
  osArchitecture : Option String
  osInstallDate : Option Time
  lastBootTime : Option Time
  deriving DecidableEq

/-- A report; a list that is `none` was not read. -/
structure InventoryReport where
  hash : String
  facts : Facts
  memoryModules : Option (List MemoryModuleReport)
  disks : Option (List DiskReport)
  volumes : Option (List VolumeReport)
  nics : Option (List NicReport)
  gpus : Option (List GpuReport)
  software : Option (List SoftwareReport)
  deriving DecidableEq

/-! ### Tables -/

/-- What the catalogue tells programs apart by. -/
abbrev Triple := String × String × String

def SoftwareReport.triple (r : SoftwareReport) : Triple := (r.name, r.version, r.publisher)

structure Software where
  id : ℕ
  name : String
  version : String
  publisher : String
  firstSeen : Time
  deriving DecidableEq

def Software.triple (s : Software) : Triple := (s.name, s.version, s.publisher)

/-- The catalogue, with its key, its unique constraint and its sequence. -/
structure Catalogue where
  rows : List Software
  nextId : ℕ
  identity : (rows.map Software.triple).Nodup
  ids : (rows.map Software.id).Nodup
  drawn : ∀ s ∈ rows, 0 < s.id ∧ s.id < nextId
  positive : 0 < nextId

/-- `MachineSoftware`: what a machine says of a program, beside the program's id. -/
structure Link where
  softwareId : ℕ
  installDate : Option Date
  arch : Option String
  source : Option String
  installLocation : Option String
  deriving DecidableEq

/-- The catalogue and what machines have of it: the links refer to programs of the catalogue. -/
structure Installed where
  catalogue : Catalogue
  links : Table Link.softwareId
  refers : ∀ l ∈ links.rows, l.data.softwareId ∈ catalogue.rows.map Software.id

/-- The columns of a machine. -/
structure Columns where
  facts : Facts
  systemVolumeTotalMb : Option ℤ
  systemVolumeFreeMb : Option ℤ
  inventoryHash : Option String
  inventoryLastSeen : Option Time

structure Stored where
  machines : Uuid → Columns
  memoryModules : Table MemoryModuleReport.slot
  disks : Table DiskReport.deviceId
  volumes : Table VolumeReport.letter
  nics : Table NicReport.key
  gpus : Table GpuReport.name
  installed : Installed

/-- A text is truthy when it is not empty. -/
def nonEmpty (s : String) : Bool := s ≠ ""

/-! ### The catalogue -/

section

variable {c : Catalogue} {now : Time} {t : Triple}

/-- `INSERT … ON CONFLICT DO NOTHING`, of one program: an id is drawn either way. -/
def Catalogue.insert (now : Time) (c : Catalogue) (t : Triple) : Catalogue :=
  if h : rowOf Software.triple c.rows t = none then
    { rows := c.rows ++ [⟨c.nextId, t.1, t.2.1, t.2.2, now⟩]
      nextId := c.nextId + 1
      identity := by
        have hnew : rowOf Software.triple c.rows (Software.triple ⟨c.nextId, t.1, t.2.1, t.2.2, now⟩) = none := h
        exact nodup_append_singleton c.identity hnew
      ids := by
        refine nodup_append_singleton c.ids (rowOf_eq_none_iff.2 fun hmem => ?_)
        obtain ⟨s, hs, hid⟩ := List.mem_map.1 hmem
        have hlt := (c.drawn s hs).2
        rw [hid] at hlt
        exact Nat.lt_irrefl _ hlt
      drawn := by
        intro s hs
        rcases List.mem_append.1 hs with hs | hs
        · exact ⟨(c.drawn s hs).1, Nat.lt_succ_of_lt (c.drawn s hs).2⟩
        · rw [List.mem_singleton.1 hs]
          exact ⟨c.positive, Nat.lt_succ_self _⟩
      positive := Nat.succ_pos _ }
  else
    { c with
      nextId := c.nextId + 1
      drawn := fun s hs => ⟨(c.drawn s hs).1, Nat.lt_succ_of_lt (c.drawn s hs).2⟩
      positive := Nat.succ_pos _ }

/-- The id of a program. -/
def Catalogue.idOf (c : Catalogue) (t : Triple) : Option ℕ := (rowOf Software.triple c.rows t).map Software.id

/-- The order of Python's tuples of texts. -/
def tripleOrder (a b : Triple) : Ordering :=
  (compare a.1 b.1).then ((compare a.2.1 b.2.1).then (compare a.2.2 b.2.2))

/-- `_catalogue_ids`: every triple has a program then. -/
def catalogueIds (now : Time) (triples : List Triple) (c : Catalogue) : Catalogue := triples.foldl (·.insert now) c

lemma insert_of_none (h : rowOf Software.triple c.rows t = none) :
    (c.insert now t).rows = c.rows ++ [⟨c.nextId, t.1, t.2.1, t.2.2, now⟩] := by
  unfold Catalogue.insert
  rw [dif_pos h]

lemma insert_of_some {s : Software} (h : rowOf Software.triple c.rows t = some s) : (c.insert now t).rows = c.rows := by
  unfold Catalogue.insert
  rw [dif_neg (by simp [h])]

lemma nextId_insert : (c.insert now t).nextId = c.nextId + 1 := by
  unfold Catalogue.insert
  split <;> rfl

/-- The program of a triple, after one more was inserted: a new one has a new id. -/
lemma idOf_insert (t' : Triple) : (c.insert now t).idOf t' =
    (c.idOf t').or (if t = t' then some c.nextId else none) := by
  unfold Catalogue.idOf
  cases hfound : rowOf Software.triple c.rows t with
  | none =>
    have htriple : Software.triple ⟨c.nextId, t.1, t.2.1, t.2.2, now⟩ = t := rfl
    rw [insert_of_none hfound, rowOf_append_singleton, Option.map_or, htriple]
    by_cases ht : t = t'
    · rw [if_pos ht, if_pos ht]
      rfl
    · rw [if_neg ht, if_neg ht]
      rfl
  | some s =>
    rw [insert_of_some hfound]
    by_cases ht : t = t'
    · rw [← ht, hfound]
      rfl
    · rw [if_neg ht, Option.or_none]

/-- A program that is there keeps its id. -/
lemma idOf_catalogueIds_of_some {t' : Triple} {id : ℕ} (triples : List Triple) (h : c.idOf t' = some id) :
    (catalogueIds now triples c).idOf t' = some id := by
  induction triples generalizing c with
  | nil => exact h
  | cons t triples ih => exact ih (by rw [idOf_insert, h, Option.some_or])

/-- The programs of the triples are there. -/
lemma isSome_idOf_catalogueIds {t' : Triple} {triples : List Triple} (h : t' ∈ triples) :
    ((catalogueIds now triples c).idOf t').isSome := by
  induction triples generalizing c with
  | nil => cases h
  | cons t triples ih =>
    rcases List.mem_cons.1 h with rfl | h
    · have hfound : ((c.insert now t').idOf t').isSome := by
        rw [idOf_insert, if_pos rfl, Option.isSome_or]
        exact Bool.or_true _
      obtain ⟨id, hid⟩ := Option.isSome_iff_exists.1 hfound
      exact Option.isSome_iff_exists.2 ⟨id, idOf_catalogueIds_of_some triples hid⟩
    · exact ih h

/-- A program that was not there is of an id that was not drawn, and of one of the triples. -/
lemma idOf_catalogueIds_of_none {t' : Triple} {id : ℕ} {triples : List Triple} (hnone : c.idOf t' = none)
    (h : (catalogueIds now triples c).idOf t' = some id) : c.nextId ≤ id ∧ t' ∈ triples := by
  induction triples generalizing c with
  | nil =>
    rw [catalogueIds, List.foldl_nil, hnone] at h
    cases h
  | cons t triples ih =>
    by_cases ht : t = t'
    · have hfirst : (c.insert now t).idOf t' = some c.nextId := by rw [idOf_insert, hnone, if_pos ht, Option.none_or]
      have hid : (catalogueIds now (t :: triples) c).idOf t' = some c.nextId :=
        idOf_catalogueIds_of_some triples hfirst
      rw [hid] at h
      exact ⟨Option.some.inj h ▸ le_rfl, ht ▸ List.mem_cons_self⟩
    · have hrest : (c.insert now t).idOf t' = none := by rw [idOf_insert, hnone, if_neg ht, Option.none_or]
      obtain ⟨hid, hmem⟩ := ih hrest h
      rw [nextId_insert] at hid
      exact ⟨Nat.le_of_succ_le hid, List.mem_cons_of_mem _ hmem⟩

/-- Where every triple has its program, nothing is inserted. -/
lemma rows_catalogueIds_of_isSome {triples : List Triple} (h : ∀ t ∈ triples, (c.idOf t).isSome) :
    (catalogueIds now triples c).rows = c.rows := by
  induction triples generalizing c with
  | nil => rfl
  | cons t triples ih =>
    have hfound : (rowOf Software.triple c.rows t).isSome := by
      have := h t List.mem_cons_self
      rwa [Catalogue.idOf, Option.isSome_map] at this
    obtain ⟨s, hs⟩ := Option.isSome_iff_exists.1 hfound
    have hrows : (c.insert now t).rows = c.rows := insert_of_some hs
    have hrest : ∀ t' ∈ triples, ((c.insert now t).idOf t').isSome := by
      intro t' ht'
      have := h t' (List.mem_cons_of_mem _ ht')
      rwa [Catalogue.idOf, ← hrows] at this
    exact (ih hrest).trans hrows

/-- Two triples are not of one program. -/
lemma idOf_injective {t' : Triple} {id : ℕ} (h : c.idOf t = some id) (h' : c.idOf t' = some id) : t = t' := by
  obtain ⟨s, hs, hid⟩ := Option.map_eq_some_iff.1 h
  obtain ⟨s', hs', hid'⟩ := Option.map_eq_some_iff.1 h'
  have hsame : s = s' := eq_of_key_eq c.ids (mem_of_rowOf hs) (mem_of_rowOf hs') (hid.trans hid'.symm)
  rw [← key_of_rowOf hs, ← key_of_rowOf hs', hsame]

lemma pos_of_idOf {id : ℕ} (h : c.idOf t = some id) : 0 < id := by
  obtain ⟨s, hs, rfl⟩ := Option.map_eq_some_iff.1 h
  exact (c.drawn s (mem_of_rowOf hs)).1

lemma mem_ids_of_idOf {id : ℕ} (h : c.idOf t = some id) : id ∈ c.rows.map Software.id := by
  obtain ⟨s, hs, rfl⟩ := Option.map_eq_some_iff.1 h
  exact List.mem_map_of_mem (mem_of_rowOf hs)

lemma lt_of_mem_ids {id : ℕ} (h : id ∈ c.rows.map Software.id) : id < c.nextId := by
  obtain ⟨s, hs, rfl⟩ := List.mem_map.1 h
  exact (c.drawn s hs).2

lemma mem_ids_catalogueIds {id : ℕ} (triples : List Triple) (h : id ∈ c.rows.map Software.id) :
    id ∈ (catalogueIds now triples c).rows.map Software.id := by
  induction triples generalizing c with
  | nil => exact h
  | cons t triples ih =>
    refine ih ?_
    cases hfound : rowOf Software.triple c.rows t with
    | none =>
      rw [insert_of_none hfound, List.map_append]
      exact List.mem_append_left _ h
    | some s => exact insert_of_some hfound ▸ h

end

/-! ### Storing a report -/

/-- What is stored of a program for a machine. -/
def SoftwareReport.link (id : ℕ) (r : SoftwareReport) : Link :=
  ⟨id, r.installDate, r.arch, r.source, r.installLocation⟩

/-- The rows of `replace_software`: those of the named reports, with their ids. -/
def softwareRows (c : Catalogue) (reports : List SoftwareReport) : List Link :=
  (reports.filter fun r => nonEmpty r.name).filterMap fun r => (c.idOf r.triple).map r.link

/-- The triples of the named reports, each once, in order. -/
def namedTriples (reports : List SoftwareReport) : List Triple :=
  Sql.orderBy tripleOrder ((reports.filter fun r => nonEmpty r.name).map SoftwareReport.triple).dedup

lemma mem_namedTriples {reports : List SoftwareReport} {t : Triple} :
    t ∈ namedTriples reports ↔ ∃ r ∈ reports, nonEmpty r.name ∧ r.triple = t := by
  rw [namedTriples, Sql.orderBy, List.mem_mergeSort, List.mem_dedup, List.mem_map]
  constructor
  · rintro ⟨r, hr, ht⟩
    exact ⟨r, (List.mem_filter.1 hr).1, (List.mem_filter.1 hr).2, ht⟩
  · rintro ⟨r, hr, hname, ht⟩
    exact ⟨r, List.mem_filter.2 ⟨hr, hname⟩, ht⟩

lemma nodup_namedTriples {reports : List SoftwareReport} : (namedTriples reports).Nodup :=
  (List.mergeSort_perm _ _).nodup_iff.2 (List.nodup_dedup _)

/-- `replace_software`, whose catalogue rows are of the time `cataloguedAt`. -/
def replaceSoftware (cataloguedAt now : Time) (machineId : Uuid) (reports : List SoftwareReport) (i : Installed) :
    Installed where
  catalogue := catalogueIds cataloguedAt (namedTriples reports) i.catalogue
  links :=
    let ids := catalogueIds cataloguedAt (namedTriples reports) i.catalogue
    replaceSet (· ≠ 0) machineId ((softwareRows ids reports).map (stamped machineId now)) i.links
  refers := by
    intro l hl
    rcases data_of_mem_replaceSet hl with hold | hnew
    · obtain ⟨l', hl', hdata⟩ := List.mem_map.1 hold
      exact hdata ▸ mem_ids_catalogueIds _ (i.refers l' hl')
    · rw [List.map_map] at hnew
      obtain ⟨link, hlink, hdata⟩ := List.mem_map.1 hnew
      obtain ⟨r, -, hr⟩ := List.mem_filterMap.1 hlink
      obtain ⟨id, hid, rfl⟩ := Option.map_eq_some_iff.1 hr
      rw [← hdata]
      exact mem_ids_of_idOf hid

/-- A list that was read replaces its set. -/
def replaceRead {δ κ : Type} [DecidableEq κ] {key : δ → κ} (present : κ → Bool) (machineId : Uuid) (now : Time)
    (reported : Option (List δ)) (t : Table key) : Table key :=
  match reported with
  | none => t
  | some ds => replaceSet present machineId (ds.map (stamped machineId now)) t

/-- The times a report is stored at: `now` of `apply_inventory`, and the two of the software. -/
structure Instants where
  now : Time
  linkedAt : Time
  cataloguedAt : Time

/-- The columns of the machine, written by a report. -/
def columnsOf (now : Time) (report : InventoryReport) (old : Columns) : Columns where
  facts := report.facts
  systemVolumeTotalMb :=
    match report.volumes with
    | none => old.systemVolumeTotalMb
    | some volumes => (volumes.find? VolumeReport.isSystem).bind VolumeReport.totalMb
  systemVolumeFreeMb :=
    match report.volumes with
    | none => old.systemVolumeFreeMb
    | some volumes => (volumes.find? VolumeReport.isSystem).bind VolumeReport.freeMb
  inventoryHash := if report.hash = "" then none else some report.hash
  inventoryLastSeen := some now

def Columns.seenAt (old : Columns) (t : Option Time) : Columns := { old with inventoryLastSeen := t }

/-- `apply_inventory`. -/
def applyInventory (clock : Instants) (machineId : Uuid) (report : InventoryReport) (s : Stored) : Stored where
  machines := Function.update s.machines machineId (columnsOf clock.now report (s.machines machineId))
  memoryModules := replaceRead nonEmpty machineId clock.now report.memoryModules s.memoryModules
  disks := replaceRead nonEmpty machineId clock.now report.disks s.disks
  volumes := replaceRead nonEmpty machineId clock.now report.volumes s.volumes
  nics := replaceRead nonEmpty machineId clock.now report.nics s.nics
  gpus := replaceRead nonEmpty machineId clock.now report.gpus s.gpus
  installed :=
    match report.software with
    | none => s.installed
    | some reports => replaceSoftware clock.cataloguedAt clock.linkedAt machineId reports s.installed

/-- An inventory in a heartbeat. -/
structure Reported where
  machineId : Uuid
  report : InventoryReport
  instants : Instants

/-- The hash is the one that is stored. -/
def unchangedHash (s : Stored) (e : Reported) : Prop :=
  e.report.hash ≠ "" ∧ (s.machines e.machineId).inventoryHash = some e.report.hash

instance (s : Stored) (e : Reported) : Decidable (unchangedHash s e) := inferInstanceAs (Decidable (_ ∧ _))

/-- The inventory part of `heartbeat`. -/
def heartbeatInventory (s : Stored) (e : Reported) : Stored :=
  if unchangedHash s e then
    { s with machines := Function.update s.machines e.machineId ((s.machines e.machineId).seenAt (some e.instants.now)) }
  else applyInventory e.instants e.machineId e.report s

end Tiai.Inventory
