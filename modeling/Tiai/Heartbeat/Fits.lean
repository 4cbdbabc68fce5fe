import Tiai.Heartbeat.Written
import Tiai.Threat.History

/-!
# When a heartbeat commits

Of the refusals of the database, three are here: an `INTEGER` out of range, a `VARCHAR` that is too long, a text with
U+0000.

* `Storable` — the age of the signatures is an integer of four bytes, no text that is stored holds U+0000, and a room
  that is created has a name of a hundred characters at most;
* `applyInventory_iff`, `applyDirectory_iff`, `record_ok`, `upsertThreats_iff`, `queueThreatAlert_ok`,
  `machineCells_fit_iff` — each of the statements;
* `heartbeat_commits_iff` — the transaction.
-/

namespace Tiai.Heartbeats

open Inventory Threats WindowsUpdate Lib Lib.Sql

/-! ### The texts of a body -/

/-- Every text of the list is one that a column can hold. -/
def AllTexts (ts : List (Option String)) : Prop := ∀ t ∈ ts, IsTextOrNull t

instance (ts : List (Option String)) : Decidable (AllTexts ts) := inferInstanceAs (Decidable (∀ t ∈ ts, _))

@[simp] lemma allTexts_nil : AllTexts [] := fun t ht => by cases ht

@[simp] lemma allTexts_cons {t : Option String} {ts : List (Option String)} :
    AllTexts (t :: ts) ↔ IsTextOrNull t ∧ AllTexts ts := List.forall_mem_cons

@[simp] lemma allTexts_append {ts us : List (Option String)} : AllTexts (ts ++ us) ↔ AllTexts ts ∧ AllTexts us :=
  List.forall_mem_append

lemma allTexts_flatMap {α : Type} {f : α → List (Option String)} {as : List α} :
    AllTexts (as.flatMap f) ↔ ∀ a ∈ as, AllTexts (f a) := List.forall_mem_flatMap

def updateTexts (u : PendingUpdate) : List (Option String) :=
  [some u.updateId, u.kb, some u.title, u.severity, some u.type, u.categories]

def memoryModuleTexts (r : MemoryModuleReport) : List (Option String) :=
  [some r.slot, r.type, r.manufacturer, r.serial, r.formFactor]

def diskTexts (r : DiskReport) : List (Option String) :=
  [some r.deviceId, r.model, r.serial, r.firmware, r.mediaType, r.busType, r.healthStatus]

def volumeTexts (r : VolumeReport) : List (Option String) := [some r.letter, r.label, r.filesystem, r.encryptionStatus]

def nicTexts (r : NicReport) : List (Option String) :=
  [some r.key, r.name, r.mac, some r.type, r.ipAddress, r.gateway, r.driverVersion]

def gpuTexts (r : GpuReport) : List (Option String) := [some r.name, r.chipset, r.driverVersion, r.resolution]

def tripleTexts (t : Triple) : List (Option String) := [some t.1, some t.2.1, some t.2.2]

def linkTexts (r : SoftwareReport) : List (Option String) := [r.arch, r.source, r.installLocation]

def factsTexts (f : Facts) : List (Option String) :=
  [f.hwManufacturer, f.hwModel, f.hwSerial, f.hwChassisType, f.hwHypervisor, f.mbManufacturer, f.mbModel, f.mbSerial,
    f.biosVendor, f.biosVersion, f.tpmVersion, f.cpuModel, f.cpuManufacturer, f.osArchitecture]

def directoryTexts (d : DirectoryReport) : List (Option String) := [d.distinguishedName, d.ou, d.ouDn, d.adLocation]

def fingerprintTexts (fp : Fingerprint) : List (Option String) := [fp.machineGuid, fp.smbiosUuid, fp.tpmEkHash]

/-- The texts of the blocks that are columns of the machine. -/
def attributeTexts (b : Body) : List (Option String) :=
  [b.hostname, b.domain, b.location.join, b.ipAddress, b.macAddress, b.osVersion, b.agentVersion] ++
    b.defender.toList.flatMap (fun d => [d.signatureVersion, d.runningMode]) ++
    b.avProduct.toList.flatMap (fun av => [some av.name]) ++
    b.session.toList.flatMap (fun session => [session.username, session.state]) ++
    b.fingerprint.toList.flatMap fingerprintTexts

/-- The entries of a set have storable texts: the last of each key that is not empty. -/
def SetFits {δ : Type} (key : δ → String) (texts : δ → List (Option String)) (reports : Option (List δ)) : Prop :=
  ∀ r, lastReported key nonEmpty (reports.getD []) (key r) = some r → AllTexts (texts r)

/-- So have the named programs, and the last of each. -/
def SoftwareFits (reports : Option (List SoftwareReport)) : Prop :=
  (∀ r ∈ reports.getD [], nonEmpty r.name → AllTexts (tripleTexts r.triple)) ∧
    ∀ r, lastReported SoftwareReport.triple (fun t => nonEmpty t.1) (reports.getD []) r.triple = some r →
      AllTexts (linkTexts r)

/-- The inventory, when it is not the one that is stored. -/
structure ReportFits (r : InventoryReport) : Prop where
  facts : AllTexts (factsTexts r.facts)
  hash : IsTextOrNull (orNone r.hash)
  memoryModules : SetFits MemoryModuleReport.slot memoryModuleTexts r.memoryModules
  disks : SetFits DiskReport.deviceId diskTexts r.disks
  volumes : SetFits VolumeReport.letter volumeTexts r.volumes
  nics : SetFits NicReport.key nicTexts r.nics
  gpus : SetFits GpuReport.name gpuTexts r.gpus
  software : SoftwareFits r.software

/-- The room of a key is there, or a loose one has its name, or a name that is made of it is free and short enough. -/
def RoomFits (t : Rooms.Tables) (key name : String) : Prop :=
  (∃ r ∈ t.rooms, r.adKey = some key) ∨ (∃ r ∈ t.rooms, r.name = name ∧ r.buildingId = none ∧ r.adKey = none) ∨
    ∃ n, (Rooms.candidate name n).length ≤ 100 ∧ Rooms.candidate name n ∉ Rooms.looseNames t

/-- **The condition.**  The age of the signatures is an integer of four bytes, no text that is stored holds U+0000, and
the room that the directory names is one that can be there. -/
structure Storable (ctx : Context) (s : Stored) (b : Body) : Prop where
  age : ∀ d ∈ b.defender, ∀ n ∈ d.signatureAgeDays, IsInt4 n
  attributes : AllTexts (attributeTexts b)
  updates : ∀ wu ∈ b.windowsUpdate, ∀ u,
    lastReported PendingUpdate.updateId (· ≠ "") ((wu.pending.getD []).map PendingUpdateReport.columns) u.updateId =
      some u → AllTexts (updateTexts u)
  inventory : ∀ inv ∈ b.inventory, isUnchanged s inv.report = false → ReportFits inv.report
  directory : ∀ inv ∈ b.inventory, ∀ d ∈ inv.directory, AllTexts (directoryTexts d)
  room : ∀ inv ∈ b.inventory, ∀ d ∈ inv.directory, ∀ key name,
    Rooms.directoryKey (d.on s.machine) ctx.source = some (key, name) → RoomFits s.tables key name
  threats : ∀ id r, id ≠ "" → Threats.lastOf b.threats id = some r →
    AllTexts (threatTexts r) ∧ escapesNul r.extra.toList = false

/-! ### Integers -/

lemma isInt4_boundedInt {value : Option ℤ} {limit : ℤ} (h : limit ≤ 2147483647) :
    ∀ n ∈ LowDisk.boundedInt value limit, IsInt4 n := by
  intro n hn
  have hbounds := LowDisk.bounds_of_mem_boundedInt hn
  unfold IsInt4
  omega

lemma isInt4_boundedPrefix {value : Option ℤ} : ∀ n ∈ boundedPrefix value, IsInt4 n := by
  intro n hn
  obtain ⟨-, hn⟩ := Option.mem_filter_iff.1 hn
  have hn : 1 ≤ n ∧ n ≤ 128 := by simpa using hn
  unfold IsInt4
  omega

lemma isInt4_of_le {n m : ℕ} (h : n ≤ m) (hm : m ≤ 2147483647) : IsInt4 n := by
  unfold IsInt4
  omega

/-! ### The sets -/

section Sets

variable {δ : Type} {key : δ → String} {cells : δ → List Cell} {texts : δ → List (Option String)} {machineId : Uuid}
  {now : Time}

lemma childCells_fit_iff {r : Child δ} : (∀ c ∈ childCells cells r, c.Fits) ↔ ∀ c ∈ cells r.data, c.Fits := by
  simp [childCells]

/-- A set whose rows fit when their texts do. -/
lemma replaceSetOf_iff {constraint : String} {reports : Option (List δ)}
    (h : ∀ r ∈ reports.getD [], (∀ c ∈ cells r, c.Fits) ↔ AllTexts (texts r)) :
    replaceSetOf constraint key cells machineId now reports = .ok () ↔ SetFits key texts reports := by
  cases reports with
  | none => exact iff_of_true rfl fun r hr => by cases (mem_of_lastReported hr).1
  | some rs =>
    rw [replaceSetOf, upsertRows_eq_ok_iff,
      and_iff_right (show ((kept key machineId now rs).map (Child.identity key)).Nodup from Inventory.nodup_deduped)]
    simp only [childCells_fit_iff]
    refine (Inventory.forall_mem_deduped_iff (P := fun r => ∀ c ∈ cells r, c.Fits)).trans ?_
    exact forall_congr' fun r => forall_congr' fun hr => h r (mem_of_lastReported hr).1

end Sets

lemma updateCells_fit_iff {u : PendingUpdate} : (∀ c ∈ updateCells u, c.Fits) ↔ AllTexts (updateTexts u) := by
  simp [updateCells, updateTexts]

lemma memoryModuleCells_fit_iff {r : MemoryModuleReport} :
    (∀ c ∈ memoryModuleCells (boundMemoryModule r), c.Fits) ↔ AllTexts (memoryModuleTexts (boundMemoryModule r)) := by
  have hcapacity : ∀ n ∈ (boundMemoryModule r).capacityMb, IsInt4 n := isInt4_boundedInt (by decide)
  have hspeed : ∀ n ∈ (boundMemoryModule r).speedMhz, IsInt4 n := isInt4_boundedInt (by decide)
  generalize boundMemoryModule r = r at *
  simp only [memoryModuleCells, memoryModuleTexts, List.forall_mem_cons, Cell.fits_integer, Cell.fits_text,
    allTexts_cons, and_iff_right hcapacity, and_iff_right hspeed]
  simp

lemma diskCells_fit_iff {r : DiskReport} :
    (∀ c ∈ diskCells (boundDisk r), c.Fits) ↔ AllTexts (diskTexts (boundDisk r)) := by
  have hsize : ∀ n ∈ (boundDisk r).sizeMb, IsInt4 n := isInt4_boundedInt (by decide)
  generalize boundDisk r = r at *
  simp only [diskCells, diskTexts, List.forall_mem_cons, Cell.fits_integer, Cell.fits_text, Cell.fits_plain,
    allTexts_cons, and_iff_right hsize, true_and]
  simp

lemma volumeCells_fit_iff {texts : Texts} {r : VolumeReport} :
    (∀ c ∈ volumeCells (boundVolume texts r), c.Fits) ↔ AllTexts (volumeTexts (boundVolume texts r)) := by
  have htotal : ∀ n ∈ (boundVolume texts r).totalMb, IsInt4 n := isInt4_boundedInt (by decide)
  have hfree : ∀ n ∈ (boundVolume texts r).freeMb, IsInt4 n := isInt4_boundedInt (by decide)
  generalize boundVolume texts r = r at *
  simp only [volumeCells, volumeTexts, List.forall_mem_cons, Cell.fits_integer, Cell.fits_text, Cell.fits_plain,
    allTexts_cons, and_iff_right htotal, and_iff_right hfree, true_and]
  simp

lemma nicCells_fit_iff {texts : Texts} {r : NicReport} :
    (∀ c ∈ nicCells (boundNic texts r), c.Fits) ↔ AllTexts (nicTexts (boundNic texts r)) := by
  have hspeed : ∀ n ∈ (boundNic texts r).speedMbps, IsInt4 n := isInt4_boundedInt (by decide)
  have hbits : ∀ n ∈ (boundNic texts r).ipPrefixLength, IsInt4 n := isInt4_boundedPrefix
  generalize boundNic texts r = r at *
  simp only [nicCells, nicTexts, List.forall_mem_cons, Cell.fits_integer, Cell.fits_text, Cell.fits_plain,
    allTexts_cons, and_iff_right hspeed, and_iff_right hbits, true_and]
  simp

lemma gpuCells_fit_iff {r : GpuReport} :
    (∀ c ∈ gpuCells (boundGpu r), c.Fits) ↔ AllTexts (gpuTexts (boundGpu r)) := by
  have hmemory : ∀ n ∈ (boundGpu r).memoryMb, IsInt4 n := isInt4_boundedInt (by decide)
  generalize boundGpu r = r at *
  simp only [gpuCells, gpuTexts, List.forall_mem_cons, Cell.fits_integer, Cell.fits_text, Cell.fits_plain,
    allTexts_cons, and_iff_right hmemory, true_and]
  simp

/-- A report of a list that was validated is one that was bounded. -/
lemma exists_of_mem_validated {δ : Type} {bound : δ → δ} {limit : ℕ} {reports : Option (List δ)} {r : δ}
    (h : r ∈ (reports.map fun rs => (rs.map bound).take limit).getD []) : ∃ r₀, bound r₀ = r := by
  cases reports with
  | none => cases h
  | some rs =>
    obtain ⟨r₀, -, hr⟩ := List.mem_map.1 (List.mem_of_mem_take h)
    exact ⟨r₀, hr⟩

/-! ### The software -/

lemma softwareCells_fit_iff {t : Triple} : (∀ c ∈ softwareCells t, c.Fits) ↔ AllTexts (tripleTexts t) := by
  simp [softwareCells, tripleTexts]

lemma linkCells_fit_iff {r : SoftwareReport} : (∀ c ∈ linkCells r, c.Fits) ↔ AllTexts (linkTexts r) := by
  simp [linkCells, linkTexts]

lemma replaceSoftware_iff {machineId : Uuid} {now : Time} {reports : Option (List SoftwareReport)} :
    replaceSoftware machineId now reports = .ok () ↔ SoftwareFits reports := by
  cases reports with
  | none =>
    refine iff_of_true rfl ⟨fun r hr => ?_, fun r hr => ?_⟩
    · cases hr
    · cases (mem_of_lastReported hr).1
  | some rs =>
    have hcatalogue : ((namedTriples rs).map id).Nodup := by
      rw [List.map_id]
      exact nodup_namedTriples
    rw [replaceSoftware, bind_eq_ok_iff, upsertRows_eq_ok_iff, upsertRows_eq_ok_iff, and_iff_right hcatalogue,
      and_iff_right (show ((keptSoftware machineId now rs).map (Child.identity _)).Nodup from Inventory.nodup_deduped)]
    simp only [childCells_fit_iff, softwareCells_fit_iff, linkCells_fit_iff]
    refine and_congr ?_ (Inventory.forall_mem_deduped_iff (P := fun r => AllTexts (linkTexts r)))
    refine ⟨fun h r hr hname => h _ (mem_namedTriples.2 ⟨r, hr, hname, rfl⟩), fun h t ht => ?_⟩
    obtain ⟨r, hr, hname, rfl⟩ := mem_namedTriples.1 ht
    exact h r hr hname

/-! ### The inventory -/

lemma applyInventory_iff {texts : Texts} {machineId : Uuid} {now : Time} {r : InventoryReport} :
    applyInventory machineId now (boundReport texts r) = .ok () ↔
      SetFits MemoryModuleReport.slot memoryModuleTexts (boundReport texts r).memoryModules ∧
      SetFits DiskReport.deviceId diskTexts (boundReport texts r).disks ∧
      SetFits VolumeReport.letter volumeTexts (boundReport texts r).volumes ∧
      SetFits NicReport.key nicTexts (boundReport texts r).nics ∧
      SetFits GpuReport.name gpuTexts (boundReport texts r).gpus ∧ SoftwareFits (boundReport texts r).software := by
  simp only [applyInventory, bind_eq_ok_iff, replaceSoftware_iff]
  refine and_congr (replaceSetOf_iff fun m hm => ?_) (and_congr (replaceSetOf_iff fun d hd => ?_)
    (and_congr (replaceSetOf_iff fun v hv => ?_) (and_congr (replaceSetOf_iff fun n hn => ?_)
      (and_congr_left' (replaceSetOf_iff fun g hg => ?_)))))
  · obtain ⟨_, rfl⟩ := exists_of_mem_validated hm
    exact memoryModuleCells_fit_iff
  · obtain ⟨_, rfl⟩ := exists_of_mem_validated hd
    exact diskCells_fit_iff
  · obtain ⟨_, rfl⟩ := exists_of_mem_validated hv
    exact volumeCells_fit_iff
  · obtain ⟨_, rfl⟩ := exists_of_mem_validated hn
    exact nicCells_fit_iff
  · obtain ⟨_, rfl⟩ := exists_of_mem_validated hg
    exact gpuCells_fit_iff

/-! ### Usage and detections -/

lemma isInt4_creditCells {start stop : ℤ} {credits : List (ℤ × ℤ)} (h : Usage.Split start stop credits) :
    ∀ c ∈ credits, IsInt4 c.2 := by
  intro c hc
  obtain ⟨-, -, hseconds⟩ := h.inside c hc
  have hpositive := h.positive c hc
  unfold Usage.epochSeconds Usage.hour at hseconds
  unfold IsInt4
  omega

/-- The credits are of distinct hours, and none is of more than an hour. -/
lemma record_ok {ctx : Context} {s : Stored} : record ctx s = .ok () := by
  obtain ⟨credits, hcredits, hcredited⟩ := Usage.creditForGap_spec s.lastSeen ctx.now ctx.offlineAfterSeconds
  rw [record, hcredits, Option.getD_some, upsertRows_eq_ok_iff]
  by_cases h : Usage.Creditable ctx.offlineAfterSeconds s.lastSeen ctx.now
  · have hsplit := hcredited.split h
    refine ⟨hsplit.increasing.imp fun hlt => ne_of_lt hlt, fun c hc => ?_⟩
    simpa [creditCells] using isInt4_creditCells hsplit c hc
  · rw [hcredited.nothing h]
    exact ⟨List.nodup_nil, fun c hc => by cases hc⟩

lemma allTexts_filterMap {ts : List (Option String)} : AllTexts ts ↔ ∀ t ∈ ts.filterMap id, IsText t := by
  simp only [List.mem_filterMap, id_eq, exists_eq_right]
  exact ⟨fun h t ht => h (some t) ht t rfl, fun h t ht a ha => h a (ha ▸ ht)⟩

lemma threatCells_fit_iff {r : ThreatReport} : (∀ c ∈ threatCells r, c.Fits) ↔
    AllTexts (threatTexts r) ∧ escapesNul r.extra.toList = false := by
  have hraw : Cell.Fits ⟨"raw", .jsonb, .json ((threatTexts r).filterMap id) r.extra⟩ ↔
      AllTexts (threatTexts r) ∧ escapesNul r.extra.toList = false := by
    rw [allTexts_filterMap]
    rfl
  have hcolumns : AllTexts (threatTexts r) ↔ IsTextOrNull r.detectionId ∧ IsTextOrNull r.threatName ∧
      IsTextOrNull r.severity ∧ IsTextOrNull r.category ∧ IsTextOrNull r.status ∧ IsTextOrNull r.actionTaken := by
    simp [threatTexts]
  simp only [threatCells, List.forall_mem_cons, Cell.fits_text, Cell.fits_plain, hraw]
  constructor
  · rintro ⟨-, -, -, -, -, -, -, h, -⟩
    exact h
  · rintro ⟨htexts, hextra⟩
    obtain ⟨hid, hname, hseverity, hcategory, hstatus, haction⟩ := hcolumns.1 htexts
    exact ⟨hid, hname, hseverity, hcategory, hstatus, haction, trivial, ⟨htexts, hextra⟩, fun c hc => by cases hc⟩

lemma upsertThreats_iff {reports : List ThreatReport} : upsertThreats reports = .ok () ↔
    ∀ id r, id ≠ "" → Threats.lastOf reports id = some r →
      AllTexts (threatTexts r) ∧ escapesNul r.extra.toList = false := by
  rw [upsertThreats, upsertRows_eq_ok_iff, and_iff_right Threats.nodup_deduped, ← Threats.forall_mem_deduped_iff]
  exact forall₂_congr fun r _ => threatCells_fit_iff

/-! ### The alert -/

lemma isText_intercalate {sep : String} {parts : List String} (hsep : IsText sep) (h : ∀ p ∈ parts, IsText p) :
    IsText (sep.intercalate parts) := by
  induction parts with
  | nil => simp [IsText]
  | cons p parts ih =>
    rw [List.forall_mem_cons] at h
    cases parts with
    | nil => simpa using h.1
    | cons q parts =>
      rw [String.intercalate_cons_cons]
      simp only [isText_append]
      exact ⟨⟨h.1, hsep⟩, ih h.2⟩

lemma isText_orText {a : Option String} {b : String} (ha : IsTextOrNull a) (hb : IsText b) : IsText (orText a b) := by
  unfold orText
  cases a with
  | none => exact hb
  | some t =>
    by_cases ht : t = ""
    · simpa [Option.filter, ht] using hb
    · simpa [Option.filter, ht] using ha

lemma isText_of_mem_map_toList {a : Option String} {f : String → String} {p : String} (ha : IsTextOrNull a)
    (hf : ∀ t, IsText t → IsText (f t)) (hp : p ∈ ((a.filter (· ≠ "")).map f).toList) : IsText p := by
  obtain ⟨t, ht, rfl⟩ := Option.map_eq_some_iff.1 (Option.mem_toList.1 hp)
  exact hf t (ha t (Option.mem_filter_iff.1 ht).1)

lemma isText_detectionLine {alerts : Alerts} {r : ThreatReport} (h : AllTexts (threatTexts r)) :
    IsText (detectionLine alerts r) := by
  simp only [threatTexts, allTexts_cons] at h
  obtain ⟨-, hname, hseverity, -, hstatus, -⟩ := h
  refine isText_append.2 ⟨by decide, isText_intercalate (by decide) fun p hp => ?_⟩
  simp only [List.mem_append, List.mem_singleton] at hp
  rcases hp with ((rfl | hp) | hp) | hp
  · exact isText_orText hname (by decide)
  · exact isText_of_mem_map_toList hseverity (fun t ht => isText_append.2 ⟨by decide, ht⟩) hp
  · exact isText_of_mem_map_toList hstatus (fun t ht => isText_append.2 ⟨by decide, ht⟩) hp
  · obtain ⟨t, -, rfl⟩ := Option.map_eq_some_iff.1 (Option.mem_toList.1 hp)
    exact isText_append.2 ⟨by decide, (alerts.strftime t).2⟩

/-- What an alert says of a machine is stored, or is to be. -/
structure MachineContext.Storable (m : MachineContext) : Prop where
  machineUuid : IsText m.machineUuid
  hostname : IsTextOrNull m.hostname
  domain : IsTextOrNull m.domain
  ipAddress : IsTextOrNull m.ipAddress
  sessionUsername : IsTextOrNull m.sessionUsername

lemma isText_renderAlert {alerts : Alerts} {m : MachineContext} {rs : List ThreatReport} (hm : m.Storable)
    (hrs : ∀ r ∈ rs, AllTexts (threatTexts r)) :
    IsText (renderAlert alerts m rs).1 ∧ IsText (renderAlert alerts m rs).2 := by
  have hname : IsText (orText m.hostname m.machineUuid) := isText_orText hm.hostname hm.machineUuid
  constructor
  · unfold renderAlert
    dsimp only
    split
    · simp only [isText_append]
      exact ⟨⟨alerts.projectName.2, by decide⟩, hname⟩
    · simp only [isText_append]
      exact ⟨⟨⟨⟨alerts.projectName.2, by decide⟩, isText_repr _⟩, by decide⟩, hname⟩
  · refine isText_intercalate (by decide) fun p hp => ?_
    simp only [List.mem_append, List.mem_cons, List.not_mem_nil, or_false] at hp
    rcases hp with (((((rfl | rfl) | hp) | hp) | hp) | hp) | rfl
    · simp only [isText_append]
      exact ⟨⟨⟨⟨by decide, isText_repr _⟩, by decide⟩, hname⟩, by decide⟩
    · decide
    · obtain ⟨r, hr, rfl⟩ := List.mem_map.1 hp
      exact isText_detectionLine (hrs r (List.mem_of_mem_take hr))
    · split at hp
      · obtain rfl := List.mem_singleton.1 hp
        simp only [isText_append]
        exact ⟨⟨by decide, isText_repr _⟩, by decide⟩
      · cases hp
    · rcases hp with rfl | rfl | rfl | rfl | rfl | rfl | rfl
      · decide
      · exact isText_append.2 ⟨by decide, hname⟩
      · exact isText_append.2 ⟨by decide, hm.machineUuid⟩
      · exact isText_append.2 ⟨by decide, isText_orText hm.domain (by decide)⟩
      · exact isText_append.2 ⟨by decide, isText_orText hm.ipAddress (by decide)⟩
      · exact isText_append.2 ⟨by decide, isText_orText hm.sessionUsername (by decide)⟩
      · decide
    · cases hbase : alerts.consoleBaseUrl with
      | none =>
        rw [hbase] at hp
        cases hp
      | some base =>
        simp only [hbase, List.mem_cons, List.not_mem_nil, or_false] at hp
        rcases hp with rfl | rfl
        · simp only [isText_append]
          exact ⟨⟨⟨by decide, base.2⟩, by decide⟩, alerts.machineId.2⟩
        · decide
    · simp only [isText_append]
      exact ⟨⟨by decide, by decide⟩, by decide⟩

lemma isTextOrNull_or {a b : Option String} (ha : IsTextOrNull a) (hb : IsTextOrNull b) : IsTextOrNull (a.or b) := by
  cases a with
  | none => simpa using hb
  | some t => simpa using ha

lemma storable_machineContext {s : Stored} {b : Body} (h : AllTexts (attributeTexts b)) :
    (machineContext s b).Storable := by
  simp only [attributeTexts, allTexts_append, allTexts_cons, allTexts_flatMap] at h
  obtain ⟨⟨⟨⟨⟨hhostname, hdomain, -, hip, -⟩, -⟩, -⟩, hsession⟩, -⟩ := h
  refine ⟨s.machineUuid.2, isTextOrNull_or hhostname (Text.isTextOrNull _),
    isTextOrNull_or hdomain (Text.isTextOrNull _), isTextOrNull_or hip (Text.isTextOrNull _), ?_⟩
  unfold machineContext
  cases hs : b.session with
  | none => exact Text.isTextOrNull _
  | some session => exact (hsession session (Option.mem_toList.2 hs)).1

lemma queueThreatAlert_ok {ctx : Context} {s : Stored} {b : Body} (hb : AllTexts (attributeTexts b))
    (hthreats : ∀ r ∈ Threats.deduped b.threats, AllTexts (threatTexts r)) : queueThreatAlert ctx s b = .ok () := by
  unfold queueThreatAlert
  dsimp only
  split
  · rfl
  · have hfresh : ∀ r ∈ recentDetections ctx (newDetections s b.threats), AllTexts (threatTexts r) :=
      fun r hr => hthreats r (List.mem_filter.1 (List.mem_filter.1 hr).1).1
    have hmail := @isText_renderAlert ctx.alerts _ _ (@storable_machineContext s b hb) hfresh
    rw [accept_eq_ok_iff, List.forall_mem_flatMap]
    intro address _
    have hstatus : IsText "pending" := by decide
    have hattempts : IsInt4 0 := by decide
    simp [outboxCells, address.2, hmail, hstatus, hattempts]

lemma reportFits_iff {r : InventoryReport} : ReportFits r ↔
    (AllTexts (factsTexts r.facts) ∧ IsTextOrNull (orNone r.hash)) ∧
      SetFits MemoryModuleReport.slot memoryModuleTexts r.memoryModules ∧
      SetFits DiskReport.deviceId diskTexts r.disks ∧ SetFits VolumeReport.letter volumeTexts r.volumes ∧
      SetFits NicReport.key nicTexts r.nics ∧ SetFits GpuReport.name gpuTexts r.gpus ∧ SoftwareFits r.software :=
  ⟨fun h => ⟨⟨h.facts, h.hash⟩, h.memoryModules, h.disks, h.volumes, h.nics, h.gpus, h.software⟩,
    fun ⟨⟨hfacts, hhash⟩, hmemory, hdisks, hvolumes, hnics, hgpus, hsoftware⟩ =>
      ⟨hfacts, hhash, hmemory, hdisks, hvolumes, hnics, hgpus, hsoftware⟩⟩

/-! ### The room -/

section Room

variable {t : Rooms.Tables} {key name : String}

/-- A loose room that has the name and no key is the one that is found by its name. -/
lemma adopted_of_loose (legal : t.Legal) {r : Rooms.Room} (hr : r ∈ t.rooms) (hname : r.name = name)
    (hloose : r.buildingId = none) (hkey : r.adKey = none) :
    (Rooms.roomByName t none name).filter (·.adKey = none) = some r := by
  have hfound : Rooms.roomByName t none name = some r := by
    cases hfound : Rooms.roomByName t none name with
    | none =>
      have hnot := List.find?_eq_none.1 hfound r hr
      simp [hname, hloose] at hnot
    | some q =>
      have hq : q.name = name ∧ q.buildingId = none := by simpa using List.find?_some hfound
      have hmem : q ∈ t.rooms := List.mem_of_find?_eq_some hfound
      have hid := legal.roomNames q hmem r hr (hq.2.trans hloose.symm) (hq.1.trans hname.symm)
      rw [eq_of_key_eq legal.roomIds hmem hr (show q.key = r.key from hid)]
  rw [hfound]
  exact Option.filter_some_pos (decide_eq_true hkey)

lemma freeName_length_le_iff : (Rooms.freeName t name).length ≤ 100 ↔
    ∃ n, (Rooms.candidate name n).length ≤ 100 ∧ Rooms.candidate name n ∉ Rooms.looseNames t := by
  obtain ⟨n, heq, hfree, htaken⟩ := Rooms.freeName_spec t name
  rw [heq] at hfree ⊢
  refine ⟨fun h => ⟨n, h, hfree⟩, fun ⟨m, hlength, hm⟩ => ?_⟩
  -- the first name that is free is no longer than another one that is
  have hle : n ≤ m := Nat.le_of_not_lt fun hlt => hm (htaken m hlt)
  exact Nat.le_trans (Rooms.length_candidate_mono name hle) hlength

/-- **The name of a room that is created** is short enough, or no room is created. -/
lemma createdName_fits_iff (legal : t.Legal) :
    (∀ created ∈ createdName t key name, created.length ≤ 100) ↔ RoomFits t key name := by
  unfold createdName RoomFits
  cases hfound : t.rooms.find? (·.adKey = some key) with
  | some r =>
    have hkey : r.adKey = some key := by simpa using List.find?_some hfound
    exact iff_of_true (fun _ h => by cases h) (.inl ⟨r, List.mem_of_find?_eq_some hfound, hkey⟩)
  | none =>
    have hfree : ∀ r ∈ t.rooms, r.adKey ≠ some key := by simpa using hfound
    cases hloose : (Rooms.roomByName t none name).filter (·.adKey = none) with
    | some r =>
      obtain ⟨hname, hnone⟩ := Option.filter_eq_some_iff.1 hloose
      have hr : r.name = name ∧ r.buildingId = none := by simpa using List.find?_some hname
      exact iff_of_true (fun _ h => by cases h)
        (.inr (.inl ⟨r, List.mem_of_find?_eq_some hname, hr.1, hr.2, of_decide_eq_true hnone⟩))
    | none =>
      have hsome : (∀ created ∈ some (Rooms.freeName t name), created.length ≤ 100) ↔
          (Rooms.freeName t name).length ≤ 100 := by simp
      refine (hsome.trans freeName_length_le_iff).trans ⟨fun h => .inr (.inr h), fun h => ?_⟩
      rcases h with ⟨r, hr, hkey⟩ | ⟨r, hr, hname, hbuilding, hkey⟩ | h
      · exact absurd hkey (hfree r hr)
      · rw [adopted_of_loose legal hr hname hbuilding hkey] at hloose
        cases hloose
      · exact h

lemma isText_createdName (hname : IsText name) : ∀ created ∈ createdName t key name, IsText created := by
  intro created hcreated
  unfold createdName at hcreated
  split at hcreated
  · cases hcreated
  · split at hcreated
    · cases hcreated
    · obtain ⟨n, heq, -, -⟩ := Rooms.freeName_spec t name
      rw [← Option.some.inj hcreated, heq]
      cases n with
      | zero => exact hname
      | succ n =>
        simp only [Rooms.candidate, isText_append]
        exact ⟨hname, by decide, isText_repr _, by decide⟩

lemma roomCells_fit_iff (legal : t.Legal) (hkey : IsText key ∧ key.length ≤ 500) (hname : IsText name) :
    (∀ c ∈ roomCells t key name, c.Fits) ↔ RoomFits t key name := by
  rw [← createdName_fits_iff legal]
  unfold roomCells
  cases hcreated : createdName t key name with
  | none =>
    refine iff_of_true ?_ fun _ h => by cases h
    dsimp only
    split
    · exact fun c hc => by cases hc
    · simpa using hkey
  | some created =>
    have htext : IsText created := isText_createdName hname created hcreated
    simp [htext, hkey]

end Room

/-- What the directory names is what the poste reports. -/
lemma directoryKey_on {d : DirectoryReport} {machine : Rooms.Machine} {source : Rooms.RoomSource} {key name : String}
    (h : Rooms.directoryKey (d.on machine) source = some (key, name)) :
    (d.ouDn = some key ∧ d.ou = some name) ∨ (d.adLocation = some key ∧ d.adLocation = some name) := by
  cases source with
  | manual => cases h
  | adOu =>
    cases hdn : d.ouDn with
    | none => simp [Rooms.directoryKey, DirectoryReport.on, hdn] at h
    | some dn =>
      cases hou : d.ou with
      | none => simp [Rooms.directoryKey, DirectoryReport.on, hdn, hou] at h
      | some ou =>
        simp only [Rooms.directoryKey, DirectoryReport.on, hdn, hou] at h
        split at h
        · simp only [Option.some.injEq, Prod.mk.injEq] at h
          exact .inl ⟨congrArg some h.1, congrArg some h.2⟩
        · cases h
  | adLocation =>
    cases hlocation : d.adLocation with
    | none => simp [Rooms.directoryKey, DirectoryReport.on, hlocation] at h
    | some location =>
      simp only [Rooms.directoryKey, DirectoryReport.on, hlocation] at h
      split at h
      · simp only [Option.some.injEq, Prod.mk.injEq] at h
        exact .inr ⟨congrArg some h.1, congrArg some h.2⟩
      · cases h

lemma length_le_of_mem_bounded {value : Option String} {limit : ℕ} {t : String} (h : t ∈ bounded value limit) :
    t.length ≤ limit := by
  obtain ⟨u, -, hu⟩ := Option.bind_eq_some_iff.1 h
  unfold orNone at hu
  split at hu
  · cases hu
  · rw [← Option.some.inj hu]
    simp [truncate]

lemma applyDirectory_iff {ctx : Context} {s : Stored} {d : DirectoryReport} (h : AllTexts (directoryTexts d.bound)) :
    (∃ t, applyDirectory ctx s (some d.bound) = .ok t) ↔ ∀ key name,
      Rooms.directoryKey (d.bound.on s.machine) ctx.source = some (key, name) → RoomFits s.tables key name := by
  simp only [directoryTexts, allTexts_cons] at h
  obtain ⟨-, hou, houDn, hlocation, -⟩ := h
  let m := d.bound.on s.machine
  have hlegal : (s.tables.writeMachine m).Legal :=
    Rooms.writeMachine_legal s.legal (show ∀ r ∈ s.machine.roomId, _ from s.legal.machineRoom s.machine s.known)
  have hkeyed : m.key ∈ s.tables.machines.map Rooms.Machine.key :=
    show s.machine.key ∈ _ from List.mem_map_of_mem s.known
  have hm : m ∈ (s.tables.writeMachine m).machines := mem_putRow_self hkeyed
  change (∃ t, placeFromDirectory ctx (s.tables.writeMachine m) m = .ok t) ↔ _
  unfold placeFromDirectory
  by_cases hsource : ctx.source = .manual
  · rw [if_pos hsource]
    exact iff_of_true ⟨_, rfl⟩ fun key name hkey => by rw [hsource] at hkey; cases hkey
  · rw [if_neg hsource]
    obtain ⟨t', created, -, hplaced, -⟩ := Rooms.placeFromDirectory_spec hlegal hsource ctx.uuid4 ctx.now hm
    rw [hplaced]
    cases hentry : Rooms.directoryKey m ctx.source with
    | none => exact iff_of_true ⟨t', rfl⟩ fun key name hkey => by cases hkey
    | some entry =>
      obtain ⟨key, name⟩ := entry
      have hkey : IsText key ∧ key.length ≤ 500 ∧ IsText name := by
        rcases directoryKey_on hentry with ⟨hdn, hname⟩ | ⟨hkey, hname⟩
        · exact ⟨houDn key hdn, length_le_of_mem_bounded hdn, hou name hname⟩
        · exact ⟨hlocation key hkey, Nat.le_trans (length_le_of_mem_bounded hkey) (by decide), hlocation name hname⟩
      have hroom := roomCells_fit_iff hlegal ⟨hkey.1, hkey.2.1⟩ hkey.2.2
      have hcases : (∀ key' name', some (key, name) = some (key', name') → RoomFits s.tables key' name') ↔
          RoomFits s.tables key name :=
        ⟨fun h => h key name rfl, fun h _ _ heq => by cases heq; exact h⟩
      refine Iff.trans ?_ hcases.symm
      refine Iff.trans ?_ hroom
      rw [← accept_eq_ok_iff]
      cases haccept : accept (roomCells (s.tables.writeMachine m) key name) with
      | error e => simp [haccept, bind, Except.bind]
      | ok u => simp [haccept, bind, Except.bind]

/-! ### The columns of the machine -/

lemma forall_mem_block {α β : Type} {o : Option α} {f : α → List β} {P : β → Prop} :
    (∀ b ∈ o.toList.flatMap f, P b) ↔ ∀ a ∈ o, ∀ b ∈ f a, P b := by
  simp only [List.forall_mem_flatMap, Option.mem_toList, Option.mem_def]

@[simp] lemma given_text_fits_iff {column : String} {value : Option String} :
    (∀ c ∈ given (Cell.text column) value, c.Fits) ↔ IsTextOrNull value := by
  cases value with
  | none => simp [given]
  | some t => simp [given]

lemma attributeCells_fit_iff {b : Body} (hbits : ∀ n ∈ b.ipPrefixLength, IsInt4 n) :
    (∀ c ∈ attributeCells b, c.Fits) ↔
      AllTexts [b.hostname, b.domain, b.location.join, b.ipAddress, b.macAddress, b.osVersion, b.agentVersion] := by
  have hlocation : (∀ c ∈ (b.location.map (Cell.text "location")).toList, c.Fits) ↔ IsTextOrNull b.location.join := by
    cases b.location with
    | none => simp
    | some location => simp
  have hint : ∀ c ∈ (b.ipPrefixLength.map fun n => Cell.integer "ip_prefix_length" (some n)).toList, c.Fits := by
    intro c hc
    obtain ⟨n, hn, rfl⟩ := Option.map_eq_some_iff.1 (Option.mem_toList.1 hc)
    simpa using hbits n hn
  simp only [attributeCells, List.forall_mem_append, given_text_fits_iff, hlocation, iff_true_intro hint, and_true,
    allTexts_cons, and_assoc, allTexts_nil]

lemma factsCells_fit_iff {f : Facts} :
    (∀ c ∈ factsCells (boundFacts f), c.Fits) ↔ AllTexts (factsTexts (boundFacts f)) := by
  have hcores : ∀ n ∈ (boundFacts f).cpuCores, IsInt4 n := isInt4_boundedInt (by decide)
  have hthreads : ∀ n ∈ (boundFacts f).cpuThreads, IsInt4 n := isInt4_boundedInt (by decide)
  have hspeed : ∀ n ∈ (boundFacts f).cpuSpeedMhz, IsInt4 n := isInt4_boundedInt (by decide)
  have hcount : ∀ n ∈ (boundFacts f).cpuCount, IsInt4 n := isInt4_boundedInt (by decide)
  have htotal : ∀ n ∈ (boundFacts f).ramTotalMb, IsInt4 n := isInt4_boundedInt (by decide)
  have hslots : ∀ n ∈ (boundFacts f).ramSlotsTotal, IsInt4 n := isInt4_boundedInt (by decide)
  have hused : ∀ n ∈ (boundFacts f).ramSlotsUsed, IsInt4 n := isInt4_boundedInt (by decide)
  generalize boundFacts f = f at *
  simp only [factsCells, factsTexts, List.forall_mem_cons, Cell.fits_integer, Cell.fits_text, Cell.fits_plain,
    allTexts_cons, and_iff_right hcores, and_iff_right hthreads, and_iff_right hspeed, and_iff_right hcount,
    and_iff_right htotal, and_iff_right hslots, and_iff_right hused, true_and]
  simp

/-- The figures of the system volume are those of a volume. -/
lemma systemVolumeCells_fit {texts : Texts} {r : InventoryReport} :
    ∀ c ∈ systemVolumeCells (boundReport texts r).volumes, c.Fits := by
  intro c hc
  unfold systemVolumeCells at hc
  cases hvolumes : (boundReport texts r).volumes with
  | none =>
    rw [hvolumes] at hc
    cases hc
  | some volumes =>
    have hints : ∀ v ∈ volumes.find? VolumeReport.isSystem,
        (∀ n ∈ v.totalMb, IsInt4 n) ∧ ∀ n ∈ v.freeMb, IsInt4 n := by
      intro v hv
      have hmem : v ∈ ((boundReport texts r).volumes).getD [] := by
        rw [hvolumes]
        exact List.mem_of_find?_eq_some hv
      obtain ⟨v₀, rfl⟩ := exists_of_mem_validated hmem
      exact ⟨isInt4_boundedInt (by decide), isInt4_boundedInt (by decide)⟩
    simp only [hvolumes] at hc
    generalize volumes.find? VolumeReport.isSystem = system at hc hints
    cases system with
    | none =>
      simp only [List.mem_cons, List.not_mem_nil, or_false] at hc
      rcases hc with rfl | rfl <;> simp
    | some v =>
      have hv := hints v rfl
      simp only [List.mem_cons, List.not_mem_nil, or_false] at hc
      rcases hc with rfl | rfl
      · simpa using hv.1
      · simpa using hv.2

lemma inventoryCells_fit_iff {texts : Texts} {s : Stored} {r : InventoryReport} :
    (∀ c ∈ inventoryCells s (boundReport texts r), c.Fits) ↔ (isUnchanged s (boundReport texts r) = false →
      AllTexts (factsTexts (boundReport texts r).facts) ∧ IsTextOrNull (orNone (boundReport texts r).hash)) := by
  unfold inventoryCells
  split
  · rename_i h
    simp [h]
  · rename_i h
    have hfacts : (∀ c ∈ factsCells (boundReport texts r).facts, c.Fits) ↔
        AllTexts (factsTexts (boundReport texts r).facts) := factsCells_fit_iff
    rw [List.forall_mem_append, List.forall_mem_append, hfacts, and_iff_left systemVolumeCells_fit]
    simp [h]

/-- At most 500 updates are pending. -/
lemma wuCells_fit {texts : Texts} {machineId : Uuid} {now : Time} {wu : WUStateReport} :
    ∀ c ∈ wuCells machineId now { wu with pending := some (wu.validated texts.lower) }, c.Fits := by
  have hcount : IsInt4 ((pendingRows machineId now (wu.validated texts.lower)).length : ℕ) := by
    have hrows : (pendingRows machineId now (wu.validated texts.lower)).length ≤
        0 + ((((wu.validated texts.lower).map PendingUpdateReport.columns).map (stamped machineId now)).filter
          fun r => r.data.updateId ≠ "").length := length_foldl_upsert_le _
    have hfiltered := List.length_filter_le (fun r : Child PendingUpdate => r.data.updateId ≠ "")
      (((wu.validated texts.lower).map PendingUpdateReport.columns).map (stamped machineId now))
    have htaken : (wu.validated texts.lower).length ≤ 500 := List.length_take_le _ _
    simp only [List.length_map] at hfiltered
    exact isInt4_of_le (m := 500) (by omega) (by decide)
  simpa [wuCells] using hcount

lemma defenderCells_fit_iff {d : DefenderState} : (∀ c ∈ defenderCells d, c.Fits) ↔
    AllTexts [d.signatureVersion, d.runningMode] ∧ ∀ n ∈ d.signatureAgeDays, IsInt4 n := by
  simp only [defenderCells, List.forall_mem_cons, Cell.fits_integer, Cell.fits_text, Cell.fits_plain, allTexts_cons,
    allTexts_nil, true_and, and_true]
  constructor
  · rintro ⟨hversion, hage, hmode, -⟩
    exact ⟨⟨hversion, hmode⟩, hage⟩
  · rintro ⟨⟨hversion, hmode⟩, hage⟩
    exact ⟨hversion, hage, hmode, fun c hc => by cases hc⟩

lemma avProductCells_fit_iff {av : AVProduct} : (∀ c ∈ avProductCells av, c.Fits) ↔ AllTexts [some av.name] := by
  simp [avProductCells]

lemma sessionCells_fit_iff {session : SessionState} :
    (∀ c ∈ sessionCells session, c.Fits) ↔ AllTexts [session.username, session.state] := by
  simp [sessionCells]

lemma directoryCells_fit_iff {d : DirectoryReport} :
    (∀ c ∈ directoryCells d, c.Fits) ↔ AllTexts (directoryTexts d) := by
  simp [directoryCells, directoryTexts]

lemma fingerprintCells_fit_iff {fp : Fingerprint} :
    (∀ c ∈ fingerprintCells fp, c.Fits) ↔ AllTexts (fingerprintTexts fp) := by
  simp only [fingerprintCells, List.forall_mem_cons, List.forall_mem_append, Cell.fits_plain, given_text_fits_iff]
  simp [fingerprintTexts, and_assoc]

lemma attributeTexts_iff {b : Body} : AllTexts (attributeTexts b) ↔
    AllTexts [b.hostname, b.domain, b.location.join, b.ipAddress, b.macAddress, b.osVersion, b.agentVersion] ∧
      (∀ d ∈ b.defender, AllTexts [d.signatureVersion, d.runningMode]) ∧
      (∀ av ∈ b.avProduct, AllTexts [some av.name]) ∧
      (∀ session ∈ b.session, AllTexts [session.username, session.state]) ∧
      ∀ fp ∈ b.fingerprint, AllTexts (fingerprintTexts fp) := by
  have hblock {α : Type} {o : Option α} {f : α → List (Option String)} :
      AllTexts (o.toList.flatMap f) ↔ ∀ a ∈ o, AllTexts (f a) := forall_mem_block
  simp only [attributeTexts, allTexts_append, hblock, and_assoc]

/-- **The columns of the machine.** -/
theorem machineCells_fit_iff {ctx : Context} {s : Stored} {body : Body} :
    (∀ c ∈ machineCells ctx s (body.validate ctx.texts), c.Fits) ↔
      AllTexts (attributeTexts (body.validate ctx.texts)) ∧
      (∀ d ∈ (body.validate ctx.texts).defender, ∀ n ∈ d.signatureAgeDays, IsInt4 n) ∧
      (∀ inv ∈ (body.validate ctx.texts).inventory, isUnchanged s inv.report = false →
        AllTexts (factsTexts inv.report.facts) ∧ IsTextOrNull (orNone inv.report.hash)) ∧
      ∀ inv ∈ (body.validate ctx.texts).inventory, ∀ d ∈ inv.directory, AllTexts (directoryTexts d) := by
  have hattributes : (∀ c ∈ attributeCells (body.validate ctx.texts), c.Fits) ↔ _ :=
    attributeCells_fit_iff isInt4_boundedPrefix
  have hupdates : ∀ wu ∈ (body.validate ctx.texts).windowsUpdate, ∀ c ∈ wuCells s.machine.id ctx.now wu, c.Fits := by
    intro wu hwu
    obtain ⟨wu₀, -, rfl⟩ := Option.map_eq_some_iff.1 hwu
    exact wuCells_fit
  have hinventory : (∀ inv ∈ (body.validate ctx.texts).inventory, ∀ c ∈ inventoryCells s inv.report, c.Fits) ↔
      ∀ inv ∈ (body.validate ctx.texts).inventory, isUnchanged s inv.report = false →
        AllTexts (factsTexts inv.report.facts) ∧ IsTextOrNull (orNone inv.report.hash) := by
    refine forall₂_congr fun inv hinv => ?_
    obtain ⟨inv₀, -, rfl⟩ := Option.map_eq_some_iff.1 hinv
    exact inventoryCells_fit_iff
  have htoken : IsTextOrNull (if (body.validate ctx.texts).supportsTokenRotation
      then ctx.offered.map Subtype.val else none) := by
    split
    · exact Text.isTextOrNull _
    · exact isTextOrNull_none
  simp only [machineCells, List.forall_mem_append, forall_mem_block, hattributes, defenderCells_fit_iff,
    avProductCells_fit_iff, sessionCells_fit_iff, directoryCells_fit_iff, fingerprintCells_fit_iff, given_text_fits_iff,
    attributeTexts_iff, forall_and, hinventory]
  constructor
  · rintro ⟨⟨⟨⟨⟨⟨⟨⟨hcolumns, hdefender, hage⟩, hav⟩, hsession⟩, -⟩, hreport, hdirectory⟩, hfingerprint⟩, -⟩, -⟩
    exact ⟨⟨hcolumns, hdefender, hav, hsession, hfingerprint⟩, hage, hreport, hdirectory⟩
  · rintro ⟨⟨hcolumns, hdefender, hav, hsession, hfingerprint⟩, hage, hreport, hdirectory⟩
    exact ⟨⟨⟨⟨⟨⟨⟨⟨hcolumns, hdefender, hage⟩, hav⟩, hsession⟩, hupdates⟩, hreport, hdirectory⟩, hfingerprint⟩,
      by simp⟩, htoken⟩

/-! ### The transaction -/

lemma replacePending_iff {machineId : Uuid} {now : Time} {wu : WUStateReport} :
    replacePending machineId now wu = .ok () ↔ ∀ u, lastReported PendingUpdate.updateId (· ≠ "")
      ((wu.pending.getD []).map PendingUpdateReport.columns) u.updateId = some u → AllTexts (updateTexts u) := by
  have hkeys : ((pendingRows machineId now (wu.pending.getD [])).map (Child.identity PendingUpdate.updateId)).Nodup :=
    Inventory.nodup_deduped
  rw [replacePending, upsertRows_eq_ok_iff, and_iff_right hkeys]
  simp only [childCells_fit_iff, updateCells_fit_iff]
  exact Inventory.forall_mem_deduped_iff (P := fun u => AllTexts (updateTexts u))

lemma storeInventory_ok_iff {ctx : Context} {s : Stored} {inventory : Option InventoryBlock} :
    (∃ t, storeInventory ctx s inventory = .ok t) ↔ ∀ inv ∈ inventory,
      (isUnchanged s inv.report = false → applyInventory s.machine.id ctx.now inv.report = .ok ()) ∧
        ∃ t, applyDirectory ctx s inv.directory = .ok t := by
  cases inventory with
  | none => exact iff_of_true ⟨s.tables, rfl⟩ fun inv hinv => by cases hinv
  | some inv =>
    have hone {P : InventoryBlock → Prop} : (∀ i ∈ some inv, P i) ↔ P inv := by simp
    rw [hone]
    unfold storeInventory
    by_cases h : isUnchanged s inv.report = true
    · simp [h, ok_bind]
    · cases happly : applyInventory s.machine.id ctx.now inv.report with
      | error e => simp [h, happly, error_bind]
      | ok u => simp [h, happly, ok_bind]

lemma handle_eq (ctx : Context) (s : Stored) (b : Body) : handle ctx s b =
    (b.windowsUpdate.elim (.ok ()) (replacePending s.machine.id ctx.now) >>= fun _ =>
      storeInventory ctx s b.inventory >>= fun tables => record ctx s >>= fun _ => upsertThreats b.threats >>= fun _ =>
        queueThreatAlert ctx s b >>= fun _ => accept (machineCells ctx s b) >>= fun _ => .ok tables) := by
  unfold handle
  cases b.windowsUpdate with
  | none => rfl
  | some wu => rfl

lemma handle_ok_iff {ctx : Context} {s : Stored} {b : Body} : (∃ t, handle ctx s b = .ok t) ↔
    (∀ wu ∈ b.windowsUpdate, replacePending s.machine.id ctx.now wu = .ok ()) ∧
      (∃ t, storeInventory ctx s b.inventory = .ok t) ∧ record ctx s = .ok () ∧ upsertThreats b.threats = .ok () ∧
      queueThreatAlert ctx s b = .ok () ∧ accept (machineCells ctx s b) = .ok () := by
  have hupdates : b.windowsUpdate.elim (.ok ()) (replacePending s.machine.id ctx.now) = .ok () ↔
      ∀ wu ∈ b.windowsUpdate, replacePending s.machine.id ctx.now wu = .ok () := by
    cases b.windowsUpdate with
    | none => simp
    | some wu => simp
  rw [handle_eq, ← hupdates]
  constructor
  · rintro ⟨t, h⟩
    obtain ⟨_, hupdates, h⟩ := bind_eq_ok h
    obtain ⟨tables, hinventory, h⟩ := bind_eq_ok h
    obtain ⟨_, hrecord, h⟩ := bind_eq_ok h
    obtain ⟨_, hthreats, h⟩ := bind_eq_ok h
    obtain ⟨_, halert, h⟩ := bind_eq_ok h
    obtain ⟨_, hmachine, -⟩ := bind_eq_ok h
    exact ⟨hupdates, ⟨tables, hinventory⟩, hrecord, hthreats, halert, hmachine⟩
  · rintro ⟨hupdates, ⟨t, hinventory⟩, hrecord, hthreats, halert, hmachine⟩
    refine ⟨t, ?_⟩
    rw [hupdates, hinventory, hrecord, hthreats, halert, hmachine]
    rfl

/-- **A heartbeat commits when what it stores fits.** -/
theorem heartbeat_commits_iff (ctx : Context) (s : Stored) (body : Body) :
    (∃ t, heartbeat ctx s body = .ok t) ↔ Storable ctx s (body.validate ctx.texts) := by
  rw [heartbeat, handle_ok_iff, storeInventory_ok_iff, upsertThreats_iff, accept_eq_ok_iff, machineCells_fit_iff]
  simp only [replacePending_iff]
  have happly : ∀ inv ∈ (body.validate ctx.texts).inventory,
      ReportFits inv.report ↔ (AllTexts (factsTexts inv.report.facts) ∧ IsTextOrNull (orNone inv.report.hash)) ∧
        applyInventory s.machine.id ctx.now inv.report = .ok () := by
    intro inv hinv
    obtain ⟨inv₀, -, rfl⟩ := Option.map_eq_some_iff.1 hinv
    refine (reportFits_iff).trans (and_congr_right' applyInventory_iff.symm)
  have hroom : ∀ inv ∈ (body.validate ctx.texts).inventory, (∀ d ∈ inv.directory, AllTexts (directoryTexts d)) →
      ((∃ t, applyDirectory ctx s inv.directory = .ok t) ↔ ∀ d ∈ inv.directory, ∀ key name,
        Rooms.directoryKey (d.on s.machine) ctx.source = some (key, name) → RoomFits s.tables key name) := by
    intro inv hinv htexts
    obtain ⟨inv₀, -, rfl⟩ := Option.map_eq_some_iff.1 hinv
    cases hd : inv₀.directory with
    | none => simp [InventoryBlock.bound, hd, applyDirectory]
    | some d =>
      have htexts : AllTexts (directoryTexts d.bound) := htexts _ (by simp [InventoryBlock.bound, hd])
      simpa [InventoryBlock.bound, hd] using applyDirectory_iff htexts
  constructor
  · rintro ⟨hupdates, hinventory, -, hthreats, -, hattributes, hage, hreport, hdirectory⟩
    refine ⟨hage, hattributes, hupdates, fun inv hinv h => ?_, hdirectory, fun inv hinv => ?_, hthreats⟩
    · exact (happly inv hinv).2 ⟨hreport inv hinv h, (hinventory inv hinv).1 h⟩
    · exact (hroom inv hinv (hdirectory inv hinv)).1 (hinventory inv hinv).2
  · intro h
    have hthreats : ∀ r ∈ Threats.deduped (body.validate ctx.texts).threats, AllTexts (threatTexts r) :=
      Threats.forall_mem_deduped_iff.2 fun id r hid hr => (h.threats id r hid hr).1
    refine ⟨h.updates, fun inv hinv => ⟨fun hchanged => ?_, ?_⟩, record_ok, h.threats,
      queueThreatAlert_ok h.attributes hthreats, h.attributes, h.age, fun inv hinv hchanged => ?_, h.directory⟩
    · exact ((happly inv hinv).1 (h.inventory inv hinv hchanged)).2
    · exact (hroom inv hinv (h.directory inv hinv)).2 (h.room inv hinv)
    · exact ((happly inv hinv).1 (h.inventory inv hinv hchanged)).1

/-- A poste in no room, and no room. -/
def onePoste : Stored where
  tables := ⟨[⟨⟨1, none, none⟩, none, none, none, none, 0⟩], [], []⟩
  machine := ⟨⟨1, none, none⟩, none, none, none, none, 0⟩
  legal := by decide
  known := by decide
  machineUuid := ⟨"d41d", by decide⟩
  hostname := none
  domain := none
  ipAddress := none
  sessionUsername := none
  inventoryHash := none
  lastSeen := 0
  detections := []

/-- A server whose rooms are those of the directory. -/
def byUnits : Context where
  texts := ⟨id, id, some⟩
  source := .adOu
  uuid4 := .next
  offlineAfterSeconds := 900
  alerts := ⟨⟨"Tiai", by decide⟩, none, ⟨"1", by decide⟩, 20, 24, [], fun _ => ⟨"", by decide⟩⟩
  now := 60000000
  offered := none

/-- Signatures so old that the days are not an `INTEGER`. -/
def oldSignatures : Body :=
  { Body.empty with defender := some ⟨some true, some true, none, none, some 2147483648, none, none, none⟩ }

/-- A unit whose name is within its own bound, and not within that of a room's. -/
def longUnit : Body :=
  { Body.empty with
    inventory := some ⟨⟨"h", ⟨none, none, none, none, false, none, none, none, none, none, none, none, none, none, none,
      none, none, none, none, none, none, none, none, none, none, none⟩, none, none, none, none, none, none⟩,
      some ⟨none, some (String.ofList (List.replicate 101 'B')), some "OU=B", none⟩⟩ }

theorem heartbeat_lost : (¬ ∃ t, heartbeat byUnits onePoste oldSignatures = .ok t) ∧
    ¬ ∃ t, heartbeat byUnits onePoste longUnit = .ok t := by
  constructor
  · intro h
    obtain ⟨-, -, -, -, -, hcells⟩ := handle_ok_iff.1 h
    have hage := (machineCells_fit_iff.1 (accept_eq_ok_iff.1 hcells)).2.1 _ rfl _ rfl
    exact absurd hage (by decide)
  · intro h
    obtain ⟨-, hinventory, -, -, -, hcells⟩ := handle_ok_iff.1 h
    have htexts := (machineCells_fit_iff.1 (accept_eq_ok_iff.1 hcells)).2.2.2 _ rfl _ rfl
    have hkey : Rooms.directoryKey (DirectoryReport.on (DirectoryReport.bound ⟨none,
        some (String.ofList (List.replicate 101 'B')), some "OU=B", none⟩) onePoste.machine) .adOu =
        some ("OU=B", String.ofList (List.replicate 101 'B')) := by decide +kernel
    have hroom := (applyDirectory_iff htexts).1 (storeInventory_ok_iff.1 hinventory _ rfl).2 _ _ hkey
    rcases hroom with ⟨r, hr, -⟩ | ⟨r, hr, -⟩ | ⟨n, hn, -⟩
    · cases hr
    · cases hr
    · have hfirst : (Rooms.candidate (String.ofList (List.replicate 101 'B')) 0).length = 101 := by
        rw [Rooms.candidate, String.length_ofList, List.length_replicate]
      have hlength := Rooms.length_candidate_mono (String.ofList (List.replicate 101 'B')) (Nat.zero_le n)
      omega

end Tiai.Heartbeats
