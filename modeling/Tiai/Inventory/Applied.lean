import Tiai.Inventory.Model
import Tiai.Lib.Runs

/-!
# What an inventory leaves

The six sets of components are seen alike: a machine has a row of a key at most.  The set of the programs is seen
through the catalogue, under what tells programs apart.

* `view_applyInventory` — each set is replaced by what was read of it, and the rows of the others are left alone;
* `Describes` — the stored inventory of a machine is what a report leaves;
* `SameButLastSeen` — two stored inventories that differ by dates of last sight;
* `inventory_applied` — the replacement, the second application, and the one that an unchanged hash saves.
-/

namespace Tiai.Inventory

open Lib

/-! ### Programs -/

def Link.report (t : Triple) (l : Link) : SoftwareReport :=
  ⟨t.1, t.2.1, t.2.2, l.installDate, l.arch, l.source, l.installLocation⟩

/-- A link, told by what tells its program apart. -/
def linkAs (t : Triple) (l : Child Link) : Child SoftwareReport := ⟨l.machineId, l.data.report t, l.firstSeen, l.lastSeen⟩

/-- What a machine has of a program. -/
def softwareOf (i : Installed) (m : Uuid) (t : Triple) : Option (Child SoftwareReport) :=
  (i.catalogue.idOf t).bind fun id => (i.links.get m id).map (linkAs t)

/-- A report of a program is stored when it has a name. -/
def namedTriple (t : Triple) : Bool := nonEmpty t.1

/-- No link is out of sight. -/
theorem softwareOf_of_mem {i : Installed} {l : Child Link} (h : l ∈ i.links.rows) :
    ∃ t, softwareOf i l.machineId t = some (linkAs t l) := by
  obtain ⟨s, hs, hid⟩ := List.mem_map.1 (i.refers l h)
  have hrow : i.catalogue.idOf s.triple = some l.data.softwareId := by
    unfold Catalogue.idOf
    rw [(rowOf_eq_some_iff i.catalogue.identity).2 ⟨hs, rfl⟩, Option.map_some, hid]
  have hget : i.links.get l.machineId l.data.softwareId = some l := (rowOf_eq_some_iff i.links.unique).2 ⟨h, rfl⟩
  exact ⟨s.triple, by rw [softwareOf, hrow, Option.bind_some, hget, Option.map_some]⟩

section

variable {c : Catalogue} {i : Installed} {t : Triple} {id : ℕ} {reports : List SoftwareReport}

/-- The rows of a program are those of its triple. -/
lemma filter_softwareRows (hid : c.idOf t = some id) :
    ((softwareRows c reports).filter fun l => l.softwareId = id) =
      (reports.filter fun r => nonEmpty r.name && decide (r.triple = t)).map (SoftwareReport.link id) := by
  induction reports with
  | nil => rfl
  | cons r reports ih =>
    unfold softwareRows at ih ⊢
    by_cases hname : nonEmpty r.name = true
    · rw [List.filter_cons_of_pos (p := fun r : SoftwareReport => nonEmpty r.name) hname]
      cases hr : c.idOf r.triple with
      | none =>
        have hne : r.triple ≠ t := fun h => by rw [h, hid] at hr; cases hr
        rw [List.filterMap_cons_none (by rw [hr]; rfl), List.filter_cons_of_neg (by simp [hne])]
        exact ih
      | some id' =>
        rw [List.filterMap_cons_some (b := r.link id') (by rw [hr]; rfl)]
        by_cases ht : r.triple = t
        · have hsame : id' = id := by
            rw [ht, hid] at hr
            exact (Option.some.inj hr).symm
          rw [List.filter_cons_of_pos (by simp [SoftwareReport.link, hsame]),
            List.filter_cons_of_pos (by simp [hname, ht]), List.map_cons, ih, hsame]
        · have hother : id' ≠ id := fun h => ht (idOf_injective (h ▸ hr) hid)
          rw [List.filter_cons_of_neg (by simp [SoftwareReport.link, hother]),
            List.filter_cons_of_neg (by simp [ht])]
          exact ih
    · rw [List.filter_cons_of_neg (p := fun r : SoftwareReport => nonEmpty r.name) hname, List.filter_cons_of_neg (by simp [hname])]
      exact ih

lemma lastReported_softwareRows (hid : c.idOf t = some id) :
    lastReported Link.softwareId (· ≠ 0) (softwareRows c reports) id =
      (lastReported SoftwareReport.triple namedTriple reports t).map (SoftwareReport.link id) := by
  have hpos : decide (id ≠ 0) = true := decide_eq_true (Nat.pos_iff_ne_zero.1 (pos_of_idOf hid))
  unfold lastReported
  rw [if_pos hpos, filter_softwareRows hid, List.getLast?_map]
  by_cases hname : namedTriple t = true
  · rw [if_pos hname]
    congr 2
    refine List.filter_congr fun r _ => ?_
    by_cases ht : r.triple = t
    · have hrname : nonEmpty r.name = true := (ht ▸ hname : namedTriple r.triple = true)
      simp [ht, hrname]
    · simp [ht]
  · have hnil : (reports.filter fun r => nonEmpty r.name && decide (r.triple = t)) = [] := by
      refine List.filter_eq_nil_iff.2 fun r _ hr => hname ?_
      rw [Bool.and_eq_true, decide_eq_true_eq] at hr
      exact hr.2 ▸ hr.1
    rw [if_neg hname, hnil]
    rfl

/-- What is reported of a program that is not in the catalogue. -/
lemma lastReported_of_not_named (h : t ∉ namedTriples reports) :
    lastReported SoftwareReport.triple namedTriple reports t = none := by
  unfold lastReported
  split
  · rename_i hname
    have hnil : (reports.filter fun r => decide (r.triple = t)) = [] := by
      refine List.filter_eq_nil_iff.2 fun r hr ht => h ?_
      rw [decide_eq_true_eq] at ht
      exact mem_namedTriples.2 ⟨r, hr, (ht ▸ hname : namedTriple r.triple = true), ht⟩
    rw [hnil]
    rfl
  · rfl

/-- **The programs of a machine are replaced**, as the rows of the other sets are. -/
theorem softwareOf_replaceSoftware (cataloguedAt now : Time) (m₀ m : Uuid) (t : Triple) :
    softwareOf (replaceSoftware cataloguedAt now m₀ reports i) m t =
      replacedBy SoftwareReport.triple namedTriple m₀ now reports (softwareOf i m t) m t := by
  let ids := catalogueIds cataloguedAt (namedTriples reports) i.catalogue
  have hlinks : ∀ id, (replaceSoftware cataloguedAt now m₀ reports i).links.get m id =
      replacedBy Link.softwareId (· ≠ 0) m₀ now (softwareRows ids reports) (i.links.get m id) m id :=
    fun id => get_replaceSet m id
  cases hid : ids.idOf t with
  | none =>
    have hnew : softwareOf (replaceSoftware cataloguedAt now m₀ reports i) m t = none := by
      change (ids.idOf t).bind _ = none
      rw [hid, Option.bind_none]
    have hold : softwareOf i m t = none := by
      cases h : i.catalogue.idOf t with
      | none => rw [softwareOf, h, Option.bind_none]
      | some id =>
        have hkept : ids.idOf t = some id := idOf_catalogueIds_of_some _ h
        rw [hid] at hkept
        cases hkept
    have hmem : t ∉ namedTriples reports := by
      intro hmem
      have hsome : (ids.idOf t).isSome := isSome_idOf_catalogueIds hmem
      rw [hid] at hsome
      cases hsome
    rw [hnew, hold, replacedBy, lastReported_of_not_named hmem, Option.map_none, ite_self]
  | some id =>
    -- a program that is new has no link yet
    have hold : softwareOf i m t = (i.links.get m id).map (linkAs t) := by
      cases h : i.catalogue.idOf t with
      | none =>
        have hnone : i.links.get m id = none := by
          refine rowOf_eq_none_iff.2 fun hmem => ?_
          obtain ⟨l, hl, hkey⟩ := List.mem_map.1 hmem
          have hlt := lt_of_mem_ids (i.refers l hl)
          rw [(identity_eq_iff.1 hkey).2] at hlt
          exact absurd (idOf_catalogueIds_of_none h hid).1 (Nat.not_le.2 hlt)
        rw [softwareOf, h, Option.bind_none, hnone, Option.map_none]
      | some id' =>
        have hkept : ids.idOf t = some id' := idOf_catalogueIds_of_some _ h
        rw [hid] at hkept
        rw [softwareOf, h, Option.bind_some, ← Option.some.inj hkept]
    have hnew : softwareOf (replaceSoftware cataloguedAt now m₀ reports i) m t =
        (replacedBy Link.softwareId (· ≠ 0) m₀ now (softwareRows ids reports) (i.links.get m id) m id).map
          (linkAs t) := by
      change (ids.idOf t).bind _ = _
      rw [hid, Option.bind_some, hlinks]
    rw [hnew, hold]
    unfold replacedBy
    by_cases hm : m = m₀
    · rw [if_pos hm, if_pos hm, lastReported_softwareRows hid, Option.map_map, Option.map_map, Option.map_map]
      cases hlast : lastReported SoftwareReport.triple namedTriple reports t with
      | none => rfl
      | some r =>
        have htriple : r.triple = t := (mem_of_lastReported hlast).2
        subst htriple
        rfl
    · rw [if_neg hm, if_neg hm]

end

/-! ### The six sets -/

inductive Component
  | memoryModules
  | disks
  | volumes
  | nics
  | gpus
  | software

/-- What a row of the set says. -/
def Component.Row : Component → Type
  | memoryModules => MemoryModuleReport
  | disks => DiskReport
  | volumes => VolumeReport
  | nics => NicReport
  | gpus => GpuReport
  | software => SoftwareReport

def Component.Key : Component → Type
  | software => Triple
  | _ => String

instance : (c : Component) → DecidableEq c.Key
  | .software => inferInstanceAs (DecidableEq Triple)
  | .memoryModules | .disks | .volumes | .nics | .gpus => inferInstanceAs (DecidableEq String)

def Component.key : (c : Component) → c.Row → c.Key
  | memoryModules => MemoryModuleReport.slot
  | disks => DiskReport.deviceId
  | volumes => VolumeReport.letter
  | nics => NicReport.key
  | gpus => GpuReport.name
  | software => SoftwareReport.triple

/-- The key is not empty. -/
def Component.present : (c : Component) → c.Key → Bool
  | software => namedTriple
  | memoryModules | disks | volumes | nics | gpus => nonEmpty

/-- The list of a report. -/
def InventoryReport.reported (r : InventoryReport) : (c : Component) → Option (List c.Row)
  | .memoryModules => r.memoryModules
  | .disks => r.disks
  | .volumes => r.volumes
  | .nics => r.nics
  | .gpus => r.gpus
  | .software => r.software

/-- The row a machine has of a key. -/
def Stored.view (s : Stored) : (c : Component) → Uuid → c.Key → Option (Child c.Row)
  | .memoryModules => s.memoryModules.get
  | .disks => s.disks.get
  | .volumes => s.volumes.get
  | .nics => s.nics.get
  | .gpus => s.gpus.get
  | .software => softwareOf s.installed

/-- The date its rows are given. -/
def Instants.of (clock : Instants) : Component → Time
  | .software => clock.linkedAt
  | .memoryModules | .disks | .volumes | .nics | .gpus => clock.now

/-- A set after a report of `machineId`: as it was if the list was not read, replaced otherwise. -/
def replacedIfRead {δ κ : Type} [DecidableEq κ] (key : δ → κ) (present : κ → Bool) (machineId : Uuid) (now : Time)
    (reported : Option (List δ)) (old : Uuid → κ → Option (Child δ)) : Uuid → κ → Option (Child δ) :=
  match reported with
  | none => old
  | some ds => fun m k => replacedBy key present machineId now ds (old m k) m k

section

variable {c : Component} {clock : Instants} {m m₀ : Uuid} {r : InventoryReport} {s s' : Stored}

lemma get_replaceRead {δ κ : Type} [DecidableEq κ] {key : δ → κ} (present : κ → Bool) (now : Time)
    (reported : Option (List δ)) (t : Table key) :
    (replaceRead present m₀ now reported t).get = replacedIfRead key present m₀ now reported t.get := by
  cases reported with
  | none => rfl
  | some ds => exact funext fun m => funext fun k => get_replaceSet m k

/-- **Each set is replaced** by what was read of it. -/
theorem view_applyInventory (c : Component) : (applyInventory clock m₀ r s).view c =
    replacedIfRead c.key c.present m₀ (clock.of c) (r.reported c) (s.view c) := by
  cases c with
  | memoryModules => exact get_replaceRead nonEmpty clock.now r.memoryModules s.memoryModules
  | disks => exact get_replaceRead nonEmpty clock.now r.disks s.disks
  | volumes => exact get_replaceRead nonEmpty clock.now r.volumes s.volumes
  | nics => exact get_replaceRead nonEmpty clock.now r.nics s.nics
  | gpus => exact get_replaceRead nonEmpty clock.now r.gpus s.gpus
  | software =>
    unfold applyInventory Stored.view InventoryReport.reported replacedIfRead
    dsimp only
    cases r.software with
    | none => rfl
    | some reports => exact funext fun m => funext fun t => softwareOf_replaceSoftware _ _ m₀ m t

/-! ### What is described -/

/-- The rows a machine has are the reported ones, where the list was read. -/
def SetDescribes (c : Component) (reported : Option (List c.Row)) (held : c.Key → Option (Child c.Row)) : Prop :=
  ∀ ds, reported = some ds → ∀ k, (held k).map Child.data = lastReported c.key c.present ds k

/-- The columns of a machine are those of a report. -/
structure ColumnsDescribe (r : InventoryReport) (old : Columns) : Prop where
  facts : old.facts = r.facts
  system : ∀ volumes, r.volumes = some volumes →
    old.systemVolumeTotalMb = (volumes.find? VolumeReport.isSystem).bind VolumeReport.totalMb ∧
    old.systemVolumeFreeMb = (volumes.find? VolumeReport.isSystem).bind VolumeReport.freeMb
  hash : old.inventoryHash = if r.hash = "" then none else some r.hash

/-- The stored inventory of a machine is what a report leaves. -/
structure Describes (m : Uuid) (r : InventoryReport) (s : Stored) : Prop where
  columns : ColumnsDescribe r (s.machines m)
  sets : ∀ c : Component, SetDescribes c (r.reported c) (s.view c m)

/-- What a row says, the date it was last seen aside. -/
def Child.undated {δ : Type} (r : Child δ) : Uuid × δ × Time := (r.machineId, r.data, r.firstSeen)

/-- Two stored inventories that differ by dates of last sight, if at all. -/
structure SameButLastSeen (s s' : Stored) : Prop where
  columns : ∀ m, (s.machines m).seenAt none = (s'.machines m).seenAt none
  sets : ∀ (c : Component) (m : Uuid) (k : c.Key), (s.view c m k).map Child.undated = (s'.view c m k).map Child.undated
  catalogue : s.installed.catalogue.rows = s'.installed.catalogue.rows

lemma machineId_of_view {x : Child c.Row} {k : c.Key} (h : s.view c m k = some x) : x.machineId = m := by
  cases c with
  | memoryModules => exact (identity_eq_iff.1 (key_of_rowOf h)).1
  | disks => exact (identity_eq_iff.1 (key_of_rowOf h)).1
  | volumes => exact (identity_eq_iff.1 (key_of_rowOf h)).1
  | nics => exact (identity_eq_iff.1 (key_of_rowOf h)).1
  | gpus => exact (identity_eq_iff.1 (key_of_rowOf h)).1
  | software =>
    obtain ⟨id, -, hlink⟩ := Option.bind_eq_some_iff.1 h
    obtain ⟨l, hl, rfl⟩ := Option.map_eq_some_iff.1 hlink
    exact (identity_eq_iff.1 (key_of_rowOf hl)).1

/-- What was just applied is described. -/
lemma describes_applyInventory : Describes m r (applyInventory clock m r s) where
  columns := by
    have hself : (applyInventory clock m r s).machines m = columnsOf clock.now r (s.machines m) := Function.update_self ..
    rw [hself]
    refine ⟨rfl, fun volumes hvolumes => ?_, rfl⟩
    unfold columnsOf
    rw [hvolumes]
    exact ⟨rfl, rfl⟩
  sets := by
    intro c ds hds k
    rw [view_applyInventory, hds]
    unfold replacedIfRead replacedBy
    dsimp only
    rw [if_pos rfl, Option.map_map]
    exact Option.map_id_fun ▸ rfl

/-- A report of another machine leaves this one described. -/
lemma Describes.applyInventory_of_ne (hne : m ≠ m₀) {r' : InventoryReport} (h : Describes m r s) :
    Describes m r (applyInventory clock m₀ r' s) where
  columns := by
    have hother : (applyInventory clock m₀ r' s).machines m = s.machines m := Function.update_of_ne hne ..
    exact hother ▸ h.columns
  sets := by
    intro c ds hds k
    have hview : (applyInventory clock m₀ r' s).view c m k = s.view c m k := by
      rw [view_applyInventory]
      unfold replacedIfRead replacedBy
      cases r'.reported c with
      | none => rfl
      | some ds' => exact if_neg hne
    rw [hview]
    exact h.sets c ds hds k

/-- The rows of a machine that a report describes keep all but their date when it is applied. -/
lemma undated_replacedIfRead {reported : Option (List c.Row)} {now : Time}
    (h : SetDescribes c reported (s.view c m₀)) (k : c.Key) :
    (replacedIfRead c.key c.present m₀ now reported (s.view c) m k).map Child.undated =
      (s.view c m k).map Child.undated := by
  unfold replacedIfRead replacedBy
  cases reported with
  | none => rfl
  | some ds =>
    dsimp only
    by_cases hm : m = m₀
    · subst hm
      rw [if_pos rfl, ← h ds rfl k]
      cases hold : s.view c m k with
      | none => rfl
      | some x => simp [Child.undated, machineId_of_view hold]
    · rw [if_neg hm]

/-- **A report that is described already changes dates of last sight only.** -/
theorem sameButLastSeen_of_describes (h : Describes m r s) : SameButLastSeen s (applyInventory clock m r s) where
  columns := by
    intro m'
    by_cases hm : m' = m
    · subst hm
      have hself : (applyInventory clock m' r s).machines m' = columnsOf clock.now r (s.machines m') :=
        Function.update_self ..
      rw [hself]
      unfold columnsOf
      rw [← h.columns.facts, ← h.columns.hash]
      cases hvolumes : r.volumes with
      | none => rfl
      | some volumes =>
        dsimp only
        rw [← (h.columns.system volumes hvolumes).1, ← (h.columns.system volumes hvolumes).2]
        rfl
    · have hother : (applyInventory clock m r s).machines m' = s.machines m' := Function.update_of_ne hm ..
      rw [hother]
  sets := by
    intro c m' k
    rw [view_applyInventory]
    exact (undated_replacedIfRead (h.sets c) k).symm
  catalogue := by
    unfold applyInventory
    dsimp only
    cases hsoftware : r.software with
    | none => rfl
    | some reports =>
      refine (rows_catalogueIds_of_isSome fun t ht => ?_).symm
      -- each named program of the report is linked, and so has a row
      obtain ⟨p, hp, hname, rfl⟩ := mem_namedTriples.1 ht
      have hset := h.sets .software reports hsoftware p.triple
      have hlast : (lastReported SoftwareReport.triple namedTriple reports p.triple).isSome := by
        unfold lastReported
        rw [if_pos (show namedTriple p.triple = true from hname), List.getLast?_isSome]
        exact List.ne_nil_of_mem (List.mem_filter.2 ⟨hp, decide_eq_true rfl⟩)
      have hheld : (softwareOf s.installed m p.triple).isSome := by
        rw [← Option.isSome_map (f := Child.data)]
        exact hset ▸ hlast
      obtain ⟨x, hx⟩ := Option.isSome_iff_exists.1 hheld
      obtain ⟨id, hid, -⟩ := Option.bind_eq_some_iff.1 hx
      rw [hid]
      rfl

/-! ### Runs -/

/-- The hash that is stored for a machine is of a report it sent, which its stored inventory still is. -/
def Remembered (es : List Reported) (s : Stored) : Prop :=
  ∀ m hash, (s.machines m).inventoryHash = some hash →
    ∃ e ∈ es, e.machineId = m ∧ e.report.hash = hash ∧ Describes m e.report s

variable {e : Reported} {es : List Reported}

lemma heartbeatInventory_of_unchanged (h : unchangedHash s e) : heartbeatInventory s e =
    { s with
      machines := Function.update s.machines e.machineId ((s.machines e.machineId).seenAt (some e.instants.now)) } := by
  unfold heartbeatInventory
  rw [if_pos h]

lemma heartbeatInventory_of_changed (h : ¬ unchangedHash s e) :
    heartbeatInventory s e = applyInventory e.instants e.machineId e.report s := by
  unfold heartbeatInventory
  rw [if_neg h]

/-- The date of the last sight of a machine is all that an unchanged hash writes. -/
lemma columns_of_unchanged (h : unchangedHash s e) (m : Uuid) : ∃ seen,
    (heartbeatInventory s e).machines m = (s.machines m).seenAt seen := by
  rw [heartbeatInventory_of_unchanged h]
  by_cases hm : m = e.machineId
  · subst hm
    exact ⟨some e.instants.now, Function.update_self ..⟩
  · exact ⟨(s.machines m).inventoryLastSeen, Function.update_of_ne hm ..⟩

lemma view_of_unchanged (h : unchangedHash s e) (c : Component) : (heartbeatInventory s e).view c = s.view c := by
  rw [heartbeatInventory_of_unchanged h]
  cases c <;> rfl

lemma Describes.of_unchanged (hsame : unchangedHash s e) (h : Describes m r s) :
    Describes m r (heartbeatInventory s e) where
  columns := by
    obtain ⟨seen, hcolumns⟩ := columns_of_unchanged hsame m
    rw [hcolumns]
    exact ⟨h.columns.facts, h.columns.system, h.columns.hash⟩
  sets := by
    intro c
    rw [view_of_unchanged hsame]
    exact h.sets c

lemma Remembered.step (h : Remembered es s) : Remembered (es ++ [e]) (heartbeatInventory s e) := by
  intro m hash hstored
  by_cases hsame : unchangedHash s e
  · obtain ⟨seen, hcolumns⟩ := columns_of_unchanged hsame m
    rw [hcolumns] at hstored
    obtain ⟨e', he', hm, hhash, hdescribes⟩ := h m hash hstored
    exact ⟨e', List.mem_append_left _ he', hm, hhash, hdescribes.of_unchanged hsame⟩
  · rw [heartbeatInventory_of_changed hsame] at hstored ⊢
    by_cases hm : m = e.machineId
    · subst hm
      have hdescribes : Describes e.machineId e.report (applyInventory e.instants e.machineId e.report s) :=
        describes_applyInventory
      refine ⟨e, List.mem_append_right _ (List.mem_singleton_self e), rfl, ?_, hdescribes⟩
      rw [hdescribes.columns.hash] at hstored
      split at hstored
      · cases hstored
      · exact Option.some.inj hstored
    · have hother : (applyInventory e.instants e.machineId e.report s).machines m = s.machines m :=
        Function.update_of_ne hm ..
      rw [hother] at hstored
      obtain ⟨e', he', hm', hhash, hdescribes⟩ := h m hash hstored
      exact ⟨e', List.mem_append_left _ he', hm', hhash, hdescribes.applyInventory_of_ne hm⟩

lemma Remembered.run (fs : List Reported) (h : Remembered es s) :
    Remembered (es ++ fs) (run heartbeatInventory s fs) := by
  induction fs generalizing es s with
  | nil => rwa [List.append_nil]
  | cons f fs ih =>
    have hrest : Remembered (es ++ [f] ++ fs) (Lib.run heartbeatInventory (heartbeatInventory s f) fs) := ih h.step
    rwa [List.append_assoc] at hrest

/-- What the agent promises of its hash, which is a digest of the report: two reports of a machine that have the same
one are the same. -/
def HashIdentifies (es : List Reported) : Prop :=
  ∀ e ∈ es, ∀ e' ∈ es, e.machineId = e'.machineId → e.report.hash = e'.report.hash → e.report.hash ≠ "" →
    e.report = e'.report

/-- An unchanged hash is of the report that is described. -/
lemma describes_of_unchanged (h : Remembered es s) (hhash : HashIdentifies (es ++ [e])) (hsame : unchangedHash s e) :
    Describes e.machineId e.report s := by
  obtain ⟨e', he', hm, hequal, hdescribes⟩ := h e.machineId e.report.hash hsame.2
  have hreport : e'.report = e.report :=
    hhash e' (List.mem_append_left _ he') e (List.mem_append_right _ (List.mem_singleton_self e)) hm hequal
      (hequal ▸ hsame.1)
  exact hreport ▸ hdescribes

end

/-- **Applied inventories.**  Each set of the machine becomes what was read of it, and dates of first sight stay; the
report applied again changes dates of last sight only.  So an unchanged hash leaves what the application would have. -/
theorem inventory_applied (s₀ : Stored) (es : List Reported) (e : Reported)
    (hnew : ∀ m, (s₀.machines m).inventoryHash = none) (hhash : HashIdentifies (es ++ [e])) :
    (∀ (clock : Instants) (m₀ : Uuid) (r : InventoryReport) (s : Stored) (c : Component),
      (applyInventory clock m₀ r s).view c =
        replacedIfRead c.key c.present m₀ (clock.of c) (r.reported c) (s.view c)) ∧
    (∀ (first second : Instants) (m₀ : Uuid) (r : InventoryReport) (s : Stored),
      SameButLastSeen (applyInventory first m₀ r s) (applyInventory second m₀ r (applyInventory first m₀ r s))) ∧
    SameButLastSeen (heartbeatInventory (run heartbeatInventory s₀ es) e)
      (applyInventory e.instants e.machineId e.report (run heartbeatInventory s₀ es)) := by
  refine ⟨fun _ _ _ _ => view_applyInventory, fun _ _ _ _ _ => ?_, ?_⟩
  · exact sameButLastSeen_of_describes describes_applyInventory
  · have hstart : Remembered [] s₀ := by
      intro m hash hstored
      rw [hnew m] at hstored
      cases hstored
    have hremembered : Remembered es (run heartbeatInventory s₀ es) := hstart.run es
    by_cases hsame : unchangedHash (run heartbeatInventory s₀ es) e
    · have hfull : SameButLastSeen (run heartbeatInventory s₀ es)
          (applyInventory e.instants e.machineId e.report (run heartbeatInventory s₀ es)) :=
        sameButLastSeen_of_describes (describes_of_unchanged hremembered hhash hsame)
      refine ⟨fun m => ?_, fun c m k => ?_, ?_⟩
      · obtain ⟨seen, hcolumns⟩ := columns_of_unchanged hsame m
        rw [hcolumns]
        exact hfull.columns m
      · rw [view_of_unchanged hsame]
        exact hfull.sets c m k
      · rw [heartbeatInventory_of_unchanged hsame]
        exact hfull.catalogue
    · rw [heartbeatInventory_of_changed hsame]
      exact ⟨fun _ => rfl, fun _ _ _ => rfl, rfl⟩

/-! ### A parc without inventory -/

def noFacts : Facts :=
  ⟨none, none, none, none, false, none, none, none, none, none, none, none, none, none, none, none, none, none, none,
    none, none, none, none, none, none, none⟩

def noInventory : Stored where
  machines := fun _ => ⟨noFacts, none, none, none, none⟩
  memoryModules := ⟨[], List.nodup_nil⟩
  disks := ⟨[], List.nodup_nil⟩
  volumes := ⟨[], List.nodup_nil⟩
  nics := ⟨[], List.nodup_nil⟩
  gpus := ⟨[], List.nodup_nil⟩
  installed :=
    { catalogue := ⟨[], 1, List.nodup_nil, List.nodup_nil, fun _ h => (List.not_mem_nil h).elim, Nat.one_pos⟩
      links := ⟨[], List.nodup_nil⟩
      refers := fun _ h => (List.not_mem_nil h).elim }

/-- A report that read the volumes only. -/
def volumesReport (hash : String) (volumes : List VolumeReport) : InventoryReport :=
  ⟨hash, noFacts, none, none, some volumes, none, none, none⟩

/-- A volume, with its sizes. -/
def volume (letter : String) (isSystem : Bool) (totalMb freeMb : Option ℤ) : VolumeReport :=
  ⟨letter, none, some "NTFS", totalMb, freeMb, isSystem, none⟩

/-- The same report at `t`. -/
def sentAt (t : Time) : Reported := ⟨1, volumesReport "5f3a" [volume "C:" true (some 486000) (some 41000)], ⟨t, t, t⟩⟩

/-- A report that was sent twice: the second is not applied, and nothing but dates tells. -/
theorem inventory_applied_resent :
    unchangedHash (run heartbeatInventory noInventory [sentAt 0]) (sentAt (days 1)) ∧
    SameButLastSeen (heartbeatInventory (run heartbeatInventory noInventory [sentAt 0]) (sentAt (days 1)))
      (applyInventory ⟨days 1, days 1, days 1⟩ 1 (sentAt 0).report (run heartbeatInventory noInventory [sentAt 0])) := by
  have hhash : HashIdentifies ([sentAt 0] ++ [sentAt (days 1)]) := by
    intro e he e' he' _ _ _
    simp only [List.cons_append, List.nil_append, List.mem_cons, List.not_mem_nil, or_false] at he he'
    rcases he with rfl | rfl <;> rcases he' with rfl | rfl <;> rfl
  exact ⟨by decide, (inventory_applied noInventory [sentAt 0] (sentAt (days 1)) (fun _ => rfl) hhash).2.2⟩

end Tiai.Inventory
