import Tiai.Inventory.Applied

/-!
# The two copies of the system volume

The sizes of the system volume are columns of the machine, and columns of the volume row that is flagged.  The first
are those of the first flagged volume of the report; the second are those of the last volume of each letter.

* `MachineAgrees`, `CopiesAgree` — the columns are the sizes of the flagged row, and empty when there is none;
* `OneSystemVolume` — of a list of volumes, what makes both rules choose alike;
* `copies_agree_iff` — the copies agree in every state of a run exactly when the lists that are applied are such.
-/

namespace Tiai.Inventory

open Lib

def VolumeReport.sizes (v : VolumeReport) : Option ℤ × Option ℤ := (v.totalMb, v.freeMb)

def Columns.systemVolume (c : Columns) : Option ℤ × Option ℤ := (c.systemVolumeTotalMb, c.systemVolumeFreeMb)

/-- The volume rows of a machine that are flagged as system. -/
def systemRows (m : Uuid) (s : Stored) : List (Child VolumeReport) :=
  s.volumes.rows.filter fun v => v.machineId = m && v.data.isSystem

/-- The columns of a machine are the sizes of the flagged row, and empty exactly when there is none. -/
def MachineAgrees (m : Uuid) (s : Stored) : Prop :=
  (∀ v ∈ systemRows m s, (s.machines m).systemVolume = v.data.sizes) ∧
    ((s.machines m).systemVolume = (none, none) ↔ systemRows m s = [])

def CopiesAgree (s : Stored) : Prop := ∀ m, MachineAgrees m s

/-- The flagged volumes of a list that are stored: with a letter, and last of it. -/
def keptSystem (volumes : List VolumeReport) : List VolumeReport :=
  volumes.filter fun v => v.isSystem && lastReported VolumeReport.letter nonEmpty volumes v.letter = some v

/-- The flagged volumes that are stored have the sizes of the first flagged one: there is one if it has sizes, and none
if it has none. -/
def OneSystemVolume (volumes : List VolumeReport) : Prop :=
  match volumes.find? VolumeReport.isSystem with
  | none => True
  | some first =>
    if first.sizes = (none, none) then keptSystem volumes = []
    else keptSystem volumes ≠ [] ∧ ∀ v ∈ keptSystem volumes, v.sizes = first.sizes

instance (volumes : List VolumeReport) : Decidable (OneSystemVolume volumes) := by
  unfold OneSystemVolume
  split <;> infer_instance

/-- The report is not applied, or did not read the volumes, or read such a list. -/
def VolumesConsistent (s : Stored) (e : Reported) : Prop :=
  unchangedHash s e ∨ ∀ volumes, e.report.volumes = some volumes → OneSystemVolume volumes

section

variable {s s' : Stored} {m : Uuid} {v : Child VolumeReport} {clock : Instants} {r : InventoryReport}
  {volumes : List VolumeReport}

lemma mem_systemRows : v ∈ systemRows m s ↔ s.volumes.get m v.data.letter = some v ∧ v.data.isSystem = true := by
  have hget : s.volumes.get m v.data.letter = some v ↔ v ∈ s.volumes.rows ∧ v.machineId = m :=
    (rowOf_eq_some_iff s.volumes.unique).trans (and_congr_right fun _ => by simp [identity_eq_iff])
  rw [systemRows, List.mem_filter, hget, Bool.and_eq_true, decide_eq_true_eq, and_assoc]

/-- The flagged rows are told by what each letter holds. -/
lemma systemRows_congr (h : ∀ k, s'.volumes.get m k = s.volumes.get m k) : v ∈ systemRows m s' ↔ v ∈ systemRows m s := by
  rw [mem_systemRows, mem_systemRows, h]

lemma get_volumes_applyInventory {m₀ : Uuid} (hvolumes : r.volumes = some volumes) (k : String) :
    (applyInventory clock m₀ r s).volumes.get m k =
      replacedBy VolumeReport.letter nonEmpty m₀ clock.now volumes (s.volumes.get m k) m k := by
  have hview : (applyInventory clock m₀ r s).view .volumes = _ := view_applyInventory .volumes
  have hread : r.reported .volumes = some volumes := hvolumes
  rw [hread] at hview
  exact congrFun (congrFun hview m) k

/-- The flagged rows that a report leaves are those of its flagged volumes that are kept. -/
lemma systemRows_applyInventory (hvolumes : r.volumes = some volumes) (d : VolumeReport) :
    (∃ v ∈ systemRows m (applyInventory clock m r s), v.data = d) ↔ d ∈ keptSystem volumes := by
  have hget : ∀ k, (applyInventory clock m r s).volumes.get m k =
      (lastReported VolumeReport.letter nonEmpty volumes k).map fun d =>
        ⟨m, d, ((s.volumes.get m k).map Child.firstSeen).getD clock.now, clock.now⟩ := by
    intro k
    rw [get_volumes_applyInventory hvolumes, replacedBy, if_pos rfl]
  constructor
  · rintro ⟨v, hv, rfl⟩
    obtain ⟨hstored, hsystem⟩ := mem_systemRows.1 hv
    rw [hget] at hstored
    obtain ⟨d, hlast, hd⟩ := Option.map_eq_some_iff.1 hstored
    have hdata : d = v.data := hd ▸ rfl
    rw [hdata] at hlast
    exact List.mem_filter.2 ⟨(mem_of_lastReported hlast).1, by simp [hsystem, hlast]⟩
  · intro hd
    obtain ⟨-, hkept⟩ := List.mem_filter.1 hd
    rw [Bool.and_eq_true, decide_eq_true_eq] at hkept
    obtain ⟨v, hv, hdata⟩ : ∃ v, (applyInventory clock m r s).volumes.get m d.letter = some v ∧ v.data = d :=
      ⟨_, by rw [hget, hkept.2, Option.map_some], rfl⟩
    exact ⟨v, mem_systemRows.2 ⟨by rw [hdata]; exact hv, hdata ▸ hkept.1⟩, hdata⟩

/-- What agrees is told by the columns and by what each letter holds. -/
lemma machineAgrees_congr (hcolumns : (s'.machines m).systemVolume = (s.machines m).systemVolume)
    (hget : ∀ k, s'.volumes.get m k = s.volumes.get m k) : MachineAgrees m s' ↔ MachineAgrees m s := by
  unfold MachineAgrees
  have hnil : systemRows m s' = [] ↔ systemRows m s = [] := by
    simp only [List.eq_nil_iff_forall_not_mem, systemRows_congr hget]
  rw [hcolumns, hnil]
  simp only [systemRows_congr hget]

/-- **One report.**  The copies agree after it exactly when its volumes are such that both rules choose alike. -/
theorem machineAgrees_applyInventory (hvolumes : r.volumes = some volumes) :
    MachineAgrees m (applyInventory clock m r s) ↔ OneSystemVolume volumes := by
  have hcolumns : ((applyInventory clock m r s).machines m).systemVolume =
      ((volumes.find? VolumeReport.isSystem).bind VolumeReport.totalMb,
        (volumes.find? VolumeReport.isSystem).bind VolumeReport.freeMb) := by
    have hself : (applyInventory clock m r s).machines m = columnsOf clock.now r (s.machines m) := Function.update_self ..
    rw [hself]
    unfold columnsOf Columns.systemVolume
    rw [hvolumes]
  have hrows : ∀ d, (∃ v ∈ systemRows m (applyInventory clock m r s), v.data = d) ↔ d ∈ keptSystem volumes :=
    systemRows_applyInventory hvolumes
  have hnil : systemRows m (applyInventory clock m r s) = [] ↔ keptSystem volumes = [] := by
    simp only [List.eq_nil_iff_forall_not_mem, ← hrows]
    exact ⟨fun h d ⟨v, hv, _⟩ => h v hv, fun h v hv => h v.data ⟨v, hv, rfl⟩⟩
  have hsizes : ∀ z : Option ℤ × Option ℤ, (∀ v ∈ systemRows m (applyInventory clock m r s), z = v.data.sizes) ↔
      ∀ d ∈ keptSystem volumes, z = d.sizes := by
    intro z
    simp only [← hrows]
    exact ⟨fun h d ⟨v, hv, hd⟩ => hd ▸ h v hv, fun h v hv => h v.data ⟨v, hv, rfl⟩⟩
  unfold MachineAgrees OneSystemVolume
  rw [hcolumns, hnil, hsizes]
  cases hfirst : volumes.find? VolumeReport.isSystem with
  | none =>
    have hkept : keptSystem volumes = [] := by
      refine List.filter_eq_nil_iff.2 fun v hv hkept => ?_
      rw [Bool.and_eq_true] at hkept
      exact List.find?_eq_none.1 hfirst v hv hkept.1
    simp [hkept]
  | some first =>
    have hboth : ((some first).bind VolumeReport.totalMb, (some first).bind VolumeReport.freeMb) = first.sizes := rfl
    rw [hboth]
    dsimp only
    by_cases hnone : first.sizes = (none, none)
    · rw [if_pos hnone, iff_true_left hnone]
      exact ⟨And.right, fun h => ⟨by simp [h], h⟩⟩
    · rw [if_neg hnone, iff_false_left hnone, and_comm]
      exact and_congr_right fun _ => forall₂_congr fun _ _ => eq_comm

variable {e : Reported}

/-- A report changes the copies of its machine only, and of these if it read the volumes. -/
lemma machineAgrees_step (h : MachineAgrees m s) (hkeep : e.machineId ≠ m ∨ unchangedHash s e ∨ e.report.volumes = none) :
    MachineAgrees m (heartbeatInventory s e) := by
  by_cases hsame : unchangedHash s e
  · obtain ⟨seen, hcolumns⟩ := columns_of_unchanged hsame m
    have hget : ∀ k, (heartbeatInventory s e).volumes.get m k = s.volumes.get m k := by
      intro k
      rw [heartbeatInventory_of_unchanged hsame]
    exact (machineAgrees_congr (hcolumns ▸ rfl) hget).2 h
  · rw [heartbeatInventory_of_changed hsame]
    have hview : (applyInventory e.instants e.machineId e.report s).view .volumes = _ := view_applyInventory .volumes
    by_cases hm : m = e.machineId
    · subst hm
      have hnone : e.report.volumes = none := by
        rcases hkeep with hne | hkeep | hnone
        · exact absurd rfl hne
        · exact absurd hkeep hsame
        · exact hnone
      have hself : (applyInventory e.instants e.machineId e.report s).machines e.machineId =
          columnsOf e.instants.now e.report (s.machines e.machineId) := Function.update_self ..
      refine (machineAgrees_congr ?_ fun k => ?_).2 h
      · rw [hself]
        unfold columnsOf Columns.systemVolume
        rw [hnone]
      · have hread : e.report.reported .volumes = none := hnone
        rw [hread] at hview
        exact congrFun (congrFun hview e.machineId) k
    · have hother : (applyInventory e.instants e.machineId e.report s).machines m = s.machines m :=
        Function.update_of_ne hm ..
      refine (machineAgrees_congr (hother ▸ rfl) fun k => ?_).2 h
      cases hvolumes : e.report.volumes with
      | none =>
        have hread : e.report.reported .volumes = none := hvolumes
        rw [hread] at hview
        exact congrFun (congrFun hview m) k
      | some volumes => rw [get_volumes_applyInventory hvolumes, replacedBy, if_neg hm]

/-- The copies agree after a step exactly when it is consistent. -/
lemma copiesAgree_step (h : CopiesAgree s) : CopiesAgree (heartbeatInventory s e) ↔ VolumesConsistent s e := by
  by_cases hsame : unchangedHash s e
  · exact iff_of_true (fun m => machineAgrees_step (h m) (Or.inr (Or.inl hsame))) (Or.inl hsame)
  cases hvolumes : e.report.volumes with
  | none =>
    refine iff_of_true (fun m => machineAgrees_step (h m) (Or.inr (Or.inr hvolumes))) (Or.inr fun volumes hsome => ?_)
    rw [hvolumes] at hsome
    cases hsome
  | some volumes =>
    have hconsistent : VolumesConsistent s e ↔ OneSystemVolume volumes := by
      unfold VolumesConsistent
      rw [or_iff_right hsame, hvolumes]
      exact ⟨fun h => h volumes rfl, fun h vs hvs => Option.some.inj hvs ▸ h⟩
    have hself : MachineAgrees e.machineId (heartbeatInventory s e) ↔ OneSystemVolume volumes := by
      rw [heartbeatInventory_of_changed hsame]
      exact machineAgrees_applyInventory hvolumes
    rw [hconsistent, ← hself]
    refine ⟨fun hall => hall e.machineId, fun hone m => ?_⟩
    by_cases hm : e.machineId = m
    · exact hm ▸ hone
    · exact machineAgrees_step (h m) (Or.inl hm)

end

/-- **Where the copies agree.**  They do in every state of a run exactly when each report that is applied read volumes
whose first flagged one is the one that is kept. -/
theorem copies_agree_iff (s₀ : Stored) (h : CopiesAgree s₀) (es : List Reported) :
    (∀ fs, fs <+: es → CopiesAgree (run heartbeatInventory s₀ fs)) ↔
      Guarded heartbeatInventory VolumesConsistent s₀ es :=
  Guarded.iff_prefixes (I := fun _ => True) (fun _ _ _ => trivial) (fun _ _ _ hagree => copiesAgree_step hagree) trivial
    h es

lemma copiesAgree_noInventory : CopiesAgree noInventory :=
  fun _ => ⟨fun _ h => (List.not_mem_nil h).elim, iff_of_true rfl rfl⟩

/-- A report of the machine 1, with these volumes. -/
def readVolumes (volumes : List VolumeReport) : Reported := ⟨1, volumesReport "9c01" volumes, ⟨0, 0, 0⟩⟩

/-- A flagged volume without a letter, a letter that is reported twice, and a volume that is not flagged. -/
def alike : Reported :=
  readVolumes [volume "" true (some 486000) (some 41000), volume "C:" true (some 486000) (some 41000),
    volume "C:" true (some 486000) (some 41000), volume "D:" false (some 900000) none]

theorem copies_agree_iff_alike : Guarded heartbeatInventory VolumesConsistent noInventory [alike] ∧
    ∀ fs, fs <+: [alike] → CopiesAgree (run heartbeatInventory noInventory fs) := by
  have hguarded : Guarded heartbeatInventory VolumesConsistent noInventory [alike] :=
    ⟨Or.inr fun volumes hvolumes => Option.some.inj hvolumes ▸ by decide, trivial⟩
  exact ⟨hguarded, (copies_agree_iff noInventory copiesAgree_noInventory [alike]).2 hguarded⟩

/-- A letter that is reported twice, mid-mount: the row has the sizes of the second volume, the columns those of the
first. -/
theorem copies_disagree : ¬ ∀ es : List Reported, CopiesAgree (run heartbeatInventory noInventory es) := by
  intro hall
  have hagree :=
    hall [readVolumes [volume "C:" true (some 486000) (some 41000), volume "C:" true (some 500000) (some 120)]] 1
  exact absurd hagree.1 (by decide)

end Tiai.Inventory
