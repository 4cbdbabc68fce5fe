import Mathlib.Algebra.Order.Field.Rat
import Mathlib.Tactic.FieldSimp
import Mathlib.Tactic.NormNum
import Tiai.Lib.Int4

/-!
# The postes whose disk is nearly full

`low_disk_clause` (`features/machine/status.py`) compares two products of `INTEGER` columns; the sizes in the columns
are those the inventory schema leaves (`_bounded_int` of `features/inventory/schemas.py`).

* `lowDiskClause` — the clause, on a row; `lowDiskPostes` — the query, on the fleet;
* `lowDiskPostes_ok_iff` — one poste that is out of range is enough to fail it for all;
* `lowDisk_exact_iff` — the clause answers, and rightly, up to twenty tebibytes that are free.
-/

namespace Tiai.LowDisk

open Lib Sql

/-! ### The sizes and the thresholds -/

/-- `MAX_MB`. -/
def maxMb : ℤ := 1024 * 1024 * 64

/-- `_bounded_int`. -/
def boundedInt (value : Option ℤ) (limit : ℤ) : Option ℤ :=
  match value with
  | none => none
  | some n => if n < 0 ∨ n > limit then none else some n

/-- What a size column holds: a number of mebibytes up to the limit, or null. -/
def Admitted (size : Option ℤ) : Prop := ∀ n ∈ size, 0 ≤ n ∧ n ≤ maxMb

/-- `low_disk_free_percent` of `SettingsUpdate`. -/
def acceptedSetting (percent : ℤ) : Bool := 1 ≤ percent ∧ percent ≤ 99

/-- `disk_free_below` of `machine_filters`. -/
def acceptedFilter (percent : ℤ) : Bool := 1 ≤ percent ∧ percent ≤ 100

/-! ### The query -/

/-- `low_disk_clause`.  PostgreSQL promises no order of evaluation, so a product that is out of range is an error
whatever the other conditions say. -/
def lowDiskClause (free total : Option ℤ) (percent : ℤ) : Except OutOfRange Truth := do
  let left ← mulInt4 free (some 100)
  let right ← mulInt4 total (some percent)
  return ((isNotNull free).and (compare (fun x y => x > y) total (some 0))).and
    (compare (fun x y => x < y) left right)

/-- The sizes of a poste's system volume. -/
structure Poste where
  id : ℕ
  systemVolumeFreeMb : Option ℤ
  systemVolumeTotalMb : Option ℤ
deriving DecidableEq

def lowDiskPostes (percent : ℤ) (fleet : List Poste) : Except OutOfRange (List Poste) :=
  selectChecked (fun m => lowDiskClause m.systemVolumeFreeMb m.systemVolumeTotalMb percent) fleet

/-! ### What it answers -/

/-- Both sizes are known, the volume has room at all, and the part that is free is below the threshold. -/
def Low (free total : Option ℤ) (percent : ℤ) : Prop :=
  ∃ f t, free = some f ∧ total = some t ∧ 0 < t ∧ (f : ℚ) / t < percent / 100

/-- The products are of the column's type, where they are known. -/
def ProductsFit (free total : Option ℤ) (percent : ℤ) : Prop :=
  (∀ f ∈ free, IsInt4 (f * 100)) ∧ ∀ t ∈ total, IsInt4 (t * percent)

variable {free total : Option ℤ} {percent : ℤ}

lemma admitted_some {n : ℤ} : Admitted (some n) ↔ 0 ≤ n ∧ n ≤ maxMb := by simp [Admitted]

lemma bounds_of_mem_boundedInt {value : Option ℤ} {limit n : ℤ} (hn : n ∈ boundedInt value limit) :
    0 ≤ n ∧ n ≤ limit := by
  cases value with
  | none => cases hn
  | some m =>
    unfold boundedInt at hn
    dsimp only at hn
    split at hn
    · cases hn
    · cases hn
      omega

lemma admitted_boundedInt (value : Option ℤ) : Admitted (boundedInt value maxMb) :=
  fun _ hn => bounds_of_mem_boundedInt hn

/-- Every size that is admitted is left as it is. -/
lemma boundedInt_eq_self {size : Option ℤ} (h : Admitted size) : boundedInt size maxMb = size := by
  cases size with
  | none => rfl
  | some n =>
    obtain ⟨hnonneg, hle⟩ := h n rfl
    exact if_neg (by omega)

/-- The threshold as the percentage it is, and as the products. -/
lemma ratio_lt_iff {f t : ℤ} (ht : 0 < t) : (f : ℚ) / t < percent / 100 ↔ f * 100 < t * percent := by
  have ht' : (0 : ℚ) < t := Int.cast_pos.2 ht
  rw [div_lt_div_iff₀ ht' (by norm_num), mul_comm (percent : ℚ)]
  exact_mod_cast Iff.rfl

/-- The clause, were there no range. -/
def exactClause (free total : Option ℤ) (percent : ℤ) : Truth :=
  ((isNotNull free).and (compare (fun x y => x > y) total (some 0))).and
    (compare (fun x y => x < y) (mulExact free (some 100)) (mulExact total (some percent)))

lemma exactClause_eq_true : exactClause free total percent = some true ↔ Low free total percent := by
  rw [exactClause, and_eq_true, and_eq_true, compare_eq_true, compare_eq_true, Low]
  constructor
  · rintro ⟨⟨hfree, t, zero, rfl, hzero, hpos⟩, left, right, hleft, hright, hlt⟩
    cases hzero
    obtain ⟨f, rfl⟩ := Option.isSome_iff_exists.1 (Option.some.inj hfree)
    cases hleft
    cases hright
    have ht := of_decide_eq_true hpos
    exact ⟨f, t, rfl, rfl, ht, (ratio_lt_iff ht).2 (of_decide_eq_true hlt)⟩
  · rintro ⟨f, t, rfl, rfl, ht, hlt⟩
    exact ⟨⟨rfl, t, 0, rfl, rfl, decide_eq_true ht⟩, f * 100, t * percent, rfl, rfl,
      decide_eq_true ((ratio_lt_iff ht).1 hlt)⟩

lemma productsFit_iff : ProductsFit free total percent ↔
    (∀ n ∈ mulExact free (some 100), IsInt4 n) ∧ ∀ n ∈ mulExact total (some percent), IsInt4 n := by
  cases free <;> cases total <;> simp [ProductsFit, mulExact]

/-- The clause is an error exactly when a product is. -/
lemma lowDiskClause_eq_ok_iff {truth : Truth} : lowDiskClause free total percent = .ok truth ↔
    ProductsFit free total percent ∧ exactClause free total percent = truth := by
  rw [productsFit_iff, lowDiskClause, exactClause]
  cases hleft : mulInt4 free (some 100) with
  | error e =>
    refine iff_of_false (fun h => by cases h) fun h => ?_
    rw [mulInt4_eq_ok_iff.2 ⟨h.1.1, rfl⟩] at hleft
    cases hleft
  | ok left =>
    cases hright : mulInt4 total (some percent) with
    | error e =>
      refine iff_of_false (fun h => by cases h) fun h => ?_
      rw [mulInt4_eq_ok_iff.2 ⟨h.1.2, rfl⟩] at hright
      cases hright
    | ok right =>
      obtain ⟨hfree, rfl⟩ := mulInt4_eq_ok_iff.1 hleft
      obtain ⟨htotal, rfl⟩ := mulInt4_eq_ok_iff.1 hright
      rw [and_iff_right ⟨hfree, htotal⟩]
      exact ⟨fun h => Except.ok.inj h, congrArg Except.ok⟩

/-- One poste with a product that is out of range fails the query for the whole fleet; else it is exact. -/
theorem lowDiskPostes_ok_iff (percent : ℤ) (fleet kept : List Poste) :
    lowDiskPostes percent fleet = .ok kept ↔
      (∀ m ∈ fleet, ProductsFit m.systemVolumeFreeMb m.systemVolumeTotalMb percent) ∧
        select (fun m => exactClause m.systemVolumeFreeMb m.systemVolumeTotalMb percent) fleet = kept :=
  selectChecked_eq_ok_iff fun _ _ => lowDiskClause_eq_ok_iff

/-- Where the sizes and the threshold are accepted, the products fit up to a size of each column. -/
lemma productsFit_iff_le (hfree : Admitted free) (htotal : Admitted total)
    (hpercent : acceptedSetting percent ∨ acceptedFilter percent) :
    ProductsFit free total percent ↔ (∀ f ∈ free, f ≤ 21474836) ∧ ∀ t ∈ total, t ≤ 2147483647 / percent := by
  have hpos : 0 < percent := by
    rcases hpercent with h | h <;> exact lt_of_lt_of_le Int.zero_lt_one (of_decide_eq_true h).1
  refine and_congr (forall₂_congr fun f hf => ?_) (forall₂_congr fun t ht => ?_)
  · have hnonneg := (hfree f hf).1
    unfold IsInt4
    omega
  · rw [Int.le_ediv_iff_mul_le hpos]
    have hnonneg := mul_nonneg (htotal t ht).1 hpos.le
    unfold IsInt4
    omega

/-- **The filter is exact up to twenty tebibytes.**  For sizes that the schema admits and a threshold that is accepted,
the products are integers of four bytes and the clause is true exactly of a disk below the threshold, if and only if
no more is free than the product by a hundred holds, and the volume is no larger than the product by the threshold. -/
theorem lowDisk_exact_iff (free total : Option ℤ) (percent : ℤ) (hfree : Admitted free) (htotal : Admitted total)
    (hpercent : acceptedSetting percent ∨ acceptedFilter percent) :
    (ProductsFit free total percent ∧ ∃ truth, lowDiskClause free total percent = .ok truth ∧
      (truth = some true ↔ Low free total percent)) ↔
      (∀ f ∈ free, f ≤ 21474836) ∧ ∀ t ∈ total, t ≤ 2147483647 / percent := by
  rw [← productsFit_iff_le hfree htotal hpercent]
  refine and_iff_left_of_imp fun hfit => ?_
  exact ⟨exactClause free total percent, lowDiskClause_eq_ok_iff.2 ⟨hfit, rfl⟩, exactClause_eq_true⟩

/-- A disk of half a tebibyte, with twenty gibibytes free. -/
theorem lowDisk_exact_workstation : Low (some 20480) (some 524288) 10 ∧
    lowDiskClause (some 20480) (some 524288) 10 = .ok (some true) := by
  obtain ⟨-, truth, htruth, hiff⟩ := (lowDisk_exact_iff (some 20480) (some 524288) 10
    (admitted_some.2 (by decide)) (admitted_some.2 (by decide)) (Or.inl (by decide))).2 ⟨by simp, by simp⟩
  have hlow : Low (some 20480) (some 524288) 10 := ⟨20480, 524288, rfl, rfl, by decide, by norm_num⟩
  rw [htruth, hiff.2 hlow]
  exact ⟨hlow, rfl⟩

/-- A volume of thirty tebibytes with twenty-one of them free: the clause fails, and the query with it for a poste
whose disk is full. -/
theorem lowDisk_fails : Admitted (some 22020096) ∧ Admitted (some 31457280) ∧ acceptedSetting 10 ∧
    lowDiskClause (some 22020096) (some 31457280) 10 = .error .outOfRange ∧
    lowDiskPostes 10 [⟨1, some 1024, some 524288⟩, ⟨2, some 22020096, some 31457280⟩] = .error .outOfRange :=
  ⟨admitted_some.2 (by decide), admitted_some.2 (by decide), by decide, rfl, rfl⟩

end Tiai.LowDisk
