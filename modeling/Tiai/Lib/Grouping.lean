import Mathlib.Data.List.Nodup
import Mathlib.Data.List.Perm.Basic

/-!
# Putting rows into groups

A loop that reads rows one after the other and puts each into the group of its key, the groups being told apart by
their keys.

* `updateGroup` — the group of a key changes;
* `flatMap_updateGroup` — when one group grows, the contents of all of them grow by the same;
* `flatMap_filter_perm` — the rows of each key in turn are all the rows.
-/

namespace Tiai.Lib

variable {α β ρ κ : Type} [DecidableEq κ]

/-- The groups of the key `k` become what `change` makes of them. -/
def updateGroup (key : ρ → κ) (k : κ) (change : ρ → ρ) (groups : List ρ) : List ρ :=
  groups.map fun g => if key g = k then change g else g

variable {key : ρ → κ} {k : κ} {change : ρ → ρ} {groups : List ρ} {more : List β}

lemma updateGroup_cons_of_ne {g : ρ} (h : key g ≠ k) :
    updateGroup key k change (g :: groups) = g :: updateGroup key k change groups := by
  rw [updateGroup, List.map_cons, if_neg h]
  rfl

lemma updateGroup_of_notMem (h : k ∉ groups.map key) : updateGroup key k change groups = groups := by
  unfold updateGroup
  conv_rhs => rw [← List.map_id groups]
  refine List.map_congr_left fun g hg => if_neg fun hk => h ?_
  rw [← hk]
  exact List.mem_map_of_mem hg

lemma updateGroup_cons_of_eq {g : ρ} (h : key g = k) (hrest : k ∉ groups.map key) :
    updateGroup key k change (g :: groups) = change g :: groups := by
  have hkept : updateGroup key k change groups = groups := updateGroup_of_notMem hrest
  rw [updateGroup] at hkept
  rw [updateGroup, List.map_cons, if_pos h, hkept]

lemma map_key_updateGroup (hchange : ∀ g, key (change g) = key g) :
    (updateGroup key k change groups).map key = groups.map key := by
  rw [updateGroup, List.map_map]
  refine List.map_congr_left fun g _ => ?_
  by_cases hk : key g = k
  · rw [Function.comp_apply, if_pos hk, hchange]
  · rw [Function.comp_apply, if_neg hk]

lemma mem_updateGroup {g : ρ} (h : g ∈ updateGroup key k change groups) :
    g ∈ groups ∨ ∃ old ∈ groups, key old = k ∧ g = change old := by
  obtain ⟨old, hold, rfl⟩ := List.mem_map.1 h
  by_cases hk : key old = k
  · rw [if_pos hk]
    exact Or.inr ⟨old, hold, hk, rfl⟩
  · rw [if_neg hk]
    exact Or.inl hold

/-- The group of a key grows by `more`: so do the contents of all the groups. -/
theorem flatMap_updateGroup (content : ρ → List β) (hkeys : (groups.map key).Nodup)
    (hk : k ∈ groups.map key) (hgrow : ∀ g, key g = k → content (change g) = content g ++ more) :
    ((updateGroup key k change groups).flatMap content).Perm (groups.flatMap content ++ more) := by
  induction groups with
  | nil => cases hk
  | cons g groups ih =>
    rw [List.map_cons, List.nodup_cons] at hkeys
    by_cases hg : key g = k
    · have hrest : k ∉ groups.map key := hg ▸ hkeys.1
      rw [updateGroup_cons_of_eq hg hrest, List.flatMap_cons, List.flatMap_cons, hgrow g hg, List.append_assoc,
        List.append_assoc]
      exact List.Perm.append_left _ List.perm_append_comm
    · have hmem : k ∈ groups.map key := (List.mem_cons.1 hk).resolve_left fun h => hg h.symm
      rw [updateGroup_cons_of_ne hg, List.flatMap_cons, List.flatMap_cons, List.append_assoc]
      exact List.Perm.append_left _ (ih hkeys.2 hmem)

/-- The rows of each key in turn, for keys that cover them, are the rows in some order. -/
theorem flatMap_filter_perm (keyOf : α → κ) {keys : List κ} {rows : List α} (hkeys : keys.Nodup)
    (hcovered : ∀ a ∈ rows, keyOf a ∈ keys) :
    (keys.flatMap fun k => rows.filter fun a => keyOf a = k).Perm rows := by
  induction keys generalizing rows with
  | nil =>
    have hnil : rows = [] := List.eq_nil_iff_forall_not_mem.2 fun a ha => List.not_mem_nil (hcovered a ha)
    rw [hnil]
    rfl
  | cons k keys ih =>
    rw [List.nodup_cons] at hkeys
    -- the rows of the other keys are among those that do not have this one
    have hothers : (keys.flatMap fun k' => rows.filter fun a => keyOf a = k') =
        keys.flatMap fun k' => (rows.filter fun a => !decide (keyOf a = k)).filter fun a => keyOf a = k' := by
      refine List.flatMap_congr fun k' hk' => ?_
      rw [List.filter_filter]
      refine List.filter_congr fun a _ => ?_
      by_cases ha : keyOf a = k'
      · have hne : keyOf a ≠ k := fun h => hkeys.1 (h ▸ ha ▸ hk')
        simp [ha, ha ▸ hne]
      · simp [ha]
    have hrest : ∀ a ∈ rows.filter (fun a => !decide (keyOf a = k)), keyOf a ∈ keys := by
      intro a ha
      rw [List.mem_filter] at ha
      have hne : keyOf a ≠ k := by simpa using ha.2
      exact (List.mem_cons.1 (hcovered a ha.1)).resolve_left hne
    rw [List.flatMap_cons, hothers]
    exact ((ih hkeys.2 hrest).append_left _).trans (List.filter_append_perm _ rows)

end Tiai.Lib
