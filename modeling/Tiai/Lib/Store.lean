import Mathlib.Data.List.Basic

/-!
# A finite map, and the part of it a write leaves alone

An association list as a map: reading, writing, dropping keys.  `SameOff F` says that two maps agree
wherever `F` does not hold; it is what every frame condition is stated with.
-/

namespace Tiai.Lib

/-- A finite map from `κ` to `ν`. -/
abbrev Store (κ ν : Type) := List (κ × ν)

namespace Store

variable {κ ν : Type} [DecidableEq κ] {s s' s'' : Store κ ν} {F : κ → Prop} {k k' : κ} {v : ν}

def get (s : Store κ ν) (k : κ) : Option ν := (s.find? (·.1 = k)).map Prod.snd

/-- Removes the keys that `p` selects. -/
def drop (s : Store κ ν) (p : κ → Bool) : Store κ ν := s.filter fun e => !p e.1

/-- Removes the keys whose value `p` selects. -/
def dropWhere (s : Store κ ν) (p : ν → Bool) : Store κ ν := s.drop fun k => (s.get k).any p

/-- Changes every value. -/
def mapAll (s : Store κ ν) (f : ν → ν) : Store κ ν := s.map fun e => (e.1, f e.2)

/-- Changes every value, by its key. -/
def mapKeyed (s : Store κ ν) (f : κ → ν → ν) : Store κ ν := s.map fun e => (e.1, f e.1 e.2)

def put (s : Store κ ν) (k : κ) (v : ν) : Store κ ν := (k, v) :: drop s (· = k)

@[simp] lemma get_nil (k : κ) : get ([] : Store κ ν) k = none := rfl

lemma get_drop (s : Store κ ν) (p : κ → Bool) (k : κ) :
    (s.drop p).get k = if p k then none else s.get k := by
  unfold get drop
  induction s with
  | nil => simp
  | cons e s ih =>
    by_cases hp : p e.1 = true
    · rw [List.filter_cons_of_neg (by simp [hp]), ih, List.find?_cons]
      by_cases he : e.1 = k
      · rw [he] at hp
        simp [hp]
      · simp [he]
    · rw [List.filter_cons_of_pos (by simp [hp]), List.find?_cons, List.find?_cons]
      by_cases he : e.1 = k
      · rw [he] at hp
        simp [he, hp]
      · simpa [he] using ih

@[simp] lemma get_put_self (s : Store κ ν) (k : κ) (v : ν) : (s.put k v).get k = some v := by
  simp [get, put]

lemma get_put_of_ne (s : Store κ ν) (v : ν) (h : k' ≠ k) : (s.put k v).get k' = s.get k' := by
  have hdrop := get_drop s (· = k) k'
  rw [if_neg (by simpa using h)] at hdrop
  rw [← hdrop]
  simp [get, put, Ne.symm h]

lemma get_put (s : Store κ ν) (k k' : κ) (v : ν) : (s.put k v).get k' = if k' = k then some v else s.get k' := by
  by_cases h : k' = k
  · rw [h, if_pos rfl, get_put_self]
  · rw [if_neg h, get_put_of_ne s v h]

lemma get_dropWhere (s : Store κ ν) (p : ν → Bool) (k : κ) :
    (s.dropWhere p).get k = (s.get k).filter (!p ·) := by
  rw [dropWhere, get_drop]
  cases h : s.get k with
  | none => simp
  | some v => cases hp : p v <;> simp [hp, Option.filter]

lemma get_mapAll (s : Store κ ν) (f : ν → ν) (k : κ) : (s.mapAll f).get k = (s.get k).map f := by
  unfold mapAll get
  induction s with
  | nil => rfl
  | cons e s ih =>
    rw [List.map_cons, List.find?_cons, List.find?_cons]
    by_cases he : e.1 = k
    · simp [he]
    · simpa [he] using ih

lemma get_mapKeyed (s : Store κ ν) (f : κ → ν → ν) (k : κ) : (s.mapKeyed f).get k = (s.get k).map (f k) := by
  unfold mapKeyed get
  induction s with
  | nil => rfl
  | cons e s ih =>
    rw [List.map_cons, List.find?_cons, List.find?_cons]
    by_cases he : e.1 = k
    · simp [he]
    · simpa [he] using ih

lemma mem_of_get (h : s.get k = some v) : (k, v) ∈ s := by
  obtain ⟨e, he, rfl⟩ := Option.map_eq_some_iff.1 h
  obtain rfl : e.1 = k := by simpa using List.find?_some he
  exact List.mem_of_find?_eq_some he

/-- The two maps agree off `F`. -/
def SameOff (F : κ → Prop) (s s' : Store κ ν) : Prop := ∀ k, ¬F k → s'.get k = s.get k

lemma SameOff.refl (F : κ → Prop) (s : Store κ ν) : SameOff F s s := fun _ _ => rfl

lemma SameOff.trans (h : SameOff F s s') (h' : SameOff F s' s'') : SameOff F s s'' :=
  fun k hk => (h' k hk).trans (h k hk)

lemma SameOff.put (s : Store κ ν) (v : ν) (h : F k) : SameOff F s (s.put k v) :=
  fun _ hk' => get_put_of_ne s v fun he => hk' (he ▸ h)

lemma SameOff.drop (s : Store κ ν) {p : κ → Bool} (h : ∀ k, p k = true → F k) :
    SameOff F s (s.drop p) := by
  intro k hk
  rw [get_drop, if_neg fun hp => hk (h k hp)]

end Store

end Tiai.Lib
