import Mathlib.Data.List.Basic
import Mathlib.Data.Set.Basic

/-!
# Access lists, and what is inherited of them

An object has a list of entries.  Each speaks of a trustee and of some rights, which it allows or denies; on a right
that is asked for, the first entry that speaks of it decides, and without one it is refused.  An object that is created
in a container takes the entries that are inheritable, each as its flags say.

* `allows` — the decision, on the trustees a token stands for;
* `created` — the list of what is created so many containers below;
* `Holds`, `Shut` — a trustee has some rights, and nobody but some trustees has any;
* `exists_created_iff` — what reaches a created object;
* `holds_created_iff` — what a trustee has on everything below, of a list of grants.
-/

namespace Tiai.Lib.AccessList

structure Entry (σ ρ : Type*) where
  trustee : σ
  allow : Bool
  rights : ρ → Bool
  objectInherit : Bool
  containerInherit : Bool
  noPropagate : Bool
  /-- It is there to be inherited, and does not apply to the object that has it. -/
  inheritOnly : Bool

variable {σ ρ : Type*}

/-- It applies to its object, and is not inherited further. -/
def Entry.alone (e : Entry σ ρ) : Entry σ ρ :=
  { e with
    objectInherit := false
    containerInherit := false
    noPropagate := false
    inheritOnly := false }

/-- What an object that is created takes of an entry; a leaf has nothing below it. -/
def Entry.heir (leaf : Bool) (e : Entry σ ρ) : Option (Entry σ ρ) :=
  if leaf then if e.objectInherit then some e.alone else none
  else if e.containerInherit then
    if e.noPropagate then some e.alone
    else some { e with inheritOnly := false }
  else if e.objectInherit && !e.noPropagate then some { e with inheritOnly := true }
  else none

def allows (es : List (Entry σ ρ)) (token : σ → Bool) (r : ρ) : Bool :=
  ((es.find? fun e => !e.inheritOnly && token e.trustee && e.rights r).map Entry.allow).getD false

/-- The list of a container that is created so many containers below. -/
def containerBelow (es : List (Entry σ ρ)) : ℕ → List (Entry σ ρ)
  | 0 => es
  | n + 1 => (containerBelow es n).filterMap (Entry.heir false)

/-- The list of what is created in it. -/
def created (es : List (Entry σ ρ)) (n : ℕ) (leaf : Bool) : List (Entry σ ρ) :=
  (containerBelow es n).filterMap (Entry.heir leaf)

/-- Whoever stands for the trustee has the rights. -/
def Holds (es : List (Entry σ ρ)) (who : σ) (rights : Set ρ) : Prop :=
  ∀ token : σ → Bool, token who = true → ∀ r ∈ rights, allows es token r = true

/-- Whoever stands for none of the trustees has no right. -/
def Shut (es : List (Entry σ ρ)) (trustees : Set σ) : Prop :=
  ∀ token : σ → Bool, (∀ who ∈ trustees, token who = false) → ∀ r, allows es token r = false

/-! ### One list -/

variable {es : List (Entry σ ρ)} {trustees : Set σ} {rights : Set ρ} {who : σ} {token : σ → Bool} {r : ρ} {n : ℕ}
  {leaf : Bool} {e e' : Entry σ ρ}

/-- All the entries are grants. -/
def Grants (es : List (Entry σ ρ)) : Prop := ∀ e ∈ es, e.allow = true

lemma allows_iff (h : Grants es) :
    allows es token r = true ↔ ∃ e ∈ es, e.inheritOnly = false ∧ token e.trustee = true ∧ e.rights r = true := by
  unfold allows
  cases hfound : es.find? fun e => !e.inheritOnly && token e.trustee && e.rights r with
  | none =>
    rw [List.find?_eq_none] at hfound
    refine iff_of_false (by simp) ?_
    rintro ⟨e, he, happlies, htoken, hright⟩
    exact hfound e he (by simp [happlies, htoken, hright])
  | some e =>
    have he := List.mem_of_find?_eq_some hfound
    have hspeaks := List.find?_some hfound
    simp only [Bool.and_eq_true, Bool.not_eq_true'] at hspeaks
    refine iff_of_true ?_ ⟨e, he, hspeaks.1.1, hspeaks.1.2, hspeaks.2⟩
    rw [Option.map_some, Option.getD_some, h e he]

/-- Of grants, the ones that speak of the trustee itself are what everybody who stands for it has. -/
theorem holds_iff (h : Grants es) :
    Holds es who rights ↔ ∀ r ∈ rights, ∃ e ∈ es, e.inheritOnly = false ∧ e.trustee = who ∧ e.rights r = true := by
  classical
  constructor
  · intro hholds r hr
    have hallowed := hholds (fun s => decide (s = who)) (decide_eq_true rfl) r hr
    obtain ⟨e, he, happlies, htoken, hright⟩ := (allows_iff h).1 hallowed
    exact ⟨e, he, happlies, of_decide_eq_true htoken, hright⟩
  · intro hcover token htoken r hr
    obtain ⟨e, he, happlies, rfl, hright⟩ := hcover r hr
    exact (allows_iff h).2 ⟨e, he, happlies, htoken, hright⟩

theorem shut_of_forall (h : ∀ e ∈ es, e.trustee ∈ trustees) : Shut es trustees := by
  intro token htoken r
  have hnone : (es.find? fun e => !e.inheritOnly && token e.trustee && e.rights r) = none := by
    refine List.find?_eq_none.2 fun e he => ?_
    simp [htoken _ (h e he)]
  rw [allows, hnone]
  rfl

/-! ### What is inherited -/

/-- Whether what is created so many containers below has the entry. -/
def Entry.Reaches (e : Entry σ ρ) (n : ℕ) (leaf : Bool) : Prop :=
  (if leaf then e.objectInherit else e.containerInherit) = true ∧ (n = 0 ∨ e.noPropagate = false)

/-- An heir speaks as its entry does. -/
lemma heir_says (h : e.heir leaf = some e') :
    e'.trustee = e.trustee ∧ e'.allow = e.allow ∧ e'.rights = e.rights := by
  unfold Entry.heir at h
  split_ifs at h <;> obtain rfl := Option.some.inj h <;> exact ⟨rfl, rfl, rfl⟩

lemma heir_applies_iff : (∃ e', e.heir leaf = some e' ∧ e'.inheritOnly = false) ↔ e.Reaches 0 leaf := by
  unfold Entry.heir Entry.Reaches Entry.alone
  cases leaf <;> cases e.objectInherit <;> cases e.containerInherit <;> cases e.noPropagate <;> simp

/-- One container more is as one container, for what is still inheritable. -/
lemma heir_reaches_iff : (∃ e', e.heir false = some e' ∧ e'.Reaches n leaf) ↔ e.Reaches (n + 1) leaf := by
  unfold Entry.heir Entry.Reaches Entry.alone
  cases leaf <;> cases e.objectInherit <;> cases e.containerInherit <;> cases e.noPropagate <;> simp

/-- What reaches a container reaches what is created in it. -/
lemma exists_containerBelow_iff {P : σ → Bool → (ρ → Bool) → Prop} (n m : ℕ) :
    (∃ e ∈ containerBelow es n, e.Reaches m leaf ∧ P e.trustee e.allow e.rights) ↔
      ∃ e ∈ es, e.Reaches (m + n) leaf ∧ P e.trustee e.allow e.rights := by
  induction n generalizing m with
  | zero => rfl
  | succ n ih =>
    rw [show m + (n + 1) = m + 1 + n by omega, ← ih (m + 1)]
    constructor
    · rintro ⟨e', he', hreaches, hP⟩
      obtain ⟨e, he, hheir⟩ := List.mem_filterMap.1 he'
      obtain ⟨htrustee, hallow, hrights⟩ := heir_says hheir
      rw [htrustee, hallow, hrights] at hP
      exact ⟨e, he, heir_reaches_iff.1 ⟨e', hheir, hreaches⟩, hP⟩
    · rintro ⟨e, he, hreaches, hP⟩
      obtain ⟨e', hheir, hreaches'⟩ := heir_reaches_iff.2 hreaches
      obtain ⟨htrustee, hallow, hrights⟩ := heir_says hheir
      rw [← htrustee, ← hallow, ← hrights] at hP
      exact ⟨e', List.mem_filterMap.2 ⟨e, he, hheir⟩, hreaches', hP⟩

theorem exists_created_iff {P : σ → Bool → (ρ → Bool) → Prop} :
    (∃ e ∈ created es n leaf, e.inheritOnly = false ∧ P e.trustee e.allow e.rights) ↔
      ∃ e ∈ es, e.Reaches n leaf ∧ P e.trustee e.allow e.rights := by
  rw [← Nat.zero_add n, ← exists_containerBelow_iff, Nat.zero_add]
  constructor
  · rintro ⟨e', he', happlies, hP⟩
    obtain ⟨e, he, hheir⟩ := List.mem_filterMap.1 he'
    obtain ⟨htrustee, hallow, hrights⟩ := heir_says hheir
    rw [htrustee, hallow, hrights] at hP
    exact ⟨e, he, heir_applies_iff.1 ⟨e', hheir, happlies⟩, hP⟩
  · rintro ⟨e, he, hreaches, hP⟩
    obtain ⟨e', hheir, happlies⟩ := heir_applies_iff.2 hreaches
    obtain ⟨htrustee, hallow, hrights⟩ := heir_says hheir
    rw [← htrustee, ← hallow, ← hrights] at hP
    exact ⟨e', List.mem_filterMap.2 ⟨e, he, hheir⟩, happlies, hP⟩

/-- What holds of what the entries say holds of what is created. -/
lemma forall_created {P : σ → Bool → (ρ → Bool) → Prop} (h : ∀ e ∈ es, P e.trustee e.allow e.rights) :
    ∀ e ∈ created es n leaf, P e.trustee e.allow e.rights := by
  have hheirs : ∀ {es : List (Entry σ ρ)} (leaf : Bool), (∀ e ∈ es, P e.trustee e.allow e.rights) →
      ∀ e ∈ es.filterMap (Entry.heir leaf), P e.trustee e.allow e.rights := by
    intro es leaf hes e' he'
    obtain ⟨e, he, hheir⟩ := List.mem_filterMap.1 he'
    obtain ⟨htrustee, hallow, hrights⟩ := heir_says hheir
    rw [htrustee, hallow, hrights]
    exact hes e he
  refine hheirs leaf ?_
  induction n with
  | zero => exact h
  | succ n ih => exact hheirs false ih

/-- **What is held on everything below** is what the entries that are passed on without end give. -/
theorem holds_created_iff (h : Grants es) (leaf : Bool) :
    (∀ n, Holds (created es n leaf) who rights) ↔
      ∀ r ∈ rights, ∃ e ∈ es, e.Reaches 1 leaf ∧ e.trustee = who ∧ e.rights r = true := by
  have hone : ∀ n, Holds (created es n leaf) who rights ↔
      ∀ r ∈ rights, ∃ e ∈ es, e.Reaches n leaf ∧ e.trustee = who ∧ e.rights r = true := by
    intro n
    rw [holds_iff (forall_created (P := fun _ allow _ => allow = true) h)]
    exact forall₂_congr fun r _ => exists_created_iff (P := fun trustee _ rights => trustee = who ∧ rights r = true)
  constructor
  · exact fun hall => (hone 1).1 (hall 1)
  · intro hcover n
    refine (hone n).2 fun r hr => ?_
    obtain ⟨e, he, ⟨hinherit, hpropagate⟩, hsays⟩ := hcover r hr
    exact ⟨e, he, ⟨hinherit, .inr (hpropagate.resolve_left (by decide))⟩, hsays⟩

end Tiai.Lib.AccessList
