import Mathlib.Data.List.Basic
import Tiai.Lib.Rows

/-!
# SQL's three-valued logic

A value that may be null is an `Option`, and so is a truth value: `none` is *unknown*.  A comparison with a
null is unknown, the connectives are Kleene's, and a `WHERE` keeps the rows where its clause is true — not
those where it is unknown.

* `or_eq_true`, `and_eq_true`, `compare_eq_true`, `isIn_eq_true`, `anyOf_eq_true` — when a clause is true;
* `mem_leftJoin`, `map_fst_leftJoin`, `length_leftJoin` — the rows of an outer join;
* `select_key`, `leftJoin_eq_map`, `join_eq_filterMap` — on a primary key, a join finds the row of that key;
* `orderBy`, `page` — the order of an answer, and a page of it.
-/

namespace Tiai.Lib.Sql

/-- A truth value; `none` is unknown. -/
abbrev Truth := Option Bool

namespace Truth

def or : Truth → Truth → Truth
  | some true, _ => some true
  | _, some true => some true
  | some false, some false => some false
  | _, _ => none

def and : Truth → Truth → Truth
  | some false, _ => some false
  | _, some false => some false
  | some true, some true => some true
  | _, _ => none

def not : Truth → Truth := Option.map fun b => !b

end Truth

variable {α β : Type}

/-- A comparison: unknown when either side is null. -/
def compare (r : α → α → Bool) (x y : Option α) : Truth := do
  let a ← x
  let b ← y
  return r a b

/-- `x = y`. -/
def eq [DecidableEq α] (x y : Option α) : Truth := compare (fun a b => a = b) x y

/-- `x != y`. -/
def ne [DecidableEq α] (x y : Option α) : Truth := compare (fun a b => a ≠ b) x y

/-- `x IS NOT NULL`, which is never unknown. -/
def isNotNull (x : Option α) : Truth := some x.isSome

/-- `x IN (…)`. -/
def isIn [DecidableEq α] (x : Option α) (values : List (Option α)) : Truth :=
  values.foldr (fun v truth => (eq x v).or truth) (some false)

/-- `COALESCE(x, y)`. -/
def coalesce (x y : Option α) : Option α := x.or y

/-- `CASE WHEN condition THEN x ELSE y END`: the condition has to be true. -/
def caseWhen (condition : Truth) (x y : Option α) : Option α := if condition = some true then x else y

/-- `c₁ OR c₂ OR …`; of no condition, false. -/
def anyOf (conditions : List Truth) : Truth := conditions.foldr Truth.or (some false)

/-- `… WHERE clause`. -/
def select (clause : α → Truth) (rows : List α) : List α := rows.filter fun a => clause a = some true

/-- `rows JOIN others ON on`. -/
def join (on : α → β → Truth) (others : List β) (rows : List α) : List (α × β) :=
  rows.flatMap fun a => (select (on a) others).map fun b => (a, b)

/-- `rows LEFT OUTER JOIN others ON on`. -/
def leftJoin (on : α → β → Truth) (others : List β) (rows : List α) : List (α × Option β) :=
  rows.flatMap fun a =>
    match select (on a) others with
    | [] => [(a, none)]
    | found => found.map fun b => (a, some b)

/-- `… ORDER BY`: rows that the order leaves tied come in the order of the table. -/
def orderBy (order : α → α → Ordering) (rows : List α) : List α := rows.mergeSort fun a b => (order a b).isLE

/-- `ASC NULLS LAST`. -/
def nullsLast (order : α → α → Ordering) : Option α → Option α → Ordering
  | some a, some b => order a b
  | some _, none => .lt
  | none, some _ => .gt
  | none, none => .eq

/-- `OFFSET (page - 1) * size LIMIT size`. -/
def page (number size : ℕ) (rows : List α) : List α := (rows.drop ((number - 1) * size)).take size

section Clauses

variable {x y : Truth} {rows : List α} {others : List β} {on : α → β → Truth} {clause : α → Truth}

@[simp] lemma or_eq_true : x.or y = some true ↔ x = some true ∨ y = some true := by
  rcases x with _ | _ | _ <;> rcases y with _ | _ | _ <;> simp [Truth.or]

@[simp] lemma and_eq_true : x.and y = some true ↔ x = some true ∧ y = some true := by
  rcases x with _ | _ | _ <;> rcases y with _ | _ | _ <;> simp [Truth.and]

lemma compare_eq_true {r : α → α → Bool} {x y : Option α} :
    compare r x y = some true ↔ ∃ a b, x = some a ∧ y = some b ∧ r a b = true := by
  cases x with
  | none => simp [compare]
  | some a =>
    cases y with
    | none => simp [compare]
    | some b => simp [compare]

lemma eq_eq_true [DecidableEq α] {x y : Option α} : eq x y = some true ↔ ∃ a, x = some a ∧ y = some a := by
  rw [eq, compare_eq_true]
  constructor
  · rintro ⟨a, b, hx, hy, hab⟩
    obtain rfl := of_decide_eq_true hab
    exact ⟨a, hx, hy⟩
  · rintro ⟨a, hx, hy⟩
    exact ⟨a, a, hx, hy, decide_eq_true rfl⟩

lemma isIn_eq_true [DecidableEq α] {x : Option α} {values : List (Option α)} :
    isIn x values = some true ↔ ∃ a, x = some a ∧ some a ∈ values := by
  induction values with
  | nil => simp [isIn]
  | cons v values ih =>
    change (eq x v).or (isIn x values) = some true ↔ _
    rw [or_eq_true, ih, eq_eq_true]
    constructor
    · rintro (⟨a, hx, rfl⟩ | ⟨a, hx, ha⟩)
      · exact ⟨a, hx, List.mem_cons_self⟩
      · exact ⟨a, hx, List.mem_cons_of_mem _ ha⟩
    · rintro ⟨a, hx, ha⟩
      rcases List.mem_cons.1 ha with rfl | ha
      · exact .inl ⟨a, hx, rfl⟩
      · exact .inr ⟨a, hx, ha⟩

lemma anyOf_eq_true {conditions : List Truth} : anyOf conditions = some true ↔ some true ∈ conditions := by
  induction conditions with
  | nil => simp [anyOf]
  | cons c conditions ih =>
    change c.or (anyOf conditions) = some true ↔ _
    rw [or_eq_true, ih, List.mem_cons, eq_comm]

@[simp] lemma mem_select {a : α} : a ∈ select clause rows ↔ a ∈ rows ∧ clause a = some true := by
  simp [select]

/-- A row of an outer join is a row of the left, beside a match, or beside nulls when there is none. -/
lemma mem_leftJoin {a : α} {b : Option β} : (a, b) ∈ leftJoin on others rows ↔ a ∈ rows ∧
    ((∃ c ∈ others, on a c = some true ∧ b = some c) ∨ (∀ c ∈ others, on a c ≠ some true) ∧ b = none) := by
  have hrow (a' : α) : (a, b) ∈ (match select (on a') others with
      | [] => [(a', none)]
      | found => found.map fun b => (a', some b)) ↔ a = a' ∧
        ((∃ c ∈ others, on a' c = some true ∧ b = some c) ∨
          (∀ c ∈ others, on a' c ≠ some true) ∧ b = none) := by
    cases h : select (on a') others with
    | nil =>
      have hnone : ∀ c ∈ others, on a' c ≠ some true := fun c hc hon =>
        List.not_mem_nil (h ▸ mem_select.2 ⟨hc, hon⟩)
      simp only [List.mem_singleton, Prod.mk.injEq]
      refine and_congr_right fun _ => ⟨fun hb => .inr ⟨hnone, hb⟩, ?_⟩
      rintro (⟨c, hc, hon, -⟩ | ⟨-, hb⟩)
      · exact absurd hon (hnone c hc)
      · exact hb
    | cons c cs =>
      have hmem {d : β} : d ∈ c :: cs ↔ d ∈ others ∧ on a' d = some true := by rw [← h, mem_select]
      simp only [List.mem_map, Prod.mk.injEq]
      constructor
      · rintro ⟨d, hd, rfl, rfl⟩
        exact ⟨rfl, .inl ⟨d, (hmem.1 hd).1, (hmem.1 hd).2, rfl⟩⟩
      · rintro ⟨rfl, ⟨d, hd, hon, rfl⟩ | ⟨hnone, -⟩⟩
        · exact ⟨d, hmem.2 ⟨hd, hon⟩, rfl, rfl⟩
        · have hc := hmem.1 List.mem_cons_self
          exact absurd hc.2 (hnone c hc.1)
  unfold leftJoin
  rw [List.mem_flatMap]
  constructor
  · rintro ⟨a', ha', h⟩
    obtain ⟨rfl, h⟩ := (hrow a').1 h
    exact ⟨ha', h⟩
  · rintro ⟨ha, h⟩
    exact ⟨a, ha, (hrow a).2 ⟨rfl, h⟩⟩

/-- An outer join on a key of the right is the left, row by row. -/
lemma map_fst_leftJoin (h : ∀ a ∈ rows, (select (on a) others).length ≤ 1) :
    (leftJoin on others rows).map Prod.fst = rows := by
  induction rows with
  | nil => rfl
  | cons a rows ih =>
    have hrest := ih fun b hb => h b (List.mem_cons_of_mem a hb)
    have hrow := h a List.mem_cons_self
    unfold leftJoin at hrest ⊢
    rw [List.flatMap_cons, List.map_append, hrest]
    match hfound : select (on a) others with
    | [] => rfl
    | [_] => rfl
    | _ :: _ :: _ =>
      rw [hfound] at hrow
      simp at hrow

lemma length_leftJoin (h : ∀ a ∈ rows, (select (on a) others).length ≤ 1) :
    (leftJoin on others rows).length = rows.length := by
  conv_rhs => rw [← map_fst_leftJoin h, List.length_map]

/-- The row that a clause selects, when it selects one at most, is the one that joins. -/
lemma leftJoin_eq_map (f : α → Option β) (h : ∀ a ∈ rows, select (on a) others = (f a).toList) :
    leftJoin on others rows = rows.map fun a => (a, f a) := by
  induction rows with
  | nil => rfl
  | cons a rows ih =>
    have hrest := ih fun b hb => h b (List.mem_cons_of_mem a hb)
    unfold leftJoin at hrest ⊢
    rw [List.flatMap_cons, hrest, List.map_cons, h a List.mem_cons_self]
    cases f a with
    | none => rfl
    | some b => rfl

lemma join_eq_filterMap (f : α → Option β) (h : ∀ a ∈ rows, select (on a) others = (f a).toList) :
    join on others rows = rows.filterMap fun a => (f a).map fun b => (a, b) := by
  induction rows with
  | nil => rfl
  | cons a rows ih =>
    have hrest := ih fun b hb => h b (List.mem_cons_of_mem a hb)
    unfold join at hrest ⊢
    rw [List.flatMap_cons, hrest, h a List.mem_cons_self]
    cases hf : f a with
    | none => simp [hf]
    | some b => simp [hf]

/-- On a primary key, a clause selects the row of that key. -/
lemma select_key {κ : Type} [DecidableEq κ] {key : β → κ} (hkeys : (others.map key).Nodup) (x : Option κ) :
    select (fun b => eq (some (key b)) x) others = (x.bind (rowOf key others)).toList := by
  have hon (b : β) (k : κ) : eq (some (key b)) (some k) = some true ↔ key b = k := by
    rw [eq_eq_true]
    constructor
    · rintro ⟨a, ha, hk⟩
      exact (Option.some.inj ha).trans (Option.some.inj hk).symm
    · rintro rfl
      exact ⟨key b, rfl, rfl⟩
  cases x with
  | none =>
    refine List.filter_eq_nil_iff.2 fun b _ => ?_
    simp [eq, compare]
  | some k =>
    rw [Option.bind_some, ← filter_key hkeys]
    refine List.filter_congr fun b _ => ?_
    rw [decide_eq_decide, hon]

/-- And never two rows. -/
lemma length_select_key {κ : Type} [DecidableEq κ] {key : β → κ} (hkeys : (others.map key).Nodup) (x : Option κ) :
    (select (fun b => eq (some (key b)) x) others).length ≤ 1 := by
  rw [select_key hkeys]
  exact Option.length_toList_le

end Clauses

end Tiai.Lib.Sql
