import Tiai.Lib.Checked
import Tiai.Lib.Int4

/-!
# What a column takes

A value is stored when it fits its column: an `INTEGER` is of four bytes, a `VARCHAR(n)` is at most so long, and no text
holds U+0000, in a JSON document either.  The types whose values always fit — flags, dates, floats, identifiers — are
one here.  `INSERT … ON CONFLICT DO UPDATE` does not take a key twice.

* `Cell.Fits` — a value, and its column;
* `accept_eq_ok_iff`, `upsertRows_eq_ok_iff` — when a row is taken, and when a statement is;
* `isText_append`, `isText_repr` — texts composed of others.
-/

namespace Tiai.Lib.Sql

/-! ### Texts -/

/-- A text that a column can hold. -/
def IsText (s : String) : Prop := '\x00' ∉ s.toList

instance (s : String) : Decidable (IsText s) := inferInstanceAs (Decidable (_ ∉ _))

/-- A stored text. -/
abbrev Text := {s : String // IsText s}

/-- A text that is there. -/
def IsTextOrNull (s : Option String) : Prop := ∀ t ∈ s, IsText t

instance (s : Option String) : Decidable (IsTextOrNull s) := by
  unfold IsTextOrNull
  cases s with
  | none => exact .isTrue fun t ht => by cases ht
  | some t => exact decidable_of_iff (IsText t) ⟨fun h _ ht => Option.some.inj ht ▸ h, fun h => h t rfl⟩

@[simp] lemma isTextOrNull_none : IsTextOrNull none := fun t ht => by cases ht

@[simp] lemma isTextOrNull_some {s : String} : IsTextOrNull (some s) ↔ IsText s :=
  ⟨fun h => h s rfl, fun h _ ht => Option.some.inj ht ▸ h⟩

lemma Text.isTextOrNull (s : Option Text) : IsTextOrNull (s.map Subtype.val) := by
  cases s with
  | none => exact isTextOrNull_none
  | some s => exact isTextOrNull_some.2 s.2

@[simp] lemma isText_append {s t : String} : IsText (s ++ t) ↔ IsText s ∧ IsText t := by
  simp [IsText, not_or]

lemma isText_repr (n : ℕ) : IsText n.repr := by
  intro h
  rw [Nat.toList_repr] at h
  exact absurd (Nat.isDigit_of_mem_toDigits (by decide) (by decide) h) (by decide)

/-- A JSON text, as it is written, escapes U+0000. -/
def escapesNul : List Char → Bool
  | '\\' :: 'u' :: '0' :: '0' :: '0' :: '0' :: _ => true
  | '\\' :: _ :: cs => escapesNul cs
  | _ :: cs => escapesNul cs
  | [] => false

/-! ### Cells -/

inductive ColumnType
  | integer
  | varchar (n : ℕ)
  | text
  | jsonb
  /-- Any other. -/
  | plain
deriving DecidableEq

/-- A value; of a document, the texts in it, and what of it comes already written. -/
inductive Value
  | null
  | integer (n : ℤ)
  | text (s : String)
  | json (texts : List String) (written : String)
  | plain
deriving DecidableEq

structure Cell where
  column : String
  type : ColumnType
  value : Value

def Cell.Fits (c : Cell) : Prop :=
  match c.type, c.value with
  | _, .null => True
  | .integer, .integer n => IsInt4 n
  | .varchar n, .text s => IsText s ∧ s.length ≤ n
  | .text, .text s => IsText s
  | .jsonb, .json texts written => (∀ s ∈ texts, IsText s) ∧ escapesNul written.toList = false
  | .plain, .plain => True
  | _, _ => False

instance (c : Cell) : Decidable c.Fits := by
  unfold Cell.Fits
  split <;> infer_instance

namespace Cell

/-- An `INTEGER` column. -/
def integer (column : String) (n : Option ℤ) : Cell := ⟨column, .integer, n.elim .null .integer⟩

/-- A `TEXT` column. -/
def text (column : String) (s : Option String) : Cell := ⟨column, .text, s.elim .null .text⟩

def varchar (column : String) (n : ℕ) (s : Option String) : Cell := ⟨column, .varchar n, s.elim .null .text⟩

def plain (column : String) : Cell := ⟨column, .plain, .plain⟩

@[simp] lemma fits_integer {column : String} {n : Option ℤ} : (integer column n).Fits ↔ ∀ m ∈ n, IsInt4 m := by
  cases n <;> simp [integer, Fits]

@[simp] lemma fits_text {column : String} {s : Option String} : (text column s).Fits ↔ IsTextOrNull s := by
  cases s <;> simp [text, Fits]

@[simp] lemma fits_varchar {column : String} {n : ℕ} {s : Option String} :
    (varchar column n s).Fits ↔ IsTextOrNull s ∧ ∀ t ∈ s, t.length ≤ n := by
  cases s <;> simp [varchar, Fits]

@[simp] lemma fits_plain {column : String} : (plain column).Fits := trivial

end Cell

/-! ### Statements -/

inductive Failure
  /-- A value does not fit its column. -/
  | value (column : String)
  /-- A unique constraint. -/
  | conflict (constraint : String)
deriving DecidableEq

/-- A row is written. -/
def accept : List Cell → Except Failure Unit
  | [] => .ok ()
  | c :: cells => if c.Fits then accept cells else .error (.value c.column)

/-- `INSERT … ON CONFLICT`, of rows told apart by a key. -/
def upsertRows {ρ κ : Type} [DecidableEq κ] (constraint : String) (key : ρ → κ) (cells : ρ → List Cell)
    (rows : List ρ) : Except Failure Unit :=
  if (rows.map key).Nodup then accept (rows.flatMap cells) else .error (.conflict constraint)

theorem accept_eq_ok_iff {cells : List Cell} : accept cells = .ok () ↔ ∀ c ∈ cells, c.Fits := by
  induction cells with
  | nil => simp [accept]
  | cons c cells ih =>
    unfold accept
    split
    · rename_i hc
      rw [ih, List.forall_mem_cons, and_iff_right hc]
    · rename_i hc
      exact iff_of_false (by simp) fun h => hc (h c List.mem_cons_self)

theorem upsertRows_eq_ok_iff {ρ κ : Type} [DecidableEq κ] {constraint : String} {key : ρ → κ} {cells : ρ → List Cell}
    {rows : List ρ} : upsertRows constraint key cells rows = .ok () ↔
      (rows.map key).Nodup ∧ ∀ r ∈ rows, ∀ c ∈ cells r, c.Fits := by
  unfold upsertRows
  split
  · rename_i hkeys
    simp only [accept_eq_ok_iff, List.forall_mem_flatMap, and_iff_right hkeys]
  · rename_i hkeys
    exact iff_of_false (by simp) fun h => hkeys h.1

/-- A statement after another. -/
lemma bind_eq_ok_iff {x y : Except Failure Unit} : (x >>= fun _ => y) = .ok () ↔ x = .ok () ∧ y = .ok () := by
  cases x with
  | error e => simp [bind, Except.bind]
  | ok u => simp [bind, Except.bind]

end Tiai.Lib.Sql
