import Mathlib.Data.List.Sort
import Mathlib.Data.Prod.Lex
import Mathlib.Data.String.Basic
import Tiai.Base
import Tiai.Lib.Runs
import Tiai.Lib.Upsert

/-!
# The agent's queue of results

`queue.go`: a directory of files, one a result, replayed in the order of their names, which start with the instant of
creation.  Each operation of the file system may fail.

* `enqueue`, `peek`, `remove` — the operations;
* `StepOk` — what the queue promises of one operation: no result is lost that need not be, the oldest is returned, the
  bound is kept, and an error changes nothing;
* `Sound` — of an operation, what makes it keep the promise;
* `queue_sound_iff` — the promise holds of every operation of a run exactly when they are all sound.
-/

namespace Tiai.ResultQueue

open Lib

/-! ### Files -/

/-- `Item`; the instant is absent while it is zero. -/
structure Item (ρ : Type) where
  commandId : String
  result : ρ
  createdAt : Option Time
  deriving DecidableEq

/-- A file name: the stamp, in microseconds and of a fixed width, and the rest. -/
abbrev Name := Time ×ₗ String

/-- A file of the directory, `.json`; a content of `none` is corrupt. -/
structure File (ρ : Type) where
  name : Name
  content : Option (Item ρ)
  deriving DecidableEq

structure Dir (ρ : Type) where
  files : List (File ρ)
  unique : (files.map File.name).Nodup

structure Queue where
  maxItems : ℕ
  positive : 0 < maxItems

/-- `New`. -/
def new (maxItems : ℤ) : Queue :=
  if h : maxItems ≤ 0 then ⟨1000, by decide⟩ else ⟨maxItems.toNat, by omega⟩

/-- The operations that fail. -/
structure Faults where
  readDir : Bool
  readFile : Name → Bool
  removeFile : Name → Bool
  marshal : Bool
  writeFile : Bool
  rename : Bool

/-! ### Operations -/

section

variable {ρ : Type}

/-- The instant of a file. -/
def File.stamp (f : File ρ) : Time := (ofLex f.name).1

/-- The names of the directory, sorted. -/
def Dir.names (d : Dir ρ) : List Name := (d.files.map File.name).insertionSort (· ≤ ·)

/-- `listFiles`. -/
def listFiles (faults : Faults) (d : Dir ρ) : Option (List Name) := if faults.readDir then none else some d.names

/-- `os.Remove`, of a file. -/
def Dir.without (d : Dir ρ) (name : Name) : Dir ρ where
  files := d.files.filter fun f => f.name ≠ name
  unique := d.unique.sublist (List.filter_sublist.map _)

/-- `os.Rename`, over the file of that name if there is one. -/
def Dir.put (d : Dir ρ) (f : File ρ) : Dir ρ := ⟨upsert File.name d.files f, nodup_upsert d.unique⟩

/-- A full queue drops its oldest file; what fails here is not looked at. -/
def dropOldest (q : Queue) (faults : Faults) (d : Dir ρ) : Dir ρ :=
  let files := (listFiles faults d).getD []
  if files.length ≥ q.maxItems then
    match files with
    | [] => d
    | oldest :: _ => if faults.removeFile oldest then d else d.without oldest
  else d

/-- The file of an item, created now unless it says when. -/
def fileOf (now : Time) (item : Item ρ) : File ρ :=
  let createdAt := item.createdAt.getD now
  ⟨toLex (createdAt, "_" ++ item.commandId ++ ".json"), some { item with createdAt := some createdAt }⟩

inductive EnqueueError
  | marshal
  | writeFile
  | rename
  deriving DecidableEq

/-- `Enqueue`. -/
def enqueue (q : Queue) (now : Time) (faults : Faults) (item : Item ρ) (d : Dir ρ) : Option EnqueueError × Dir ρ :=
  let d := dropOldest q faults d
  if faults.marshal then (some .marshal, d)
  else if faults.writeFile then (some .writeFile, d)
  else if faults.rename then (some .rename, d)
  else (none, d.put (fileOf now item))

inductive PeekError
  | readDir
  | readFile (name : Name)

/-- The loop of `Peek`: corrupt files are removed and skipped. -/
def peekFiles (faults : Faults) : List Name → Dir ρ → Except PeekError (Option (Item ρ × Name)) × Dir ρ
  | [], d => (.ok none, d)
  | name :: names, d =>
    if faults.readFile name then (.error (.readFile name), d)
    else
      match rowOf File.name d.files name with
      | none => (.error (.readFile name), d)
      | some f =>
        match f.content with
        | some item => (.ok (some (item, name)), d)
        | none => peekFiles faults names (if faults.removeFile name then d else d.without name)

/-- `Peek`. -/
def peek (faults : Faults) (d : Dir ρ) : Except PeekError (Option (Item ρ × Name)) × Dir ρ :=
  match listFiles faults d with
  | none => (.error .readDir, d)
  | some names => peekFiles faults names d

/-- `Remove`, and whether it fails: it does where there is no such file. -/
def remove (fails : Bool) (path : Name) (d : Dir ρ) : Bool × Dir ρ :=
  if fails || path ∉ d.files.map File.name then (true, d) else (false, d.without path)

inductive Op (ρ : Type)
  | enqueue (now : Time) (faults : Faults) (item : Item ρ)
  | peek (faults : Faults)
  | remove (fails : Bool) (path : Name)

def step (q : Queue) (d : Dir ρ) : Op ρ → Dir ρ
  | .enqueue now faults item => (enqueue q now faults item d).2
  | .peek faults => (peek faults d).2
  | .remove fails path => (remove fails path d).2

/-! ### The promise -/

/-- The encoding, the writing or the renaming fails. -/
def Faults.failsInsertion (faults : Faults) : Bool := faults.marshal || faults.writeFile || faults.rename

/-- The queue is full, and its oldest file is `name`, which is removed. -/
def Evicts (q : Queue) (faults : Faults) (d : Dir ρ) (name : Name) : Prop :=
  faults.readDir = false ∧ q.maxItems ≤ d.files.length ∧ d.names.head? = some name ∧ faults.removeFile name = false

instance (q : Queue) (faults : Faults) (d : Dir ρ) (name : Name) : Decidable (Evicts q faults d name) :=
  inferInstanceAs (Decidable (_ ∧ _ ∧ _ ∧ _))

/-- A file that is removed, without an error. -/
def Removed (d : Dir ρ) (op : Op ρ) (f : File ρ) : Prop :=
  match op with
  | .remove fails path => path = f.name ∧ (remove fails path d).1 = false
  | _ => False

/-- A file that made room for a newer one, which is stored. -/
def MadeRoom (q : Queue) (d : Dir ρ) (op : Op ρ) (f : File ρ) : Prop :=
  match op with
  | .enqueue now faults item => Evicts q faults d f.name ∧ fileOf now item ∈ (step q d op).files ∧
      f.stamp ≤ (fileOf now item).stamp
  | _ => False

/-- What was found is the oldest of the results that are stored. -/
def Oldest (d : Dir ρ) : Option (Item ρ × Name) → Prop
  | none => ∀ f ∈ d.files, f.content = none
  | some (item, name) => ∃ f ∈ d.files, f.name = name ∧ f.content = some item ∧
      ∀ g ∈ d.files, g.content.isSome → f.stamp ≤ g.stamp

/-- What the queue promises of an operation. -/
structure StepOk (q : Queue) (d : Dir ρ) (op : Op ρ) : Prop where
  kept : ∀ f ∈ d.files, f.content.isSome → f ∈ (step q d op).files ∨ Removed d op f ∨ MadeRoom q d op f
  oldest : ∀ faults, op = .peek faults → ∀ found, (peek faults d).1 = .ok found → Oldest d found
  bounded : (step q d op).files.length ≤ q.maxItems
  unchanged : ∀ now faults item error, op = .enqueue now faults item →
    (enqueue q now faults item d).1 = some error → step q d op = d

/-- An insertion that fails removed nothing.  One that succeeds takes the name of no other result but the one it
evicts, evicts none that is newer, and has room if it evicts none. -/
def Sound (q : Queue) (d : Dir ρ) : Op ρ → Prop
  | .enqueue now faults item =>
    if faults.failsInsertion then ∀ name, ¬ Evicts q faults d name
    else
      (∀ f ∈ d.files, f.name = (fileOf now item).name →
        f.content = none ∨ f = fileOf now item ∨ Evicts q faults d f.name) ∧
      (∀ f ∈ d.files, Evicts q faults d f.name → f.content = none ∨ f.stamp ≤ (fileOf now item).stamp) ∧
      ((∃ name, Evicts q faults d name) ∨ d.files.length < q.maxItems ∨
        (fileOf now item).name ∈ d.files.map File.name)
  | .peek _ => True
  | .remove _ _ => True

/-! ### Files that stay -/

variable {q : Queue} {d : Dir ρ} {f g : File ρ} {faults : Faults} {now : Time} {item : Item ρ} {name : Name}

lemma mem_names : name ∈ d.names ↔ name ∈ d.files.map File.name := (List.perm_insertionSort _ _).mem_iff

lemma length_names : d.names.length = d.files.length := by
  rw [Dir.names, List.length_insertionSort, List.length_map]

lemma sorted_names : d.names.Pairwise (· ≤ ·) := List.pairwise_insertionSort _ _

lemma nodup_names : d.names.Nodup := (List.perm_insertionSort _ _).nodup_iff.2 d.unique

lemma stamp_le_of_name_le (h : f.name ≤ g.name) : f.stamp ≤ g.stamp := by
  rcases (Prod.Lex.le_iff ..).1 h with hlt | ⟨heq, -⟩
  · exact hlt.le
  · exact heq.le

lemma mem_without : f ∈ (d.without name).files ↔ f ∈ d.files ∧ f.name ≠ name := by
  rw [Dir.without, List.mem_filter, decide_eq_true_eq]

lemma mem_put : g ∈ (d.put f).files ↔ g = f ∨ g ∈ d.files ∧ g.name ≠ f.name := mem_upsert

lemma length_without_le : (d.without name).files.length ≤ d.files.length := List.length_filter_le _ _

/-- A full queue has an oldest file. -/
lemma length_without (h : name ∈ d.files.map File.name) : (d.without name).files.length < d.files.length := by
  obtain ⟨f, hf, hname⟩ := List.mem_map.1 h
  exact List.length_filter_lt_length_iff_exists.2 ⟨f, hf, by simp [hname]⟩

lemma length_put_of_mem (h : f.name ∈ d.files.map File.name) : (d.put f).files.length = d.files.length :=
  length_upsert_of_mem h

lemma length_put_of_not_mem (h : f.name ∉ d.files.map File.name) : (d.put f).files.length = d.files.length + 1 :=
  length_upsert_of_not_mem h

lemma Evicts.mem (h : Evicts q faults d name) : name ∈ d.files.map File.name :=
  mem_names.1 (List.mem_of_head? h.2.2.1)

lemma Evicts.eq {name' : Name} (h : Evicts q faults d name) (h' : Evicts q faults d name') : name = name' :=
  Option.some.inj (h.2.2.1.symm.trans h'.2.2.1)

/-- The oldest file is dropped, or nothing is. -/
lemma dropOldest_cases (q : Queue) (faults : Faults) (d : Dir ρ) :
    (∃ name, Evicts q faults d name ∧ dropOldest q faults d = d.without name) ∨
      (∀ name, ¬ Evicts q faults d name) ∧ dropOldest q faults d = d := by
  unfold dropOldest
  cases hread : faults.readDir with
  | true =>
    have hlist : listFiles faults d = none := by rw [listFiles, hread, if_pos rfl]
    rw [hlist]
    refine Or.inr ⟨fun name h => Bool.noConfusion (hread.symm.trans h.1), ?_⟩
    have hempty : ¬ ([] : List Name).length ≥ q.maxItems := Nat.not_le.2 q.positive
    exact if_neg hempty
  | false =>
    have hlist : listFiles faults d = some d.names := by rw [listFiles, hread, if_neg (by simp)]
    rw [hlist, Option.getD_some]
    dsimp only
    by_cases hfull : d.names.length ≥ q.maxItems
    · rw [if_pos hfull]
      have hlength : q.maxItems ≤ d.files.length := length_names ▸ hfull
      cases hnames : d.names with
      | nil =>
        rw [hnames] at hfull
        exact absurd q.positive (Nat.not_lt.2 hfull)
      | cons oldest names =>
        have hhead : d.names.head? = some oldest := hnames ▸ rfl
        dsimp only
        cases hremove : faults.removeFile oldest with
        | true =>
          refine Or.inr ⟨fun name h => ?_, if_pos rfl⟩
          have hname : oldest = name := Option.some.inj (hhead.symm.trans h.2.2.1)
          exact Bool.noConfusion ((hname ▸ hremove).symm.trans h.2.2.2)
        | false => exact Or.inl ⟨oldest, ⟨hread, hlength, hhead, hremove⟩, if_neg (by simp)⟩
    · rw [if_neg hfull]
      exact Or.inr ⟨fun name h => hfull (length_names ▸ h.2.1), rfl⟩

/-! ### Peek -/

/-- Removing a file leaves the others to be read. -/
lemma rowOf_without {name' : Name} (h : name' ≠ name) :
    rowOf File.name (d.without name).files name' = rowOf File.name d.files name' := by
  have hfilter := rowOf_filter d.unique (fun f : File ρ => f.name ≠ name) name'
  rw [Dir.without]
  refine hfilter.trans ?_
  cases hrow : rowOf File.name d.files name' with
  | none => rfl
  | some f => exact Option.filter_some_pos (by simp [key_of_rowOf hrow, h])

/-- Only corrupt files are removed. -/
lemma peekFiles_kept (names : List Name) (hf : f ∈ d.files) (hcontent : f.content.isSome) :
    f ∈ (peekFiles faults names d).2.files := by
  induction names generalizing d with
  | nil => exact hf
  | cons name names ih =>
    unfold peekFiles
    split
    · exact hf
    split
    · exact hf
    rename_i g hg
    split
    · exact hf
    rename_i hcorrupt
    refine ih ?_
    split
    · exact hf
    · refine mem_without.2 ⟨hf, fun hname => ?_⟩
      have hfound : rowOf File.name d.files name = some f := (rowOf_eq_some_iff d.unique).2 ⟨hf, hname⟩
      rw [hg] at hfound
      rw [← Option.some.inj hfound, hcorrupt] at hcontent
      cases hcontent

lemma length_peekFiles (names : List Name) : (peekFiles faults names d).2.files.length ≤ d.files.length := by
  induction names generalizing d with
  | nil => exact le_rfl
  | cons name names ih =>
    unfold peekFiles
    split
    · exact le_rfl
    split
    · exact le_rfl
    split
    · exact le_rfl
    refine ih.trans ?_
    split
    · exact le_rfl
    · exact length_without_le

lemma peek_kept (hf : f ∈ d.files) (hcontent : f.content.isSome) : f ∈ (peek faults d).2.files := by
  unfold peek
  split
  · exact hf
  · exact peekFiles_kept _ hf hcontent

lemma mem_of_peekFiles (names : List Name) (h : f ∈ (peekFiles faults names d).2.files) : f ∈ d.files := by
  induction names generalizing d with
  | nil => exact h
  | cons name names ih =>
    unfold peekFiles at h
    split at h
    · exact h
    split at h
    · exact h
    split at h
    · exact h
    have hrest := ih h
    split at hrest
    · exact hrest
    · exact (mem_without.1 hrest).1

/-- Nothing is added. -/
lemma mem_of_peek (h : f ∈ (peek faults d).2.files) : f ∈ d.files := by
  unfold peek at h
  split at h
  · exact h
  · exact mem_of_peekFiles _ h

lemma length_peek : (peek faults d).2.files.length ≤ d.files.length := by
  unfold peek
  split
  · exact le_rfl
  · exact length_peekFiles _

/-- What is found among some names is the first that is not corrupt. -/
lemma peekFiles_first {names : List Name} (hnodup : names.Nodup) {found : Option (Item ρ × Name)}
    (h : (peekFiles faults names d).1 = .ok found) :
    match found with
    | none => ∀ n ∈ names, ∀ f, rowOf File.name d.files n = some f → f.content = none
    | some (item, name) => ∃ before after, names = before ++ name :: after ∧
        (∃ f, rowOf File.name d.files name = some f ∧ f.content = some item) ∧
        ∀ n ∈ before, ∀ f, rowOf File.name d.files n = some f → f.content = none := by
  induction names generalizing d with
  | nil =>
    cases h
    exact fun n hn => (List.not_mem_nil hn).elim
  | cons name names ih =>
    unfold peekFiles at h
    split at h
    · cases h
    split at h
    · cases h
    rename_i f hf
    split at h
    · rename_i item hitem
      cases h
      exact ⟨[], names, rfl, ⟨f, hf, hitem⟩, fun n hn => (List.not_mem_nil hn).elim⟩
    rename_i hcorrupt
    have hother : ∀ n ∈ names, rowOf File.name (if faults.removeFile name then d else d.without name).files n =
        rowOf File.name d.files n := by
      intro n hn
      split
      · rfl
      · exact rowOf_without fun heq => (List.nodup_cons.1 hnodup).1 (heq ▸ hn)
    have hrest := ih (List.nodup_cons.1 hnodup).2 h
    cases found with
    | none =>
      intro n hn g hg
      rcases List.mem_cons.1 hn with rfl | hn
      · rw [hf] at hg
        exact Option.some.inj hg ▸ hcorrupt
      · exact hrest n hn g ((hother n hn).trans hg)
    | some found =>
      obtain ⟨item, name'⟩ := found
      obtain ⟨before, after, rfl, ⟨g, hg, hitem⟩, hbefore⟩ := hrest
      refine ⟨name :: before, after, rfl, ⟨g, ?_, hitem⟩, fun n hn x hx => ?_⟩
      · rw [← hother name' (List.mem_append_right _ List.mem_cons_self)]
        exact hg
      · rcases List.mem_cons.1 hn with rfl | hn
        · rw [hf] at hx
          exact Option.some.inj hx ▸ hcorrupt
        · exact hbefore n hn x ((hother n (List.mem_append_left _ hn)).trans hx)

/-- **Peek returns the oldest result.** -/
theorem oldest_of_peek {found : Option (Item ρ × Name)} (h : (peek faults d).1 = .ok found) : Oldest d found := by
  unfold peek listFiles at h
  cases hread : faults.readDir with
  | true =>
    rw [hread, if_pos rfl] at h
    cases h
  | false =>
    rw [hread, if_neg (by simp)] at h
    have hfirst := peekFiles_first nodup_names h
    have hrow : ∀ g ∈ d.files, rowOf File.name d.files g.name = some g := fun g hg =>
      (rowOf_eq_some_iff d.unique).2 ⟨hg, rfl⟩
    cases found with
    | none => exact fun g hg => hfirst g.name (mem_names.2 (List.mem_map_of_mem hg)) g (hrow g hg)
    | some found =>
      obtain ⟨item, name⟩ := found
      obtain ⟨before, after, hnames, ⟨f, hf, hitem⟩, hbefore⟩ := hfirst
      refine ⟨f, mem_of_rowOf hf, key_of_rowOf hf, hitem, fun g hg hcontent => stamp_le_of_name_le ?_⟩
      rw [key_of_rowOf hf]
      have hmem : g.name ∈ before ++ name :: after := hnames ▸ mem_names.2 (List.mem_map_of_mem hg)
      rcases List.mem_append.1 hmem with hmem | hmem
      · rw [hbefore g.name hmem g (hrow g hg)] at hcontent
        cases hcontent
      · have hsorted : (before ++ name :: after).Pairwise (· ≤ ·) := hnames ▸ sorted_names
        rcases List.mem_cons.1 hmem with heq | hmem
        · exact heq.ge
        · exact List.rel_of_pairwise_cons (List.pairwise_append.1 hsorted).2.1 hmem

/-! ### One operation -/

lemma enqueue_of_fails (h : faults.failsInsertion = true) :
    ∃ error, enqueue q now faults item d = (some error, dropOldest q faults d) := by
  unfold enqueue
  dsimp only
  split
  · exact ⟨_, rfl⟩
  split
  · exact ⟨_, rfl⟩
  split
  · exact ⟨_, rfl⟩
  · simp_all [Faults.failsInsertion]

lemma enqueue_of_succeeds (h : faults.failsInsertion = false) :
    enqueue q now faults item d = (none, (dropOldest q faults d).put (fileOf now item)) := by
  simp only [Faults.failsInsertion, Bool.or_eq_false_iff] at h
  unfold enqueue
  dsimp only
  rw [h.1.1, h.1.2, h.2]
  rfl

/-- An insertion that fails keeps the promise exactly when it removed nothing. -/
lemma stepOk_of_fails (h : faults.failsInsertion = true) (hbounded : d.files.length ≤ q.maxItems) :
    StepOk q d (.enqueue now faults item) ↔ ∀ name, ¬ Evicts q faults d name := by
  obtain ⟨error, herror⟩ : ∃ error, enqueue q now faults item d = (some error, dropOldest q faults d) :=
    enqueue_of_fails h
  have hstep : step q d (.enqueue now faults item) = dropOldest q faults d := congrArg Prod.snd herror
  rcases dropOldest_cases q faults d with ⟨name, hevicts, hdrop⟩ | ⟨hnone, hdrop⟩
  · refine iff_of_false (fun hok => ?_) (fun hnone => hnone name hevicts)
    have hsame := hok.unchanged now faults item error rfl (congrArg Prod.fst herror)
    rw [hstep, hdrop] at hsame
    have hlt := length_without hevicts.mem
    rw [hsame] at hlt
    exact Nat.lt_irrefl _ hlt
  · have hkeep : step q d (.enqueue now faults item) = d := hstep.trans hdrop
    refine iff_of_true ⟨fun f hf _ => Or.inl ?_, fun _ h => (by cases h), ?_, fun _ _ _ _ _ _ => hkeep⟩ hnone
    · rw [hkeep]
      exact hf
    · rw [hkeep]
      exact hbounded

/-- The files that are there after an insertion. -/
lemma mem_step_enqueue (h : faults.failsInsertion = false) : f ∈ (step q d (.enqueue now faults item)).files ↔
    f = fileOf now item ∨ f ∈ d.files ∧ f.name ≠ (fileOf now item).name ∧ ¬ Evicts q faults d f.name := by
  have hstep : step q d (.enqueue now faults item) = (dropOldest q faults d).put (fileOf now item) :=
    congrArg Prod.snd (enqueue_of_succeeds h)
  rw [hstep, mem_put]
  refine or_congr_right ?_
  rcases dropOldest_cases q faults d with ⟨name, hevicts, hdrop⟩ | ⟨hnone, hdrop⟩
  · rw [hdrop, mem_without]
    constructor
    · rintro ⟨⟨hf, hname⟩, hnew⟩
      exact ⟨hf, hnew, fun h => hname (h.eq hevicts)⟩
    · rintro ⟨hf, hnew, hname⟩
      exact ⟨⟨hf, fun h => hname (h ▸ hevicts)⟩, hnew⟩
  · rw [hdrop]
    exact ⟨fun ⟨hf, hnew⟩ => ⟨hf, hnew, hnone _⟩, fun ⟨hf, hnew, _⟩ => ⟨hf, hnew⟩⟩

/-- The bound is kept where room is made, or is left, or is not needed. -/
lemma bounded_step_enqueue (h : faults.failsInsertion = false) (hbounded : d.files.length ≤ q.maxItems) :
    (step q d (.enqueue now faults item)).files.length ≤ q.maxItems ↔
      (∃ name, Evicts q faults d name) ∨ d.files.length < q.maxItems ∨
        (fileOf now item).name ∈ d.files.map File.name := by
  have hstep : step q d (.enqueue now faults item) = (dropOldest q faults d).put (fileOf now item) :=
    congrArg Prod.snd (enqueue_of_succeeds h)
  rw [hstep]
  rcases dropOldest_cases q faults d with ⟨name, hevicts, hdrop⟩ | ⟨hnone, hdrop⟩
  · refine iff_of_true ?_ (Or.inl ⟨name, hevicts⟩)
    have hlt := length_without hevicts.mem
    rw [hdrop]
    by_cases hnew : (fileOf now item).name ∈ (d.without name).files.map File.name
    · rw [length_put_of_mem hnew]
      omega
    · rw [length_put_of_not_mem hnew]
      omega
  · have hnot : ¬ ∃ name, Evicts q faults d name := fun ⟨name, hevicts⟩ => hnone name hevicts
    rw [hdrop, or_iff_right hnot]
    by_cases hnew : (fileOf now item).name ∈ d.files.map File.name
    · rw [length_put_of_mem hnew]
      exact iff_of_true hbounded (Or.inr hnew)
    · rw [length_put_of_not_mem hnew, or_iff_left hnew]
      exact Nat.succ_le_iff

/-- An insertion that succeeds. -/
lemma stepOk_of_succeeds (hinsertion : faults.failsInsertion = false) (hbounded : d.files.length ≤ q.maxItems) :
    StepOk q d (.enqueue now faults item) ↔
      (∀ f ∈ d.files, f.name = (fileOf now item).name →
        f.content = none ∨ f = fileOf now item ∨ Evicts q faults d f.name) ∧
      (∀ f ∈ d.files, Evicts q faults d f.name → f.content = none ∨ f.stamp ≤ (fileOf now item).stamp) ∧
      ((∃ name, Evicts q faults d name) ∨ d.files.length < q.maxItems ∨
        (fileOf now item).name ∈ d.files.map File.name) := by
  have hnew : fileOf now item ∈ (step q d (.enqueue now faults item)).files :=
    (mem_step_enqueue hinsertion).2 (Or.inl rfl)
  constructor
  · intro hok
    refine ⟨fun f hf hname => ?_, fun f hf hevicts => ?_, (bounded_step_enqueue hinsertion hbounded).1 hok.bounded⟩
    · rw [← Option.not_isSome_iff_eq_none, ← or_assoc, or_iff_not_imp_left, not_or, not_not]
      rintro ⟨hcontent, hne⟩
      rcases hok.kept f hf hcontent with hmem | hremoved | hroom
      · rcases (mem_step_enqueue hinsertion).1 hmem with heq | ⟨-, hother, -⟩
        · exact absurd heq hne
        · exact absurd hname hother
      · exact hremoved.elim
      · exact hroom.1
    · rw [← Option.not_isSome_iff_eq_none, or_iff_not_imp_left, not_not]
      intro hcontent
      rcases hok.kept f hf hcontent with hmem | hremoved | hroom
      · rcases (mem_step_enqueue hinsertion).1 hmem with heq | ⟨-, -, hkept⟩
        · exact heq ▸ le_rfl
        · exact absurd hevicts hkept
      · exact hremoved.elim
      · exact hroom.2.2
  · rintro ⟨hfree, holder, hroom⟩
    refine ⟨fun f hf hcontent => ?_, fun _ h => (by cases h), (bounded_step_enqueue hinsertion hbounded).2 hroom, ?_⟩
    · have hpresent : f.content ≠ none := Option.isSome_iff_ne_none.1 hcontent
      by_cases hevicts : Evicts q faults d f.name
      · exact Or.inr (Or.inr ⟨hevicts, hnew, (holder f hf hevicts).resolve_left hpresent⟩)
      · refine Or.inl ((mem_step_enqueue hinsertion).2 ?_)
        by_cases hname : f.name = (fileOf now item).name
        · exact Or.inl (((hfree f hf hname).resolve_left hpresent).resolve_right hevicts)
        · exact Or.inr ⟨hf, hname, hevicts⟩
    · intro now' faults' item' error h herror
      cases h
      rw [enqueue_of_succeeds hinsertion] at herror
      cases herror

/-- **One operation.**  It keeps the promise exactly when it is sound. -/
theorem stepOk_iff (op : Op ρ) (hbounded : d.files.length ≤ q.maxItems) : StepOk q d op ↔ Sound q d op := by
  cases op with
  | peek faults =>
    refine iff_of_true ⟨fun f hf hcontent => Or.inl (peek_kept hf hcontent), fun faults' h found hfound => ?_,
      length_peek.trans hbounded, fun _ _ _ _ h => (by cases h)⟩ trivial
    cases h
    exact oldest_of_peek hfound
  | remove fails path =>
    refine iff_of_true ⟨fun f hf _ => ?_, fun _ h => (by cases h), ?_, fun _ _ _ _ h => (by cases h)⟩ trivial
    · change f ∈ (remove fails path d).2.files ∨ (path = f.name ∧ (remove fails path d).1 = false) ∨ False
      unfold remove
      split
      · exact Or.inl hf
      · by_cases hname : f.name = path
        · exact Or.inr (Or.inl ⟨hname.symm, rfl⟩)
        · exact Or.inl (mem_without.2 ⟨hf, hname⟩)
    · change (remove fails path d).2.files.length ≤ q.maxItems
      unfold remove
      split
      · exact hbounded
      · exact length_without_le.trans hbounded
  | enqueue now faults item =>
    unfold Sound
    cases hinsertion : faults.failsInsertion with
    | true =>
      dsimp only
      rw [if_pos hinsertion]
      exact stepOk_of_fails hinsertion hbounded
    | false =>
      dsimp only
      rw [if_neg (by simp [hinsertion])]
      exact stepOk_of_succeeds hinsertion hbounded

/-- **The queue.**  It keeps its promise at every operation of a run exactly when they are all sound. -/
theorem queue_sound_iff (q : Queue) (d : Dir ρ) (hbounded : d.files.length ≤ q.maxItems) (ops : List (Op ρ)) :
    (∀ before op, before ++ [op] <+: ops → StepOk q (run (step q) d before) op) ↔ Guarded (step q) (Sound q) d ops := by
  have hall : (∀ before op, before ++ [op] <+: ops → StepOk q (run (step q) d before) op) ↔
      Guarded (step q) (StepOk q) d ops := Guarded.iff_snoc.symm
  refine hall.trans (Guarded.congr (I := fun d => d.files.length ≤ q.maxItems) (fun d op h => stepOk_iff op h) ?_
    hbounded ops)
  exact fun d op _ hok => hok.bounded

end

/-! ### A queue of one -/

def noFiles : Dir String := ⟨[], List.nodup_nil⟩

def noFaults : Faults := ⟨false, fun _ => false, fun _ => false, false, false, false⟩

def fullDisk : Faults := ⟨false, fun _ => false, fun _ => false, false, true, false⟩

/-- A result that is inserted at `now`. -/
def inserted (now : Time) (commandId : String) (faults : Faults) : Op String :=
  .enqueue now faults ⟨commandId, "succeeded", none⟩

theorem queue_sound_iff_evicted :
    noFiles.files.length ≤ (new 1).maxItems ∧
    ∀ before op, before ++ [op] <+: [inserted 1 "a" noFaults, inserted 2 "b" noFaults] →
      StepOk (new 1) (run (step (new 1)) noFiles before) op := by
  have hguarded : Guarded (step (new 1)) (Sound (new 1)) noFiles
      [inserted 1 "a" noFaults, inserted 2 "b" noFaults] := by
    have hfirst : ∀ f ∈ (step (new 1) noFiles (inserted 1 "a" noFaults)).files,
        f = fileOf 1 ⟨"a", "succeeded", none⟩ := by decide
    have hevicts : Evicts (new 1) noFaults (step (new 1) noFiles (inserted 1 "a" noFaults)) (toLex (1, "_a.json")) := by
      decide
    refine ⟨⟨by decide, by decide, Or.inr (Or.inl (by decide))⟩, ⟨fun f hf hname => ?_, fun f hf _ => ?_, ?_⟩, trivial⟩
    · rw [hfirst f hf] at hname
      exact absurd hname (by decide)
    · rw [hfirst f hf]
      exact Or.inr (by decide)
    · exact Or.inl ⟨_, hevicts⟩
  exact ⟨by decide, (queue_sound_iff (new 1) noFiles (by decide) _).2 hguarded⟩

/-- The disk is full: the result that was to be kept is gone, and the new one is not stored. -/
theorem full_disk_loses : ¬ ∀ (q : Queue) (ops : List (Op String)) (before : List (Op String)) (op : Op String),
    before ++ [op] <+: ops → StepOk q (run (step q) noFiles before) op := by
  intro hall
  have hok := hall (new 1) [inserted 1 "a" noFaults, inserted 2 "b" fullDisk]
    [inserted 1 "a" noFaults] _ (List.prefix_refl _)
  have hsame := hok.unchanged 2 fullDisk ⟨"b", "succeeded", none⟩ .writeFile rfl (by decide)
  exact absurd (congrArg (fun d => d.files.length) hsame) (by decide)

end Tiai.ResultQueue
