import Tiai.Lib.Runs
import Tiai.Packages.Routes

/-!
# The content the files of packages share

`features/package/storage.py`, `sha_in_use` (`features/package/crud.py`), and the steps of `upload_files` and
`delete_file` between which another request may run.  A content is stored under its hash, whatever names it, and is
removed by the deletion that finds no row naming it.

* `step` — an upload stores each content, then commits the rows; a deletion commits, looks for a row, then removes;
* `named` — a row that is stored, or that an upload under way has added;
* `step_held` — a step that removes nothing named leaves every named content where it is;
* `content_kept` — so does a run, and then every stored file has its content.
-/

namespace Tiai.Packages.ContentStore

open Deploy (Bytes)
open Lib

/-! ### Overlapping requests -/

/-- A request under way. -/
inductive Task
  /-- `upload_files`: what is left to store, and the rows added so far. -/
  | upload (id : Uuid) (read : Package) (left : List Upload) (written : List PackageFile)
  /-- `delete_file`, of a row it has read. -/
  | delete (id : Uuid) (read : Package) (name sha : String)
  /-- `delete_file`, once it has committed. -/
  | check (sha : String)
  /-- `delete_file`, once it has found no row. -/
  | remove (sha : String)

/-- The committed rows, the files under `PACKAGES_DIR`, and the requests under way. -/
structure State where
  committed : Tables
  content : Store String Bytes
  running : Store ℕ Task

def State.empty : State := ⟨Tables.empty, [], []⟩

/-- One stretch of one request, up to where it waits.  A request may also end at any of them (`abort`), its transaction
rolled back. -/
inductive Event
  | create (id : Uuid) (kind : PackageKind) (payload : PackageBody)
  | upload (task : ℕ) (id : Uuid) (uploads : List Upload)
  | save (task : ℕ)
  | delete (task : ℕ) (id : Uuid) (name : String)
  | commit (task : ℕ)
  | check (task : ℕ)
  | remove (task : ℕ)
  | abort (task : ℕ)

variable (cfg : Settings)

/-- `storage.save`, of an upload that is not too large. -/
def save (content : Store String Bytes) (upload : Upload) : Store String Bytes :=
  if (content.get (hexdigest cfg upload.content)).isSome then content
  else content.put (hexdigest cfg upload.content) upload.content

/-- The upload passes the two tests that come before its last row is added. -/
def isSaved (upload : Upload) : Bool :=
  validFileName (baseName upload.filename) && upload.content.length ≤ cfg.packageMaxBytes

/-- `_SHA256`. -/
def isSha256 (sha : String) : Bool :=
  sha.length = 64 && sha.toList.all fun c => c.isDigit || ('a' ≤ c && c ≤ 'f')

/-- `remove_unreferenced`. -/
def removeUnreferenced (content : Store String Bytes) (sha : String) : Store String Bytes :=
  if isSha256 sha then content.drop (· = sha) else content

/-- `sha_in_use`. -/
def shaInUse (t : Tables) (sha : String) : Bool :=
  t.files.any fun e => (t.filesOf e.1).any (·.sha256 = sha)

/-- The package, where the request may change its files. -/
def requireFilesPackage (t : Tables) (id : Uuid) : Except Refusal Package := do
  let p ← requirePackage t id
  requireFilesKind p
  return p

/-- `delete_file` up to its deletion: the package, and the hash of the row. -/
def findFile (t : Tables) (id : Uuid) (name : String) : Except Refusal (Package × String) := do
  let p ← requireFilesPackage t id
  match (t.filesOf id).find? (·.name = name) with
  | none => .error ⟨⟨.packageNotFound, 404, "File not found"⟩, .none⟩
  | some row => return (p, row.sha256)

/-- The commit of a draft, its manifest refreshed. -/
def commitDraft (t : Tables) (id : Uuid) (read : Package) (written : List PackageFile) (deleted : Option String) :
    Except Refusal Tables := do
  let refreshed ← refreshManifest cfg read ((Draft.mk read written deleted).files (t.filesOf id))
  return (Draft.mk refreshed written deleted).commit id read t

/-- A request that starts, where its number is free. -/
def start (s : State) (task : ℕ) (t : Except Refusal Task) : State :=
  match s.running.get task, t with
  | none, .ok t => { s with running := s.running.put task t }
  | _, _ => s

/-- A request that ends. -/
def finish (s : State) (task : ℕ) : State := { s with running := s.running.drop (· = task) }

def step (s : State) : Event → State
  | .create id kind payload => { s with committed := serveStep cfg s.committed (.create id kind payload) }
  | .upload task id uploads =>
    start s task ((requireFilesPackage s.committed id).map fun p => .upload id p uploads [])
  | .delete task id name =>
    start s task ((findFile s.committed id name).map fun found => .delete id found.1 name found.2)
  | .save task =>
    match s.running.get task with
    | some (.upload id read (upload :: left) written) =>
      let content := if isSaved cfg upload then save cfg s.content upload else s.content
      match uploadFile cfg written upload with
      | .ok written => ⟨s.committed, content, s.running.put task (.upload id read left written)⟩
      | .error _ => finish { s with content := content } task
    | _ => s
  | .commit task =>
    match s.running.get task with
    | some (.upload id read [] written) =>
      match commitDraft cfg s.committed id read written none with
      | .ok t => finish { s with committed := t } task
      | .error _ => finish s task
    | some (.delete id read name sha) =>
      match commitDraft cfg s.committed id read [] (some name) with
      | .ok t => ⟨t, s.content, s.running.put task (.check sha)⟩
      | .error _ => finish s task
    | _ => s
  | .check task =>
    match s.running.get task with
    | some (.check sha) =>
      if shaInUse s.committed sha then finish s task
      else { s with running := s.running.put task (.remove sha) }
    | _ => s
  | .remove task =>
    match s.running.get task with
    | some (.remove sha) => finish { s with content := removeUnreferenced s.content sha } task
    | _ => s
  | .abort task => finish s task

/-! ### The condition -/

/-- An upload under way has added a row that names the content. -/
def Task.names (sha : String) : Task → Bool
  | .upload _ _ _ written => written.any (·.sha256 = sha)
  | _ => false

/-- A row names the content, stored or added by an upload under way. -/
def named (s : State) (sha : String) : Bool :=
  shaInUse s.committed sha || s.running.any fun e => (s.running.get e.1).any (Task.names sha)

/-- **The condition.**  What is removed is named by no row, of an upload under way included. -/
def Unnamed (s : State) : Event → Prop
  | .remove task =>
    match s.running.get task with
    | some (.remove sha) => named s sha = false
    | _ => True
  | _ => True

instance (s : State) (e : Event) : Decidable (Unnamed s e) := by
  unfold Unnamed
  split
  · split <;> infer_instance
  · infer_instance

/-- Every stored file has its content. -/
def Kept (s : State) : Prop := ∀ id, ∀ f ∈ s.committed.filesOf id, (s.content.get f.sha256).isSome

/-! ### What names a content -/

section Step

variable {cfg} {s s' : State} {t t' : Tables} {sha : String} {task : ℕ}

lemma any_get_iff {κ ν : Type} [DecidableEq κ] {st : Store κ ν} {p : ν → Bool} :
    (st.any fun e => (st.get e.1).any p) = true ↔ ∃ k v, st.get k = some v ∧ p v = true := by
  simp only [List.any_eq_true, Option.any_eq_true]
  constructor
  · rintro ⟨e, -, v, hv, hp⟩
    exact ⟨e.1, v, hv, hp⟩
  · rintro ⟨k, v, hv, hp⟩
    exact ⟨(k, v), Store.mem_of_get hv, v, hv, hp⟩

lemma shaInUse_iff : shaInUse t sha = true ↔ ∃ id, ∃ f ∈ t.filesOf id, f.sha256 = sha := by
  simp only [shaInUse, List.any_eq_true, decide_eq_true_eq]
  constructor
  · rintro ⟨e, -, f, hf, hsha⟩
    exact ⟨e.1, f, hf, hsha⟩
  · rintro ⟨id, f, hf, hsha⟩
    cases hget : t.files.get id with
    | none => simp [Tables.filesOf, hget] at hf
    | some files => exact ⟨(id, files), Store.mem_of_get hget, f, hf, hsha⟩

lemma named_iff : named s sha = true ↔ (∃ id, ∃ f ∈ s.committed.filesOf id, f.sha256 = sha) ∨
    ∃ task t, s.running.get task = some t ∧ t.names sha = true := by
  rw [named, Bool.or_eq_true, shaInUse_iff, any_get_iff]

/-- Every content that is named is there. -/
def Held (s : State) : Prop := ∀ sha, named s sha = true → (s.content.get sha).isSome

lemma Held.kept (h : Held s) : Kept s := fun id f hf => h f.sha256 (named_iff.2 (.inl ⟨id, f, hf, rfl⟩))

/-- Nothing more is named, and nothing is gone. -/
lemma Held.mono (h : Held s)
    (hrows : ∀ id, ∀ f ∈ s'.committed.filesOf id, named s f.sha256 = true)
    (htasks : ∀ task t, s'.running.get task = some t → ∀ sha, t.names sha = true → named s sha = true)
    (hcontent : ∀ sha, (s.content.get sha).isSome → (s'.content.get sha).isSome) : Held s' := by
  intro sha hsha
  refine hcontent sha (h sha ?_)
  rcases named_iff.1 hsha with ⟨id, f, hf, rfl⟩ | ⟨task, t, ht, hnames⟩
  · exact hrows id f hf
  · exact htasks task t ht sha hnames

lemma named_of_row {id : Uuid} {f : PackageFile} (hf : f ∈ s.committed.filesOf id) : named s f.sha256 = true :=
  named_iff.2 (.inl ⟨id, f, hf, rfl⟩)

lemma named_of_task {t : Task} (ht : s.running.get task = some t) (h : t.names sha = true) : named s sha = true :=
  named_iff.2 (.inr ⟨task, t, ht, h⟩)

/-! ### What one stretch does -/

lemma Held.finish (h : Held s) (task : ℕ) : Held (finish s task) := by
  refine h.mono (fun id f hf => named_of_row hf) (fun other t ht sha hsha => ?_) fun sha hsha => hsha
  rw [ContentStore.finish, Store.get_drop] at ht
  split at ht
  · cases ht
  · exact named_of_task ht hsha

lemma named_put {t : Task} {content : Store String Bytes}
    (h : named ⟨s.committed, content, s.running.put task t⟩ sha = true) : named s sha = true ∨ t.names sha = true := by
  rcases named_iff.1 h with ⟨id, f, hf, rfl⟩ | ⟨other, t', ht', hsha⟩
  · exact .inl (named_of_row hf)
  · rw [Store.get_put] at ht'
    split at ht'
    · obtain rfl := Option.some.inj ht'
      exact .inr hsha
    · exact .inl (named_of_task ht' hsha)

lemma Held.put (h : Held s) {t : Task} (ht : ∀ sha, t.names sha = true → named s sha = true) :
    Held { s with running := s.running.put task t } := fun sha hsha =>
  h sha ((named_put hsha).elim id (ht sha))

lemma Held.start (h : Held s) {r : Except Refusal Task} (hr : ∀ t, r = .ok t → ∀ sha, t.names sha = false) :
    Held (start s task r) := by
  unfold ContentStore.start
  split
  · rename_i t _
    exact h.put fun sha hsha => by simp [hr t rfl sha] at hsha
  · exact h

/-- A commit stores the rows the request has added, and no other. -/
lemma commitDraft_ok {id : Uuid} {read : Package} {written : List PackageFile} {deleted : Option String}
    (h : commitDraft cfg t id read written deleted = .ok t') (other : Uuid) :
    ∀ f ∈ t'.filesOf other, f ∈ t.filesOf other ∨ f ∈ written := by
  obtain ⟨refreshed, -, h⟩ := bind_eq_ok h
  obtain rfl := Except.ok.inj h
  intro f hf
  unfold Draft.commit at hf
  split at hf
  · exact .inl hf
  · simp only [Tables.filesOf, Store.get_put] at hf
    split at hf
    · rename_i hother
      subst hother
      simp only [Option.getD_some, Draft.files, List.mem_append, List.mem_filter] at hf
      exact hf.imp_left And.left
    · exact .inl hf

lemma Held.commit (h : Held s) {id : Uuid} {read : Package} {written : List PackageFile} {deleted : Option String}
    (hc : commitDraft cfg s.committed id read written deleted = .ok t)
    (hwritten : ∀ f ∈ written, named s f.sha256 = true) : Held { s with committed := t } := by
  refine h.mono (fun other f hf => ?_) (fun other t' ht' sha hsha => named_of_task ht' hsha) fun sha hsha => hsha
  rcases commitDraft_ok hc other f hf with hf | hf
  · exact named_of_row hf
  · exact hwritten f hf

/-- A new package has no file. -/
lemma serveStep_create_filesOf (t : Tables) (id : Uuid) (kind : PackageKind) (payload : PackageBody) (other : Uuid) :
    (serveStep cfg t (.create id kind payload)).filesOf other = t.filesOf other := by
  unfold serveStep
  split
  · rename_i t' ht
    obtain ⟨p, -, ht⟩ := bind_eq_ok ht
    split at ht
    · cases ht
    · obtain rfl := Except.ok.inj ht
      rfl
  · rfl

lemma isSome_save (content : Store String Bytes) (upload : Upload) (sha : String)
    (h : (content.get sha).isSome ∨ sha = hexdigest cfg upload.content) :
    ((save cfg content upload).get sha).isSome := by
  unfold save
  split
  · rename_i hthere
    rcases h with h | rfl
    · exact h
    · exact hthere
  · rw [Store.get_put]
    split
    · rfl
    · rename_i hne
      exact h.resolve_right hne

lemma uploadFile_ok {written written' : List PackageFile} {upload : Upload}
    (h : uploadFile cfg written upload = .ok written') :
    isSaved cfg upload = true ∧ ∀ f ∈ written', f ∈ written ∨ f.sha256 = hexdigest cfg upload.content := by
  unfold uploadFile at h
  split_ifs at h with hname hsize hwidth
  obtain rfl := Except.ok.inj h
  refine ⟨?_, fun f hf => ?_⟩
  · simp only [isSaved, Bool.and_eq_true, decide_eq_true_eq]
    exact ⟨by simpa using hname, not_lt.1 hsize⟩
  · rcases List.mem_append.1 hf with hf | hf
    · exact .inl (List.mem_filter.1 hf).1
    · obtain rfl := List.mem_singleton.1 hf
      exact .inr rfl

/-- **What one step keeps.** -/
theorem step_held {e : Event} (h : Held s) (hg : Unnamed s e) : Held (step cfg s e) := by
  cases e with
  | create id kind payload =>
    refine h.mono (fun other f hf => ?_) (fun other t ht sha hsha => named_of_task ht hsha) fun sha hsha => hsha
    rw [step, serveStep_create_filesOf] at hf
    exact named_of_row hf
  | upload task id uploads =>
    refine h.start fun t ht sha => ?_
    cases hp : requireFilesPackage s.committed id with
    | error _ => rw [hp] at ht; cases ht
    | ok p => rw [hp] at ht; cases ht; rfl
  | delete task id name =>
    refine h.start fun t ht sha => ?_
    cases hp : findFile s.committed id name with
    | error _ => rw [hp] at ht; cases ht
    | ok found => rw [hp] at ht; cases ht; rfl
  | save task =>
    simp only [step]
    split
    · rename_i id read upload left written htask
      split
      · rename_i written' hwritten
        obtain ⟨hsaved, hrows⟩ := uploadFile_ok hwritten
        rw [if_pos hsaved]
        intro sha hsha
        refine isSome_save s.content upload sha ?_
        rcases named_put hsha with hold | hnew
        · exact .inl (h sha hold)
        · obtain ⟨f, hf, rfl⟩ : ∃ f ∈ written', f.sha256 = sha := by simpa [Task.names] using hnew
          refine (hrows f hf).imp_left fun hf => h _ (named_of_task htask ?_)
          simpa [Task.names] using ⟨f, hf, rfl⟩
      · -- whatever it has stored stays
        refine Held.finish ?_ task
        refine h.mono (fun other f hf => named_of_row hf) (fun other t ht sha hsha => named_of_task ht hsha) ?_
        intro sha hsha
        split
        · exact isSome_save s.content upload sha (.inl hsha)
        · exact hsha
    · exact h
  | commit task =>
    simp only [step]
    split
    · rename_i id read written htask
      split
      · rename_i t hc
        refine (h.commit hc fun f hf => named_of_task htask ?_).finish task
        simpa [Task.names] using ⟨f, hf, rfl⟩
      · exact h.finish task
    · rename_i id read name sha htask
      split
      · rename_i t hc
        exact (h.commit hc (by simp)).put fun sha hsha => by cases hsha
      · exact h.finish task
    · exact h
  | check task =>
    simp only [step]
    split
    · split
      · exact h.finish task
      · exact h.put fun sha hsha => by cases hsha
    · exact h
  | remove task =>
    simp only [step]
    split
    · rename_i sha htask
      rw [Unnamed, htask] at hg
      refine Held.finish (fun other hother => ?_) task
      have hne : other ≠ sha := by
        rintro rfl
        cases hg.symm.trans hother
      have hthere : (s.content.get other).isSome := h other hother
      change ((removeUnreferenced s.content sha).get other).isSome
      unfold removeUnreferenced
      split
      · rw [Store.get_drop, if_neg (by simpa using hne)]
        exact hthere
      · exact hthere
    · exact h
  | abort task => exact h.finish task

end Step

/-- **No stored file loses its content** in a run that removes nothing a row names, of an upload under way included. -/
theorem content_kept (cfg : Settings) (events : List Event) (hg : Guarded (step cfg) Unnamed State.empty events) :
    ∀ reached, reached <+: events → Kept (run (step cfg) State.empty reached) := by
  rintro reached ⟨rest, rfl⟩
  have hempty : Held State.empty := fun sha h => by cases h
  exact ((Guarded.append_iff.1 hg).1.invariant (fun s e hg hs => step_held hs hg) hempty).kept

/-! ### One content, two packages -/

/-- An upload of the empty file, stored for one of two packages. -/
def sharing : List Event :=
  [.create 1 .files { PackageBody.empty with name := some (some "PRONOTE") },
    .create 2 .files { PackageBody.empty with name := some (some "PRONOTE client") },
    .upload 0 1 [⟨some "setup.exe", []⟩], .save 0, .commit 0]

/-- It is deleted, and then uploaded for the other. -/
def inTurn : List Event :=
  sharing ++ [.delete 1 1 "setup.exe", .commit 1, .check 1, .remove 1,
    .upload 2 2 [⟨some "setup.exe", []⟩], .save 2, .commit 2]

/-- It is deleted while it is uploaded for the other. -/
def overlapping : List Event :=
  sharing ++ [.delete 1 1 "setup.exe", .upload 2 2 [⟨some "setup.exe", []⟩], .save 2, .commit 1, .check 1, .remove 1,
    .commit 2]

theorem content_kept_inTurn : Kept (run (step Settings.standard) State.empty inTurn) := by
  have hg : Guarded (step Settings.standard) Unnamed State.empty inTurn := by decide +kernel
  exact content_kept Settings.standard inTurn hg inTurn (List.prefix_refl inTurn)

/-- **The content of a file that is being added is removed**, since no row names it yet. -/
theorem content_lost : ¬∀ cfg events, ∀ reached, reached <+: events → Kept (run (step cfg) State.empty reached) := by
  intro h
  have hkept := h Settings.standard overlapping overlapping (List.prefix_refl overlapping)
  have hfile : ⟨"setup.exe", hexdigest Settings.standard [], 0⟩ ∈
      (run (step Settings.standard) State.empty overlapping).committed.filesOf 2 := by decide +kernel
  have hgone : ((run (step Settings.standard) State.empty overlapping).content.get
      (hexdigest Settings.standard [])).isSome = false := by decide +kernel
  have hthere := hkept 2 _ hfile
  rw [hgone] at hthere
  cases hthere

end Tiai.Packages.ContentStore
