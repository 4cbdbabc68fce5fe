import Tiai.Lib.Action
import Tiai.Lib.Store
import Tiai.Command.Model
import Tiai.Deploy.Manifest

/-!
# The world an agent runs in

The files of the poste, the programs the agent starts, and what everything else answers: the server, the
disk, the clock.  The answers are functions of the number of the call, so that one `Answers` is one
behaviour of the world, however hostile.

* `Answers`, `World`, `Act` — the world, and what runs in it;
* `openFile`, `remove`, `rename`, … — the calls of `os` that write;
* `Stable` — an invariant that no call breaks while it writes where `F` holds.

Folders are not files: making one changes nothing here.  What a program does once started is its own.
-/

namespace Tiai.Deploy

open Tiai.Lib

/-! ### Data -/

/-- The calls of `os` that can fail. -/
inductive FileCall
  | mkdirAll
  | openFile
  | stat
  | seek
  | read
  | truncate
  | write
  | rename
  | readDir
  deriving DecidableEq, Repr

/-- What the server answers to a request for a file. -/
structure Reply where
  status : ℕ
  retryAfter : Option ℤ
  /-- What arrives of the body, and reaches the disk. -/
  body : Bytes
  /-- The body as an error prints it. -/
  text : String
  /-- What cut the transfer short. -/
  cut : Option String

/-- `time.Format("20060102-150405.000000")`: digits, a dash and a dot. -/
def Stamp : Type := {s : String // ∀ c ∈ s.toList, isDigit c = true ∨ c = '-' ∨ c = '.'}

/-- `Item`. -/
structure Item where
  commandID : String
  result : CommandResult
  createdAt : Stamp

/-- What the world answers; the number is that of the call. -/
structure Answers where
  file : FileCall → ℕ → Option String
  /-- How much of a content a failed write leaves. -/
  short : ℕ → ℕ
  /-- What a removal really removes. -/
  removes : ℕ → Path → Bool
  /-- `http.NewRequestWithContext`. -/
  request : ℕ → Option String
  reply : ℕ → Except String Reply
  sleep : ℕ → ℤ → Option String
  /-- `Env.Run`. -/
  run : ℕ → Except String ℤ
  /-- `power.pending`. -/
  pending : ℕ → Option String
  clock : ℕ → Stamp
  /-- `json.Marshal`, of a queued item. -/
  marshal : Item → Except String Bytes
  /-- `PostResult`. -/
  post : ℕ → CommandResult → Option String

/-- A program the agent started, and the files there were then. -/
structure Launch where
  exe : Path
  args : List String
  dir : Path
  files : Store Path Bytes
  deriving DecidableEq

structure World where
  files : Store Path Bytes
  launched : List Launch
  calls : ℕ

abbrev Act := Action World String

/-! ### Calls -/

section Calls

variable {ε α : Type} (ans : Answers)

def ask (f : ℕ → α) : Action World ε α := fun w => (.ok (f w.calls), { w with calls := w.calls + 1 })

def fileCall (call : FileCall) : Act Unit := do
  match ← ask (ans.file call) with
  | none => pure ()
  | some e => .fail e

def content (p : Path) : Action World ε Bytes := do
  let w ← Action.get
  return (w.files.get p).getD []

def setContent (p : Path) (b : Bytes) : Action World ε Unit :=
  .modify fun w => { w with files := w.files.put p b }

/-- `os.OpenFile` with `O_CREATE`; the answer is what is there. -/
def openFile (p : Path) : Act Bytes := do
  fileCall ans .openFile
  let b ← content p
  setContent p b
  return b

def truncate (p : Path) : Act Unit := do
  fileCall ans .truncate
  setContent p []

/-- `os.WriteFile`. -/
def writeFile (p : Path) (b : Bytes) : Act Unit := do
  fileCall ans .openFile
  let kept ← ask ans.short
  setContent p (b.take kept)
  fileCall ans .write
  setContent p b

/-- `os.Remove` or `os.RemoveAll`, of the files `p` selects; its error is ignored everywhere. -/
def remove (p : Path → Bool) : Act Unit := do
  let gone ← ask ans.removes
  .modify fun w => { w with files := w.files.drop fun q => p q && gone q }

/-- `os.Rename`. -/
def rename (p q : Path) : Act Unit := do
  fileCall ans .rename
  let b ← content p
  .modify fun w => { w with files := w.files.drop (· = p) }
  setContent q b

/-- Strictly under a folder. -/
def isBelow (folder p : Path) : Bool := folder.isPrefixOf p && folder.length < p.length

lemma isBelow_iff {folder p : Path} : isBelow folder p = true ↔ Below folder p := by
  unfold isBelow Below
  rw [Bool.and_eq_true, List.isPrefixOf_iff_prefix, decide_eq_true_iff]
  constructor
  · rintro ⟨⟨t, rfl⟩, hlt⟩
    cases t with
    | nil => simp at hlt
    | cons c rest => exact ⟨c, rest, rfl⟩
  · rintro ⟨c, rest, rfl⟩
    exact ⟨⟨_, rfl⟩, by simp⟩

end Calls

/-! ### What no call breaks -/

/-- The world can take a file away from its path. -/
def Answers.Loses (ans : Answers) (p : Path) : Prop :=
  ∃ n, ans.removes n p = true ∨ ans.file .rename n = none

/-- An invariant that no call breaks, as long as it writes only where `F` holds. -/
structure Stable (ans : Answers) (F : Path → Prop) (I : World → Prop) : Prop where
  call : ∀ w, I w → I { w with calls := w.calls + 1 }
  put : ∀ w p b, F p → I w → I { w with files := w.files.put p b }
  drop : ∀ w (q : Path → Bool), (∀ p, q p = true → F p ∧ ans.Loses p) → I w →
    I { w with files := w.files.drop q }

namespace Stable

variable {ε α : Type} {ans : Answers} {F F' : Path → Prop} {I : World → Prop} {p : Path}

lemma mono (h : Stable ans F I) (hF : ∀ p, F' p → F p) : Stable ans F' I where
  call := h.call
  put := fun w p b hp => h.put w p b (hF p hp)
  drop := fun w q hq => h.drop w q fun p hp => ⟨hF p (hq p hp).1, (hq p hp).2⟩

/-- What writes nothing only counts its calls. -/
lemma quiet (h : ∀ w, I w → I { w with calls := w.calls + 1 }) : Stable ans (fun _ => False) I where
  call := h
  put := fun _ _ _ hp => hp.elim
  drop := by
    intro w q hq hw
    have hnone : w.files.drop q = w.files :=
      List.filter_eq_self.2 fun e _ => by simpa using fun hp => (hq e.1 hp).1
    rw [hnone]
    exact hw

lemma ask (h : Stable ans F I) (f : ℕ → α) : Keeps I (ask f : Action World ε α) := h.call

lemma fileCall (h : Stable ans F I) (call : FileCall) : Keeps I (fileCall ans call) := by
  refine (h.ask _).bind fun e => ?_
  cases e with
  | none => exact .ret ()
  | some e => exact .fail e

lemma content : Keeps I (content p : Action World ε Bytes) := Keeps.get.bind fun _ => .ret _

lemma setContent (h : Stable ans F I) (hp : F p) (b : Bytes) :
    Keeps I (setContent p b : Action World ε Unit) := Keeps.modify fun w => h.put w p b hp

lemma openFile (h : Stable ans F I) (hp : F p) : Keeps I (openFile ans p) :=
  (h.fileCall _).bind fun _ => content.bind fun b => (h.setContent hp b).bind fun _ => .ret b

lemma truncate (h : Stable ans F I) (hp : F p) : Keeps I (truncate ans p) :=
  (h.fileCall _).bind fun _ => h.setContent hp _

lemma writeFile (h : Stable ans F I) (hp : F p) (b : Bytes) : Keeps I (writeFile ans p b) :=
  (h.fileCall _).bind fun _ => (h.ask _).bind fun _ => (h.setContent hp _).bind fun _ =>
    (h.fileCall _).bind fun _ => h.setContent hp _

lemma remove (h : Stable ans F I) {q : Path → Bool} (hq : ∀ p, q p = true → F p) :
    Keeps I (remove ans q) := by
  -- The number of the call is still at hand when its answer is.
  intro w hw
  refine h.drop _ _ (fun p hp => ?_) (h.call w hw)
  rw [Bool.and_eq_true] at hp
  exact ⟨hq p hp.1, w.calls, .inl hp.2⟩

/-- A call that succeeds is one the world lets succeed. -/
lemma fileCall_ok (h : Stable ans F I) (call : FileCall) :
    Triple I (Deploy.fileCall ans call) (fun _ w => I w ∧ ∃ n, ans.file call n = none)
      fun _ => I := by
  refine Triple.bind (Q := fun e w => I w ∧ ∃ n, ans.file call n = e)
    (fun w hw => ⟨h.call w hw, w.calls, rfl⟩) fun e => ?_
  cases e with
  | none => exact Triple.ret fun _ hw => hw
  | some e => exact Triple.fail fun _ hw => hw.1

lemma rename {q : Path} (h : Stable ans F I) (hp : F p) (hq : F q) : Keeps I (rename ans p q) := by
  refine Triple.bind (h.fileCall_ok .rename) fun _ => ?_
  refine Triple.bind (Q := fun _ w => I w ∧ ∃ n, ans.file .rename n = none)
    (Triple.bind (Triple.get fun _ hw => hw) fun _ => Triple.ret fun _ hw => hw) fun b => ?_
  refine Triple.bind (Triple.modify fun w hw => ?_) fun _ => h.setContent hq b
  obtain ⟨hI, n, hn⟩ := hw
  refine h.drop w _ (fun k hk => ?_) hI
  obtain rfl : k = p := by simpa using hk
  exact ⟨hp, n, .inr hn⟩

end Stable

end Tiai.Deploy
