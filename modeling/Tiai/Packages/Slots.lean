import Tiai.Lib.Runs
import Tiai.Command.Model
import Tiai.Packages.Model

/-!
# The slots of downloads

`download_package_file` of `api/routes/agent.py`, which counts the downloads in progress in a variable of the
process.  What a response does once it is returned is Starlette's `FileResponse`: it sends the file, or answers
a `Range` that it does not honour with another response, and runs its background task when it has sent a response
of its own to the end.

* `downloadPackageFile`, `releaseDownload` — the request, and the task;
* `State`, `step` — the process: requests, responses that end, and responses that are cut;
* `lost_step` — the slots that nothing gives back;
* `slots_kept_iff` — when the count is the count of responses being sent.
-/

namespace Tiai.Downloads

open Lib
open Packages (PackageFile)

/-! ### The request -/

/-- `PACKAGE_MAX_CONCURRENT_DOWNLOADS`, between the bounds of its field. -/
structure Settings where
  packageMaxConcurrentDownloads : ℕ
  ge : 1 ≤ packageMaxConcurrentDownloads
  le : packageMaxConcurrentDownloads ≤ 500

structure Request where
  machineId : Uuid
  packageId : Uuid
  sha256 : String
  /-- The header `Range`. -/
  range : Option String

/-- What a request reads: the commands, the files of packages, and the size of what the store has. -/
structure Db where
  commands : List Command
  files : List (Uuid × PackageFile)
  stored : String → Option ℕ

/-- A `FileResponse`, with the header it will look at. -/
structure FileResponse where
  path : String
  size : ℕ
  filename : String
  range : Option String

def notFound : AppError := ⟨.packageNotFound, 404, "Not found"⟩

def rateLimited : AppError := ⟨.rateLimited, 429, "Too many downloads in progress"⟩

/-- The poste has been told to fetch the package, and has not reported the end of it. -/
def openCommand (db : Db) (req : Request) : Bool :=
  db.commands.any fun c =>
    c.machineId = req.machineId && c.packageId = some req.packageId &&
      c.status ∈ [CommandStatus.delivered, CommandStatus.running]

/-- The file of that hash, in the package and in the store. -/
def fileOf (db : Db) (req : Request) : Option (PackageFile × ℕ) := do
  let row ← db.files.find? fun row => row.1 = req.packageId && row.2.sha256 = req.sha256
  let size ← db.stored row.2.sha256
  return (row.2, size)

/-- `download_package_file`, with `_downloads_in_flight` before and after. -/
def downloadPackageFile (cfg : Settings) (inFlight : ℕ) (db : Db) (req : Request) :
    Except AppError (FileResponse × ℕ) :=
  if openCommand db req then
    match fileOf db req with
    | none => .error notFound
    | some (row, size) =>
      if inFlight ≥ cfg.packageMaxConcurrentDownloads then .error rateLimited
      else .ok (⟨row.sha256, size, row.name, req.range⟩, inFlight + 1)
  else .error notFound

/-- `_release_download`. -/
def releaseDownload (inFlight : ℕ) : ℕ := max 0 (inFlight - 1)

/-! ### The process -/

/-- The variable of the process, and the responses that it is sending. -/
structure State where
  inFlight : ℕ
  sending : List ℕ
  next : ℕ
  deriving DecidableEq

def State.initial : State := ⟨0, [], 0⟩

/-- A request past its queries, the end of a response, or an exception while sending it. -/
inductive Event
  | request (db : Db) (req : Request)
  | sent (response : ℕ)
  | cut (response : ℕ)

section Process

variable (cfg : Settings) (honoured : Option String → ℕ → Bool)

/-- A response is taken up: it sends the file, or hands a `Range` it does not honour to another response. -/
def State.take (s : State) (response : FileResponse) : State :=
  if honoured response.range response.size then { s with sending := s.sending ++ [s.next], next := s.next + 1 }
  else s

def step (s : State) : Event → State
  | .request db req =>
    match downloadPackageFile cfg s.inFlight db req with
    | .error _ => s
    | .ok (response, inFlight) => { s with inFlight }.take honoured response
  | .sent response =>
    if response ∈ s.sending then
      { s with sending := s.sending.erase response, inFlight := releaseDownload s.inFlight }
    else s
  | .cut response => if response ∈ s.sending then { s with sending := s.sending.erase response } else s

/-- A request that is let in with a `Range` that is not honoured, or a response that is cut. -/
def leaks (s : State) : Event → Bool
  | .request db req =>
    openCommand db req && s.inFlight < cfg.packageMaxConcurrentDownloads &&
      (fileOf db req).any fun file => !honoured req.range file.2
  | .sent _ => false
  | .cut response => response ∈ s.sending

/-- The count is that of the responses being sent, and with none nobody is sent away. -/
def Exact (s : State) : Prop :=
  s.inFlight = s.sending.length ∧
    (s.sending = [] → ∀ db req, downloadPackageFile cfg s.inFlight db req ≠ .error rateLimited)

end Process

/-! ### What is lost -/

section Lost

variable {cfg : Settings} {honoured : Option String → ℕ → Bool} {s : State}

/-- The slots that nothing will give back. -/
def lost (s : State) : ℕ := s.inFlight - s.sending.length

structure Inv (s : State) : Prop where
  nodup : s.sending.Nodup
  below : ∀ i ∈ s.sending, i < s.next
  counted : s.sending.length ≤ s.inFlight

/-- What a step can do, and whether it leaks. -/
inductive Outcome (s : State) : State → Bool → Prop
  | stays : Outcome s s false
  | taken : Outcome s ⟨s.inFlight + 1, s.sending ++ [s.next], s.next + 1⟩ false
  | refused : Outcome s ⟨s.inFlight + 1, s.sending, s.next⟩ true
  | sent (i : ℕ) (hi : i ∈ s.sending) : Outcome s ⟨s.inFlight - 1, s.sending.erase i, s.next⟩ false
  | cut (i : ℕ) (hi : i ∈ s.sending) : Outcome s ⟨s.inFlight, s.sending.erase i, s.next⟩ true

lemma request_outcome (db : Db) (req : Request) :
    Outcome s (step cfg honoured s (.request db req)) (leaks cfg honoured s (.request db req)) := by
  simp only [step, leaks, downloadPackageFile]
  cases openCommand db req with
  | false => exact .stays
  | true =>
    cases fileOf db req with
    | none => simpa using Outcome.stays
    | some file =>
      obtain ⟨row, size⟩ := file
      by_cases hfull : s.inFlight ≥ cfg.packageMaxConcurrentDownloads
      · simpa [hfull, Nat.not_lt.2 hfull] using Outcome.stays
      · cases hrange : honoured req.range size with
        | true => simpa [hfull, Nat.lt_of_not_le hfull, State.take, hrange] using Outcome.taken
        | false => simpa [hfull, Nat.lt_of_not_le hfull, State.take, hrange] using Outcome.refused

lemma step_outcome (s : State) (e : Event) : Outcome s (step cfg honoured s e) (leaks cfg honoured s e) := by
  cases e with
  | request db req => exact request_outcome db req
  | sent i =>
    simp only [step, leaks]
    split
    · rename_i hi
      simpa [releaseDownload] using Outcome.sent i hi
    · exact .stays
  | cut i =>
    simp only [step, leaks]
    split
    · rename_i hi
      simpa [hi] using Outcome.cut i hi
    · rename_i hi
      simpa [hi] using Outcome.stays

lemma Outcome.inv {s' : State} {leaked : Bool} (h : Outcome s s' leaked) (hs : Inv s) : Inv s' := by
  have hcounted := hs.counted
  cases h with
  | stays => exact hs
  | taken =>
    refine ⟨?_, fun i hi => ?_, ?_⟩
    · rw [List.nodup_append]
      refine ⟨hs.nodup, List.nodup_singleton _, fun i hi j hj => ?_⟩
      rw [List.mem_singleton.1 hj]
      exact Nat.ne_of_lt (hs.below i hi)
    · rcases List.mem_append.1 hi with hi | hi
      · exact Nat.lt_succ_of_lt (hs.below i hi)
      · rw [List.mem_singleton.1 hi]
        exact Nat.lt_succ_self _
    · rw [List.length_append, List.length_singleton]
      exact Nat.succ_le_succ hcounted
  | refused => exact ⟨hs.nodup, hs.below, Nat.le_succ_of_le hcounted⟩
  | sent i hi =>
    refine ⟨hs.nodup.erase i, fun j hj => hs.below j (List.mem_of_mem_erase hj), ?_⟩
    rw [List.length_erase_of_mem hi]
    exact Nat.sub_le_sub_right hcounted 1
  | cut i hi =>
    refine ⟨hs.nodup.erase i, fun j hj => hs.below j (List.mem_of_mem_erase hj), ?_⟩
    rw [List.length_erase_of_mem hi]
    exact (Nat.sub_le _ 1).trans hcounted

/-- A leak is a slot lost, and nothing else is. -/
lemma Outcome.lost {s' : State} {leaked : Bool} (h : Outcome s s' leaked) (hs : Inv s) :
    lost s' = lost s + leaked.toNat := by
  have hcounted := hs.counted
  unfold Downloads.lost
  cases h with
  | stays => rfl
  | taken =>
    simp only [List.length_append, List.length_singleton, Bool.toNat_false]
    omega
  | refused =>
    simp only [Bool.toNat_true]
    omega
  | sent i hi =>
    have hpos := List.length_pos_of_mem hi
    simp only [List.length_erase_of_mem hi, Bool.toNat_false]
    omega
  | cut i hi =>
    have hpos := List.length_pos_of_mem hi
    simp only [List.length_erase_of_mem hi, Bool.toNat_true]
    omega

variable (cfg honoured)

lemma step_inv (s : State) (e : Event) (h : Inv s) : Inv (step cfg honoured s e) := (step_outcome s e).inv h

/-- **What a step loses**: a slot if it leaks, and nothing else. -/
theorem lost_step (s : State) (e : Event) (h : Inv s) :
    lost (step cfg honoured s e) = lost s + (leaks cfg honoured s e).toNat := (step_outcome s e).lost h

/-- What is lost stays lost. -/
theorem lost_run (h : Inv s) (events : List Event) : lost s ≤ lost (run (step cfg honoured) s events) := by
  induction events generalizing s with
  | nil => exact Nat.le_refl _
  | cons e events ih =>
    have hstep := lost_step cfg honoured s e h
    have hrest := ih (step_inv cfg honoured s e h)
    rw [run_cons]
    omega

variable {cfg honoured}

lemma exact_iff (h : Inv s) : Exact cfg s ↔ lost s = 0 := by
  have hcounted := h.counted
  unfold Exact lost
  constructor
  · rintro ⟨heq, -⟩
    omega
  · intro hlost
    have heq : s.inFlight = s.sending.length := by omega
    refine ⟨heq, fun hnone db req hlimited => ?_⟩
    have hzero : s.inFlight = 0 := by rw [heq, hnone, List.length_nil]
    have hge := cfg.ge
    unfold downloadPackageFile at hlimited
    rw [hzero] at hlimited
    split at hlimited
    · split at hlimited
      · cases hlimited
      · rw [if_neg (by omega)] at hlimited
        cases hlimited
    · cases hlimited

end Lost

/-- Resuming a file that is complete. -/
def resumed : Request := ⟨10, 100, "ab", some "bytes=5-"⟩

/-- A download of it all. -/
def whole : Request := ⟨10, 100, "ab", none⟩

end Tiai.Downloads
