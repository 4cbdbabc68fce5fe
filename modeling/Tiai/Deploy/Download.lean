import Tiai.Deploy.World

/-!
# Downloading a file of a package

`internal/deploy/download.go`, and the client's `FetchPackageFile`.

* `download_keeps` — a download writes at its destination only;
* `download_spec` — and, when it succeeds, leaves there what the manifest names.
-/

namespace Tiai.Deploy

open Tiai.Lib

/-! ### The code -/

/-- How a fetch fails: a `RetryLater`, or for good. -/
inductive FetchError
  | later (wait : ℤ) (err : String)
  | fatal (err : String)

section Code

variable (host : Host) (ans : Answers)

/-- `hashMatches`. -/
def hashMatches (path : Path) (f : FileRef) : Act Bool := do
  match ← (fileCall ans .openFile).attempt with
  | .error _ => return false
  | .ok () =>
    let w ← Action.get
    match w.files.get path with
    | none => return false
    | some b =>
      match ← (fileCall ans .stat).attempt with
      | .error _ => return false
      | .ok () =>
        if (b.length : ℤ) ≠ f.size then return false
        else do
          fileCall ans .read
          return hexEncode (host.sha256 b) = f.sha256

def fatal {α : Type} (x : Act α) : Action World FetchError α := x.mapError .fatal

/-- `io.Copy` of what arrives of a body. -/
def copyBody (dest : Path) (r : Reply) : Action World FetchError Unit := do
  let b ← content dest
  setContent dest (b ++ r.body)
  match r.cut with
  | none => pure ()
  | some e => .fail (.later 0 ("transfert interrompu : " ++ e))

/-- `Client.FetchPackageFile`. -/
def fetchPackageFile (packageID sha256 : String) (offset : ℕ) (dest : Path) :
    Action World FetchError Unit := do
  let path := "/api/v1/agent/packages/" ++ host.go.pathEscape packageID ++ "/files/" ++
    host.go.pathEscape sha256
  match ← ask ans.request with
  | some e => .fail (.fatal ("build request: " ++ e))
  | none =>
    match ← ask ans.reply with
    | .error e => .fail (.later 0 ("GET " ++ path ++ ": " ++ e))
    | .ok r =>
      if r.status = 200 then
        -- The whole file, range or not.
        if 0 < offset then do
          fatal (truncate ans dest)
          fatal (fileCall ans .seek)
          copyBody dest r
        else copyBody dest r
      else if r.status = 206 ∧ 0 < offset then copyBody dest r
      else if r.status = 416 then do
        fatal (truncate ans dest)
        .fail (.later 1 "reprise refusée, nouveau départ")
      else if r.status = 429 ∨ 500 ≤ r.status then
        .fail (.later (match r.retryAfter with
          | some s => if 0 < s then s else 60
          | none => 60) ("serveur occupé (" ++ toString r.status ++ ")"))
      else .fail (.fatal ("GET " ++ path ++ ": status " ++ toString r.status ++ ": " ++ r.text))

/-- Where `fetchOnce` resumes: a file longer than it should ever be starts over. -/
def resumeOffset (f : FileRef) (dest : Path) (b : Bytes) : Action World FetchError ℕ :=
  if f.size < b.length then do
    fatal (truncate ans dest)
    return 0
  else return b.length

/-- `fetchOnce`, once the file is open on `b`. -/
def fetchOpened (packageID : String) (f : FileRef) (dest : Path) (b : Bytes) :
    Action World FetchError Unit := do
  fatal (fileCall ans .stat)
  let offset ← resumeOffset ans f dest b
  if (offset : ℤ) = f.size then pure ()
  else do
    fatal (fileCall ans .seek)
    fetchPackageFile host ans packageID f.sha256 offset dest
    fatal (fileCall ans .stat)
    let b ← content dest
    if (b.length : ℤ) ≠ f.size then
      .fail (.later 0
        ("transfert incomplet (" ++ toString b.length ++ "/" ++ toString f.size ++ " octets)"))
    else pure ()

/-- `fetchOnce`. -/
def fetchOnce (packageID : String) (f : FileRef) (dest : Path) : Action World FetchError Unit := do
  let b ← fatal (openFile ans dest)
  fetchOpened host ans packageID f dest b

/-- `downloadAttempts`. -/
def downloadAttempts : ℕ := 20

/-- The loop of `Download`, with `left` attempts after this one; `backoff` is in seconds. -/
def downloadLoop (packageID : String) (f : FileRef) (dest : Path) (left : ℕ) (backoff : ℤ) :
    Act Unit := do
  match ← (fetchOnce host ans packageID f dest).attempt with
  | .ok () => pure ()
  | .error (.fatal e) => .fail e
  | .error (.later wait e) =>
    match left with
    | 0 => .fail e
    | left + 1 =>
      match ← ask fun n => ans.sleep n (if wait ≤ 0 then backoff else wait) with
      | some e => .fail e
      | none =>
        downloadLoop packageID f dest left (if wait ≤ 0 then min (backoff * 2) 300 else backoff)

/-- What `Download` does when the file is not there yet. -/
def fetchAndCheck (packageID : String) (f : FileRef) (dest : Path) : Act Unit := do
  downloadLoop host ans packageID f dest (downloadAttempts - 1) 5
  if ← hashMatches host ans dest f then pure ()
  else do
    remove ans (· = dest)
    .fail "empreinte SHA-256 différente de celle du manifeste : fichier rejeté"

/-- `Download`. -/
def download (packageID : String) (f : FileRef) (dest : Path) : Act Unit := do
  match ← (hashMatches host ans dest f).attempt with
  | .ok true => pure ()
  | _ => fetchAndCheck host ans packageID f dest

end Code

/-! ### What a download writes -/

/-- What is at `path` has the size and the hash the manifest names. -/
def Holds (host : Host) (f : FileRef) (path : Path) (files : Store Path Bytes) : Prop :=
  ∃ b, files.get path = some b ∧ (b.length : ℤ) = f.size ∧ hexEncode (host.sha256 b) = f.sha256

section Frame

variable {host : Host} {ans : Answers} {F : Path → Prop} {I : World → Prop} {dest : Path}
  {packageID : String} {f : FileRef}

lemma fatal_keeps {α : Type} {x : Act α} (h : Keeps I x) : Keeps I (fatal x) := h.mapError

/-- The answer is about what is still there. -/
lemma hashMatches_spec (hI : Stable ans F I) :
    Triple I (hashMatches host ans dest f)
      (fun ok w => I w ∧ (ok = true → Holds host f dest w.files)) fun _ => I := by
  have hno : ∀ w, I w → I w ∧ (false = true → Holds host f dest w.files) :=
    fun w hw => ⟨hw, fun h => by cases h⟩
  refine Triple.bind (Keeps.attempt (hI.fileCall _)) fun r => ?_
  rcases r with _ | _
  · exact Triple.ret hno
  refine Triple.bind (Q := fun w₀ w => I w ∧ w.files = w₀.files)
    (Triple.get fun _ hw => ⟨hw, rfl⟩) fun w₀ => ?_
  cases hb : w₀.files.get dest with
  | none => exact Triple.ret fun w hw => hno w hw.1
  | some b =>
    have hJ : Stable ans (fun _ => False) fun w => I w ∧ w.files = w₀.files :=
      .quiet fun w hw => ⟨hI.call w hw.1, hw.2⟩
    refine Triple.conseq (E := fun _ w => I w ∧ w.files = w₀.files) ?_ (fun _ h => h)
      (fun _ _ h => h) fun _ _ h => h.1
    refine Triple.bind (Keeps.attempt (hJ.fileCall _)) fun r => ?_
    rcases r with _ | _
    · exact Triple.ret fun w hw => hno w hw.1
    refine Triple.ite (fun _ => Triple.ret fun w hw => hno w hw.1) fun hsize => ?_
    refine Triple.bind (hJ.fileCall _) fun _ => Triple.ret fun w hw => ⟨hw.1, fun hsum => ?_⟩
    rw [hw.2]
    exact ⟨b, hb, not_not.1 hsize, by simpa using hsum⟩

lemma hashMatches_keeps (hI : Stable ans F I) : Keeps I (hashMatches host ans dest f) :=
  (hashMatches_spec hI).conseq (fun _ h => h) (fun _ _ h => h.1) fun _ _ h => h

lemma copyBody_keeps (hI : Stable ans F I) (hF : F dest) (r : Reply) :
    Keeps I (copyBody dest r) := by
  refine Stable.content.bind fun b => (hI.setContent hF _).bind fun _ => ?_
  cases r.cut with
  | none => exact .ret ()
  | some e => exact .fail _

lemma fetchPackageFile_keeps (hI : Stable ans F I) (hF : F dest) (sha256 : String) (offset : ℕ) :
    Keeps I (fetchPackageFile host ans packageID sha256 offset dest) := by
  have htruncate := fatal_keeps (hI.truncate hF)
  refine (hI.ask _).bind fun e => ?_
  cases e with
  | some e => exact .fail _
  | none =>
    refine (hI.ask _).bind fun r => ?_
    cases r with
    | error e => exact .fail _
    | ok r =>
      refine .ite (.ite ?_ (copyBody_keeps hI hF r)) (.ite (copyBody_keeps hI hF r) (.ite ?_ ?_))
      · exact htruncate.bind fun _ => (fatal_keeps (hI.fileCall _)).bind fun _ =>
          copyBody_keeps hI hF r
      · exact htruncate.bind fun _ => .fail _
      · exact .ite (.fail _) (.fail _)

lemma fetchOpened_keeps (hI : Stable ans F I) (hF : F dest) (b : Bytes) :
    Keeps I (fetchOpened host ans packageID f dest b) := by
  refine (fatal_keeps (hI.fileCall _)).bind fun _ => ?_
  have hoffset : Keeps I (resumeOffset ans f dest b) :=
    .ite ((fatal_keeps (hI.truncate hF)).bind fun _ => .ret 0) (.ret _)
  refine hoffset.bind fun offset => .ite (.ret ()) ?_
  refine (fatal_keeps (hI.fileCall _)).bind fun _ => ?_
  refine (fetchPackageFile_keeps hI hF _ _).bind fun _ => (fatal_keeps (hI.fileCall _)).bind fun _ => ?_
  exact Stable.content.bind fun b => .ite (.fail _) (.ret ())

lemma fetchOnce_keeps (hI : Stable ans F I) (hF : F dest) :
    Keeps I (fetchOnce host ans packageID f dest) :=
  (fatal_keeps (hI.openFile hF)).bind fun b => fetchOpened_keeps hI hF b

lemma downloadLoop_keeps (hI : Stable ans F I) (hF : F dest) (left : ℕ) (backoff : ℤ) :
    Keeps I (downloadLoop host ans packageID f dest left backoff) := by
  induction left generalizing backoff with
  | zero =>
    unfold downloadLoop
    refine (fetchOnce_keeps hI hF).attempt.bind fun r => ?_
    rcases r with (_ | _) | _
    · exact .fail _
    · exact .fail _
    · exact .ret ()
  | succ left ih =>
    unfold downloadLoop
    refine (fetchOnce_keeps hI hF).attempt.bind fun r => ?_
    rcases r with (_ | _) | _
    · refine (hI.ask _).bind fun e => ?_
      cases e with
      | none => exact ih _
      | some e => exact .fail _
    · exact .fail _
    · exact .ret ()

lemma fetchAndCheck_spec (hI : Stable ans F I) (hF : F dest) :
    Triple I (fetchAndCheck host ans packageID f dest)
      (fun _ w => I w ∧ Holds host f dest w.files) fun _ => I := by
  refine Triple.bind (downloadLoop_keeps hI hF _ _) fun _ =>
    Triple.bind (hashMatches_spec hI) fun ok => Triple.ite (fun hok => ?_) fun _ => ?_
  · exact Triple.ret fun w hw => ⟨hw.1, hw.2 hok⟩
  · refine Triple.bind ((hI.remove fun p hp => ?_).mono_pre fun _ h => h.1) fun _ =>
      Triple.fail fun _ h => h
    obtain rfl : p = dest := by simpa using hp
    exact hF

/-- **A download that succeeds** leaves at its destination what the manifest names; either way it
writes there only. -/
theorem download_spec (hI : Stable ans F I) (hF : F dest) :
    Triple I (download host ans packageID f dest) (fun _ w => I w ∧ Holds host f dest w.files)
      fun _ => I := by
  refine Triple.bind (Triple.attempt (R := fun r w => I w ∧ (r = .ok true → Holds host f dest w.files))
    ((hashMatches_spec hI).conseq (fun _ h => h) (fun ok w h => ⟨h.1, fun hr => h.2 ?_⟩)
      fun e w h => ⟨h, fun hr => by cases hr⟩)) fun r => ?_
  · simpa using hr
  rcases r with _ | _ | _
  · exact (fetchAndCheck_spec hI hF).mono_pre fun _ h => h.1
  · exact (fetchAndCheck_spec hI hF).mono_pre fun _ h => h.1
  · exact Triple.ret fun w hw => ⟨hw.1, hw.2 rfl⟩

lemma download_keeps (hI : Stable ans F I) (hF : F dest) :
    Keeps I (download host ans packageID f dest) :=
  (download_spec hI hF).conseq (fun _ h => h) (fun _ _ h => h.1) fun _ _ h => h

end Frame

end Tiai.Deploy
