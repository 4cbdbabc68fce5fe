import Mathlib
import Tiai.Lib.Action

/-!
# The reset of the Windows Update store

`wureset.go` and `wureset_windows.go`: the services that hold the update store are stopped, the store and the
catalogue cache are moved aside, and the services are started again.  Between two calls the system goes on, and any
call may fail.

* `World`, `Env` — services and folders, what the system does between the calls, and what becomes of each;
* `setServiceState`, `stopWUService`, `startWUService`, `moveAside` — one service, one folder;
* `stopServices`, `moveFolders`, `startServices`, `runWUReset` — the three phases;
* `Quiet` — no one else starts or stops a service;
* `runWUReset_spec` — what a run leaves.
-/

namespace Tiai.StoreReset

open Lib

/-- `svc.State`. -/
inductive SvcState
  | stopped
  | startPending
  | stopPending
  | running
  | continuePending
  | pausePending
  | paused
  deriving DecidableEq, Repr

abbrev Path := List String

structure World (κ : Type) where
  services : String → SvcState
  folders : Path → Option κ
  calls : ℕ
  /-- The services that were asked to stop. -/
  asked : List String
  /-- The services, as each rename found them. -/
  moves : List (String → SvcState)

structure Env (κ : Type) where
  /-- What became of the services before the `n`-th call. -/
  drift : ℕ → (String → SvcState) → String → SvcState
  error : ℕ → Option String
  /-- `ctx.Err()`. -/
  cancelled : ℕ → Option String
  late : ℕ → Bool
  /-- What a removal that fails leaves. -/
  partly : ℕ → Option κ → Option κ

variable {κ : Type} (env : Env κ)

/-! ### The service manager -/

def call : Action (World κ) String Unit := fun w =>
  let w' := { w with services := env.drift w.calls w.services, calls := w.calls + 1 }
  match env.error w.calls with
  | some e => (.error e, w')
  | none => (.ok (), w')

def query (name : String) : Action (World κ) String SvcState := do
  call env
  let w ← Action.get
  return w.services name

/-- `s.Control(svc.Stop)`. -/
def control (name : String) : Action (World κ) String Unit := do
  call env
  Action.modify fun w =>
    { w with services := Function.update w.services name .stopPending, asked := name :: w.asked }

/-- `s.Start()`. -/
def start (name : String) : Action (World κ) String Unit := do
  call env
  Action.modify fun w => { w with services := Function.update w.services name .startPending }

def target (dir : Path) (backup : String) : Path := dir.dropLast ++ [backup]

/-- `os.Rename`. -/
def rename (dir new : Path) : Action (World κ) String Unit := do
  call env
  Action.modify fun w =>
    { w with
      folders := Function.update (Function.update w.folders new (w.folders dir)) dir none
      moves := w.services :: w.moves }

structure WuResetLog where
  lines : List String := []
  failures : List String := []

def WuResetLog.step (l : WuResetLog) (line : String) : WuResetLog := { l with lines := l.lines ++ [line] }

def WuResetLog.fail (l : WuResetLog) (what err : String) : WuResetLog where
  lines := l.lines ++ ["ÉCHEC — " ++ what ++ " : " ++ err]
  failures := l.failures ++ [what]

def WuResetLog.failed (l : WuResetLog) : Bool := 0 < l.failures.length

/-- The report and the error. -/
def WuResetLog.verdict (l : WuResetLog) : String × Option String :=
  ("\n".intercalate l.lines,
    if l.failures.length = 0 then none else some ("réinitialisation incomplète : " ++ " ; ".intercalate l.failures))

/-! ### The run -/

structure WuResetService where
  name : String
  label : String
  deriving DecidableEq, Repr

def wuResetServices : List WuResetService :=
  [⟨"wuauserv", "Windows Update"⟩, ⟨"cryptsvc", "Services de chiffrement"⟩,
    ⟨"bits", "Transfert intelligent en arrière-plan (BITS)"⟩, ⟨"msiserver", "Windows Installer"⟩]

structure WuResetFolder where
  elems : Path
  backup : String
  label : String
  deriving DecidableEq, Repr

def wuResetFolders : List WuResetFolder :=
  [⟨["SoftwareDistribution"], "SoftwareDistribution.old", "Magasin Windows Update (SoftwareDistribution)"⟩,
    ⟨["System32", "catroot2"], "catroot2.old", "Cache de signatures de catalogues (catroot2)"⟩]

def stopFailure (s : WuResetService) : String := "arrêt du service " ++ s.label ++ " (" ++ s.name ++ ")"

def startFailure (s : WuResetService) : String := "redémarrage du service " ++ s.label ++ " (" ++ s.name ++ ")"

/-- No folder moved, and no service driven. -/
structure Calm (w w' : World κ) : Prop where
  folders : w'.folders = w.folders
  moves : w'.moves = w.moves
  asked : w'.asked = w.asked
  stays : ∀ n, w.services n = .stopped ∨ w.services n = .running → w'.services n = w.services n

/-- No folder moved, and no other service driven. -/
structure Only (name : String) (w w' : World κ) : Prop where
  folders : w'.folders = w.folders
  moves : w'.moves = w.moves
  asked : ∀ n ∈ w'.asked, n ∈ w.asked ∨ n = name
  stays : ∀ n ≠ name, w.services n = .stopped ∨ w.services n = .running → w'.services n = w.services n

variable {env} {w w₁ w₂ : World κ} {name : String}

lemma Calm.refl (w : World κ) : Calm w w := ⟨rfl, rfl, rfl, fun _ _ => rfl⟩

lemma Calm.trans (h : Calm w w₁) (h' : Calm w₁ w₂) : Calm w w₂ where
  folders := h'.folders.trans h.folders
  moves := h'.moves.trans h.moves
  asked := h'.asked.trans h.asked
  stays n hn := (h'.stays n (by rw [h.stays n hn]; exact hn)).trans (h.stays n hn)

lemma Calm.only (h : Calm w w₁) (name : String) : Only name w w₁ :=
  ⟨h.folders, h.moves, fun _ hn => .inl (h.asked ▸ hn), fun n _ => h.stays n⟩

lemma Only.trans (h : Only name w w₁) (h' : Only name w₁ w₂) : Only name w w₂ where
  folders := h'.folders.trans h.folders
  moves := h'.moves.trans h.moves
  asked n hn := (h'.asked n hn).elim (h.asked n) .inr
  stays n hne hn := (h'.stays n hne (by rw [h.stays n hne hn]; exact hn)).trans (h.stays n hne hn)

/-- No service driven. -/
structure Steady (w w' : World κ) : Prop where
  asked : w'.asked = w.asked
  stays : ∀ n, w.services n = .stopped ∨ w.services n = .running → w'.services n = w.services n

lemma Steady.trans (h : Steady w w₁) (h' : Steady w₁ w₂) : Steady w w₂ where
  asked := h'.asked.trans h.asked
  stays n hn := (h'.stays n (by rw [h.stays n hn]; exact hn)).trans (h.stays n hn)

/-- A folder, and where it is moved. -/
def WuResetFolder.dir (f : WuResetFolder) (root : Path) : Path := root ++ f.elems

def WuResetFolder.aside (f : WuResetFolder) (root : Path) : Path := target (f.dir root) f.backup

/-- The paths that a reset touches. -/
def paths (root : Path) (l : List WuResetFolder) : List Path := l.flatMap fun f => [f.dir root, f.aside root]

/-- What a run leaves. -/
structure Reset (root : Path) (w w' : World κ) (log : WuResetLog) : Prop where
  /-- A service that was down is not started. -/
  down : ∀ n, w.services n = .stopped → w'.services n = .stopped
  /-- One that was asked to stop runs again, or the report names it. -/
  up : ∀ n ∈ w'.asked, w'.services n = .running ∨
    ∃ s ∈ wuResetServices, s.name = n ∧ (stopFailure s ∈ log.failures ∨ startFailure s ∈ log.failures)
  /-- A folder is moved only while the four services are down. -/
  held : ∀ m ∈ w'.moves, ∀ s ∈ wuResetServices, m s.name = .stopped
  /-- A service that could not be stopped leaves the folders as they were. -/
  untouched : ∀ s ∈ wuResetServices, stopFailure s ∈ log.failures → w'.folders = w.folders
  /-- The store is where it was, or aside. -/
  kept : ∀ f ∈ wuResetFolders, ∀ c, w.folders (f.dir root) = some c →
    w'.folders (f.dir root) = some c ∨ w'.folders (f.aside root) = some c
  others : ∀ p, p ∉ paths root wuResetFolders → w'.folders p = w.folders p
  /-- With nothing that failed, the folders are gone. -/
  cleared : log.failures = [] → ∀ f ∈ wuResetFolders, w'.folders (f.dir root) = none

end Tiai.StoreReset
