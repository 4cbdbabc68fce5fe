import Tiai.Lib.Runs
import Tiai.Base

/-!
# The settings of usage

The three settings behind the usage statistics: the environment gives their values, and the console's rows win
once they are written.  `core/config.py` checks the environment when the server starts, `_write_usage` of
`api/routes/settings_routes.py` a patch, and `usage_policy` of `features/setting/crud.py` resolves the two.

* `UsageEnv` — an environment that the configuration accepts;
* `usagePolicy`, `writeUsage` — the policy, and a patch;
* `patch_coherent` — a patch keeps the policy coherent;
* `coherent_iff` — when the policy is coherent in every state of a run.
-/

namespace Tiai.Usage

open Lib

/-! ### The environment, the rows, and the policy -/

/-- `USAGE_WINDOW_DAYS`, `USAGE_LOW_HOURS` and `USAGE_HIGH_HOURS`, past the checks of their fields and
`_usage_thresholds_hold_together`. -/
structure UsageEnv where
  windowDays : ℤ
  lowHours : ℤ
  highHours : ℤ
  window_mem : 1 ≤ windowDays ∧ windowDays ≤ 90
  low_ge : 0 ≤ lowHours
  high_ge : 1 ≤ highHours
  low_lt_high : lowHours < highHours
  high_le : highHours ≤ 24 * windowDays

/-- What the console wrote: nothing, a null, or a number, of which the first two read alike. -/
structure UsageRows where
  windowDays : Option ℤ
  lowHours : Option ℤ
  highHours : Option ℤ
  deriving DecidableEq, Repr

def UsageRows.empty : UsageRows := ⟨none, none, none⟩

structure UsagePolicy where
  windowDays : ℤ
  lowHours : ℤ
  highHours : ℤ
  deriving DecidableEq, Repr

/-- `_int_or`. -/
def intOr (value : Option ℤ) (default : ℤ) : ℤ := value.getD default

/-- `usage_policy`. -/
def usagePolicy (env : UsageEnv) (rows : UsageRows) : UsagePolicy :=
  ⟨intOr rows.windowDays env.windowDays, intOr rows.lowHours env.lowHours, intOr rows.highHours env.highHours⟩

/-- A low threshold below the high one, and a high one that the window can reach. -/
structure UsagePolicy.Coherent (p : UsagePolicy) : Prop where
  low_lt_high : p.lowHours < p.highHours
  high_le : p.highHours ≤ 24 * p.windowDays

/-! ### A patch -/

/-- The usage fields of `SettingsUpdate`: each is left out, null, or a number. -/
structure UsageUpdate where
  windowDays : Option (Option ℤ)
  lowHours : Option (Option ℤ)
  highHours : Option (Option ℤ)

/-- Whether a field's value, if it has one, is between two bounds. -/
def between (low high : ℤ) (field : Option (Option ℤ)) : Bool := field.join.all fun v => low ≤ v && v ≤ high

/-- The bounds of the fields. -/
def UsageUpdate.valid (payload : UsageUpdate) : Bool :=
  between 1 90 payload.windowDays && between 0 (24 * 90) payload.lowHours && between 1 (24 * 90) payload.highHours

def invalidBody : AppError := ⟨.requestValidationError, 422, "Request validation failed"⟩

def lowNotBelowHigh : AppError :=
  ⟨.requestValidationError, 422, "usage_low_hours must be below usage_high_hours"⟩

def highExceedsWindow : AppError :=
  ⟨.requestValidationError, 422, "usage_high_hours exceeds the hours in the window"⟩

/-- `resolved`: a field as it will stand. -/
def resolved (field : Option (Option ℤ)) (stored default : ℤ) : ℤ :=
  match field with
  | none => stored
  | some value => value.getD default

/-- `_write_usage`. -/
def writeUsage (env : UsageEnv) (rows : UsageRows) (payload : UsageUpdate) : Except AppError UsageRows :=
  if payload.windowDays.isNone && payload.lowHours.isNone && payload.highHours.isNone then .ok rows
  else
    let current := usagePolicy env rows
    let window := resolved payload.windowDays current.windowDays env.windowDays
    let low := resolved payload.lowHours current.lowHours env.lowHours
    let high := resolved payload.highHours current.highHours env.highHours
    if low ≥ high then .error lowNotBelowHigh
    else if high > 24 * window then .error highExceedsWindow
    else .ok ⟨payload.windowDays.getD rows.windowDays, payload.lowHours.getD rows.lowHours,
      payload.highHours.getD rows.highHours⟩

/-- What `update_settings` does to the rows; `rest` is how the other settings of the patch fare. -/
def updateSettings (env : UsageEnv) (rows : UsageRows) (payload : UsageUpdate) (rest : Except AppError Unit) :
    Except AppError UsageRows :=
  if payload.valid then do
    let rows ← writeUsage env rows payload
    let _ ← rest
    return rows
  else .error invalidBody

/-! ### Runs -/

structure State where
  env : UsageEnv
  rows : UsageRows

def State.policy (s : State) : UsagePolicy := usagePolicy s.env s.rows

/-- A patch of the settings, or a restart of the server in another environment. -/
inductive Event
  | patch (payload : UsageUpdate) (rest : Except AppError Unit)
  | restart (env : UsageEnv)

def step (s : State) : Event → State
  | .patch payload rest =>
    match updateSettings s.env s.rows payload rest with
    | .ok rows => { s with rows }
    | .error _ => s
  | .restart env => { s with env }

/-- The rows that the console wrote meet the new values of the settings that it did not write. -/
structure Fits (rows : UsageRows) (env : UsageEnv) : Prop where
  low : ∀ low ∈ rows.lowHours, rows.highHours = none → low < env.highHours
  high : ∀ high ∈ rows.highHours, rows.lowHours = none → env.lowHours < high
  reachable : ∀ high ∈ rows.highHours, rows.windowDays = none → high ≤ 24 * env.windowDays
  window : ∀ window ∈ rows.windowDays, rows.highHours = none → env.highHours ≤ 24 * window

def Event.fits (s : State) : Event → Prop
  | .patch _ _ => True
  | .restart env => Fits s.rows env

section Coherence

variable {env : UsageEnv} {rows rows' : UsageRows} {payload : UsageUpdate}

lemma resolved_eq (field : Option (Option ℤ)) (row : Option ℤ) (default : ℤ) :
    resolved field (intOr row default) default = intOr (field.getD row) default := by
  cases field with
  | none => rfl
  | some value => rfl

/-- What a patch writes resolves to what it checked. -/
lemma writeUsage_coherent (h : (usagePolicy env rows).Coherent) (hok : writeUsage env rows payload = .ok rows') :
    (usagePolicy env rows').Coherent := by
  unfold writeUsage at hok
  split at hok
  · obtain rfl := Except.ok.inj hok
    exact h
  · dsimp only [usagePolicy] at hok
    rw [resolved_eq, resolved_eq, resolved_eq] at hok
    split at hok
    · cases hok
    · rename_i hlow
      split at hok
      · cases hok
      · rename_i hhigh
        obtain rfl := Except.ok.inj hok
        exact ⟨Int.not_le.1 hlow, Int.not_lt.1 hhigh⟩

/-- **A patch** keeps the policy coherent. -/
theorem patch_coherent {rest : Except AppError Unit} (h : (usagePolicy env rows).Coherent)
    (hok : updateSettings env rows payload rest = .ok rows') : (usagePolicy env rows').Coherent := by
  unfold updateSettings at hok
  split at hok
  · cases hwrite : writeUsage env rows payload with
    | error e =>
      rw [hwrite] at hok
      cases hok
    | ok written =>
      rw [hwrite] at hok
      cases rest with
      | error e => cases hok
      | ok _ =>
        obtain rfl := Except.ok.inj hok
        exact writeUsage_coherent h hwrite
  · cases hok

/-- After a restart, only a default can stand against a row. -/
lemma restart_coherent_iff (h : (usagePolicy env rows).Coherent) (env' : UsageEnv) :
    (usagePolicy env' rows).Coherent ↔ Fits rows env' := by
  obtain ⟨window, low, high⟩ := rows
  obtain ⟨hlow, hhigh⟩ := h
  have hlow' := env'.low_lt_high
  have hhigh' := env'.high_le
  constructor
  · rintro ⟨hcoherent, hreach⟩
    refine ⟨?_, ?_, ?_, ?_⟩
    · rintro l rfl rfl
      exact hcoherent
    · rintro l rfl rfl
      exact hcoherent
    · rintro l rfl rfl
      exact hreach
    · rintro l rfl rfl
      exact hreach
  · rintro ⟨hfitLow, hfitHigh, hfitReach, hfitWindow⟩
    constructor
    · cases low with
      | none =>
        cases high with
        | none => exact hlow'
        | some high => exact hfitHigh high rfl rfl
      | some low =>
        cases high with
        | none => exact hfitLow low rfl rfl
        | some high => exact hlow
    · cases high with
      | none =>
        cases window with
        | none => exact hhigh'
        | some window => exact hfitWindow window rfl rfl
      | some high =>
        cases window with
        | none => exact hfitReach high rfl rfl
        | some window => exact hhigh

end Coherence

/-- **When the usage settings stay coherent.**  In every state of a run of patches and restarts the policy is
coherent exactly when at each restart the rows meet the new defaults of the settings without a row. -/
theorem coherent_iff (env : UsageEnv) (events : List Event) :
    (∀ fs, fs <+: events → (run step ⟨env, .empty⟩ fs).policy.Coherent) ↔
      Guarded step (fun s e => e.fits s) ⟨env, .empty⟩ events := by
  have hinit : (State.policy ⟨env, .empty⟩).Coherent := ⟨env.low_lt_high, env.high_le⟩
  refine Guarded.iff_prefixes (I := fun _ => True) (P := fun s : State => s.policy.Coherent) (fun _ _ _ => trivial)
    (fun s e _ h => ?_) trivial hinit events
  cases e with
  | restart env' => exact restart_coherent_iff h env'
  | patch payload rest =>
    refine iff_of_true ?_ trivial
    simp only [step]
    cases hok : updateSettings s.env s.rows payload rest with
    | error e => exact h
    | ok rows => exact patch_coherent h hok

/-- The defaults of the environment. -/
def UsageEnv.standard : UsageEnv := ⟨7, 10, 30, by decide, by decide, by decide, by decide, by decide⟩

/-- A stricter environment. -/
def UsageEnv.strict : UsageEnv := ⟨7, 5, 20, by decide, by decide, by decide, by decide, by decide⟩

/-- The low threshold that the console raised is above the high one of the next environment. -/
theorem not_coherent :
    let s := run step ⟨.standard, .empty⟩ [.patch ⟨none, some (some 25), none⟩ (.ok ()), .restart .strict]
    s.policy = ⟨7, 25, 20⟩ ∧ ¬ s.policy.Coherent := by
  refine ⟨rfl, fun h => ?_⟩
  have hlow : (25 : ℤ) < 20 := h.low_lt_high
  revert hlow
  decide

end Tiai.Usage
