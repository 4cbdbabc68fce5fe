import Tiai.Command.Server

/-!
# The lifecycle of a command is one-way

A command that has reached a terminal status keeps it, with its output, its error and its finishing
time — under every step of the server but one: a final verdict that its own machine posts for it
once more (`FirstVerdict`).  The sweep, the deliveries and the wake passes look at the status first,
and so do the two other branches of `command_result`, a relay's report and a progress ping.
-/

namespace Tiai

open Lib

/-- What a terminal command records. -/
structure Outcome where
  status : CommandStatus
  resultOutput : Option String
  error : Option String
  finishedAt : Option Time
  deriving DecidableEq, Repr

def Command.outcome (c : Command) : Outcome := ⟨c.status, c.resultOutput, c.error, c.finishedAt⟩

/-- **The condition.**  No machine posts a final verdict for a command of its own that is terminal
already; for a wake it relays, it may. -/
def FirstVerdict (s : Fleet) : Event → Prop
  | .result machineId commandId payload =>
    (payload.status = .succeeded ∨ payload.status = .failed) →
      ∀ c ∈ s.db.commands, c.id = commandId → c.machineId = machineId →
        c.relayMachineId ≠ some machineId → c.terminal = false
  | _ => True

section Rows

variable {srv : Server} {c : Command}

lemma terminal_iff : c.terminal = true ↔
    c.status = .succeeded ∨ c.status = .failed ∨ c.status = .expired := by
  simp [Command.terminal, terminalStatuses]

lemma expireRow_terminal (h : c.terminal = true) (now : Time) (machineId : Option Uuid) :
    expireRow now machineId c = c := by
  have := terminal_iff.mp h
  unfold expireRow
  rw [if_neg]
  rintro ⟨hp, -⟩
  simp [hp] at this

lemma deliverRow_terminal (h : c.terminal = true) (machineId : Uuid) (packages : List Uuid)
    (now : Time) : deliverRow machineId packages now c = c := by
  have := terminal_iff.mp h
  unfold deliverRow
  rw [if_neg]
  intro ho
  unfold ownPending at ho
  grind

lemma closeWakeRow_terminal (h : c.terminal = true) (machineId : Uuid) (now : Time) :
    closeWakeRow machineId now c = c := by
  have := terminal_iff.mp h
  unfold closeWakeRow
  rw [if_neg]
  rintro ⟨-, ho⟩
  unfold Command.openWake at ho
  grind

lemma claimRow_terminal (h : c.terminal = true) (machines : List Machine) (relay : Machine)
    (now : Time) : claimRow srv machines relay now c = c := by
  have := terminal_iff.mp h
  unfold claimRow
  split
  · rfl
  · rename_i mac hmac
    obtain ⟨hcand, -⟩ := claimMac_eq_some hmac
    unfold wakeCandidate at hcand
    grind

/-- A heartbeat passes over a terminal command. -/
theorem rowPass_terminal (h : c.terminal = true) (db : Database) (m : Machine) (now : Time) :
    rowPass srv db m now c = c := by
  have hs : settleRow srv db m now c = c := by
    unfold settleRow
    rw [expireRow_terminal h, deliverRow_terminal h]
    dsimp only
    rw [closeWakeRow_terminal h, ite_self]
  unfold rowPass
  rw [hs, claimRow_terminal h, ite_self]

/-- Of the reports on a terminal command, one kind is not ignored: a final verdict of its own
machine. -/
theorem resultRow_terminal (h : c.terminal = true) {m : Machine} {payload : CommandResult}
    {now : Time} {c' : Command} (hr : resultRow m payload now c = some c') :
    c.machineId = m.id ∧ c.relayMachineId ≠ some m.id ∧ payload.status ≠ .running := by
  unfold resultRow at hr
  by_cases hrel : c.relayMachineId = some m.id
  · simp [hrel, h] at hr
  · by_cases hown : c.machineId = m.id
    · by_cases hrun : payload.status = .running
      · simp [hrel, hown, hrun, h] at hr
      · exact ⟨hown, hrel, hrun⟩
    · simp [hrel, hown] at hr

/-- **One step** leaves the outcome of a terminal command alone. -/
theorem RowStep.outcome_eq {s : Fleet} {e : Event} {c' : Command} (hc : c ∈ s.db.commands)
    (ht : c.terminal = true) (hG : FirstVerdict s e) (h : RowStep srv s e c c') :
    c'.outcome = c.outcome := by
  cases h with
  | keep => rfl
  | expire => rw [expireRow_terminal ht]
  | heartbeat c hm => rw [rowPass_terminal ht]
  | merge => rfl
  | unlink => rfl
  | @result machineId commandId payload payload' m _ _ hm hv hid hr =>
    obtain ⟨-, hmid⟩ := getMachine_mem hm
    obtain ⟨hown, hrel, hrun⟩ := resultRow_terminal ht hr
    have hfinal : payload.status = .succeeded ∨ payload.status = .failed := by
      have hs : payload'.status = payload.status := by
        unfold CommandResult.validate at hv
        split at hv
        · rw [← Option.some.inj hv]
        · cases hv
      rw [← hs]
      exact (validate_status hv).resolve_left hrun
    have := hG hfinal c hc hid (hown.trans hmid) (hmid ▸ hrel)
    rw [ht] at this
    cases this

end Rows

section Runs

variable {srv : Server}

lemma terminal_of_outcome {c c' : Command} (h : c'.outcome = c.outcome) (ht : c.terminal = true) :
    c'.terminal = true := by
  have : c'.status = c.status := congrArg Outcome.status h
  rwa [Command.terminal, this]

lemma outcome_kept_from {s : Fleet} (hwf : s.Wf) {es : List Event}
    (hg : Guarded (step srv) FirstVerdict s es) {c : Command} (hc : c ∈ s.db.commands)
    (ht : c.terminal = true) :
    ∃ c' ∈ (run (step srv) s es).db.commands, c'.id = c.id ∧ c'.outcome = c.outcome := by
  induction es generalizing s c with
  | nil => exact ⟨c, hc, rfl, rfl⟩
  | cons e es ih =>
    obtain ⟨hG, hes⟩ := hg
    obtain ⟨c₁, hc₁, hstep⟩ := step_row srv hwf e hc
    have ho := hstep.outcome_eq hc ht hG
    obtain ⟨c₂, hc₂, hid, ho₂⟩ := ih (step_wf hwf e) hes hc₁ (terminal_of_outcome ho ht)
    exact ⟨c₂, hc₂, hid.trans hstep.id_eq, ho₂.trans ho⟩

/-- **The lifecycle is one-way, while no command gets a second verdict.**  A command that is terminal
in a reachable state is there, with the outcome it had, in every state that follows. -/
theorem outcome_kept (now : Time) (es₁ es₂ : List Event) (c : Command)
    (hc : c ∈ (run (step srv) (.empty now) es₁).db.commands) (ht : c.terminal = true)
    (hg : Guarded (step srv) FirstVerdict (run (step srv) (.empty now) es₁) es₂) :
    ∃ c' ∈ (run (step srv) (.empty now) (es₁ ++ es₂)).db.commands,
      c'.id = c.id ∧ c'.outcome = c.outcome ∧
        ∀ x ∈ (run (step srv) (.empty now) (es₁ ++ es₂)).db.commands, x.id = c.id → x = c' := by
  have hwf : (run (step srv) (.empty now) (es₁ ++ es₂)).Wf := run_wf (.empty now) _
  rw [run_append] at hwf ⊢
  obtain ⟨c', hc', hid, ho⟩ := outcome_kept_from (run_wf (.empty now) es₁) hg hc ht
  exact ⟨c', hc', hid, ho, fun x hx hx' => hwf.eq_of_id hx hc' (hx'.trans hid.symm)⟩

end Runs

/-! ### The two sides of the condition -/

/-- A machine enrolls, is sent a command, and reports that it succeeded. -/
def succeededOnce : List Event :=
  [.enroll ⟨"pc", none, none, none, none, none, none⟩ "10.0.0.2" "T0",
    .createCommands [0] .sfcScan none 60 none, .heartbeat 0 (.empty false) "",
    .result 0 1 ⟨.succeeded, some "done", none⟩]

/-- The row those events leave. -/
def succeededRow : Command where
  id := 1
  machineId := 0
  type := .sfcScan
  status := .succeeded
  createdBy := none
  createdAt := 0
  expiresAt := minutes 60
  deliveredAt := some 0
  startedAt := none
  finishedAt := some 0
  resultOutput := some "done"
  error := none
  relayMachineId := none
  packageId := none

/-- A late ping, a sweep past the command's expiry and another heartbeat change nothing. -/
theorem outcome_kept_late_ping :
    ∃ c' ∈ (run (step .standard) (.empty 0) (succeededOnce ++
        [.result 0 1 ⟨.running, none, none⟩, .tick 3600000001, .sweep,
          .heartbeat 0 (.empty false) ""])).db.commands,
      c'.id = 1 ∧ c'.outcome = ⟨.succeeded, some "done", none, some 0⟩ ∧
        ∀ x ∈ (run (step .standard) (.empty 0) (succeededOnce ++
          [.result 0 1 ⟨.running, none, none⟩, .tick 3600000001, .sweep,
            .heartbeat 0 (.empty false) ""])).db.commands, x.id = 1 → x = c' := by
  refine outcome_kept 0 succeededOnce _ succeededRow (by decide) (by decide)
    ⟨?_, trivial, trivial, trivial, trivial⟩
  rintro (h | h) <;> cases h

/-- One-way with no condition on the verdicts. -/
def OneWay (srv : Server) : Prop :=
  ∀ (now : Time) (es₁ es₂ : List Event), ∀ c ∈ (run (step srv) (.empty now) es₁).db.commands,
    c.terminal = true → ∃ c' ∈ (run (step srv) (.empty now) (es₁ ++ es₂)).db.commands,
      c'.id = c.id ∧ c'.outcome = c.outcome

/-- The machine's second verdict rewrites the first. -/
theorem outcome_rewritten : ¬ OneWay Server.standard := by
  intro h
  obtain ⟨c', hc', -, ho⟩ := h 0 succeededOnce [.result 0 1 ⟨.failed, none, some "timeout"⟩]
    succeededRow (by decide) (by decide)
  revert c'
  decide

end Tiai
