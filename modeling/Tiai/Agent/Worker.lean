import Mathlib.Data.List.Basic
import Tiai.Command.Model

/-!
# The agent's command worker

`internal/agent/agent.go` and `internal/queue/queue.go`, from a heartbeat's response to a verdict:
the poll loop accepts the commands of a response into a bounded channel (`Agent.accept`), one worker
takes them off it (`Agent.take`), and a verdict that cannot be posted goes to the result queue
(`enqueue`).  What a command does on its poste is left to the environment: an output, and an error.
-/

namespace Tiai

/-- `maxPendingCommands`. -/
def maxPendingCommands : ℕ := 16

/-! ### The catalogue -/

/-- `maintenanceCatalogue`: the types, and whether they are announced as running. -/
def maintenanceCatalogue : List (String × Bool) :=
  [("gpo_update", false), ("flush_dns", false), ("time_resync", false), ("cert_pulse", false),
    ("spooler_reset", false), ("sfc_scan", true), ("dism_restore_health", true),
    ("dism_component_cleanup", true), ("chkdsk_scan", true), ("gpo_report", false),
    ("net_config", false)]

/-- `resolve`: whether the command is long, for a type the agent knows. -/
def resolve (type : String) : Option Bool :=
  match type with
  | "quick_scan" => some false
  | "full_scan" => some true
  | "update_signatures" => some false
  | "wu_scan" => some false
  | "wu_install" => some true
  | "wu_install_full" => some true
  | "inventory_scan" => some false
  | "wu_reset" => some true
  | "reboot" => some false
  | "shutdown" => some false
  | "package_install" => some true
  | "package_uninstall" => some true
  | "wake_on_lan" => some false
  | type => maintenanceCatalogue.lookup type

/-- **The two catalogues agree**: the agent knows every type the server can queue. -/
theorem resolve_value (t : CommandType) : (resolve t.value).isSome = true := by
  cases t <;> decide

/-! ### The agent's state -/

/-- A final `CommandResult`. -/
structure Verdict where
  failed : Bool
  output : Option String
  error : Option String
  deriving DecidableEq, Repr

def Verdict.toResult (v : Verdict) : CommandResult where
  status := if v.failed then .failed else .succeeded
  output := v.output
  error := v.error

/-- The worker: waiting for a command, running one, or posting its verdict. -/
inductive Worker
  | idle
  | executing (cmd : CommandOut)
  | posting (cmd : CommandOut) (verdict : Verdict)
  deriving DecidableEq, Repr

structure Agent where
  /-- What is still to be accepted of the last response. -/
  inbox : List CommandOut
  channel : List CommandOut
  running : List Uuid
  worker : Worker
  queue : List (Uuid × Verdict)
  alive : Bool
  deriving DecidableEq, Repr

/-- A service that has just started, with the results an earlier one left. -/
def Agent.started (queue : List (Uuid × Verdict)) : Agent := ⟨[], [], [], .idle, queue, true⟩

/-! ### Its moves -/

/-- `accept`: a duplicate is dropped, and so is a command the channel has no room for. -/
def Agent.accept (a : Agent) (cmd : CommandOut) : Agent :=
  if cmd.id ∈ a.running then a
  else if a.channel.length < maxPendingCommands then
    { a with channel := a.channel ++ [cmd], running := cmd.id :: a.running }
  else a

/-- `release`, at the end of a turn of `worker`. -/
def Agent.release (a : Agent) (id : Uuid) : Agent :=
  { a with running := a.running.filter (· ≠ id), worker := .idle }

/-- What `refuse` posts of a command met while the poste is going down. -/
def refusal (kind : String) : Verdict where
  failed := true
  output := none
  error := some ("un " ++ kind ++ " de ce poste est déjà programmé : commande non exécutée, " ++
    "à relancer une fois le poste revenu en ligne")

/-- The worker takes the next command; `pending` is what `power.pending` says. -/
def Agent.take (a : Agent) (pending : Option String) : Agent :=
  match a.worker, a.channel with
  | .idle, cmd :: rest =>
    if a.alive then
      let a := { a with channel := rest }
      if (resolve cmd.type.value).isNone then a.release cmd.id
      else
        match pending with
        | some kind => { a with worker := .posting cmd (refusal kind) }
        | none => { a with worker := .executing cmd }
    else a
  | _, _ => a

/-- The command ends. -/
def Agent.complete (a : Agent) (output : String) (error : Option String) : Agent :=
  match a.worker with
  | .executing cmd => { a with worker := .posting cmd ⟨error.isSome, some output, error⟩ }
  | _ => a

/-- `Enqueue`: the oldest makes room; `stored` is whether the write succeeds. -/
def enqueue (maxItems : ℕ) (queue : List (Uuid × Verdict)) (item : Uuid × Verdict) (stored : Bool) :
    List (Uuid × Verdict) :=
  let kept := if queue.length ≥ maxItems then queue.tail else queue
  if stored then kept ++ [item] else kept

/-- The service is asked to stop: what has not been started is abandoned. -/
def Agent.stop (a : Agent) : Agent :=
  { a with inbox := [], channel := [], running := [], alive := false }

/-- A new process, once the old one's worker has returned. -/
def Agent.start (a : Agent) : Agent :=
  if !a.alive ∧ a.worker = .idle then .started a.queue else a

/-! ### What an agent holds -/

def Worker.command : Worker → Option CommandOut
  | .idle => none
  | .executing cmd => some cmd
  | .posting cmd _ => some cmd

/-- The command is in the response being read, in the channel, with the worker, or has its verdict in
the queue. -/
def Agent.Holds (a : Agent) (id : Uuid) : Prop :=
  (∃ cmd ∈ a.inbox, cmd.id = id) ∨ (∃ cmd ∈ a.channel, cmd.id = id) ∨
    (∃ cmd, a.worker.command = some cmd ∧ cmd.id = id) ∨ ∃ v, (id, v) ∈ a.queue

/-- What is marked as running is in the channel or with the worker. -/
def Agent.Tracks (a : Agent) : Prop :=
  ∀ id ∈ a.running, (∃ cmd ∈ a.channel, cmd.id = id) ∨ ∃ cmd, a.worker.command = some cmd ∧ cmd.id = id

section Moves

variable {a : Agent} {id : Uuid}

/-- Accepting loses nothing, as long as the channel has room. -/
theorem accept_holds {cmd : CommandOut} {rest : List CommandOut} (hin : a.inbox = cmd :: rest)
    (hT : a.Tracks) (hroom : cmd.id ∉ a.running → a.channel.length < maxPendingCommands)
    (h : a.Holds id) : ({ a with inbox := rest }.accept cmd).Holds id := by
  unfold Agent.accept
  dsimp only
  by_cases hdup : cmd.id ∈ a.running
  · -- a duplicate: it is held already
    rw [if_pos hdup]
    rcases h with ⟨x, hx, rfl⟩ | h | h | h
    · rw [hin] at hx
      rcases List.mem_cons.mp hx with rfl | hx
      · rcases hT x.id hdup with h | h
        · exact Or.inr (Or.inl h)
        · exact Or.inr (Or.inr (Or.inl h))
      · exact Or.inl ⟨x, hx, rfl⟩
    · exact Or.inr (Or.inl h)
    · exact Or.inr (Or.inr (Or.inl h))
    · exact Or.inr (Or.inr (Or.inr h))
  · rw [if_neg hdup, if_pos (hroom hdup)]
    rcases h with ⟨x, hx, rfl⟩ | ⟨x, hx, rfl⟩ | h | h
    · rw [hin] at hx
      rcases List.mem_cons.mp hx with rfl | hx
      · exact Or.inr (Or.inl ⟨x, List.mem_append_right _ (List.mem_singleton_self _), rfl⟩)
      · exact Or.inl ⟨x, hx, rfl⟩
    · exact Or.inr (Or.inl ⟨x, List.mem_append_left _ hx, rfl⟩)
    · exact Or.inr (Or.inr (Or.inl h))
    · exact Or.inr (Or.inr (Or.inr h))

lemma accept_tracks {cmd : CommandOut} (hT : a.Tracks) : (a.accept cmd).Tracks := by
  unfold Agent.accept
  split
  · exact hT
  · split
    · intro id hid
      rcases List.mem_cons.mp hid with rfl | hid
      · exact Or.inl ⟨cmd, List.mem_append_right _ (List.mem_singleton_self _), rfl⟩
      · rcases hT id hid with ⟨x, hx, hxid⟩ | h
        · exact Or.inl ⟨x, List.mem_append_left _ hx, hxid⟩
        · exact Or.inr h
    · exact hT

lemma accept_alive (a : Agent) (cmd : CommandOut) : (a.accept cmd).alive = a.alive := by
  unfold Agent.accept
  split
  · rfl
  · split <;> rfl

lemma accept_inbox (a : Agent) (cmd : CommandOut) : (a.accept cmd).inbox = a.inbox := by
  unfold Agent.accept
  split
  · rfl
  · split <;> rfl

lemma take_cases (a : Agent) (pending : Option String) : a.take pending = a ∨
    ∃ cmd rest w, a.worker = .idle ∧ a.channel = cmd :: rest ∧
      a.take pending = { a with channel := rest, worker := w } ∧ w.command = some cmd := by
  unfold Agent.take
  split
  · rename_i cmd rest hw hc
    split
    · right
      have hknown : (resolve cmd.type.value).isNone = false := by
        rw [← Option.not_isSome, resolve_value]; rfl
      dsimp only
      rw [hknown]
      cases pending with
      | some kind => exact ⟨cmd, rest, .posting cmd (refusal kind), hw, hc, rfl, rfl⟩
      | none => exact ⟨cmd, rest, .executing cmd, hw, hc, rfl, rfl⟩
    · exact Or.inl rfl
  · exact Or.inl rfl

theorem take_holds (h : a.Holds id) (pending : Option String) : (a.take pending).Holds id := by
  rcases take_cases a pending with ht | ⟨cmd, rest, w, hw, hc, ht, hcmd⟩
  · rw [ht]; exact h
  · rw [ht]
    rcases h with h | ⟨x, hx, rfl⟩ | ⟨x, hx, rfl⟩ | h
    · exact Or.inl h
    · rw [hc] at hx
      rcases List.mem_cons.mp hx with rfl | hx
      · exact Or.inr (Or.inr (Or.inl ⟨x, hcmd, rfl⟩))
      · exact Or.inr (Or.inl ⟨x, hx, rfl⟩)
    · rw [hw] at hx; cases hx
    · exact Or.inr (Or.inr (Or.inr h))

lemma take_tracks (hT : a.Tracks) (pending : Option String) : (a.take pending).Tracks := by
  rcases take_cases a pending with ht | ⟨cmd, rest, w, hw, hc, ht, hcmd⟩
  · rw [ht]; exact hT
  · rw [ht]
    intro id hid
    rcases hT id hid with ⟨x, hx, rfl⟩ | ⟨x, hx, rfl⟩
    · rw [hc] at hx
      rcases List.mem_cons.mp hx with rfl | hx
      · exact Or.inr ⟨x, hcmd, rfl⟩
      · exact Or.inl ⟨x, hx, rfl⟩
    · rw [hw] at hx; cases hx

lemma take_halted (h : a.alive = false → a.inbox = [] ∧ a.channel = []) (pending : Option String)
    (hdead : (a.take pending).alive = false) :
    (a.take pending).inbox = [] ∧ (a.take pending).channel = [] := by
  rcases take_cases a pending with ht | ⟨cmd, rest, w, hw, hc, ht, hcmd⟩
  · rw [ht] at hdead ⊢; exact h hdead
  · rw [ht] at hdead
    have := (h hdead).2
    rw [hc] at this
    cases this

lemma complete_worker (a : Agent) (output : String) (error : Option String) :
    (a.complete output error).worker.command = a.worker.command := by
  unfold Agent.complete
  cases hw : a.worker <;> simp [Worker.command, hw]

lemma complete_rest (a : Agent) (output : String) (error : Option String) :
    a.complete output error = { a with worker := (a.complete output error).worker } := by
  unfold Agent.complete
  cases a.worker <;> rfl

theorem complete_holds (h : a.Holds id) (output : String) (error : Option String) :
    (a.complete output error).Holds id := by
  have hw := complete_worker a output error
  rw [complete_rest]
  simpa only [Agent.Holds, hw] using h

lemma complete_tracks (hT : a.Tracks) (output : String) (error : Option String) :
    (a.complete output error).Tracks := by
  have hw := complete_worker a output error
  rw [complete_rest]
  simpa only [Agent.Tracks, hw] using hT

/-- Storing a verdict loses nothing, as long as the queue has room. -/
lemma mem_enqueue {maxItems : ℕ} {queue : List (Uuid × Verdict)} {item x : Uuid × Verdict}
    {stored : Bool} (hroom : queue.length < maxItems) (hx : x ∈ queue ∨ stored = true ∧ x = item) :
    x ∈ enqueue maxItems queue item stored := by
  have hkept : enqueue maxItems queue item stored = if stored then queue ++ [item] else queue := by
    have : ¬queue.length ≥ maxItems := by omega
    simp [enqueue, this]
  rw [hkept]
  rcases hx with hx | ⟨rfl, rfl⟩
  · split
    · exact List.mem_append_left _ hx
    · exact hx
  · exact List.mem_append_right _ (List.mem_singleton_self _)

/-- The worker is done with its command: what else is held still is. -/
lemma release_holds {cmd : CommandOut} (hw : a.worker.command = some cmd) (h : a.Holds id)
    (hne : id ≠ cmd.id) : (a.release cmd.id).Holds id := by
  rcases h with h | h | ⟨x, hx, rfl⟩ | h
  · exact Or.inl h
  · exact Or.inr (Or.inl h)
  · rw [hw] at hx
    rw [Option.some.inj hx] at hne
    exact absurd rfl hne
  · exact Or.inr (Or.inr (Or.inr h))

lemma release_tracks {cmd : CommandOut} (hw : a.worker.command = some cmd) (hT : a.Tracks) :
    (a.release cmd.id).Tracks := by
  intro id hid
  obtain ⟨hid, hne⟩ := List.mem_filter.mp hid
  rcases hT id hid with h | ⟨x, hx, rfl⟩
  · exact Or.inl h
  · rw [hw] at hx
    rw [Option.some.inj hx] at hne
    simp at hne

end Moves

end Tiai
