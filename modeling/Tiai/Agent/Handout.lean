import Mathlib.Logic.Function.Basic
import Tiai.Agent.Worker
import Tiai.Command.Delivery

/-!
# From the hand-out to the verdict

The server of `Command/Server.lean` and one agent (`Agent/Worker.lean`) for each machine, with no
crash and no lost message: a heartbeat that is served is answered, and a result that is not
acknowledged is kept.  The server hands a command out once; from then on only agents know about it.

* `System`, `step` — both sides, under any interleaving;
* `Held` — each command that is *delivered* is held by the agent it was handed to;
* `KeepsCommands` — no agent drops a command it has not run, nor a verdict it has not posted;
* `delivered_held` — then every delivered command is held, and none has been declined.
-/

namespace Tiai.Handout

open Lib

structure System where
  fleet : Fleet
  agents : Uuid → Agent
  /-- The commands declined so far because a channel was full. -/
  declined : List Uuid

inductive Event
  /-- Anything the server does that is not an agent's request. -/
  | server (e : Tiai.Event)
  | poll (machineId : Uuid) (payload : HeartbeatRequest) (drawn : Token)
  | accept (machineId : Uuid)
  | take (machineId : Uuid) (pending : Option String)
  | reportRunning (machineId : Uuid)
  | complete (machineId : Uuid) (output : String) (error : Option String)
  /-- The worker posts its verdict: whether the request reaches the server, whether the answer comes
  back, and whether the write to the queue, if there is one, succeeds. -/
  | deliver (machineId : Uuid) (reached acked stored : Bool)
  /-- The poll loop posts the oldest queued verdict. -/
  | flush (machineId : Uuid) (reached acked : Bool)
  | stop (machineId : Uuid)
  | start (machineId : Uuid)

/-- The requests that are an agent's to make. -/
def isAgentRequest : Tiai.Event → Bool
  | .heartbeat _ _ _ => true
  | .result _ _ _ => true
  | _ => false

variable (srv : Server)

/-- A result is posted; a machine whose row is gone is answered 401. -/
def post (fleet : Fleet) (machineId commandId : Uuid) (r : CommandResult) (reached : Bool) : Fleet :=
  if reached then Tiai.step srv fleet (.result machineId commandId r) else fleet

def received (fleet : Fleet) (machineId : Uuid) (reached : Bool) : Bool :=
  reached && (getMachine fleet.db.machines machineId).isSome

def acknowledged (fleet : Fleet) (machineId : Uuid) (reached acked : Bool) : Bool :=
  received fleet machineId reached && acked

def System.setAgent (s : System) (machineId : Uuid) (a : Agent) : System :=
  { s with agents := Function.update s.agents machineId a }

/-- `maxItems` is the cap of the result queues. -/
def step (maxItems : ℕ) (s : System) : Event → System
  | .server e => if isAgentRequest e then s else { s with fleet := Tiai.step srv s.fleet e }
  | .poll m p drawn =>
    let a := s.agents m
    if a.alive ∧ a.inbox = [] then
      match getMachine s.fleet.db.machines m with
      | none => s
      | some row =>
        let out := (heartbeat srv s.fleet.db row p s.fleet.now drawn).2.commands
        { s with fleet := Tiai.step srv s.fleet (.heartbeat m p drawn) }.setAgent m
          { a with inbox := out }
    else s
  | .accept m =>
    let a := s.agents m
    match a.inbox with
    | [] => s
    | cmd :: rest =>
      let s' := s.setAgent m ({ a with inbox := rest }.accept cmd)
      if cmd.id ∉ a.running ∧ a.channel.length ≥ maxPendingCommands then
        { s' with declined := cmd.id :: s.declined }
      else s'
  | .take m pending => s.setAgent m ((s.agents m).take pending)
  | .reportRunning m =>
    match (s.agents m).worker with
    | .executing cmd => { s with fleet := post srv s.fleet m cmd.id ⟨.running, none, none⟩ true }
    | _ => s
  | .complete m output error => s.setAgent m ((s.agents m).complete output error)
  | .deliver m reached acked stored =>
    let a := s.agents m
    match a.worker with
    | .posting cmd verdict =>
      let s' := { s with fleet := post srv s.fleet m cmd.id verdict.toResult reached }
      if acknowledged s.fleet m reached acked then s'.setAgent m (a.release cmd.id)
      else
        s'.setAgent m
          ({ a with queue := enqueue maxItems a.queue (cmd.id, verdict) stored }.release cmd.id)
    | _ => s
  | .flush m reached acked =>
    let a := s.agents m
    match a.queue with
    | [] => s
    | (id, verdict) :: rest =>
      let s' := { s with fleet := post srv s.fleet m id verdict.toResult reached }
      if acknowledged s.fleet m reached acked then s'.setAgent m { a with queue := rest } else s'
  | .stop m => s.setAgent m (s.agents m).stop
  | .start m => s.setAgent m (s.agents m).start

/-- Empty tables, and services that have just been installed. -/
def System.initial (now : Time) : System := ⟨.empty now, fun _ => .started [], []⟩

/-! ### The condition -/

/-- The machine a command that is out is with. -/
def holder (c : Command) : Uuid := c.relayMachineId.getD c.machineId

/-- **The condition.**  A command is accepted only into a channel with room; a service stops only
once everything it accepted has been started; a verdict the server has not received goes to a queue
with room, by a write that succeeds; and a machine is merged away only once it has answered what it
was handed. -/
def KeepsCommands (maxItems : ℕ) (s : System) : Event → Prop
  | .accept m => ∀ cmd ∈ (s.agents m).inbox.head?, cmd.id ∉ (s.agents m).running →
      (s.agents m).channel.length < maxPendingCommands
  | .stop m => (s.agents m).inbox = [] ∧ (s.agents m).channel = []
  | .deliver m reached acked stored =>
      acknowledged s.fleet m reached acked = true ∨
        ((s.agents m).queue.length < maxItems ∧ (received s.fleet m reached = true ∨ stored = true))
  | .server (.merge _ sourceId) =>
      ∀ c ∈ s.fleet.db.commands, c.status = .delivered → holder c ≠ sourceId
  | _ => True

instance decidableKeepsCommands (maxItems : ℕ) (s : System) :
    ∀ e, Decidable (KeepsCommands maxItems s e)
  | .accept m => inferInstanceAs (Decidable (∀ cmd ∈ (s.agents m).inbox.head?,
      cmd.id ∉ (s.agents m).running → (s.agents m).channel.length < maxPendingCommands))
  | .stop m => inferInstanceAs (Decidable ((s.agents m).inbox = [] ∧ (s.agents m).channel = []))
  | .deliver m reached acked stored => inferInstanceAs (Decidable
      (acknowledged s.fleet m reached acked = true ∨ ((s.agents m).queue.length < maxItems ∧
        (received s.fleet m reached = true ∨ stored = true))))
  | .server (.merge _ sourceId) => inferInstanceAs (Decidable
      (∀ c ∈ s.fleet.db.commands, c.status = .delivered → holder c ≠ sourceId))
  | .server (.tick _) | .server (.enroll _ _ _) | .server (.createCommands _ _ _ _ _)
  | .server (.wake _ _ _) | .server (.heartbeat _ _ _) | .server (.result _ _ _)
  | .server .sweep | .server .addPackage | .server (.deletePackage _)
  | .poll _ _ _ | .take _ _ | .reportRunning _ | .complete _ _ _ | .flush _ _ _ | .start _ =>
    isTrue trivial

/-! ### What happens to a delivered row -/

section Rows

variable {srv} {s : Fleet} {c c' : Command}

lemma expireRow_delivered {now : Time} {machineId : Option Uuid}
    (h : (expireRow now machineId c).status = .delivered) : expireRow now machineId c = c := by
  unfold expireRow at h ⊢
  split at h
  · cases h
  · rename_i hc
    rw [if_neg hc]

lemma closeWakeRow_delivered {machineId : Uuid} {now : Time}
    (h : (closeWakeRow machineId now c).status = .delivered) : closeWakeRow machineId now c = c := by
  unfold closeWakeRow at h ⊢
  split at h
  · cases h
  · rename_i hc
    rw [if_neg hc]

/-- Whoever addressed a row, a step that is no heartbeat and no merge leaves it so, or ends the
row's delivery. -/
lemma RowStep.delivered {e : Tiai.Event} (h : RowStep srv s e c c') (hd : c'.status = .delivered)
    (hbeat : ∀ m p t, e ≠ .heartbeat m p t) :
    c.status = .delivered ∧ ((c'.machineId = c.machineId ∧ c'.relayMachineId = c.relayMachineId) ∨
      ∃ t src, e = .merge t src ∧ c' = mergeRow t src c) := by
  cases h with
  | keep => exact ⟨hd, Or.inl ⟨rfl, rfl⟩⟩
  | expire =>
    have hsame := expireRow_delivered hd
    rw [hsame] at hd ⊢
    exact ⟨hd, Or.inl ⟨rfl, rfl⟩⟩
  | heartbeat c hm => exact absurd rfl (hbeat _ _ _)
  | merge => exact ⟨hd, Or.inr ⟨_, _, rfl, rfl⟩⟩
  | unlink => exact ⟨hd, Or.inl ⟨rfl, rfl⟩⟩
  | result hm hv hid hr =>
    have := validate_status hv
    rw [resultRow_status hv hr] at hd
    simp [hd] at this

lemma rowPass_pending_eq {db : Database} {m : Machine} {now : Time}
    (h : (rowPass srv db m now c).status = .pending) : rowPass srv db m now c = c := by
  unfold rowPass at h ⊢
  split at h
  · rename_i hrelay
    have hclaim := (claimRow_pending h).1
    rw [hclaim] at h
    rw [if_pos hrelay, hclaim, (settleRow_pending h).1]
  · rename_i hrelay
    rw [if_neg hrelay, (settleRow_pending h).1]

lemma holder_mergeRow {t src : Uuid} (h : holder c ≠ src) : holder (mergeRow t src c) = holder c := by
  unfold holder mergeRow at *
  cases hr : c.relayMachineId with
  | none =>
    rw [hr] at h
    simp [show c.machineId ≠ src from h]
  | some r =>
    have hne : r ≠ src := by rwa [hr] at h
    simp [Option.filter, hne]

/-- What the delivery pass leaves delivered is as it was, or handed out to the poste that holds it. -/
lemma deliverRow_delivered {db : Database} {m : Machine} {now : Time}
    (hfree : c.status = .pending → c.relayMachineId = none)
    (h : (deliverRow m.id db.packages now (expireRow now (some m.id) c)).status = .delivered) :
    deliverRow m.id db.packages now (expireRow now (some m.id) c) = c ∨
      ((∃ out, ownOut db m now c = some out ∧ out.id = c.id) ∧
        holder (deliverRow m.id db.packages now (expireRow now (some m.id) c)) = m.id) := by
  by_cases hown : ownPending m.id now (expireRow now (some m.id) c) = true
  · right
    have hsame := expireRow_pending (ownPending_iff.mp hown).2.1
    rw [hsame] at hown h ⊢
    have hpend := (ownPending_iff.mp hown).2.1
    unfold ownOut deliverOut
    rw [hsame]
    unfold deliverRow at h ⊢
    rw [if_pos hown] at h ⊢
    dsimp only at h ⊢
    split at h
    · cases h
    · rename_i hpkg
      rw [if_neg hpkg]
      have hheld : holder { c with status := .delivered, deliveredAt := some now } = m.id := by
        show c.relayMachineId.getD c.machineId = m.id
        rw [hfree hpend]
        exact (ownPending_iff.mp hown).1
      refine ⟨⟨_, if_pos ⟨hown, ?_⟩, rfl⟩, hheld⟩
      by_cases htype : c.type ∈ packageCommandTypes
      · exact Or.inr (Or.inl (by simpa [htype] using hpkg))
      · exact Or.inr (Or.inr htype)
  · left
    have : deliverRow m.id db.packages now (expireRow now (some m.id) c) =
        expireRow now (some m.id) c := by
      unfold deliverRow
      rw [if_neg hown]
    rw [this] at h ⊢
    exact expireRow_delivered h

/-- So is what the row's own passes leave delivered. -/
lemma settleRow_delivered {db : Database} {m : Machine} {now : Time}
    (hfree : c.status = .pending → c.relayMachineId = none)
    (h : (settleRow srv db m now c).status = .delivered) :
    settleRow srv db m now c = c ∨
      ((∃ out, ownOut db m now c = some out ∧ out.id = c.id) ∧
        holder (settleRow srv db m now c) = m.id) := by
  unfold settleRow at h ⊢
  dsimp only at h ⊢
  split at h
  · rename_i hrelay
    rw [if_pos hrelay]
    have hsame := closeWakeRow_delivered h
    rw [hsame] at h ⊢
    exact deliverRow_delivered hfree h
  · rename_i hrelay
    rw [if_neg hrelay]
    exact deliverRow_delivered hfree h

/-- A row that a heartbeat leaves delivered was so before, or is in the response. -/
theorem rowPass_delivered {db : Database} {m : Machine} {now : Time} (hc : c ∈ db.commands)
    (hfree : c.status = .pending → c.relayMachineId = none)
    (hd : (rowPass srv db m now c).status = .delivered) :
    (c.status = .delivered ∧ rowPass srv db m now c = c) ∨
      ((∃ out ∈ (handOut srv db m now).2, out.id = c.id) ∧
        holder (rowPass srv db m now c) = m.id) := by
  rw [handOut_eq]
  have hfinish : (settleRow srv db m now c).status = .delivered →
      rowPass srv db m now c = settleRow srv db m now c →
      (c.status = .delivered ∧ rowPass srv db m now c = c) ∨
      ((∃ out ∈ db.commands.filterMap (ownOut db m now) ++
          db.commands.filterMap (wakeOut srv db m now), out.id = c.id) ∧
        holder (rowPass srv db m now c) = m.id) := by
    intro h heq
    rw [heq]
    rcases settleRow_delivered hfree h with hs | ⟨⟨out, hout, hid⟩, hheld⟩
    · left
      rw [hs] at h ⊢
      exact ⟨h, rfl⟩
    · right
      exact ⟨⟨out, List.mem_append_left _ (List.mem_filterMap.mpr ⟨c, hc, hout⟩), hid⟩,
        hheld⟩
  by_cases hrelay : srv.wolRelayEnabled = true
  · have hpass : rowPass srv db m now c = claimRow srv db.machines m now (settleRow srv db m now c) :=
      if_pos hrelay
    cases hmac : claimMac srv db.machines m now (settleRow srv db m now c) with
    | none =>
      have hsame : claimRow srv db.machines m now (settleRow srv db m now c) =
          settleRow srv db m now c := by
        unfold claimRow
        rw [hmac]
      rw [hsame] at hpass
      exact hfinish (hpass ▸ hd) hpass
    | some mac =>
      right
      have hwake : wakeOut srv db m now c =
          some ⟨(settleRow srv db m now c).id, (settleRow srv db m now c).type, none, some mac⟩ := by
        unfold wakeOut claimOut
        rw [if_pos hrelay, hmac]
        rfl
      refine ⟨⟨_, List.mem_append_right _ (List.mem_filterMap.mpr ⟨c, hc, hwake⟩),
        settleRow_id ..⟩, ?_⟩
      rw [hpass]
      unfold claimRow
      rw [hmac]
      rfl
  · have hpass : rowPass srv db m now c = settleRow srv db m now c := if_neg hrelay
    exact hfinish (hpass ▸ hd) hpass

/-- The verdict on a delivered row is accepted from the machine it is addressed to. -/
lemma resultRow_delivered {m : Machine} (payload : CommandResult) (now : Time)
    (hd : c.status = .delivered) (hheld : holder c = m.id)
    (hfinal : payload.status ≠ .running) :
    ∃ c', resultRow m payload now c = some c' ∧ c'.status = payload.status := by
  have hterm : c.terminal = false := by simp [Command.terminal, terminalStatuses, hd]
  unfold resultRow
  cases hrelay : c.relayMachineId with
  | none =>
    have hm : c.machineId = m.id := by simpa [holder, hrelay] using hheld
    simp [hm, hterm, hfinal]
  | some r =>
    have hr : r = m.id := by simpa [holder, hrelay] using hheld
    simp [hr, hterm, hfinal]

/-- After a final report of its machine, no row of that identifier is delivered. -/
theorem result_settles (hwf : s.Wf) (hc : c ∈ s.db.commands) (hd : c.status = .delivered)
    {machineId : Uuid} {row : Machine} (hm : getMachine s.db.machines machineId = some row)
    (hheld : holder c = machineId) (v : Verdict)
    (hc' : c' ∈ (Tiai.step srv s (.result machineId c.id v.toResult)).db.commands)
    (hid : c'.id = c.id) : c'.status ≠ .delivered := by
  have hrid := (getMachine_mem hm).2
  have hv : ∃ r, v.toResult.validate = some r ∧ r.status = v.toResult.status := by
    have hmem : v.toResult.status ∈ agentReportableStatuses := by
      unfold Verdict.toResult agentReportableStatuses
      cases v.failed <;> simp
    exact ⟨_, if_pos hmem, rfl⟩
  obtain ⟨r, hr, hrs⟩ := hv
  have hfinal : r.status = .failed ∨ r.status = .succeeded := by
    rw [hrs]
    unfold Verdict.toResult
    cases v.failed <;> simp
  have hfound : s.db.commands.find? (fun x => x.id = c.id) = some c := by
    cases hf : s.db.commands.find? (fun x => x.id = c.id) with
    | none =>
      have := List.find?_eq_none.mp hf c hc
      simp at this
    | some x =>
      have hx : x.id = c.id := by simpa using List.find?_some hf
      rw [hwf.eq_of_id (List.mem_of_find?_eq_some hf) hc hx]
  obtain ⟨c₁, hrow, hstatus⟩ := resultRow_delivered r s.now hd (by rwa [hrid])
    (by rcases hfinal with h | h <;> rw [h] <;> decide)
  have hcommands : (Tiai.step srv s (.result machineId c.id v.toResult)).db.commands =
      s.db.commands.map fun x => if x.id = c.id then c₁ else x := by
    simp only [Tiai.step, hm, commandResult, hr, hfound, hrow]
  rw [hcommands] at hc'
  obtain ⟨x, hx, rfl⟩ := List.mem_map.mp hc'
  split at hid
  · rename_i hxid
    rw [if_pos hxid, hstatus]
    rcases hfinal with h | h <;> rw [h] <;> decide
  · rename_i hxid
    exact absurd hid hxid

end Rows

/-! ### The invariant -/

/-- Between two steps: every command that is out is with an agent. -/
structure Held (s : System) : Prop where
  wf : s.fleet.Wf
  free : ∀ c ∈ s.fleet.db.commands, c.status = .pending → c.relayMachineId = none
  held : ∀ c ∈ s.fleet.db.commands, c.status = .delivered → (s.agents (holder c)).Holds c.id
  tracks : ∀ m, (s.agents m).Tracks
  halted : ∀ m, (s.agents m).alive = false → (s.agents m).inbox = [] ∧ (s.agents m).channel = []
  declined : s.declined = []

section Steps

variable {srv} {s : System} {maxItems : ℕ}

/-- A row that is pending after a step was so before, and nobody relays it. -/
lemma step_free {s : Fleet} (hwf : s.Wf)
    (hfree : ∀ c ∈ s.db.commands, c.status = .pending → c.relayMachineId = none) (e : Tiai.Event) :
    ∀ c ∈ (Tiai.step srv s e).db.commands, c.status = .pending → c.relayMachineId = none := by
  intro c' hc' hp
  rcases step_row_cases srv hwf e hc' with ⟨c, hc, hrow⟩ | hnew
  · have hnone := hfree c hc (hrow.pending hp)
    cases hrow with
    | keep => exact hnone
    | expire => rw [expireRow_pending hp]; exact hnone
    | heartbeat => rw [rowPass_pending_eq hp]; exact hnone
    | merge => simp [mergeRow, hnone]
    | unlink => exact hnone
    | result hm hv hid hr =>
      have := validate_status hv
      rw [resultRow_status hv hr] at hp
      simp [hp] at this
  · exact hnew.unclaimed

/-- The server's own steps take no command out of the fleet's hands. -/
lemma step_held {s : Fleet} (hwf : s.Wf) {agents : Uuid → Agent} {e : Tiai.Event}
    (hbeat : ∀ m p t, e ≠ .heartbeat m p t)
    (hmerge : ∀ t src, e = .merge t src →
      ∀ c ∈ s.db.commands, c.status = .delivered → holder c ≠ src)
    (hheld : ∀ c ∈ s.db.commands, c.status = .delivered → (agents (holder c)).Holds c.id) :
    ∀ c ∈ (Tiai.step srv s e).db.commands, c.status = .delivered →
      (agents (holder c)).Holds c.id ∧ ∃ c₀ ∈ s.db.commands, c₀.id = c.id ∧
        c₀.status = .delivered ∧ holder c₀ = holder c := by
  intro c' hc' hd
  rcases step_row_cases srv hwf e hc' with ⟨c, hc, hrow⟩ | hnew
  · obtain ⟨hdel, haddr⟩ := RowStep.delivered hrow hd hbeat
    have hsame : holder c' = holder c := by
      rcases haddr with ⟨hm, hr⟩ | ⟨t, src, rfl, rfl⟩
      · simp [holder, hm, hr]
      · exact holder_mergeRow (hmerge t src rfl c hc hdel)
    refine ⟨?_, c, hc, hrow.id_eq.symm, hdel, hsame.symm⟩
    rw [hsame, hrow.id_eq]
    exact hheld c hc hdel
  · exact absurd hd hnew.undelivered

/-- One agent has moved, and the fleet may have taken a report. -/
lemma Held.setAgent (h : Held s) {fleet : Fleet} (hwf : fleet.Wf)
    (hfree : ∀ c ∈ fleet.db.commands, c.status = .pending → c.relayMachineId = none)
    {m : Uuid} {a : Agent}
    (hheld : ∀ c ∈ fleet.db.commands, c.status = .delivered →
      (holder c = m → a.Holds c.id) ∧ (holder c ≠ m → (s.agents (holder c)).Holds c.id))
    (htracks : a.Tracks) (hhalted : a.alive = false → a.inbox = [] ∧ a.channel = []) :
    Held ({ s with fleet := fleet }.setAgent m a) where
  wf := hwf
  free := hfree
  held c hc hd := by
    by_cases hm : holder c = m
    · show (Function.update s.agents m a (holder c)).Holds c.id
      rw [hm, Function.update_self]
      exact (hheld c hc hd).1 hm
    · show (Function.update s.agents m a (holder c)).Holds c.id
      rw [Function.update_of_ne hm]
      exact (hheld c hc hd).2 hm
  tracks x := by
    show (Function.update s.agents m a x).Tracks
    by_cases hx : x = m
    · rw [hx, Function.update_self]; exact htracks
    · rw [Function.update_of_ne hx]; exact h.tracks x
  halted x := by
    show (Function.update s.agents m a x).alive = false →
      (Function.update s.agents m a x).inbox = [] ∧ (Function.update s.agents m a x).channel = []
    by_cases hx : x = m
    · rw [hx, Function.update_self]; exact hhalted
    · rw [Function.update_of_ne hx]; exact h.halted x
  declined := h.declined

/-- An agent moves on its own, and keeps what it holds. -/
lemma Held.move (h : Held s) {m : Uuid} {a : Agent}
    (hheld : ∀ id, (s.agents m).Holds id → a.Holds id) (htracks : a.Tracks)
    (hhalted : a.alive = false → a.inbox = [] ∧ a.channel = []) : Held (s.setAgent m a) :=
  h.setAgent h.wf h.free
    (fun c hc hd => ⟨fun hm => hheld c.id (hm ▸ h.held c hc hd), fun _ => h.held c hc hd⟩)
    htracks hhalted

/-- The server moves: no agent does. -/
lemma Held.server (srv : Server) (h : Held s) {e : Tiai.Event} (hbeat : ∀ m p t, e ≠ .heartbeat m p t)
    (hmerge : ∀ t src, e = .merge t src →
      ∀ c ∈ s.fleet.db.commands, c.status = .delivered → holder c ≠ src) :
    Held { s with fleet := Tiai.step srv s.fleet e } where
  wf := step_wf h.wf e
  free := step_free h.wf h.free e
  held c hc hd := (step_held h.wf hbeat hmerge h.held c hc hd).1
  tracks := h.tracks
  halted := h.halted
  declined := h.declined

lemma Held.poll (h : Held s) (m : Uuid) (p : HeartbeatRequest) (drawn : Token) :
    Held (step srv maxItems s (.poll m p drawn)) := by
  simp only [step]
  split
  · rename_i hidle
    obtain ⟨halive, hinbox⟩ := hidle
    split
    · exact h
    · rename_i row hrow
      have hrid : (row.report srv p s.fleet.now).id = m :=
        (report_id srv row p s.fleet.now).trans (getMachine_mem hrow).2
      refine h.setAgent (step_wf h.wf _) (step_free h.wf h.free _) ?_ (h.tracks m) ?_
      · intro c' hc' hd
        have hcommands : (Tiai.step srv s.fleet (.heartbeat m p drawn)).db.commands =
            s.fleet.db.commands.map (rowPass srv (reportedDb srv s.fleet.db row p s.fleet.now)
              (row.report srv p s.fleet.now) s.fleet.now) := by
          simp only [Tiai.step, hrow]
          show (handOut srv (reportedDb srv s.fleet.db row p s.fleet.now)
            (row.report srv p s.fleet.now) s.fleet.now).1 = _
          rw [handOut_eq]
          rfl
        obtain ⟨c, hc, rfl⟩ := List.mem_map.mp (hcommands ▸ hc')
        rw [rowPass_id]
        have hc' : c ∈ (reportedDb srv s.fleet.db row p s.fleet.now).commands := hc
        rcases rowPass_delivered hc' (h.free c hc) hd with ⟨hdel, hsame⟩ | ⟨hout, hholder⟩
        · rw [hsame]
          have hheld := h.held c hc hdel
          refine ⟨fun hm => ?_, fun _ => hheld⟩
          -- nothing was left of the previous response
          rw [hm] at hheld
          rcases hheld with ⟨x, hx, -⟩ | hheld
          · rw [hinbox] at hx
            exact absurd hx List.not_mem_nil
          · exact Or.inr hheld
        · exact ⟨fun _ => Or.inl hout, fun hm => absurd (hholder.trans hrid) hm⟩
      · intro hdead
        have : (s.agents m).alive = false := hdead
        rw [halive] at this
        cases this
  · exact h

lemma Held.post (srv : Server) (h : Held s) (m id : Uuid) (r : CommandResult) (reached : Bool) :
    (post srv s.fleet m id r reached).Wf ∧
    (∀ c ∈ (post srv s.fleet m id r reached).db.commands, c.status = .pending →
      c.relayMachineId = none) ∧
    ∀ c ∈ (post srv s.fleet m id r reached).db.commands, c.status = .delivered →
      (s.agents (holder c)).Holds c.id := by
  unfold Handout.post
  cases reached with
  | false => exact ⟨h.wf, h.free, h.held⟩
  | true =>
    have hs := Held.server srv h (e := .result m id r)
      (fun _ _ _ he => by cases he) (fun _ _ he => by cases he)
    exact ⟨hs.wf, hs.free, hs.held⟩

/-- A verdict the server has received leaves no row of its command delivered. -/
lemma Held.received_settles (h : Held s) {m id : Uuid} (v : Verdict) {reached : Bool}
    (hrec : received s.fleet m reached = true) {c : Command}
    (hc : c ∈ (Handout.post srv s.fleet m id v.toResult reached).db.commands)
    (hd : c.status = .delivered) (hholder : holder c = m) : c.id ≠ id := by
  obtain ⟨hreached, hrow⟩ : reached = true ∧ (getMachine s.fleet.db.machines m).isSome = true := by
    simpa [received] using hrec
  subst hreached
  obtain ⟨row, hrow⟩ := Option.isSome_iff_exists.mp hrow
  rintro rfl
  have hc' : c ∈ (Tiai.step srv s.fleet (.result m c.id v.toResult)).db.commands := hc
  obtain ⟨-, c₀, hc₀, hid, hdel, hsame⟩ := step_held h.wf
    (fun _ _ _ he => by cases he) (fun _ _ he => by cases he) h.held c hc' hd
  rw [← hid] at hc'
  exact result_settles h.wf hc₀ hdel hrow (hsame.trans hholder) v hc' hid.symm hd

lemma Held.deliver (h : Held s) {m : Uuid} {reached acked stored : Bool}
    (hg : KeepsCommands maxItems s (.deliver m reached acked stored)) :
    Held (step srv maxItems s (.deliver m reached acked stored)) := by
  simp only [step]
  split
  · rename_i cmd verdict hw
    have hcmd : (s.agents m).worker.command = some cmd := by rw [hw]; rfl
    obtain ⟨hwf, hfree, hheld⟩ := Held.post srv h m cmd.id verdict.toResult reached
    split
    · rename_i hack
      have hrec : received s.fleet m reached = true := by
        simp only [acknowledged, Bool.and_eq_true] at hack
        exact hack.1
      refine h.setAgent hwf hfree (fun c hc hd => ⟨fun hm => ?_, fun _ => hheld c hc hd⟩)
        (release_tracks hcmd (h.tracks m)) (h.halted m)
      exact release_holds hcmd (hm ▸ hheld c hc hd) (h.received_settles verdict hrec hc hd hm)
    · rename_i hack
      obtain ⟨hroom, hkept⟩ := hg.resolve_left hack
      refine h.setAgent hwf hfree (fun c hc hd => ⟨fun hm => ?_, fun _ => hheld c hc hd⟩)
        (release_tracks hcmd (h.tracks m)) (h.halted m)
      have hold : (s.agents m).Holds c.id := hm ▸ hheld c hc hd
      by_cases hid : c.id = cmd.id
      · -- its own command: the server has not received the verdict, which is stored
        have hstored : stored = true := hkept.resolve_left fun hrec =>
          h.received_settles verdict hrec hc hd hm hid
        refine Or.inr (Or.inr (Or.inr ⟨verdict, ?_⟩))
        rw [hstored, hid]
        exact mem_enqueue hroom (Or.inr ⟨rfl, rfl⟩)
      · have hqueue : ∀ x ∈ (s.agents m).queue,
            x ∈ enqueue maxItems (s.agents m).queue (cmd.id, verdict) stored :=
          fun x hx => mem_enqueue hroom (Or.inl hx)
        refine release_holds (a := { s.agents m with
          queue := enqueue maxItems (s.agents m).queue (cmd.id, verdict) stored }) hcmd ?_ hid
        rcases hold with h | h | h | ⟨v, hv⟩
        · exact Or.inl h
        · exact Or.inr (Or.inl h)
        · exact Or.inr (Or.inr (Or.inl h))
        · exact Or.inr (Or.inr (Or.inr ⟨v, hqueue _ hv⟩))
  · exact h

lemma Held.flush (h : Held s) (m : Uuid) (reached acked : Bool) :
    Held (step srv maxItems s (.flush m reached acked)) := by
  simp only [step]
  split
  · exact h
  · rename_i id verdict rest hq
    obtain ⟨hwf, hfree, hheld⟩ := Held.post srv h m id verdict.toResult reached
    split
    · rename_i hack
      have hrec : received s.fleet m reached = true := by
        simp only [acknowledged, Bool.and_eq_true] at hack
        exact hack.1
      refine h.setAgent hwf hfree (fun c hc hd => ⟨fun hm => ?_, fun _ => hheld c hc hd⟩)
        (h.tracks m) (h.halted m)
      have hne := h.received_settles verdict hrec hc hd hm
      rcases (hm ▸ hheld c hc hd : (s.agents m).Holds c.id) with h | h | h | ⟨v, hv⟩
      · exact Or.inl h
      · exact Or.inr (Or.inl h)
      · exact Or.inr (Or.inr (Or.inl h))
      · rw [hq] at hv
        rcases List.mem_cons.mp hv with hv | hv
        · exact absurd (congrArg Prod.fst hv) hne
        · exact Or.inr (Or.inr (Or.inr ⟨v, hv⟩))
    · exact ⟨hwf, hfree, hheld, h.tracks, h.halted, h.declined⟩

/-- **The step.**  A step that meets the condition leaves every command that is out with its agent. -/
theorem step_keeps (h : Held s) (e : Event) (hg : KeepsCommands maxItems s e) :
    Held (step srv maxItems s e) := by
  cases e with
  | poll m p drawn => exact h.poll m p drawn
  | deliver m reached acked stored => exact h.deliver hg
  | flush m reached acked => exact h.flush m reached acked
  | server e =>
    simp only [step]
    split
    · exact h
    · rename_i hagent
      refine Held.server srv h (fun m p t he => hagent (by rw [he]; rfl)) fun t src he => ?_
      subst he
      exact hg
  | accept m =>
    simp only [step]
    split
    · exact h
    · rename_i cmd rest hin
      have hroom : cmd.id ∉ (s.agents m).running →
          (s.agents m).channel.length < maxPendingCommands := hg cmd (by rw [hin]; rfl)
      split
      · rename_i hfull
        exact absurd (hroom hfull.1) (Nat.not_lt.mpr hfull.2)
      · refine h.move (fun id hid => accept_holds hin (h.tracks m) hroom hid) ?_ ?_
        · have htracks : ({ s.agents m with inbox := rest } : Agent).Tracks := h.tracks m
          exact accept_tracks htracks
        · intro hdead
          rw [accept_alive] at hdead
          have := (h.halted m hdead).1
          rw [hin] at this
          cases this
  | take m pending =>
    exact h.move (fun _ hid => take_holds hid pending) (take_tracks (h.tracks m) pending)
      (take_halted (h.halted m) pending)
  | reportRunning m =>
    simp only [step]
    split
    · rename_i cmd hw
      obtain ⟨hwf, hfree, hheld⟩ := Held.post srv h m cmd.id ⟨.running, none, none⟩ true
      exact ⟨hwf, hfree, hheld, h.tracks, h.halted, h.declined⟩
    · exact h
  | complete m output error =>
    refine h.move (fun _ hid => complete_holds hid output error)
      (complete_tracks (h.tracks m) output error) ?_
    rw [complete_rest]
    exact h.halted m
  | stop m =>
    obtain ⟨hin, hch⟩ := hg
    refine h.move (fun id hid => ?_) (fun id hid => absurd hid List.not_mem_nil)
      fun _ => ⟨rfl, rfl⟩
    rcases hid with ⟨x, hx, -⟩ | ⟨x, hx, -⟩ | hid
    · rw [hin] at hx; exact absurd hx List.not_mem_nil
    · rw [hch] at hx; exact absurd hx List.not_mem_nil
    · exact Or.inr (Or.inr hid)
  | start m =>
    have hstart : Held (s.setAgent m (s.agents m).start) := by
      unfold Agent.start
      split
      · rename_i hready
        obtain ⟨hdead, hidle⟩ := hready
        obtain ⟨hin, hch⟩ := h.halted m (by simpa using hdead)
        refine h.move (fun id hid => ?_) (fun id hid => absurd hid List.not_mem_nil)
          fun _ => ⟨rfl, rfl⟩
        rcases hid with ⟨x, hx, -⟩ | ⟨x, hx, -⟩ | ⟨x, hx, -⟩ | hid
        · rw [hin] at hx; exact absurd hx List.not_mem_nil
        · rw [hch] at hx; exact absurd hx List.not_mem_nil
        · rw [hidle] at hx; cases hx
        · exact Or.inr (Or.inr (Or.inr hid))
      · exact h.move (fun _ hid => hid) (h.tracks m) (h.halted m)
    exact hstart

end Steps

lemma Held.initial (now : Time) : Held (.initial now) where
  wf := .empty now
  free c hc := absurd hc List.not_mem_nil
  held c hc := absurd hc List.not_mem_nil
  tracks m id hid := absurd hid List.not_mem_nil
  halted m hdead := by cases hdead
  declined := rfl

/-! ### Nothing is lost -/

/-- Every command that is *delivered* is with the agent it was handed to, and one that was declined
is handed out again, sooner or later. -/
def NothingLost (maxItems : ℕ) (s : System) : Prop :=
  (∀ c ∈ s.fleet.db.commands, c.status = .delivered → (s.agents (holder c)).Holds c.id) ∧
  ∀ id ∈ s.declined, ∃ es : List Event,
    1 < (handedOut (run (step srv maxItems) s es).fleet.responses).count id

/-- **Nothing is lost** in a run that meets the condition, and no command is declined in it. -/
theorem delivered_held (maxItems : ℕ) (now : Time) (es : List Event)
    (hg : Guarded (step srv maxItems) (KeepsCommands maxItems) (.initial now) es) :
    NothingLost srv maxItems (run (step srv maxItems) (.initial now) es) := by
  have hheld : Held (run (step srv maxItems) (.initial now) es) :=
    hg.invariant (P := Held) (fun s e hg h => step_keeps h e hg) (.initial now)
  refine ⟨hheld.held, fun id hid => ?_⟩
  rw [hheld.declined] at hid
  exact absurd hid List.not_mem_nil

/-- A command goes out and is run, and its verdict waits for the network. -/
def oneVerdict : List Event :=
  [.server (.enroll ⟨"pc", none, none, none, none, none, none⟩ "10.0.0.2" "T0"),
    .server (.createCommands [0] .sfcScan none 60 none), .poll 0 (.empty false) "", .accept 0,
    .take 0 none, .complete 0 "ok" none, .deliver 0 false false true]

theorem delivered_held_one_verdict :
    ((run (step .standard 100) (.initial 0) oneVerdict).agents 0).queue =
      [(1, ⟨false, some "ok", none⟩)] ∧
    NothingLost .standard 100 (run (step .standard 100) (.initial 0) oneVerdict) :=
  ⟨by decide, delivered_held .standard 100 0 oneVerdict (by decide)⟩

/-- Seventeen commands of different types, in one response. -/
def backlog : List Event :=
  .server (.enroll ⟨"pc", none, none, none, none, none, none⟩ "10.0.0.2" "T0") ::
  ([.quickScan, .fullScan, .updateSignatures, .gpoUpdate, .flushDns, .timeResync, .certPulse,
    .spoolerReset, .sfcScan, .dismRestoreHealth, .dismComponentCleanup, .chkdskScan, .wuScan,
    .wuInstall, .wuInstallFull, .wuReset, .inventoryScan].map fun t =>
      Event.server (.createCommands [0] t none 60 none)) ++
  .poll 0 (.empty false) "" :: List.replicate 17 (.accept 0)

/-- The last one is delivered, and no agent has it. -/
theorem delivered_lost_backlog :
    ¬∀ es, NothingLost .standard 100 (run (step .standard 100) (.initial 0) es) := by
  intro h
  obtain ⟨hheld, -⟩ := h backlog
  have hrow : ∃ c ∈ (run (step .standard 100) (.initial 0) backlog).fleet.db.commands,
      c.id = 17 ∧ c.status = .delivered ∧ holder c = 0 := by decide +kernel
  have hagent : ((run (step .standard 100) (.initial 0) backlog).agents 0).inbox = [] ∧
      ((run (step .standard 100) (.initial 0) backlog).agents 0).worker = .idle ∧
      ((run (step .standard 100) (.initial 0) backlog).agents 0).queue = [] ∧
      ∀ cmd ∈ ((run (step .standard 100) (.initial 0) backlog).agents 0).channel,
        cmd.id ≠ 17 := by decide +kernel
  obtain ⟨c, hc, hid, hd, hholder⟩ := hrow
  obtain ⟨hin, hworker, hqueue, hchannel⟩ := hagent
  have hold := hheld c hc hd
  rw [hholder, hid] at hold
  rcases hold with ⟨x, hx, -⟩ | ⟨x, hx, hxid⟩ | ⟨x, hx, -⟩ | ⟨v, hv⟩
  · rw [hin] at hx; exact absurd hx List.not_mem_nil
  · exact hchannel x hx hxid
  · rw [hworker] at hx; cases hx
  · rw [hqueue] at hv; exact absurd hv List.not_mem_nil

end Tiai.Handout
