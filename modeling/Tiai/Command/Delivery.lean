import Tiai.Command.Server

/-!
# Delivery is safe

Over every run of the server that starts with empty tables: a command appears in at most one
heartbeat's response, before it expires, and in the right one — its own machine's, or, for a wake,
that of a poste that may relay it, with the address to wake.

* `Fleet.handedOut` — the identifiers in all the responses so far;
* `Eligible` — what the response of a heartbeat may carry;
* `delivery_safe` — both, in every run.

A command is handed out while it is pending, and the same transaction ends that; nothing makes a
command pending again.  The address is the second `normalize_mac` of a column that only ever receives
the first one's answers.
-/

namespace Tiai

open Lib

/-! ### Pending is left once -/

section Pending

variable {srv : Server} {c : Command}

lemma expireRow_pending {now : Time} {machineId : Option Uuid}
    (h : (expireRow now machineId c).status = .pending) : expireRow now machineId c = c := by
  unfold expireRow at h ⊢
  split at h
  · cases h
  · rename_i hc
    rw [if_neg hc]

lemma deliverRow_pending {machineId : Uuid} {packages : List Uuid} {now : Time}
    (h : (deliverRow machineId packages now c).status = .pending) :
    deliverRow machineId packages now c = c := by
  unfold deliverRow at h ⊢
  split at h
  · dsimp only at h
    split at h <;> cases h
  · rename_i hc
    rw [if_neg hc]

lemma closeWakeRow_pending {machineId : Uuid} {now : Time}
    (h : (closeWakeRow machineId now c).status = .pending) : closeWakeRow machineId now c = c := by
  unfold closeWakeRow at h ⊢
  split at h
  · cases h
  · rename_i hc
    rw [if_neg hc]

lemma claimRow_pending {machines : List Machine} {relay : Machine} {now : Time}
    (h : (claimRow srv machines relay now c).status = .pending) :
    claimRow srv machines relay now c = c ∧ claimMac srv machines relay now c = none := by
  unfold claimRow at h ⊢
  cases hm : claimMac srv machines relay now c with
  | none => exact ⟨rfl, rfl⟩
  | some mac =>
    rw [hm] at h
    cases h

/-- A row still pending before the claim pass has been through all the others untouched. -/
lemma settleRow_pending {db : Database} {m : Machine} {now : Time}
    (h : (settleRow srv db m now c).status = .pending) :
    settleRow srv db m now c = c ∧ expireRow now (some m.id) c = c ∧
      deliverRow m.id db.packages now c = c := by
  have inner : (deliverRow m.id db.packages now (expireRow now (some m.id) c)).status = .pending →
      expireRow now (some m.id) c = c ∧ deliverRow m.id db.packages now c = c := by
    intro h
    have hd := deliverRow_pending h
    rw [hd] at h
    have he := expireRow_pending h
    rw [he] at hd
    exact ⟨he, hd⟩
  unfold settleRow at h ⊢
  dsimp only at h ⊢
  split at h
  · rename_i hrelay
    have hw := closeWakeRow_pending h
    rw [hw] at h
    obtain ⟨he, hd⟩ := inner h
    rw [if_pos hrelay, hw, he, hd]
    exact ⟨rfl, rfl, rfl⟩
  · rename_i hrelay
    obtain ⟨he, hd⟩ := inner h
    rw [if_neg hrelay, he, hd]
    exact ⟨rfl, rfl, rfl⟩

lemma rowPass_pending {db : Database} {m : Machine} {now : Time}
    (h : (rowPass srv db m now c).status = .pending) :
    c.status = .pending ∧ deliverRow m.id db.packages now c = c ∧
      (srv.wolRelayEnabled = true → claimMac srv db.machines m now c = none) := by
  unfold rowPass at h
  split at h
  · obtain ⟨hc, hmac⟩ := claimRow_pending h
    rw [hc] at h
    obtain ⟨hs, -, hd⟩ := settleRow_pending h
    rw [hs] at h hmac
    exact ⟨h, hd, fun _ => hmac⟩
  · rename_i hrelay
    obtain ⟨hs, -, hd⟩ := settleRow_pending h
    rw [hs] at h
    exact ⟨h, hd, fun h' => absurd h' hrelay⟩

lemma resultRow_status {m : Machine} {payload payload' : CommandResult} {now : Time} {c' : Command}
    (hv : payload.validate = some payload') (h : resultRow m payload' now c = some c') :
    c'.status = payload'.status := by
  have := validate_status hv
  unfold resultRow at h
  grind

/-- **One step** makes no row pending. -/
theorem RowStep.pending {s : Fleet} {e : Event} {c' : Command} (h : RowStep srv s e c c')
    (hp : c'.status = .pending) : c.status = .pending := by
  cases h with
  | keep => exact hp
  | expire => rw [expireRow_pending hp] at hp; exact hp
  | heartbeat c hm => exact (rowPass_pending hp).1
  | merge => exact hp
  | unlink => exact hp
  | result hm hv hid hr =>
    have := validate_status hv
    rw [resultRow_status hv hr] at hp
    simp [hp] at this

end Pending

/-! ### What one heartbeat hands out -/

section Out

variable {srv : Server} {db : Database} {m : Machine} {now : Time} {c : Command} {out : CommandOut}

lemma ownPending_iff {machineId : Uuid} : ownPending machineId now c = true ↔
    c.machineId = machineId ∧ c.status = .pending ∧ now < c.expiresAt ∧ c.type ≠ .wakeOnLan := by
  simp [ownPending, and_assoc]

/-- One of the machine's own commands: pending, in time, and no wake. -/
theorem ownOut_eq_some (srv : Server) (h : ownOut db m now c = some out) :
    out.id = c.id ∧ out.type = c.type ∧ ownPending m.id now c = true ∧
      (rowPass srv db m now c).status ≠ .pending := by
  unfold ownOut deliverOut at h
  split at h
  · rename_i hc
    have hstatus := (ownPending_iff.mp hc.1).2.1
    rw [expireRow_pending hstatus] at hc h
    obtain rfl := Option.some.inj h
    refine ⟨rfl, rfl, hc.1, fun hp => ?_⟩
    -- the delivery pass changes the row's status
    obtain ⟨hpend, hd, -⟩ := rowPass_pending hp
    unfold deliverRow at hd
    rw [if_pos hc.1] at hd
    dsimp only at hd
    split at hd
    · have := congrArg Command.status hd
      rw [hpend] at this; cases this
    · have := congrArg Command.status hd
      rw [hpend] at this; cases this
  · cases h

/-- A wake of another machine. -/
theorem wakeOut_eq_some (h : wakeOut srv db m now c = some out) :
    out.id = c.id ∧ out.type = c.type ∧ c.status = .pending ∧
      (∃ mac, out.targetMac = some mac ∧ claimMac srv db.machines m now c = some mac) ∧
      (rowPass srv db m now c).status ≠ .pending := by
  unfold wakeOut at h
  split at h
  · rename_i hrelay
    obtain ⟨mac, hmac, rfl⟩ := Option.map_eq_some_iff.mp h
    obtain ⟨hcand, -⟩ := claimMac_eq_some hmac
    have hpend : (settleRow srv db m now c).status = .pending := by
      unfold wakeCandidate at hcand
      grind
    obtain ⟨hs, -⟩ := settleRow_pending hpend
    rw [hs] at hmac hpend ⊢
    refine ⟨rfl, rfl, hpend, ⟨mac, rfl, hmac⟩, fun hp => ?_⟩
    have := (rowPass_pending hp).2.2 hrelay
    rw [hmac] at this; cases this
  · cases h

end Out

/-! ### At most once -/

/-- The identifiers of every command in every response. -/
def handedOut (responses : List Response) : List Uuid :=
  responses.flatMap fun r => r.commands.map CommandOut.id

/-- What is picked from a list by a function that keeps the key comes from different keys. -/
lemma filterMap_key_sublist {α β : Type} {κ : Type} (key : α → κ) (key' : β → κ) (g : α → Option β)
    (hg : ∀ a b, g a = some b → key' b = key a) (l : List α) :
    ((l.filterMap g).map key').Sublist (l.map key) := by
  induction l with
  | nil => exact List.Sublist.refl _
  | cons a l ih =>
    cases hga : g a with
    | none =>
      rw [List.filterMap_cons_none hga]
      exact ih.cons _
    | some b =>
      rw [List.filterMap_cons_some hga, List.map_cons, List.map_cons, hg a b hga]
      exact ih.cons_cons _

section AtMostOnce

variable {srv : Server}

/-- The commands a response carries, and how they leave the queue. -/
lemma handOut_spec (srv : Server) (db : Database) (m : Machine) (now : Time)
    (hids : (db.commands.map Command.id).Nodup) :
    ((handOut srv db m now).2.map CommandOut.id).Nodup ∧
      ∀ out ∈ (handOut srv db m now).2, ∃ c ∈ db.commands, c.id = out.id ∧ c.type = out.type ∧
        c.status = .pending ∧ (rowPass srv db m now c).status ≠ .pending ∧
        (ownOut db m now c = some out ∨ wakeOut srv db m now c = some out) := by
  rw [handOut_eq]
  have own_id : ∀ c out, ownOut db m now c = some out → CommandOut.id out = c.id :=
    fun c out h => (ownOut_eq_some srv h).1
  have wake_id : ∀ c out, wakeOut srv db m now c = some out → CommandOut.id out = c.id :=
    fun c out h => (wakeOut_eq_some h).1
  constructor
  · rw [List.map_append]
    refine List.Nodup.append
      ((filterMap_key_sublist Command.id CommandOut.id _ own_id _).nodup hids)
      ((filterMap_key_sublist Command.id CommandOut.id _ wake_id _).nodup hids) ?_
    -- a command is a wake or it is not
    rintro i hi hi'
    obtain ⟨out, hout, rfl⟩ := List.mem_map.mp hi
    obtain ⟨out', hout', he⟩ := List.mem_map.mp hi'
    obtain ⟨c, hc, h⟩ := List.mem_filterMap.mp hout
    obtain ⟨c', hc', h'⟩ := List.mem_filterMap.mp hout'
    have hcc : c' = c := List.inj_on_of_nodup_map hids hc' hc
      (by rw [← wake_id c' out' h', he, own_id c out h])
    subst hcc
    obtain ⟨-, -, hown, -⟩ := ownOut_eq_some srv h
    obtain ⟨-, -, -, ⟨mac, -, hmac⟩, -⟩ := wakeOut_eq_some h'
    obtain ⟨hcand, -⟩ := claimMac_eq_some hmac
    have := (ownPending_iff.mp hown).2.2.2
    unfold wakeCandidate at hcand
    grind
  · intro out hout
    rcases List.mem_append.mp hout with hout | hout
    · obtain ⟨c, hc, h⟩ := List.mem_filterMap.mp hout
      obtain ⟨hid, htype, hown, hnot⟩ := ownOut_eq_some srv h
      exact ⟨c, hc, hid.symm, htype.symm, (ownPending_iff.mp hown).2.1, hnot, Or.inl h⟩
    · obtain ⟨c, hc, h⟩ := List.mem_filterMap.mp hout
      obtain ⟨hid, htype, hpend, -, hnot⟩ := wakeOut_eq_some h
      exact ⟨c, hc, hid.symm, htype.symm, hpend, hnot, Or.inr h⟩

/-- What has been handed out is in the past: no pending command, and no identifier still to come. -/
structure Once (s : Fleet) : Prop where
  wf : s.Wf
  once : (handedOut s.responses).Nodup
  settled : ∀ i ∈ handedOut s.responses, ∀ c ∈ s.db.commands, c.id = i → c.status ≠ .pending
  bound : ∀ i ∈ handedOut s.responses, i < s.nextId

/-- A step that answers no heartbeat. -/
lemma Once.quiet {s : Fleet} (h : Once s) (e : Event)
    (hr : (step srv s e).responses = s.responses) : Once (step srv s e) where
  wf := step_wf h.wf e
  once := by rw [hr]; exact h.once
  settled i hi c hc hid hp := by
    rw [hr] at hi
    rcases step_row_cases srv h.wf e hc with ⟨c₀, hc₀, hrow⟩ | hnew
    · exact h.settled i hi c₀ hc₀ (hrow.id_eq ▸ hid) (hrow.pending hp)
    · exact absurd (h.bound i hi) (Nat.not_lt.mpr (hid ▸ hnew.fresh))
  bound i hi := by
    rw [hr] at hi
    exact lt_of_lt_of_le (h.bound i hi) (step_nextId s e)

lemma Once.heartbeat {s : Fleet} (h : Once s) {machineId : Uuid} {p : HeartbeatRequest}
    {drawn : Token} {m : Machine} (hm : getMachine s.db.machines machineId = some m) :
    Once (step srv s (.heartbeat machineId p drawn)) := by
  let db := reportedDb srv s.db m p s.now
  let reported := m.report srv p s.now
  obtain ⟨hnodup, hout⟩ := handOut_spec srv db reported s.now h.wf.nodup
  have hstep : step srv s (.heartbeat machineId p drawn) =
      { s with
        db := (Tiai.heartbeat srv s.db m p s.now drawn).1
        responses := s.responses ++ [(Tiai.heartbeat srv s.db m p s.now drawn).2] } := by
    simp only [step, hm]
  have hresp : handedOut (step srv s (.heartbeat machineId p drawn)).responses =
      handedOut s.responses ++ (handOut srv db reported s.now).2.map CommandOut.id := by
    rw [hstep]
    simp only [handedOut, List.flatMap_append]
    congr 1
    exact List.flatMap_singleton ..
  have hrow : ∀ c' ∈ (step srv s (.heartbeat machineId p drawn)).db.commands,
      ∃ c ∈ s.db.commands, c' = rowPass srv db reported s.now c := by
    intro c' hc'
    rw [hstep] at hc'
    have hcommands : (Tiai.heartbeat srv s.db m p s.now drawn).1.commands =
        s.db.commands.map (rowPass srv db reported s.now) := by
      show (handOut srv db reported s.now).1 = _
      rw [handOut_eq]
      rfl
    obtain ⟨c, hc, rfl⟩ := List.mem_map.mp (hcommands ▸ hc')
    exact ⟨c, hc, rfl⟩
  refine ⟨step_wf h.wf _, ?_, ?_, ?_⟩
  · rw [hresp]
    refine List.Nodup.append h.once hnodup ?_
    rintro i hi hi'
    obtain ⟨out, ho, rfl⟩ := List.mem_map.mp hi'
    obtain ⟨c, hc, hid, -, hpend, -⟩ := hout out ho
    exact h.settled _ hi c hc hid hpend
  · intro i hi c' hc' hid hp
    obtain ⟨c, hc, rfl⟩ := hrow c' hc'
    rw [rowPass_id] at hid
    rw [hresp] at hi
    rcases List.mem_append.mp hi with hi | hi
    · exact h.settled i hi c hc hid (rowPass_pending hp).1
    · obtain ⟨out, ho, rfl⟩ := List.mem_map.mp hi
      obtain ⟨c₀, hc₀, hid₀, -, -, hnot, -⟩ := hout out ho
      obtain rfl : c = c₀ := h.wf.eq_of_id hc hc₀ (hid.trans hid₀.symm)
      exact hnot hp
  · intro i hi
    have hnext : (step srv s (.heartbeat machineId p drawn)).nextId = s.nextId := by rw [hstep]
    rw [hnext]
    rw [hresp] at hi
    rcases List.mem_append.mp hi with hi | hi
    · exact h.bound i hi
    · obtain ⟨out, ho, rfl⟩ := List.mem_map.mp hi
      obtain ⟨c, hc, hid, -⟩ := hout out ho
      rw [← hid]
      exact h.wf.bound c hc

theorem step_once {s : Fleet} (h : Once s) (e : Event) : Once (step srv s e) := by
  cases e with
  | heartbeat machineId p drawn =>
    cases hm : getMachine s.db.machines machineId with
    | none => exact h.quiet _ (by simp only [step, hm])
    | some m => exact h.heartbeat hm
  | result machineId commandId payload =>
    refine h.quiet _ ?_
    simp only [step]
    split <;> rfl
  | tick | enroll | createCommands | wake | sweep | merge | addPackage | deletePackage =>
    exact h.quiet _ rfl

end AtMostOnce

/-! ### To the right machine -/

/-- What a shared wire means: one location, or, for a target without one, one domain. -/
def OnWire (relay target : Machine) : Prop :=
  (∃ l, l ≠ "" ∧ target.location = some l ∧ relay.location = some l) ∨
    (present target.location = none ∧ ∃ d, d ≠ "" ∧ target.domain = some d ∧ relay.domain = some d)

/-- What the response to a heartbeat of `m` with the payload `p` may carry. -/
def Eligible (srv : Server) (s : Fleet) (m : Machine) (p : HeartbeatRequest) (out : CommandOut) :
    Prop :=
  ∃ c ∈ s.db.commands, c.id = out.id ∧ c.type = out.type ∧ s.now < c.expiresAt ∧
    (c.type ≠ .wakeOnLan → c.machineId = m.id) ∧
    (c.type = .wakeOnLan → ∃ target ∈ s.db.machines, target.id = c.machineId ∧ target.id ≠ m.id ∧
      OnWire (m.report srv p s.now) target ∧
      (sameSubnet (m.report srv p s.now) target = true ∨
        s.now - c.createdAt ≥ seconds srv.wolRelaySubnetGraceSeconds) ∧
      ∃ mac, out.targetMac = some mac ∧ target.macAddress = some mac ∧ Wol.IsCanonicalMac mac)

lemma present_eq_some {value : Option String} {v : String} (h : present value = some v) :
    value = some v ∧ v ≠ "" := by
  unfold present at h
  obtain ⟨h₁, h₂⟩ := Option.filter_eq_some_iff.mp h
  exact ⟨h₁, by simpa using h₂⟩

lemma sharesWire_onWire {relay target : Machine} (h : sharesWire relay target = true) :
    relay.id ≠ target.id ∧ OnWire relay target := by
  unfold sharesWire at h
  split at h
  · cases h
  · rename_i hid
    refine ⟨hid, ?_⟩
    split at h
    · rename_i hloc
      obtain ⟨l, hl⟩ := Option.isSome_iff_exists.mp hloc
      obtain ⟨hl, hne⟩ := present_eq_some hl
      exact Or.inl ⟨l, hne, hl, by simpa [hl] using h⟩
    · rename_i hloc
      split at h
      · rename_i hdom
        obtain ⟨d, hd⟩ := Option.isSome_iff_exists.mp hdom
        obtain ⟨hd, hne⟩ := present_eq_some hd
        exact Or.inr ⟨by simpa using hloc, d, hne, hd, by simpa [hd] using h⟩
      · cases h

/-- Every stored address is an answer of `normalize_mac`. -/
def MacStored (machines : List Machine) : Prop :=
  ∀ m ∈ machines, ∀ mac, m.macAddress = some mac → ∃ value, Wol.normalizeMac value = some mac

section Mac

variable {srv : Server} {machines : List Machine}

lemma MacStored.write (h : MacStored machines) {m : Machine}
    (hm : ∀ mac, m.macAddress = some mac → ∃ value, Wol.normalizeMac value = some mac) :
    MacStored (writeMachine machines m) := by
  intro x hx
  rcases mem_writeMachine hx with rfl | ⟨hx, -⟩
  · exact hm
  · exact h x hx

lemma MacStored.get (h : MacStored machines) {id : Uuid} {m : Machine}
    (hm : getMachine machines id = some m) : ∀ mac, m.macAddress = some mac →
      ∃ value, Wol.normalizeMac value = some mac :=
  h m (getMachine_mem hm).1

lemma MacStored.enroll (h : MacStored machines) (body : EnrollRequest) (ip : String) (now : Time)
    (id : Uuid) (token : Token) : MacStored (enroll srv machines body ip now id token).1 := by
  rcases enroll_cases srv machines body ip now id token with
    ⟨e, he⟩ | ⟨m, hm, e, he⟩ | ⟨shared, he⟩ | ⟨m, hm, shared, -, -, he⟩
  · rw [he]; exact h
  · rw [he]; exact h.write (h m hm)
  · rw [he]
    intro x hx
    rcases List.mem_append.mp hx with hx | hx
    · exact h x hx
    · rw [List.mem_singleton.mp hx]
      nofun
  · rw [he]; exact h.write (h m hm)

lemma report_macAddress (m : Machine) (p : HeartbeatRequest) (now : Time) :
    (m.report srv p now).macAddress = (Wol.normalizeMac p.macAddress).or m.macAddress := by
  simp only [Machine.report]; rw [reportFingerprint_frame]; rfl

lemma MacStored.report {m : Machine}
    (hm : ∀ mac, m.macAddress = some mac → ∃ value, Wol.normalizeMac value = some mac)
    (p : HeartbeatRequest) (now : Time) (mac : String)
    (h : (m.report srv p now).macAddress = some mac) :
    ∃ value, Wol.normalizeMac value = some mac := by
  rw [report_macAddress] at h
  cases hn : Wol.normalizeMac p.macAddress with
  | none => exact hm mac (by simpa [hn] using h)
  | some mac' => exact ⟨p.macAddress, by simpa [hn] using h⟩

lemma offer_macAddress (m : Machine) (supports : Bool) (now : Time) (token : Token) :
    (m.offer srv supports now token).1.macAddress = m.macAddress := by
  rcases offer_cases srv m supports now token with ⟨h, -⟩ | ⟨h, -⟩ <;> rw [h]

theorem step_macStored {s : Fleet} (h : MacStored s.db.machines) (e : Event) :
    MacStored (step srv s e).db.machines := by
  cases e with
  | tick | createCommands | wake | sweep | addPackage | deletePackage => exact h
  | enroll body ip token => exact h.enroll body ip s.now s.nextId token
  | result machineId commandId payload =>
    simp only [step]
    split <;> exact h
  | heartbeat machineId p drawn =>
    simp only [step]
    split
    · exact h
    · rename_i m hm
      have hreport : ∀ mac, (m.report srv p s.now).macAddress = some mac →
          ∃ value, Wol.normalizeMac value = some mac := MacStored.report (h.get hm) p s.now
      refine (h.write hreport).write fun mac hmac => hreport mac ?_
      exact (offer_macAddress _ _ _ _).symm.trans hmac
  | merge targetId sourceId =>
    simp only [step, mergeMachine]
    split
    · exact h
    · split
      · rename_i target source htarget hsource
        intro x hx
        have hmac : ∀ mac, (target.absorb source s.now).macAddress = some mac →
            ∃ value, Wol.normalizeMac value = some mac := fun mac hm => h.get htarget mac hm
        have hw := h.write hmac
        exact hw x (List.mem_of_mem_filter hx)
      · exact h

end Mac

/-- **Delivery is safe.**  Over the whole run no command is handed out twice; and in whatever state
the run has led to, the response to any machine's heartbeat carries eligible commands only. -/
theorem delivery_safe (srv : Server) (now : Time) (es : List Event) :
    (handedOut (run (step srv) (.empty now) es).responses).Nodup ∧
    ∀ (machineId : Uuid) (p : HeartbeatRequest) (drawn : Token) (m : Machine),
      getMachine (run (step srv) (.empty now) es).db.machines machineId = some m →
      (step srv (run (step srv) (.empty now) es) (.heartbeat machineId p drawn)).responses =
        (run (step srv) (.empty now) es).responses ++ [(heartbeat srv
          (run (step srv) (.empty now) es).db m p (run (step srv) (.empty now) es).now drawn).2] ∧
      ∀ out ∈ (heartbeat srv (run (step srv) (.empty now) es).db m p
          (run (step srv) (.empty now) es).now drawn).2.commands,
        Eligible srv (run (step srv) (.empty now) es) m p out := by
  have honce : Once (run (step srv) (.empty now) es) := by
    refine run_invariant (P := Once) (fun s e h => step_once h e) ⟨.empty now, ?_, ?_, ?_⟩ es
    · exact List.nodup_nil
    · exact fun i hi => absurd hi List.not_mem_nil
    · exact fun i hi => absurd hi List.not_mem_nil
  have hmac : MacStored (run (step srv) (.empty now) es).db.machines := by
    refine run_invariant (P := fun s : Fleet => MacStored s.db.machines)
      (fun s e h => step_macStored h e) ?_ es
    exact fun m hm => absurd hm List.not_mem_nil
  generalize run (step srv) (.empty now) es = s at honce hmac
  refine ⟨honce.once, fun machineId p drawn m hm => ⟨by simp only [step, hm], fun out ho => ?_⟩⟩
  obtain ⟨-, hout⟩ := handOut_spec srv (reportedDb srv s.db m p s.now) (m.report srv p s.now) s.now
    honce.wf.nodup
  obtain ⟨c, hc, hid, htype, -, -, h | h⟩ := hout out ho
  · -- one of the machine's own commands
    obtain ⟨-, -, hown, -⟩ := ownOut_eq_some srv h
    obtain ⟨hmachine, -, hexp, hwake⟩ := ownPending_iff.mp hown
    exact ⟨c, hc, hid, htype, hexp, fun _ => hmachine.trans (report_id srv m p s.now),
      fun hw => absurd hw hwake⟩
  · -- a wake the machine may relay
    obtain ⟨-, -, -, ⟨mac, hout', hclaim⟩, -⟩ := wakeOut_eq_some h
    obtain ⟨hcand, target, htarget, htid, hmay, hnorm⟩ := claimMac_eq_some hclaim
    obtain ⟨hwire, hwhen⟩ := mayClaim_iff.mp hmay
    obtain ⟨hne, hon⟩ := sharesWire_onWire hwire
    have hrid : (m.report srv p s.now).id = m.id := report_id srv m p s.now
    have hcand' : c.type = .wakeOnLan ∧ s.now < c.expiresAt := by
      unfold wakeCandidate at hcand
      grind
    have hmem : target ∈ s.db.machines := by
      rcases mem_writeMachine htarget with rfl | ⟨hmem, -⟩
      · exact absurd rfl hne
      · exact hmem
    refine ⟨c, hc, hid, htype, hcand'.2, fun hw => absurd hcand'.1 hw, fun _ =>
      ⟨target, hmem, htid, fun he => hne (hrid.trans he.symm), hon, hwhen, mac, hout', ?_⟩⟩
    cases hstored : target.macAddress with
    | none =>
      rw [hstored] at hnorm
      cases hnorm
    | some stored =>
      obtain ⟨value, hvalue⟩ := hmac target hmem stored hstored
      rw [hstored] at hnorm
      obtain ⟨hcanon, rfl⟩ := Wol.normalizeMac_stored hvalue hnorm
      exact ⟨rfl, hcanon⟩

/-- A machine enrolls and is sent a command. -/
def oneCommand : List Event :=
  [.enroll ⟨"pc", none, none, none, none, none, none⟩ "10.0.0.2" "T0",
    .createCommands [0] .sfcScan none 60 none]

/-- The row it enrolled under. -/
def oneMachine : Machine :=
  (Machine.new 0 "pc" 0).enrolled .standard ⟨"pc", none, none, none, none, none, none⟩ false 0 "T0"

theorem delivery_safe_one_command :
    ⟨1, .sfcScan, none, none⟩ ∈ (heartbeat .standard (run (step .standard) (.empty 0) oneCommand).db
      oneMachine (.empty false) (run (step .standard) (.empty 0) oneCommand).now "").2.commands ∧
    Eligible .standard (run (step .standard) (.empty 0) oneCommand) oneMachine (.empty false)
      ⟨1, .sfcScan, none, none⟩ := by
  have hout : ⟨1, .sfcScan, none, none⟩ ∈ (heartbeat .standard
      (run (step .standard) (.empty 0) oneCommand).db oneMachine (.empty false)
      (run (step .standard) (.empty 0) oneCommand).now "").2.commands := by decide
  exact ⟨hout, ((delivery_safe .standard 0 oneCommand).2 0 (.empty false) "" oneMachine
    (by decide)).2 _ hout⟩

end Tiai
