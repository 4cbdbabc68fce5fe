import Mathlib.Data.List.Induction
import Tiai.Command.Delivery
import Tiai.Command.Lifecycle

/-!
# How a machine comes to have two open commands of a kind

`create_for_machines` skips a machine that has a command of the type, for the package, still open.  Over
every run of the server, two open commands of one slot have one of two causes (`one_open`): a merge
re-addressed one of them while both were open, or a wake was queued while another one was running.

* `Command.target` — what a row is for: no step but a merge, or the deletion of its package, changes it;
* `step_origin` — where a row comes from: the row before, a bulk creation, or a wake;
* `clash_step` — one step backwards from two open commands of one slot.
-/

namespace Tiai

open Lib

/-! ### Open commands -/

/-- Neither terminal nor past its expiry. -/
def Command.isOpen (c : Command) (now : Time) : Bool := !c.terminal && now < c.expiresAt

/-- The same machine, type and package; a deployment whose package was deleted has none left. -/
structure SameSlot (c d : Command) : Prop where
  machineId : c.machineId = d.machineId
  type : c.type = d.type
  packageId : c.packageId = d.packageId
  named : c.type ∈ packageCommandTypes → c.packageId ≠ none

/-- What a row is for. -/
structure Target where
  machineId : Uuid
  type : CommandType
  packageId : Option Uuid
  expiresAt : Time

def Command.target (c : Command) : Target := ⟨c.machineId, c.type, c.packageId, c.expiresAt⟩

section Rows

variable {srv : Server} {s : Fleet} {e : Event} {c c' : Command} {now : Time}

lemma isOpen_iff : c.isOpen now = true ↔ c.terminal = false ∧ now < c.expiresAt := by
  simp [Command.isOpen]

lemma expireRow_target (now : Time) (machineId : Option Uuid) :
    (expireRow now machineId c).target = c.target := by
  unfold expireRow; split <;> rfl

lemma deliverRow_target (machineId : Uuid) (packages : List Uuid) (now : Time) :
    (deliverRow machineId packages now c).target = c.target := by
  unfold deliverRow; split
  · dsimp only; split <;> rfl
  · rfl

lemma closeWakeRow_target (machineId : Uuid) (now : Time) :
    (closeWakeRow machineId now c).target = c.target := by
  unfold closeWakeRow; split <;> rfl

lemma claimRow_target (machines : List Machine) (relay : Machine) (now : Time) :
    (claimRow srv machines relay now c).target = c.target := by
  unfold claimRow; split <;> rfl

lemma rowPass_target (db : Database) (m : Machine) (now : Time) :
    (rowPass srv db m now c).target = c.target := by
  have hsettle : (settleRow srv db m now c).target = c.target := by
    unfold settleRow
    split
    · rw [closeWakeRow_target, deliverRow_target, expireRow_target]
    · rw [deliverRow_target, expireRow_target]
  unfold rowPass
  split
  · rw [claimRow_target, hsettle]
  · exact hsettle

lemma resultRow_target {m : Machine} {payload : CommandResult}
    (h : resultRow m payload now c = some c') : c'.target = c.target := by
  unfold resultRow at h
  unfold Command.target
  grind

/-- An open row was not swept. -/
lemma expireRow_open {machineId : Option Uuid} (h : now < c.expiresAt) :
    expireRow now machineId c = c := by
  unfold expireRow
  rw [if_neg]
  rintro ⟨-, hlate, -⟩
  exact Int.lt_irrefl _ (Int.lt_trans h hlate)

lemma expireRow_live {machineId : Option Uuid} (h : (expireRow now machineId c).terminal = false) :
    expireRow now machineId c = c := by
  unfold expireRow at h ⊢
  split at h
  · simp [Command.terminal, terminalStatuses] at h
  · rename_i hc
    rw [if_neg hc]

/-- No step makes a terminal row open. -/
lemma RowStep.terminal (h : RowStep srv s e c c') (ht : c.terminal = true) : c'.terminal = true := by
  cases h with
  | keep => exact ht
  | expire => rwa [expireRow_terminal ht]
  | heartbeat => rwa [rowPass_terminal ht]
  | merge => exact ht
  | unlink => exact ht
  | result hm hv hid hr =>
    obtain ⟨-, -, hrun⟩ := resultRow_terminal ht hr
    have hstatus := resultRow_status hv hr
    rw [terminal_iff, hstatus]
    rcases validate_status hv with h | h | h
    · exact absurd h hrun
    · exact Or.inl h
    · exact Or.inr (Or.inl h)

lemma RowStep.expiresAt (h : RowStep srv s e c c') : c'.expiresAt = c.expiresAt := by
  cases h with
  | keep => rfl
  | expire => exact congrArg Target.expiresAt (expireRow_target ..)
  | heartbeat => exact congrArg Target.expiresAt (rowPass_target ..)
  | merge => rfl
  | unlink => rfl
  | result hm hv hid hr => exact congrArg Target.expiresAt (resultRow_target hr)

lemma RowStep.type (h : RowStep srv s e c c') : c'.type = c.type := by
  cases h with
  | keep => rfl
  | expire => exact congrArg Target.type (expireRow_target ..)
  | heartbeat => exact congrArg Target.type (rowPass_target ..)
  | merge => rfl
  | unlink => rfl
  | result hm hv hid hr => exact congrArg Target.type (resultRow_target hr)

lemma step_now (s : Fleet) (e : Event) : s.now ≤ (step srv s e).now := by
  cases e with
  | tick d => exact Int.le_add_of_nonneg_right (Int.natCast_nonneg d)
  | heartbeat machineId p drawn => simp only [step]; split <;> exact Int.le_refl _
  | result machineId commandId payload => simp only [step]; split <;> exact Int.le_refl _
  | enroll | createCommands | wake | sweep | merge | addPackage | deletePackage => exact Int.le_refl _

/-- A row that is open after a step was open before. -/
lemma RowStep.open_before (h : RowStep srv s e c c') (hopen : c'.isOpen (step srv s e).now = true) :
    c.isOpen s.now = true := by
  obtain ⟨hlive, hlate⟩ := isOpen_iff.1 hopen
  refine isOpen_iff.2 ⟨?_, ?_⟩
  · rw [Bool.eq_false_iff]
    intro ht
    rw [h.terminal ht] at hlive
    cases hlive
  · rw [← h.expiresAt]
    exact Int.lt_of_le_of_lt (step_now s e) hlate

end Rows

/-! ### Machines, and the packages of rows -/

/-- Machines are told apart by their identifiers, and only a deployment names a package. -/
structure Fleet.Kinds (s : Fleet) : Prop where
  machines : (s.db.machines.map Machine.id).Nodup
  bound : ∀ m ∈ s.db.machines, m.id < s.nextId
  packages : ∀ c ∈ s.db.commands, c.terminal = false → c.type ∉ packageCommandTypes →
    c.packageId = none

section Kinds

variable {srv : Server} {s : Fleet} {e : Event} {c c' : Command}

lemma Fleet.Kinds.empty (now : Time) : (Fleet.empty now).Kinds where
  machines := List.nodup_nil
  bound _ h := absurd h List.not_mem_nil
  packages _ h := absurd h List.not_mem_nil

/-- The machines after a step: the same identifiers, some of them, or one that was just drawn. -/
lemma step_machines (srv : Server) (s : Fleet) (e : Event) :
    ((step srv s e).db.machines.map Machine.id).Sublist (s.db.machines.map Machine.id) ∨
      ((step srv s e).db.machines.map Machine.id = s.db.machines.map Machine.id ++ [s.nextId] ∧
        (step srv s e).nextId = s.nextId + 1) := by
  have hsame {machines : List Machine} (h : machines.map Machine.id = s.db.machines.map Machine.id) :
      (machines.map Machine.id).Sublist (s.db.machines.map Machine.id) := by
    rw [h]
  cases e with
  | enroll body ip token =>
    rcases enroll_cases srv s.db.machines body ip s.now s.nextId token with
      ⟨error, h⟩ | ⟨m, -, error, h⟩ | ⟨shared, h⟩ | ⟨m, -, shared, -, -, h⟩
    · exact .inl (hsame (by simp only [step, h]))
    · exact .inl (hsame (by simp only [step, h, map_id_writeMachine]))
    · refine .inr ⟨?_, rfl⟩
      simp only [step, h, List.map_append]
      rfl
    · exact .inl (hsame (by simp only [step, h, map_id_writeMachine]))
  | heartbeat machineId p drawn =>
    refine .inl ?_
    simp only [step]
    split
    · exact List.Sublist.refl _
    · refine hsame ?_
      simp only [heartbeat, map_id_writeMachine]
  | merge targetId sourceId =>
    refine .inl ?_
    simp only [step, mergeMachine]
    split
    · exact List.Sublist.refl _
    · split
      · exact (List.filter_sublist.map Machine.id).trans (hsame (map_id_writeMachine ..))
      · exact List.Sublist.refl _
  | result machineId commandId payload =>
    refine .inl ?_
    simp only [step]
    split <;> exact List.Sublist.refl _
  | tick | createCommands | wake | sweep | addPackage | deletePackage =>
    exact .inl (List.Sublist.refl _)

lemma Fleet.Kinds.step_ids (h : s.Kinds) (e : Event) :
    ((step srv s e).db.machines.map Machine.id).Nodup ∧
      ∀ m ∈ (step srv s e).db.machines, m.id < (step srv s e).nextId := by
  have hnew : s.nextId ∉ s.db.machines.map Machine.id := by
    intro hin
    obtain ⟨m, hm, hid⟩ := List.mem_map.1 hin
    exact absurd (h.bound m hm) (by rw [hid]; exact lt_irrefl _)
  rcases step_machines srv s e with hsub | ⟨hids, hnext⟩
  · refine ⟨hsub.nodup h.machines, fun m hm => ?_⟩
    obtain ⟨m₀, hm₀, hid⟩ := List.mem_map.1 (hsub.subset (List.mem_map_of_mem hm))
    rw [← hid]
    exact lt_of_lt_of_le (h.bound m₀ hm₀) (step_nextId s e)
  · refine ⟨?_, fun m hm => ?_⟩
    · rw [hids]
      exact List.Nodup.append h.machines (List.nodup_singleton _) (by simpa using hnew)
    · have hin : m.id ∈ s.db.machines.map Machine.id ++ [s.nextId] := by
        rw [← hids]
        exact List.mem_map_of_mem hm
      rw [hnext]
      rcases List.mem_append.1 hin with hin | hin
      · obtain ⟨m₀, hm₀, hid⟩ := List.mem_map.1 hin
        rw [← hid]
        exact Nat.lt_succ_of_lt (h.bound m₀ hm₀)
      · rw [List.mem_singleton.1 hin]
        exact Nat.lt_succ_self _

/-! ### Where a row comes from -/

/-- A row of a bulk creation. -/
def Created (s : Fleet) (e : Event) (c : Command) : Prop :=
  ∃ requested type createdBy ttlMinutes packageId package,
    e = .createCommands requested type createdBy ttlMinutes packageId ∧ type ≠ .wakeOnLan ∧
      deployablePackage s.db.packages type packageId = some package ∧
      c ∈ createForMachines (markExpired s.db.commands s.now none) s.nextId
        ((s.db.machines.map Machine.id).filter (· ∈ requested)) type createdBy s.now
        (s.now + minutes ttlMinutes) package

/-- A wake that waits for a relay. -/
def Queued (srv : Server) (s : Fleet) (e : Event) (c : Command) : Prop :=
  ∃ machineId createdBy emitted target, e = .wake machineId createdBy emitted ∧
    getMachine s.db.machines machineId = some target ∧
    openWakeFor s.db.commands target s.now = none ∧
    c = queuedWake srv s.nextId target.id createdBy s.now

lemma queueRelayedWake_row {machines : List Machine} {commands : List Command} {id : Uuid}
    {target : Machine} {createdBy : Option String} {now : Time}
    (h : (queueRelayedWake srv machines commands id target createdBy now).1 = some c) :
    (∃ outcome, c = closedWake id target.id createdBy now outcome) ∨
      (openWakeFor commands target now = none ∧ c = queuedWake srv id target.id createdBy now) := by
  unfold queueRelayedWake at h
  dsimp only at h
  split at h
  · exact .inl ⟨_, (Option.some.inj h).symm⟩
  split at h
  · exact .inl ⟨_, (Option.some.inj h).symm⟩
  split at h
  · cases h
  · rename_i hnone
    split at h
    · exact .inl ⟨_, (Option.some.inj h).symm⟩
    · exact .inr ⟨hnone, (Option.some.inj h).symm⟩

lemma closedWake_terminal {id machineId : Uuid} {createdBy : Option String} {now : Time}
    {outcome : WakeOutcome} : (closedWake id machineId createdBy now outcome).terminal = true := by
  rw [terminal_iff]
  unfold closedWake
  dsimp only
  split
  · exact .inl rfl
  · exact .inr (.inl rfl)

/-- **Where a row comes from.**  A row that is not terminal is one of the rows before, or was just
created in bulk, or is a wake that was just queued. -/
theorem step_origin (hwf : s.Wf) (hc : c' ∈ (step srv s e).db.commands)
    (hlive : c'.terminal = false) :
    (∃ c ∈ s.db.commands, RowStep srv s e c c') ∨ Created s e c' ∨ Queued srv s e c' := by
  rcases step_row_cases srv hwf e hc with hold | hnew
  · exact .inl hold
  have hnone (h : (step srv s e).nextId = s.nextId) : False :=
    absurd hnew.bound (by rw [h]; exact Nat.not_lt.2 hnew.fresh)
  cases e with
  | createCommands requested type createdBy ttlMinutes packageId =>
    simp only [step, createCommands] at hc
    split at hc
    · exact .inl ⟨c', hc, .keep _ _⟩
    rename_i htype
    split at hc
    · exact .inl ⟨c', hc, .keep _ _⟩
    rename_i package hpackage
    rcases List.mem_append.1 hc with hc | hc
    · obtain ⟨c, hin, rfl⟩ := List.mem_map.1 hc
      exact .inl ⟨c, hin, .expire _ c⟩
    · exact .inr (.inl ⟨requested, type, createdBy, ttlMinutes, packageId, package, rfl, htype,
        hpackage, hc⟩)
  | wake machineId createdBy emitted =>
    simp only [step, wakeMachine] at hc
    split at hc
    · exact .inl ⟨c', hc, .keep _ _⟩
    rename_i target htarget
    split at hc
    · rcases List.mem_append.1 hc with hc | hc
      · exact .inl ⟨c', hc, .keep _ _⟩
      · rcases queueRelayedWake_row (by simpa using hc) with ⟨outcome, rfl⟩ | ⟨hnone, hqueued⟩
        · rw [closedWake_terminal] at hlive
          cases hlive
        · exact .inr (.inr ⟨machineId, createdBy, emitted, target, rfl, htarget, hnone, hqueued⟩)
    · rcases List.mem_append.1 hc with hc | hc
      · exact .inl ⟨c', hc, .keep _ _⟩
      · rw [List.mem_singleton.1 hc, closedWake_terminal] at hlive
        cases hlive
  | enroll body ip token => exact .inl ⟨c', hc, .keep _ _⟩
  | addPackage => exact .inl ⟨c', hc, .keep _ _⟩
  | tick | sweep | merge | deletePackage => exact (hnone rfl).elim
  | heartbeat machineId p drawn => exact (hnone (by simp only [step]; split <;> rfl)).elim
  | result machineId commandId payload => exact (hnone (by simp only [step]; split <;> rfl)).elim

lemma createForMachines_row {commands : List Command} {nextId : Uuid} {ids : List Uuid}
    {type : CommandType} {createdBy : Option String} {now expiresAt : Time}
    {packageId : Option Uuid}
    (hc : c ∈ createForMachines commands nextId ids type createdBy now expiresAt packageId) :
    c.type = type ∧ c.packageId = packageId ∧
      hasOpenCommand commands c.machineId type packageId now = false := by
  unfold createForMachines at hc
  obtain ⟨⟨m, i⟩, hmem, rfl⟩ := List.mem_map.1 hc
  have hm : hasOpenCommand commands m type packageId now = false := by
    simpa using (List.mem_filter.1 (List.fst_mem_of_mem_zipIdx hmem)).2
  exact ⟨rfl, rfl, hm⟩

/-- A bulk creation creates one row for a machine. -/
lemma createForMachines_one {commands : List Command} {nextId : Uuid} {ids : List Uuid}
    {type : CommandType} {createdBy : Option String} {now expiresAt : Time}
    {packageId : Option Uuid} (hids : ids.Nodup)
    (hc : c ∈ createForMachines commands nextId ids type createdBy now expiresAt packageId)
    (hc' : c' ∈ createForMachines commands nextId ids type createdBy now expiresAt packageId)
    (hmachine : c.machineId = c'.machineId) : c = c' := by
  unfold createForMachines at hc hc'
  have htargets := hids.filter fun m => !hasOpenCommand commands m type packageId now
  obtain ⟨⟨m, i⟩, hmem, rfl⟩ := List.mem_map.1 hc
  obtain ⟨⟨m', i'⟩, hmem', rfl⟩ := List.mem_map.1 hc'
  change m = m' at hmachine
  subst hmachine
  have hi := List.mem_zipIdx' hmem
  have hi' := List.mem_zipIdx' hmem'
  have hindex : i = i' := (htargets.getElem_inj_iff).1 (hi.2.symm.trans hi'.2)
  rw [hindex]

lemma deployablePackage_none {packages : List Uuid} {type : CommandType}
    {packageId package : Option Uuid} (h : deployablePackage packages type packageId = some package)
    (htype : type ∉ packageCommandTypes) : package = none := by
  unfold deployablePackage at h
  rw [if_neg htype] at h
  exact (Option.some.inj h).symm

/-- The package of a row is forgotten, and never changed otherwise. -/
lemma RowStep.packageId (h : RowStep srv s e c c') :
    c'.packageId = c.packageId ∨ c'.packageId = none := by
  cases h with
  | keep => exact .inl rfl
  | expire => exact .inl (congrArg Target.packageId (expireRow_target ..))
  | heartbeat => exact .inl (congrArg Target.packageId (rowPass_target ..))
  | merge => exact .inl rfl
  | @unlink packageId =>
    cases hp : c.packageId with
    | none => exact .inr (by simp [unlinkPackage, hp])
    | some p =>
      by_cases h : p = packageId
      · exact .inr (by simp [unlinkPackage, hp, h])
      · exact .inl (by simp [unlinkPackage, hp, h, Option.filter])
  | result hm hv hid hr => exact .inl (congrArg Target.packageId (resultRow_target hr))

/-- Only a merge re-addresses a row. -/
lemma RowStep.machineId (h : RowStep srv s e c c') : c'.machineId = c.machineId ∨
    ∃ targetId sourceId, e = .merge targetId sourceId ∧ targetId ≠ sourceId ∧
      c.machineId = sourceId ∧ c'.machineId = targetId := by
  cases h with
  | keep => exact .inl rfl
  | expire => exact .inl (congrArg Target.machineId (expireRow_target ..))
  | heartbeat => exact .inl (congrArg Target.machineId (rowPass_target ..))
  | @merge targetId sourceId =>
    by_cases hsource : c.machineId = sourceId
    · by_cases hself : targetId = sourceId
      · exact .inl (by simp [mergeRow, hsource, hself])
      · exact .inr ⟨targetId, sourceId, rfl, hself, hsource, by simp [mergeRow, hsource]⟩
    · exact .inl (by simp [mergeRow, hsource])
  | unlink => exact .inl rfl
  | result hm hv hid hr => exact .inl (congrArg Target.machineId (resultRow_target hr))

lemma RowStep.live_before (h : RowStep srv s e c c') (hlive : c'.terminal = false) :
    c.terminal = false := by
  rw [Bool.eq_false_iff]
  intro ht
  rw [h.terminal ht] at hlive
  cases hlive

theorem Fleet.Kinds.step (hwf : s.Wf) (h : s.Kinds) (e : Event) : (step srv s e).Kinds where
  machines := (h.step_ids e).1
  bound := (h.step_ids e).2
  packages c' hc' hlive htype := by
    rcases step_origin hwf hc' hlive with ⟨c, hc, hstep⟩ |
      ⟨requested, type, createdBy, ttl, packageId, package, -, -, hpackage, hrow⟩ |
      ⟨machineId, createdBy, emitted, target, -, -, -, rfl⟩
    · rw [hstep.type] at htype
      have hnone := h.packages c hc (hstep.live_before hlive) htype
      rcases hstep.packageId with hp | hp
      · rw [hp, hnone]
      · exact hp
    · obtain ⟨rfl, rfl, -⟩ := createForMachines_row hrow
      exact deployablePackage_none hpackage htype
    · rfl

end Kinds

/-! ### Two open commands -/

/-- Two open commands of one slot. -/
def Clash (s : Fleet) (i j : Uuid) : Prop :=
  ∃ c ∈ s.db.commands, ∃ d ∈ s.db.commands, c.id = i ∧ d.id = j ∧ c.isOpen s.now = true ∧
    d.isOpen s.now = true ∧ SameSlot c d

/-- A merge re-addresses one of two open commands to the machine of the other. -/
def MergesOpen (s : Fleet) (e : Event) (i j : Uuid) : Prop :=
  ∃ targetId sourceId, e = .merge targetId sourceId ∧ targetId ≠ sourceId ∧
    ∃ c ∈ s.db.commands, ∃ d ∈ s.db.commands, c.id = i ∧ d.id = j ∧ c.isOpen s.now = true ∧
      d.isOpen s.now = true ∧ c.type = d.type ∧ c.packageId = d.packageId ∧
      (c.machineId = targetId ∧ d.machineId = sourceId ∨
        c.machineId = sourceId ∧ d.machineId = targetId)

/-- A wake is queued for a machine whose last one is running. -/
def WakesRunning (s : Fleet) (e : Event) (i j : Uuid) : Prop :=
  ∃ machineId createdBy emitted, e = .wake machineId createdBy emitted ∧ ∃ c ∈ s.db.commands,
    c.machineId = machineId ∧ c.type = .wakeOnLan ∧ c.status = .running ∧ c.isOpen s.now = true ∧
      (c.id = i ∧ s.nextId = j ∨ c.id = j ∧ s.nextId = i)

section Clash

variable {srv : Server} {s : Fleet} {e : Event} {c d c' d' : Command} {i j : Uuid}

lemma SameSlot.symm (h : SameSlot c d) : SameSlot d c where
  machineId := h.machineId.symm
  type := h.type.symm
  packageId := h.packageId.symm
  named ht := h.packageId ▸ h.named (h.type ▸ ht)

/-- A bulk creation skips the machine of an open row. -/
lemma created_no_clash (hc : c ∈ s.db.commands) (hstep : RowStep srv s e c c')
    (hopen : c'.isOpen s.now = true) (hd : Created s e d) (hslot : SameSlot c' d) : False := by
  obtain ⟨requested, type, createdBy, ttl, packageId, package, rfl, -, -, hrow⟩ := hd
  obtain ⟨htype, hpackage, hfree⟩ := createForMachines_row hrow
  obtain ⟨hlive, hlate⟩ := isOpen_iff.1 hopen
  have hswept : c' ∈ markExpired s.db.commands s.now none := by
    refine List.mem_map.2 ⟨c, hc, ?_⟩
    cases hstep with
    | keep => exact expireRow_open hlate
    | expire => rfl
  have hbusy : hasOpenCommand (markExpired s.db.commands s.now none) d.machineId type package
      s.now = true := by
    refine List.any_eq_true.2 ⟨c', hswept, ?_⟩
    simp [hslot.machineId, hslot.type.trans htype, hlive, hlate, hslot.packageId.trans hpackage]
  rw [hbusy] at hfree
  cases hfree

lemma foldl_latest_ne_none (l : List Command) (best : Command) :
    l.foldl (fun best c => match best with
      | none => some c
      | some b => if c.createdAt > b.createdAt then some c else some b) (some best) ≠ none := by
  induction l generalizing best with
  | nil => simp
  | cons c l ih =>
    rw [List.foldl_cons]
    dsimp only
    split
    · exact ih c
    · exact ih best

/-- With no wake of the target open to the queue, an open one is running. -/
lemma openWakeFor_none {commands : List Command} {target : Machine} {now : Time}
    (h : openWakeFor commands target now = none) (hc : c ∈ commands)
    (hmachine : c.machineId = target.id) (htype : c.type = .wakeOnLan) (hopen : c.isOpen now = true) :
    c.status = .running := by
  obtain ⟨hlive, hlate⟩ := isOpen_iff.1 hopen
  by_contra hrunning
  have hin : c ∈ commands.filter fun c =>
      c.machineId = target.id && c.openWake && c.expiresAt > now := by
    refine List.mem_filter.2 ⟨hc, ?_⟩
    have hwake : c.openWake = true := by
      cases hstatus : c.status <;>
        simp_all [Command.openWake, Command.terminal, terminalStatuses]
    simp [hmachine, hwake, hlate]
  unfold openWakeFor at h
  cases hl : commands.filter fun c =>
      c.machineId = target.id && c.openWake && c.expiresAt > now with
  | nil =>
    rw [hl] at hin
    cases hin
  | cons best l =>
    rw [hl] at h
    exact foldl_latest_ne_none l best h

/-- A wake is queued beside a running one. -/
lemma queued_running (hc : c ∈ s.db.commands) (hstep : RowStep srv s e c c')
    (hopen : c'.isOpen s.now = true) (hd : Queued srv s e d) (hslot : SameSlot c' d) :
    ∃ machineId createdBy emitted, e = .wake machineId createdBy emitted ∧ c.machineId = machineId ∧
      c.type = .wakeOnLan ∧ c.status = .running ∧ s.nextId = d.id := by
  obtain ⟨machineId, createdBy, emitted, target, rfl, htarget, hnone, rfl⟩ := hd
  have hsame : c' = c := by
    cases hstep with
    | keep => rfl
    | expire => exact expireRow_live (isOpen_iff.1 hopen).1
  subst hsame
  exact ⟨machineId, createdBy, emitted, rfl, hslot.machineId.trans (getMachine_mem htarget).2,
    hslot.type, openWakeFor_none hnone hc hslot.machineId hslot.type hopen, rfl⟩

/-- Two rows that were there before. -/
lemma old_clash (hk : s.Kinds) (hc : c ∈ s.db.commands) (hd : d ∈ s.db.commands)
    (hstep : RowStep srv s e c c') (hstep' : RowStep srv s e d d')
    (hopen : c'.isOpen (step srv s e).now = true) (hopen' : d'.isOpen (step srv s e).now = true)
    (hslot : SameSlot c' d') : Clash s c'.id d'.id ∨ MergesOpen s e c'.id d'.id := by
  have hbefore := hstep.open_before hopen
  have hbefore' := hstep'.open_before hopen'
  have htype : c.type = d.type := by rw [← hstep.type, hslot.type, hstep'.type]
  have hpackages : c.packageId = d.packageId ∧ (c.type ∈ packageCommandTypes → c.packageId ≠ none) := by
    by_cases hdeploys : c.type ∈ packageCommandTypes
    · have hnamed := hslot.named (hstep.type ▸ hdeploys)
      have hp := hstep.packageId.resolve_right hnamed
      have hp' := hstep'.packageId.resolve_right (hslot.packageId ▸ hnamed)
      refine ⟨by rw [← hp, hslot.packageId, hp'], fun _ => ?_⟩
      rwa [← hp]
    · rw [hk.packages c hc (isOpen_iff.1 hbefore).1 hdeploys,
        hk.packages d hd (isOpen_iff.1 hbefore').1 (htype ▸ hdeploys)]
      exact ⟨rfl, fun h => absurd h hdeploys⟩
  have hclash (hmachine : c.machineId = d.machineId) : Clash s c'.id d'.id :=
    ⟨c, hc, d, hd, hstep.id_eq.symm, hstep'.id_eq.symm, hbefore, hbefore', hmachine, htype,
      hpackages.1, hpackages.2⟩
  -- Unless a merge moves exactly one of the two, they were on one machine already.
  rcases hstep.machineId with hm | ⟨t, u, rfl, hne, hsource, htarget⟩
  · rcases hstep'.machineId with hm' | ⟨t, u, rfl, hne, hsource', htarget'⟩
    · exact .inl (hclash (by rw [← hm, hslot.machineId, hm']))
    · exact .inr ⟨t, u, rfl, hne, c, hc, d, hd, hstep.id_eq.symm, hstep'.id_eq.symm, hbefore,
        hbefore', htype, hpackages.1, .inl ⟨by rw [← hm, hslot.machineId, htarget'], hsource'⟩⟩
  · rcases hstep'.machineId with hm' | ⟨t', u', he, -, hsource', -⟩
    · exact .inr ⟨t, u, rfl, hne, c, hc, d, hd, hstep.id_eq.symm, hstep'.id_eq.symm, hbefore,
        hbefore', htype, hpackages.1, .inr ⟨hsource, by rw [← hm', ← hslot.machineId, htarget]⟩⟩
    · cases he
      exact .inl (hclash (hsource.trans hsource'.symm))

/-- One step makes one new open row of a slot. -/
lemma new_rows_same (hk : s.Kinds) (hc : Created s e c ∨ Queued srv s e c)
    (hd : Created s e d ∨ Queued srv s e d) (hmachine : c.machineId = d.machineId) : c = d := by
  rcases hc with ⟨_, _, _, _, _, _, rfl, -, hpackage, hrow⟩ | ⟨_, _, _, target, rfl, htarget, -, rfl⟩
  · rcases hd with ⟨_, _, _, _, _, _, he, -, hpackage', hrow'⟩ | ⟨_, _, _, _, he, -⟩
    · cases he
      rw [hpackage] at hpackage'
      cases hpackage'
      exact createForMachines_one (hk.machines.filter _) hrow hrow' hmachine
    · cases he
  · rcases hd with ⟨_, _, _, _, _, _, he, -⟩ | ⟨_, _, _, target', he, htarget', -, rfl⟩
    · cases he
    · cases he
      rw [htarget] at htarget'
      cases htarget'
      rfl

/-- A row beside a new one. -/
lemma old_new_clash (hc : c ∈ s.db.commands) (hstep : RowStep srv s e c c')
    (hopen : c'.isOpen (step srv s e).now = true) (hd : Created s e d ∨ Queued srv s e d)
    (hslot : SameSlot c' d) :
    ∃ machineId createdBy emitted, e = .wake machineId createdBy emitted ∧ c.machineId = machineId ∧
      c.type = .wakeOnLan ∧ c.status = .running ∧ s.nextId = d.id := by
  have hnow : (step srv s e).now = s.now := by
    rcases hd with ⟨_, _, _, _, _, _, rfl, -⟩ | ⟨_, _, _, _, rfl, -⟩ <;> rfl
  rw [hnow] at hopen
  rcases hd with hcreated | hqueued
  · exact (created_no_clash hc hstep hopen hcreated hslot).elim
  · exact queued_running hc hstep hopen hqueued hslot

/-- **One step backwards** from two open commands of one slot. -/
theorem clash_step (hwf : s.Wf) (hk : s.Kinds) (hij : i ≠ j) (h : Clash (step srv s e) i j) :
    Clash s i j ∨ MergesOpen s e i j ∨ WakesRunning s e i j := by
  obtain ⟨c', hc', d', hd', rfl, rfl, hopen, hopen', hslot⟩ := h
  rcases step_origin hwf hc' (isOpen_iff.1 hopen).1 with ⟨c, hc, hstep⟩ | hnew
  · rcases step_origin hwf hd' (isOpen_iff.1 hopen').1 with ⟨d, hd, hstep'⟩ | hnew'
    · rcases old_clash hk hc hd hstep hstep' hopen hopen' hslot with h | h
      · exact .inl h
      · exact .inr (.inl h)
    · obtain ⟨m, by_, out, he, hm, ht, hr, hid⟩ := old_new_clash hc hstep hopen hnew' hslot
      exact .inr (.inr ⟨m, by_, out, he, c, hc, hm, ht, hr, hstep.open_before hopen,
        .inl ⟨hstep.id_eq.symm, hid⟩⟩)
  · rcases step_origin hwf hd' (isOpen_iff.1 hopen').1 with ⟨d, hd, hstep'⟩ | hnew'
    · obtain ⟨m, by_, out, he, hm, ht, hr, hid⟩ := old_new_clash hd hstep' hopen' hnew hslot.symm
      exact .inr (.inr ⟨m, by_, out, he, d, hd, hm, ht, hr, hstep'.open_before hopen',
        .inr ⟨hstep'.id_eq.symm, hid⟩⟩)
    · exact absurd (congrArg Command.id (new_rows_same hk hnew hnew' hslot.machineId)) hij

end Clash

/-- **How two open commands of a kind come about**: in every run, one of them was re-addressed by a merge
that found the other one open too, or they are wakes, the later one queued while the earlier one was
running. -/
theorem one_open (srv : Server) (now : Time) (es : List Event) (i j : Uuid) (hij : i ≠ j)
    (h : Clash (run (step srv) (.empty now) es) i j) :
    ∃ es₁ e es₂, es = es₁ ++ e :: es₂ ∧ (MergesOpen (run (step srv) (.empty now) es₁) e i j ∨
      WakesRunning (run (step srv) (.empty now) es₁) e i j) := by
  have hinv (es : List Event) :
      (run (step srv) (.empty now) es).Wf ∧ (run (step srv) (.empty now) es).Kinds :=
    run_invariant (P := fun s : Fleet => s.Wf ∧ s.Kinds)
      (fun s e h => ⟨step_wf h.1 e, h.2.step h.1 e⟩) ⟨.empty now, .empty now⟩ es
  induction es using List.reverseRecOn with
  | nil =>
    obtain ⟨c, hc, -⟩ := h
    cases hc
  | append_singleton es e ih =>
    rw [run_append] at h
    rcases clash_step (hinv es).1 (hinv es).2 hij h with h | hcause
    · obtain ⟨es₁, e', es₂, rfl, hcause⟩ := ih h
      exact ⟨es₁, e', es₂ ++ [e], by simp, hcause⟩
    · exact ⟨es, e, [], rfl, hcause⟩

/-- Two machines, each with a restart waiting, and their merge. -/
def mergedRestarts : List Event :=
  [.enroll ⟨"pc", none, none, none, none, none, none⟩ "10.0.0.2" "T0",
    .enroll ⟨"pc-2", none, none, none, none, none, none⟩ "10.0.0.3" "T1",
    .createCommands [0, 1] .reboot none 60 none, .merge 0 1]

theorem one_open_merged : ∃ es₁ e es₂, mergedRestarts = es₁ ++ e :: es₂ ∧
    (MergesOpen (run (step .standard) (.empty 0) es₁) e 2 3 ∨
      WakesRunning (run (step .standard) (.empty 0) es₁) e 2 3) :=
  one_open .standard 0 mergedRestarts 2 3 (by decide)
    ⟨_, List.mem_cons_self, _, List.mem_cons_of_mem _ List.mem_cons_self, rfl, rfl, by decide,
      by decide, by decide, by decide, by decide, by decide⟩

/-- A merge leaves a machine with two restarts to do. -/
theorem two_open_after_merge :
    (((run (step .standard) (.empty 0) mergedRestarts).db.commands.filter fun c =>
      c.machineId = 0 && c.type = .reboot && c.packageId = none &&
        c.isOpen (run (step .standard) (.empty 0) mergedRestarts).now).map Command.id) = [2, 3] := by
  decide

end Tiai
