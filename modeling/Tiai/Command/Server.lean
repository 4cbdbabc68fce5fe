import Tiai.Lib.Runs
import Tiai.Command.Queue
import Tiai.Machine.Enroll
import Tiai.Wol.Relay

/-!
# The server's database, and every route that touches the queue

`heartbeat` and `command_result` (`api/routes/agent.py`), `create_commands` and its sweep
(`api/routes/commands.py`), `wake_machines` and `merge_machine` (`api/routes/machines.py`), past
their permissions and scopes; a machine is the row `get_current_machine` returned.  A package that is
deleted leaves `package_id` null on its commands, and a machine leaves `relay_machine_id` null: that
is the schema's `ON DELETE SET NULL`.

* `Database`, `step` — the tables, and one request at a time;
* `rowPass`, `ownOut`, `wakeOut` — a heartbeat's passes over the queue, seen from one row;
* `step_commands` — what any step does to the table: a function of one row, and new rows.
-/

namespace Tiai

structure Database where
  machines : List Machine
  commands : List Command
  packages : List Uuid
  deriving DecidableEq, Repr

/-- `HeartbeatResponse`, and whose it is. -/
structure Response where
  machineId : Uuid
  commands : List CommandOut
  newToken : Option Token
  deriving DecidableEq, Repr

variable (srv : Server)

/-! ### The heartbeat -/

/-- From the sweep to the claimed wakes, for the machine whose row is now `m`. -/
def handOut (db : Database) (m : Machine) (now : Time) : List Command × List CommandOut :=
  let swept := markExpired db.commands now (some m.id)
  let own := swept.filterMap (deliverOut m.id db.packages now)
  let delivered := swept.map (deliverRow m.id db.packages now)
  if srv.wolRelayEnabled then
    let closed := delivered.map (closeWakeRow m.id now)
    (closed.map (claimRow srv db.machines m now),
      own ++ closed.filterMap (claimOut srv db.machines m now))
  else (delivered, own)

/-- `heartbeat`, for an authenticated machine. -/
def heartbeat (db : Database) (m : Machine) (p : HeartbeatRequest) (now : Time) (drawn : Token) :
    Database × Response :=
  let reported := m.report srv p now
  let db' := { db with machines := writeMachine db.machines reported }
  let (commands, out) := handOut srv db' reported now
  let (offered, newToken) := reported.offer srv p.supportsTokenRotation now drawn
  ({ db' with machines := writeMachine db'.machines offered, commands := commands },
    ⟨m.id, out, newToken⟩)

/-! ### The result of a command -/

/-- What `command_result` makes of the row it found; `none` when the report is ignored. -/
def resultRow (machine : Machine) (payload : CommandResult) (now : Time) (c : Command) :
    Option Command :=
  let relayed := c.relayMachineId = some machine.id
  if c.machineId ≠ machine.id ∧ ¬relayed then none
  else if relayed ∧ c.terminal = true then none
  else if payload.status = .running then
    if c.terminal then none else some { c with status := .running, startedAt := some now }
  else
    let sign (text : Option String) : Option String :=
      if relayed then
        text.map fun t => if t = "" then t else "Relayé par " ++ relayLabel machine ++ " — " ++ t
      else text
    some { c with
      status := payload.status
      resultOutput := sign payload.output
      error := sign payload.error
      finishedAt := some now }

/-- `{"status": …}`, or the 422 of a status that is not the agent's to write. -/
inductive ResultAnswer
  | ok
  | ignored
  | invalid
  deriving DecidableEq, Repr

def commandResult (commands : List Command) (machine : Machine) (commandId : Uuid)
    (payload : CommandResult) (now : Time) : List Command × ResultAnswer :=
  match payload.validate with
  | none => (commands, .invalid)
  | some payload =>
    match commands.find? (fun c => c.id = commandId) with
    | none => (commands, .ignored)
    | some c =>
      match resultRow machine payload now c with
      | none => (commands, .ignored)
      | some c' => (commands.map fun x => if x.id = commandId then c' else x, .ok)

/-! ### The console's routes -/

/-- `_deployable_package`: the package a command names. -/
def deployablePackage (packages : List Uuid) (type : CommandType) (packageId : Option Uuid) :
    Option (Option Uuid) :=
  if type ∈ packageCommandTypes then
    match packageId with
    | none => none
    | some p => if p ∈ packages then some (some p) else none
  else some none

/-- `create_commands`, with the targets its filter selected. -/
def createCommands (db : Database) (nextId : Uuid) (requested : List Uuid) (type : CommandType)
    (createdBy : Option String) (now : Time) (ttlMinutes : ℕ) (packageId : Option Uuid) :
    List Command :=
  if type = .wakeOnLan then db.commands
  else
    match deployablePackage db.packages type packageId with
    | none => db.commands
    | some package =>
      let swept := markExpired db.commands now none
      let targets := (db.machines.map Machine.id).filter (· ∈ requested)
      swept ++ createForMachines swept nextId targets type createdBy now (now + minutes ttlMinutes)
        package

/-- `wake_machines`, for one machine of its list; `emitted` is the outcome of `emit_wake`, asked for
when the server emits the packet itself. -/
def wakeMachine (db : Database) (nextId : Uuid) (machineId : Uuid) (createdBy : Option String)
    (now : Time) (emitted : WakeOutcome) : List Command :=
  match getMachine db.machines machineId with
  | none => db.commands
  | some target =>
    if srv.wolRelayEnabled then
      db.commands ++
        (queueRelayedWake srv db.machines db.commands nextId target createdBy now).1.toList
    else db.commands ++ [closedWake nextId target.id createdBy now emitted]

/-- The rows of the queue after the source of a merge has gone. -/
def mergeRow (targetId sourceId : Uuid) (c : Command) : Command :=
  { c with
    machineId := if c.machineId = sourceId then targetId else c.machineId
    relayMachineId := c.relayMachineId.filter (· ≠ sourceId) }

/-- `merge_machine`. -/
def mergeMachine (db : Database) (targetId sourceId : Uuid) (now : Time) : Database :=
  if targetId = sourceId then db
  else
    match getMachine db.machines targetId, getMachine db.machines sourceId with
    | some target, some source =>
      { db with
        machines := (writeMachine db.machines (target.absorb source now)).filter (·.id ≠ sourceId)
        commands := db.commands.map (mergeRow targetId sourceId) }
    | _, _ => db

/-- A package's row is deleted. -/
def unlinkPackage (packageId : Uuid) (c : Command) : Command :=
  { c with packageId := c.packageId.filter (· ≠ packageId) }

/-! ### One request at a time -/

/-- The tables, the clock, the next `uuid4`, and every response built so far. -/
structure Fleet where
  db : Database
  now : Time
  nextId : Uuid
  responses : List Response
  deriving DecidableEq, Repr

def Fleet.empty (now : Time) : Fleet := ⟨⟨[], [], []⟩, now, 0, []⟩

inductive Event
  | tick (microseconds : ℕ)
  | enroll (body : EnrollRequest) (ip : String) (token : Token)
  | createCommands (requested : List Uuid) (type : CommandType) (createdBy : Option String)
    (ttlMinutes : ℕ) (packageId : Option Uuid)
  | wake (machineId : Uuid) (createdBy : Option String) (emitted : WakeOutcome)
  | heartbeat (machineId : Uuid) (payload : HeartbeatRequest) (drawn : Token)
  | result (machineId commandId : Uuid) (payload : CommandResult)
  | sweep
  | merge (targetId sourceId : Uuid)
  | addPackage
  | deletePackage (packageId : Uuid)
  deriving DecidableEq, Repr

def step (s : Fleet) : Event → Fleet
  | .tick d => { s with now := s.now + d }
  | .enroll body ip token =>
    { s with
      db := { s.db with
        machines := (enroll srv s.db.machines body ip s.now s.nextId token).1 }
      nextId := s.nextId + 1 }
  | .createCommands requested type createdBy ttlMinutes packageId =>
    { s with
      db := { s.db with
        commands :=
          createCommands s.db s.nextId requested type createdBy s.now ttlMinutes packageId }
      nextId := s.nextId + s.db.machines.length }
  | .wake machineId createdBy emitted =>
    { s with
      db := { s.db with
        commands := wakeMachine srv s.db s.nextId machineId createdBy s.now emitted }
      nextId := s.nextId + 1 }
  | .heartbeat machineId p drawn =>
    match getMachine s.db.machines machineId with
    | none => s
    | some m =>
      let (db, response) := heartbeat srv s.db m p s.now drawn
      { s with db := db, responses := s.responses ++ [response] }
  | .result machineId commandId payload =>
    match getMachine s.db.machines machineId with
    | none => s
    | some m =>
      { s with db := { s.db with
        commands := (commandResult s.db.commands m commandId payload s.now).1 } }
  | .sweep => { s with db := { s.db with commands := markExpired s.db.commands s.now none } }
  | .merge targetId sourceId => { s with db := mergeMachine s.db targetId sourceId s.now }
  | .addPackage =>
    { s with
      db := { s.db with packages := s.nextId :: s.db.packages }
      nextId := s.nextId + 1 }
  | .deletePackage packageId =>
    { s with db := { s.db with
      packages := s.db.packages.filter (· ≠ packageId)
      commands := s.db.commands.map (unlinkPackage packageId) } }

/-! ### A heartbeat's passes, row by row -/

/-- The row before the claim pass. -/
def settleRow (db : Database) (m : Machine) (now : Time) (c : Command) : Command :=
  let c := deliverRow m.id db.packages now (expireRow now (some m.id) c)
  if srv.wolRelayEnabled then closeWakeRow m.id now c else c

/-- All the passes. -/
def rowPass (db : Database) (m : Machine) (now : Time) (c : Command) : Command :=
  if srv.wolRelayEnabled then claimRow srv db.machines m now (settleRow srv db m now c)
  else settleRow srv db m now c

def ownOut (db : Database) (m : Machine) (now : Time) (c : Command) : Option CommandOut :=
  deliverOut m.id db.packages now (expireRow now (some m.id) c)

def wakeOut (db : Database) (m : Machine) (now : Time) (c : Command) : Option CommandOut :=
  if srv.wolRelayEnabled then claimOut srv db.machines m now (settleRow srv db m now c) else none

theorem handOut_eq (db : Database) (m : Machine) (now : Time) :
    handOut srv db m now = (db.commands.map (rowPass srv db m now),
      db.commands.filterMap (ownOut db m now) ++ db.commands.filterMap (wakeOut srv db m now)) := by
  unfold handOut markExpired
  by_cases hrelay : srv.wolRelayEnabled = true
  · simp only [hrelay, if_true, List.map_map, List.filterMap_map]
    refine Prod.ext ?_ ?_
    · refine List.map_congr_left fun c _ => ?_
      simp [rowPass, settleRow, hrelay]
    · show _ ++ _ = _ ++ _
      congr 1
      refine List.filterMap_congr fun c _ => ?_
      simp [wakeOut, settleRow, hrelay]
  · simp only [hrelay, List.map_map, List.filterMap_map]
    refine Prod.ext ?_ ?_
    · refine List.map_congr_left fun c _ => ?_
      simp [rowPass, settleRow, hrelay]
    · have hw : wakeOut srv db m now = fun _ => none := by
        funext c
        simp [wakeOut, hrelay]
      simp only [hw, List.filterMap_none, List.append_nil]
      rfl

/-- The tables a heartbeat's passes see: the machine's own row is the one it has just reported. -/
def reportedDb (db : Database) (m : Machine) (p : HeartbeatRequest) (now : Time) : Database :=
  { db with machines := writeMachine db.machines (m.report srv p now) }

/-! ### What any step does to the queue -/

/-- What one step makes of one row. -/
inductive RowStep (s : Fleet) : Event → Command → Command → Prop
  | keep (e : Event) (c : Command) : RowStep s e c c
  | expire (e : Event) (c : Command) : RowStep s e c (expireRow s.now none c)
  | heartbeat {machineId : Uuid} {p : HeartbeatRequest} {drawn : Token} {m : Machine} (c : Command)
      (hm : getMachine s.db.machines machineId = some m) :
      RowStep s (.heartbeat machineId p drawn) c
        (rowPass srv (reportedDb srv s.db m p s.now) (m.report srv p s.now) s.now c)
  | result {machineId commandId : Uuid} {payload payload' : CommandResult} {m : Machine}
      {c c' : Command} (hm : getMachine s.db.machines machineId = some m)
      (hv : payload.validate = some payload') (hid : c.id = commandId)
      (h : resultRow m payload' s.now c = some c') :
      RowStep s (.result machineId commandId payload) c c'
  | merge {targetId sourceId : Uuid} (c : Command) :
      RowStep s (.merge targetId sourceId) c (mergeRow targetId sourceId c)
  | unlink {packageId : Uuid} (c : Command) :
      RowStep s (.deletePackage packageId) c (unlinkPackage packageId c)

/-- A row one step adds, under an identifier of its own. -/
structure NewRow (s s' : Fleet) (c : Command) : Prop where
  fresh : s.nextId ≤ c.id
  bound : c.id < s'.nextId
  unclaimed : c.relayMachineId = none
  undelivered : c.status ≠ .delivered

variable {srv}

lemma expireRow_id (now : Time) (machineId : Option Uuid) (c : Command) :
    (expireRow now machineId c).id = c.id := by
  unfold expireRow; split <;> rfl

lemma deliverRow_id (machineId : Uuid) (packages : List Uuid) (now : Time) (c : Command) :
    (deliverRow machineId packages now c).id = c.id := by
  unfold deliverRow; split
  · dsimp only; split <;> rfl
  · rfl

lemma closeWakeRow_id (machineId : Uuid) (now : Time) (c : Command) :
    (closeWakeRow machineId now c).id = c.id := by
  unfold closeWakeRow; split <;> rfl

lemma claimRow_id (machines : List Machine) (relay : Machine) (now : Time) (c : Command) :
    (claimRow srv machines relay now c).id = c.id := by
  unfold claimRow; split <;> rfl

lemma settleRow_id (db : Database) (m : Machine) (now : Time) (c : Command) :
    (settleRow srv db m now c).id = c.id := by
  unfold settleRow
  split
  · rw [closeWakeRow_id, deliverRow_id, expireRow_id]
  · rw [deliverRow_id, expireRow_id]

lemma rowPass_id (db : Database) (m : Machine) (now : Time) (c : Command) :
    (rowPass srv db m now c).id = c.id := by
  unfold rowPass
  split
  · rw [claimRow_id, settleRow_id]
  · rw [settleRow_id]

lemma resultRow_id {m : Machine} {payload : CommandResult} {now : Time} {c c' : Command}
    (h : resultRow m payload now c = some c') : c'.id = c.id := by
  unfold resultRow at h
  grind

lemma RowStep.id_eq {s : Fleet} {e : Event} {c c' : Command} (h : RowStep srv s e c c') :
    c'.id = c.id := by
  cases h with
  | keep => rfl
  | expire => exact expireRow_id ..
  | heartbeat => exact rowPass_id ..
  | result hm hv hid h => exact resultRow_id h
  | merge => rfl
  | unlink => rfl

lemma createForMachines_new {commands : List Command} {nextId : Uuid} {ids : List Uuid}
    {type : CommandType} {createdBy : Option String} {now expiresAt : Time}
    {packageId : Option Uuid} {c : Command}
    (hc : c ∈ createForMachines commands nextId ids type createdBy now expiresAt packageId) :
    nextId ≤ c.id ∧ c.id < nextId + ids.length ∧ c.relayMachineId = none ∧ c.status = .pending := by
  unfold createForMachines at hc
  obtain ⟨⟨m, i⟩, hmem, rfl⟩ := List.mem_map.mp hc
  have hi := (List.mem_zipIdx' hmem).1
  have hlen := List.length_filter_le (fun m => !hasOpenCommand commands m type packageId now) ids
  refine ⟨Nat.le_add_right .., ?_, rfl, rfl⟩
  show nextId + i < nextId + ids.length
  exact Nat.add_lt_add_left (by omega) _

lemma createForMachines_ids (commands : List Command) (nextId : Uuid) (ids : List Uuid)
    (type : CommandType) (createdBy : Option String) (now expiresAt : Time)
    (packageId : Option Uuid) :
    ((createForMachines commands nextId ids type createdBy now expiresAt packageId).map
      Command.id).Nodup := by
  unfold createForMachines
  rw [List.map_map]
  change (List.map ((nextId + ·) ∘ Prod.snd) _).Nodup
  rw [← List.map_map, List.zipIdx_map_snd]
  exact List.Nodup.map (fun a b h => Nat.add_left_cancel h) List.nodup_range'

variable (srv) in
/-- The rows of `s'` are those of `s`, each rewritten as `RowStep` allows, then new ones. -/
def Rows (s s' : Fleet) (e : Event) : Prop :=
  ∃ f news, s'.db.commands = s.db.commands.map f ++ news ∧
    (∀ c ∈ s.db.commands, RowStep srv s e c (f c)) ∧ (∀ c ∈ news, NewRow s s' c) ∧
    (news.map Command.id).Nodup

lemma Rows.map {s s' : Fleet} {e : Event} (f : Command → Command)
    (hs : s'.db.commands = s.db.commands.map f) (hf : ∀ c ∈ s.db.commands, RowStep srv s e c (f c)) :
    Rows srv s s' e :=
  ⟨f, [], by rw [hs, List.append_nil], hf, fun _ h => absurd h List.not_mem_nil, List.nodup_nil⟩

lemma Rows.append {s s' : Fleet} {e : Event} (news : List Command)
    (hs : s'.db.commands = s.db.commands ++ news) (hn : ∀ c ∈ news, NewRow s s' c)
    (hids : (news.map Command.id).Nodup) : Rows srv s s' e :=
  ⟨id, news, by rw [hs, List.map_id], fun c _ => .keep e c, hn, hids⟩

lemma Rows.same {s s' : Fleet} {e : Event} (hs : s'.db.commands = s.db.commands) :
    Rows srv s s' e :=
  .map id (by rw [hs, List.map_id]) fun c _ => .keep e c

lemma wakeMachine_cases (srv : Server) (db : Database) (nextId machineId : Uuid) (createdBy : Option String)
    (now : Time) (emitted : WakeOutcome) :
    ∃ news, wakeMachine srv db nextId machineId createdBy now emitted = db.commands ++ news ∧
      (news = [] ∨ ∃ c, news = [c] ∧ c.id = nextId ∧ c.relayMachineId = none ∧
        c.status ≠ .delivered) := by
  have closed : ∀ target outcome, (closedWake nextId target createdBy now outcome).status ≠
      .delivered := by
    intro target outcome
    simp only [closedWake]
    split <;> simp
  unfold wakeMachine
  split
  · exact ⟨[], by rw [List.append_nil], Or.inl rfl⟩
  · rename_i target hget
    split
    · refine ⟨_, rfl, ?_⟩
      unfold queueRelayedWake
      dsimp only
      split
      · exact Or.inr ⟨_, rfl, rfl, rfl, closed _ _⟩
      · split
        · exact Or.inr ⟨_, rfl, rfl, rfl, closed _ _⟩
        · split
          · exact Or.inl rfl
          · split
            · exact Or.inr ⟨_, rfl, rfl, rfl, closed _ _⟩
            · exact Or.inr ⟨_, rfl, rfl, rfl, nofun⟩
    · exact ⟨_, rfl, Or.inr ⟨_, rfl, rfl, rfl, closed _ _⟩⟩

/-- **The queue under one step.**  Every row is kept, or rewritten in one of the ways of `RowStep`;
new rows come after them, under new identifiers. -/
theorem step_commands (srv : Server) (s : Fleet) (e : Event) (hids : (s.db.commands.map Command.id).Nodup) :
    Rows srv s (step srv s e) e := by
  cases e with
  | tick d => exact .same rfl
  | enroll body ip token => exact .same rfl
  | addPackage => exact .same rfl
  | sweep => exact .map (expireRow s.now none) rfl fun c _ => .expire _ c
  | deletePackage packageId => exact .map (unlinkPackage packageId) rfl fun c _ => .unlink c
  | createCommands requested type createdBy ttl packageId =>
    simp only [step, createCommands]
    split
    · exact .same rfl
    · split
      · exact .same rfl
      · rename_i package hpackage
        refine ⟨expireRow s.now none, _, rfl, fun c _ => .expire _ c, fun c hc => ?_,
          createForMachines_ids ..⟩
        obtain ⟨hlo, hhi, hrel, hpend⟩ := createForMachines_new hc
        refine ⟨hlo, lt_of_lt_of_le hhi (Nat.add_le_add_left ?_ _), hrel, by rw [hpend]; nofun⟩
        calc ((s.db.machines.map Machine.id).filter (· ∈ requested)).length
            ≤ (s.db.machines.map Machine.id).length := List.length_filter_le ..
          _ = s.db.machines.length := List.length_map ..
  | wake machineId createdBy emitted =>
    obtain ⟨news, hs, hn⟩ := wakeMachine_cases srv s.db s.nextId machineId createdBy s.now
      emitted
    rcases hn with rfl | ⟨c, rfl, hid, hrel, hdel⟩
    · exact .same (hs.trans (List.append_nil _))
    · refine .append [c] hs (fun x hx => ?_) (List.nodup_singleton _)
      obtain rfl := List.mem_singleton.mp hx
      exact ⟨le_of_eq hid.symm, lt_of_eq_of_lt hid (Nat.lt_succ_self _), hrel, hdel⟩
  | heartbeat machineId p drawn =>
    simp only [step]
    split
    · exact .same rfl
    · rename_i m hm
      refine .map (rowPass srv (reportedDb srv s.db m p s.now) (m.report srv p s.now) s.now) ?_
        fun c _ => .heartbeat c hm
      show (handOut srv (reportedDb srv s.db m p s.now) (m.report srv p s.now) s.now).1 = _
      rw [handOut_eq]
      rfl
  | result machineId commandId payload =>
    simp only [step]
    split
    · exact .same rfl
    · rename_i m hm
      unfold commandResult
      split
      · exact .same rfl
      · rename_i payload' hv
        split
        · exact .same rfl
        · rename_i c hc
          have hcid : c.id = commandId := by simpa using List.find?_some hc
          split
          · exact .same rfl
          · rename_i c' hc'
            refine .map (fun x => if x.id = commandId then c' else x) rfl fun x hx => ?_
            split
            · rename_i hxid
              obtain rfl : x = c := List.inj_on_of_nodup_map hids hx (List.mem_of_find?_eq_some hc)
                (hxid.trans hcid.symm)
              exact .result hm hv hxid hc'
            · exact .keep _ x
  | merge targetId sourceId =>
    simp only [step, mergeMachine]
    split
    · exact .same rfl
    · split
      · exact .map (mergeRow targetId sourceId) rfl fun c _ => .merge c
      · exact .same rfl

/-! ### Identifiers -/

/-- Commands are told apart by their identifiers, none of which is still to be drawn. -/
structure Fleet.Wf (s : Fleet) : Prop where
  nodup : (s.db.commands.map Command.id).Nodup
  bound : ∀ c ∈ s.db.commands, c.id < s.nextId

lemma Fleet.Wf.empty (now : Time) : (Fleet.empty now).Wf where
  nodup := List.nodup_nil
  bound _ h := absurd h List.not_mem_nil

lemma Fleet.Wf.eq_of_id {s : Fleet} (h : s.Wf) {c c' : Command} (hc : c ∈ s.db.commands)
    (hc' : c' ∈ s.db.commands) (hid : c.id = c'.id) : c = c' :=
  List.inj_on_of_nodup_map h.nodup hc hc' hid

lemma step_nextId (s : Fleet) (e : Event) : s.nextId ≤ (step srv s e).nextId := by
  cases e with
  | enroll | wake | addPackage => exact Nat.le_succ _
  | createCommands => exact Nat.le_add_right ..
  | tick | sweep | merge | deletePackage => exact le_rfl
  | heartbeat machineId p drawn => simp only [step]; split <;> exact le_rfl
  | result machineId commandId payload => simp only [step]; split <;> exact le_rfl

theorem step_wf {s : Fleet} (h : s.Wf) (e : Event) : (step srv s e).Wf := by
  obtain ⟨f, news, hs, hf, hn, hids⟩ := step_commands srv s e h.nodup
  have hmap : (s.db.commands.map f).map Command.id = s.db.commands.map Command.id := by
    rw [List.map_map]
    exact List.map_congr_left fun c hc => (hf c hc).id_eq
  constructor
  · rw [hs, List.map_append, hmap]
    refine List.Nodup.append h.nodup hids ?_
    rintro i hi hi'
    obtain ⟨c, hc, rfl⟩ := List.mem_map.mp hi
    obtain ⟨c', hc', he⟩ := List.mem_map.mp hi'
    have hfresh := (hn c' hc').fresh
    rw [he] at hfresh
    exact absurd (h.bound c hc) (Nat.not_lt.mpr hfresh)
  · intro c hc
    rw [hs] at hc
    rcases List.mem_append.mp hc with hc | hc
    · obtain ⟨c₀, hc₀, rfl⟩ := List.mem_map.mp hc
      rw [(hf c₀ hc₀).id_eq]
      exact lt_of_lt_of_le (h.bound c₀ hc₀) (step_nextId s e)
    · exact (hn c hc).bound

theorem run_wf {s : Fleet} (h : s.Wf) (es : List Event) : (Lib.run (step srv) s es).Wf :=
  Lib.run_invariant (P := Fleet.Wf) (fun _ e h => step_wf h e) h es

/-- A row, followed through one step. -/
lemma step_row (srv : Server) {s : Fleet} (h : s.Wf) (e : Event) {c : Command} (hc : c ∈ s.db.commands) :
    ∃ c' ∈ (step srv s e).db.commands, RowStep srv s e c c' := by
  obtain ⟨f, news, hs, hf, -⟩ := step_commands srv s e h.nodup
  exact ⟨f c, by rw [hs]; exact List.mem_append_left _ (List.mem_map_of_mem hc), hf c hc⟩

/-- Where a row comes from. -/
lemma step_row_cases (srv : Server) {s : Fleet} (h : s.Wf) (e : Event) {c' : Command}
    (hc : c' ∈ (step srv s e).db.commands) :
    (∃ c ∈ s.db.commands, RowStep srv s e c c') ∨ NewRow s (step srv s e) c' := by
  obtain ⟨f, news, hs, hf, hn, -⟩ := step_commands srv s e h.nodup
  rw [hs] at hc
  rcases List.mem_append.mp hc with hc | hc
  · obtain ⟨c₀, hc₀, rfl⟩ := List.mem_map.mp hc
    exact Or.inl ⟨c₀, hc₀, hf c₀ hc₀⟩
  · exact Or.inr (hn c' hc)

end Tiai
