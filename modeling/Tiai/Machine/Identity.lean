import Tiai.Lib.Runs
import Tiai.Machine.Heartbeat
import Tiai.Machine.Enroll

/-!
# What the enrollment secret alone can do to a trusted row

Anyone who holds the fleet secret may call `enroll`, as often as they like and with any payload; the
agent the row belongs to goes on calling `heartbeat`.  With `ENROLLMENT_REENROLL_REQUIRES_APPROVAL`
on, the first kind of call is invisible to the second: the row evolves as if the agent had been alone
(`ownStep`), the two `reenroll_requested` columns excepted.
-/

namespace Tiai.Identity

open Lib

variable (srv : Server)

/-- `heartbeat`, as far as the machine table goes. -/
def heartbeatRoute (machines : List Machine) (token : Token) (p : HeartbeatRequest) (now : Time)
    (drawn : Token) : List Machine × Except AppError (Option Token) :=
  match getCurrentMachine srv machines token now with
  | (ms, .error e) => (ms, .error e)
  | (ms, .ok m) =>
    (writeMachine ms (m.heartbeat srv p now drawn).1, .ok (m.heartbeat srv p now drawn).2)

structure State where
  machines : List Machine
  /-- The token the agent presents. -/
  held : Token
  /-- What the enrollment calls were answered. -/
  answers : List (Except AppError EnrollResponse)

inductive Event
  /-- An enrollment call, with the `uuid4` a new row would get and the token that would be drawn. -/
  | enroll (body : EnrollRequest) (ip : String) (now : Time) (id : Uuid) (token : Token)
  /-- A heartbeat of the agent, which may adopt the token offered. -/
  | heartbeat (payload : HeartbeatRequest) (now : Time) (drawn : Token) (adopts : Bool)
  deriving DecidableEq, Repr

/-- The token the agent presents after reading `offered`. -/
def adopt (held : Token) (offered : Option Token) (adopts : Bool) : Token :=
  if adopts then offered.getD held else held

def step (s : State) : Event → State
  | .enroll body ip now id token =>
    let (machines, answer) := enroll srv s.machines body ip now id token
    { s with machines := machines, answers := s.answers ++ [answer] }
  | .heartbeat p now drawn adopts =>
    match heartbeatRoute srv s.machines s.held p now drawn with
    | (machines, .ok offered) => { s with machines := machines, held := adopt s.held offered adopts }
    | (machines, .error _) => { s with machines := machines }

/-- The same step for the agent and its row alone. -/
def ownStep (s : Machine × Token) : Event → Machine × Token
  | .enroll _ _ _ _ _ => s
  | .heartbeat p now drawn adopts =>
    if s.1.accepts srv s.2 then
      let (m, offered) := (s.1.present srv s.2 now).heartbeat srv p now drawn
      (m, adopt s.2 offered adopts)
    else s

/-- What the environment draws is new: a row's `uuid4`, and a token whose hash no row carries. -/
def Fresh (s : State) : Event → Prop
  | .enroll _ _ _ id token => (∀ x ∈ s.machines, x.id ≠ id ∧ x.knows srv token = false) ∧
      srv.hashToken token ≠ srv.hashToken s.held
  | .heartbeat _ _ drawn _ => (∀ x ∈ s.machines, x.knows srv drawn = false) ∧
      srv.hashToken drawn ≠ srv.hashToken s.held

/-- A row the claim is about: it holds a token, or its token was revoked. -/
def Trusted (m : Machine) : Prop := m.tokenHash.isSome = true ∨ m.tokenRevoked = true

/-- A row with other `reenroll_requested` columns. -/
def withRequest (m : Machine) (r : Option Time × Option String) : Machine :=
  { m with reenrollRequestedAt := r.1, reenrollRequestedIp := r.2 }

/-! ### The two columns matter to nothing the agent's calls do -/

section Request

variable {srv} (m : Machine) (r : Option Time × Option String) {t : Token} {now : Time}

@[simp] lemma withRequest_id : (withRequest m r).id = m.id := rfl

@[simp] lemma withRequest_accepts : (withRequest m r).accepts srv t = m.accepts srv t := rfl

@[simp] lemma withRequest_knows : (withRequest m r).knows srv t = m.knows srv t := rfl

lemma withRequest_present : (withRequest m r).present srv t now =
    withRequest (m.present srv t now) r := by
  unfold Machine.present
  split
  · rename_i h
    rw [if_pos (show m.tokenRevoked = true ∨ m.tokenHash = some (srv.hashToken t) from h)]
  · rename_i h
    rw [if_neg (show ¬(m.tokenRevoked = true ∨ m.tokenHash = some (srv.hashToken t)) from h)]
    rfl

lemma withRequest_report (p : HeartbeatRequest) :
    (withRequest m r).report srv p now = withRequest (m.report srv p now) r := by
  have hfp : ∀ (m : Machine) (fp : Option Fingerprint),
      (withRequest m r).reportFingerprint srv fp = withRequest (m.reportFingerprint srv fp) r := by
    intro m fp
    cases fp with
    | none => rfl
    | some fp =>
      have hsus : isSuspiciousChange srv (withRequest m r) fp.smbiosUuid fp.tpmEkHash =
          isSuspiciousChange srv m fp.smbiosUuid fp.tpmEkHash := rfl
      simp only [Machine.reportFingerprint, hsus]
      split <;> rfl
  have hattr : (withRequest m r).reportAttributes p.validate =
      withRequest (m.reportAttributes p.validate) r := rfl
  simp only [Machine.report, hattr, hfp]
  rfl

lemma withRequest_heartbeat (p : HeartbeatRequest) (drawn : Token) :
    (withRequest m r).heartbeat srv p now drawn =
      (withRequest (m.heartbeat srv p now drawn).1 r, (m.heartbeat srv p now drawn).2) := by
  unfold Machine.heartbeat Machine.offer
  rw [withRequest_report]
  have hdue : rotationDue (withRequest (m.report srv p now) r) now srv.agentTokenRotateDays =
      rotationDue (m.report srv p now) now srv.agentTokenRotateDays := rfl
  rw [hdue]
  split <;> rfl

end Request

/-! ### The invariant -/

/-- What ties the table to the agent's own run on its row. -/
structure Inv (srv : Server) (id : Uuid) (s : State) (own : Machine × Token) : Prop where
  held : s.held = own.2
  own_id : own.1.id = id
  row : ∃ r, withRequest own.1 r ∈ s.machines
  ids : (s.machines.map Machine.id).Nodup
  only : ∀ x ∈ s.machines, x.knows srv s.held = true → x.id = id
  trusted : Trusted own.1
  answers : ∀ r, .ok r ∈ s.answers → r.machineId ≠ id

section Steps

variable {srv} {s : State} {own : Machine × Token} {id : Uuid}

/-- The row is the one its identifier says. -/
lemma Inv.eq_row (I : Inv srv id s own) {m : Machine} (hm : m ∈ s.machines) (hid : m.id = id) :
    ∃ r, m = withRequest own.1 r := by
  obtain ⟨r, hr⟩ := I.row
  exact ⟨r, eq_of_id_eq I.ids hm hr (by rw [hid, withRequest_id, I.own_id])⟩

lemma knows_enrolled {m : Machine} {p : EnrollRequest} {sus : Bool} {now : Time} {token t : Token} :
    (m.enrolled srv p sus now token).knows srv t = true ↔ srv.hashToken token = srv.hashToken t := by
  simp [Machine.knows, Machine.enrolled, resetRotation]

/-- An answer list that grows by a refusal, or by a token for another row. -/
lemma Inv.answers_append (I : Inv srv id s own) {a : Except AppError EnrollResponse}
    (ha : ∀ r, a = .ok r → r.machineId ≠ id) (r : EnrollResponse) (hr : .ok r ∈ s.answers ++ [a]) :
    r.machineId ≠ id := by
  rcases List.mem_append.mp hr with hr | hr
  · exact I.answers r hr
  · exact ha r (List.mem_singleton.mp hr).symm

/-- **An enrollment call** leaves the row alone, up to the two columns. -/
theorem Inv.enroll (happ : srv.reenrollRequiresApproval = true) (I : Inv srv id s own)
    {body : EnrollRequest} {ip : String} {now : Time} {newId : Uuid} {token : Token}
    (hfresh : Fresh srv s (.enroll body ip now newId token)) :
    Inv srv id (step srv s (.enroll body ip now newId token)) own := by
  obtain ⟨hnew, hne⟩ := hfresh
  obtain ⟨r, hr⟩ := I.row
  rcases enroll_cases srv s.machines body ip now newId token with
    ⟨e, he⟩ | ⟨m, hm, e, he⟩ | ⟨shared, he⟩ | ⟨m, hm, shared, hrev, hlive, he⟩
  · -- refused
    simp only [step, he]
    exact { I with answers := I.answers_append nofun }
  · -- held for approval
    simp only [step, he]
    refine { I with
      row := ?_
      ids := by rw [map_id_writeMachine]; exact I.ids
      only := fun x hx hk => ?_
      answers := I.answers_append nofun }
    · by_cases hid : m.id = id
      · obtain ⟨r', rfl⟩ := I.eq_row hm hid
        exact ⟨(some now, some ip), mem_writeMachine_self hm rfl⟩
      · exact ⟨r, mem_writeMachine_of_ne hr (by rw [withRequest_id, I.own_id]; exact Ne.symm hid)⟩
    · rcases mem_writeMachine hx with rfl | ⟨hx, -⟩
      · exact I.only m hm hk
      · exact I.only x hx hk
  · -- a new row
    simp only [step, he]
    have hid : newId ≠ id := by
      have := (hnew _ hr).1
      rw [withRequest_id, I.own_id] at this
      exact Ne.symm this
    refine { I with
      row := ⟨r, List.mem_append_left _ hr⟩
      ids := ?_
      only := fun x hx hk => ?_
      answers := I.answers_append fun r' hr' => by cases hr'; exact hid }
    · rw [List.map_append]
      refine List.Nodup.append I.ids (List.nodup_singleton _) ?_
      rintro i hi hi'
      obtain ⟨x, hx, rfl⟩ := List.mem_map.mp hi
      exact (hnew x hx).1 (List.mem_singleton.mp hi')
    · rcases List.mem_append.mp hx with hx | hx
      · exact I.only x hx hk
      · rw [List.mem_singleton.mp hx] at hk
        exact absurd (knows_enrolled.mp hk) hne
  · -- a token for a known row: another one, since ours is trusted
    have hid : m.id ≠ id := by
      intro hid
      obtain ⟨r', rfl⟩ := I.eq_row hm hid
      rcases I.trusted with ht | ht
      · simp [hlive ht] at happ
      · exact absurd (show own.1.tokenRevoked = false from hrev) (by simp [ht])
    simp only [step, he]
    refine { I with
      row := ⟨r, mem_writeMachine_of_ne hr ?_⟩
      ids := by rw [map_id_writeMachine]; exact I.ids
      only := fun x hx hk => ?_
      answers := I.answers_append fun r' hr' => by cases hr'; exact hid }
    · rw [withRequest_id, I.own_id]; exact Ne.symm hid
    · rcases mem_writeMachine hx with rfl | ⟨hx, -⟩
      · exact absurd (knows_enrolled.mp hk) hne
      · exact I.only x hx hk

lemma heartbeat_id (m : Machine) (p : HeartbeatRequest) (now : Time) (drawn : Token) :
    (m.heartbeat srv p now drawn).1.id = m.id := by
  obtain ⟨h, hrow⟩ := heartbeat_row srv m p now drawn
  rw [hrow]
  exact report_id srv m p now

/-- After a heartbeat the row knows the token it was presented, and at most the one it offers. -/
lemma heartbeat_accepts {m : Machine} {t : Token} (h : m.accepts srv t = true) (p : HeartbeatRequest)
    (now : Time) (drawn : Token) (adopts : Bool) :
    let b := (m.present srv t now).heartbeat srv p now drawn
    (b.2 = none ∨ b.2 = some drawn) ∧ Trusted b.1 ∧
      b.1.accepts srv (adopt t b.2 adopts) = true := by
  have hcur := present_tokenHash now h
  have hrev : (m.present srv t now).tokenRevoked = false := by simp [(accepts_iff.mp h).2]
  simp only [Machine.heartbeat]
  rcases offer_cases srv ((m.present srv t now).report srv p now) p.supportsTokenRotation now
    drawn with ⟨ho, -⟩ | ⟨ho, -⟩
  · rw [ho]
    refine ⟨Or.inl rfl, Or.inl (by simp [hcur]), accepts_iff.mpr ⟨Or.inl ?_, by simpa using hrev⟩⟩
    simpa [adopt] using hcur
  · rw [ho]
    refine ⟨Or.inr rfl, Or.inl (by simp [hcur]), accepts_iff.mpr ⟨?_, by simpa using hrev⟩⟩
    cases adopts with
    | true => exact Or.inr rfl
    | false => exact Or.inl (by simpa [adopt] using hcur)

/-- **A heartbeat of the agent** does to the row what it would do alone. -/
theorem Inv.heartbeat (I : Inv srv id s own) {p : HeartbeatRequest} {now : Time} {drawn : Token}
    {adopts : Bool} (hfresh : Fresh srv s (.heartbeat p now drawn adopts)) :
    Inv srv id (step srv s (.heartbeat p now drawn adopts))
      (ownStep srv own (.heartbeat p now drawn adopts)) := by
  obtain ⟨hnew, -⟩ := hfresh
  obtain ⟨r, hr⟩ := I.row
  have huniq : ∀ x ∈ s.machines, x.knows srv s.held = true → x = withRequest own.1 r := by
    intro x hx hk
    exact eq_of_id_eq I.ids hx hr (by rw [I.only x hx hk, withRequest_id, I.own_id])
  by_cases ha : own.1.accepts srv own.2 = true
  · have ha' : (withRequest own.1 r).accepts srv s.held = true := by rw [I.held]; exact ha
    have hroute : heartbeatRoute srv s.machines s.held p now drawn =
        (writeMachine (writeMachine s.machines (withRequest (own.1.present srv own.2 now) r))
          (withRequest ((own.1.present srv own.2 now).heartbeat srv p now drawn).1 r),
          .ok ((own.1.present srv own.2 now).heartbeat srv p now drawn).2) := by
      unfold heartbeatRoute
      rw [getCurrentMachine_of_accepts hr huniq ha']
      simp only [withRequest_present, withRequest_heartbeat, I.held]
    have hown : ownStep srv own (.heartbeat p now drawn adopts) =
        (((own.1.present srv own.2 now).heartbeat srv p now drawn).1,
          adopt own.2 ((own.1.present srv own.2 now).heartbeat srv p now drawn).2 adopts) := by
      simp only [ownStep, if_pos ha]
    have hid : ((own.1.present srv own.2 now).heartbeat srv p now drawn).1.id = id := by
      rw [heartbeat_id, present_id, I.own_id]
    obtain ⟨hoff, htrust, -⟩ := heartbeat_accepts ha p now drawn adopts
    rw [hown]
    simp only [step, hroute]
    refine
      { held := by rw [I.held]
        own_id := hid
        row := ⟨r, ?_⟩
        ids := by rw [map_id_writeMachine, map_id_writeMachine]; exact I.ids
        only := fun x hx hk => ?_
        trusted := htrust
        answers := I.answers }
    · refine mem_writeMachine_self (x := withRequest (own.1.present srv own.2 now) r) ?_ ?_
      · exact mem_writeMachine_self hr (by simp)
      · simp [hid, I.own_id]
    · -- every other row is as it was, and knows neither token
      rcases mem_writeMachine hx with rfl | ⟨hx₁, -⟩
      · exact hid
      rcases mem_writeMachine hx₁ with rfl | ⟨hx₂, -⟩
      · simp [I.own_id]
      · rcases hoff with ho | ho
        · rw [ho] at hk
          exact I.only x hx₂ (by simpa [adopt] using hk)
        · rw [ho] at hk
          cases adopts with
          | true => exact absurd hk (by simpa [adopt] using hnew x hx₂)
          | false => exact I.only x hx₂ hk
  · have ha' : (withRequest own.1 r).accepts srv s.held = false := by
      rw [I.held]; exact Bool.eq_false_iff.mpr ha
    obtain ⟨e, he⟩ := getCurrentMachine_of_not_accepts now I.ids huniq ha'
    simpa only [step, heartbeatRoute, he, ownStep, if_neg ha] using I

end Steps

/-! ### Every run -/

variable {srv}

lemma own_accepts (own : Machine × Token) (h : own.1.accepts srv own.2 = true) (es : List Event) :
    (run (ownStep srv) own es).1.accepts srv (run (ownStep srv) own es).2 = true := by
  refine run_invariant (P := fun own : Machine × Token => own.1.accepts srv own.2 = true)
    (fun own e h => ?_) h es
  cases e with
  | enroll body ip now id token => exact h
  | heartbeat p now drawn adopts =>
    simp only [ownStep, if_pos h]
    exact (heartbeat_accepts h p now drawn adopts).2.2

theorem Inv.run (happ : srv.reenrollRequiresApproval = true) {id : Uuid} {s : State}
    {own : Machine × Token} {es : List Event} (hfresh : Guarded (step srv) (Fresh srv) s es)
    (I : Inv srv id s own) : Inv srv id (run (step srv) s es) (Lib.run (ownStep srv) own es) := by
  induction es generalizing s own with
  | nil => exact I
  | cons e es ih =>
    obtain ⟨he, hes⟩ := hfresh
    cases e with
    | enroll body ip now newId token => exact ih hes (I.enroll happ he)
    | heartbeat p now drawn adopts => exact ih hes (I.heartbeat he)

/-- **The secret alone takes nothing over.**  A row that holds a token, or whose token was revoked,
ends where the agent's heartbeats alone would have brought it, the two `reenroll_requested` columns
excepted; no enrollment was answered with a token for it; and if the agent's token was accepted when
the run began, the one it holds now still is. -/
theorem identity_kept (happ : srv.reenrollRequiresApproval = true) (machines : List Machine)
    (m : Machine) (held : Token) (es : List Event) (hm : m ∈ machines)
    (hids : (machines.map Machine.id).Nodup)
    (hown : ∀ x ∈ machines, x.knows srv held = true → x = m) (htrust : Trusted m)
    (hfresh : Guarded (step srv) (Fresh srv) ⟨machines, held, []⟩ es) :
    (∃ r, withRequest (run (ownStep srv) (m, held) es).1 r ∈
      (run (step srv) ⟨machines, held, []⟩ es).machines) ∧
    (∀ a, .ok a ∈ (run (step srv) ⟨machines, held, []⟩ es).answers → a.machineId ≠ m.id) ∧
    (m.accepts srv held = true → ∀ now, ∃ x, x.id = m.id ∧
      (getCurrentMachine srv (run (step srv) ⟨machines, held, []⟩ es).machines
        (run (step srv) ⟨machines, held, []⟩ es).held now).2 = .ok x) := by
  have I : Inv srv m.id (run (step srv) ⟨machines, held, []⟩ es) (run (ownStep srv) (m, held) es) :=
    Inv.run happ hfresh
      { held := rfl
        own_id := rfl
        row := ⟨(m.reenrollRequestedAt, m.reenrollRequestedIp), hm⟩
        ids := hids
        only := fun x hx hk => by rw [hown x hx hk]
        trusted := htrust
        answers := nofun }
  refine ⟨I.row, I.answers, fun ha now => ?_⟩
  obtain ⟨r, hr⟩ := I.row
  have ha' := own_accepts (m, held) ha es
  have huniq : ∀ x ∈ (run (step srv) ⟨machines, held, []⟩ es).machines,
      x.knows srv (run (step srv) ⟨machines, held, []⟩ es).held = true →
        x = withRequest (run (ownStep srv) (m, held) es).1 r := by
    intro x hx hk
    exact eq_of_id_eq I.ids hx hr (by rw [I.only x hx hk, withRequest_id, I.own_id])
  rw [getCurrentMachine_of_accepts hr huniq (by rw [I.held]; exact ha')]
  exact ⟨_, by rw [present_id, withRequest_id, I.own_id], rfl⟩

/-! ### A run -/

def bareEnroll (machineUuid : String) : EnrollRequest :=
  ⟨machineUuid, none, none, none, none, none, none⟩

def liveRow : Machine := { Machine.new 0 "pc" 0 with tokenHash := some "sha256:T0" }

/-- The secret, used twice on a live row and once on an identity of its own, around a rotation. -/
def theft : List Event :=
  [.enroll (bareEnroll "pc") "10.0.0.9" 0 1 "A", .heartbeat (.empty true) (days 31) "T1" true,
    .enroll (bareEnroll "other") "10.0.0.9" 0 2 "B", .enroll (bareEnroll "pc") "10.0.0.9" 0 3 "C"]

theorem identity_kept_theft :
    (run (step .standard) ⟨[liveRow], "T0", []⟩ theft).answers.any (·.isOk) = true ∧
    (∃ r, withRequest (run (ownStep .standard) (liveRow, "T0") theft).1 r ∈
      (run (step .standard) ⟨[liveRow], "T0", []⟩ theft).machines) ∧
    (∀ a, .ok a ∈ (run (step .standard) ⟨[liveRow], "T0", []⟩ theft).answers → a.machineId ≠ 0) ∧
    (liveRow.accepts .standard "T0" = true → ∀ now, ∃ x, x.id = 0 ∧
      (getCurrentMachine .standard (run (step .standard) ⟨[liveRow], "T0", []⟩ theft).machines
        (run (step .standard) ⟨[liveRow], "T0", []⟩ theft).held now).2 = .ok x) := by
  refine ⟨by decide, identity_kept rfl [liveRow] liveRow "T0" theft ?_ ?_ ?_ (Or.inl rfl) ?_⟩
  · exact List.mem_singleton_self _
  · decide
  · simp
  · refine ⟨?_, ?_, ?_, ?_, trivial⟩ <;> exact ⟨by decide, by decide⟩

end Tiai.Identity
