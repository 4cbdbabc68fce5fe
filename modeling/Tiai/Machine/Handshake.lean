import Tiai.Lib.Runs
import Tiai.Machine.Heartbeat

/-!
# The token handshake between one agent and its row

The agent's side is `internal/agent/token.go` and the parts of `internal/agent/agent.go` that touch
the token: the poll loop has one heartbeat outstanding, the worker posts results beside it, and
`token.dat` is what a restart reloads.  The server's side is `get_current_machine` followed by the
row's part of `heartbeat`.

* `State` — the row, `cfg.AuthToken`, `token.dat`, the heartbeat the poll loop waits for, and the
  requests it no longer waits for: heartbeats it gave up on, and result posts;
* `Event` — one move of the agent, of the network or of the server;
* `Inv` — which of the two hashes on the row the agent's token is, and what each token in flight
  can still do;
* `token_honoured` — while `KeepsOffer` holds, `token.dat` is always one of the two.

What `KeepsOffer` excludes is a heartbeat that arrives after the agent stopped waiting for it, with
the old token, once a newer heartbeat has brought a new one: `rotation_due` reads the call as a
*re-offer* and replaces the very hash the agent now depends on.
-/

namespace Tiai.Handshake

open Lib

/-! ### The agent -/

/-- `adoptRotatedToken`; `saved` is whether `save` succeeded, `none` that it was not called. -/
def adoptRotatedToken (current offered : Token) (saves : Bool) : Token × Option Bool :=
  if offered = "" ∨ offered = current then (current, none)
  else if saves then (offered, some true)
  else (current, some false)

/-- What the server answers a heartbeat with, as the agent tells the cases apart. -/
inductive Answer
  | unauthorized
  | failed
  | ok (newToken : Option Token)
  deriving DecidableEq, Repr

/-- The poll loop: between two heartbeats, waiting for one, or about to read its answer. -/
inductive Poll
  | idle
  | sent (token : Token)
  | answered (answer : Answer)
  deriving DecidableEq, Repr

structure State where
  row : Machine
  /-- `cfg.AuthToken`; `none` when empty. -/
  auth : Option Token
  /-- `token.dat`. -/
  disk : Option Token
  poll : Poll
  /-- Heartbeats given up on, not processed yet. -/
  late : List Token
  /-- Result posts on their way. -/
  posts : List Token
  /-- Every hash minted so far. -/
  issued : List TokenHash
  deriving DecidableEq, Repr

inductive Event
  /-- The poll loop sends a heartbeat. -/
  | poll
  /-- It stops waiting: a time-out, or an answer that never came. -/
  | giveUp
  /-- It reads the answer; `written` is whether the write to `token.dat` succeeds. -/
  | receive (written : Bool)
  /-- The process restarts. -/
  | restart
  /-- The worker posts a result. -/
  | post
  /-- The server processes the heartbeat the agent waits for. -/
  | serve (payload : HeartbeatRequest) (now : Time) (drawn : Token) (fails : Bool)
  /-- The server processes a heartbeat the agent has given up on. -/
  | serveLate (i : ℕ) (payload : HeartbeatRequest) (now : Time) (drawn : Token) (fails : Bool)
  /-- The server processes a result post. -/
  | servePost (i : ℕ) (now : Time)
  /-- A request is lost. -/
  | loseLate (i : ℕ)
  | losePost (i : ℕ)
  deriving DecidableEq, Repr

/-- The end of `tick`: adopt the token offered, or drop one that is no longer accepted. -/
def State.receive (s : State) (answer : Answer) (written : Bool) : State :=
  match answer with
  | .failed | .ok none => { s with poll := .idle }
  | .unauthorized => { s with poll := .idle, auth := none, disk := if written then none else s.disk }
  | .ok (some offered) =>
    match adoptRotatedToken (s.auth.getD "") offered written with
    | (next, some true) => { s with poll := .idle, auth := some next, disk := some next }
    | (_, _) => { s with poll := .idle }

/-- Stop waiting for the heartbeat: the request stays on its way, an answer is lost. -/
def State.abandon (s : State) : State :=
  match s.poll with
  | .sent token => { s with poll := .idle, late := token :: s.late }
  | _ => { s with poll := .idle }

/-! ### The server -/

variable (srv : Server)

/-- A heartbeat: authentication, with the promotion it may commit, then the row's part — unless
something in between fails, which leaves the promotion. -/
def serveHeartbeat (row : Machine) (token : Token) (payload : HeartbeatRequest) (now : Time)
    (drawn : Token) (fails : Bool) : Machine × Answer :=
  if row.accepts srv token then
    if fails then (row.present srv token now, .failed)
    else
      let (row', offered) := (row.present srv token now).heartbeat srv payload now drawn
      (row', .ok offered)
  else (row, .unauthorized)

/-- A result post, as far as the row goes: it is authentication alone. -/
def servePost (row : Machine) (token : Token) (now : Time) : Machine :=
  if row.accepts srv token then row.present srv token now else row

def step (s : State) : Event → State
  | .poll =>
    match s.poll, s.auth with
    | .idle, some t => { s with poll := .sent t }
    | _, _ => s
  | .giveUp => s.abandon
  | .receive written =>
    match s.poll with
    | .answered answer => s.receive answer written
    | _ => s
  | .restart => { s.abandon with auth := s.disk }
  | .post =>
    match s.auth with
    | some t => { s with posts := t :: s.posts }
    | none => s
  | .serve payload now drawn fails =>
    match s.poll with
    | .sent t =>
      let (row, answer) := serveHeartbeat srv s.row t payload now drawn fails
      { s with row := row, poll := .answered answer, issued := srv.hashToken drawn :: s.issued }
    | _ => s
  | .serveLate i payload now drawn fails =>
    match s.late[i]? with
    | some t =>
      { s with
        row := (serveHeartbeat srv s.row t payload now drawn fails).1
        late := s.late.eraseIdx i
        issued := srv.hashToken drawn :: s.issued }
    | none => s
  | .servePost i now =>
    match s.posts[i]? with
    | some t => { s with row := servePost srv s.row t now, posts := s.posts.eraseIdx i }
    | none => s
  | .loseLate i => { s with late := s.late.eraseIdx i }
  | .losePost i => { s with posts := s.posts.eraseIdx i }

/-- An agent that has just enrolled. -/
def enrolled (row : Machine) (token : Token) : State where
  row := { row with
    tokenHash := some (srv.hashToken token), pendingTokenHash := none, tokenRevoked := false }
  auth := some token
  disk := some token
  poll := .idle
  late := []
  posts := []
  issued := [srv.hashToken token]

/-! ### The condition -/

/-- `generate_token` draws no token whose hash it has drawn before. -/
def DrawsFresh (s : State) : Event → Prop
  | .serve _ _ drawn _ | .serveLate _ _ _ drawn _ => srv.hashToken drawn ∉ s.issued
  | _ => True

/-- The agent depends on the pending token: `token.dat` holds it, or the answer it is about to read
carries it. -/
def State.dependsOnPending (s : State) : Bool :=
  s.row.pendingTokenHash.isSome &&
    (s.row.pendingTokenHash = s.disk.map srv.hashToken ||
      match s.poll with
      | .answered (.ok (some n)) => s.row.pendingTokenHash = some (srv.hashToken n)
      | _ => false)

/-- **The condition.**  No heartbeat the agent has given up on presents the old token, and is due an
offer, while the agent depends on the pending one. -/
def KeepsOffer (s : State) : Event → Prop
  | .serveLate i payload now _ fails =>
    ∀ t, s.late[i]? = some t → s.row.tokenHash = some (srv.hashToken t) → fails = false →
      payload.supportsTokenRotation = true →
      rotationDue s.row now srv.agentTokenRotateDays = true → s.dependsOnPending srv = false
  | _ => True

/-! ### What the server does with one request -/

variable {srv}

/-- A request is served from the row as it is, or it promotes the pending token. -/
lemma present_cases {row : Machine} {x : Token} (now : Time) (h : row.accepts srv x = true) :
    (row.tokenHash = some (srv.hashToken x) ∧ row.present srv x now = row) ∨
      (row.pendingTokenHash = some (srv.hashToken x) ∧
        row.present srv x now = promotePending row now) := by
  obtain ⟨hk, hr⟩ := accepts_iff.mp h
  by_cases hc : row.tokenHash = some (srv.hashToken x)
  · left
    exact ⟨hc, by simp [Machine.present, hc]⟩
  · right
    exact ⟨hk.resolve_left hc, by simp [Machine.present, hc, hr]⟩

/-- A heartbeat that is let in makes its token the current one; beyond that it either mints nothing,
and the pending hash is the one authentication left, or it offers the token it drew. -/
theorem serveHeartbeat_cases {row : Machine} {x : Token} (p : HeartbeatRequest) (now : Time)
    (drawn : Token) (fails : Bool) (h : row.accepts srv x = true) :
    ∃ row' answer, serveHeartbeat srv row x p now drawn fails = (row', answer) ∧
      row'.tokenRevoked = false ∧ row'.tokenHash = some (srv.hashToken x) ∧
      answer ≠ .unauthorized ∧
      ((row'.pendingTokenHash = (row.present srv x now).pendingTokenHash ∧
          ∀ n, answer ≠ .ok (some n)) ∨
        (row'.pendingTokenHash = some (srv.hashToken drawn) ∧ answer = .ok (some drawn) ∧
          fails = false ∧ p.supportsTokenRotation = true ∧
          rotationDue (row.present srv x now) now srv.agentTokenRotateDays = true)) := by
  have hr : (row.present srv x now).tokenRevoked = false := by simp [(accepts_iff.mp h).2]
  have hh := present_tokenHash now h
  cases fails with
  | true =>
    refine ⟨row.present srv x now, .failed, by simp [serveHeartbeat, h], hr, hh, nofun,
      Or.inl ⟨rfl, nofun⟩⟩
  | false =>
    have hserve : serveHeartbeat srv row x p now drawn false =
        (((row.present srv x now).heartbeat srv p now drawn).1,
          .ok ((row.present srv x now).heartbeat srv p now drawn).2) := by
      simp [serveHeartbeat, h]
    rw [hserve]
    unfold Machine.heartbeat
    rcases offer_cases srv ((row.present srv x now).report srv p now)
      p.supportsTokenRotation now drawn with ⟨ho, -⟩ | ⟨ho, hs, hd⟩
    · rw [ho]
      exact ⟨_, _, rfl, by simpa using hr, by simpa using hh, nofun, Or.inl ⟨by simp, nofun⟩⟩
    · rw [ho]
      refine ⟨_, _, rfl, by simpa using hr, by simpa using hh, nofun,
        Or.inr ⟨rfl, rfl, rfl, hs, ?_⟩⟩
      simpa [rotationDue] using hd

/-! ### The invariant -/

/-- What holds between the agent, whose token is `t`, and its row. -/
structure Inv (srv : Server) (s : State) (t : Token) : Prop where
  auth : s.auth = some t
  disk : s.disk = some t
  active : s.row.tokenRevoked = false
  honoured : s.row.tokenHash = some (srv.hashToken t) ∨
    s.row.pendingTokenHash = some (srv.hashToken t)
  sent : ∀ x, s.poll = .sent x → x = t
  welcome : s.poll ≠ .answered .unauthorized
  /-- An offer about to be read is the pending one, and it is not the agent's token. -/
  offered : ∀ n, s.poll = .answered (.ok (some n)) →
    s.row.pendingTokenHash = some (srv.hashToken n) ∧ srv.hashToken n ≠ srv.hashToken t ∧
      srv.hashToken n ∈ s.issued
  /-- A request in flight can only promote the agent's own token. -/
  flight : ∀ x ∈ s.late ++ s.posts, srv.hashToken x ∈ s.issued ∧
    (s.row.pendingTokenHash = some (srv.hashToken x) → srv.hashToken x = srv.hashToken t)
  known : srv.hashToken t ∈ s.issued

/-- The token of a request the server may be about to process. -/
def InFlight (s : State) (t x : Token) : Prop := x = t ∨ x ∈ s.late ++ s.posts

namespace Inv

variable {s : State} {t x : Token}

lemma accepts (I : Inv srv s t) : s.row.accepts srv t = true :=
  accepts_iff.mpr ⟨I.honoured, I.active⟩

lemma hash_issued (I : Inv srv s t) (hx : InFlight s t x) : srv.hashToken x ∈ s.issued := by
  rcases hx with rfl | hx
  · exact I.known
  · exact (I.flight x hx).1

/-- Authentication promotes no other token than the agent's, and none while an offer is on its way
back. -/
lemma present (I : Inv srv s t) (hx : InFlight s t x) (ha : s.row.accepts srv x = true) (now : Time) :
    (s.row.tokenHash = some (srv.hashToken x) ∧ s.row.present srv x now = s.row) ∨
      (srv.hashToken x = srv.hashToken t ∧ s.row.present srv x now = promotePending s.row now ∧
        ∀ n, s.poll ≠ .answered (.ok (some n))) := by
  rcases present_cases now ha with h | ⟨hp, hrow⟩
  · exact Or.inl h
  · right
    have hxt : srv.hashToken x = srv.hashToken t := by
      rcases hx with rfl | hx
      · rfl
      · exact (I.flight x hx).2 hp
    refine ⟨hxt, hrow, fun n hn => ?_⟩
    obtain ⟨hpn, hne, -⟩ := I.offered n hn
    rw [hp] at hpn
    exact hne ((Option.some.inj hpn).symm.trans hxt)

/-- Dropping requests, and giving up on the outstanding one, keep everything. -/
lemma weaken (I : Inv srv s t) {poll : Poll} {late posts : List Token}
    (hpoll : poll = .idle ∨ poll = s.poll ∨ poll = .sent t)
    (hflight : ∀ x ∈ late ++ posts, InFlight s t x) :
    Inv srv { s with poll := poll, late := late, posts := posts } t where
  auth := I.auth
  disk := I.disk
  active := I.active
  honoured := I.honoured
  sent x hx := by
    rcases hpoll with rfl | rfl | rfl
    · cases hx
    · exact I.sent x hx
    · exact (Poll.sent.inj hx).symm
  welcome := by
    rcases hpoll with rfl | rfl | rfl
    · nofun
    · exact I.welcome
    · nofun
  offered n hn := by
    rcases hpoll with rfl | rfl | rfl
    · cases hn
    · exact I.offered n hn
    · cases hn
  flight x hx := by
    rcases hflight x hx with rfl | hx
    · exact ⟨I.known, fun _ => rfl⟩
    · exact I.flight x hx
  known := I.known

lemma abandon (I : Inv srv s t) : Inv srv s.abandon t := by
  unfold State.abandon
  split
  · rename_i x hx
    refine I.weaken (Or.inl rfl) fun y hy => ?_
    rcases List.mem_cons.mp hy with rfl | hy
    · exact Or.inl (I.sent _ hx)
    · exact Or.inr hy
  · exact I.weaken (Or.inl rfl) fun y hy => Or.inr hy

lemma notDepends_iff (I : Inv srv s t) : s.dependsOnPending srv = false ↔
    s.row.pendingTokenHash ≠ some (srv.hashToken t) ∧
      ∀ n, s.poll ≠ .answered (.ok (some n)) := by
  unfold State.dependsOnPending
  rw [I.disk, Option.map_some]
  constructor
  · intro h
    refine ⟨fun hp => by simp [hp] at h, fun n hn => ?_⟩
    obtain ⟨hp, -, -⟩ := I.offered n hn
    simp [hp, hn] at h
  · rintro ⟨hp, hn⟩
    split
    · rename_i n hpoll
      exact absurd hpoll (hn n)
    · simp [hp]

/-- **One heartbeat, live or late.**  The row goes on honouring the agent's token, no request in
flight becomes dangerous, and an offer on its way back stays the pending one. -/
theorem serve (I : Inv srv s t) (hx : InFlight s t x) {p : HeartbeatRequest} {now : Time}
    {drawn : Token} {fails : Bool} (hfresh : srv.hashToken drawn ∉ s.issued)
    (hkeep : (x = t ∧ ∀ n, s.poll ≠ .answered (.ok (some n))) ∨
      (s.row.tokenHash = some (srv.hashToken x) → fails = false → p.supportsTokenRotation = true →
        rotationDue s.row now srv.agentTokenRotateDays = true → s.dependsOnPending srv = false))
    {row' : Machine} {answer : Answer}
    (hs : serveHeartbeat srv s.row x p now drawn fails = (row', answer)) :
    row'.tokenRevoked = false ∧
    (row'.tokenHash = some (srv.hashToken t) ∨ row'.pendingTokenHash = some (srv.hashToken t)) ∧
    (∀ y, InFlight s t y → row'.pendingTokenHash = some (srv.hashToken y) →
      srv.hashToken y = srv.hashToken t) ∧
    (∀ n, s.poll = .answered (.ok (some n)) → row'.pendingTokenHash = some (srv.hashToken n)) ∧
    (∀ n, answer = .ok (some n) → n = drawn ∧ row'.pendingTokenHash = some (srv.hashToken n)) := by
  have hflight : ∀ y, InFlight s t y → s.row.pendingTokenHash = some (srv.hashToken y) →
      srv.hashToken y = srv.hashToken t := by
    rintro y (rfl | hy) hp
    · rfl
    · exact (I.flight y hy).2 hp
  have hdrawn : ∀ y, InFlight s t y → srv.hashToken drawn ≠ srv.hashToken y :=
    fun y hy he => hfresh (he ▸ I.hash_issued hy)
  by_cases ha : s.row.accepts srv x = true
  · obtain ⟨r, a, hs', hrev, hcur, -, hmint⟩ := serveHeartbeat_cases p now drawn fails ha
    obtain ⟨rfl, rfl⟩ := Prod.mk.inj (hs.symm.trans hs')
    rcases I.present hx ha now with ⟨hxc, hrow⟩ | ⟨hxt, hrow, hpoll⟩
    · -- presented the current token
      rw [hrow] at hmint
      rcases hmint with ⟨hpend, hans⟩ | ⟨hpend, hans, hf, hsup, hdue⟩
      · refine ⟨hrev, ?_, fun y hy hp => hflight y hy (hpend ▸ hp), fun n hn => ?_,
          fun n hn => absurd hn (hans n)⟩
        · rw [hcur, hpend, ← hxc]; exact I.honoured
        · rw [hpend]; exact (I.offered n hn).1
      · -- a token is minted: the one it replaces is not needed
        have hfree : s.row.tokenHash = some (srv.hashToken t) ∧
            ∀ n, s.poll ≠ .answered (.ok (some n)) := by
          rcases hkeep with ⟨rfl, hpoll⟩ | hkeep
          · exact ⟨hxc, hpoll⟩
          · obtain ⟨hp, hpoll⟩ := I.notDepends_iff.mp (hkeep hxc hf hsup hdue)
            exact ⟨I.honoured.resolve_right hp, hpoll⟩
        refine ⟨hrev, Or.inl (by rw [hcur, ← hxc]; exact hfree.1), fun y hy hp => ?_,
          fun n hn => absurd hn (hfree.2 n), fun n hn => ?_⟩
        · rw [hpend] at hp
          exact absurd (Option.some.inj hp) (hdrawn y hy)
        · rw [hans] at hn
          obtain rfl := Option.some.inj (Answer.ok.inj hn)
          exact ⟨rfl, hpend⟩
    · -- presented the pending token, which is the agent's
      rw [hrow] at hmint
      refine ⟨hrev, Or.inl (by rw [hcur, hxt]), fun y hy hp => ?_, fun n hn => absurd hn (hpoll n),
        fun n hn => ?_⟩
      · rcases hmint with ⟨hpend, -⟩ | ⟨hpend, -⟩
        · rw [hpend] at hp; cases hp
        · rw [hpend] at hp
          exact absurd (Option.some.inj hp) (hdrawn y hy)
      · rcases hmint with ⟨-, hans⟩ | ⟨hpend, hans, -⟩
        · exact absurd hn (hans n)
        · rw [hans] at hn
          obtain rfl := Option.some.inj (Answer.ok.inj hn)
          exact ⟨rfl, hpend⟩
  · -- not let in
    have hs' : serveHeartbeat srv s.row x p now drawn fails = (s.row, .unauthorized) := by
      simp [serveHeartbeat, ha]
    obtain ⟨rfl, rfl⟩ := Prod.mk.inj (hs.symm.trans hs')
    exact ⟨I.active, I.honoured, hflight, fun n hn => (I.offered n hn).1, nofun⟩

/-- A result post promotes at most the agent's own token. -/
theorem servePost (I : Inv srv s t) (hx : InFlight s t x) (now : Time) :
    Inv srv { s with row := servePost srv s.row x now } t := by
  unfold Handshake.servePost
  split
  · rename_i ha
    rcases I.present hx ha now with ⟨-, hrow⟩ | ⟨hxt, hrow, hpoll⟩
    · rw [hrow]; exact I
    · have hcur := present_tokenHash now ha
      rw [hrow] at hcur ⊢
      exact
        { I with
          active := I.active
          honoured := Or.inl (by rw [hcur, hxt])
          offered := fun n hn => absurd hn (hpoll n)
          flight := fun y hy => ⟨(I.flight y hy).1, nofun⟩ }
  · exact I

/-- Reading the answer: the token offered is adopted once it is on disk, and not before. -/
theorem receive (I : Inv srv s t) {answer : Answer} (hpoll : s.poll = .answered answer)
    (written : Bool) : ∃ t', Inv srv (s.receive answer written) t' := by
  have idle : Inv srv { s with poll := .idle } t :=
    I.weaken (Or.inl rfl) fun y hy => Or.inr hy
  unfold State.receive
  split
  · exact ⟨t, idle⟩
  · exact ⟨t, idle⟩
  · exact absurd hpoll I.welcome
  · rename_i n
    obtain ⟨hp, hne, hissued⟩ := I.offered n hpoll
    split
    · -- stored: from now on the pending token is the agent's
      rename_i next hadopt
      have hn : next = n := by
        unfold adoptRotatedToken at hadopt
        grind
      subst hn
      exact ⟨next,
        { auth := rfl
          disk := rfl
          active := I.active
          honoured := Or.inr hp
          sent := nofun
          welcome := nofun
          offered := nofun
          flight := fun y hy => ⟨(I.flight y hy).1, fun hy' => by
            rw [show s.row.pendingTokenHash = some (srv.hashToken next) from hp] at hy'
            exact (Option.some.inj hy').symm⟩
          known := hissued }⟩
    · exact ⟨t, idle⟩

end Inv

/-! ### Every step, every run -/

variable (srv)

/-- The guard: tokens are drawn fresh, and the condition. -/
def Guard (s : State) (e : Event) : Prop := DrawsFresh srv s e ∧ KeepsOffer srv s e

/-- The agent's next request is let in. -/
def Honoured (s : State) : Prop :=
  ∃ t, s.disk = some t ∧
    (s.row.tokenHash = some (srv.hashToken t) ∨ s.row.pendingTokenHash = some (srv.hashToken t)) ∧
    ∀ now, getCurrentMachine srv [s.row] t now =
      ([s.row.present srv t now], .ok (s.row.present srv t now))

variable {srv}

lemma mem_of_eraseIdx {s : State} {t : Token} {i j : ℕ} {x : Token}
    (h : x ∈ s.late.eraseIdx i ++ s.posts ∨ x ∈ s.late ++ s.posts.eraseIdx j) :
    InFlight s t x := by
  right
  rcases h with h | h
  · rcases List.mem_append.mp h with h | h
    · exact List.mem_append_left _ (List.mem_of_mem_eraseIdx h)
    · exact List.mem_append_right _ h
  · rcases List.mem_append.mp h with h | h
    · exact List.mem_append_left _ h
    · exact List.mem_append_right _ (List.mem_of_mem_eraseIdx h)

theorem step_inv {s : State} {e : Event} (hG : Guard srv s e) (h : ∃ t, Inv srv s t) :
    ∃ t, Inv srv (step srv s e) t := by
  obtain ⟨t, I⟩ := h
  obtain ⟨hfresh, hkeep⟩ := hG
  cases e with
  | poll =>
    refine ⟨t, ?_⟩
    simp only [step]
    split
    · rename_i t' hpoll ht'
      obtain rfl := Option.some.inj (I.auth.symm.trans ht')
      exact I.weaken (Or.inr (Or.inr rfl)) fun y hy => Or.inr hy
    · exact I
  | giveUp => exact ⟨t, I.abandon⟩
  | receive written =>
    simp only [step]
    split
    · rename_i answer hpoll
      exact I.receive hpoll written
    · exact ⟨t, I⟩
  | restart =>
    refine ⟨t, ?_⟩
    have hd : s.abandon.disk = s.disk := by unfold State.abandon; split <;> rfl
    have hauth : s.disk = s.abandon.auth := by rw [I.abandon.auth, I.disk]
    simp only [step, hauth]
    exact I.abandon
  | post =>
    refine ⟨t, ?_⟩
    simp only [step]
    split
    · rename_i t' ht'
      obtain rfl := Option.some.inj (I.auth.symm.trans ht')
      refine I.weaken (Or.inr (Or.inl rfl)) fun y hy => ?_
      rcases List.mem_append.mp hy with hy | hy
      · exact Or.inr (List.mem_append_left _ hy)
      · rcases List.mem_cons.mp hy with rfl | hy
        · exact Or.inl rfl
        · exact Or.inr (List.mem_append_right _ hy)
    · exact I
  | serve p now drawn fails =>
    refine ⟨t, ?_⟩
    simp only [step]
    split
    · rename_i x hpoll
      obtain rfl := I.sent x hpoll
      have hidle : ∀ n, s.poll ≠ .answered (.ok (some n)) := by rw [hpoll]; nofun
      cases hserve : serveHeartbeat srv s.row x p now drawn fails with
      | mk row' answer =>
        obtain ⟨hrev, hhon, hfl, -, hoff⟩ :=
          I.serve (Or.inl rfl) hfresh (Or.inl ⟨rfl, hidle⟩) hserve
        obtain ⟨_, _, hs', -, -, hwel, -⟩ :=
          serveHeartbeat_cases p now drawn fails I.accepts
        obtain ⟨-, rfl⟩ := Prod.mk.inj (hserve.symm.trans hs')
        exact
          { auth := I.auth
            disk := I.disk
            active := hrev
            honoured := hhon
            sent := nofun
            welcome := fun hu => hwel (Poll.answered.inj hu)
            offered := fun n hn => by
              obtain ⟨rfl, hp⟩ := hoff n (Poll.answered.inj hn)
              exact ⟨hp, fun he => hfresh (he ▸ I.known), List.mem_cons_self ..⟩
            flight := fun y hy =>
              ⟨List.mem_cons_of_mem _ (I.flight y hy).1, hfl y (Or.inr hy)⟩
            known := List.mem_cons_of_mem _ I.known }
    · exact I
  | serveLate i p now drawn fails =>
    refine ⟨t, ?_⟩
    simp only [step]
    split
    · rename_i x hx
      have hin : InFlight s t x := Or.inr (List.mem_append_left _ (List.mem_of_getElem? hx))
      obtain ⟨hrev, hhon, hfl, hoff, -⟩ := I.serve hin hfresh (Or.inr (hkeep x hx)) rfl
      exact
        { auth := I.auth
          disk := I.disk
          active := hrev
          honoured := hhon
          sent := I.sent
          welcome := I.welcome
          offered := fun n hn =>
            ⟨hoff n hn, (I.offered n hn).2.1, List.mem_cons_of_mem _ (I.offered n hn).2.2⟩
          flight := fun y hy => by
            have hy := mem_of_eraseIdx (t := t) (j := 0) (Or.inl hy)
            exact ⟨List.mem_cons_of_mem _ (I.hash_issued hy), hfl y hy⟩
          known := List.mem_cons_of_mem _ I.known }
    · exact I
  | servePost i now =>
    refine ⟨t, ?_⟩
    simp only [step]
    split
    · rename_i x hx
      have hin : InFlight s t x := Or.inr (List.mem_append_right _ (List.mem_of_getElem? hx))
      exact (I.servePost hin now).weaken (Or.inr (Or.inl rfl))
        fun y hy => mem_of_eraseIdx (i := 0) (Or.inr hy)
    · exact I
  | loseLate i =>
    exact ⟨t, I.weaken (Or.inr (Or.inl rfl)) fun y hy => mem_of_eraseIdx (j := 0) (Or.inl hy)⟩
  | losePost i =>
    exact ⟨t, I.weaken (Or.inr (Or.inl rfl)) fun y hy => mem_of_eraseIdx (i := 0) (Or.inr hy)⟩

lemma Inv.enrolled (row : Machine) (t : Token) : Inv srv (enrolled srv row t) t where
  auth := rfl
  disk := rfl
  active := rfl
  honoured := Or.inl rfl
  sent := nofun
  welcome := nofun
  offered := nofun
  flight := nofun
  known := List.mem_singleton_self _

lemma Inv.honoured' {s : State} {t : Token} (I : Inv srv s t) : Honoured srv s := by
  refine ⟨t, I.disk, I.honoured, fun now => ?_⟩
  rw [getCurrentMachine_of_accepts (List.mem_singleton_self _) (by simp) I.accepts]
  simp [writeMachine]

/-- **Rotation keeps the agent in, while no late heartbeat overtakes an offer.**  In every state of
every such run — whatever is lost, late, or not stored — `token.dat` holds a token that is one of the
row's two, and the next request that carries it is let in. -/
theorem token_honoured (row : Machine) (t : Token) (es : List Event)
    (hg : Guarded (step srv) (Guard srv) (enrolled srv row t) es) :
    Honoured srv (run (step srv) (enrolled srv row t) es) := by
  obtain ⟨t', I⟩ := hg.invariant (P := fun s => ∃ t, Inv srv s t)
    (fun s e hG h => step_inv hG h) ⟨t, Inv.enrolled row t⟩
  exact I.honoured'

/-! ### The two sides of the condition -/

/-- A month after enrollment, the first offer is not stored, the second one is and its token used:
a heartbeat given up on before all this finds its token retired. -/
def renewal : List Event :=
  [.poll, .giveUp,
    .poll, .serve (.empty true) (days 31) "T1" false, .receive false,
    .poll, .serve (.empty true) (days 31) "T2" false, .receive true,
    .poll, .serve (.empty true) (days 31) "T3" false,
    .serveLate 0 (.empty true) (days 31) "T4" false]

theorem token_honoured_renewal :
    Guarded (step .standard) (Guard .standard) (enrolled .standard (Machine.new 0 "pc" 0) "T0")
        renewal ∧
      Honoured .standard
        (run (step .standard) (enrolled .standard (Machine.new 0 "pc" 0) "T0") renewal) := by
  have hg : Guarded (step .standard) (Guard .standard)
      (enrolled .standard (Machine.new 0 "pc" 0) "T0") renewal := by
    refine ⟨⟨trivial, trivial⟩, ⟨trivial, trivial⟩, ⟨trivial, trivial⟩, ⟨?_, trivial⟩,
      ⟨trivial, trivial⟩, ⟨trivial, trivial⟩, ⟨?_, trivial⟩, ⟨trivial, trivial⟩, ⟨trivial, trivial⟩,
      ⟨?_, trivial⟩, ⟨?_, fun t ht hcur => ?_⟩, trivial⟩
    · show Server.standard.hashToken "T1" ∉ _
      decide
    · show Server.standard.hashToken "T2" ∉ _
      decide
    · show Server.standard.hashToken "T3" ∉ _
      decide
    · show Server.standard.hashToken "T4" ∉ _
      decide
    · obtain rfl : "T0" = t := Option.some.inj ht
      exact absurd hcur (by decide)
  exact ⟨hg, token_honoured _ _ _ hg⟩

/-- Rotation with no condition on what arrives late. -/
def NeverLocksOut (srv : Server) : Prop :=
  ∀ (row : Machine) (t : Token) (es : List Event),
    Guarded (step srv) (DrawsFresh srv) (enrolled srv row t) es →
      Honoured srv (run (step srv) (enrolled srv row t) es)

/-- The heartbeat given up on arrives after the next one's offer was stored, and replaces it. -/
theorem locked_out_by_late_heartbeat : ¬ NeverLocksOut Server.standard := by
  intro h
  obtain ⟨t, hdisk, hhash, -⟩ := h (Machine.new 0 "pc" 0) "T0"
    [.poll, .giveUp, .poll, .serve (.empty true) (days 31) "T1" false, .receive true,
      .serveLate 0 (.empty true) (days 31) "T2" false]
    ⟨trivial, trivial, trivial, by show Server.standard.hashToken "T1" ∉ _; decide, trivial,
      by show Server.standard.hashToken "T2" ∉ _; decide, trivial⟩
  obtain rfl : "T1" = t := Option.some.inj hdisk
  exact absurd hhash (by decide)

end Tiai.Handshake
