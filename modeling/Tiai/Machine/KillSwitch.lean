import Tiai.Lib.Runs
import Tiai.Lib.Column
import Tiai.Machine.Heartbeat
import Tiai.Machine.Enroll

/-!
# The kill switch, under concurrent transactions

Every request on a machine is a transaction that reads the row when it starts and, when it commits,
writes the columns it changed (`Machine.writeBack`).  An agent's request may commit twice: once for
the promotion of a pending token, then, after a refresh, for the heartbeat itself.

* `State` — the row, the open transactions, and two ledgers: the hash of every token issued, and of
  every token that is cut off, because it was issued before a reset (`revoke_token`,
  `allow_reenroll`, an enrollment) committed, or minted later for the holder of such a token;
* `Sequential` — no lost update between a reset and a request, on the columns of the credential;
* `cut_off` — while that holds, no token that is cut off is ever accepted again.
-/

namespace Tiai

/-- What a commit leaves of the row `current`, for a transaction that read `read` and made `new`
of it. -/
def Machine.writeBack (read new current : Machine) : Machine where
  id := Lib.writeBack read.id new.id current.id
  machineUuid := Lib.writeBack read.machineUuid new.machineUuid current.machineUuid
  machineGuid := Lib.writeBack read.machineGuid new.machineGuid current.machineGuid
  smbiosUuid := Lib.writeBack read.smbiosUuid new.smbiosUuid current.smbiosUuid
  tpmEkHash := Lib.writeBack read.tpmEkHash new.tpmEkHash current.tpmEkHash
  needsVerification :=
    Lib.writeBack read.needsVerification new.needsVerification current.needsVerification
  hostname := Lib.writeBack read.hostname new.hostname current.hostname
  domain := Lib.writeBack read.domain new.domain current.domain
  location := Lib.writeBack read.location new.location current.location
  osVersion := Lib.writeBack read.osVersion new.osVersion current.osVersion
  agentVersion := Lib.writeBack read.agentVersion new.agentVersion current.agentVersion
  ipAddress := Lib.writeBack read.ipAddress new.ipAddress current.ipAddress
  macAddress := Lib.writeBack read.macAddress new.macAddress current.macAddress
  ipPrefixLength := Lib.writeBack read.ipPrefixLength new.ipPrefixLength current.ipPrefixLength
  tokenHash := Lib.writeBack read.tokenHash new.tokenHash current.tokenHash
  tokenRevoked := Lib.writeBack read.tokenRevoked new.tokenRevoked current.tokenRevoked
  reenrollRequestedAt :=
    Lib.writeBack read.reenrollRequestedAt new.reenrollRequestedAt current.reenrollRequestedAt
  reenrollRequestedIp :=
    Lib.writeBack read.reenrollRequestedIp new.reenrollRequestedIp current.reenrollRequestedIp
  tokenIssuedAt := Lib.writeBack read.tokenIssuedAt new.tokenIssuedAt current.tokenIssuedAt
  pendingTokenHash :=
    Lib.writeBack read.pendingTokenHash new.pendingTokenHash current.pendingTokenHash
  firstSeen := Lib.writeBack read.firstSeen new.firstSeen current.firstSeen
  lastSeen := Lib.writeBack read.lastSeen new.lastSeen current.lastSeen
  createdAt := Lib.writeBack read.createdAt new.createdAt current.createdAt
  updatedAt := Lib.writeBack read.updatedAt new.updatedAt current.updatedAt

namespace KillSwitch

open Lib

/-! ### Transactions -/

/-- Where an agent's request stands: its promotion not yet committed, committed but the row not yet
read again, or past authentication. -/
inductive Stage
  | promoting (now : Time)
  | promoted
  | admitted
  deriving DecidableEq, Repr

/-- An agent's request; `resets` counts the resets committed when it was authenticated. -/
structure Request where
  token : Token
  read : Machine
  stage : Stage
  resets : ℕ

/-- The operations that replace or withdraw a credential. -/
inductive Operation
  | revokeToken
  | allowReenroll
  | enroll (body : EnrollRequest) (shared : Bool) (ip : String)

structure Reset where
  operation : Operation
  read : Machine

structure State where
  row : Machine
  requests : List Request
  pending : List Reset
  issued : List TokenHash
  cutOff : List TokenHash
  resets : ℕ

inductive Event
  /-- A request with this token reaches `get_current_machine`. -/
  | request (token : Token) (now : Time)
  | commitPromotion (i : ℕ)
  | refresh (i : ℕ)
  /-- An admitted request turns out to be a heartbeat, and commits. -/
  | heartbeat (i : ℕ) (payload : HeartbeatRequest) (now : Time) (drawn : Token)
  /-- It is a result post, or fails: the row is not written. -/
  | finish (i : ℕ)
  | begin (operation : Operation)
  | commit (i : ℕ) (now : Time) (drawn : Token)

variable (srv : Server)

/-- What an enrollment of the known row decides, on the row it read. -/
inductive Decision
  | refused
  | held
  | issues
  deriving DecidableEq, Repr

def decideEnroll (read : Machine) : Decision :=
  if read.tokenRevoked then .refused
  else if read.tokenHash.isSome ∧ srv.reenrollRequiresApproval then .held
  else .issues

/-- A reset has committed: every token issued so far is cut off. -/
def State.reset (s : State) (row : Machine) : State :=
  { s with row := row, cutOff := s.issued, resets := s.resets + 1 }

/-- A token was minted for the holder of `token`: it is cut off if that one is. -/
def State.mint (s : State) (token drawn : Token) : State :=
  { s with
    issued := srv.hashToken drawn :: s.issued
    cutOff := if srv.hashToken token ∈ s.cutOff then srv.hashToken drawn :: s.cutOff else s.cutOff }

/-- The commit of a reset, already taken off the open transactions. -/
def State.commit (s : State) (t : Reset) (now : Time) (drawn : Token) : State :=
  match t.operation with
  | .revokeToken => s.reset (Machine.writeBack t.read (Tiai.revokeToken t.read now) s.row)
  | .allowReenroll => s.reset (Machine.writeBack t.read (Tiai.allowReenroll t.read now) s.row)
  | .enroll body shared ip =>
    match decideEnroll srv t.read with
    | .refused => s
    | .held => { s with row := Machine.writeBack t.read (t.read.held ip now) s.row }
    | .issues =>
      let s' := s.reset (Machine.writeBack t.read
        (t.read.reenrolled srv body.validate shared now drawn) s.row)
      { s' with issued := srv.hashToken drawn :: s'.issued }

/-- The commit of a heartbeat, already taken off the open transactions. -/
def State.heartbeat (s : State) (r : Request) (p : HeartbeatRequest) (now : Time) (drawn : Token) :
    State :=
  let (new, offered) := r.read.heartbeat srv p now drawn
  let s' := { s with row := Machine.writeBack r.read new s.row }
  match offered with
  | some token => s'.mint srv r.token token
  | none => s'

def step (s : State) : Event → State
  | .request token now =>
    if s.row.accepts srv token then
      let stage := if s.row.tokenHash = some (srv.hashToken token) then .admitted else .promoting now
      { s with requests := ⟨token, s.row, stage, s.resets⟩ :: s.requests }
    else s
  | .commitPromotion i =>
    match s.requests[i]? with
    | some ⟨token, read, .promoting now, n⟩ =>
      { s with
        row := Machine.writeBack read (read.present srv token now) s.row
        requests := s.requests.set i ⟨token, read, .promoted, n⟩ }
    | _ => s
  | .refresh i =>
    match s.requests[i]? with
    | some ⟨token, _, .promoted, n⟩ =>
      -- `get_current_machine` refuses what the refresh shows to be revoked
      if s.row.tokenRevoked then { s with requests := s.requests.eraseIdx i }
      else { s with requests := s.requests.set i ⟨token, s.row, .admitted, n⟩ }
    | _ => s
  | .heartbeat i p now drawn =>
    match s.requests[i]? with
    | some ⟨token, read, .admitted, n⟩ =>
      State.heartbeat srv { s with requests := s.requests.eraseIdx i } ⟨token, read, .admitted, n⟩ p
        now drawn
    | _ => s
  | .finish i => { s with requests := s.requests.eraseIdx i }
  | .begin operation => { s with pending := ⟨operation, s.row⟩ :: s.pending }
  | .commit i now drawn =>
    match s.pending[i]? with
    | some t => State.commit srv { s with pending := s.pending.eraseIdx i } t now drawn
    | none => s

/-- A row with no transaction open, and nothing cut off yet; `earlier` are the tokens it has had
before those it has now. -/
def start (row : Machine) (earlier : List TokenHash) : State where
  row := row
  requests := []
  pending := []
  issued := row.tokenHash.toList ++ row.pendingTokenHash.toList ++ earlier
  cutOff := []
  resets := 0

/-! ### The condition -/

/-- `generate_token` draws no token whose hash it has drawn before. -/
def DrawsFresh (s : State) : Event → Prop
  | .heartbeat _ _ _ drawn | .commit _ _ drawn => srv.hashToken drawn ∉ s.issued
  | _ => True

/-- A request may write the credential: no reset has committed since it was authenticated, unless the
row is revoked anyway. -/
def Request.MayWrite (s : State) (r : Request) : Prop := r.resets = s.resets ∨ s.row.tokenRevoked = true

/-- A reset writes what it means to: no column that it found already as it wants it has been given
another value since. -/
def Reset.TakesEffect (s : State) (t : Reset) : Prop :=
  match t.operation with
  | .revokeToken => t.read.tokenRevoked = true → s.row.tokenRevoked = true
  | .allowReenroll => (t.read.tokenRevoked = false ∧ s.row.tokenRevoked = true) ∨
      ((t.read.tokenHash = none → s.row.tokenHash = none) ∧
        (t.read.pendingTokenHash = none → s.row.pendingTokenHash = none))
  | .enroll _ _ _ => decideEnroll srv t.read = .issues →
      s.row.tokenRevoked = true ∨
        (t.read.pendingTokenHash = none → s.row.pendingTokenHash = none)

/-- **The condition.**  Resets and requests do not overtake one another on the credential's
columns. -/
def Sequential (s : State) : Event → Prop
  | .commitPromotion i => ∀ r, s.requests[i]? = some r → r.MayWrite s
  | .heartbeat i p now _ => ∀ r, s.requests[i]? = some r → p.supportsTokenRotation = true →
      rotationDue r.read now srv.agentTokenRotateDays = true → r.MayWrite s
  | .commit i _ _ => ∀ t, s.pending[i]? = some t → t.TakesEffect srv s
  | _ => True

/-! ### What each commit does to the credential -/

section Commits

variable {read : Machine}

/-- The hashes a row carries are all in the ledger. -/
def Known (issued : List TokenHash) (m : Machine) : Prop :=
  ∀ h, m.tokenHash = some h ∨ m.pendingTokenHash = some h → h ∈ issued

/-- No hash of the row is cut off, unless the row is revoked. -/
def Sound (cutOff : List TokenHash) (m : Machine) : Prop :=
  m.tokenRevoked = false → ∀ h, m.tokenHash = some h ∨ m.pendingTokenHash = some h → h ∉ cutOff

/-- A commit that leaves the three columns as it read them leaves them as they are. -/
lemma writeBack_credential (row : Machine) {new : Machine} (hh : new.tokenHash = read.tokenHash)
    (hp : new.pendingTokenHash = read.pendingTokenHash) (hr : new.tokenRevoked = read.tokenRevoked) :
    (Machine.writeBack read new row).tokenHash = row.tokenHash ∧
      (Machine.writeBack read new row).pendingTokenHash = row.pendingTokenHash ∧
      (Machine.writeBack read new row).tokenRevoked = row.tokenRevoked := by
  refine ⟨?_, ?_, ?_⟩
  · show Lib.writeBack read.tokenHash new.tokenHash row.tokenHash = _
    rw [hh, writeBack_of_eq]
  · show Lib.writeBack read.pendingTokenHash new.pendingTokenHash row.pendingTokenHash = _
    rw [hp, writeBack_of_eq]
  · show Lib.writeBack read.tokenRevoked new.tokenRevoked row.tokenRevoked = _
    rw [hr, writeBack_of_eq]

/-- The promotion writes both columns, whatever has happened to them since. -/
lemma promotion_credential {srv : Server} (row : Machine) (now : Time) {token : Token} (ha : read.accepts srv token = true)
    (hne : read.tokenHash ≠ some (srv.hashToken token)) :
    let row' := Machine.writeBack read (read.present srv token now) row
    row'.tokenHash = some (srv.hashToken token) ∧ row'.pendingTokenHash = none ∧
      row'.tokenRevoked = row.tokenRevoked := by
  obtain ⟨hk, hr⟩ := accepts_iff.mp ha
  have hpend := hk.resolve_left hne
  have hnew : read.present srv token now = promotePending read now := by
    simp [Machine.present, hne, hr]
  rw [hnew]
  refine ⟨?_, ?_, writeBack_of_eq _ _⟩
  · show Lib.writeBack read.tokenHash read.pendingTokenHash row.tokenHash = _
    rw [writeBack_of_ne (by rw [hpend]; exact Ne.symm hne), hpend]
  · show Lib.writeBack read.pendingTokenHash none row.pendingTokenHash = none
    rw [writeBack_of_ne (by rw [hpend]; exact (Option.some_ne_none _).symm)]

/-- A heartbeat writes the pending hash, when it offers a token, and no more of the credential. -/
lemma heartbeat_credential (read row : Machine) (p : HeartbeatRequest) (now : Time)
    (drawn : Token) :
    let b := read.heartbeat srv p now drawn
    let row' := Machine.writeBack read b.1 row
    row'.tokenHash = row.tokenHash ∧ row'.tokenRevoked = row.tokenRevoked ∧
      ((b.2 = none ∧ row'.pendingTokenHash = row.pendingTokenHash) ∨
        (b.2 = some drawn ∧ p.supportsTokenRotation = true ∧
          rotationDue read now srv.agentTokenRotateDays = true ∧
          (row'.pendingTokenHash = row.pendingTokenHash ∨
            row'.pendingTokenHash = some (srv.hashToken drawn)))) := by
  simp only [Machine.heartbeat]
  rcases offer_cases srv (read.report srv p now) p.supportsTokenRotation now drawn with
    ⟨ho, -⟩ | ⟨ho, hs, hd⟩
  · rw [ho]
    obtain ⟨h₁, h₂, h₃⟩ := writeBack_credential row (report_tokenHash srv read p now)
      (report_pendingTokenHash srv read p now) (report_tokenRevoked srv read p now)
    exact ⟨h₁, h₃, Or.inl ⟨rfl, h₂⟩⟩
  · rw [ho]
    refine ⟨?_, ?_, Or.inr ⟨rfl, hs, by simpa [rotationDue] using hd, ?_⟩⟩
    · show Lib.writeBack read.tokenHash (read.report srv p now).tokenHash row.tokenHash = _
      rw [report_tokenHash, writeBack_of_eq]
    · show Lib.writeBack read.tokenRevoked (read.report srv p now).tokenRevoked row.tokenRevoked = _
      rw [report_tokenRevoked, writeBack_of_eq]
    · rcases writeBack_cases read.pendingTokenHash (some (srv.hashToken drawn))
        row.pendingTokenHash with ⟨-, h⟩ | ⟨-, h⟩
      · exact Or.inl h
      · exact Or.inr h

end Commits

/-! ### The invariant -/

/-- What an open request remembers. -/
structure Request.Ok (srv : Server) (s : State) (r : Request) : Prop where
  past : r.resets ≤ s.resets
  issued : srv.hashToken r.token ∈ s.issued
  /-- With no reset since, its token is not cut off. -/
  alive : r.resets = s.resets → srv.hashToken r.token ∉ s.cutOff
  promoting : ∀ now, r.stage = .promoting now →
    r.read.accepts srv r.token = true ∧ r.read.tokenHash ≠ some (srv.hashToken r.token)

structure Inv (srv : Server) (s : State) : Prop where
  sound : Sound s.cutOff s.row
  sub : ∀ h ∈ s.cutOff, h ∈ s.issued
  known : Known s.issued s.row
  requests : ∀ r ∈ s.requests, r.Ok srv s
  snapshots : ∀ t ∈ s.pending, Known s.issued t.read

section Steps

variable {srv} {s : State}

lemma Known.mono {issued : List TokenHash} {m : Machine} (h : Known issued m) (x : TokenHash) :
    Known (x :: issued) m := fun y hy => List.mem_cons_of_mem _ (h y hy)

/-- Dropping a request or a reset, and replacing a request by one that remembers as much. -/
lemma Inv.requests_eraseIdx (I : Inv srv s) (i : ℕ) :
    Inv srv { s with requests := s.requests.eraseIdx i } :=
  { I with requests := fun r hr =>
      have h := I.requests r (List.mem_of_mem_eraseIdx hr)
      ⟨h.past, h.issued, h.alive, h.promoting⟩ }

lemma Inv.requests_set (I : Inv srv s) {r : Request} (i : ℕ) (h : r.Ok srv s) :
    Inv srv { s with requests := s.requests.set i r } := by
  refine { I with requests := fun x hx => ?_ }
  rcases List.mem_or_eq_of_mem_set hx with hx | rfl
  · have h := I.requests x hx
    exact ⟨h.past, h.issued, h.alive, h.promoting⟩
  · exact ⟨h.past, h.issued, h.alive, h.promoting⟩

lemma Inv.pending_eraseIdx (I : Inv srv s) (i : ℕ) :
    Inv srv { s with pending := s.pending.eraseIdx i } :=
  { I with
    requests := fun r hr =>
      have h := I.requests r hr
      ⟨h.past, h.issued, h.alive, h.promoting⟩
    snapshots := fun t ht => I.snapshots t (List.mem_of_mem_eraseIdx ht) }

/-- The row alone changes. -/
lemma Inv.set_row (I : Inv srv s) {row : Machine} (hs : Sound s.cutOff row)
    (hk : Known s.issued row) : Inv srv { s with row := row } :=
  { I with
    sound := hs
    known := hk
    requests := fun r hr =>
      have h := I.requests r hr
      ⟨h.past, h.issued, h.alive, h.promoting⟩ }

/-- A reset whose row carries nothing that has been issued before. -/
lemma Inv.reset (I : Inv srv s) {row : Machine} (hs : Sound s.issued row)
    (hk : Known s.issued row) : Inv srv (s.reset row) where
  sound := hs
  sub := fun _ h => h
  known := hk
  requests r hr :=
    have h := I.requests r hr
    { past := Nat.le_succ_of_le h.past
      issued := h.issued
      alive := fun he => by
        have : r.resets = s.resets + 1 := he
        have := h.past
        omega
      promoting := h.promoting }
  snapshots := I.snapshots

/-- A mint for the holder of a token that is not cut off, or on a revoked row. -/
lemma Inv.mint (I : Inv srv s) {r : Request} {drawn : Token} {row : Machine}
    (hfresh : srv.hashToken drawn ∉ s.issued) (hr : r.Ok srv s) (hw : r.MayWrite s)
    (hhash : row.tokenHash = s.row.tokenHash) (hrev : row.tokenRevoked = s.row.tokenRevoked)
    (hpend : row.pendingTokenHash = s.row.pendingTokenHash ∨
      row.pendingTokenHash = some (srv.hashToken drawn)) :
    Inv srv (State.mint srv { s with row := row } r.token drawn) := by
  have hcut : ∀ h, h ∈ (State.mint srv { s with row := row } r.token drawn).cutOff →
      h ∈ s.cutOff ∨ (h = srv.hashToken drawn ∧ srv.hashToken r.token ∈ s.cutOff) := by
    intro h hh
    simp only [State.mint] at hh
    split at hh
    · rename_i hmem
      rcases List.mem_cons.mp hh with rfl | hh
      · exact Or.inr ⟨rfl, hmem⟩
      · exact Or.inl hh
    · exact Or.inl hh
  refine
    { sound := fun hrow h hh hd => ?_
      sub := fun h hh => ?_
      known := fun h hh => ?_
      requests := fun x hx => ?_
      snapshots := fun t ht => (I.snapshots t ht).mono _ }
  · have hrow' : s.row.tokenRevoked = false := hrev ▸ hrow
    have halive : srv.hashToken r.token ∉ s.cutOff := by
      rcases hw with he | he
      · exact hr.alive he
      · simp [hrow'] at he
    have hd' : h ∈ s.cutOff := (hcut h hd).resolve_right fun hc => halive hc.2
    have hh' : row.tokenHash = some h ∨ row.pendingTokenHash = some h := hh
    rw [hhash] at hh'
    rcases hh' with hh | hh
    · exact I.sound hrow' h (Or.inl hh) hd'
    · rcases hpend with hp | hp
      · exact I.sound hrow' h (Or.inr (hp ▸ hh)) hd'
      · rw [hp] at hh
        exact hfresh (Option.some.inj hh ▸ I.sub h hd')
  · rcases hcut h hh with hh | ⟨rfl, -⟩
    · exact List.mem_cons_of_mem _ (I.sub h hh)
    · exact List.mem_cons_self ..
  · have hh' : row.tokenHash = some h ∨ row.pendingTokenHash = some h := hh
    rw [hhash] at hh'
    rcases hh' with hh | hh
    · exact List.mem_cons_of_mem _ (I.known h (Or.inl hh))
    · rcases hpend with hp | hp
      · exact List.mem_cons_of_mem _ (I.known h (Or.inr (hp ▸ hh)))
      · rw [hp] at hh
        rw [← Option.some.inj hh]
        exact List.mem_cons_self ..
  · have h := I.requests x hx
    refine ⟨h.past, List.mem_cons_of_mem _ h.issued, fun he hd => ?_, h.promoting⟩
    rcases hcut _ hd with hd | ⟨hd, -⟩
    · exact h.alive he hd
    · exact hfresh (hd ▸ h.issued)

/-- **A request that reaches authentication.** -/
lemma Inv.request (I : Inv srv s) (token : Token) (now : Time) :
    Inv srv (step srv s (.request token now)) := by
  simp only [step]
  split
  · rename_i ha
    obtain ⟨hk, hr⟩ := accepts_iff.mp ha
    refine { I with requests := fun x hx => ?_ }
    rcases List.mem_cons.mp hx with rfl | hx
    · refine ⟨le_rfl, I.known _ hk, fun _ => I.sound hr _ hk, fun now' hst => ⟨ha, fun hc => ?_⟩⟩
      rw [if_pos (show s.row.tokenHash = some (srv.hashToken token) from hc)] at hst
      cases hst
    · have h := I.requests x hx
      exact ⟨h.past, h.issued, h.alive, h.promoting⟩
  · exact I

/-- **The commit of a promotion.** -/
lemma Inv.commitPromotion (I : Inv srv s) {i : ℕ} (hs : Sequential srv s (.commitPromotion i)) :
    Inv srv (step srv s (.commitPromotion i)) := by
  simp only [step]
  split
  · rename_i token read now n hreq
    have hr := I.requests _ (List.mem_of_getElem? hreq)
    obtain ⟨ha, hne⟩ := hr.promoting now rfl
    obtain ⟨hh, hp, hrev⟩ := promotion_credential s.row now ha hne
    refine Inv.requests_set (s := { s with
      row := Machine.writeBack read (read.present srv token now) s.row })
      (I.set_row ?_ ?_) i ⟨hr.past, hr.issued, hr.alive, nofun⟩
    · intro hrow h hcarried hd
      rw [hh, hp] at hcarried
      obtain rfl : srv.hashToken token = h := by
        rcases hcarried with hc | hc
        · exact Option.some.inj hc
        · cases hc
      rcases hs _ hreq with he | he
      · exact hr.alive he hd
      · rw [hrev, he] at hrow; cases hrow
    · intro h hcarried
      rw [hh, hp] at hcarried
      rcases hcarried with hc | hc
      · rw [← Option.some.inj hc]; exact hr.issued
      · cases hc
  · exact I

/-- **The commit of a heartbeat.** -/
lemma Inv.heartbeat (I : Inv srv s) {i : ℕ} {p : HeartbeatRequest} {now : Time} {drawn : Token}
    (hfresh : srv.hashToken drawn ∉ s.issued) (hs : Sequential srv s (.heartbeat i p now drawn)) :
    Inv srv (step srv s (.heartbeat i p now drawn)) := by
  simp only [step]
  split
  · rename_i token read n hreq
    have hr := I.requests _ (List.mem_of_getElem? hreq)
    have J := I.requests_eraseIdx i
    obtain ⟨hh, hrev, hcase⟩ := heartbeat_credential srv read s.row p now drawn
    simp only [State.heartbeat]
    rcases hcase with ⟨ho, hp⟩ | ⟨ho, hsup, hdue, hp⟩
    · rw [ho]
      refine J.set_row ?_ ?_
      · intro hrow h hc
        rw [hrev] at hrow
        rw [hh, hp] at hc
        exact I.sound hrow h hc
      · intro h hc
        rw [hh, hp] at hc
        exact I.known h hc
    · rw [ho]
      exact J.mint hfresh ⟨hr.past, hr.issued, hr.alive, hr.promoting⟩ (hs _ hreq hsup hdue) hh hrev hp
  · exact I

/-- A revocation that takes effect. -/
lemma Inv.commitRevoke (I : Inv srv s) {read : Machine} (now : Time) (drawn : Token)
    (hs : Reset.TakesEffect srv s ⟨.revokeToken, read⟩) :
    Inv srv (State.commit srv s ⟨.revokeToken, read⟩ now drawn) := by
  simp only [State.commit]
  have hrev : (Machine.writeBack read (revokeToken read now) s.row).tokenRevoked = true :=
    writeBack_eq_new hs
  refine I.reset (fun h => by simp [hrev] at h) fun h hc => ?_
  rcases hc with hc | hc
  · have hh : (Machine.writeBack read (revokeToken read now) s.row).tokenHash = s.row.tokenHash :=
      writeBack_of_eq _ _
    exact I.known h (Or.inl (hh ▸ hc))
  · rcases writeBack_cases read.pendingTokenHash none s.row.pendingTokenHash with ⟨-, hp⟩ | ⟨-, hp⟩
    · exact I.known h (Or.inr (hp.symm.trans hc))
    · cases hp.symm.trans hc

/-- A reenrollment that is allowed. -/
lemma Inv.commitReenroll (I : Inv srv s) {read : Machine} (now : Time) (drawn : Token)
    (hs : Reset.TakesEffect srv s ⟨.allowReenroll, read⟩) :
    Inv srv (State.commit srv s ⟨.allowReenroll, read⟩ now drawn) := by
  simp only [State.commit]
  have hcols : ∀ h, ((Machine.writeBack read (allowReenroll read now) s.row).tokenHash = some h →
        s.row.tokenHash = some h) ∧
      ((Machine.writeBack read (allowReenroll read now) s.row).pendingTokenHash = some h →
        s.row.pendingTokenHash = some h) := by
    intro h
    constructor
    · intro hc
      rcases writeBack_cases read.tokenHash none s.row.tokenHash with ⟨-, hp⟩ | ⟨-, hp⟩
      · exact hp.symm.trans hc
      · cases hp.symm.trans hc
    · intro hc
      rcases writeBack_cases read.pendingTokenHash none s.row.pendingTokenHash with
        ⟨-, hp⟩ | ⟨-, hp⟩
      · exact hp.symm.trans hc
      · cases hp.symm.trans hc
  refine I.reset (fun hrow h hc => ?_) fun h hc =>
    I.known h (hc.imp (hcols h).1 (hcols h).2)
  rcases hs with ⟨hr, hrow'⟩ | ⟨hh, hp⟩
  · -- the row stays revoked
    have : (Machine.writeBack read (allowReenroll read now) s.row).tokenRevoked = true :=
      (congrArg (Lib.writeBack · false s.row.tokenRevoked) hr).trans
        ((writeBack_of_eq _ _).trans hrow')
    simp [this] at hrow
  · have hh' : (Machine.writeBack read (allowReenroll read now) s.row).tokenHash = none :=
      writeBack_eq_new hh
    have hp' : (Machine.writeBack read (allowReenroll read now) s.row).pendingTokenHash = none :=
      writeBack_eq_new hp
    rw [hh', hp'] at hc
    rcases hc with hc | hc <;> cases hc

/-- An enrollment, whatever it decides. -/
lemma Inv.commitEnroll (I : Inv srv s) {read : Machine} {body : EnrollRequest} {shared : Bool} {ip : String} {now : Time} {drawn : Token}
    (hfresh : srv.hashToken drawn ∉ s.issued) (hread : Known s.issued read)
    (hs : Reset.TakesEffect srv s ⟨.enroll body shared ip, read⟩) :
    Inv srv (State.commit srv s ⟨.enroll body shared ip, read⟩ now drawn) := by
  simp only [State.commit]
  cases hd : decideEnroll srv read with
  | refused => exact I
  | held =>
    obtain ⟨hh, hp, hr⟩ := writeBack_credential s.row
      (show (read.held ip now).tokenHash = read.tokenHash from rfl) rfl rfl
    refine I.set_row (fun hrow h hc => ?_) fun h hc => ?_
    · exact I.sound (hr ▸ hrow) h (by rw [hh, hp] at hc; exact hc)
    · exact I.known h (by rw [hh, hp] at hc; exact hc)
  | issues =>
    let row' := Machine.writeBack read (read.reenrolled srv body.validate shared now drawn) s.row
    have hh : row'.tokenHash = some (srv.hashToken drawn) :=
      writeBack_eq_new fun he => absurd (hread _ (Or.inl he)) hfresh
    have hr : row'.tokenRevoked = s.row.tokenRevoked := writeBack_of_eq _ _
    have hp : row'.pendingTokenHash = s.row.pendingTokenHash ∨ row'.pendingTokenHash = none := by
      rcases writeBack_cases read.pendingTokenHash none s.row.pendingTokenHash with
        ⟨-, hp⟩ | ⟨-, hp⟩
      · exact Or.inl hp
      · exact Or.inr hp
    have hsound : Sound s.issued row' := by
      intro hrow h hc hm
      rw [hh] at hc
      rcases hc with hc | hc
      · exact hfresh (Option.some.inj hc ▸ hm)
      · rcases hs hd with he | he
        · rw [hr, he] at hrow; cases hrow
        · have : row'.pendingTokenHash = none := writeBack_eq_new he
          rw [this] at hc; cases hc
    -- the token the enrollment returns is the one thing issued after the reset
    refine
      { sound := hsound
        sub := fun h hm => List.mem_cons_of_mem _ hm
        known := fun h hc => ?_
        requests := fun r hreq => ?_
        snapshots := fun t ht => (I.snapshots t ht).mono _ }
    · rcases (show row'.tokenHash = some h ∨ row'.pendingTokenHash = some h from hc) with hc | hc
      · rw [hh] at hc
        rw [← Option.some.inj hc]
        exact List.mem_cons_self ..
      · rcases hp with hp | hp
        · exact List.mem_cons_of_mem _ (I.known h (Or.inr (hp ▸ hc)))
        · rw [hp] at hc; cases hc
    · have h := I.requests r hreq
      refine ⟨Nat.le_succ_of_le h.past, List.mem_cons_of_mem _ h.issued, fun he => ?_, h.promoting⟩
      have : r.resets = s.resets + 1 := he
      have := h.past
      omega

/-- **The commit of a reset.** -/
lemma Inv.commit (I : Inv srv s) {t : Reset} {now : Time} {drawn : Token}
    (hfresh : srv.hashToken drawn ∉ s.issued) (hread : Known s.issued t.read)
    (hs : t.TakesEffect srv s) : Inv srv (State.commit srv s t now drawn) := by
  obtain ⟨operation, read⟩ := t
  cases operation with
  | revokeToken => exact I.commitRevoke now drawn hs
  | allowReenroll => exact I.commitReenroll now drawn hs
  | enroll body shared ip => exact I.commitEnroll hfresh hread hs

theorem step_inv {e : Event} (hfresh : DrawsFresh srv s e) (hs : Sequential srv s e)
    (I : Inv srv s) : Inv srv (step srv s e) := by
  cases e with
  | request token now => exact I.request token now
  | commitPromotion i => exact I.commitPromotion hs
  | refresh i =>
    simp only [step]
    split
    · rename_i token read n hreq
      have hr := I.requests _ (List.mem_of_getElem? hreq)
      split
      · exact I.requests_eraseIdx i
      · exact I.requests_set i ⟨hr.past, hr.issued, hr.alive, nofun⟩
    · exact I
  | heartbeat i p now drawn => exact I.heartbeat hfresh hs
  | finish i => exact I.requests_eraseIdx i
  | begin operation =>
    refine { I with
      requests := fun r hr =>
        have h := I.requests r hr
        ⟨h.past, h.issued, h.alive, h.promoting⟩
      snapshots := fun t ht => ?_ }
    rcases List.mem_cons.mp ht with rfl | ht
    · exact I.known
    · exact I.snapshots t ht
  | commit i now drawn =>
    simp only [step]
    split
    · rename_i t ht
      exact (I.pending_eraseIdx i).commit hfresh (I.snapshots t (List.mem_of_getElem? ht)) (hs t ht)
    · exact I

end Steps

/-! ### Every run -/

def Guard (s : State) (e : Event) : Prop := DrawsFresh srv s e ∧ Sequential srv s e

/-- No token that is cut off is let in. -/
def CutOffRefused (s : State) : Prop :=
  ∀ token, srv.hashToken token ∈ s.cutOff → s.row.accepts srv token = false

lemma known_start (row : Machine) (earlier : List TokenHash) :
    Known (row.tokenHash.toList ++ row.pendingTokenHash.toList ++ earlier) row := by
  rintro h (hc | hc)
  · simp [hc]
  · simp [hc]

lemma Inv.start (row : Machine) (earlier : List TokenHash) : Inv srv (start row earlier) where
  sound _ _ _ := List.not_mem_nil
  sub _ h := absurd h List.not_mem_nil
  known := known_start row earlier
  requests _ h := absurd h List.not_mem_nil
  snapshots _ h := absurd h List.not_mem_nil

/-- **The kill switch is final, while resets and requests do not overtake one another.**  In every
state of every such run, whatever is open, no token issued before a reset that has committed, nor one
minted since for its holder, is accepted. -/
theorem cut_off (row : Machine) (earlier : List TokenHash) (es : List Event)
    (hg : Guarded (step srv) (Guard srv) (start row earlier) es) :
    CutOffRefused srv (run (step srv) (start row earlier) es) := by
  have I : Inv srv (run (step srv) (start row earlier) es) :=
    hg.invariant (P := Inv srv) (fun s e hG I => step_inv hG.1 hG.2 I) (Inv.start srv row earlier)
  intro token hd
  by_contra ha
  obtain ⟨hk, hr⟩ := accepts_iff.mp (by simpa using ha)
  exact I.sound hr _ hk hd

/-! ### The two sides of the condition -/

def liveRow : Machine := { Machine.new 0 "pc" 0 with tokenHash := some "sha256:T0" }

/-- A revocation overtakes a heartbeat that is due an offer; the way back is then opened, and the
machine enrolled again. -/
def revoked : List Event :=
  [.request "T0" (days 31), .begin .revokeToken, .commit 0 (days 31) "", .heartbeat 0 (.empty true)
    (days 31) "T1", .begin .allowReenroll, .commit 0 (days 32) "",
    .begin (.enroll ⟨"pc", none, none, none, none, none, none⟩ false "10.0.0.2"),
    .commit 0 (days 32) "T2"]

theorem cut_off_revoked :
    Guarded (step .standard) (Guard .standard) (start liveRow []) revoked ∧
      CutOffRefused .standard (run (step .standard) (start liveRow []) revoked) := by
  have hg : Guarded (step .standard) (Guard .standard) (start liveRow []) revoked := by
    refine ⟨⟨trivial, trivial⟩, ⟨trivial, trivial⟩, ⟨?_, fun t ht => ?_⟩, ⟨?_, fun r hr _ _ => ?_⟩,
      ⟨trivial, trivial⟩, ⟨?_, fun t ht => ?_⟩, ⟨trivial, trivial⟩, ⟨?_, fun t ht => ?_⟩, trivial⟩
    · show Server.standard.hashToken "" ∉ _
      decide
    · obtain rfl := Option.some.inj ht
      intro h
      exact absurd h (by decide)
    · show Server.standard.hashToken "T1" ∉ _
      decide
    · exact Or.inr (by decide)
    · show Server.standard.hashToken "" ∉ _
      decide
    · obtain rfl := Option.some.inj ht
      refine Or.inr ⟨fun h => ?_, fun h => ?_⟩ <;> exact absurd h (by decide)
    · show Server.standard.hashToken "T2" ∉ _
      decide
    · obtain rfl := Option.some.inj ht
      exact fun _ => Or.inr fun _ => by decide
  exact ⟨hg, cut_off .standard _ _ _ hg⟩

/-- Finality with no condition on what overtakes what. -/
def Final (srv : Server) : Prop :=
  ∀ (row : Machine) (earlier : List TokenHash) (es : List Event),
    Guarded (step srv) (DrawsFresh srv) (start row earlier) es →
      CutOffRefused srv (run (step srv) (start row earlier) es)

/-- `allow_reenroll` overtakes the heartbeat of a thief, whose new token then comes to life. -/
theorem cut_off_undone : ¬ Final Server.standard := by
  intro h
  have hrun := h liveRow []
    [.request "T0" (days 31), .begin .allowReenroll, .commit 0 (days 31) "",
      .heartbeat 0 (.empty true) (days 31) "T1"]
    ⟨trivial, trivial, by show Server.standard.hashToken "" ∉ _; decide,
      by show Server.standard.hashToken "T1" ∉ _; decide, trivial⟩
  exact absurd (hrun "T1" (by decide)) (by decide)

end KillSwitch

end Tiai
