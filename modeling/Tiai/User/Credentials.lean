import Tiai.Lib.Column
import Tiai.Session.Model

/-!
# The credentials of an account, when requests overlap

`features/user/crud.py` and the routes of `api/routes/auth.py` and `api/routes/users.py` that check or change
the password of one account.  A request is a transaction: it begins by reading committed rows and checking
them, and its commit writes the rows and the columns it changed.  A refresh holds the row of its session from
its read on; a change of the password has a statement between the two, which revokes the sessions that are
committed by then, and holds them.  A step that has to wait for a row is not taken.

* `authenticate`, `User.setPassword`, `consumeResetToken` — the functions of `crud`;
* `Txn`, `step` — the transactions under way, and what may happen next;
* `Entry` — what the requests amount to: the history of the account.
-/

namespace Tiai.Credentials

open Lib
open Session (AuthSession AccessClaims)

/-! ### Data -/

structure Config where
  session : Session.Settings
  /-- The account. -/
  userId : Uuid
  /-- `LOGIN_MAX_FAILED_ATTEMPTS`, one at least. -/
  loginMaxFailedAttempts : ℕ
  /-- `LOGIN_LOCKOUT_MINUTES`. -/
  loginLockoutMinutes : ℕ
  /-- `PASSWORD_RESET_EXPIRE_MINUTES`. -/
  passwordResetExpireMinutes : ℕ
  /-- `security.verify_password`. -/
  verifyPassword : String → String → Bool
  /-- `security.get_password_hash`, with the `n`-th salt. -/
  getPasswordHash : ℕ → String → String
  max_pos : 0 < loginMaxFailedAttempts

/-- The defaults.  The hash keeps passwords apart, which is all that is used of the real one. -/
def Config.standard : Config where
  session := Session.Settings.standard
  userId := 0
  loginMaxFailedAttempts := 5
  loginLockoutMinutes := 15
  passwordResetExpireMinutes := 60
  verifyPassword password hash := hash = "bcrypt:" ++ password
  getPasswordHash _ password := "bcrypt:" ++ password
  max_pos := by decide

/-- `User`: the columns of its credentials. -/
structure User where
  hashedPassword : String
  isActive : Bool
  passwordChangedAt : Option Time
  failedLoginAttempts : ℕ
  lockedUntil : Option Time
  updatedAt : Time
  deriving DecidableEq, Repr

/-- `PasswordResetToken`. -/
structure ResetToken where
  id : Uuid
  tokenHash : TokenHash
  expiresAt : Time
  usedAt : Option Time
  deriving DecidableEq, Repr

/-- The rows of the account. -/
structure Tables where
  user : User
  sessions : Store Uuid AuthSession
  tokens : List ResetToken

/-- What the functions on sessions see of them. -/
def Tables.db (cfg : Config) (t : Tables) (drawn : ℕ) : Session.Db :=
  ⟨t.sessions, [(cfg.userId, ⟨t.user.isActive, t.user.passwordChangedAt⟩)], drawn⟩

/-! ### `crud` -/

/-- What `authenticate` makes of a password: no comparison for an account that is inactive or locked. -/
inductive Attempt
  | inactive
  | locked
  | wrong
  | justLocked
  | valid
  deriving DecidableEq, Repr

section Crud

variable (cfg : Config)

/-- `authenticate`, with the row it leaves. -/
def authenticate (user : User) (password : String) (now : Time) : Attempt × User :=
  if user.isActive = false then (.inactive, user)
  else if user.lockedUntil.any (now < ·) then (.locked, user)
  else if cfg.verifyPassword password user.hashedPassword = false then
    let failed := user.failedLoginAttempts + 1
    if cfg.loginMaxFailedAttempts ≤ failed then
      (.justLocked,
        { user with failedLoginAttempts := 0, lockedUntil := some (now + minutes cfg.loginLockoutMinutes) })
    else (.wrong, { user with failedLoginAttempts := failed })
  else if user.failedLoginAttempts ≠ 0 ∨ user.lockedUntil ≠ none then
    (.valid, { user with failedLoginAttempts := 0, lockedUntil := none })
  else (.valid, user)

/-- `set_password`, on the row of the account. -/
def User.setPassword (user : User) (salt : ℕ) (password : String) (now : Time) : User :=
  { user with
    hashedPassword := cfg.getPasswordHash salt password
    passwordChangedAt := some now
    updatedAt := now
    failedLoginAttempts := 0
    lockedUntil := none }

/-- `create_reset_token`: the row of the new link. -/
def newResetToken (n : ℕ) (now : Time) : ResetToken where
  id := cfg.session.newId n
  tokenHash := cfg.session.hashToken (cfg.session.secret n)
  expiresAt := now + minutes cfg.passwordResetExpireMinutes
  usedAt := none

/-- `consume_reset_token`: the row of the link. -/
def consumeResetToken (t : Tables) (token : Token) (now : Time) : Option ResetToken :=
  (t.tokens.find? (·.tokenHash = cfg.session.hashToken token)).filter fun row =>
    row.usedAt.isNone && now ≤ row.expiresAt && t.user.isActive

end Crud

/-- The columns that a request has changed, over the row committed by then. -/
def userWriteBack (read new current : User) : User where
  hashedPassword := writeBack read.hashedPassword new.hashedPassword current.hashedPassword
  isActive := current.isActive
  passwordChangedAt := writeBack read.passwordChangedAt new.passwordChangedAt current.passwordChangedAt
  failedLoginAttempts := writeBack read.failedLoginAttempts new.failedLoginAttempts current.failedLoginAttempts
  lockedUntil := writeBack read.lockedUntil new.lockedUntil current.lockedUntil
  updatedAt := writeBack read.updatedAt new.updatedAt current.updatedAt

/-! ### The history -/

/-- What has happened to the account. -/
inductive Entry
  /-- A wrong password was compared with the hash. -/
  | guessed
  /-- A login locked the account. -/
  | locked
  /-- A login opened a session, with the password that was in force after so many changes. -/
  | opened (sid : Uuid) (changes : ℕ)
  /-- The password was changed, by a link or otherwise. -/
  | changed (link : Option Uuid)
  /-- A link was mailed. -/
  | mailed (link : Uuid)
  /-- A session was accepted: refreshed, or an access token of it. -/
  | accepted (sid : Uuid)
  deriving DecidableEq, Repr

/-- How many times the password was changed. -/
def changes (log : List Entry) : ℕ := log.countP fun e => match e with | .changed _ => true | _ => false

/-- How many sessions were opened. -/
def logins (log : List Entry) : ℕ := log.countP fun e => match e with | .opened _ _ => true | _ => false

/-- The links mailed, the latest first. -/
def links (log : List Entry) : List Uuid :=
  log.filterMap fun e => match e with | .mailed link => some link | _ => none

/-! ### Transactions -/

/-- What the statements of `set_password` found: the sessions it revoked, the links it dropped, and how many
logins had been committed. -/
structure Revocation where
  sessions : List Uuid
  tokens : List Uuid
  instant : Time
  logins : ℕ
  deriving DecidableEq

/-- A request under way: what it read, what it will write, and where the history stood. -/
inductive Txn
  | login (read new : User) (attempt : Attempt) (session : Option (Uuid × AuthSession)) (changes : ℕ)
  | refresh (sid : Uuid) (row : AuthSession) (accepted : Bool)
  | change (read new : User) (link : Option Uuid) (begun : Time) (revocation : Option Revocation)
  | request (token : ResetToken) (dropped : List Uuid) (mailed : ℕ)
  deriving DecidableEq

/-- The rows of `auth_sessions` that a request holds. -/
def Txn.holds (sid : Uuid) : Txn → Bool
  | .refresh sid' _ _ => sid' = sid
  | .change _ _ _ _ (some r) => sid ∈ r.sessions
  | _ => false

/-- The committed rows, the requests under way by their number, the next number, and the history, the latest
first. -/
structure State where
  tables : Tables
  pending : Store ℕ Txn
  next : ℕ
  log : List Entry

namespace State

variable (s : State)

def held (sid : Uuid) : Bool := s.pending.any fun e => e.2.holds sid

/-- A request begins. -/
def enter (txn : Txn) (entries : List Entry) : State :=
  { s with pending := s.pending.put s.next txn, next := s.next + 1, log := entries ++ s.log }

/-- A request ends. -/
def leave (n : ℕ) (tables : Tables) (entries : List Entry) : State :=
  { s with tables := tables, pending := s.pending.drop (· = n), log := entries ++ s.log }

end State

inductive Action
  | login (password : String)
  | refresh (cookie : Token)
  | requestReset
  | confirmReset (token : Token) (newPassword : String)
  | changePassword (bearer : AccessClaims) (currentPassword newPassword : String)
  | resetPassword (newPassword : String)

/-- What may happen: a request begins, runs the statements that revoke, or commits; or an access token is
presented to any other route. -/
inductive Event
  | request (now : Time) (action : Action)
  | revoke (n : ℕ) (now : Time)
  | commit (n : ℕ)
  | guarded (bearer : AccessClaims) (now : Time)

section Steps

variable (cfg : Config) (s : State)

/-- `login`, up to its commit. -/
def beginLogin (password : String) (now : Time) : State :=
  let user := s.tables.user
  match authenticate cfg user password now with
  | (.inactive, _) => s
  | (.locked, _) => s
  | (.wrong, new) => s.enter (.login user new .wrong none (changes s.log)) [.guessed]
  | (.justLocked, new) => s.enter (.login user new .justLocked none (changes s.log)) [.guessed]
  | (.valid, new) =>
    let sid := cfg.session.newId s.next
    let token := Session.generateRefreshToken cfg.session sid (cfg.session.secret s.next)
    let row := Session.newSession cfg.session cfg.userId token now
    s.enter (.login user new .valid (some (sid, row)) (changes s.log)) []

/-- The route `refresh`, up to its commit: the row is read `FOR UPDATE`. -/
def beginRefresh (cookie : Token) (now : Time) : State :=
  let result := (Session.refresh cfg.session (s.tables.db cfg s.next) cookie now).1
  match result.session with
  | none => s
  | some (sid, row) =>
    if s.held sid then s
    else if result.outcome = .reused then s.enter (.refresh sid row false) []
    else if s.tables.user.isActive then s.enter (.refresh sid row true) []
    else s.enter (.refresh sid (row.revoke now) false) []

/-- A change of the password, up to the statements that revoke. -/
def beginChange (link : Option Uuid) (newPassword : String) (now : Time) (entries : List Entry) : State :=
  let user := s.tables.user
  s.enter (.change user (user.setPassword cfg s.next newPassword now) link now none) entries

/-- The session that an access token is accepted for. -/
def acceptedSession (bearer : AccessClaims) (now : Time) : Option Uuid :=
  match Session.authenticate (s.tables.db cfg s.next) (some bearer) now with
  | .ok (sid, _) => some sid
  | .error _ => none

/-- A request, up to its commit. -/
def request (now : Time) : Action → State
  | .login password => beginLogin cfg s password now
  | .refresh cookie => beginRefresh cfg s cookie now
  | .requestReset =>
    if s.tables.user.isActive then
      s.enter (.request (newResetToken cfg s.next now) (s.tables.tokens.map ResetToken.id)
        (links s.log).length) []
    else s
  | .confirmReset token newPassword =>
    match consumeResetToken cfg s.tables token now with
    | none => s
    | some row => beginChange cfg s (some row.id) newPassword now []
  | .changePassword bearer currentPassword newPassword =>
    match acceptedSession cfg s bearer now with
    | none => s
    | some sid =>
      if cfg.verifyPassword currentPassword s.tables.user.hashedPassword then
        beginChange cfg s none newPassword now [.accepted sid]
      else { s with log := .accepted sid :: s.log }
  | .resetPassword newPassword => beginChange cfg s none newPassword now []

/-- The sessions that `revoke_all` finds. -/
def openSessions (t : Tables) : List Uuid := (t.sessions.filter (·.2.revokedAt.isNone)).map Prod.fst

/-- `revoke_all`, then `purge_reset_tokens` — but not when a link sets the password. -/
def revoke (n : ℕ) (now : Time) : State :=
  match s.pending.get n with
  | some (.change read new link begun none) =>
    let sessions := openSessions s.tables
    if sessions.any s.held then s
    else
      let tokens := if link = none then s.tables.tokens.map ResetToken.id else []
      { s with
        pending := s.pending.put n (.change read new link begun (some ⟨sessions, tokens, now, logins s.log⟩)) }
  | _ => s

/-- What a change of the password writes. -/
def Tables.change (t : Tables) (read new : User) (link : Option Uuid) (begun : Time) (r : Revocation) : Tables where
  user := userWriteBack read new t.user
  sessions := t.sessions.mapKeyed fun sid row => if sid ∈ r.sessions then row.revoke r.instant else row
  tokens :=
    (t.tokens.filter (·.id ∉ r.tokens)).map fun row =>
      if link = some row.id then { row with usedAt := some begun } else row

/-- The commit of a request; a link whose row is gone rolls its change back. -/
def commit (n : ℕ) : State :=
  let t := s.tables
  match s.pending.get n with
  | some (.login read new attempt session seen) =>
    let user := userWriteBack read new t.user
    match session with
    | some (sid, row) => s.leave n { t with user, sessions := t.sessions.put sid row } [.opened sid seen]
    | none => s.leave n { t with user } (if attempt = .justLocked then [.locked] else [])
  | some (.refresh sid row accepted) =>
    s.leave n { t with sessions := t.sessions.put sid row } (if accepted then [.accepted sid] else [])
  | some (.change read new link begun (some r)) =>
    if link.all fun id => t.tokens.any (·.id = id) then
      s.leave n (t.change read new link begun r) [.changed link]
    else s.leave n t []
  | some (.request token dropped _) =>
    s.leave n { t with tokens := t.tokens.filter (·.id ∉ dropped) ++ [token] } [.mailed token.id]
  | _ => s

def step (e : Event) : State :=
  match e with
  | .request now action => request cfg s now action
  | .revoke n now => revoke s n now
  | .commit n => commit s n
  | .guarded bearer now =>
    match acceptedSession cfg s bearer now with
    | none => s
    | some sid => { s with log := .accepted sid :: s.log }

end Steps

/-- An account before any login. -/
def start (user : User) : State := ⟨⟨user, [], []⟩, [], 0, []⟩

/-- An account of the password `password`. -/
def account (password : String) : User := ⟨"bcrypt:" ++ password, true, none, 0, none, 0⟩

/-! ### Requests under way -/

section Pending

variable {s : State} {n : ℕ}

lemma get_put (txn : Txn) (next m : ℕ) : ({ s with pending := s.pending.put n txn, next := next } : State).pending.get m =
    if m = n then some txn else s.pending.get m := Store.get_put s.pending n m txn

lemma get_leave (tables : Tables) (entries : List Entry) (m : ℕ) :
    (s.leave n tables entries).pending.get m = if m = n then none else s.pending.get m := by
  simp [State.leave, Store.get_drop]

end Pending

end Tiai.Credentials
