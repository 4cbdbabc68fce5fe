import Mathlib.Logic.Function.Basic
import Tiai.Base
import Tiai.Lib.Store

/-!
# Console sessions

`features/auth_session/crud.py`, the routes of `api/routes/auth.py` that open, refresh and end a session,
and the check of `api/deps.py` behind every authenticated request.  A row is found by its id; its
description of the browser is left out.
-/

namespace Tiai.Session

open Tiai.Lib

/-! ### Data -/

/-- What the console's authentication runs with. -/
structure Settings where
  /-- `REFRESH_TOKEN_EXPIRE_DAYS`. -/
  refreshTokenExpireDays : ℕ
  /-- `SESSION_MAX_DAYS`. -/
  sessionMaxDays : ℕ
  /-- `security.hash_token`. -/
  hashToken : Token → TokenHash
  /-- `str`, of an identifier. -/
  uuidText : Uuid → String
  /-- `uuid.UUID`, of a text; `none` is its `ValueError`. -/
  parseUuid : String → Option Uuid
  /-- The `n`-th `uuid.uuid4()`. -/
  newId : ℕ → Uuid
  /-- The `n`-th `secrets.token_urlsafe()`. -/
  secret : ℕ → String
  parse_text : ∀ id, parseUuid (uuidText id) = some id
  text_ne : ∀ id, uuidText id ≠ ""
  text_dotless : ∀ id, '.' ∉ (uuidText id).toList
  newId_injective : Function.Injective newId
  secret_injective : Function.Injective secret
  secret_ne : ∀ n, secret n ≠ ""

/-- The defaults.  Identifiers and secrets are written in unary, and the hash keeps tokens apart, which
is all that is used of the real ones. -/
def Settings.standard : Settings where
  refreshTokenExpireDays := 7
  sessionMaxDays := 30
  hashToken t := "sha256:" ++ t
  uuidText id := String.ofList (List.replicate (id + 1) '0')
  parseUuid t :=
    if t ≠ "" ∧ t.toList.all (· = '0') then some (t.toList.length - 1) else none
  newId n := n
  secret n := String.ofList (List.replicate (n + 1) 'a')
  parse_text id := by
    have hne : String.ofList (List.replicate (id + 1) '0') ≠ "" := by
      intro h
      simpa using congrArg String.toList h
    simp [hne]
  text_ne id h := by simpa using congrArg String.toList h
  text_dotless id := by simp
  newId_injective := Function.injective_id
  secret_injective n m h := by simpa using congrArg (fun t => t.toList.length) h
  secret_ne n h := by simpa using congrArg String.toList h

lemma Settings.standard_hash_injective : Function.Injective Settings.standard.hashToken := by
  intro t u h
  have hlist := congrArg String.toList h
  simp only [Settings.standard, String.toList_append] at hlist
  exact String.toList_inj.1 (List.append_cancel_left hlist)

/-- `AuthSession`. -/
structure AuthSession where
  userId : Uuid
  refreshTokenHash : TokenHash
  previousRefreshTokenHash : Option TokenHash
  createdAt : Time
  lastUsedAt : Time
  expiresAt : Time
  revokedAt : Option Time
  deriving DecidableEq, Repr

/-- What a request reads of a `User`. -/
structure Account where
  isActive : Bool
  passwordChangedAt : Option Time
  deriving DecidableEq, Repr

/-- The tables; `drawn` counts the identifiers and the secrets drawn so far. -/
structure Db where
  sessions : Store Uuid AuthSession
  users : Store Uuid Account
  drawn : ℕ

/-- What `decode_access_token` makes of an access token that is genuine. -/
structure AccessClaims where
  type : Option String
  sub : Option Uuid
  sid : Option Uuid
  iat : Option ℤ
  deriving DecidableEq, Repr

/-! ### `security` -/

section Code

variable (cfg : Settings)

/-- `generate_refresh_token`, with the secret it drew. -/
def generateRefreshToken (sid : Uuid) (secret : String) : Token := cfg.uuidText sid ++ "." ++ secret

/-- `refresh_token_session_id`: what precedes the first dot, if something follows it. -/
def refreshTokenSessionId (token : Token) : Option String :=
  let sessionId := token.toList.takeWhile (· ≠ '.')
  match token.toList.dropWhile (· ≠ '.') with
  | _ :: _ :: _ => if sessionId = [] then none else some (String.ofList sessionId)
  | _ => none

/-- The session a token names. -/
def namedSession (token : Token) : Option Uuid := (refreshTokenSessionId token).bind cfg.parseUuid

def accessTokenType : String := "access"

/-- `create_access_token`, as it will be decoded; `iat` is in whole seconds. -/
def createAccessToken (subject sid : Uuid) (now : Time) : AccessClaims :=
  ⟨some accessTokenType, some subject, some sid, some (now / 1000000)⟩

/-! ### `crud` -/

/-- `REFRESH_REUSE_GRACE`. -/
def refreshReuseGrace : ℤ := seconds 30

/-- `RefreshOutcome`. -/
inductive RefreshOutcome
  | rotated
  | concurrent
  | invalid
  | reused
  deriving DecidableEq, Repr

/-- `RefreshResult`; the session comes with its id. -/
structure RefreshResult where
  outcome : RefreshOutcome
  session : Option (Uuid × AuthSession)
  refreshToken : Option Token

/-- `_expiry`. -/
def expiry (createdAt now : Time) : Time :=
  min (now + days cfg.refreshTokenExpireDays) (createdAt + days cfg.sessionMaxDays)

/-- `is_live`. -/
def AuthSession.isLive (row : AuthSession) (now : Time) : Bool :=
  row.revokedAt.isNone && now < row.expiresAt

/-- `_same_hash`. -/
def sameHash (token : Token) (stored : Option TokenHash) : Bool := stored = some (cfg.hashToken token)

/-- The row of a login. -/
def newSession (userId : Uuid) (token : Token) (now : Time) : AuthSession where
  userId := userId
  refreshTokenHash := cfg.hashToken token
  previousRefreshTokenHash := none
  createdAt := now
  lastUsedAt := now
  expiresAt := expiry cfg now now
  revokedAt := none

/-- `open_session`. -/
def openSession (db : Db) (userId : Uuid) (now : Time) : Uuid × Token × Db :=
  let sid := cfg.newId db.drawn
  let token := generateRefreshToken cfg sid (cfg.secret db.drawn)
  (sid, token, { db with
    sessions := db.sessions.put sid (newSession cfg userId token now)
    drawn := db.drawn + 1 })

/-- What a rotation writes. -/
def AuthSession.rotate (row : AuthSession) (newToken : Token) (now : Time) : AuthSession :=
  { row with
    previousRefreshTokenHash := some row.refreshTokenHash
    refreshTokenHash := cfg.hashToken newToken
    lastUsedAt := now
    expiresAt := expiry cfg row.createdAt now }

/-- `refresh`. -/
def refresh (db : Db) (token : Token) (now : Time) : RefreshResult × Db :=
  match namedSession cfg token with
  | none => (⟨.invalid, none, none⟩, db)
  | some sid =>
    match db.sessions.get sid with
    | none => (⟨.invalid, none, none⟩, db)
    | some row =>
      if row.isLive now = false then (⟨.invalid, none, none⟩, db)
      else if sameHash cfg token (some row.refreshTokenHash) then
        let newToken := generateRefreshToken cfg sid (cfg.secret db.drawn)
        let row' := row.rotate cfg newToken now
        (⟨.rotated, some (sid, row'), some newToken⟩,
          { db with sessions := db.sessions.put sid row', drawn := db.drawn + 1 })
      else if sameHash cfg token row.previousRefreshTokenHash ∧
          now - row.lastUsedAt ≤ refreshReuseGrace then
        (⟨.concurrent, some (sid, row), none⟩, db)
      else
        let row' := { row with revokedAt := some now }
        (⟨.reused, some (sid, row'), none⟩, { db with sessions := db.sessions.put sid row' })

/-- `find_by_refresh_token`. -/
def findByRefreshToken (db : Db) (token : Token) (now : Time) : Option Uuid :=
  match namedSession cfg token with
  | none => none
  | some sid =>
    match db.sessions.get sid with
    | none => none
    | some row =>
      if row.isLive now = false then none
      else if sameHash cfg token (some row.refreshTokenHash) ∨
          sameHash cfg token row.previousRefreshTokenHash then some sid
      else none

def AuthSession.revoke (row : AuthSession) (now : Time) : AuthSession :=
  if row.revokedAt.isNone then { row with revokedAt := some now } else row

/-- `revoke`, of the session `sid`. -/
def Db.revoke (db : Db) (sid : Uuid) (now : Time) : Db :=
  match db.sessions.get sid with
  | none => db
  | some row => { db with sessions := db.sessions.put sid (row.revoke now) }

/-- `revoke_all`. -/
def revokeAll (db : Db) (userId : Uuid) (now : Time) : Db :=
  { db with
    sessions := db.sessions.mapAll fun row => if row.userId = userId then row.revoke now else row }

/-- `purge_expired_sessions`. -/
def purgeExpiredSessions (db : Db) (now : Time) : Db :=
  { db with
    sessions := db.sessions.dropWhere fun row => row.expiresAt ≤ now || row.revokedAt.isSome }

/-! ### `deps` -/

def credentialsError : AppError :=
  ⟨.authCredentialsInvalid, 401, "Could not validate credentials"⟩

/-- `_authenticate`: the session, and the account. -/
def authenticate (db : Db) (bearer : Option AccessClaims) (now : Time) :
    Except AppError (Uuid × Uuid) :=
  match bearer with
  | none => .error credentialsError
  | some claims =>
    if claims.type ≠ some accessTokenType then .error credentialsError
    else
      match claims.sub, claims.sid with
      | some userId, some sid =>
        match db.sessions.get sid with
        | none => .error credentialsError
        | some row =>
          match db.users.get row.userId with
          | none => .error credentialsError
          | some user =>
            if row.userId ≠ userId ∨ user.isActive = false then .error credentialsError
            else if row.isLive now = false then
              .error ⟨.authSessionInvalid, 401, "This session has ended"⟩
            else
              match user.passwordChangedAt with
              | none => .ok (sid, userId)
              | some changed =>
                match claims.iat with
                | none => .error credentialsError
                | some iat =>
                  if iat < changed / 1000000 then .error credentialsError else .ok (sid, userId)
      | _, _ => .error credentialsError

/-! ### The routes -/

/-- What a client gets. -/
inductive Answer
  | opened (access : AccessClaims) (cookie : Token)
  | refreshed (access : AccessClaims) (cookie : Option Token)
  | done
  | accepted (userId : Uuid)
  | refused (e : AppError)
  deriving DecidableEq, Repr

def sessionEnded : AppError := ⟨.authSessionInvalid, 401, "No valid session: log in again"⟩

/-- `login`, with the credentials of the account `userId`. -/
def login (db : Db) (userId : Uuid) (now : Time) : Answer × Db :=
  match db.users.get userId with
  | some user =>
    if user.isActive then
      let (sid, token, db') := openSession cfg db userId now
      (.opened (createAccessToken userId sid now) token, db')
    else (.refused ⟨.authCredentialsInvalid, 401, "Incorrect email or password"⟩, db)
  | none => (.refused ⟨.authCredentialsInvalid, 401, "Incorrect email or password"⟩, db)

/-- The route `refresh`. -/
def refreshRoute (db : Db) (cookie : Option Token) (now : Time) : Answer × Db :=
  match cookie with
  | none => (.refused sessionEnded, db)
  | some token =>
    if token = "" then (.refused sessionEnded, db)
    else
      let (result, db') := refresh cfg db token now
      match result.session with
      | none => (.refused sessionEnded, db')
      | some (sid, row) =>
        if result.outcome = .reused then (.refused sessionEnded, db')
        else
          match db'.users.get row.userId with
          | some user =>
            if user.isActive then
              (.refreshed (createAccessToken row.userId sid now) result.refreshToken, db')
            else (.refused sessionEnded, db'.revoke sid now)
          | none => (.refused sessionEnded, db'.revoke sid now)

/-- `_bearer_session_id`. -/
def bearerSessionId (bearer : Option AccessClaims) : Option Uuid :=
  bearer.bind fun claims => if claims.type ≠ some accessTokenType then none else claims.sid

/-- `logout`: either credential ends the session it names. -/
def logout (db : Db) (cookie : Option Token) (bearer : Option AccessClaims) (now : Time) :
    Answer × Db :=
  let byCookie := cookie.bind fun token =>
    if token = "" then none else findByRefreshToken cfg db token now
  let db₁ := match byCookie with
    | some sid => db.revoke sid now
    | none => db
  let db₂ := match bearerSessionId bearer with
    | some sid => db₁.revoke sid now
    | none => db₁
  (.done, db₂)

/-- `close_session`. -/
def closeSession (db : Db) (bearer : Option AccessClaims) (sid : Uuid) (now : Time) : Answer × Db :=
  match authenticate db bearer now with
  | .error e => (.refused e, db)
  | .ok (_, userId) =>
    let notFound : AppError := ⟨.authSessionNotFound, 404, "Session not found"⟩
    match db.sessions.get sid with
    | none => (.refused notFound, db)
    | some row =>
      if row.userId ≠ userId ∨ row.isLive now = false then (.refused notFound, db)
      else (.done, db.revoke sid now)

/-- Any other authenticated request: it goes through, or it does not. -/
def guardedRoute (db : Db) (bearer : Option AccessClaims) (now : Time) : Answer × Db :=
  match authenticate db bearer now with
  | .error e => (.refused e, db)
  | .ok (_, userId) => (.accepted userId, db)

/-- `set_password`, whoever calls it. -/
def setPassword (db : Db) (userId : Uuid) (now : Time) : Db :=
  match db.users.get userId with
  | none => db
  | some user =>
    revokeAll { db with users := db.users.put userId { user with passwordChangedAt := some now } }
      userId now

/-- What `update_user` does with `is_active`. -/
def setActive (db : Db) (userId : Uuid) (active : Bool) (now : Time) : Db :=
  match db.users.get userId with
  | none => db
  | some user =>
    let db' := { db with users := db.users.put userId { user with isActive := active } }
    if active then db' else revokeAll db' userId now

/-- `delete_user`, and the cascade to its sessions. -/
def deleteUser (db : Db) (userId : Uuid) : Db :=
  { db with
    users := db.users.drop (· = userId)
    sessions := db.sessions.dropWhere (·.userId = userId) }

end Code

/-! ### Runs -/

/-- A request, or the work of the worker. -/
inductive Request
  | login (userId : Uuid)
  | refresh (cookie : Option Token)
  | logout (cookie : Option Token) (bearer : Option AccessClaims)
  | closeSession (bearer : Option AccessClaims) (sid : Uuid)
  | guarded (bearer : Option AccessClaims)
  | setPassword (userId : Uuid)
  | setActive (userId : Uuid) (active : Bool)
  | deleteUser (userId : Uuid)
  | purge
  deriving DecidableEq, Repr

structure Event where
  now : Time
  request : Request
  deriving DecidableEq, Repr

def handle (cfg : Settings) (db : Db) (e : Event) : Answer × Db :=
  match e.request with
  | .login userId => login cfg db userId e.now
  | .refresh cookie => refreshRoute cfg db cookie e.now
  | .logout cookie bearer => logout cfg db cookie bearer e.now
  | .closeSession bearer sid => closeSession db bearer sid e.now
  | .guarded bearer => guardedRoute db bearer e.now
  | .setPassword userId => (.done, setPassword db userId e.now)
  | .setActive userId active => (.done, setActive db userId active e.now)
  | .deleteUser userId => (.done, deleteUser db userId)
  | .purge => (.done, purgeExpiredSessions db e.now)

/-- The tables, the clock, and what has been asked and answered, the latest first. -/
structure State where
  db : Db
  clock : Time
  log : List (Event × Answer)

def step (cfg : Settings) (s : State) (e : Event) : State where
  db := (handle cfg s.db e).2
  clock := e.now
  log := (e, (handle cfg s.db e).1) :: s.log

/-- The clock does not go back. -/
def Timely (s : State) (e : Event) : Prop := s.clock ≤ e.now

instance (s : State) (e : Event) : Decidable (Timely s e) := inferInstanceAs (Decidable (_ ≤ _))

/-- Before any login. -/
def start (users : Store Uuid Account) (clock : Time) : State := ⟨⟨[], users, 0⟩, clock, []⟩

/-- The refresh token an answer hands out, and its session. -/
def Answer.handed : Answer → Option (Uuid × Token)
  | .opened access cookie => access.sid.map (·, cookie)
  | .refreshed access (some cookie) => access.sid.map (·, cookie)
  | _ => none

/-- The refresh tokens a session has issued, and when, the latest first. -/
def issued (log : List (Event × Answer)) (sid : Uuid) : List (Token × Time) :=
  log.filterMap fun entry => entry.2.handed.bind fun h =>
    if h.1 = sid then some (h.2, entry.1.now) else none

end Tiai.Session
