import Tiai.Session.Model

/-!
# What a request does to a session

* `refresh_cases` — what presenting a refresh token amounts to;
* `handle_rows` — what becomes of a row: it is kept, ended, or rotated by its own token, and a new one
  is a login's;
* `handle_handed` — a token is handed out by a login, or by a rotation that leaves its row open.
-/

namespace Tiai.Session

open Tiai.Lib

variable {cfg : Settings} {db : Db} {sid : Uuid} {row row' : AuthSession} {now : Time} {token : Token}

/-! ### Rows -/

lemma isLive_iff : row.isLive now = true ↔ row.revokedAt = none ∧ now < row.expiresAt := by
  simp [AuthSession.isLive]

lemma isLive_mono {now' : Time} (h : now ≤ now') (hdead : row.isLive now = false) :
    row.isLive now' = false := by
  rw [Bool.eq_false_iff, Ne, isLive_iff] at hdead ⊢
  rintro ⟨hopen, hlate⟩
  exact hdead ⟨hopen, Int.lt_of_le_of_lt h hlate⟩

lemma revoke_not_live : (row.revoke now).isLive now' = false := by
  rw [Bool.eq_false_iff, Ne, isLive_iff]
  rintro ⟨hopen, -⟩
  unfold AuthSession.revoke at hopen
  split at hopen
  · cases hopen
  · rename_i hrevoked
    exact hrevoked (by simp [hopen])

@[simp] lemma revoke_expiresAt : (row.revoke now).expiresAt = row.expiresAt := by
  unfold AuthSession.revoke; split <;> rfl

@[simp] lemma revoke_createdAt : (row.revoke now).createdAt = row.createdAt := by
  unfold AuthSession.revoke; split <;> rfl

lemma revoke_revokedAt : (row.revoke now).revokedAt ≠ none := by
  unfold AuthSession.revoke
  split
  · simp
  · rename_i h
    simpa using h

lemma revoke_of_revoked (h : row.revokedAt ≠ none) : row.revoke now = row := by
  unfold AuthSession.revoke
  rw [if_neg (by simpa using h)]

@[simp] lemma revoke_revoke : (row.revoke now).revoke now = row.revoke now :=
  revoke_of_revoked revoke_revokedAt

lemma get_revoke {sid' : Uuid} : (db.revoke sid now).sessions.get sid' =
    if sid' = sid then (db.sessions.get sid).map (·.revoke now) else db.sessions.get sid' := by
  unfold Db.revoke
  cases h : db.sessions.get sid with
  | none =>
    by_cases hs : sid' = sid
    · simp [hs, h]
    · simp [hs]
  | some row =>
    by_cases hs : sid' = sid
    · simp [hs]
    · simpa [hs] using Store.get_put_of_ne _ _ hs

@[simp] lemma revoke_users : (db.revoke sid now).users = db.users := by
  unfold Db.revoke; split <;> rfl

@[simp] lemma revoke_drawn : (db.revoke sid now).drawn = db.drawn := by
  unfold Db.revoke; split <;> rfl

lemma get_revokeAll {userId : Uuid} : (revokeAll db userId now).sessions.get sid =
    (db.sessions.get sid).map fun row => if row.userId = userId then row.revoke now else row := by
  rw [revokeAll, Store.get_mapAll]

/-- The token that is drawn next, for the session `sid`. -/
def nextToken (cfg : Settings) (db : Db) (sid : Uuid) : Token :=
  generateRefreshToken cfg sid (cfg.secret db.drawn)

/-- The tables after the rotation of `row`. -/
def Db.rotate (cfg : Settings) (db : Db) (sid : Uuid) (row : AuthSession) (now : Time) : Db :=
  { db with
    sessions := db.sessions.put sid (row.rotate cfg (nextToken cfg db sid) now)
    drawn := db.drawn + 1 }

lemma revoke_eq (h : db.sessions.get sid = some row) :
    db.revoke sid now = { db with sessions := db.sessions.put sid (row.revoke now) } := by
  unfold Db.revoke
  rw [h]

/-! ### Refreshing -/

/-- What presenting a refresh token amounts to, from the row it names. -/
theorem refresh_cases (cfg : Settings) (db : Db) (token : Token) (now : Time) :
    ((∀ sid row, namedSession cfg token = some sid → db.sessions.get sid = some row →
        row.isLive now = false) ∧ refresh cfg db token now = (⟨.invalid, none, none⟩, db)) ∨
      ∃ sid row, namedSession cfg token = some sid ∧ db.sessions.get sid = some row ∧
        row.isLive now = true ∧
        ((row.refreshTokenHash = cfg.hashToken token ∧ refresh cfg db token now =
            (⟨.rotated, some (sid, row.rotate cfg (nextToken cfg db sid) now),
              some (nextToken cfg db sid)⟩, db.rotate cfg sid row now)) ∨
          (row.refreshTokenHash ≠ cfg.hashToken token ∧
            row.previousRefreshTokenHash = some (cfg.hashToken token) ∧
            now - row.lastUsedAt ≤ refreshReuseGrace ∧
            refresh cfg db token now = (⟨.concurrent, some (sid, row), none⟩, db)) ∨
          (row.refreshTokenHash ≠ cfg.hashToken token ∧
            ¬(row.previousRefreshTokenHash = some (cfg.hashToken token) ∧
              now - row.lastUsedAt ≤ refreshReuseGrace) ∧
            refresh cfg db token now =
              (⟨.reused, some (sid, row.revoke now), none⟩, db.revoke sid now))) := by
  unfold refresh
  cases hname : namedSession cfg token with
  | none => exact .inl ⟨fun _ _ h => (nomatch h), rfl⟩
  | some sid =>
    dsimp only
    cases hrow : db.sessions.get sid with
    | none =>
      refine .inl ⟨fun sid' row h h' => ?_, rfl⟩
      cases h
      rw [hrow] at h'
      cases h'
    | some row =>
      dsimp only
      cases hlive : row.isLive now with
      | false =>
        refine .inl ⟨fun sid' row' h h' => ?_, rfl⟩
        cases h
        rw [hrow] at h'
        cases h'
        exact hlive
      | true =>
        refine .inr ⟨sid, row, rfl, hrow, hlive, ?_⟩
        have hopen := (isLive_iff.1 hlive).1
        have hrevoke : row.revoke now = { row with revokedAt := some now } := by
          simp [AuthSession.revoke, hopen]
        rw [if_neg (by simp)]
        by_cases hcurrent : row.refreshTokenHash = cfg.hashToken token
        · exact .inl ⟨hcurrent, if_pos (by simp [sameHash, hcurrent])⟩
        · rw [if_neg (by simpa [sameHash] using hcurrent)]
          by_cases hprevious : row.previousRefreshTokenHash = some (cfg.hashToken token) ∧
              now - row.lastUsedAt ≤ refreshReuseGrace
          · exact .inr (.inl ⟨hcurrent, hprevious.1, hprevious.2,
              if_pos (by simpa [sameHash] using hprevious)⟩)
          · refine .inr (.inr ⟨hcurrent, hprevious, ?_⟩)
            rw [if_neg (by simpa [sameHash] using hprevious), revoke_eq hrow, hrevoke]

/-- And what the route answers. -/
theorem refreshRoute_cases (cfg : Settings) (db : Db) (cookie : Option Token) (now : Time) :
    ((∀ token sid row, cookie = some token → namedSession cfg token = some sid →
        db.sessions.get sid = some row → row.isLive now = false) ∧
        refreshRoute cfg db cookie now = (.refused sessionEnded, db)) ∨
      ∃ token sid row, cookie = some token ∧ namedSession cfg token = some sid ∧
        db.sessions.get sid = some row ∧ row.isLive now = true ∧
        ((row.refreshTokenHash = cfg.hashToken token ∧
            (refreshRoute cfg db cookie now = (.refreshed (createAccessToken row.userId sid now)
                (some (nextToken cfg db sid)), db.rotate cfg sid row now) ∨
              refreshRoute cfg db cookie now =
                (.refused sessionEnded, (db.rotate cfg sid row now).revoke sid now))) ∨
          (row.refreshTokenHash ≠ cfg.hashToken token ∧
            ((row.previousRefreshTokenHash = some (cfg.hashToken token) ∧
                now - row.lastUsedAt ≤ refreshReuseGrace ∧ refreshRoute cfg db cookie now =
                  (.refreshed (createAccessToken row.userId sid now) none, db)) ∨
              refreshRoute cfg db cookie now = (.refused sessionEnded, db.revoke sid now)))) := by
  cases cookie with
  | none => exact .inl ⟨fun _ _ _ h => (nomatch h), rfl⟩
  | some token =>
    by_cases hempty : token = ""
    · refine .inl ⟨fun token' sid row h hname => ?_, by rw [refreshRoute, if_pos hempty]⟩
      cases h
      rw [hempty] at hname
      cases hname
    rcases refresh_cases cfg db token now with ⟨hdead, hr⟩ | ⟨sid, row, hname, hrow, hlive, hcase⟩
    · refine .inl ⟨fun token' sid row h => ?_, by simp only [refreshRoute, if_neg hempty, hr]⟩
      cases h
      exact hdead sid row
    refine .inr ⟨token, sid, row, rfl, hname, hrow, hlive, ?_⟩
    -- The account decides between handing the tokens out and ending the session.
    rcases hcase with ⟨hhash, hr⟩ | ⟨hhash, hprevious, hgrace, hr⟩ | ⟨hhash, -, hr⟩
    · refine .inl ⟨hhash, ?_⟩
      simp only [refreshRoute, if_neg hempty, hr, reduceCtorEq, if_false]
      split
      · split
        · exact .inl rfl
        · exact .inr rfl
      · exact .inr rfl
    · refine .inr ⟨hhash, ?_⟩
      simp only [refreshRoute, if_neg hempty, hr, reduceCtorEq, if_false]
      split
      · split
        · exact .inl ⟨hprevious, hgrace, rfl⟩
        · exact .inr rfl
      · exact .inr rfl
    · refine .inr ⟨hhash, .inr ?_⟩
      simp only [refreshRoute, if_neg hempty, hr, if_true]

/-! ### Authenticating -/

/-- A token of a session that is not live does not authenticate. -/
lemma authenticate_dead {claims : AccessClaims} (hsid : claims.sid = some sid)
    (hdead : ∀ row, db.sessions.get sid = some row → row.isLive now = false) :
    ∃ error, authenticate db (some claims) now = .error error := by
  simp only [authenticate, hsid]
  split
  · exact ⟨_, rfl⟩
  split
  · rename_i userId sid' _ hsid'
    cases hsid'
    cases hrow : db.sessions.get sid with
    | none => exact ⟨_, rfl⟩
    | some row =>
      dsimp only
      split
      · exact ⟨_, rfl⟩
      split
      · exact ⟨_, rfl⟩
      · rw [if_pos (hdead row hrow)]
        exact ⟨_, rfl⟩
  · exact ⟨_, rfl⟩

/-- A session that authenticates is live. -/
lemma authenticate_live {bearer : Option AccessClaims} {userId : Uuid}
    (h : authenticate db bearer now = .ok (sid, userId)) :
    ∃ row, db.sessions.get sid = some row ∧ row.isLive now = true := by
  unfold authenticate at h
  cases bearer with
  | none => cases h
  | some claims =>
    dsimp only at h
    split at h
    · cases h
    split at h
    · rename_i userId' sid' _ _
      cases hrow : db.sessions.get sid' with
      | none =>
        rw [hrow] at h
        cases h
      | some row =>
        rw [hrow] at h
        dsimp only at h
        split at h
        · cases h
        split at h
        · cases h
        split at h
        · cases h
        rename_i hlive
        have hsid : sid' = sid := by grind
        exact ⟨row, hsid ▸ hrow, by simpa using hlive⟩
    · cases h

/-! ### Every request -/

/-- What a request makes of a row of `sid`. -/
inductive RowStep (cfg : Settings) (db : Db) (e : Event) (sid : Uuid) (row : AuthSession) :
    AuthSession → Prop
  | kept : RowStep cfg db e sid row row
  | ended : RowStep cfg db e sid row (row.revoke e.now)
  | rotated (token : Token) (hrequest : e.request = .refresh (some token))
      (hname : namedSession cfg token = some sid) (hlive : row.isLive e.now = true)
      (hhash : row.refreshTokenHash = cfg.hashToken token)
      (hanswer : handle cfg db e = (.refreshed (createAccessToken row.userId sid e.now)
        (some (nextToken cfg db sid)), db.rotate cfg sid row e.now)) :
      RowStep cfg db e sid row (row.rotate cfg (nextToken cfg db sid) e.now)
  | rotatedEnded : RowStep cfg db e sid row ((row.rotate cfg (nextToken cfg db sid) e.now).revoke e.now)

/-- Where a row of `sid` comes from: the row before the request, one step further, or a login. -/
def RowsFrom (cfg : Settings) (db : Db) (e : Event) (sid : Uuid) (row' : AuthSession) : Prop :=
  (∃ row, db.sessions.get sid = some row ∧ RowStep cfg db e sid row row') ∨
    ∃ userId, sid = cfg.newId db.drawn ∧
      (handle cfg db e).1 = .opened (createAccessToken userId sid e.now) (nextToken cfg db sid) ∧
      (handle cfg db e).2.drawn = db.drawn + 1 ∧
      row' = newSession cfg userId (nextToken cfg db sid) e.now

section Requests

variable {e : Event} {userId : Uuid} {cookie : Option Token} {bearer : Option AccessClaims}

lemma RowsFrom.kept (h : db.sessions.get sid = some row) : RowsFrom cfg db e sid row :=
  .inl ⟨row, h, .kept⟩

/-- Ending one session keeps the others. -/
lemma get_revoke_cases {sid' : Uuid} (h : (db.revoke sid' now).sessions.get sid = some row') :
    ∃ row, db.sessions.get sid = some row ∧
      (sid ≠ sid' ∧ row' = row ∨ sid = sid' ∧ row' = row.revoke now) := by
  rw [get_revoke] at h
  split at h
  · rename_i hs
    subst hs
    obtain ⟨row, hrow, rfl⟩ := Option.map_eq_some_iff.1 h
    exact ⟨row, hrow, .inr ⟨rfl, rfl⟩⟩
  · rename_i hs
    exact ⟨row', h, .inl ⟨hs, rfl⟩⟩

lemma RowsFrom.of_revoke {sid' : Uuid} (h : (db.revoke sid' e.now).sessions.get sid = some row') :
    RowsFrom cfg db e sid row' := by
  obtain ⟨row, hrow, ⟨-, rfl⟩ | ⟨-, rfl⟩⟩ := get_revoke_cases h
  · exact .kept hrow
  · exact .inl ⟨row, hrow, .ended⟩

lemma get_rotate_cases {sid' : Uuid} (h : (db.rotate cfg sid' row now).sessions.get sid = some row') :
    sid = sid' ∧ row' = row.rotate cfg (nextToken cfg db sid') now ∨
      db.sessions.get sid = some row' := by
  by_cases hs : sid = sid'
  · subst hs
    rw [Db.rotate, Store.get_put_self] at h
    exact .inl ⟨rfl, (Option.some.inj h).symm⟩
  · rw [Db.rotate, Store.get_put_of_ne _ _ hs] at h
    exact .inr h

lemma RowsFrom.of_refresh (he : e.request = .refresh cookie)
    (h : (handle cfg db e).2.sessions.get sid = some row') : RowsFrom cfg db e sid row' := by
  have hhandle : handle cfg db e = refreshRoute cfg db cookie e.now := by rw [handle, he]
  rcases refreshRoute_cases cfg db cookie e.now with
    ⟨-, hr⟩ | ⟨token, sid', row, rfl, hname, hrow, hlive, ⟨hhash, hr | hr⟩ | ⟨-, ⟨-, -, hr⟩ | hr⟩⟩
  · rw [hhandle, hr] at h
    exact .kept h
  · rw [hhandle, hr] at h
    rcases get_rotate_cases h with ⟨rfl, rfl⟩ | h
    · exact .inl ⟨row, hrow, .rotated token he hname hlive hhash (hhandle.trans hr)⟩
    · exact .kept h
  · rw [hhandle, hr] at h
    obtain ⟨row₁, hrow₁, hrow'⟩ := get_revoke_cases h
    rcases get_rotate_cases hrow₁ with ⟨rfl, rfl⟩ | hrow₁
    · rcases hrow' with ⟨hne, -⟩ | ⟨-, rfl⟩
      · exact absurd rfl hne
      · exact .inl ⟨row, hrow, .rotatedEnded⟩
    · rcases hrow' with ⟨-, rfl⟩ | ⟨-, rfl⟩
      · exact .kept hrow₁
      · exact .inl ⟨row₁, hrow₁, .ended⟩
  · rw [hhandle, hr] at h
    exact .kept h
  · rw [hhandle, hr] at h
    exact .of_revoke h

lemma RowsFrom.of_login (he : e.request = .login userId)
    (h : (handle cfg db e).2.sessions.get sid = some row') : RowsFrom cfg db e sid row' := by
  have hhandle : handle cfg db e = login cfg db userId e.now := by rw [handle, he]
  unfold login at hhandle
  rw [hhandle] at h
  split at h
  · split at h
    · rename_i user huser hactive
      rw [huser] at hhandle
      dsimp only at hhandle
      rw [if_pos hactive] at hhandle
      by_cases hs : sid = cfg.newId db.drawn
      · subst hs
        rw [openSession, Store.get_put_self] at h
        exact .inr ⟨userId, rfl, by rw [hhandle]; rfl, by rw [hhandle]; rfl, (Option.some.inj h).symm⟩
      · rw [openSession, Store.get_put_of_ne _ _ hs] at h
        exact .kept h
    · exact .kept h
  · exact .kept h

lemma RowsFrom.of_logout
    (h : (logout cfg db cookie bearer e.now).2.sessions.get sid = some row') :
    RowsFrom cfg db e sid row' := by
  have hrevoked {db : Db} {id : Uuid} {row' : AuthSession}
      (h : (db.revoke id e.now).sessions.get sid = some row') :
      ∃ row, db.sessions.get sid = some row ∧ (row' = row ∨ row' = row.revoke e.now) := by
    obtain ⟨row, hrow, ⟨-, rfl⟩ | ⟨-, rfl⟩⟩ := get_revoke_cases h
    · exact ⟨_, hrow, .inl rfl⟩
    · exact ⟨_, hrow, .inr rfl⟩
  have hended {row row' : AuthSession} (hrow : db.sessions.get sid = some row)
      (hrow' : row' = row ∨ row' = row.revoke e.now) : RowsFrom cfg db e sid row' := by
    rcases hrow' with rfl | rfl
    · exact .kept hrow
    · exact .inl ⟨_, hrow, .ended⟩
  simp only [logout] at h
  split at h <;> split at h
  · obtain ⟨row₁, hrow₁, h₁⟩ := hrevoked h
    obtain ⟨row, hrow, h₀⟩ := hrevoked hrow₁
    refine hended hrow ?_
    rcases h₀ with rfl | rfl
    · exact h₁
    · rw [revoke_revoke, or_self] at h₁
      exact .inr h₁
  · obtain ⟨row, hrow, h₀⟩ := hrevoked h
    exact hended hrow h₀
  · obtain ⟨row, hrow, h₀⟩ := hrevoked h
    exact hended hrow h₀
  · exact .kept h

lemma RowsFrom.of_revokeAll {users : Store Uuid Account}
    (h : (revokeAll { db with users := users } userId e.now).sessions.get sid = some row') :
    RowsFrom cfg db e sid row' := by
  rw [get_revokeAll] at h
  obtain ⟨row, hrow, rfl⟩ := Option.map_eq_some_iff.1 h
  split
  · exact .inl ⟨row, hrow, .ended⟩
  · exact .kept hrow

lemma RowsFrom.of_dropWhere {p : AuthSession → Bool}
    (h : (db.sessions.dropWhere p).get sid = some row') : RowsFrom cfg db e sid row' := by
  rw [Store.get_dropWhere] at h
  exact .kept (Option.filter_eq_some_iff.1 h).1

/-- **What a request does to the rows.** -/
theorem handle_rows (h : (handle cfg db e).2.sessions.get sid = some row') :
    RowsFrom cfg db e sid row' := by
  cases he : e.request with
  | login userId => exact .of_login he h
  | refresh cookie => exact .of_refresh he h
  | logout cookie bearer =>
    rw [handle, he] at h
    exact .of_logout h
  | closeSession bearer sid' =>
    rw [handle, he] at h
    dsimp only [closeSession] at h
    split at h
    · exact .kept h
    split at h
    · exact .kept h
    split at h
    · exact .kept h
    · exact .of_revoke h
  | guarded bearer =>
    rw [handle, he] at h
    dsimp only [guardedRoute] at h
    split at h <;> exact .kept h
  | setPassword userId =>
    rw [handle, he] at h
    dsimp only [setPassword] at h
    split at h
    · exact .kept h
    · exact .of_revokeAll h
  | setActive userId active =>
    rw [handle, he] at h
    dsimp only [setActive] at h
    split at h
    · exact .kept h
    split at h
    · exact .kept h
    · exact .of_revokeAll h
  | deleteUser userId =>
    rw [handle, he] at h
    exact .of_dropWhere h
  | purge =>
    rw [handle, he] at h
    exact .of_dropWhere h

/-- **A token handed out** is drawn for its session, by a login or by the rotation of the token before
it. -/
theorem handle_handed (h : (handle cfg db e).1.handed = some (sid, token)) :
    token = nextToken cfg db sid ∧ (handle cfg db e).2.drawn = db.drawn + 1 ∧
      (sid = cfg.newId db.drawn ∧ (∃ userId, (handle cfg db e).2.sessions.get sid =
          some (newSession cfg userId token e.now)) ∨
        ∃ spent row, e.request = .refresh (some spent) ∧ namedSession cfg spent = some sid ∧
          db.sessions.get sid = some row ∧ row.isLive e.now = true ∧
          row.refreshTokenHash = cfg.hashToken spent ∧
          (handle cfg db e).2.sessions.get sid = some (row.rotate cfg token e.now)) := by
  cases he : e.request with
  | login userId =>
    have hhandle : handle cfg db e = login cfg db userId e.now := by rw [handle, he]
    unfold login at hhandle
    split at hhandle
    · split at hhandle
      · rw [hhandle] at h
        cases h
        rw [hhandle]
        exact ⟨rfl, rfl, .inl ⟨rfl, userId, Store.get_put_self ..⟩⟩
      · rw [hhandle] at h
        cases h
    · rw [hhandle] at h
      cases h
  | refresh cookie =>
    have hhandle : handle cfg db e = refreshRoute cfg db cookie e.now := by rw [handle, he]
    rcases refreshRoute_cases cfg db cookie e.now with
      ⟨-, hr⟩ | ⟨spent, sid', row, rfl, hname, hrow, hlive, ⟨hhash, hr | hr⟩ | ⟨-, ⟨-, -, hr⟩ | hr⟩⟩
    · rw [hhandle, hr] at h
      cases h
    · rw [hhandle, hr] at h
      cases h
      rw [hhandle, hr]
      exact ⟨rfl, rfl, .inr ⟨spent, row, rfl, hname, hrow, hlive, hhash, Store.get_put_self ..⟩⟩
    · rw [hhandle, hr] at h
      cases h
    · rw [hhandle, hr] at h
      cases h
    · rw [hhandle, hr] at h
      cases h
  | logout cookie bearer => rw [handle, he] at h; cases h
  | closeSession bearer sid' =>
    rw [handle, he] at h
    dsimp only [closeSession] at h
    split at h
    · cases h
    split at h
    · cases h
    split at h <;> cases h
  | guarded bearer =>
    rw [handle, he] at h
    dsimp only [guardedRoute] at h
    split at h <;> cases h
  | setPassword userId => rw [handle, he] at h; cases h
  | setActive userId active => rw [handle, he] at h; cases h
  | deleteUser userId => rw [handle, he] at h; cases h
  | purge => rw [handle, he] at h; cases h

lemma handle_drawn : db.drawn ≤ (handle cfg db e).2.drawn := by
  cases he : e.request with
  | login userId =>
    rw [handle, he]
    dsimp only [login]
    split
    · split
      · exact Nat.le_succ _
      · exact le_rfl
    · exact le_rfl
  | refresh cookie =>
    have hhandle : handle cfg db e = refreshRoute cfg db cookie e.now := by rw [handle, he]
    rcases refreshRoute_cases cfg db cookie e.now with
      ⟨-, hr⟩ | ⟨spent, sid', row, rfl, -, -, -, ⟨-, hr | hr⟩ | ⟨-, ⟨-, -, hr⟩ | hr⟩⟩
    · rw [hhandle, hr]
    · rw [hhandle, hr]
      exact Nat.le_succ _
    · rw [hhandle, hr, revoke_drawn]
      exact Nat.le_succ _
    · rw [hhandle, hr]
    · rw [hhandle, hr, revoke_drawn]
  | logout cookie bearer =>
    rw [handle, he]
    dsimp only [logout]
    split <;> split <;> simp
  | closeSession bearer sid' =>
    rw [handle, he]
    dsimp only [closeSession]
    split
    · exact le_rfl
    split
    · exact le_rfl
    split
    · exact le_rfl
    · simp
  | guarded bearer =>
    rw [handle, he]
    dsimp only [guardedRoute]
    split <;> exact le_rfl
  | setPassword userId =>
    rw [handle, he]
    dsimp only [setPassword]
    split <;> exact le_rfl
  | setActive userId active =>
    rw [handle, he]
    dsimp only [setActive]
    split
    · exact le_rfl
    split <;> exact le_rfl
  | deleteUser userId => rw [handle, he]; exact le_rfl
  | purge => rw [handle, he]; exact le_rfl

end Requests

end Tiai.Session
