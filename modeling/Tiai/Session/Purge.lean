import Tiai.Lib.Runs
import Tiai.Session.Rows

/-!
# Purging sessions is invisible

Two tables that agree on their live rows (`Alike`) answer every request alike, and go on agreeing: a row
that is not live is read like a row that is not there.  `purge_expired_sessions` removes rows that are not
live and nothing else.
-/

namespace Tiai.Session

open Tiai.Lib

variable {cfg : Settings} {db db' : Db} {sid userId : Uuid} {now now' : Time} {token : Token} {e : Event}
  {row : AuthSession} {bearer : Option AccessClaims} {cookie : Option Token}

/-! ### Tables that agree on what is live -/

/-- The row of `sid`, while it is live. -/
def liveRow (db : Db) (now : Time) (sid : Uuid) : Option AuthSession :=
  (db.sessions.get sid).filter (·.isLive now)

/-- The two tables cannot be told apart from `now` on. -/
structure Alike (now : Time) (db db' : Db) : Prop where
  users : db.users = db'.users
  drawn : db.drawn = db'.drawn
  rows : ∀ sid, liveRow db now sid = liveRow db' now sid

lemma liveRow_eq_some : liveRow db now sid = some row ↔
    db.sessions.get sid = some row ∧ row.isLive now = true := Option.filter_eq_some_iff

lemma liveRow_eq_none : liveRow db now sid = none ↔
    ∀ row, db.sessions.get sid = some row → row.isLive now = false := by
  simp [liveRow, Option.filter_eq_none_iff]

lemma liveRow_later (h : now ≤ now') :
    liveRow db now' sid = (liveRow db now sid).filter (·.isLive now') := by
  unfold liveRow
  rw [Option.filter_filter]
  congr 1
  funext row
  cases hlive : row.isLive now with
  | true => simp
  | false => simp [isLive_mono h hlive]

namespace Alike

lemma refl (now : Time) (db : Db) : Alike now db db := ⟨rfl, rfl, fun _ => rfl⟩

lemma later (h : Alike now db db') (hle : now ≤ now') : Alike now' db db' :=
  ⟨h.users, h.drawn, fun sid => by rw [liveRow_later hle, liveRow_later hle, h.rows]⟩

/-- A session is live in both, with the same row, or in neither. -/
lemma cases (h : Alike now db db') (sid : Uuid) :
    (∃ row, db.sessions.get sid = some row ∧ db'.sessions.get sid = some row ∧
        row.isLive now = true) ∨
      ((∀ row, db.sessions.get sid = some row → row.isLive now = false) ∧
        ∀ row, db'.sessions.get sid = some row → row.isLive now = false) := by
  cases hrow : liveRow db now sid with
  | none => exact .inr ⟨liveRow_eq_none.1 hrow, liveRow_eq_none.1 ((h.rows sid).symm.trans hrow)⟩
  | some row =>
    obtain ⟨hget, hlive⟩ := liveRow_eq_some.1 hrow
    exact .inl ⟨row, hget, (liveRow_eq_some.1 ((h.rows sid).symm.trans hrow)).1, hlive⟩

/-! What is written to both. -/

lemma put (h : Alike now db db') (row : AuthSession) {drawn : ℕ} :
    Alike now { db with sessions := db.sessions.put sid row, drawn := drawn }
      { db' with sessions := db'.sessions.put sid row, drawn := drawn } := by
  refine ⟨h.users, rfl, fun sid' => ?_⟩
  unfold liveRow
  by_cases hs : sid' = sid
  · simp [hs]
  · dsimp only
    rw [Store.get_put_of_ne _ _ hs, Store.get_put_of_ne _ _ hs]
    exact h.rows sid'

lemma withUsers (h : Alike now db db') (users : Store Uuid Account) :
    Alike now { db with users := users } { db' with users := users } := ⟨rfl, h.drawn, h.rows⟩

lemma revoke (h : Alike now db db') (sid : Uuid) :
    Alike now (db.revoke sid now') (db'.revoke sid now') := by
  refine ⟨by simpa using h.users, by simpa using h.drawn, fun sid' => ?_⟩
  unfold liveRow
  rw [get_revoke, get_revoke]
  split
  · have hnone : ∀ row : Option AuthSession,
        (row.map (·.revoke now')).filter (·.isLive now) = none := by
      intro row
      cases row with
      | none => rfl
      | some row => simp [Option.filter, revoke_not_live]
    rw [hnone, hnone]
  · exact h.rows sid'

lemma revokeAll (h : Alike now db db') (userId : Uuid) :
    Alike now (revokeAll db userId now') (revokeAll db' userId now') := by
  have hview : ∀ db : Db, ∀ sid, liveRow (Session.revokeAll db userId now') now sid =
      (liveRow db now sid).filter (·.userId ≠ userId) := by
    intro db sid
    unfold liveRow
    rw [get_revokeAll]
    cases db.sessions.get sid with
    | none => rfl
    | some row =>
      by_cases hu : row.userId = userId
      · cases hlive : row.isLive now <;> simp [hu, Option.filter, hlive, revoke_not_live]
      · cases hlive : row.isLive now <;> simp [hu, Option.filter, hlive]
  exact ⟨h.users, h.drawn, fun sid => by rw [hview, hview, h.rows]⟩

lemma dropWhere (h : Alike now db db') (p : AuthSession → Bool) :
    Alike now { db with sessions := db.sessions.dropWhere p }
      { db' with sessions := db'.sessions.dropWhere p } := by
  have hview : ∀ db : Db, ∀ sid,
      liveRow { db with sessions := db.sessions.dropWhere p } now sid =
        (liveRow db now sid).filter (!p ·) := by
    intro db sid
    unfold liveRow
    rw [Store.get_dropWhere, Option.filter_filter, Option.filter_filter]
    simp only [Bool.and_comm]
  exact ⟨h.users, h.drawn, fun sid => by rw [hview, hview, h.rows]⟩

/-- What the purge removes was not live. -/
lemma purge (h : Alike now db db') : Alike now (purgeExpiredSessions db now) db' := by
  refine ⟨h.users, h.drawn, fun sid => ?_⟩
  rw [← h.rows sid]
  unfold liveRow purgeExpiredSessions
  rw [Store.get_dropWhere, Option.filter_filter]
  congr 1
  funext row
  cases hlive : row.isLive now with
  | false => simp
  | true =>
    obtain ⟨hopen, hlate⟩ := isLive_iff.1 hlive
    simp [hopen, hlate]

end Alike

/-! ### What both answer -/

/-- An answer, up to the error of a refusal. -/
def Answer.granted : Answer → Option Answer
  | .refused _ => none
  | answer => some answer

lemma nextToken_alike (h : Alike now db db') : nextToken cfg db sid = nextToken cfg db' sid := by
  rw [nextToken, h.drawn]
  rfl

/-- Dead in one, dead in the other. -/
lemma Alike.dead (h : Alike now db db')
    (hdead : ∀ row, db.sessions.get sid = some row → row.isLive now = false) :
    ∀ row, db'.sessions.get sid = some row → row.isLive now = false := by
  rw [← liveRow_eq_none, ← h.rows sid, liveRow_eq_none]
  exact hdead

lemma Alike.live (h : Alike now db db') (hrow : db.sessions.get sid = some row)
    (hlive : row.isLive now = true) : db'.sessions.get sid = some row := by
  have hview := liveRow_eq_some.2 ⟨hrow, hlive⟩
  rw [h.rows sid] at hview
  exact (liveRow_eq_some.1 hview).1

lemma refresh_alike (cfg : Settings) (h : Alike now db db') (token : Token) :
    (refresh cfg db token now).1 = (refresh cfg db' token now).1 ∧
      Alike now (refresh cfg db token now).2 (refresh cfg db' token now).2 := by
  rcases refresh_cases cfg db token now with ⟨hdead, hr⟩ | ⟨sid, row, hname, hrow, hlive, hcase⟩
  · rcases refresh_cases cfg db' token now with ⟨-, hr'⟩ | ⟨sid, row, hname, hrow, hlive, -⟩
    · rw [hr, hr']
      exact ⟨rfl, h⟩
    · have hdead' := h.dead (hdead sid · hname) row hrow
      exact absurd (hlive.symm.trans hdead') (by decide)
  rcases refresh_cases cfg db' token now with ⟨hdead, -⟩ | ⟨sid', row', hname', hrow', -, hcase'⟩
  · exact absurd (hlive.symm.trans (hdead sid row hname (h.live hrow hlive))) (by decide)
  -- The same row is live in both: the same hash decides.
  rw [hname] at hname'
  cases hname'
  rw [h.live hrow hlive] at hrow'
  cases hrow'
  rcases hcase with ⟨hhash, hr⟩ | ⟨hhash, hprevious, hgrace, hr⟩ | ⟨hhash, hlate, hr⟩
  · rcases hcase' with ⟨-, hr'⟩ | ⟨hhash', -⟩ | ⟨hhash', -⟩
    · rw [hr, hr', nextToken_alike h]
      refine ⟨rfl, ?_⟩
      rw [Db.rotate, Db.rotate, nextToken_alike h, h.drawn]
      exact h.put _
    · exact absurd hhash hhash'
    · exact absurd hhash hhash'
  · rcases hcase' with ⟨hhash', -⟩ | ⟨-, -, -, hr'⟩ | ⟨-, hlate, -⟩
    · exact absurd hhash' hhash
    · rw [hr, hr']
      exact ⟨rfl, h⟩
    · exact absurd ⟨hprevious, hgrace⟩ hlate
  · rcases hcase' with ⟨hhash', -⟩ | ⟨-, hprevious, hgrace, -⟩ | ⟨-, -, hr'⟩
    · exact absurd hhash' hhash
    · exact absurd ⟨hprevious, hgrace⟩ hlate
    · rw [hr, hr']
      exact ⟨rfl, h.revoke sid⟩

lemma refreshRoute_alike (h : Alike now db db') :
    (refreshRoute cfg db cookie now).1.granted = (refreshRoute cfg db' cookie now).1.granted ∧
      Alike now (refreshRoute cfg db cookie now).2 (refreshRoute cfg db' cookie now).2 := by
  cases cookie with
  | none => exact ⟨rfl, h⟩
  | some token =>
    by_cases hempty : token = ""
    · rw [refreshRoute, refreshRoute, if_pos hempty, if_pos hempty]
      exact ⟨rfl, h⟩
    obtain ⟨hresult, hdb⟩ := refresh_alike cfg h token
    simp only [refreshRoute, if_neg hempty, hresult, hdb.users]
    split
    · exact ⟨rfl, hdb⟩
    split
    · exact ⟨rfl, hdb⟩
    split
    · split
      · exact ⟨rfl, hdb⟩
      · exact ⟨rfl, hdb.revoke _⟩
    · exact ⟨rfl, hdb.revoke _⟩

lemma findByRefreshToken_alike (h : Alike now db db') :
    findByRefreshToken cfg db token now = findByRefreshToken cfg db' token now := by
  have hfind {db : Db} : findByRefreshToken cfg db token now =
      (namedSession cfg token).bind fun sid => (liveRow db now sid).bind fun row =>
        if sameHash cfg token (some row.refreshTokenHash) ∨
          sameHash cfg token row.previousRefreshTokenHash then some sid else none := by
    unfold findByRefreshToken liveRow
    cases namedSession cfg token with
    | none => rfl
    | some sid =>
      dsimp only [Option.bind_some]
      cases db.sessions.get sid with
      | none => rfl
      | some row => cases hlive : row.isLive now <;> simp [Option.filter, hlive]
  rw [hfind, hfind]
  simp only [h.rows]

/-- Who is let through is who has a live session. -/
lemma authenticate_alike (h : Alike now db db') (bearer : Option AccessClaims) :
    authenticate db bearer now = authenticate db' bearer now ∨
      ∃ error error', authenticate db bearer now = .error error ∧
        authenticate db' bearer now = .error error' := by
  cases bearer with
  | none => exact .inl rfl
  | some claims =>
    cases hsid : claims.sid with
    | none => exact .inl (by cases hsub : claims.sub <;> simp only [authenticate, hsid, hsub])
    | some sid =>
      rcases h.cases sid with ⟨row, hrow, hrow', -⟩ | ⟨hdead, hdead'⟩
      · refine .inl ?_
        cases hsub : claims.sub <;> simp only [authenticate, hsid, hsub, hrow, hrow', h.users]
      · obtain ⟨error, herror⟩ := authenticate_dead hsid hdead
        obtain ⟨error', herror'⟩ := authenticate_dead hsid hdead'
        exact .inr ⟨error, error', herror, herror'⟩

lemma guardedRoute_alike (h : Alike now db db') :
    (guardedRoute db bearer now).1.granted = (guardedRoute db' bearer now).1.granted ∧
      Alike now (guardedRoute db bearer now).2 (guardedRoute db' bearer now).2 := by
  unfold guardedRoute
  rcases authenticate_alike h bearer with hsame | ⟨error, error', herror, herror'⟩
  · rw [hsame]
    cases authenticate db' bearer now with
    | error error => exact ⟨rfl, h⟩
    | ok who => exact ⟨rfl, h⟩
  · rw [herror, herror']
    exact ⟨rfl, h⟩

/-- A session that is not live is not found, whether its row is there or not. -/
lemma closeSession_dead (hdead : ∀ row, db.sessions.get sid = some row → row.isLive now = false) :
    ∃ error, closeSession db bearer sid now = (.refused error, db) := by
  unfold closeSession
  cases authenticate db bearer now with
  | error error => exact ⟨error, rfl⟩
  | ok who =>
    dsimp only
    cases hrow : db.sessions.get sid with
    | none => exact ⟨_, rfl⟩
    | some row => exact ⟨_, if_pos (.inr (hdead row hrow))⟩

lemma closeSession_alike (h : Alike now db db') :
    (closeSession db bearer sid now).1.granted = (closeSession db' bearer sid now).1.granted ∧
      Alike now (closeSession db bearer sid now).2 (closeSession db' bearer sid now).2 := by
  rcases h.cases sid with ⟨row, hrow, hrow', -⟩ | ⟨hdead, hdead'⟩
  · unfold closeSession
    rw [hrow, hrow']
    rcases authenticate_alike h bearer with hsame | ⟨error, error', herror, herror'⟩
    · rw [hsame]
      split
      · exact ⟨rfl, h⟩
      dsimp only
      split
      · exact ⟨rfl, h⟩
      · exact ⟨rfl, h.revoke sid⟩
    · rw [herror, herror']
      exact ⟨rfl, h⟩
  · obtain ⟨error, herror⟩ := closeSession_dead hdead
    obtain ⟨error', herror'⟩ := closeSession_dead hdead'
    rw [herror, herror']
    exact ⟨rfl, h⟩

lemma login_alike (h : Alike now db db') :
    (login cfg db userId now).1.granted = (login cfg db' userId now).1.granted ∧
      Alike now (login cfg db userId now).2 (login cfg db' userId now).2 := by
  unfold login
  rw [h.users]
  split
  · split
    · unfold openSession
      rw [h.drawn]
      exact ⟨rfl, h.put _⟩
    · exact ⟨rfl, h⟩
  · exact ⟨rfl, h⟩

lemma logout_alike (h : Alike now db db') :
    (logout cfg db cookie bearer now).1.granted = (logout cfg db' cookie bearer now).1.granted ∧
      Alike now (logout cfg db cookie bearer now).2 (logout cfg db' cookie bearer now).2 := by
  refine ⟨rfl, ?_⟩
  unfold logout
  simp only [findByRefreshToken_alike h]
  split
  · split
    · exact (h.revoke _).revoke _
    · exact h.revoke _
  · split
    · exact h.revoke _
    · exact h

lemma setPassword_alike (h : Alike now db db') :
    Alike now (setPassword db userId now) (setPassword db' userId now) := by
  unfold setPassword
  rw [h.users]
  cases db'.users.get userId with
  | none => exact h
  | some user => exact (h.withUsers _).revokeAll userId

lemma setActive_alike (h : Alike now db db') {active : Bool} :
    Alike now (setActive db userId active now) (setActive db' userId active now) := by
  unfold setActive
  rw [h.users]
  cases db'.users.get userId with
  | none => exact h
  | some user =>
    dsimp only
    split
    · exact h.withUsers _
    · exact (h.withUsers _).revokeAll userId

/-- **Tables that agree on their live rows answer alike**, and go on agreeing. -/
theorem handle_alike (cfg : Settings) (h : Alike e.now db db') :
    (handle cfg db e).1.granted = (handle cfg db' e).1.granted ∧
      Alike e.now (handle cfg db e).2 (handle cfg db' e).2 := by
  cases he : e.request with
  | login userId =>
    rw [handle, handle, he]
    exact login_alike h
  | refresh cookie =>
    rw [handle, handle, he]
    exact refreshRoute_alike h
  | logout cookie bearer =>
    rw [handle, handle, he]
    exact logout_alike h
  | closeSession bearer sid =>
    rw [handle, handle, he]
    exact closeSession_alike h
  | guarded bearer =>
    rw [handle, handle, he]
    exact guardedRoute_alike h
  | setPassword userId =>
    rw [handle, handle, he]
    exact ⟨rfl, setPassword_alike h⟩
  | setActive userId active =>
    rw [handle, handle, he]
    exact ⟨rfl, setActive_alike h⟩
  | deleteUser userId =>
    rw [handle, handle, he]
    refine ⟨rfl, ?_⟩
    dsimp only [deleteUser]
    rw [h.users]
    exact (h.withUsers (db'.users.drop (· = userId))).dropWhere (·.userId = userId)
  | purge =>
    rw [handle, handle, he]
    exact ⟨rfl, h.dropWhere _⟩

/-! ### Two runs -/

/-- What the clients were answered, up to the error of a refusal. -/
def outcomes (log : List (Event × Answer)) : List (Event × Option Answer) :=
  (log.filter (·.1.request ≠ .purge)).map fun entry => (entry.1, entry.2.granted)

lemma outcomes_purge {entry : Event × Answer} {log : List (Event × Answer)}
    (h : entry.1.request = .purge) : outcomes (entry :: log) = outcomes log := by
  rw [outcomes, List.filter_cons_of_neg (by simp [h])]
  rfl

lemma outcomes_other {entry : Event × Answer} {log : List (Event × Answer)}
    (h : entry.1.request ≠ .purge) :
    outcomes (entry :: log) = (entry.1, entry.2.granted) :: outcomes log := by
  rw [outcomes, List.filter_cons_of_pos (by simp [h])]
  rfl

lemma handed_granted (answer : Answer) : answer.granted.bind Answer.handed = answer.handed := by
  cases answer <;> rfl

/-- The purge hands nothing out, so the tokens are in the outcomes. -/
lemma issued_step_outcomes {s : State} : issued (step cfg s e).log sid =
    (if e.request = .purge then [] else
      ((handle cfg s.db e).1.granted.bind Answer.handed).toList.filterMap fun h =>
        if h.1 = sid then some (h.2, e.now) else none) ++ issued s.log sid := by
  unfold issued step
  rw [List.filterMap_cons]
  rw [handed_granted]
  by_cases he : e.request = .purge
  · have hdone : (handle cfg s.db e).1 = .done := by rw [handle, he]
    simp [he, hdone, Answer.handed]
  · rw [if_neg he]
    cases (handle cfg s.db e).1.handed with
    | none => rfl
    | some h =>
      by_cases hs : h.1 = sid
      · simp [hs]
      · simp [hs]

/-- The run with the purges, and the run without. -/
structure Matched (s t : State) : Prop where
  alike : Alike s.clock s.db t.db
  outcomes : outcomes s.log = outcomes t.log
  issued : ∀ sid, issued s.log sid = issued t.log sid

lemma Matched.both {s t : State} (ht : Timely s e) (he : e.request ≠ .purge) (h : Matched s t) :
    Matched (step cfg s e) (step cfg t e) := by
  obtain ⟨hanswer, hdb⟩ := handle_alike cfg (h.alike.later ht)
  refine ⟨hdb, ?_, fun sid => ?_⟩
  · unfold step
    rw [outcomes_other he, outcomes_other he, hanswer, h.outcomes]
  · rw [issued_step_outcomes, issued_step_outcomes, hanswer, h.issued]

lemma Matched.purged {s t : State} (ht : Timely s e) (he : e.request = .purge) (h : Matched s t) :
    Matched (step cfg s e) t := by
  refine ⟨?_, ?_, fun sid => ?_⟩
  · unfold step
    rw [handle, he]
    exact (h.alike.later ht).purge
  · unfold step
    rw [outcomes_purge he, h.outcomes]
  · rw [issued_step_outcomes, if_pos he, h.issued]
    rfl

/-- **Purging is invisible.**  A run with purges at any points and the same run without them give every
client the same answer, up to the error of a refusal, and issue the same tokens. -/
theorem purge_invisible (cfg : Settings) (users : Store Uuid Account) (clock : Time) (es : List Event)
    (h : Guarded (step cfg) Timely (start users clock) es) :
    outcomes (run (step cfg) (start users clock) es).log =
        outcomes (run (step cfg) (start users clock) (es.filter (·.request ≠ .purge))).log ∧
      ∀ sid, issued (run (step cfg) (start users clock) es).log sid =
        issued (run (step cfg) (start users clock) (es.filter (·.request ≠ .purge))).log sid := by
  have hstart : Matched (start users clock) (start users clock) := ⟨.refl _ _, rfl, fun _ => rfl⟩
  have hboth (s t : State) (e : Event) (ht : Timely s e) (he : decide (e.request = .purge) = false)
      (hm : Matched s t) : Matched (step cfg s e) (step cfg t e) := hm.both ht (of_decide_eq_false he)
  have hsilent (s t : State) (e : Event) (ht : Timely s e)
      (he : decide (e.request = .purge) = true) (hm : Matched s t) : Matched (step cfg s e) t :=
    hm.purged ht (of_decide_eq_true he)
  have hrun := h.simulation _ hboth hsilent hstart
  simp only [← decide_not] at hrun
  exact ⟨hrun.outcomes, hrun.issued⟩

/-- A session purged once it has expired, and presented again. -/
theorem purge_invisible_expired :
    (purgeExpiredSessions (run (step .standard) (start [(7, ⟨true, none⟩)] 0) [⟨0, .login 7⟩]).db
      (days 8)).sessions.get 0 = none ∧
    outcomes (run (step .standard) (start [(7, ⟨true, none⟩)] 0)
        [⟨0, .login 7⟩, ⟨days 8, .purge⟩, ⟨days 8, .refresh (some "0.a")⟩]).log =
      outcomes (run (step .standard) (start [(7, ⟨true, none⟩)] 0)
        [⟨0, .login 7⟩, ⟨days 8, .refresh (some "0.a")⟩]).log :=
  ⟨by decide +kernel, (purge_invisible .standard [(7, ⟨true, none⟩)] 0
    [⟨0, .login 7⟩, ⟨days 8, .purge⟩, ⟨days 8, .refresh (some "0.a")⟩] (by decide +kernel)).1⟩

end Tiai.Session
