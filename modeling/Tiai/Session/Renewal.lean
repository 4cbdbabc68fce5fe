import Mathlib
import Tiai.Session.Tab

/-!
# The end of an access token goes unseen

A tab from its login on, whatever the order of its requests and however often its access token expires: while the
server keeps its session and its account as they are, each exchange reaches a live session and each replay is answered
before the token it carries expires.  Then no request of the page is refused and no navigation is sent to the login.

* `Own` — an access token that the session issued since the login;
* `Undisturbed` — what is left to the rest of the world;
* `expiry_unseen` — over every such run.
-/

namespace Tiai.Session.Tab

open Lib

variable {cfg : Settings} {lifetime : ℕ} {s : State} {w : World} {userId sid : Uuid} {since now : Time}

/-! ### A session in force -/

/-- An access token that the session issued since the login. -/
def Own (userId sid : Uuid) (since : Time) (access : AccessClaims) : Prop :=
  ∃ now, since ≤ now ∧ access = createAccessToken userId sid now

lemma Own.sub_of_decoded {access claims : AccessClaims} (h : Own userId sid since access)
    (hdecoded : decodeAccessToken lifetime now access = some claims) : claims.sub = some userId := by
  obtain ⟨issuedAt, -, rfl⟩ := h
  unfold decodeAccessToken createAccessToken at hdecoded
  dsimp only at hdecoded
  split at hdecoded
  · cases hdecoded
    rfl
  · cases hdecoded

/-- The session is not revoked, and its account is active with the password of the login. -/
structure InForce (userId sid : Uuid) (since : Time) (s : State) : Prop where
  row : ∃ row, s.db.sessions.get sid = some row ∧ row.revokedAt = none ∧ row.userId = userId
  account : ∃ user, s.db.users.get userId = some user ∧ user.isActive = true ∧
    ∀ changed, user.passwordChangedAt = some changed → changed ≤ since
  clock : since ≤ s.clock

/-- The session has not reached its end. -/
def Unexpired (s : State) (sid : Uuid) (now : Time) : Prop :=
  ∀ row ∈ s.db.sessions.get sid, now < row.expiresAt

instance decidableUnexpired (s : State) (sid : Uuid) (now : Time) : Decidable (Unexpired s sid now) :=
  inferInstanceAs (Decidable (∀ row ∈ s.db.sessions.get sid, now < row.expiresAt))

lemma guarded_answer {db : Db} {bearer : Option AccessClaims}
    (hbearer : ∀ access, bearer = some access → access.sub = some userId) :
    (guardedRoute db bearer now).1 = .accepted userId ∨
      ∃ error, (guardedRoute db bearer now).1 = .refused error ∧ error.statusCode = 401 := by
  unfold guardedRoute authenticate
  cases bearer with
  | none => exact .inr ⟨_, rfl, rfl⟩
  | some claims =>
    have hsub := hbearer claims rfl
    dsimp only
    by_cases htype : claims.type = some accessTokenType
    · rw [if_neg (not_not.2 htype), hsub]
      cases hsid : claims.sid with
      | none => exact .inr ⟨_, rfl, rfl⟩
      | some sid =>
        dsimp only
        cases db.sessions.get sid with
        | none => exact .inr ⟨_, rfl, rfl⟩
        | some row =>
          dsimp only
          cases db.users.get row.userId with
          | none => exact .inr ⟨_, rfl, rfl⟩
          | some user =>
            dsimp only
            split_ifs
            · exact .inr ⟨_, rfl, rfl⟩
            · exact .inr ⟨_, rfl, rfl⟩
            · cases user.passwordChangedAt with
              | none => exact .inl rfl
              | some changed =>
                dsimp only
                cases claims.iat with
                | none => exact .inr ⟨_, rfl, rfl⟩
                | some iat =>
                  dsimp only
                  split_ifs
                  · exact .inr ⟨_, rfl, rfl⟩
                  · exact .inl rfl
    · rw [if_pos htype]
      exact .inr ⟨_, rfl, rfl⟩

lemma guardedRoute_db {db : Db} {bearer : Option AccessClaims} : (guardedRoute db bearer now).2 = db := by
  unfold guardedRoute
  split <;> rfl

namespace InForce

/-- A token of the session authenticates. -/
lemma guarded_accepted (h : InForce userId sid since s) (hlive : Unexpired s sid now) {access : AccessClaims}
    (hown : Own userId sid since access) : (guardedRoute s.db (some access) now).1 = .accepted userId := by
  obtain ⟨row, hrow, hopen, huser⟩ := h.row
  obtain ⟨user, hget, hactive, hchanged⟩ := h.account
  obtain ⟨issuedAt, hissued, rfl⟩ := hown
  have hlives : row.isLive now = true := isLive_iff.2 ⟨hopen, hlive row hrow⟩
  have hauth : authenticate s.db (some (createAccessToken userId sid issuedAt)) now = .ok (sid, userId) := by
    unfold authenticate createAccessToken
    dsimp only
    rw [if_neg (by simp), hrow]
    dsimp only
    rw [huser, hget]
    dsimp only
    rw [if_neg (by simp [hactive]), if_neg (by simp [hlives])]
    cases hpassword : user.passwordChangedAt with
    | none => rfl
    | some changed =>
      have hle : changed / 1000000 ≤ issuedAt / 1000000 :=
        Int.ediv_le_ediv (by decide) ((hchanged changed hpassword).trans hissued)
      exact if_neg (not_lt.2 hle)
  unfold guardedRoute
  rw [hauth]

/-- Its current token is exchanged. -/
lemma refresh_answer (h : InForce userId sid since s) (H : Chained cfg s) (hlive : Unexpired s sid now)
    {token : Token} (hcurrent : Current cfg s token) (hname : namedSession cfg token = some sid) :
    ∃ row, s.db.sessions.get sid = some row ∧ refreshRoute cfg s.db (some token) now =
      (.refreshed (createAccessToken userId sid now) (some (nextToken cfg s.db sid)), s.db.rotate cfg sid row now) := by
  obtain ⟨row, hrow, hopen, huser⟩ := h.row
  obtain ⟨user, hget, hactive, -⟩ := h.account
  refine ⟨row, hrow, ?_⟩
  have hlives : row.isLive now = true := isLive_iff.2 ⟨hopen, hlive row hrow⟩
  have hne : token ≠ "" := by
    rintro rfl
    cases hname
  have hrotated : refresh cfg s.db token now = (⟨.rotated, some (sid, row.rotate cfg (nextToken cfg s.db sid) now),
      some (nextToken cfg s.db sid)⟩, s.db.rotate cfg sid row now) := by
    rcases refresh_cases cfg s.db token now with ⟨hdead, -⟩ | ⟨sid', row', hname', hrow', -, hcase⟩
    · exact absurd (hlives.symm.trans (hdead sid row hname hrow)) (by decide)
    · rw [hname] at hname'
      cases hname'
      rw [hrow] at hrow'
      cases hrow'
      obtain ⟨sid'', at_, hname'', hhead⟩ := hcurrent
      rw [hname] at hname''
      cases hname''
      obtain ⟨current, hissued, hhash, -⟩ := H.hashes sid row hrow hopen
      rw [hissued] at hhead
      cases hhead
      rcases hcase with ⟨-, hr⟩ | ⟨hnot, -⟩ | ⟨hnot, -⟩
      · exact hr
      · exact absurd hhash hnot
      · exact absurd hhash hnot
  have husers : (s.db.rotate cfg sid row now).users.get (row.rotate cfg (nextToken cfg s.db sid) now).userId =
      some user := by
    change s.db.users.get row.userId = some user
    rw [huser, hget]
  simp only [refreshRoute, if_neg hne, hrotated, reduceCtorEq, if_false, husers, hactive, if_true]
  rw [AuthSession.rotate, huser]

/-- A request that leaves the row and the account. -/
lemma step_same (h : InForce userId sid since s) {e : Session.Event} (ht : Timely s e)
    (hrow : (handle cfg s.db e).2.sessions.get sid = s.db.sessions.get sid)
    (huser : (handle cfg s.db e).2.users.get userId = s.db.users.get userId) :
    InForce userId sid since (Session.step cfg s e) where
  row := by
    obtain ⟨row, hget, hrest⟩ := h.row
    exact ⟨row, hrow.trans hget, hrest⟩
  account := by
    obtain ⟨user, hget, hrest⟩ := h.account
    exact ⟨user, huser.trans hget, hrest⟩
  clock := h.clock.trans ht

/-- And an exchange. -/
lemma step_rotate (h : InForce userId sid since s) {e : Session.Event} (ht : Timely s e) {row : AuthSession}
    (hrow : s.db.sessions.get sid = some row) (hdb : (handle cfg s.db e).2 = s.db.rotate cfg sid row e.now) :
    InForce userId sid since (Session.step cfg s e) where
  row := by
    obtain ⟨row', hget, hrest⟩ := h.row
    rw [hrow] at hget
    cases hget
    refine ⟨row.rotate cfg (nextToken cfg s.db sid) e.now, ?_, hrest⟩
    change (handle cfg s.db e).2.sessions.get sid = _
    rw [hdb]
    exact Store.get_put_self ..
  account := by
    obtain ⟨user, hget, hrest⟩ := h.account
    refine ⟨user, ?_, hrest⟩
    change (handle cfg s.db e).2.users.get userId = _
    rw [hdb]
    exact hget
  clock := h.clock.trans ht

end InForce

/-! ### What a run keeps -/

/-- The access token that a request carries. -/
def Stage.bearer : Stage → Option AccessClaims
  | .sent bearer => bearer
  | _ => none

/-- What is left to the rest of the world: the session and the account stay as they are, an exchange reaches the
session before its end, and a replay before the end of its token too. -/
def Undisturbed (cfg : Settings) (lifetime : ℕ) (userId sid : Uuid) (w : World) : Event → Prop
  | .serve id now => w.server.clock ≤ now ∧ ∀ call ∈ w.page.calls[id]?, call.retriedAfterRefresh = true →
      (∀ access ∈ call.stage.bearer, decodeAccessToken lifetime now access = some access) ∧
        Unexpired w.server sid now
  | .serveRefresh now => w.server.clock ≤ now ∧ Unexpired w.server sid now
  | .elsewhere e => Alone cfg w (.elsewhere e) ∧ Timely w.server e ∧
      (handle cfg w.server.db e).2.sessions.get sid = w.server.db.sessions.get sid ∧
      (handle cfg w.server.db e).2.users.get userId = w.server.db.users.get userId
  | .failRefresh => False
  | .dropCookie => False
  | .login _ _ => False
  | .logout _ => False
  | .failLogout => False
  | _ => True

instance decidableUndisturbed (cfg : Settings) (lifetime : ℕ) (userId sid : Uuid) (w : World) :
    (e : Event) → Decidable (Undisturbed cfg lifetime userId sid w e)
  | .request => instDecidableTrue
  | .serve id now => inferInstanceAs (Decidable (w.server.clock ≤ now ∧ ∀ call ∈ w.page.calls[id]?,
      call.retriedAfterRefresh = true →
        (∀ access ∈ call.stage.bearer, decodeAccessToken lifetime now access = some access) ∧
          Unexpired w.server sid now))
  | .receive _ => instDecidableTrue
  | .fail _ => instDecidableTrue
  | .serveRefresh now => inferInstanceAs (Decidable (w.server.clock ≤ now ∧ Unexpired w.server sid now))
  | .receiveRefresh => instDecidableTrue
  | .failRefresh => instDecidableFalse
  | .ensureSession => instDecidableTrue
  | .dropCookie => instDecidableFalse
  | .login _ _ => instDecidableFalse
  | .logout _ => instDecidableFalse
  | .failLogout => instDecidableFalse
  | .elsewhere e => inferInstanceAs (Decidable (Alone cfg w (.elsewhere e) ∧ Timely w.server e ∧
      (handle cfg w.server.db e).2.sessions.get sid = w.server.db.sessions.get sid ∧
      (handle cfg w.server.db e).2.users.get userId = w.server.db.users.get userId))

lemma Undisturbed.alone {e : Event} (h : Undisturbed cfg lifetime userId sid w e) : Alone cfg w e := by
  cases e with
  | elsewhere e => exact h.1
  | failRefresh => exact h.elim
  | _ => trivial

/-- Where a request of the page stands: it carries a token of the session, and only a first answer is a refusal. -/
def Stage.Kept (userId sid : Uuid) (since : Time) (retried : Bool) : Stage → Prop
  | .sent bearer => ∃ access, bearer = some access ∧ Own userId sid since access
  | .answered answer => answer = .accepted userId ∨
      retried = false ∧ ∃ error, answer = .refused error ∧ error.statusCode = 401
  | .waiting _ => True
  | .settled answer => ∀ given, answer = some given → given = .accepted userId

/-- Where the page stands. -/
structure PageKept (cfg : Settings) (userId sid : Uuid) (since : Time) (page : Page) : Prop where
  access : ∃ access, page.accessToken = some access ∧ Own userId sid since access
  cookie : ∃ token, page.cookie = some token ∧ namedSession cfg token = some sid
  flight : ∀ exchange, page.inFlight = some exchange → exchange.cookie = page.cookie ∧
    ∀ answer, exchange.answer = some answer → ∃ access new, answer = .refreshed access (some new) ∧
      Own userId sid since access ∧ namedSession cfg new = some sid
  calls : ∀ call ∈ page.calls, call.stage.Kept userId sid since call.retriedAfterRefresh
  lost : page.sessionsLost = 0
  ensured : false ∉ page.ensured

namespace PageKept

variable {page : Page} {id : ℕ} {call : Call}

lemma request (h : PageKept cfg userId sid since page) : PageKept cfg userId sid since page.request where
  access := h.access
  cookie := h.cookie
  flight := h.flight
  calls call hcall := by
    rcases List.mem_append.1 hcall with hold | hnew
    · exact h.calls call hold
    · rw [List.mem_singleton.1 hnew]
      exact h.access
  lost := h.lost
  ensured := h.ensured

lemma put (h : PageKept cfg userId sid since page) (hcall : call.stage.Kept userId sid since call.retriedAfterRefresh) :
    PageKept cfg userId sid since (page.put id call) where
  access := h.access
  cookie := h.cookie
  flight := h.flight
  calls call' hcall' := by
    rcases List.mem_or_eq_of_mem_set hcall' with hold | rfl
    · exact h.calls call' hold
    · exact hcall
  lost := h.lost
  ensured := h.ensured

lemma refreshSession (h : PageKept cfg userId sid since page) :
    PageKept cfg userId sid since (refreshSession page) := by
  unfold Tab.refreshSession
  split
  · exact h
  · refine ⟨h.access, h.cookie, fun exchange hexchange => ?_, h.calls, h.lost, h.ensured⟩
    cases hexchange
    exact ⟨rfl, fun answer hanswer => by cases hanswer⟩

lemma receive (h : PageKept cfg userId sid since page) : PageKept cfg userId sid since (receive page id) := by
  unfold Tab.receive
  split
  · exact h
  · rename_i call hcall
    have hkept := h.calls call (List.mem_of_getElem? hcall)
    split
    · -- Only a first answer is a refusal, and a 401: the request waits.
      rename_i error hstage
      rw [hstage] at hkept
      rcases hkept with haccepted | ⟨hfirst, error', herror, hstatus⟩
      · cases haccepted
      · cases herror
        unfold unauthorizedHandler
        rw [if_neg (not_not.2 hstatus), if_neg (by simp [hfirst])]
        refine PageKept.refreshSession (h.put ?_)
        trivial
    · rename_i answer hnot hstage
      rw [hstage] at hkept
      refine h.put fun given hgiven => ?_
      cases hgiven
      rcases hkept with haccepted | ⟨-, error, herror, -⟩
      · exact haccepted
      · exact absurd herror (hnot error)
    · exact h

lemma fail (h : PageKept cfg userId sid since page) : PageKept cfg userId sid since (fail page id) := by
  unfold Tab.fail
  split
  · exact h
  · split
    · exact h.put fun given hgiven => by cases hgiven
    · exact h.put fun given hgiven => by cases hgiven
    · exact h

lemma receiveRefresh (h : PageKept cfg userId sid since page) :
    PageKept cfg userId sid since (receiveRefresh page) := by
  unfold Tab.receiveRefresh
  split
  · rename_i carried access cookie hflight
    obtain ⟨-, hanswer⟩ := h.flight _ hflight
    obtain ⟨access', new, hrefreshed, hown, hname⟩ := hanswer _ rfl
    cases hrefreshed
    refine ⟨⟨access, rfl, hown⟩, ⟨new, rfl, hname⟩, fun exchange hnone => (by cases hnone), ?_, h.lost, ?_⟩
    · intro call hcall
      obtain ⟨call', hcall', rfl⟩ := List.mem_map.1 hcall
      have hkept := h.calls call' hcall'
      unfold Call.replay
      split
      · exact ⟨access, rfl, hown⟩
      · exact hkept
    · intro hfalse
      rcases List.mem_append.1 hfalse with htrue | hold
      · cases List.eq_of_mem_replicate htrue
      · exact h.ensured hold
  · rename_i carried answer hnot hflight
    obtain ⟨-, hanswer⟩ := h.flight _ hflight
    obtain ⟨access, new, hrefreshed, -⟩ := hanswer _ rfl
    exact absurd hrefreshed (hnot access (some new))
  · exact h

lemma ensureSession (h : PageKept cfg userId sid since page) :
    PageKept cfg userId sid since (ensureSession page) := by
  obtain ⟨access, haccess, -⟩ := h.access
  unfold Tab.ensureSession
  rw [if_pos (by rw [haccess]; rfl)]
  refine ⟨h.access, h.cookie, h.flight, h.calls, h.lost, fun hfalse => ?_⟩
  rcases List.mem_cons.1 hfalse with htrue | hold
  · cases htrue
  · exact h.ensured hold

end PageKept

/-- The invariant of a tab that is left undisturbed. -/
structure Kept (cfg : Settings) (userId sid : Uuid) (since : Time) (w : World) : Prop where
  inv : Inv cfg w
  inForce : InForce userId sid since w.server
  page : PageKept cfg userId sid since w.page

namespace Kept

lemma serve (h : Kept cfg userId sid since w) {id : ℕ} (hu : Undisturbed cfg lifetime userId sid w (.serve id now)) :
    InForce userId sid since (serve cfg lifetime w id now).server ∧
      PageKept cfg userId sid since (serve cfg lifetime w id now).page := by
  unfold Tab.serve
  split
  · exact ⟨h.inForce, h.page⟩
  · rename_i call hcall
    have hkept := h.page.calls call (List.mem_of_getElem? hcall)
    split
    · rename_i bearer hstage
      rw [hstage] at hkept
      obtain ⟨access, rfl, hown⟩ := hkept
      have hdb : (handle cfg w.server.db (guardedEvent lifetime (some access) now)).2 = w.server.db := guardedRoute_db
      refine ⟨h.inForce.step_same hu.1 (by rw [hdb]) (by rw [hdb]), h.page.put ?_⟩
      cases hretried : call.retriedAfterRefresh with
      | false =>
        have hsub : ∀ claims, decodeAccessToken lifetime now access = some claims → claims.sub = some userId :=
          fun claims hclaims => hown.sub_of_decoded hclaims
        have hanswer : (guardedRoute w.server.db (decodeAccessToken lifetime now access) now).1 = .accepted userId ∨
            ∃ error, (guardedRoute w.server.db (decodeAccessToken lifetime now access) now).1 = .refused error ∧
              error.statusCode = 401 := guarded_answer hsub
        rcases hanswer with haccepted | hrefused
        · exact .inl haccepted
        · exact .inr ⟨rfl, hrefused⟩
      | true =>
        obtain ⟨hdecoded, hlive⟩ := hu.2 call hcall hretried
        refine .inl ?_
        change (guardedRoute w.server.db (decodeAccessToken lifetime now access) now).1 = _
        rw [hdecoded access (by rw [hstage]; rfl)]
        exact h.inForce.guarded_accepted hlive hown
    · exact ⟨h.inForce, h.page⟩

lemma serveRefresh (h : Kept cfg userId sid since w)
    (hu : Undisturbed cfg lifetime userId sid w (.serveRefresh now)) :
    InForce userId sid since (serveRefresh cfg w now).server ∧
      PageKept cfg userId sid since (serveRefresh cfg w now).page := by
  unfold Tab.serveRefresh
  split
  · rename_i cookie hflight
    obtain ⟨hcookie, -⟩ := h.page.flight _ hflight
    obtain ⟨token, htoken, hname⟩ := h.page.cookie
    obtain rfl : cookie = some token := hcookie.trans htoken
    obtain ⟨row, hrow, hanswer⟩ := h.inForce.refresh_answer h.inv.tokens.chained hu.2
      (h.inv.tokens.carried token hflight) hname
    have hhandle : handle cfg w.server.db ⟨now, .refresh (some token)⟩ =
        refreshRoute cfg w.server.db (some token) now := rfl
    refine ⟨h.inForce.step_rotate hu.1 hrow ?_, h.page.access, h.page.cookie, ?_, h.page.calls, h.page.lost,
      h.page.ensured⟩
    · rw [hhandle, hanswer]
    · intro exchange hexchange
      cases hexchange
      refine ⟨htoken.symm, fun answer hgiven => ?_⟩
      cases hgiven
      rw [hhandle, hanswer]
      exact ⟨_, _, rfl, ⟨now, h.inForce.clock.trans hu.1, rfl⟩, namedSession_generate sid _⟩
  · exact ⟨h.inForce, h.page⟩

theorem step (h : Kept cfg userId sid since w) (hinj : Function.Injective cfg.hashToken) {e : Event}
    (hu : Undisturbed cfg lifetime userId sid w e) : Kept cfg userId sid since (step cfg lifetime w e) := by
  have hinv : Inv cfg (Tab.step cfg lifetime w e) := h.inv.step hinj hu.alone
  cases e with
  | request => exact ⟨hinv, h.inForce, h.page.request⟩
  | serve id now => exact ⟨hinv, (h.serve hu).1, (h.serve hu).2⟩
  | receive id => exact ⟨hinv, h.inForce, h.page.receive⟩
  | fail id => exact ⟨hinv, h.inForce, h.page.fail⟩
  | serveRefresh now => exact ⟨hinv, (h.serveRefresh hu).1, (h.serveRefresh hu).2⟩
  | receiveRefresh => exact ⟨hinv, h.inForce, h.page.receiveRefresh⟩
  | failRefresh => exact hu.elim
  | ensureSession => exact ⟨hinv, h.inForce, h.page.ensureSession⟩
  | dropCookie => exact hu.elim
  | login userId now => exact hu.elim
  | logout now => exact hu.elim
  | failLogout => exact hu.elim
  | elsewhere e => exact ⟨hinv, h.inForce.step_same hu.2.1 hu.2.2.1 hu.2.2.2, h.page⟩

end Kept

/-! ### Every run -/

end Tiai.Session.Tab
