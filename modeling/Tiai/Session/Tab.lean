import Mathlib
import Tiai.Session.Refresh

/-!
# One tab of the console

`services/session.ts`, as `boot/axios.ts` wires it, with the guard of `router/index.ts` and the two ends of a session
in `stores/auth.ts`.  The access token is in the memory of the page and the refresh token in the browser's cookie;
requests are answered in any order, and the exchange of the refresh token is one more of them.

* `Page`, `receive`, `refreshSession`, `receiveRefresh` — what the page keeps, and what it does with an answer;
* `Event`, `step` — the page, the network and the server; the rest of the server's life is `elsewhere`;
* `Current` — the last token that its session issued;
* `tab_sound` — over every run, the tab presents no token that was exchanged, sends no request more than twice, and
  leaves none waiting for an exchange that is over.
-/

namespace Tiai.Session.Tab

open Lib

/-! ### The page -/

/-- Where a request of the page stands. -/
inductive Stage
  | sent (bearer : Option AccessClaims)
  | answered (answer : Answer)
  | waiting (error : AppError)
  /-- `none`: the network failed. -/
  | settled (answer : Option Answer)
  deriving DecidableEq, Repr

/-- A request of the page, with its mark and the times it was sent. -/
structure Call where
  retriedAfterRefresh : Bool
  sends : ℕ
  stage : Stage
  deriving DecidableEq, Repr

/-- `POST /auth/refresh`: the cookie it left with, and its answer. -/
structure Exchange where
  cookie : Option Token
  answer : Option Answer
  deriving DecidableEq, Repr

/-- The tab: `accessToken`, the cookie that its browser holds, `inFlight` of `singleFlight`, and what is under way. -/
structure Page where
  accessToken : Option AccessClaims
  cookie : Option Token
  inFlight : Option Exchange
  calls : List Call
  /-- The navigations that await the exchange, and what `ensureSession` answered to the others. -/
  navigations : ℕ
  ensured : List Bool
  /-- How often `onSessionLost` ran. -/
  sessionsLost : ℕ
  deriving DecidableEq, Repr

def Page.blank : Page := ⟨none, none, none, [], 0, [], 0⟩

def Page.put (page : Page) (id : ℕ) (call : Call) : Page := { page with calls := page.calls.set id call }

def Call.isWaiting (call : Call) : Bool :=
  match call.stage with
  | .waiting _ => true
  | _ => false

/-- A request through the interceptor, which attaches the token in memory. -/
def Page.request (page : Page) : Page :=
  { page with calls := page.calls ++ [⟨false, 1, .sent page.accessToken⟩] }

/-- `endSession`. -/
def endSession (page : Page) : Page := { page with accessToken := none }

def onSessionLost (page : Page) : Page := { endSession page with sessionsLost := page.sessionsLost + 1 }

/-- `refreshSession`: one exchange, whoever asks meanwhile. -/
def refreshSession (page : Page) : Page :=
  match page.inFlight with
  | some _ => page
  | none => { page with inFlight := some ⟨page.cookie, none⟩ }

/-- The handler of `createUnauthorizedHandler`, up to its wait. -/
def unauthorizedHandler (page : Page) (id : ℕ) (call : Call) (error : AppError) : Page :=
  if error.statusCode ≠ 401 then page.put id { call with stage := .settled (some (.refused error)) }
  else if call.retriedAfterRefresh then
    onSessionLost (page.put id { call with stage := .settled (some (.refused error)) })
  else refreshSession (page.put id { call with stage := .waiting error })

/-- An answer reaches the page. -/
def receive (page : Page) (id : ℕ) : Page :=
  match page.calls[id]? with
  | none => page
  | some call =>
    match call.stage with
    | .answered (.refused error) => unauthorizedHandler page id call error
    | .answered answer => page.put id { call with stage := .settled (some answer) }
    | _ => page

/-- The network fails a request. -/
def fail (page : Page) (id : ℕ) : Page :=
  match page.calls[id]? with
  | none => page
  | some call =>
    match call.stage with
    | .sent _ => page.put id { call with stage := .settled none }
    | .answered _ => page.put id { call with stage := .settled none }
    | _ => page

/-- The rest of the handler, after an exchange: the request again, with the new token. -/
def Call.replay (access : AccessClaims) (call : Call) : Call :=
  match call.stage with
  | .waiting _ => ⟨true, call.sends + 1, .sent (some access)⟩
  | _ => call

/-- And after a failed one: the original error. -/
def Call.giveUp (call : Call) : Call :=
  match call.stage with
  | .waiting error => { call with stage := .settled (some (.refused error)) }
  | _ => call

/-- The exchange is over, with a token. -/
def refreshed (page : Page) (access : AccessClaims) (cookie : Option Token) : Page :=
  { page with
    accessToken := some access
    cookie := cookie.or page.cookie
    inFlight := none
    calls := page.calls.map (Call.replay access)
    navigations := 0
    ensured := List.replicate page.navigations true ++ page.ensured }

/-- The exchange is over, without: each request that waited ends the session. -/
def refreshFailed (page : Page) : Page :=
  { page with
    accessToken := if page.calls.any Call.isWaiting then none else page.accessToken
    inFlight := none
    calls := page.calls.map Call.giveUp
    navigations := 0
    ensured := List.replicate page.navigations false ++ page.ensured
    sessionsLost := page.sessionsLost + page.calls.countP Call.isWaiting }

/-- The answer of the exchange; a refusal clears the cookie. -/
def receiveRefresh (page : Page) : Page :=
  match page.inFlight with
  | some ⟨_, some (.refreshed access cookie)⟩ => refreshed page access cookie
  | some ⟨_, some _⟩ => refreshFailed { page with cookie := none }
  | _ => page

/-- `ensureSession`, in the guard of the router. -/
def ensureSession (page : Page) : Page :=
  if page.accessToken.isSome then { page with ensured := true :: page.ensured }
  else { refreshSession page with navigations := page.navigations + 1 }

/-! ### The page and the server -/

/-- `decode_access_token`: a token expires `ACCESS_TOKEN_EXPIRE_MINUTES` after it was issued. -/
def decodeAccessToken (lifetime : ℕ) (now : Time) (token : AccessClaims) : Option AccessClaims :=
  match token.iat with
  | some iat => if now < (iat + 60 * lifetime) * 1000000 then some token else none
  | none => some token

structure World where
  server : State
  page : Page

inductive Event
  | request
  | serve (id : ℕ) (now : Time)
  | receive (id : ℕ)
  | fail (id : ℕ)
  | serveRefresh (now : Time)
  | receiveRefresh
  | failRefresh
  | ensureSession
  /-- The lifetime of the cookie is over. -/
  | dropCookie
  /-- The page awaits these two, and asks for nothing else meanwhile. -/
  | login (userId : Uuid) (now : Time)
  | logout (now : Time)
  | failLogout
  /-- Any request of somebody else, or the work of the worker. -/
  | elsewhere (e : Session.Event)
  deriving DecidableEq, Repr

section Code

variable (cfg : Settings) (lifetime : ℕ)

/-- The request `call`, as the server sees it. -/
def guardedEvent (bearer : Option AccessClaims) (now : Time) : Session.Event :=
  ⟨now, .guarded (bearer.bind (decodeAccessToken lifetime now))⟩

def logoutEvent (page : Page) (now : Time) : Session.Event :=
  ⟨now, .logout page.cookie (page.accessToken.bind (decodeAccessToken lifetime now))⟩

/-- The server answers a request. -/
def serve (w : World) (id : ℕ) (now : Time) : World :=
  match w.page.calls[id]? with
  | none => w
  | some call =>
    match call.stage with
    | .sent bearer =>
      let e := guardedEvent lifetime bearer now
      ⟨Session.step cfg w.server e,
        w.page.put id { call with stage := .answered (handle cfg w.server.db e).1 }⟩
    | _ => w

/-- And the exchange. -/
def serveRefresh (w : World) (now : Time) : World :=
  match w.page.inFlight with
  | some ⟨cookie, none⟩ =>
    let e : Session.Event := ⟨now, .refresh cookie⟩
    ⟨Session.step cfg w.server e,
      { w.page with inFlight := some ⟨cookie, some (handle cfg w.server.db e).1⟩ }⟩
  | _ => w

/-- `login`, of the store. -/
def login (w : World) (userId : Uuid) (now : Time) : World :=
  let e : Session.Event := ⟨now, .login userId⟩
  ⟨Session.step cfg w.server e,
    match (handle cfg w.server.db e).1 with
    | .opened access cookie => { w.page with accessToken := some access, cookie := some cookie }
    | _ => w.page⟩

/-- `logout`, of the store. -/
def logout (w : World) (now : Time) : World :=
  ⟨Session.step cfg w.server (logoutEvent lifetime w.page now), endSession { w.page with cookie := none }⟩

def step (w : World) : Event → World
  | .request => { w with page := w.page.request }
  | .serve id now => serve cfg lifetime w id now
  | .receive id => { w with page := receive w.page id }
  | .fail id => { w with page := fail w.page id }
  | .serveRefresh now => serveRefresh cfg w now
  | .receiveRefresh => { w with page := receiveRefresh w.page }
  | .failRefresh => { w with page := if w.page.inFlight.isSome then refreshFailed w.page else w.page }
  | .ensureSession => { w with page := ensureSession w.page }
  | .dropCookie => { w with page := { w.page with cookie := none } }
  | .login userId now => login cfg w userId now
  | .logout now => logout cfg lifetime w now
  | .failLogout => { w with page := endSession w.page }
  | .elsewhere e => { w with server := Session.step cfg w.server e }

end Code

/-! ### The token that a session is at -/

variable {cfg : Settings} {lifetime : ℕ} {s : State} {w : World} {e : Session.Event} {token : Token}

/-- The last token that its session issued. -/
def Current (cfg : Settings) (s : State) (token : Token) : Prop :=
  ∃ sid at_, namedSession cfg token = some sid ∧ (issued s.log sid).head? = some (token, at_)

lemma Current.unique {token' : Token} (h : Current cfg s token) (h' : Current cfg s token')
    (hsame : namedSession cfg token = namedSession cfg token') : token = token' := by
  obtain ⟨sid, at_, hname, hhead⟩ := h
  obtain ⟨sid', at_', hname', hhead'⟩ := h'
  rw [hname, hname'] at hsame
  cases hsame
  rw [hhead] at hhead'
  cases hhead'
  rfl

/-- The token that is handed out is current from then on. -/
lemma Current.of_handed {sid : Uuid} (h : (handle cfg s.db e).1.handed = some (sid, token)) :
    Current cfg (Session.step cfg s e) token := by
  obtain ⟨rfl, -⟩ := handle_handed h
  exact ⟨sid, e.now, namedSession_generate sid _, by rw [issued_step_handed h]; rfl⟩

/-- A token stays current until its session is handed the next one. -/
lemma Current.step_of_not_handed (h : Current cfg s token)
    (hother : ∀ sid new, (handle cfg s.db e).1.handed = some (sid, new) → namedSession cfg token ≠ some sid) :
    Current cfg (Session.step cfg s e) token := by
  obtain ⟨sid, at_, hname, hhead⟩ := h
  refine ⟨sid, at_, hname, ?_⟩
  rw [issued_step_other fun new hnew => hother sid new hnew hname, hhead]

/-- The session that is handed a token is new, or the one of the token presented. -/
lemma handed_session (H : Chained cfg s) {sid : Uuid} {new : Token}
    (h : (handle cfg s.db e).1.handed = some (sid, new)) :
    (∀ token, Current cfg s token → namedSession cfg token ≠ some sid) ∨
      ∃ spent, e.request = .refresh (some spent) ∧ namedSession cfg spent = some sid := by
  obtain ⟨-, -, ⟨hsid, -⟩ | ⟨spent, -, he, hname, -⟩⟩ := handle_handed h
  · refine .inl fun token hcurrent hname => ?_
    obtain ⟨sid', at_, hname', hhead⟩ := hcurrent
    rw [hname] at hname'
    cases hname'
    obtain ⟨⟨n, hn, hdrawn⟩, -⟩ := H.issued_drawn sid _ (List.mem_of_head? hhead)
    rw [hsid] at hdrawn
    exact absurd (cfg.newId_injective hdrawn) (Nat.ne_of_gt hn)
  · exact .inr ⟨spent, he, hname⟩

lemma opened_sid {userId : Uuid} {now : Time} {access : AccessClaims} {cookie : Token}
    (h : (handle cfg s.db ⟨now, .login userId⟩).1 = .opened access cookie) : ∃ sid, access.sid = some sid := by
  rw [handle] at h
  dsimp only [Session.login] at h
  split at h
  · split at h
    · cases h
      exact ⟨_, rfl⟩
    · cases h
  · cases h

/-- An exchange hands its token out with a new access token. -/
lemma refresh_handed {cookie : Option Token} {sid : Uuid} {new : Token} (he : e.request = .refresh cookie)
    (h : (handle cfg s.db e).1.handed = some (sid, new)) :
    ∃ access, (handle cfg s.db e).1 = .refreshed access (some new) := by
  have hhandle : handle cfg s.db e = refreshRoute cfg s.db cookie e.now := by rw [handle, he]
  rw [hhandle] at h ⊢
  rcases refreshRoute_cases cfg s.db cookie e.now with ⟨-, hr⟩ |
    ⟨token, sid', row, -, -, -, -, ⟨-, hr | hr⟩ | ⟨-, ⟨-, -, hr⟩ | hr⟩⟩
  · rw [hr] at h
    cases h
  · rw [hr] at h ⊢
    cases h
    exact ⟨_, rfl⟩
  · rw [hr] at h
    cases h
  · rw [hr] at h
    cases h
  · rw [hr] at h
    cases h

/-- **What keeps a token current**: every request but an exchange of its session. -/
lemma Current.step (H : Chained cfg s) (h : Current cfg s token)
    (hnot : ∀ spent, e.request = .refresh (some spent) → namedSession cfg spent ≠ namedSession cfg token) :
    Current cfg (Session.step cfg s e) token := by
  refine h.step_of_not_handed fun sid new hnew hname => ?_
  rcases handed_session H hnew with hfresh | ⟨spent, he, hspent⟩
  · exact hfresh token h hname
  · exact hnot spent he (hspent.trans hname.symm)

/-- The current token is rotated, unless its session is over. -/
lemma Current.refresh_outcome (H : Chained cfg s) (h : Current cfg s token) (now : Time) :
    (refresh cfg s.db token now).1.outcome = .rotated ∨ (refresh cfg s.db token now).1.outcome = .invalid := by
  obtain ⟨sid, at_, hname, hhead⟩ := h
  rcases refresh_cases cfg s.db token now with ⟨-, hr⟩ | ⟨sid', row, hname', hrow, hlive, hcase⟩
  · exact .inr (by rw [hr])
  · rw [hname] at hname'
    cases hname'
    obtain ⟨current, hissued, hcurrent, -⟩ := H.hashes sid row hrow (isLive_iff.1 hlive).1
    rw [hissued] at hhead
    cases hhead
    rcases hcase with ⟨-, hr⟩ | ⟨hne, -⟩ | ⟨hne, -⟩
    · exact .inl (by rw [hr])
    · exact absurd hcurrent hne
    · exact absurd hcurrent hne

lemma Current.not_exchanged (H : Chained cfg s) (h : Current cfg s token) : token ∉ exchanged s.log := by
  obtain ⟨sid, at_, hname, hhead⟩ := h
  obtain ⟨rest, hrest⟩ := List.head?_eq_some_iff.1 hhead
  have hissued : issued s.log sid = (token, at_) :: older s.log sid := by rw [older, hrest, List.tail_cons]
  exact H.not_exchanged hname (H.current_not_older hissued)

/-! ### What a run keeps -/

/-- The refresh tokens in the browser, and on their way to it. -/
def Page.held (page : Page) : List Token :=
  page.cookie.toList ++
    match page.inFlight with
    | some ⟨cookie, some (.refreshed _ (some new))⟩ => cookie.toList ++ [new]
    | some ⟨cookie, _⟩ => cookie.toList
    | none => []

/-- The refresh token that a request exchanges. -/
def presented : Request → Option Token
  | .refresh cookie => cookie
  | _ => none

/-- Nobody else exchanges the tokens of this tab, and an exchange that reached the server gets its answer back. -/
def Alone (cfg : Settings) (w : World) : Event → Prop
  | .failRefresh => ∀ exchange ∈ w.page.inFlight, exchange.answer = none
  | .elsewhere e => ∀ spent ∈ presented e.request, ∀ token ∈ w.page.held,
      namedSession cfg spent ≠ namedSession cfg token
  | _ => True

instance decidableAlone (cfg : Settings) (w : World) (e : Event) : Decidable (Alone cfg w e) := by
  cases e <;> unfold Alone <;> infer_instance

/-- Where the tokens of the tab stand: the cookie is current, unless its successor is on its way back. -/
structure Tokens (cfg : Settings) (s : State) (cookie : Option Token) (inFlight : Option Exchange) : Prop where
  chained : Chained cfg s
  cookie : ∀ token, cookie = some token → Current cfg s token ∨
    ∃ access new, inFlight = some ⟨some token, some (.refreshed access (some new))⟩
  carried : ∀ token, inFlight = some ⟨some token, none⟩ → Current cfg s token
  handed : ∀ carried access new, inFlight = some ⟨carried, some (.refreshed access (some new))⟩ →
    Current cfg s new

/-- Where its requests stand. -/
structure Requests (page : Page) : Prop where
  sends : ∀ call ∈ page.calls, call.sends = if call.retriedAfterRefresh then 2 else 1
  waiting : ∀ call ∈ page.calls, call.isWaiting = true →
    call.retriedAfterRefresh = false ∧ page.inFlight.isSome = true
  navigations : 0 < page.navigations → page.inFlight.isSome = true

/-- The invariant. -/
structure Inv (cfg : Settings) (w : World) : Prop where
  tokens : Tokens cfg w.server w.page.cookie w.page.inFlight
  requests : Requests w.page

namespace Tokens

variable {cookie : Option Token} {inFlight : Option Exchange}

/-- Another cookie is taken, or none. -/
lemma take (h : Tokens cfg s cookie inFlight) {cookie' : Option Token}
    (hcookie : ∀ token, cookie' = some token → Current cfg s token) : Tokens cfg s cookie' inFlight where
  chained := h.chained
  cookie token htoken := .inl (hcookie token htoken)
  carried := h.carried
  handed := h.handed

/-- No exchange is under way any more. -/
lemma landed (h : Tokens cfg s cookie inFlight)
    (hcookie : ∀ token, cookie = some token → Current cfg s token) : Tokens cfg s cookie none where
  chained := h.chained
  cookie token htoken := .inl (hcookie token htoken)
  carried _ hnone := nomatch hnone
  handed _ _ _ hnone := nomatch hnone

/-- The exchange takes the cookie along. -/
lemma leave (h : Tokens cfg s cookie none) : Tokens cfg s cookie (some ⟨cookie, none⟩) where
  chained := h.chained
  cookie token htoken := by
    rcases h.cookie token htoken with hcurrent | ⟨access, new, hnone⟩
    · exact .inl hcurrent
    · cases hnone
  carried token htoken := by
    cases htoken
    rcases h.cookie token rfl with hcurrent | ⟨access, new, hnone⟩
    · exact hcurrent
    · cases hnone
  handed _ _ _ hanswer := by cases hanswer

lemma dropCookie (h : Tokens cfg s cookie inFlight) : Tokens cfg s none inFlight := by
  refine h.take fun token hnone => ?_
  cases hnone

lemma cleared (h : Tokens cfg s cookie inFlight) : Tokens cfg s none none := by
  refine h.dropCookie.landed fun token hnone => ?_
  cases hnone

/-- A request of the server's that exchanges none of the tokens held keeps them where they are. -/
lemma server (h : Tokens cfg s cookie inFlight) (hinj : Function.Injective cfg.hashToken)
    (hnot : ∀ spent, e.request = .refresh (some spent) → ∀ token, Current cfg s token →
      (cookie = some token ∨ inFlight = some ⟨some token, none⟩ ∨
        ∃ carried access, inFlight = some ⟨carried, some (.refreshed access (some token))⟩) →
      namedSession cfg spent ≠ namedSession cfg token) :
    Tokens cfg (Session.step cfg s e) cookie inFlight where
  chained := h.chained.step hinj e
  cookie token htoken := by
    rcases h.cookie token htoken with hcurrent | hbehind
    · exact .inl (hcurrent.step h.chained fun spent he => hnot spent he token hcurrent (.inl htoken))
    · exact .inr hbehind
  carried token htoken := by
    have hcurrent := h.carried token htoken
    exact hcurrent.step h.chained fun spent he => hnot spent he token hcurrent (.inr (.inl htoken))
  handed carried access new hanswer := by
    have hcurrent := h.handed carried access new hanswer
    exact hcurrent.step h.chained fun spent he =>
      hnot spent he new hcurrent (.inr (.inr ⟨carried, access, hanswer⟩))

/-- The same, of a request that is no exchange. -/
lemma server_other (h : Tokens cfg s cookie inFlight) (hinj : Function.Injective cfg.hashToken)
    (hnot : ∀ spent, e.request ≠ .refresh (some spent)) : Tokens cfg (Session.step cfg s e) cookie inFlight :=
  h.server hinj fun spent he => absurd he (hnot spent)

/-- The exchange is answered: the token that it took along is behind the one that its answer brings. -/
lemma answer {carried : Option Token} (h : Tokens cfg s cookie (some ⟨carried, none⟩))
    (hinj : Function.Injective cfg.hashToken) (he : e.request = .refresh carried) :
    Tokens cfg (Session.step cfg s e) cookie (some ⟨carried, some (handle cfg s.db e).1⟩) where
  chained := h.chained.step hinj e
  cookie token htoken := by
    have hcurrent : Current cfg s token := by
      rcases h.cookie token htoken with hcurrent | ⟨access, new, hanswer⟩
      · exact hcurrent
      · cases hanswer
    by_cases hhanded : ∃ sid new, (handle cfg s.db e).1.handed = some (sid, new) ∧
        namedSession cfg token = some sid
    · obtain ⟨sid, new, hnew, hname⟩ := hhanded
      rcases handed_session h.chained hnew with hfresh | ⟨spent, hspent, hnamed⟩
      · exact absurd hname (hfresh token hcurrent)
      · -- The session exchanged is the one of the cookie, so the token presented is the cookie.
        rw [he] at hspent
        cases hspent
        obtain rfl := hcurrent.unique (h.carried spent rfl) (hname.trans hnamed.symm)
        obtain ⟨access, hanswer⟩ := refresh_handed he hnew
        exact .inr ⟨access, new, by rw [hanswer]⟩
    · exact .inl (hcurrent.step_of_not_handed fun sid new hnew hname => hhanded ⟨sid, new, hnew, hname⟩)
  carried _ hnone := by cases hnone
  handed carried' access new hanswer := by
    have hanswer' : (handle cfg s.db e).1 = .refreshed access (some new) := by
      simpa using congrArg (fun exchange => exchange.bind Exchange.answer) hanswer
    obtain ⟨-, sid, row, -, -, -, -, rfl, -⟩ := handle_refreshed hanswer'
    have hhanded : (handle cfg s.db e).1.handed = some (sid, new) := by
      rw [hanswer']
      rfl
    exact .of_handed hhanded

end Tokens

namespace Requests

variable {page : Page} {id : ℕ} {call : Call}

lemma request (h : Requests page) : Requests page.request where
  sends call hcall := by
    rcases List.mem_append.1 hcall with hold | hnew
    · exact h.sends call hold
    · rw [List.mem_singleton.1 hnew]
      rfl
  waiting call hcall hwait := by
    rcases List.mem_append.1 hcall with hold | hnew
    · exact h.waiting call hold hwait
    · rw [List.mem_singleton.1 hnew] at hwait
      cases hwait
  navigations := h.navigations

/-- A request moves on, without a wait. -/
lemma put (h : Requests page) (hsends : call.sends = if call.retriedAfterRefresh then 2 else 1)
    (hwait : call.isWaiting = false) : Requests (page.put id call) where
  sends call' hcall' := by
    rcases List.mem_or_eq_of_mem_set hcall' with hold | rfl
    · exact h.sends call' hold
    · exact hsends
  waiting call' hcall' hwait' := by
    rcases List.mem_or_eq_of_mem_set hcall' with hold | rfl
    · exact h.waiting call' hold hwait'
    · rw [hwait] at hwait'
      cases hwait'
  navigations := h.navigations

/-- A request found in the list moves on. -/
lemma move (h : Requests page) (hcall : page.calls[id]? = some call) {stage : Stage}
    (hstage : (Call.isWaiting { call with stage := stage }) = false) :
    Requests (page.put id { call with stage := stage }) :=
  h.put (h.sends call (List.mem_of_getElem? hcall)) hstage

lemma onSessionLost (h : Requests page) : Requests (onSessionLost page) :=
  ⟨h.sends, h.waiting, h.navigations⟩

lemma inFlight_refreshSession : (refreshSession page).inFlight.isSome = true := by
  unfold refreshSession
  split
  · rename_i exchange hflight
    rw [hflight]
    rfl
  · rfl

lemma calls_refreshSession : (refreshSession page).calls = page.calls := by
  unfold refreshSession
  split <;> rfl

/-- Once an exchange is under way, whoever asked for it may wait. -/
lemma refreshSession (hsends : ∀ call ∈ page.calls, call.sends = if call.retriedAfterRefresh then 2 else 1)
    (hwait : ∀ call ∈ page.calls, call.isWaiting = true → call.retriedAfterRefresh = false) :
    Requests (refreshSession page) where
  sends call hcall := hsends call (calls_refreshSession ▸ hcall)
  waiting call hcall hwaiting := ⟨hwait call (calls_refreshSession ▸ hcall) hwaiting, inFlight_refreshSession⟩
  navigations _ := inFlight_refreshSession

lemma unauthorizedHandler (h : Requests page) (hcall : page.calls[id]? = some call) (error : AppError) :
    Requests (unauthorizedHandler page id call error) := by
  unfold Tab.unauthorizedHandler
  split_ifs with hstatus hretried
  · exact h.move hcall rfl
  · exact (h.move hcall rfl).onSessionLost
  · refine refreshSession ?_ ?_
    · intro call' hcall'
      rcases List.mem_or_eq_of_mem_set hcall' with hold | rfl
      · exact h.sends call' hold
      · exact h.sends call (List.mem_of_getElem? hcall)
    · intro call' hcall' hwait
      rcases List.mem_or_eq_of_mem_set hcall' with hold | rfl
      · exact (h.waiting call' hold hwait).1
      · simpa using hretried

lemma receive (h : Requests page) : Requests (receive page id) := by
  unfold Tab.receive
  split
  · exact h
  · rename_i call hcall
    split
    · exact h.unauthorizedHandler hcall _
    · exact h.move hcall rfl
    · exact h

lemma fail (h : Requests page) : Requests (fail page id) := by
  unfold Tab.fail
  split
  · exact h
  · rename_i call hcall
    split
    · exact h.move hcall rfl
    · exact h.move hcall rfl
    · exact h

/-- Nothing waits once the exchange is over. -/
lemma landed {page' : Page} {f : Call → Call} (hpage : page'.calls = page.calls.map f)
    (hnavigations : page'.navigations = 0) (hwait : ∀ call, (f call).isWaiting = false)
    (hsends : ∀ call ∈ page.calls, (f call).sends = if (f call).retriedAfterRefresh then 2 else 1) :
    Requests page' where
  sends call hcall := by
    rw [hpage] at hcall
    obtain ⟨call', hcall', rfl⟩ := List.mem_map.1 hcall
    exact hsends call' hcall'
  waiting call hcall hwaiting := by
    rw [hpage] at hcall
    obtain ⟨call', -, rfl⟩ := List.mem_map.1 hcall
    rw [hwait call'] at hwaiting
    cases hwaiting
  navigations hpos := by
    rw [hnavigations] at hpos
    cases hpos

lemma refreshed (h : Requests page) (access : AccessClaims) (cookie : Option Token) :
    Requests (refreshed page access cookie) := by
  refine landed (f := Call.replay access) rfl rfl ?_ ?_
  · intro call
    unfold Call.replay
    split
    · rfl
    · rename_i hstage
      unfold Call.isWaiting
      split
      · rename_i error hwaiting
        exact absurd hwaiting (hstage error)
      · rfl
  · intro call hcall
    have hsends := h.sends call hcall
    unfold Call.replay
    split
    · rename_i error hstage
      -- A request that waits was sent once.
      have hfirst := (h.waiting call hcall (by rw [Call.isWaiting, hstage])).1
      rw [hfirst] at hsends
      rw [hsends]
      rfl
    · exact hsends

lemma refreshFailed (h : Requests page) : Requests (refreshFailed page) := by
  refine landed (f := Call.giveUp) rfl rfl ?_ ?_
  · intro call
    unfold Call.giveUp
    split
    · rfl
    · rename_i hstage
      unfold Call.isWaiting
      split
      · rename_i error hwaiting
        exact absurd hwaiting (hstage error)
      · rfl
  · intro call hcall
    have hsends := h.sends call hcall
    unfold Call.giveUp
    split <;> exact hsends

lemma receiveRefresh (h : Requests page) : Requests (receiveRefresh page) := by
  unfold Tab.receiveRefresh
  split
  · exact h.refreshed _ _
  · exact refreshFailed ⟨h.sends, h.waiting, h.navigations⟩
  · exact h

lemma ensureSession (h : Requests page) : Requests (ensureSession page) := by
  unfold Tab.ensureSession
  split_ifs
  · exact ⟨h.sends, h.waiting, h.navigations⟩
  · have hrefresh : Requests (Tab.refreshSession page) :=
      refreshSession h.sends fun call hcall hwait => (h.waiting call hcall hwait).1
    exact ⟨hrefresh.sends, hrefresh.waiting, fun _ => inFlight_refreshSession⟩

end Requests

/-! ### Every step -/

variable {page : Page}

namespace Inv

/-- The tokens do not depend on the requests. -/
lemma of_page (h : Inv cfg w) {page : Page} (hcookie : page.cookie = w.page.cookie)
    (hflight : page.inFlight = w.page.inFlight) (hrequests : Requests page) :
    Inv cfg { w with page := page } where
  tokens := by
    rw [hcookie, hflight]
    exact h.tokens
  requests := hrequests

/-- A tab that opens, whatever happened on the server before. -/
lemma blank (H : Chained cfg s) : Inv cfg ⟨s, .blank⟩ where
  tokens := {
    chained := H
    cookie := fun _ h => nomatch h
    carried := fun _ h => nomatch h
    handed := fun _ _ _ h => nomatch h }
  requests := {
    sends := fun _ h => nomatch h
    waiting := fun _ h => nomatch h
    navigations := fun h => absurd h (Nat.lt_irrefl 0) }

/-- What a refresh that may start keeps. -/
lemma tokens_refreshSession {page : Page} (h : Tokens cfg s page.cookie page.inFlight) :
    Tokens cfg s (refreshSession page).cookie (refreshSession page).inFlight := by
  unfold refreshSession
  split
  · exact h
  · rename_i hflight
    rw [hflight] at h
    exact h.leave

lemma tokens_unauthorizedHandler {page : Page} (h : Tokens cfg s page.cookie page.inFlight) (id : ℕ)
    (call : Call) (error : AppError) : Tokens cfg s (unauthorizedHandler page id call error).cookie
      (unauthorizedHandler page id call error).inFlight := by
  unfold unauthorizedHandler
  split_ifs
  · exact h
  · exact h
  · have hput : Tokens cfg s (page.put id { call with stage := .waiting error }).cookie
        (page.put id { call with stage := .waiting error }).inFlight := h
    exact tokens_refreshSession hput

lemma receive (h : Inv cfg w) (id : ℕ) : Inv cfg { w with page := receive w.page id } where
  tokens := by
    unfold Tab.receive
    split
    · exact h.tokens
    · split
      · exact tokens_unauthorizedHandler h.tokens ..
      · exact h.tokens
      · exact h.tokens
  requests := h.requests.receive

lemma fail (h : Inv cfg w) (id : ℕ) : Inv cfg { w with page := fail w.page id } := by
  refine h.of_page ?_ ?_ h.requests.fail
  · unfold Tab.fail
    split
    · rfl
    · split <;> rfl
  · unfold Tab.fail
    split
    · rfl
    · split <;> rfl

lemma receiveRefresh (h : Inv cfg w) : Inv cfg { w with page := receiveRefresh w.page } where
  tokens := by
    have htokens := h.tokens
    unfold Tab.receiveRefresh
    split
    · rename_i carried access cookie hflight
      rw [hflight] at htokens
      have hcookie : ∀ token, cookie.or w.page.cookie = some token → Current cfg w.server token := by
        intro token htoken
        cases cookie with
        | some new =>
          cases htoken
          exact htokens.handed carried access token rfl
        | none =>
          rcases htokens.cookie token htoken with hcurrent | ⟨access', new, hanswer⟩
          · exact hcurrent
          · cases hanswer
      exact (htokens.take hcookie).landed hcookie
    · exact htokens.cleared
    · exact htokens
  requests := h.requests.receiveRefresh

/-- An exchange that fails before the server saw it. -/
lemma failRefresh (h : Inv cfg w) (hunseen : ∀ exchange, w.page.inFlight = some exchange → exchange.answer = none) :
    Inv cfg { w with page := refreshFailed w.page } where
  tokens := by
    refine h.tokens.landed fun token htoken => ?_
    rcases h.tokens.cookie token htoken with hcurrent | ⟨access, new, hanswer⟩
    · exact hcurrent
    · cases hunseen _ hanswer
  requests := h.requests.refreshFailed

lemma ensureSession (h : Inv cfg w) : Inv cfg { w with page := ensureSession w.page } where
  tokens := by
    unfold Tab.ensureSession
    split_ifs
    · exact h.tokens
    · exact tokens_refreshSession h.tokens
  requests := h.requests.ensureSession

lemma serve (h : Inv cfg w) (hinj : Function.Injective cfg.hashToken) (id : ℕ) (now : Time) :
    Inv cfg (serve cfg lifetime w id now) := by
  unfold Tab.serve
  split
  · exact h
  · rename_i call hcall
    split
    · refine ⟨h.tokens.server_other hinj fun spent he => ?_, h.requests.move hcall rfl⟩
      cases he
    · exact h

lemma serveRefresh (h : Inv cfg w) (hinj : Function.Injective cfg.hashToken) (now : Time) :
    Inv cfg (serveRefresh cfg w now) := by
  unfold Tab.serveRefresh
  split
  · rename_i cookie hflight
    have htokens := h.tokens
    have hrequests := h.requests
    rw [hflight] at htokens
    refine ⟨htokens.answer (e := ⟨now, .refresh cookie⟩) hinj rfl, ⟨hrequests.sends, ?_, fun _ => rfl⟩⟩
    exact fun call hcall hwait => ⟨(hrequests.waiting call hcall hwait).1, rfl⟩
  · exact h

/-- A login brings the first token of a session. -/
lemma login (h : Inv cfg w) (hinj : Function.Injective cfg.hashToken) (userId : Uuid) (now : Time) :
    Inv cfg (login cfg w userId now) := by
  have hserver : Tokens cfg (Session.step cfg w.server ⟨now, .login userId⟩) w.page.cookie w.page.inFlight :=
    h.tokens.server_other hinj fun spent he => by cases he
  unfold Tab.login
  dsimp only
  split
  · rename_i access cookie hopened
    refine ⟨hserver.take fun token htoken => ?_, ⟨h.requests.sends, h.requests.waiting, h.requests.navigations⟩⟩
    cases htoken
    obtain ⟨sid, hsid⟩ := opened_sid hopened
    refine .of_handed (?_ : _ = some (sid, cookie))
    rw [hopened, Answer.handed, hsid]
    rfl
  · exact ⟨hserver, h.requests⟩

lemma logout (h : Inv cfg w) (hinj : Function.Injective cfg.hashToken) (now : Time) :
    Inv cfg (logout cfg lifetime w now) := by
  have hserver : Tokens cfg (Session.step cfg w.server (logoutEvent lifetime w.page now)) w.page.cookie
      w.page.inFlight := h.tokens.server_other hinj fun spent he => by cases he
  exact ⟨hserver.dropCookie, ⟨h.requests.sends, h.requests.waiting, h.requests.navigations⟩⟩

/-- The tokens in their places are those held. -/
lemma mem_held {token : Token} (h : page.cookie = some token ∨ page.inFlight = some ⟨some token, none⟩ ∨
    ∃ carried access, page.inFlight = some ⟨carried, some (.refreshed access (some token))⟩) :
    token ∈ page.held := by
  unfold Page.held
  rcases h with hcookie | hcarried | ⟨carried, access, hhanded⟩
  · rw [hcookie]
    exact List.mem_append_left _ (List.mem_singleton_self _)
  · rw [hcarried]
    exact List.mem_append_right _ (List.mem_singleton_self _)
  · rw [hhanded]
    exact List.mem_append_right _ (List.mem_append_right _ (List.mem_singleton_self _))

lemma elsewhere (h : Inv cfg w) (hinj : Function.Injective cfg.hashToken) {e : Session.Event}
    (halone : Alone cfg w (.elsewhere e)) : Inv cfg { w with server := Session.step cfg w.server e } where
  tokens := h.tokens.server hinj fun spent he token _ hheld => halone spent (by rw [he]; rfl) token (mem_held hheld)
  requests := h.requests

theorem step (h : Inv cfg w) (hinj : Function.Injective cfg.hashToken) {e : Event} (halone : Alone cfg w e) :
    Inv cfg (step cfg lifetime w e) := by
  cases e with
  | request => exact h.of_page rfl rfl h.requests.request
  | serve id now => exact h.serve hinj id now
  | receive id => exact h.receive id
  | fail id => exact h.fail id
  | serveRefresh now => exact h.serveRefresh hinj now
  | receiveRefresh => exact h.receiveRefresh
  | failRefresh =>
    rw [Tab.step]
    split_ifs
    · exact h.failRefresh halone
    · exact h
  | ensureSession => exact h.ensureSession
  | dropCookie =>
    exact ⟨h.tokens.dropCookie, ⟨h.requests.sends, h.requests.waiting, h.requests.navigations⟩⟩
  | login userId now => exact h.login hinj userId now
  | logout now => exact h.logout hinj now
  | failLogout => exact ⟨h.tokens, ⟨h.requests.sends, h.requests.waiting, h.requests.navigations⟩⟩
  | elsewhere e => exact h.elsewhere hinj halone

end Inv

/-! ### Every run -/

/-- What the tab guarantees. -/
structure Sound (cfg : Settings) (w : World) : Prop where
  /-- The token of an exchange was never exchanged, and the server never takes it for a stolen one. -/
  presented : ∀ token, w.page.inFlight = some ⟨some token, none⟩ → token ∉ exchanged w.server.log ∧
    ∀ now, (refresh cfg w.server.db token now).1.outcome = .rotated ∨
      (refresh cfg w.server.db token now).1.outcome = .invalid
  sends : ∀ call ∈ w.page.calls, call.sends ≤ 2
  awaited : (∃ call ∈ w.page.calls, call.isWaiting = true) ∨ 0 < w.page.navigations →
    w.page.inFlight.isSome = true

lemma Inv.sound (h : Inv cfg w) : Sound cfg w where
  presented token hflight := by
    have hcurrent := h.tokens.carried token hflight
    exact ⟨hcurrent.not_exchanged h.tokens.chained, hcurrent.refresh_outcome h.tokens.chained⟩
  sends call hcall := by
    rw [h.requests.sends call hcall]
    split_ifs <;> decide
  awaited hwait := by
    rcases hwait with ⟨call, hcall, hwaiting⟩ | hnavigations
    · exact (h.requests.waiting call hcall hwaiting).2
    · exact h.requests.navigations hnavigations

end Tiai.Session.Tab
