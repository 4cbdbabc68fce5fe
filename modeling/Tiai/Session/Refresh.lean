import Tiai.Lib.Runs
import Tiai.Session.Rows

/-!
# Exchanging refresh tokens

The row of a session keeps two hashes; its whole history is the list of the tokens it issued.  As long
as it is not revoked, its hashes are those of the last two of that list (`Chained`), so a token that was
exchanged is behind the head for ever and cannot be exchanged again.
-/

namespace Tiai.Session

open Tiai.Lib

variable {cfg : Settings} {s : State} {e : Event} {sid : Uuid} {token : Token}

/-! ### Tokens -/

lemma refreshTokenSessionId_generate (sid : Uuid) (n : ℕ) :
    refreshTokenSessionId (generateRefreshToken cfg sid (cfg.secret n)) = some (cfg.uuidText sid) := by
  have hdotless : ∀ c ∈ (cfg.uuidText sid).toList, (decide (c ≠ '.')) = true := by
    intro c hc
    have hne : c ≠ '.' := fun hdot => cfg.text_dotless sid (hdot ▸ hc)
    simpa using hne
  have htext : (cfg.uuidText sid).toList ≠ [] := by
    intro hnil
    exact cfg.text_ne sid (String.toList_inj.1 (by simpa using hnil))
  obtain ⟨c, cs, hsecret⟩ : ∃ c cs, (cfg.secret n).toList = c :: cs := by
    apply List.exists_cons_of_ne_nil
    intro hnil
    exact cfg.secret_ne n (String.toList_inj.1 (by simpa using hnil))
  have hlist : (generateRefreshToken cfg sid (cfg.secret n)).toList =
      (cfg.uuidText sid).toList ++ '.' :: c :: cs := by
    simp [generateRefreshToken, hsecret]
  unfold refreshTokenSessionId
  rw [hlist, List.takeWhile_append_of_pos hdotless, List.dropWhile_append_of_pos hdotless]
  simp [htext]

lemma namedSession_generate (sid : Uuid) (n : ℕ) :
    namedSession cfg (generateRefreshToken cfg sid (cfg.secret n)) = some sid := by
  rw [namedSession, refreshTokenSessionId_generate]
  exact cfg.parse_text sid

lemma generate_injective {n m : ℕ} (h : generateRefreshToken cfg sid (cfg.secret n) =
    generateRefreshToken cfg sid (cfg.secret m)) : n = m := by
  apply cfg.secret_injective
  have hlist := congrArg String.toList h
  simp only [generateRefreshToken, String.toList_append] at hlist
  exact String.toList_inj.1 (List.append_cancel_left hlist)

/-! ### A refresh that is answered -/

/-- What a refresh is answered with, when it is not refused. -/
theorem handle_refreshed {access : AccessClaims} {cookie : Option Token}
    (h : (handle cfg s.db e).1 = .refreshed access cookie) :
    ∃ token sid row, e.request = .refresh (some token) ∧ namedSession cfg token = some sid ∧
      s.db.sessions.get sid = some row ∧ row.isLive e.now = true ∧
      access = createAccessToken row.userId sid e.now ∧
      ((row.refreshTokenHash = cfg.hashToken token ∧ cookie = some (nextToken cfg s.db sid)) ∨
        (row.refreshTokenHash ≠ cfg.hashToken token ∧
          row.previousRefreshTokenHash = some (cfg.hashToken token) ∧
          e.now - row.lastUsedAt ≤ refreshReuseGrace ∧ cookie = none ∧
          (handle cfg s.db e).2 = s.db)) := by
  cases he : e.request with
  | login userId =>
    rw [handle, he] at h
    dsimp only [login] at h
    split at h
    · split at h <;> cases h
    · cases h
  | refresh cookie =>
    have hhandle : handle cfg s.db e = refreshRoute cfg s.db cookie e.now := by rw [handle, he]
    rw [hhandle] at h ⊢
    rcases refreshRoute_cases cfg s.db cookie e.now with ⟨-, hr⟩ | ⟨token, sid, row, rfl, hname,
      hrow, hlive, ⟨hhash, hr | hr⟩ | ⟨hhash, ⟨hprevious, hgrace, hr⟩ | hr⟩⟩
    · rw [hr] at h
      cases h
    · rw [hr] at h
      cases h
      exact ⟨token, sid, row, rfl, hname, hrow, hlive, rfl, .inl ⟨hhash, rfl⟩⟩
    · rw [hr] at h
      cases h
    · rw [hr] at h ⊢
      cases h
      exact ⟨token, sid, row, rfl, hname, hrow, hlive, rfl,
        .inr ⟨hhash, hprevious, hgrace, rfl, rfl⟩⟩
    · rw [hr] at h
      cases h
  | logout cookie bearer => rw [handle, he] at h; cases h
  | closeSession bearer sid' =>
    rw [handle, he] at h
    dsimp only [closeSession] at h
    split at h
    · cases h
    split at h
    · cases h
    split at h <;> cases h
  | guarded bearer =>
    rw [handle, he] at h
    dsimp only [guardedRoute] at h
    split at h <;> cases h
  | setPassword userId => rw [handle, he] at h; cases h
  | setActive userId active => rw [handle, he] at h; cases h
  | deleteUser userId => rw [handle, he] at h; cases h
  | purge => rw [handle, he] at h; cases h

/-! ### The history of a run -/

/-- The tokens that were exchanged for a new one, the latest first. -/
def exchanged (log : List (Event × Answer)) : List Token :=
  log.filterMap fun entry =>
    match entry.1.request, entry.2 with
    | .refresh (some token), .refreshed _ (some _) => some token
    | _, _ => none

/-- The two histories after a request. -/
lemma issued_step : issued (step cfg s e).log sid =
    match (handle cfg s.db e).1.handed with
    | some (sid', token) => if sid' = sid then (token, e.now) :: issued s.log sid else issued s.log sid
    | none => issued s.log sid := by
  unfold issued step
  rw [List.filterMap_cons]
  cases (handle cfg s.db e).1.handed with
  | none => rfl
  | some h =>
    by_cases hs : h.1 = sid
    · simp [hs]
    · simp [hs]

lemma issued_step_handed (h : (handle cfg s.db e).1.handed = some (sid, token)) :
    issued (step cfg s e).log sid = (token, e.now) :: issued s.log sid := by
  rw [issued_step, h]
  exact if_pos rfl

lemma issued_step_other (h : ∀ token, (handle cfg s.db e).1.handed ≠ some (sid, token)) :
    issued (step cfg s e).log sid = issued s.log sid := by
  rw [issued_step]
  split
  · rename_i sid' token hhanded
    refine if_neg fun hs => h token ?_
    rw [hhanded, hs]
  · rfl

lemma exchanged_step_cases : exchanged (step cfg s e).log = exchanged s.log ∨
    ∃ token access new, e.request = .refresh (some token) ∧
      (handle cfg s.db e).1 = .refreshed access (some new) ∧
      exchanged (step cfg s e).log = token :: exchanged s.log := by
  unfold exchanged step
  dsimp only
  rw [List.filterMap_cons]
  dsimp only
  split
  · exact .inl rfl
  · rename_i token hspent
    split at hspent
    · rename_i token' access new he hanswer
      cases hspent
      exact .inr ⟨token, access, new, he, hanswer, rfl⟩
    · cases hspent

/-- Every request either hands a token of `sid` out or leaves what `sid` issued. -/
lemma handed_or (db : Db) (e : Event) (sid : Uuid) :
    (∃ token, (handle cfg db e).1.handed = some (sid, token)) ∨
      ∀ token, (handle cfg db e).1.handed ≠ some (sid, token) := by
  by_cases h : ∃ token, (handle cfg db e).1.handed = some (sid, token)
  · exact .inl h
  · exact .inr fun token htoken => h ⟨token, htoken⟩

/-- What a session issued before its current token. -/
def older (log : List (Event × Answer)) (sid : Uuid) : List (Token × Time) := (issued log sid).tail

lemma older_step_subset {entry : Token × Time} (h : entry ∈ older s.log sid) :
    entry ∈ older (step cfg s e).log sid := by
  unfold older at h ⊢
  rcases handed_or s.db e sid with ⟨token, htoken⟩ | hother
  · rw [issued_step_handed htoken]
    exact List.mem_of_mem_tail h
  · rwa [issued_step_other hother]

/-! ### The chain of a session -/

/-- What a run keeps: where ids and tokens come from, and that the two hashes of a row that is not
revoked are those of the last two tokens its session issued. -/
structure Chained (cfg : Settings) (s : State) : Prop where
  row_drawn : ∀ sid row, s.db.sessions.get sid = some row → ∃ n < s.db.drawn, sid = cfg.newId n
  issued_drawn : ∀ sid entry, entry ∈ issued s.log sid → (∃ n < s.db.drawn, sid = cfg.newId n) ∧
    ∃ n < s.db.drawn, entry.1 = generateRefreshToken cfg sid (cfg.secret n)
  issued_nodup : ∀ sid, ((issued s.log sid).map Prod.fst).Nodup
  hashes : ∀ sid row, s.db.sessions.get sid = some row → row.revokedAt = none →
    ∃ current, issued s.log sid = (current, row.lastUsedAt) :: older s.log sid ∧
      row.refreshTokenHash = cfg.hashToken current ∧
      row.previousRefreshTokenHash = (older s.log sid).head?.map fun entry => cfg.hashToken entry.1
  capped : ∀ sid row, s.db.sessions.get sid = some row →
    row.expiresAt ≤ row.createdAt + days cfg.sessionMaxDays
  exchanged_nodup : (exchanged s.log).Nodup
  exchanged_older : ∀ token ∈ exchanged s.log, ∃ sid at_, (token, at_) ∈ older s.log sid

namespace Chained

lemma start (users : Store Uuid Account) (clock : Time) : Chained cfg (start users clock) where
  row_drawn _ _ h := nomatch h
  issued_drawn _ _ h := nomatch h
  issued_nodup _ := List.nodup_nil
  hashes _ _ h := nomatch h
  capped _ _ h := nomatch h
  exchanged_nodup := List.nodup_nil
  exchanged_older _ h := nomatch h

lemma expiry_le (createdAt now : Time) :
    expiry cfg createdAt now ≤ createdAt + days cfg.sessionMaxDays := Int.min_le_right _ _

/-- The token that is drawn next was not issued yet. -/
lemma nextToken_fresh (H : Chained cfg s) :
    nextToken cfg s.db sid ∉ (issued s.log sid).map Prod.fst := by
  intro hin
  obtain ⟨entry, hentry, htoken⟩ := List.mem_map.1 hin
  obtain ⟨-, n, hn, hdrawn⟩ := H.issued_drawn sid entry hentry
  rw [hdrawn] at htoken
  exact absurd (generate_injective htoken) (Nat.ne_of_lt hn)

lemma mem_issued_of_older {entry : Token × Time} (h : entry ∈ older s.log sid) :
    entry ∈ issued s.log sid := List.mem_of_mem_tail h

/-- A token of the history names its session. -/
lemma named (H : Chained cfg s) {at_ : Time} (h : (token, at_) ∈ issued s.log sid) :
    namedSession cfg token = some sid := by
  obtain ⟨-, n, -, rfl⟩ := H.issued_drawn sid _ h
  exact namedSession_generate sid n

/-- What no session has put behind it was never exchanged. -/
lemma not_exchanged (H : Chained cfg s) (hname : namedSession cfg token = some sid)
    (hhead : token ∉ (older s.log sid).map Prod.fst) : token ∉ exchanged s.log := by
  intro hin
  obtain ⟨sid', at_, holder⟩ := H.exchanged_older token hin
  have hname' := H.named (mem_issued_of_older holder)
  rw [hname] at hname'
  cases hname'
  exact hhead (List.mem_map_of_mem (f := Prod.fst) holder)

lemma current_not_older (H : Chained cfg s) {current : Token} {at_ : Time}
    (hissued : issued s.log sid = (current, at_) :: older s.log sid) :
    current ∉ (older s.log sid).map Prod.fst := by
  have hnodup := H.issued_nodup sid
  rw [hissued, List.map_cons] at hnodup
  exact (List.nodup_cons.1 hnodup).1

/-- The hashes of the rows after a request. -/
lemma step_hashes (H : Chained cfg s) {row' : AuthSession}
    (hrow' : (step cfg s e).db.sessions.get sid = some row') (hopen : row'.revokedAt = none) :
    ∃ current, issued (step cfg s e).log sid =
        (current, row'.lastUsedAt) :: older (step cfg s e).log sid ∧
      row'.refreshTokenHash = cfg.hashToken current ∧ row'.previousRefreshTokenHash =
        (older (step cfg s e).log sid).head?.map fun entry => cfg.hashToken entry.1 := by
  change (handle cfg s.db e).2.sessions.get sid = some row' at hrow'
  rcases handed_or s.db e sid with ⟨token, htoken⟩ | hother
  · -- The request hands the new current token out: the row is a login's, or was rotated.
    obtain ⟨-, -, ⟨hsid, userId, hnew⟩ | ⟨spent, row, -, -, hrow, hlive, hhash, hnew⟩⟩ :=
      handle_handed htoken
    · rw [hnew] at hrow'
      cases hrow'
      have hnone : issued s.log sid = [] := by
        rw [List.eq_nil_iff_forall_not_mem]
        intro entry hentry
        obtain ⟨⟨n, hn, hsid'⟩, -⟩ := H.issued_drawn sid entry hentry
        rw [hsid] at hsid'
        exact absurd (cfg.newId_injective hsid') (Nat.ne_of_gt hn)
      refine ⟨token, ?_, rfl, ?_⟩
      · rw [older, issued_step_handed htoken]
        rfl
      · rw [older, issued_step_handed htoken, hnone]
        rfl
    · rw [hnew] at hrow'
      cases hrow'
      obtain ⟨current, hissued, hcurrent, -⟩ := H.hashes sid row hrow (isLive_iff.1 hlive).1
      refine ⟨token, ?_, rfl, ?_⟩
      · rw [older, issued_step_handed htoken]
        rfl
      · rw [older, issued_step_handed htoken, hissued]
        exact congrArg some hcurrent
  · -- Nothing is handed out for `sid`: the row is as it was.
    rw [older, issued_step_other hother]
    rcases handle_rows hrow' with ⟨row, hrow, hstep⟩ | ⟨userId, -, hanswer, -, -⟩
    · cases hstep with
      | kept => exact H.hashes sid row' hrow hopen
      | ended => exact absurd hopen revoke_revokedAt
      | rotated token _ _ _ _ hanswer =>
        refine absurd ?_ (hother (nextToken cfg s.db sid))
        rw [hanswer]
        rfl
      | rotatedEnded => exact absurd hopen revoke_revokedAt
    · refine absurd ?_ (hother (nextToken cfg s.db sid))
      rw [hanswer]
      rfl

lemma step_capped (H : Chained cfg s) {row' : AuthSession}
    (hrow' : (step cfg s e).db.sessions.get sid = some row') :
    row'.expiresAt ≤ row'.createdAt + days cfg.sessionMaxDays := by
  rcases handle_rows hrow' with ⟨row, hrow, hstep⟩ | ⟨userId, -, -, -, rfl⟩
  · cases hstep with
    | kept => exact H.capped sid row' hrow
    | ended => simpa using H.capped sid row hrow
    | rotated token => exact expiry_le ..
    | rotatedEnded =>
      rw [revoke_expiresAt, revoke_createdAt]
      exact expiry_le ..
  · exact expiry_le ..

lemma step_row_drawn (H : Chained cfg s) {row' : AuthSession}
    (hrow' : (step cfg s e).db.sessions.get sid = some row') :
    ∃ n < (step cfg s e).db.drawn, sid = cfg.newId n := by
  rcases handle_rows hrow' with ⟨row, hrow, -⟩ | ⟨userId, hsid, -, hdrawn, -⟩
  · obtain ⟨n, hn, hsid⟩ := H.row_drawn sid row hrow
    exact ⟨n, Nat.lt_of_lt_of_le hn handle_drawn, hsid⟩
  · exact ⟨s.db.drawn, Nat.lt_of_lt_of_eq (Nat.lt_succ_self _) hdrawn.symm, hsid⟩

lemma step_issued_drawn (H : Chained cfg s) {entry : Token × Time}
    (hentry : entry ∈ issued (step cfg s e).log sid) :
    (∃ n < (step cfg s e).db.drawn, sid = cfg.newId n) ∧
      ∃ n < (step cfg s e).db.drawn, entry.1 = generateRefreshToken cfg sid (cfg.secret n) := by
  have hlater {n : ℕ} (hn : n < s.db.drawn) : n < (step cfg s e).db.drawn :=
    Nat.lt_of_lt_of_le hn handle_drawn
  rcases handed_or s.db e sid with ⟨token, htoken⟩ | hother
  · rw [issued_step_handed htoken] at hentry
    obtain ⟨hnext, hdrawn, hfrom⟩ := handle_handed htoken
    have hlast : s.db.drawn < (step cfg s e).db.drawn :=
      Nat.lt_of_lt_of_eq (Nat.lt_succ_self _) hdrawn.symm
    have hsid : ∃ n < (step cfg s e).db.drawn, sid = cfg.newId n := by
      rcases hfrom with ⟨hsid, -⟩ | ⟨-, row, -, -, hrow, -⟩
      · exact ⟨s.db.drawn, hlast, hsid⟩
      · obtain ⟨n, hn, hsid⟩ := H.row_drawn sid row hrow
        exact ⟨n, hlater hn, hsid⟩
    refine ⟨hsid, ?_⟩
    rcases List.mem_cons.1 hentry with rfl | hentry
    · exact ⟨s.db.drawn, hlast, hnext⟩
    · obtain ⟨-, n, hn, hdrawn⟩ := H.issued_drawn sid entry hentry
      exact ⟨n, hlater hn, hdrawn⟩
  · rw [issued_step_other hother] at hentry
    obtain ⟨⟨m, hm, hsid⟩, n, hn, hdrawn⟩ := H.issued_drawn sid entry hentry
    exact ⟨⟨m, hlater hm, hsid⟩, n, hlater hn, hdrawn⟩

lemma step_issued_nodup (H : Chained cfg s) :
    ((issued (step cfg s e).log sid).map Prod.fst).Nodup := by
  rcases handed_or s.db e sid with ⟨token, htoken⟩ | hother
  · rw [issued_step_handed htoken, List.map_cons, List.nodup_cons]
    obtain ⟨rfl, -⟩ := handle_handed htoken
    exact ⟨H.nextToken_fresh, H.issued_nodup sid⟩
  · rw [issued_step_other hother]
    exact H.issued_nodup sid

/-- An exchange takes the current token, and puts it behind the new one. -/
lemma exchange_current (H : Chained cfg s) (hinj : Function.Injective cfg.hashToken)
    {access : AccessClaims} {new : Token} (he : e.request = .refresh (some token))
    (hanswer : (handle cfg s.db e).1 = .refreshed access (some new)) :
    ∃ sid at_, namedSession cfg token = some sid ∧ access.sid = some sid ∧
      issued s.log sid = (token, at_) :: older s.log sid := by
  obtain ⟨token', sid, row, he', hname, hrow, hlive, rfl, ⟨hhash, -⟩ | ⟨-, -, -, hcookie, -⟩⟩ :=
    handle_refreshed hanswer
  · rw [he] at he'
    cases he'
    obtain ⟨current, hissued, hcurrent, -⟩ := H.hashes sid row hrow (isLive_iff.1 hlive).1
    rw [hhash] at hcurrent
    cases hinj hcurrent
    exact ⟨sid, row.lastUsedAt, hname, rfl, hissued⟩
  · cases hcookie

lemma step_exchanged (H : Chained cfg s) (hinj : Function.Injective cfg.hashToken) :
    (exchanged (step cfg s e).log).Nodup ∧ ∀ token ∈ exchanged (step cfg s e).log,
      ∃ sid at_, (token, at_) ∈ older (step cfg s e).log sid := by
  have hbefore : ∀ token ∈ exchanged s.log,
      ∃ sid at_, (token, at_) ∈ older (step cfg s e).log sid := by
    intro token htoken
    obtain ⟨sid, at_, holder⟩ := H.exchanged_older token htoken
    exact ⟨sid, at_, older_step_subset holder⟩
  rcases exchanged_step_cases with hsame | ⟨token, access, new, he, hanswer, hmore⟩
  · rw [hsame]
    exact ⟨H.exchanged_nodup, hbefore⟩
  · obtain ⟨sid, at_, hname, hsid, hissued⟩ := H.exchange_current hinj he hanswer
    rw [hmore]
    refine ⟨List.nodup_cons.2 ⟨?_, H.exchanged_nodup⟩, ?_⟩
    · exact H.not_exchanged hname (H.current_not_older hissued)
    · intro token' htoken'
      rcases List.mem_cons.1 htoken' with rfl | htoken'
      · have hhanded : (handle cfg s.db e).1.handed = some (sid, new) := by
          rw [hanswer, Answer.handed, hsid]
          rfl
        refine ⟨sid, at_, ?_⟩
        rw [older, issued_step_handed hhanded, hissued]
        exact List.mem_cons_self
      · exact hbefore token' htoken'

theorem step (H : Chained cfg s) (hinj : Function.Injective cfg.hashToken) (e : Event) :
    Chained cfg (step cfg s e) where
  row_drawn _ _ := H.step_row_drawn
  issued_drawn _ _ := H.step_issued_drawn
  issued_nodup _ := H.step_issued_nodup
  hashes _ _ := H.step_hashes
  capped _ _ := H.step_capped
  exchanged_nodup := (H.step_exchanged hinj).1
  exchanged_older := (H.step_exchanged hinj).2

end Chained

theorem chained (hinj : Function.Injective cfg.hashToken) (users : Store Uuid Account) (clock : Time)
    (es : List Event) : Chained cfg (run (step cfg) (start users clock) es) :=
  run_invariant (fun _ e H => H.step hinj e) (.start users clock) es

/-! ### A session that has ended -/

/-- The session was opened, and authorizes nothing any more. -/
def Ended (cfg : Settings) (s : State) (sid : Uuid) : Prop :=
  (∃ n < s.db.drawn, sid = cfg.newId n) ∧
    ∀ row, s.db.sessions.get sid = some row → row.isLive s.clock = false

lemma Ended.dead_later (h : Ended cfg s sid) (ht : Timely s e) {row : AuthSession}
    (hrow : s.db.sessions.get sid = some row) : row.isLive e.now = false :=
  isLive_mono ht (h.2 row hrow)

theorem Ended.step (ht : Timely s e) (h : Ended cfg s sid) : Ended cfg (step cfg s e) sid := by
  obtain ⟨n, hn, hsid⟩ := h.1
  refine ⟨⟨n, Nat.lt_of_lt_of_le hn handle_drawn, hsid⟩, fun row' hrow' => ?_⟩
  rcases handle_rows hrow' with ⟨row, hrow, hstep⟩ | ⟨userId, hsid', -, -, -⟩
  · have hdead := h.dead_later ht hrow
    cases hstep with
    | kept => exact hdead
    | ended => exact revoke_not_live
    | rotated _ _ _ hlive => exact absurd (hlive.symm.trans hdead) (by decide)
    | rotatedEnded => exact revoke_not_live
  · rw [hsid] at hsid'
    exact absurd (cfg.newId_injective hsid') (Nat.ne_of_lt hn)

/-- The request presents a token of the session `sid`. -/
def Request.presents (cfg : Settings) (sid : Uuid) : Request → Prop
  | .refresh (some token) => namedSession cfg token = some sid
  | .guarded (some claims) => claims.sid = some sid
  | .closeSession (some claims) _ => claims.sid = some sid
  | _ => False

lemma Ended.refuses (ht : Timely s e) (h : Ended cfg s sid) (hp : e.request.presents cfg sid) :
    ∃ error, (handle cfg s.db e).1 = .refused error := by
  have hdead row (hrow : s.db.sessions.get sid = some row) := h.dead_later ht hrow
  cases he : e.request with
  | refresh cookie =>
    cases cookie with
    | none => exact ⟨sessionEnded, by rw [handle, he]; rfl⟩
    | some token =>
      rw [he] at hp
      rw [handle, he]
      rcases refreshRoute_cases cfg s.db (some token) e.now with
        ⟨-, hr⟩ | ⟨token', sid', row, htoken, hname, hrow, hlive, -⟩
      · exact ⟨sessionEnded, congrArg Prod.fst hr⟩
      · cases htoken
        have hsid : sid = sid' := Option.some.inj (hp.symm.trans hname)
        subst hsid
        exact absurd (hlive.symm.trans (hdead row hrow)) (by decide)
  | guarded bearer =>
    cases bearer with
    | none => exact ⟨credentialsError, by rw [handle, he]; rfl⟩
    | some claims =>
      rw [he] at hp
      obtain ⟨error, herror⟩ := authenticate_dead hp hdead
      exact ⟨error, by rw [handle, he]; simp only [guardedRoute, herror]⟩
  | closeSession bearer other =>
    cases bearer with
    | none => exact ⟨credentialsError, by rw [handle, he]; rfl⟩
    | some claims =>
      rw [he] at hp
      obtain ⟨error, herror⟩ := authenticate_dead hp hdead
      exact ⟨error, by rw [handle, he]; simp only [closeSession, herror]⟩
  | login => rw [he] at hp; cases hp
  | logout => rw [he] at hp; cases hp
  | setPassword => rw [he] at hp; cases hp
  | setActive => rw [he] at hp; cases hp
  | deleteUser => rw [he] at hp; cases hp
  | purge => rw [he] at hp; cases hp

/-! ### What the exchange guarantees -/

/-- The token a session issued just before its current one. -/
def previousToken (log : List (Event × Answer)) (sid : Uuid) : Option Token :=
  (older log sid).head?.map Prod.fst

/-- What the exchange of refresh tokens guarantees in a state of a run. -/
structure ExchangeSafe (cfg : Settings) (s : State) : Prop where
  /-- A token is exchanged once. -/
  once : (exchanged s.log).Nodup
  /-- An answer without a new token is for the previous one, shortly after its rotation. -/
  answered : ∀ e token access cookie, e.request = .refresh (some token) →
    (handle cfg s.db e).1 = .refreshed access cookie →
    ∃ sid current rotatedAt, namedSession cfg token = some sid ∧ access.sid = some sid ∧
      issued s.log sid = (current, rotatedAt) :: older s.log sid ∧
      ((token = current ∧ ∃ new, cookie = some new ∧ new ∉ (issued s.log sid).map Prod.fst) ∨
        (previousToken s.log sid = some token ∧ e.now - rotatedAt ≤ refreshReuseGrace ∧ cookie = none))
  /-- Any other token of the session's history ends it. -/
  stale : ∀ e token sid row, e.request = .refresh (some token) →
    token ∈ (older s.log sid).map Prod.fst → s.db.sessions.get sid = some row →
    row.isLive e.now = true →
    ¬(previousToken s.log sid = some token ∧
      ∃ current rotatedAt, (issued s.log sid).head? = some (current, rotatedAt) ∧
        e.now - rotatedAt ≤ refreshReuseGrace) →
    (handle cfg s.db e).1 = .refused sessionEnded ∧
      ∃ row', (handle cfg s.db e).2.sessions.get sid = some row' ∧ row'.revokedAt = some e.now
  /-- Once a session is not live, none of its tokens is accepted again. -/
  ended : ∀ sid, issued s.log sid ≠ [] →
    (∀ row, s.db.sessions.get sid = some row → row.isLive s.clock = false) →
    ∀ es e, Guarded (step cfg) Timely s (es ++ [e]) → e.request.presents cfg sid →
      ∃ error, (handle cfg (run (step cfg) s es).db e).1 = .refused error
  /-- The ceiling of a session. -/
  capped : ∀ sid row, s.db.sessions.get sid = some row →
    row.expiresAt ≤ row.createdAt + days cfg.sessionMaxDays

/-- The previous hash of a row, against the history. -/
lemma previous_iff (hinj : Function.Injective cfg.hashToken) {row : AuthSession}
    (h : row.previousRefreshTokenHash =
      (older s.log sid).head?.map fun entry => cfg.hashToken entry.1) :
    row.previousRefreshTokenHash = some (cfg.hashToken token) ↔
      previousToken s.log sid = some token := by
  rw [h, previousToken]
  cases (older s.log sid).head? with
  | none => simp
  | some entry => simp [hinj.eq_iff]

namespace Chained

lemma answered (H : Chained cfg s) (hinj : Function.Injective cfg.hashToken) {access : AccessClaims}
    {cookie : Option Token} (he : e.request = .refresh (some token))
    (hanswer : (handle cfg s.db e).1 = .refreshed access cookie) :
    ∃ sid current rotatedAt, namedSession cfg token = some sid ∧ access.sid = some sid ∧
      issued s.log sid = (current, rotatedAt) :: older s.log sid ∧
      ((token = current ∧ ∃ new, cookie = some new ∧ new ∉ (issued s.log sid).map Prod.fst) ∨
        (previousToken s.log sid = some token ∧ e.now - rotatedAt ≤ refreshReuseGrace ∧
          cookie = none)) := by
  obtain ⟨token', sid, row, he', hname, hrow, hlive, rfl, hcase⟩ := handle_refreshed hanswer
  rw [he] at he'
  cases he'
  obtain ⟨current, hissued, hcurrent, hprevious⟩ := H.hashes sid row hrow (isLive_iff.1 hlive).1
  refine ⟨sid, current, row.lastUsedAt, hname, rfl, hissued, ?_⟩
  rcases hcase with ⟨hhash, rfl⟩ | ⟨-, hhash, hgrace, rfl, -⟩
  · rw [hhash] at hcurrent
    exact .inl ⟨hinj hcurrent, _, rfl, H.nextToken_fresh⟩
  · exact .inr ⟨(previous_iff hinj hprevious).1 hhash, hgrace, rfl⟩

lemma stale (H : Chained cfg s) (hinj : Function.Injective cfg.hashToken) {row : AuthSession}
    (he : e.request = .refresh (some token)) (holder : token ∈ (older s.log sid).map Prod.fst)
    (hrow : s.db.sessions.get sid = some row) (hlive : row.isLive e.now = true)
    (hlate : ¬(previousToken s.log sid = some token ∧
      ∃ current rotatedAt, (issued s.log sid).head? = some (current, rotatedAt) ∧
        e.now - rotatedAt ≤ refreshReuseGrace)) :
    handle cfg s.db e = (.refused sessionEnded, s.db.revoke sid e.now) := by
  obtain ⟨current, hissued, hcurrent, hprevious⟩ := H.hashes sid row hrow (isLive_iff.1 hlive).1
  obtain ⟨entry, hentry, rfl⟩ := List.mem_map.1 holder
  have hname := H.named (mem_issued_of_older hentry)
  rw [handle, he]
  rcases refreshRoute_cases cfg s.db (some entry.1) e.now with ⟨hdead, -⟩ |
    ⟨token', sid', row', htoken, hname', hrow', -, ⟨hhash, -⟩ | ⟨-, ⟨hhash, hgrace, -⟩ | hr⟩⟩
  · exact absurd ((hdead _ sid row rfl hname hrow).symm.trans hlive) (by decide)
  all_goals
    cases htoken
    rw [hname] at hname'
    cases hname'
    rw [hrow] at hrow'
    cases hrow'
  · -- An older token is not the current one.
    rw [hhash] at hcurrent
    cases hinj hcurrent
    exact absurd holder (H.current_not_older hissued)
  · -- Nor the previous one, unless the grace is over.
    exact absurd ⟨(previous_iff hinj hprevious).1 hhash, current, row.lastUsedAt,
      by rw [hissued]; rfl, hgrace⟩ hlate
  · exact hr

theorem exchangeSafe (H : Chained cfg s) (hinj : Function.Injective cfg.hashToken) :
    ExchangeSafe cfg s where
  once := H.exchanged_nodup
  answered _ _ _ _ he hanswer := H.answered hinj he hanswer
  stale e token sid row he holder hrow hlive hlate := by
    rw [H.stale hinj he holder hrow hlive hlate]
    refine ⟨rfl, row.revoke e.now, ?_, ?_⟩
    · rw [get_revoke, if_pos rfl, hrow]
      rfl
    · simp [AuthSession.revoke, (isLive_iff.1 hlive).1]
  ended sid hissued hdead es e hg hp := by
    obtain ⟨entry, hentry⟩ := List.exists_mem_of_ne_nil _ hissued
    have hended : Ended cfg s sid := ⟨(H.issued_drawn sid entry hentry).1, hdead⟩
    obtain ⟨hes, he, -⟩ := Guarded.append_iff.1 hg
    have hlater := Guarded.invariant (P := fun s => Ended cfg s sid) (fun _ _ ht h => h.step ht) hes
      hended
    exact hlater.refuses he hp
  capped := H.capped

end Chained

/-- **Refresh tokens are single-use.**  In every state of a run of the console's sessions, whatever is
asked and in whatever order. -/
theorem exchange_safe (hinj : Function.Injective cfg.hashToken) (users : Store Uuid Account)
    (clock : Time) (es : List Event) :
    ExchangeSafe cfg (run (step cfg) (start users clock) es) :=
  (chained hinj users clock es).exchangeSafe hinj

/-- A login, and the exchange of its token. -/
theorem exchange_safe_once :
    (run (step .standard) (start [(7, ⟨true, none⟩)] 0)
      [⟨0, .login 7⟩, ⟨5, .refresh (some "0.a")⟩]).log.map (·.2) =
      [.refreshed (createAccessToken 7 0 5) (some "0.aa"),
        .opened (createAccessToken 7 0 0) "0.a"] ∧
    ExchangeSafe .standard (run (step .standard) (start [(7, ⟨true, none⟩)] 0)
      [⟨0, .login 7⟩, ⟨5, .refresh (some "0.a")⟩]) :=
  ⟨by decide +kernel, exchange_safe Settings.standard_hash_injective _ _ _⟩

/-! ### Which token ends a session -/

/-- The token names a live session, and is neither its current token nor the previous one within the
grace. -/
def Unexpected (cfg : Settings) (s : State) (token : Token) (now : Time) (sid : Uuid) : Prop :=
  namedSession cfg token = some sid ∧
    (∃ row, s.db.sessions.get sid = some row ∧ row.isLive now = true) ∧
    ∀ current rotatedAt, (issued s.log sid).head? = some (current, rotatedAt) → token ≠ current ∧
      ¬(previousToken s.log sid = some token ∧ now - rotatedAt ≤ refreshReuseGrace)

/-- What a refresh makes of the sessions, whatever is presented. -/
structure RefreshExact (cfg : Settings) (s : State) (token : Token) (now : Time) : Prop where
  reused_iff : (refresh cfg s.db token now).1.outcome = .reused ↔ ∃ sid, Unexpected cfg s token now sid
  reused_row : ∀ sid row, Unexpected cfg s token now sid → s.db.sessions.get sid = some row →
    (refresh cfg s.db token now).2.sessions.get sid = some (row.revoke now)
  revoked_only : ∀ sid row row', s.db.sessions.get sid = some row →
    (refresh cfg s.db token now).2.sessions.get sid = some row' →
    row.revokedAt = none → row'.revokedAt ≠ none → Unexpected cfg s token now sid
  invalid_iff : (refresh cfg s.db token now).1.outcome = .invalid ↔
    ∀ sid row, namedSession cfg token = some sid → s.db.sessions.get sid = some row →
      row.isLive now = false
  invalid_rows : (refresh cfg s.db token now).1.outcome = .invalid →
    (refresh cfg s.db token now).2 = s.db
  other_rows : ∀ sid, namedSession cfg token ≠ some sid →
    (refresh cfg s.db token now).2.sessions.get sid = s.db.sessions.get sid

namespace Chained

/-- Against the two hashes of a live row, or against the history: the same. -/
lemma unexpected_iff (H : Chained cfg s) (hinj : Function.Injective cfg.hashToken) {now : Time}
    {row : AuthSession} (hname : namedSession cfg token = some sid)
    (hrow : s.db.sessions.get sid = some row) (hlive : row.isLive now = true) :
    Unexpected cfg s token now sid ↔ row.refreshTokenHash ≠ cfg.hashToken token ∧
      ¬(row.previousRefreshTokenHash = some (cfg.hashToken token) ∧
        now - row.lastUsedAt ≤ refreshReuseGrace) := by
  obtain ⟨current, hissued, hcurrent, hprevious⟩ := H.hashes sid row hrow (isLive_iff.1 hlive).1
  have htoken : token = current ↔ row.refreshTokenHash = cfg.hashToken token := by
    rw [hcurrent]
    exact ⟨fun h => by rw [h], fun h => (hinj h).symm⟩
  have hbefore : row.previousRefreshTokenHash = some (cfg.hashToken token) ↔
      previousToken s.log sid = some token := previous_iff hinj hprevious
  constructor
  · rintro ⟨-, -, h⟩
    have h' := h current row.lastUsedAt (by rw [hissued]; rfl)
    rwa [Ne, htoken, ← hbefore] at h'
  · rintro ⟨hne, hlate⟩
    refine ⟨hname, ⟨row, hrow, hlive⟩, fun current' rotatedAt hhead => ?_⟩
    rw [hissued] at hhead
    cases hhead
    rw [Ne, htoken, ← hbefore]
    exact ⟨hne, hlate⟩

/-- A token that is expected is not taken for a reused one, and closes nothing. -/
lemma refreshExact_of_expected {now : Time} (hnot : ∀ sid, ¬Unexpected cfg s token now sid)
    (hreused : (refresh cfg s.db token now).1.outcome ≠ .reused)
    (hopen : ∀ sid row row', s.db.sessions.get sid = some row →
      (refresh cfg s.db token now).2.sessions.get sid = some row' → row.revokedAt = none → row'.revokedAt = none)
    (hinvalid : (refresh cfg s.db token now).1.outcome = .invalid ↔
      ∀ sid row, namedSession cfg token = some sid → s.db.sessions.get sid = some row → row.isLive now = false)
    (hrows : (refresh cfg s.db token now).1.outcome = .invalid → (refresh cfg s.db token now).2 = s.db)
    (hother : ∀ sid, namedSession cfg token ≠ some sid →
      (refresh cfg s.db token now).2.sessions.get sid = s.db.sessions.get sid) :
    RefreshExact cfg s token now where
  reused_iff := iff_of_false hreused fun ⟨sid, h⟩ => hnot sid h
  reused_row sid _ h _ := absurd h (hnot sid)
  revoked_only sid row row' hrow hrow' hnone hclosed := absurd (hopen sid row row' hrow hrow' hnone) hclosed
  invalid_iff := hinvalid
  invalid_rows := hrows
  other_rows := hother

lemma refreshExact (H : Chained cfg s) (hinj : Function.Injective cfg.hashToken) (token : Token)
    (now : Time) : RefreshExact cfg s token now := by
  rcases refresh_cases cfg s.db token now with ⟨hdead, hr⟩ | ⟨sid, row, hname, hrow, hlive, hcase⟩
  · -- No live session is named: nothing happens.
    refine refreshExact_of_expected ?_ ?_ ?_ ?_ ?_ ?_
    · rintro sid ⟨hname, ⟨row, hrow, hlive⟩, -⟩
      exact absurd (hlive.symm.trans (hdead sid row hname hrow)) (by decide)
    · rw [hr]
      exact fun h => by cases h
    · intro sid row row' hrow hrow' hopen
      rw [hr, hrow] at hrow'
      cases hrow'
      exact hopen
    · rw [hr]
      exact ⟨fun _ => hdead, fun _ => rfl⟩
    · intro _
      rw [hr]
    · intro sid _
      rw [hr]
  · have hiff := H.unexpected_iff hinj hname hrow hlive
    have honly : ∀ sid', Unexpected cfg s token now sid' → sid' = sid := fun sid' h =>
      Option.some.inj (h.1.symm.trans hname)
    have hnotDead : ¬∀ sid row, namedSession cfg token = some sid →
        s.db.sessions.get sid = some row → row.isLive now = false := fun h =>
      absurd (hlive.symm.trans (h sid row hname hrow)) (by decide)
    have hother {sid' : Uuid} (h : namedSession cfg token ≠ some sid') : sid' ≠ sid := fun hs =>
      h (hs ▸ hname)
    rcases hcase with ⟨hhash, hr⟩ | ⟨hhash, hprevious, hgrace, hr⟩ | ⟨hhash, hlate, hr⟩
    · -- The token in force: it is rotated.
      refine refreshExact_of_expected ?_ ?_ ?_ ?_ ?_ ?_
      · intro sid' h
        cases honly sid' h
        exact (hiff.1 h).1 hhash
      · rw [hr]
        exact fun h => by cases h
      · intro sid' row₁ row₂ hrow₁ hrow₂ hopen
        rw [hr] at hrow₂
        rcases get_rotate_cases hrow₂ with ⟨rfl, rfl⟩ | hrow₂
        · exact (isLive_iff.1 hlive).1
        · rw [hrow₁] at hrow₂
          cases hrow₂
          exact hopen
      · rw [hr]
        exact ⟨fun h => (by cases h), fun h => absurd h hnotDead⟩
      · rw [hr]
        exact fun h => by cases h
      · intro sid' h
        rw [hr, Db.rotate, Store.get_put_of_ne _ _ (hother h)]
    · -- The one before it, within the grace.
      refine refreshExact_of_expected ?_ ?_ ?_ ?_ ?_ ?_
      · intro sid' h
        cases honly sid' h
        exact (hiff.1 h).2 ⟨hprevious, hgrace⟩
      · rw [hr]
        exact fun h => by cases h
      · intro sid' row₁ row₂ hrow₁ hrow₂ hopen
        rw [hr, hrow₁] at hrow₂
        cases hrow₂
        exact hopen
      · rw [hr]
        exact ⟨fun h => (by cases h), fun h => absurd h hnotDead⟩
      · rw [hr]
        exact fun h => by cases h
      · intro sid' _
        rw [hr]
    · have hthis : Unexpected cfg s token now sid := hiff.2 ⟨hhash, hlate⟩
      constructor
      · rw [hr]
        exact ⟨fun _ => ⟨sid, hthis⟩, fun _ => rfl⟩
      · intro sid' row' h hrow'
        cases honly sid' h
        rw [hr, get_revoke, if_pos rfl, hrow']
        rfl
      · intro sid' row₁ row₂ hrow₁ hrow₂ hopen hclosed
        rw [hr] at hrow₂
        obtain ⟨row₃, hrow₃, ⟨-, rfl⟩ | ⟨rfl, -⟩⟩ := get_revoke_cases hrow₂
        · rw [hrow₁] at hrow₃
          cases hrow₃
          exact absurd hopen hclosed
        · exact hthis
      · rw [hr]
        exact ⟨fun h => (by cases h), fun h => absurd h hnotDead⟩
      · rw [hr]
        exact fun h => by cases h
      · intro sid' h
        rw [hr, get_revoke, if_neg (hother h)]

end Chained

/-- **Which token ends a session**: in every state of a run and for every token presented, the session
it names, when that token is not the one expected of it. -/
theorem refresh_exact (hinj : Function.Injective cfg.hashToken) (users : Store Uuid Account)
    (clock : Time) (es : List Event) (token : Token) (now : Time) :
    RefreshExact cfg (run (step cfg) (start users clock) es) token now :=
  (chained hinj users clock es).refreshExact hinj token now

theorem refresh_exact_login :
    RefreshExact .standard (run (step .standard) (start [(7, ⟨true, none⟩)] 0) [⟨0, .login 7⟩])
      "0.a" 5 := refresh_exact Settings.standard_hash_injective _ _ _ _ _

/-- A secret that was never issued ends the session it is presented for. -/
theorem ended_by_forgery :
    issued (run (step .standard) (start [(7, ⟨true, none⟩)] 0) [⟨0, .login 7⟩]).log 0 =
      [("0.a", 0)] ∧
    (refresh .standard (run (step .standard) (start [(7, ⟨true, none⟩)] 0) [⟨0, .login 7⟩]).db
      "0.forged" 5).1.outcome = .reused ∧
    ((refresh .standard (run (step .standard) (start [(7, ⟨true, none⟩)] 0) [⟨0, .login 7⟩]).db
      "0.forged" 5).2.sessions.get 0).map (·.revokedAt) = some (some 5) := by
  decide +kernel

end Tiai.Session
