import Mathlib
import Tiai.Lib.Upsert
import Tiai.Lists.Tasks

/-!
# Who is sent the digest

`send_daily_digest` (`features/notification/digest.py`).  The digest of a scope is built once a morning, for the first
account that has it; each is built at an instant of its own.

* `chooseStep`, `sendDailyDigest` — the loop with its dictionary of digests, and the mails;
* `Memo` — the dictionary holds digests of its scopes;
* `chosen_eq` — the loop chooses as if each account's digest were built for it;
* `digests_mailed` — who is sent a digest, of which part of the parc, and on which mornings.
-/

namespace Tiai.Lists.Cards

open Lib

variable (cfg : Config) (env : Confined.Env) {text : Text} (m : Morning text)

/-- `digests` and `chosen`. -/
structure Round where
  digests : List (Option Scope × Digest)
  chosen : List (User × Digest)

/-- The accounts on either cadence, by address. -/
def subscribers : List User :=
  let wantsDaily := ThreatAlert.usersFor cfg.toConfig m.accounts [.digestDaily]
  let wantsEvents := ThreatAlert.usersFor cfg.toConfig m.accounts [.digestEvents]
  Sql.orderBy (fun u v => Ord.compare u.email v.email) ((wantsDaily ++ wantsEvents).foldl (upsert User.id) [])

variable (answers : Option Scope → Time → Answers) (clock : ℕ → Time)

/-- The digest of a scope, at an instant. -/
def digestAt (scope : Option Scope) (now : Time) : Digest :=
  buildDigest m.fleet scope cfg m.settings (answers scope now) now

/-- `if scope not in digests`: the clock is read at each build. -/
def remember (digests : List (Option Scope × Digest)) (scope : Option Scope) : List (Option Scope × Digest) :=
  if (digests.lookup scope).isSome then digests
  else digests ++ [(scope, digestAt cfg m answers scope (clock digests.length))]

/-- One account. -/
def chooseStep (round : Round) (u : User) : Round :=
  let scope := userScope m.accounts u.id
  let digests := remember cfg m answers clock round.digests scope
  match digests.lookup scope with
  | some digest =>
    if u.emailPreference = .digestEvents && !digest.hasEvents then ⟨digests, round.chosen⟩
    else ⟨digests, round.chosen ++ [(u, digest)]⟩
  | none => ⟨digests, round.chosen⟩

/-- The mail of an account: the digest, and what is its own. -/
def digestMail (u : User) (digest : Digest) : Mail :=
  let (subject, body) := renderDigest cfg digest
  let personal := personalBlock cfg m.fleet u.id env digest.generatedAt
  ⟨u.email, subject, if personal = [] then body else body ++ "\n\n" ++ "\n".intercalate personal⟩

/-- `send_daily_digest`. -/
def sendDailyDigest : List Mail :=
  let round := (subscribers cfg m).foldl (chooseStep cfg m answers clock) ⟨[], []⟩
  if round.chosen = [] then [] else
  if !m.enabled then [] else
  round.chosen.filterMap fun chosen => queueEmail m.current (digestMail cfg env m chosen.1 chosen.2)

/-! ### The accounts -/

variable {cfg env m answers clock}

lemma mem_usersFor {preference : EmailPreference} {u : User} :
    u ∈ ThreatAlert.usersFor cfg.toConfig m.accounts [preference] ↔
      u ∈ m.accounts.users ∧ u.isActive = true ∧ u.emailPreference = preference := by
  rw [ThreatAlert.usersFor, if_neg (by simp), Sql.orderBy, List.mem_mergeSort, List.mem_filter]
  simp

lemma mem_subscribers {u : User} : u ∈ subscribers cfg m ↔ u ∈ m.accounts.users ∧ u.isActive = true ∧
    (u.emailPreference = .digestDaily ∨ u.emailPreference = .digestEvents) := by
  have hboth : u ∈ ThreatAlert.usersFor cfg.toConfig m.accounts [.digestDaily] ++
      ThreatAlert.usersFor cfg.toConfig m.accounts [.digestEvents] ↔ u ∈ m.accounts.users ∧ u.isActive = true ∧
        (u.emailPreference = .digestDaily ∨ u.emailPreference = .digestEvents) := by
    rw [List.mem_append, mem_usersFor, mem_usersFor]
    tauto
  rw [← hboth, subscribers, Sql.orderBy, List.mem_mergeSort]
  generalize hrows : ThreatAlert.usersFor cfg.toConfig m.accounts [.digestDaily] ++
    ThreatAlert.usersFor cfg.toConfig m.accounts [.digestEvents] = rows
  constructor
  · intro hu
    exact (mem_of_mem_foldl_upsert hu).resolve_right List.not_mem_nil
  · intro hu
    -- the last account of an id is the account
    have hfound : rowOf User.id (rows.foldl (upsert User.id) []) u.id = _ := rowOf_foldl_upsert rows
    have hmem : u ∈ rows.filter fun v => v.id = u.id := List.mem_filter.2 ⟨hu, decide_eq_true rfl⟩
    obtain ⟨v, hv⟩ := Option.isSome_iff_exists.1 (List.getLast?_isSome.2 (List.ne_nil_of_mem hmem))
    obtain ⟨hvrows, hid⟩ := List.mem_filter.1 (List.mem_of_getLast? hv)
    have hall : ∀ w ∈ rows, w ∈ m.accounts.users := by
      intro w hw
      rw [← hrows, List.mem_append, mem_usersFor, mem_usersFor] at hw
      exact hw.elim And.left And.left
    obtain rfl : v = u := List.inj_on_of_nodup_map m.userIds (hall v hvrows) (hall u hu) (of_decide_eq_true hid)
    rw [hv, Option.some_or] at hfound
    exact mem_of_rowOf hfound

lemma nodup_subscribers : ((subscribers cfg m).map User.email).Nodup := by
  have hids : (((ThreatAlert.usersFor cfg.toConfig m.accounts [.digestDaily] ++
      ThreatAlert.usersFor cfg.toConfig m.accounts [.digestEvents]).foldl (upsert User.id) []).map User.id).Nodup :=
    nodup_foldl_upsert _ List.nodup_nil
  have hperm : (subscribers cfg m).Perm ((ThreatAlert.usersFor cfg.toConfig m.accounts [.digestDaily] ++
      ThreatAlert.usersFor cfg.toConfig m.accounts [.digestEvents]).foldl (upsert User.id) []) :=
    List.mergeSort_perm _ _
  refine List.Nodup.map_on (fun u hu v hv hemail => ?_) (hperm.nodup_iff.2 (List.Nodup.of_map _ hids))
  exact List.inj_on_of_nodup_map m.emails (mem_subscribers.1 hu).1 (mem_subscribers.1 hv).1 hemail

/-! ### The dictionary of digests -/

/-- What an account is sent, of the digest of its scope. -/
def choose (u : User) (digest : Digest) : Option (User × Digest) :=
  if u.emailPreference = .digestEvents && !digest.hasEvents then none else some (u, digest)

variable (cfg m answers clock) in
/-- After some accounts: each digest is of its scope, at some instant, and each account has had the one of its own. -/
structure Memo (done : List User) (round : Round) : Prop where
  built : ∀ scope digest, round.digests.lookup scope = some digest →
    ∃ k, digest = digestAt cfg m answers scope (clock k)
  covered : ∀ u ∈ done, (round.digests.lookup (userScope m.accounts u.id)).isSome = true
  chosen : round.chosen = done.filterMap fun u =>
    (round.digests.lookup (userScope m.accounts u.id)).bind (choose u)

lemma memo_nil : Memo cfg m answers clock [] ⟨[], []⟩ :=
  ⟨fun _ _ hnone => (nomatch hnone), fun _ hu => absurd hu List.not_mem_nil, rfl⟩

/-- What the dictionary has is kept. -/
lemma lookup_remember {digests : List (Option Scope × Digest)} {scope scope' : Option Scope} :
    (remember cfg m answers clock digests scope).lookup scope' = (digests.lookup scope').or
      (if scope' = scope then some (digestAt cfg m answers scope (clock digests.length)) else none) := by
  unfold remember
  cases hlookup : digests.lookup scope with
  | some d =>
    rw [if_pos Option.isSome_some]
    by_cases hscope : scope' = scope
    · rw [hscope, hlookup, Option.some_or]
    · rw [if_neg hscope, Option.or_none]
  | none =>
    rw [if_neg (by simp), List.lookup_append]
    congr 1
    rw [List.lookup_cons]
    by_cases hscope : scope' = scope
    · rw [if_pos hscope, beq_iff_eq.2 hscope]
    · rw [if_neg hscope, beq_eq_false_iff_ne.2 hscope]
      rfl

lemma Memo.step {done : List User} {round : Round} (h : Memo cfg m answers clock done round) (u : User) :
    Memo cfg m answers clock (done ++ [u]) (chooseStep cfg m answers clock round u) := by
  obtain ⟨digest, hdigest⟩ : ∃ digest, (remember cfg m answers clock round.digests (userScope m.accounts u.id)).lookup
      (userScope m.accounts u.id) = some digest := by
    rw [lookup_remember, if_pos rfl, ← Option.isSome_iff_exists, Option.isSome_or]
    simp
  have hkept (scope : Option Scope) (d : Digest) (hd : round.digests.lookup scope = some d) :
      (remember cfg m answers clock round.digests (userScope m.accounts u.id)).lookup scope = some d := by
    rw [lookup_remember, hd, Option.some_or]
  have hstep : chooseStep cfg m answers clock round u =
      ⟨remember cfg m answers clock round.digests (userScope m.accounts u.id),
        round.chosen ++ (choose u digest).toList⟩ := by
    unfold chooseStep choose
    dsimp only
    rw [hdigest]
    dsimp only
    split <;> simp
  rw [hstep]
  refine ⟨fun scope d hd => ?_, fun v hv => ?_, ?_⟩
  · rw [lookup_remember] at hd
    cases hold : round.digests.lookup scope with
    | some d' =>
      rw [hold] at hd
      cases hd
      exact h.built scope _ hold
    | none =>
      rw [hold, Option.none_or] at hd
      split_ifs at hd with hscope
      cases hd
      exact ⟨_, by rw [hscope]⟩
  · rcases List.mem_append.1 hv with hv | hv
    · obtain ⟨d, hd⟩ := Option.isSome_iff_exists.1 (h.covered v hv)
      rw [hkept _ d hd]
      rfl
    · rw [List.mem_singleton.1 hv, hdigest]
      rfl
  · dsimp only
    rw [List.filterMap_append, h.chosen]
    congr 1
    · refine List.filterMap_congr fun v hv => ?_
      obtain ⟨d, hd⟩ := Option.isSome_iff_exists.1 (h.covered v hv)
      rw [hd, hkept _ d hd]
    · cases hchoose : choose u digest <;> simp [hdigest, hchoose]

lemma Memo.run {done users : List User} {round : Round} (h : Memo cfg m answers clock done round) :
    Memo cfg m answers clock (done ++ users) (users.foldl (chooseStep cfg m answers clock) round) := by
  induction users generalizing done round with
  | nil =>
    rw [List.append_nil]
    exact h
  | cons u users ih =>
    rw [List.foldl_cons, ← List.singleton_append, ← List.append_assoc]
    exact ih (h.step u)

/-- **One digest for a scope is one for each account of it**, at the instant when it was built. -/
theorem chosen_eq (users : List User) : ∃ instant : Option Scope → Time, (∀ scope, ∃ k, instant scope = clock k) ∧
    (users.foldl (chooseStep cfg m answers clock) ⟨[], []⟩).chosen = users.filterMap fun u =>
      choose u (digestAt cfg m answers (userScope m.accounts u.id) (instant (userScope m.accounts u.id))) := by
  have hmemo : Memo cfg m answers clock ([] ++ users) (users.foldl (chooseStep cfg m answers clock) ⟨[], []⟩) :=
    memo_nil.run
  rw [List.nil_append] at hmemo
  generalize users.foldl (chooseStep cfg m answers clock) ⟨[], []⟩ = round at hmemo ⊢
  have hinstant (scope : Option Scope) : ∃ now, (∃ k, now = clock k) ∧ ∀ digest,
      round.digests.lookup scope = some digest → digest = digestAt cfg m answers scope now := by
    cases hlookup : round.digests.lookup scope with
    | none => exact ⟨clock 0, ⟨0, rfl⟩, fun _ hsome => nomatch hsome⟩
    | some digest =>
      obtain ⟨k, hk⟩ := hmemo.built scope digest hlookup
      exact ⟨clock k, ⟨k, rfl⟩, fun _ hsome => Option.some.inj hsome ▸ hk⟩
  choose instant hclock hdigest using hinstant
  refine ⟨instant, hclock, hmemo.chosen.trans (List.filterMap_congr fun u hu => ?_)⟩
  obtain ⟨d, hd⟩ := Option.isSome_iff_exists.1 (hmemo.covered u hu)
  rw [hd, Option.bind_some, hdigest _ d hd]

/-! ### Who is sent a digest -/

variable (cfg m answers) in
/-- What an account reads, when digests are built at those instants. -/
def readBy (instant : Option Scope → Time) (u : User) : Digest :=
  digestAt cfg m answers (userScope m.accounts u.id) (instant (userScope m.accounts u.id))

lemma choose_eq_some {u : User} {digest : Digest} {chosen : User × Digest} : choose u digest = some chosen ↔
    (u.emailPreference = .digestEvents → digest.hasEvents = true) ∧ (u, digest) = chosen := by
  unfold choose
  by_cases hevents : u.emailPreference = .digestEvents
  · cases hdigest : digest.hasEvents <;> simp [hevents]
  · simp [hevents]

section Mailed

variable {instant : Option Scope → Time}
  (hchosen : ((subscribers cfg m).foldl (chooseStep cfg m answers clock) ⟨[], []⟩).chosen =
    (subscribers cfg m).filterMap fun u => choose u (readBy cfg m answers instant u))

include hchosen

/-- The mails, with one digest built for each account. -/
lemma sendDailyDigest_eq : sendDailyDigest cfg env m answers clock = if !m.enabled then [] else
    (subscribers cfg m).filterMap fun u => (choose u (readBy cfg m answers instant u)).bind fun chosen =>
      queueEmail m.current (digestMail cfg env m chosen.1 chosen.2) := by
  unfold sendDailyDigest
  dsimp only
  rw [hchosen, ← List.filterMap_filterMap]
  by_cases hnone : ((subscribers cfg m).filterMap fun u => choose u (readBy cfg m answers instant u)) = []
  · rw [if_pos hnone, hnone]
    simp
  · rw [if_neg hnone]

lemma mem_sendDailyDigest {mail : Mail} : mail ∈ sendDailyDigest cfg env m answers clock ↔
    m.enabled = true ∧ ∃ u ∈ m.accounts.users, u.isActive = true ∧
      (u.emailPreference = .digestDaily ∨ u.emailPreference = .digestEvents ∧
        (readBy cfg m answers instant u).hasEvents = true) ∧
      digestMail cfg env m u (readBy cfg m answers instant u) = mail ∧ m.current = true ∧ u.email ≠ "" := by
  rw [sendDailyDigest_eq hchosen]
  cases m.enabled with
  | false => simp
  | true =>
    rw [if_neg (by simp), List.mem_filterMap, and_iff_right rfl]
    refine exists_congr fun u => ?_
    rw [mem_subscribers, and_assoc, and_assoc]
    refine and_congr_right fun _ => and_congr_right fun _ => ?_
    simp only [Option.bind_eq_some_iff, choose_eq_some, queueEmail_eq_some]
    constructor
    · rintro ⟨hcadence, _, ⟨hhas, rfl⟩, hmail⟩
      exact ⟨hcadence.imp_right fun h => ⟨h, hhas h⟩, hmail⟩
    · rintro ⟨hcadence, hmail⟩
      refine ⟨hcadence.imp_right And.left, _, ⟨fun h => ?_, rfl⟩, hmail⟩
      exact hcadence.elim (fun hdaily => absurd (h.symm.trans hdaily) (by decide)) And.right

lemma nodup_sendDailyDigest : ((sendDailyDigest cfg env m answers clock).map Mail.toAddress).Nodup := by
  rw [sendDailyDigest_eq hchosen]
  split
  · exact List.nodup_nil
  · refine nodup_addresses nodup_subscribers fun u mail hmail => ?_
    obtain ⟨chosen, hchoose, hmail⟩ := Option.bind_eq_some_iff.1 hmail
    obtain ⟨-, rfl⟩ := choose_eq_some.1 hchoose
    rw [← (queueEmail_eq_some.1 hmail).1]
    rfl

end Mailed

/-- **Who is sent the digest.**  The active accounts on the daily cadence, and those on the other whose part of the parc
has something to act on when their digest is built; one mail for an address, and the digest of the account's own
scope. -/
theorem digests_mailed
    (hlegit : ∀ scope now, (answers scope now).Legit m.fleet scope now m.settings.inactiveAfterDays) :
    ((sendDailyDigest cfg env m answers clock).map Mail.toAddress).Nodup ∧
      ∃ instant : Option Scope → Time, (∀ scope, ∃ k, instant scope = clock k) ∧
        (∀ address, address ∈ (sendDailyDigest cfg env m answers clock).map Mail.toAddress ↔
          address ≠ "" ∧ m.enabled = true ∧ m.current = true ∧
            ∃ u ∈ m.accounts.users, u.email = address ∧ u.isActive = true ∧
              (u.emailPreference = .digestDaily ∨ u.emailPreference = .digestEvents ∧
                Eventful m.fleet (userScope m.accounts u.id) cfg.threatAlertMaxAgeHours
                  (instant (userScope m.accounts u.id)))) ∧
        ∀ mail ∈ sendDailyDigest cfg env m answers clock, ∃ u ∈ m.accounts.users,
          mail = digestMail cfg env m u (digestAt cfg m answers (userScope m.accounts u.id)
            (instant (userScope m.accounts u.id))) := by
  obtain ⟨instant, hclock, hchosen⟩ : ∃ instant : Option Scope → Time, (∀ scope, ∃ k, instant scope = clock k) ∧
      ((subscribers cfg m).foldl (chooseStep cfg m answers clock) ⟨[], []⟩).chosen =
        (subscribers cfg m).filterMap fun u => choose u (readBy cfg m answers instant u) := chosen_eq _
  have hevents (u : User) : (readBy cfg m answers instant u).hasEvents = true ↔ Eventful m.fleet
      (userScope m.accounts u.id) cfg.threatAlertMaxAgeHours (instant (userScope m.accounts u.id)) :=
    hasEvents_iff (hlegit _ _)
  refine ⟨nodup_sendDailyDigest hchosen, instant, hclock, fun address => ?_, fun mail hmail => ?_⟩
  · simp only [List.mem_map, mem_sendDailyDigest hchosen, ← hevents]
    constructor
    · rintro ⟨mail, ⟨henabled, u, hu, hactive, hcadence, rfl, hcurrent, haddress⟩, rfl⟩
      exact ⟨haddress, henabled, hcurrent, u, hu, rfl, hactive, hcadence⟩
    · rintro ⟨haddress, henabled, hcurrent, u, hu, rfl, hactive, hcadence⟩
      exact ⟨_, ⟨henabled, u, hu, hactive, hcadence, rfl, hcurrent, haddress⟩, rfl⟩
  · obtain ⟨-, u, hu, -, -, rfl, -, -⟩ := (mem_sendDailyDigest hchosen).1 hmail
    exact ⟨u, hu, rfl⟩

/-- A morning after a threat was detected and removed. -/
def threatMorning : Morning plainText where
  fleet := removedThreat
  accounts := (ThreatAlert.oneAccount .digestEvents).accounts
  settings := fifteenPercent
  enabled := true
  current := true
  userIds := List.nodup_singleton _
  emails := List.nodup_singleton _

lemma noAnswers_legit (scope : Option Scope) (now : Time) :
    noAnswers.Legit threatMorning.fleet scope now threatMorning.settings.inactiveAfterDays := by
  have hthreats : activeThreats removedThreat scope = [] := by
    have hrows : Sql.select (fun row : Machine × Merge.Threat => active row.2) (Sql.join
        (fun m x => Sql.eq (some x.machineId) (some m.id)) removedThreat.threats removedThreat.machines) = [] := by
      decide +kernel
    rw [activeThreats, perMachine, hrows]
    rfl
  have houtdated : outdatedMachines removedThreat scope now fifteenPercent.inactiveAfterDays = [] :=
    List.filter_eq_nil_iff.2 fun _ _ => Bool.false_ne_true
  refine ⟨⟨?_, .nil⟩, ⟨.refl _, .nil⟩, ⟨?_, .nil⟩⟩
  · change List.Perm [] (activeThreats removedThreat scope)
    rw [hthreats]
  · change List.Perm [] (outdatedMachines removedThreat scope now fifteenPercent.inactiveAfterDays)
    rw [houtdated]

/-- A detection that was dealt with is an event. -/
theorem digests_mailed_removed :
    "ops@example.org" ∈ (sendDailyDigest digestConfig Confined.asciiEnv threatMorning (fun _ _ => noAnswers)
      fun _ => 0).map Mail.toAddress := by
  obtain ⟨-, instant, hclock, hsent, -⟩ :=
    @digests_mailed digestConfig Confined.asciiEnv _ threatMorning (fun _ _ => noAnswers) (fun _ => 0) noAnswers_legit
  have hinstant (scope : Option Scope) : instant scope = 0 := (hclock scope).elim fun _ h => h
  refine (hsent _).2 ⟨by decide, rfl, rfl, _, List.mem_singleton_self _, rfl, rfl, .inr ⟨rfl, ?_⟩⟩
  rw [hinstant]
  refine ⟨posteFree 2 500, List.mem_cons_of_mem _ (List.mem_singleton_self _), by decide +kernel, ?_⟩
  exact .inr (.inr (.inr ⟨_, List.mem_singleton_self _, rfl, 0, rfl, by decide⟩))

end Tiai.Lists.Cards
