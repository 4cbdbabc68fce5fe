import Tiai.Lib.Runs
import Tiai.User.Credentials

/-!
# Guessing a password

How many wrong passwords are compared with the hash of an account before it is locked, its password is changed,
or a login succeeds, when logins overlap.

* `Bounded` — the law, on the history of the account;
* `Counts` — the counter of the row is not behind the guesses, unless one is still under way;
* `guesses_bounded` — the law holds in every run in which no two logins with a wrong password overlap;
* `not_guesses_bounded` — and not in every run.
-/

namespace Tiai.Credentials

open Lib

/-! ### The law -/

/-- An instant from which guesses are counted anew. -/
def Entry.isInstant : Entry → Bool
  | .locked | .opened _ _ | .changed _ => true
  | _ => false

/-- How many wrong passwords were compared. -/
def guesses (log : List Entry) : ℕ := log.count .guessed

/-- Between two instants, at most `LOGIN_MAX_FAILED_ATTEMPTS` wrong passwords are compared. -/
def Bounded (cfg : Config) (log : List Entry) : Prop :=
  ∀ later window earlier, log = later ++ window ++ earlier → (∀ e ∈ window, e.isInstant = false) →
    guesses window ≤ cfg.loginMaxFailedAttempts

/-- The password is compared with the hash, and is wrong. -/
def User.guess (cfg : Config) (user : User) (password : String) (now : Time) : Bool :=
  user.isActive && !user.lockedUntil.any (now < ·) && !cfg.verifyPassword password user.hashedPassword

/-- A login that compared a wrong password. -/
def Txn.isGuess : Txn → Bool
  | .login _ _ attempt _ _ => attempt = .wrong || attempt = .justLocked
  | _ => false

/-- A wrong password is compared only when no other login that compared one is under way. -/
def solitary (cfg : Config) (s : State) : Event → Bool
  | .request now (.login password) =>
    !s.tables.user.guess cfg password now || s.pending.all fun e => !e.2.isGuess
  | _ => true

/-! ### Histories -/

/-- The guesses since the last instant. -/
def recent (log : List Entry) : ℕ := guesses (log.takeWhile fun e => !e.isInstant)

section Histories

variable {cfg : Config} {e : Entry} {log : List Entry}

lemma recent_instant (h : e.isInstant = true) : recent (e :: log) = 0 := by
  unfold recent
  rw [List.takeWhile_cons_of_neg (by simp [h])]
  rfl

lemma recent_guessed : recent (.guessed :: log) = recent log + 1 := by
  unfold recent guesses
  rw [List.takeWhile_cons_of_pos rfl, List.count_cons_self]

lemma recent_other (h : e.isInstant = false) (hne : e ≠ .guessed) : recent (e :: log) = recent log := by
  unfold recent guesses
  rw [List.takeWhile_cons_of_pos (by simp [h]), List.count_cons_of_ne hne]

lemma guesses_le_recent (log : List Entry) {window : List Entry} (h : ∀ e ∈ window, e.isInstant = false) :
    guesses window ≤ recent (window ++ log) := by
  unfold recent guesses
  rw [List.takeWhile_append_of_pos (fun e he => by simp [h e he]), List.count_append]
  exact Nat.le_add_right _ _

lemma bounded_nil : Bounded cfg [] := by
  intro later window earlier hlog _
  obtain ⟨hboth, -⟩ := List.append_eq_nil_iff.1 hlog.symm
  obtain ⟨-, rfl⟩ := List.append_eq_nil_iff.1 hboth
  exact Nat.zero_le _

/-- A new entry matters for the windows that begin with it. -/
lemma Bounded.cons (h : Bounded cfg log) (hrecent : recent (e :: log) ≤ cfg.loginMaxFailedAttempts) :
    Bounded cfg (e :: log) := by
  intro later window earlier hlog hwindow
  cases later with
  | nil =>
    rw [List.nil_append] at hlog
    have hle := guesses_le_recent earlier hwindow
    rw [← hlog] at hle
    exact Nat.le_trans hle hrecent
  | cons x later =>
    rw [List.cons_append, List.cons_append, List.cons.injEq] at hlog
    exact h later window earlier hlog.2 hwindow

end Histories

/-! ### The counter -/

section Invariant

variable (cfg : Config)

/-- What a login under way knows of the guesses. -/
def Txn.Counted (log : List Entry) : Txn → Prop
  | .login read new attempt session _ =>
    match attempt with
    | .wrong => new.failedLoginAttempts = read.failedLoginAttempts + 1 ∧ recent log ≤ new.failedLoginAttempts ∧
        recent log < cfg.loginMaxFailedAttempts
    | .justLocked => recent log ≤ cfg.loginMaxFailedAttempts
    | _ => session ≠ none
  | _ => True

/-- The counter is not behind the guesses, unless the login that will write it is under way. -/
structure Counts (s : State) : Prop where
  pendingLt : ∀ n txn, s.pending.get n = some txn → n < s.next
  counted : ∀ n txn, s.pending.get n = some txn → txn.Counted cfg s.log
  alone : ∀ n m txn txn', s.pending.get n = some txn → s.pending.get m = some txn' → txn.isGuess = true →
    txn'.isGuess = true → n = m
  idle : (∀ n txn, s.pending.get n = some txn → txn.isGuess = false) →
    recent s.log ≤ s.tables.user.failedLoginAttempts ∧ recent s.log < cfg.loginMaxFailedAttempts
  bounded : Bounded cfg s.log

end Invariant

section Steps

variable {cfg : Config} {s : State} {n : ℕ} {txn : Txn}

lemma Txn.Counted.mono {log log' : List Entry} (h : txn.Counted cfg log) (hle : recent log' ≤ recent log) :
    txn.Counted cfg log' := by
  cases txn with
  | login read new attempt session seen =>
    cases attempt with
    | wrong =>
      obtain ⟨hnew, hcount, hmax⟩ := h
      exact ⟨hnew, Nat.le_trans hle hcount, Nat.lt_of_le_of_lt hle hmax⟩
    | justLocked => exact Nat.le_trans hle h
    | inactive | locked | valid => exact h
  | refresh | change | request => exact h

lemma Txn.Counted.of_not_guess {log log' : List Entry} (h : txn.Counted cfg log) (hguess : txn.isGuess = false) :
    txn.Counted cfg log' := by
  cases txn with
  | login read new attempt session seen =>
    cases attempt with
    | wrong | justLocked => cases hguess
    | inactive | locked | valid => exact h
  | refresh | change | request => exact h

/-- The recent guesses are never too many. -/
lemma Counts.recent_le (h : Counts cfg s) : recent s.log ≤ cfg.loginMaxFailedAttempts := by
  by_cases hidle : ∀ n txn, s.pending.get n = some txn → txn.isGuess = false
  · exact Nat.le_of_lt (h.idle hidle).2
  · simp only [not_forall, Bool.not_eq_false] at hidle
    obtain ⟨m, txn, hget, hguess⟩ := hidle
    have hcounted := h.counted m txn hget
    cases txn with
    | login read new attempt session seen =>
      cases attempt with
      | wrong => exact Nat.le_of_lt hcounted.2.2
      | justLocked => exact hcounted
      | inactive | locked | valid => cases hguess
    | refresh | change | request => cases hguess

/-- An entry that is neither an instant nor a guess. -/
lemma Counts.record (h : Counts cfg s) {e : Entry} (hinstant : e.isInstant = false) (hne : e ≠ .guessed) :
    Counts cfg { s with log := e :: s.log } := by
  have hrecent : recent (e :: s.log) = recent s.log := recent_other hinstant hne
  constructor
  case pendingLt => exact h.pendingLt
  case counted => exact fun m txn hget => (h.counted m txn hget).mono (Nat.le_of_eq hrecent)
  case alone => exact h.alone
  case idle =>
    intro hidle
    dsimp only
    rw [hrecent]
    exact h.idle hidle
  case bounded => exact h.bounded.cons (hrecent ▸ h.recent_le)

/-- An instant. -/
lemma Counts.instant (h : Counts cfg s) {e : Entry} (hinstant : e.isInstant = true) (tables : Tables) :
    Counts cfg { s with tables := tables, log := e :: s.log } := by
  have hrecent : recent (e :: s.log) = 0 := recent_instant hinstant
  constructor
  case pendingLt => exact h.pendingLt
  case counted =>
    intro m txn hget
    refine (h.counted m txn hget).mono ?_
    rw [hrecent]
    exact Nat.zero_le _
  case alone => exact h.alone
  case idle =>
    intro _
    dsimp only
    rw [hrecent]
    exact ⟨Nat.zero_le _, cfg.max_pos⟩
  case bounded =>
    refine h.bounded.cons ?_
    rw [hrecent]
    exact Nat.zero_le _

/-- A request other than a guess begins, or goes on. -/
lemma Counts.put (h : Counts cfg s) {next : ℕ} (hn : n < next) (hnext : s.next ≤ next)
    (hold : ∀ txn₀, s.pending.get n = some txn₀ → txn₀.isGuess = false) (hguess : txn.isGuess = false)
    (hcounted : txn.Counted cfg s.log) : Counts cfg { s with pending := s.pending.put n txn, next := next } := by
  constructor
  case pendingLt =>
    intro m txn' hget
    rw [get_put] at hget
    split at hget
    · rename_i hm
      exact hm ▸ hn
    · exact Nat.lt_of_lt_of_le (h.pendingLt m txn' hget) hnext
  case counted =>
    intro m txn' hget
    rw [get_put] at hget
    split at hget
    · obtain rfl := Option.some.inj hget
      exact hcounted
    · exact h.counted m txn' hget
  case alone =>
    -- The new one is no guess, so both were under way before.
    have hbefore : ∀ m txn', ({ s with pending := s.pending.put n txn, next := next } : State).pending.get m =
        some txn' → txn'.isGuess = true → s.pending.get m = some txn' := by
      intro m txn' hget hyes
      rw [get_put] at hget
      split at hget
      · obtain rfl := Option.some.inj hget
        rw [hguess] at hyes
        cases hyes
      · exact hget
    intro m m' txn₁ txn₂ h₁ h₂ hg₁ hg₂
    exact h.alone m m' txn₁ txn₂ (hbefore m txn₁ h₁ hg₁) (hbefore m' txn₂ h₂ hg₂) hg₁ hg₂
  case idle =>
    intro hidle
    refine h.idle fun m txn' hget => ?_
    by_cases hm : m = n
    · exact hold txn' (hm ▸ hget)
    · exact hidle m txn' (by rw [get_put, if_neg hm, hget])
  case bounded => exact h.bounded

lemma Counts.get_next (h : Counts cfg s) : s.pending.get s.next = none := by
  rw [Option.eq_none_iff_forall_ne_some]
  intro txn hget
  exact Nat.lt_irrefl _ (h.pendingLt _ txn hget)

lemma Counts.enter (h : Counts cfg s) (hguess : txn.isGuess = false) (hcounted : txn.Counted cfg s.log) :
    Counts cfg (s.enter txn []) := by
  refine h.put (Nat.lt_succ_self _) (Nat.le_succ _) (fun txn₀ hget => ?_) hguess hcounted
  rw [h.get_next] at hget
  cases hget

/-- A wrong password is compared, while no other comparison is under way. -/
lemma Counts.enterGuess (h : Counts cfg s) (hidle : ∀ m txn', s.pending.get m = some txn' → txn'.isGuess = false)
    (hguess : txn.isGuess = true) (hcounted : txn.Counted cfg (.guessed :: s.log)) :
    Counts cfg (s.enter txn [.guessed]) := by
  have hget : ∀ m, (s.enter txn [.guessed]).pending.get m = if m = s.next then some txn else s.pending.get m :=
    fun m => get_put txn (s.next + 1) m
  constructor
  case pendingLt =>
    intro m txn' hm
    rw [hget] at hm
    split at hm
    · rename_i heq
      exact heq ▸ Nat.lt_succ_self _
    · exact Nat.lt_succ_of_lt (h.pendingLt m txn' hm)
  case counted =>
    intro m txn' hm
    rw [hget] at hm
    split at hm
    · obtain rfl := Option.some.inj hm
      exact hcounted
    · exact (h.counted m txn' hm).of_not_guess (hidle m txn' hm)
  case alone =>
    have honly : ∀ m txn', (s.enter txn [.guessed]).pending.get m = some txn' → txn'.isGuess = true →
        m = s.next := by
      intro m txn' hm hyes
      rw [hget] at hm
      split at hm
      · assumption
      · rw [hidle m txn' hm] at hyes
        cases hyes
    intro m m' txn₁ txn₂ h₁ h₂ hg₁ hg₂
    rw [honly m txn₁ h₁ hg₁, honly m' txn₂ h₂ hg₂]
  case idle =>
    intro hall
    have hno := hall s.next txn (by rw [hget, if_pos rfl])
    rw [hguess] at hno
    cases hno
  case bounded =>
    refine h.bounded.cons ?_
    have hlt := (h.idle hidle).2
    rw [recent_guessed]
    omega

/-- Rows are written; the counter stays ahead of the guesses. -/
lemma Counts.written (h : Counts cfg s) (tables : Tables)
    (hidle : (∀ m txn', s.pending.get m = some txn' → txn'.isGuess = false) →
      recent s.log ≤ tables.user.failedLoginAttempts) : Counts cfg { s with tables := tables } where
  pendingLt := h.pendingLt
  counted := h.counted
  alone := h.alone
  idle hall := ⟨hidle hall, (h.idle hall).2⟩
  bounded := h.bounded

/-- The request `n` ends. -/
lemma Counts.leave (h : Counts cfg s) (n : ℕ)
    (hidle : (∀ m txn', m ≠ n → s.pending.get m = some txn' → txn'.isGuess = false) →
      recent s.log ≤ s.tables.user.failedLoginAttempts ∧ recent s.log < cfg.loginMaxFailedAttempts) :
    Counts cfg (s.leave n s.tables []) := by
  have hbefore : ∀ {m txn'}, (s.leave n s.tables []).pending.get m = some txn' → s.pending.get m = some txn' := by
    intro m txn' hm
    rw [get_leave] at hm
    split at hm
    · cases hm
    · exact hm
  constructor
  case pendingLt => exact fun m txn' hm => h.pendingLt m txn' (hbefore hm)
  case counted => exact fun m txn' hm => h.counted m txn' (hbefore hm)
  case alone => exact fun m m' txn₁ txn₂ h₁ h₂ => h.alone m m' txn₁ txn₂ (hbefore h₁) (hbefore h₂)
  case idle =>
    intro hall
    refine hidle fun m txn' hne hget => hall m txn' ?_
    rw [get_leave, if_neg hne, hget]
  case bounded => exact h.bounded

/-- A request other than a guess ends. -/
lemma Counts.leaveOther (h : Counts cfg s) (hget : s.pending.get n = some txn) (hguess : txn.isGuess = false) :
    Counts cfg (s.leave n s.tables []) := by
  refine h.leave n fun hothers => h.idle fun m txn' hm => ?_
  by_cases hne : m = n
  · rw [hne, hget] at hm
    exact Option.some.inj hm ▸ hguess
  · exact hothers m txn' hne hm

/-- A request ends with an instant. -/
lemma Counts.leaveInstant (h : Counts cfg s) (n : ℕ) {e : Entry} (hinstant : e.isInstant = true) (tables : Tables) :
    Counts cfg (s.leave n tables [e]) := by
  have hrecent : recent (e :: s.log) = 0 := recent_instant hinstant
  refine (h.instant hinstant tables).leave n fun _ => ?_
  dsimp only
  rw [hrecent]
  exact ⟨Nat.zero_le _, cfg.max_pos⟩

/-! ### Every step -/

/-- What `authenticate` makes of a password, by whether it compares a wrong one. -/
lemma authenticate_cases (cfg : Config) (user : User) (password : String) (now : Time) :
    authenticate cfg user password now = (.inactive, user) ∨ authenticate cfg user password now = (.locked, user) ∨
      (∃ new, authenticate cfg user password now = (.valid, new)) ∨
      user.guess cfg password now = true ∧
        ((∃ new, authenticate cfg user password now = (.justLocked, new)) ∨
          ∃ new, authenticate cfg user password now = (.wrong, new) ∧
            new.failedLoginAttempts = user.failedLoginAttempts + 1 ∧
            new.failedLoginAttempts < cfg.loginMaxFailedAttempts) := by
  unfold authenticate
  by_cases hactive : user.isActive = false
  · exact .inl (if_pos hactive)
  rw [if_neg hactive]
  by_cases hlocked : user.lockedUntil.any (now < ·) = true
  · exact .inr (.inl (if_pos hlocked))
  rw [if_neg hlocked]
  by_cases hwrong : cfg.verifyPassword password user.hashedPassword = false
  · rw [if_pos hwrong]
    have hguess : user.guess cfg password now = true := by
      rw [Bool.not_eq_false] at hactive
      rw [Bool.not_eq_true] at hlocked
      rw [User.guess, hactive, hlocked, hwrong]
      rfl
    refine .inr (.inr (.inr ⟨hguess, ?_⟩))
    dsimp only
    split
    · exact .inl ⟨_, rfl⟩
    · rename_i hmax
      exact .inr ⟨_, rfl, rfl, Nat.lt_of_not_le hmax⟩
  · rw [if_neg hwrong]
    refine .inr (.inr (.inl ?_))
    split
    · exact ⟨_, rfl⟩
    · exact ⟨_, rfl⟩

lemma Counts.beginLogin (h : Counts cfg s) {password : String} {now : Time}
    (hsolitary : solitary cfg s (.request now (.login password)) = true) :
    Counts cfg (beginLogin cfg s password now) := by
  unfold Credentials.beginLogin
  dsimp only
  rcases authenticate_cases cfg s.tables.user password now with
    heq | heq | ⟨new, heq⟩ | ⟨hguess, hwrong⟩
  · rw [heq]
    exact h
  · rw [heq]
    exact h
  · rw [heq]
    exact h.enter rfl nofun
  · have hidle : ∀ m txn', s.pending.get m = some txn' → txn'.isGuess = false := by
      intro m txn' hget
      simp only [solitary, hguess, Bool.not_true, Bool.false_or, List.all_eq_true] at hsolitary
      simpa using hsolitary (m, txn') (Store.mem_of_get hget)
    obtain ⟨hcount, hlt⟩ := h.idle hidle
    rcases hwrong with ⟨new, heq⟩ | ⟨new, heq, hnew, hmax⟩
    · rw [heq]
      refine h.enterGuess hidle rfl ?_
      show recent (.guessed :: s.log) ≤ _
      rw [recent_guessed]
      exact hlt
    · rw [heq]
      refine h.enterGuess hidle rfl ⟨hnew, ?_, ?_⟩
      · rw [recent_guessed]
        omega
      · rw [recent_guessed]
        omega

lemma Counts.beginRefresh (h : Counts cfg s) (cookie : Token) (now : Time) :
    Counts cfg (beginRefresh cfg s cookie now) := by
  unfold Credentials.beginRefresh
  dsimp only
  split
  · exact h
  split
  · exact h
  split
  · exact h.enter rfl trivial
  split
  · exact h.enter rfl trivial
  · exact h.enter rfl trivial

lemma Counts.beginChange (h : Counts cfg s) (link : Option Uuid) (newPassword : String) (now : Time) :
    Counts cfg (beginChange cfg s link newPassword now []) :=
  h.enter rfl trivial

lemma Counts.request (h : Counts cfg s) (now : Time) (action : Action)
    (hsolitary : solitary cfg s (.request now action) = true) : Counts cfg (request cfg s now action) := by
  cases action with
  | login password => exact h.beginLogin hsolitary
  | refresh cookie => exact h.beginRefresh cookie now
  | requestReset =>
    unfold Credentials.request
    dsimp only
    split
    · exact h.enter rfl trivial
    · exact h
  | confirmReset token newPassword =>
    unfold Credentials.request
    dsimp only
    split
    · exact h
    · exact h.beginChange _ _ _
  | changePassword bearer currentPassword newPassword =>
    unfold Credentials.request
    dsimp only
    split
    · exact h
    · rename_i sid _
      have hrecorded : Counts cfg { s with log := .accepted sid :: s.log } := h.record rfl nofun
      split
      · exact hrecorded.beginChange none newPassword now
      · exact hrecorded
  | resetPassword newPassword => exact h.beginChange _ _ _

lemma Counts.revoke (h : Counts cfg s) (n : ℕ) (now : Time) : Counts cfg (revoke s n now) := by
  unfold Credentials.revoke
  split
  · rename_i read new link begun hget
    dsimp only
    split
    · exact h
    · refine h.put (show n < s.next from h.pendingLt n _ hget) (Nat.le_refl _) (fun txn₀ hget₀ => ?_) rfl trivial
      rw [hget] at hget₀
      exact Option.some.inj hget₀ ▸ rfl
  · exact h

lemma Counts.commit (h : Counts cfg s) (n : ℕ) : Counts cfg (commit s n) := by
  unfold Credentials.commit
  dsimp only
  cases hget : s.pending.get n with
  | none => exact h
  | some txn =>
    have hcounted := h.counted n txn hget
    cases txn with
    | login read new attempt session seen =>
      cases session with
      | some session => exact h.leaveInstant n rfl _
      | none =>
        cases attempt with
        | justLocked => exact h.leaveInstant n rfl _
        | inactive | locked | valid => exact absurd rfl hcounted
        | wrong =>
          obtain ⟨hnew, hcount, hlt⟩ := hcounted
          have hwritten : Counts cfg { s with
              tables := { s.tables with user := userWriteBack read new s.tables.user } } :=
            h.written _ fun hall => nomatch hall n _ hget
          refine hwritten.leave n fun _ => ⟨?_, hlt⟩
          have hcounter : (userWriteBack read new s.tables.user).failedLoginAttempts = new.failedLoginAttempts :=
            writeBack_of_ne (by omega) _
          exact hcounter ▸ hcount
    | refresh sid row accepted =>
      have hwritten : Counts cfg { s with
          tables := { s.tables with sessions := s.tables.sessions.put sid row } } :=
        h.written _ fun hall => (h.idle hall).1
      have hleft := hwritten.leaveOther hget rfl
      dsimp only
      split
      · exact hleft.record rfl nofun
      · exact hleft
    | change read new link begun revocation =>
      cases revocation with
      | none => exact h
      | some r =>
        dsimp only
        split
        · exact h.leaveInstant n rfl _
        · exact h.leaveOther hget rfl
    | request token dropped mailed =>
      have hwritten : Counts cfg { s with
          tables := { s.tables with tokens := s.tables.tokens.filter (·.id ∉ dropped) ++ [token] } } :=
        h.written _ fun hall => (h.idle hall).1
      exact (hwritten.leaveOther hget rfl).record rfl nofun

theorem Counts.step (e : Event) (hsolitary : solitary cfg s e = true) (h : Counts cfg s) :
    Counts cfg (step cfg s e) := by
  cases e with
  | request now action => exact h.request now action hsolitary
  | revoke n now => exact h.revoke n now
  | commit n => exact h.commit n
  | guarded bearer now =>
    unfold Credentials.step
    dsimp only
    split
    · exact h
    · exact h.record rfl nofun

lemma Counts.start (user : User) : Counts cfg (start user) where
  pendingLt _ _ hget := nomatch hget
  counted _ _ hget := nomatch hget
  alone _ _ _ _ hget := nomatch hget
  idle _ := ⟨Nat.zero_le _, cfg.max_pos⟩
  bounded := bounded_nil

end Steps

/-- **Guessing is bounded** in every run in which a wrong password is compared only when no other comparison of
one is under way. -/
theorem guesses_bounded (cfg : Config) (user : User) (events : List Event)
    (hsolitary : Guarded (step cfg) (fun s e => solitary cfg s e = true) (start user) events) :
    Bounded cfg (run (step cfg) (start user) events).log :=
  (hsolitary.invariant (fun _ e h hinv => hinv.step e h) (Counts.start user)).bounded

/-- Five wrong passwords, one after the other: the account is locked, and the right one is not compared until the
lock is over. -/
theorem guesses_bounded_oneByOne :
    let events : List Event :=
      [.request 0 (.login "a"), .commit 0, .request 0 (.login "b"), .commit 1, .request 0 (.login "c"), .commit 2,
        .request 0 (.login "d"), .commit 3, .request 0 (.login "e"), .commit 4, .request 0 (.login "f"),
        .request (minutes 15) (.login "old"), .commit 5]
    (run (step .standard) (start (account "old")) events).log =
        [.opened 5 0, .locked, .guessed, .guessed, .guessed, .guessed, .guessed] ∧
      Bounded .standard (run (step .standard) (start (account "old")) events).log :=
  ⟨by decide, guesses_bounded _ _ _ (by decide)⟩

/-- Six logins overlap between two that succeed: six wrong passwords are compared. -/
theorem not_guesses_bounded :
    ¬Bounded .standard (run (step .standard) (start (account "old"))
      [.request 0 (.login "old"), .commit 0, .request 1 (.login "a"), .request 1 (.login "b"),
        .request 1 (.login "c"), .request 1 (.login "d"), .request 1 (.login "e"), .request 1 (.login "f"),
        .commit 1, .commit 2, .commit 3, .commit 4, .commit 5, .commit 6,
        .request 2 (.login "old"), .commit 7]).log := by
  intro h
  have hwindow : guesses [.guessed, .guessed, .guessed, .guessed, .guessed, .guessed] ≤ 5 :=
    h [.opened 7 0] _ [.opened 0 0] (by decide) (by decide)
  exact absurd hwindow (by decide)

end Tiai.Credentials
