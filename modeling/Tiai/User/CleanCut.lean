import Tiai.Lib.Runs
import Tiai.Session.Rows
import Tiai.User.Credentials

/-!
# Changing a credential

What a change of the password cuts off, in every interleaving in which no commit finds that it was overtaken
since its read (`undisturbed`).

* `CleanCut` — the law, on the history of the account;
* `Txn.Holds`, `Inv` — what stays true of a request under way, and of a state;
* `clean_cut` — the law holds in every such run;
* `not_clean_cut` — and not in every run.
-/

namespace Tiai.Credentials

open Lib
open Session (AuthSession)

/-! ### The law -/

/-- What an entry says of the history before it.  A session that is accepted was opened with the password in
force; a link that sets a password has set none, and is the last one mailed. -/
def Clean (e : Entry) (earlier : List Entry) : Prop :=
  match e with
  | .accepted sid => ∀ v, Entry.opened sid v ∈ earlier → v = changes earlier
  | .changed (some link) => Entry.changed (some link) ∉ earlier ∧ (links earlier).head? = some link
  | _ => True

/-- The law, at every point of the history. -/
def CleanCut (log : List Entry) : Prop := ∀ later e earlier, log = later ++ e :: earlier → Clean e earlier

/-- The commit finds its ground as the request left it: for a login, no password changed since its read; for a
change, no login since its statements, and its link unused; for a request, no other link mailed. -/
def Txn.undisturbed (s : State) : Txn → Bool
  | .login _ _ _ (some _) seen => seen = changes s.log
  | .change _ _ link _ (some r) =>
    r.logins = logins s.log && s.tables.tokens.all fun row => link ≠ some row.id || row.usedAt.isNone
  | .request _ _ mailed => mailed = (links s.log).length
  | _ => true

def undisturbed (s : State) : Event → Bool
  | .commit n => (s.pending.get n).all (·.undisturbed s)
  | _ => true

/-! ### Histories -/

section Histories

variable {e : Entry} {log : List Entry} {sid : Uuid}

lemma cleanCut_cons : CleanCut (e :: log) ↔ Clean e log ∧ CleanCut log := by
  constructor
  · intro h
    refine ⟨h [] e log rfl, fun later e' earlier hlog => h (e :: later) e' earlier ?_⟩
    rw [hlog, List.cons_append]
  · rintro ⟨he, h⟩ later e' earlier hlog
    cases later with
    | nil =>
      rw [List.nil_append, List.cons.injEq] at hlog
      obtain ⟨rfl, rfl⟩ := hlog
      exact he
    | cons x later =>
      rw [List.cons_append, List.cons.injEq] at hlog
      exact h later e' earlier hlog.2

/-- An entry that neither opens a session, nor changes the password, nor mails a link. -/
def Entry.isNeutral : Entry → Bool
  | .guessed | .locked | .accepted _ => true
  | _ => false

lemma changes_neutral (h : e.isNeutral = true) : changes (e :: log) = changes log := by
  cases e <;> first | rfl | cases h

lemma logins_neutral (h : e.isNeutral = true) : logins (e :: log) = logins log := by
  cases e <;> first | rfl | cases h

lemma links_neutral (h : e.isNeutral = true) : links (e :: log) = links log := by
  cases e <;> first | rfl | cases h

lemma mem_neutral {e' : Entry} (h : e.isNeutral = true) (h' : e'.isNeutral = false) (hmem : e' ∈ e :: log) :
    e' ∈ log := by
  rcases List.mem_cons.1 hmem with rfl | hmem
  · rw [h] at h'
    cases h'
  · exact hmem

lemma mem_of_mem_links {link : Uuid} (h : link ∈ links log) : Entry.mailed link ∈ log := by
  obtain ⟨e, he, hlink⟩ := List.mem_filterMap.1 h
  cases e <;> cases hlink
  exact he

end Histories

/-! ### What stays true -/

section Invariant

variable (cfg : Config)

/-- What stays true of the request `n`. -/
def Txn.Holds (s : State) (n : ℕ) : Txn → Prop
  | .login _ _ _ session _ =>
    ∀ sid row, session = some (sid, row) → sid = cfg.session.newId n ∧ row.revokedAt = none
  | .refresh sid row accepted =>
    (∃ row₀, s.tables.sessions.get sid = some row₀ ∧ (row.revokedAt = none → row₀.revokedAt = none)) ∧
      (accepted = true → row.revokedAt = none)
  | .change _ _ _ _ revocation =>
    ∀ r, revocation = some r → r.logins ≤ logins s.log ∧ (r.logins = logins s.log →
      ∀ sid row, s.tables.sessions.get sid = some row → row.revokedAt = none → sid ∈ r.sessions)
  | .request token dropped mailed =>
    token.id = cfg.session.newId n ∧ token.usedAt = none ∧ mailed ≤ (links s.log).length ∧
      (mailed = (links s.log).length → ∀ row ∈ s.tables.tokens, row.id ∈ dropped)

/-- What stays true of a state. -/
structure Inv (s : State) : Prop where
  pendingLt : ∀ n txn, s.pending.get n = some txn → n < s.next
  holds : ∀ n txn, s.pending.get n = some txn → txn.Holds cfg s n
  exclusive : ∀ n m txn txn' sid, s.pending.get n = some txn → s.pending.get m = some txn' →
    txn.holds sid = true → txn'.holds sid = true → n = m
  openedIds : ∀ sid v, Entry.opened sid v ∈ s.log →
    ∃ k < s.next, sid = cfg.session.newId k ∧ s.pending.get k = none
  mailedIds : ∀ id, Entry.mailed id ∈ s.log → ∃ k < s.next, id = cfg.session.newId k ∧ s.pending.get k = none
  live : ∀ sid row v, s.tables.sessions.get sid = some row → row.revokedAt = none →
    Entry.opened sid v ∈ s.log → v = changes s.log
  latest : ∀ row ∈ s.tables.tokens, (links s.log).head? = some row.id
  unused : ∀ row ∈ s.tables.tokens, row.usedAt = none → Entry.changed (some row.id) ∉ s.log
  changedMailed : ∀ id, Entry.changed (some id) ∈ s.log → Entry.mailed id ∈ s.log
  clean : CleanCut s.log

end Invariant

section Steps

variable {cfg : Config} {s s' : State} {n : ℕ} {txn : Txn}

/-- A request under way sees the rows it holds kept open, and no new open session or link without a new login
or a new mail. -/
lemma Txn.Holds.mono (h : txn.Holds cfg s n)
    (hheld : ∀ sid row, txn.holds sid = true → s.tables.sessions.get sid = some row →
      ∃ row', s'.tables.sessions.get sid = some row' ∧ (row.revokedAt = none → row'.revokedAt = none))
    (hlogins : logins s.log ≤ logins s'.log)
    (hopen : logins s'.log = logins s.log → ∀ sid row, s'.tables.sessions.get sid = some row →
      row.revokedAt = none → ∃ row₀, s.tables.sessions.get sid = some row₀ ∧ row₀.revokedAt = none)
    (hlinks : (links s.log).length ≤ (links s'.log).length)
    (htokens : (links s'.log).length = (links s.log).length → ∀ row ∈ s'.tables.tokens,
      ∃ row₀ ∈ s.tables.tokens, row₀.id = row.id) : txn.Holds cfg s' n := by
  cases txn with
  | login read new attempt session seen => exact h
  | refresh sid row accepted =>
    obtain ⟨⟨row₀, hget, hrow₀⟩, haccepted⟩ := h
    obtain ⟨row', hget', hrow'⟩ := hheld sid row₀ (decide_eq_true rfl) hget
    exact ⟨⟨row', hget', fun hnone => hrow' (hrow₀ hnone)⟩, haccepted⟩
  | change read new link begun revocation =>
    intro r hr
    obtain ⟨hle, hall⟩ := h r hr
    refine ⟨Nat.le_trans hle hlogins, fun heq sid row hget hnone => ?_⟩
    obtain ⟨row₀, hget₀, hnone₀⟩ := hopen (by omega) sid row hget hnone
    exact hall (by omega) sid row₀ hget₀ hnone₀
  | request token dropped mailed =>
    obtain ⟨hid, hused, hle, hall⟩ := h
    refine ⟨hid, hused, Nat.le_trans hle hlinks, fun heq row hrow => ?_⟩
    obtain ⟨row₀, hrow₀, hid₀⟩ := htokens (by omega) row hrow
    rw [← hid₀]
    exact hall (by omega) row₀ hrow₀

/-- A step that touches neither the sessions nor the links, and adds neutral entries. -/
lemma Txn.Holds.same (h : txn.Holds cfg s n) (hsessions : s'.tables.sessions = s.tables.sessions)
    (htokens : s'.tables.tokens = s.tables.tokens) (hlogins : logins s'.log = logins s.log)
    (hlinks : links s'.log = links s.log) : txn.Holds cfg s' n := by
  refine h.mono ?_ (Nat.le_of_eq hlogins.symm) ?_ (by rw [hlinks]) ?_
  · intro sid row _ hget
    exact ⟨row, by rw [hsessions, hget], id⟩
  · intro _ sid row hget hnone
    exact ⟨row, by rw [← hsessions, hget], hnone⟩
  · intro _ row hrow
    exact ⟨row, htokens ▸ hrow, rfl⟩

/-- A neutral entry is added. -/
lemma Inv.record (h : Inv cfg s) {e : Entry} (hneutral : e.isNeutral = true) (hclean : Clean e s.log) :
    Inv cfg { s with log := e :: s.log } where
  pendingLt := h.pendingLt
  holds n txn hget := (h.holds n txn hget).same rfl rfl (logins_neutral hneutral) (links_neutral hneutral)
  exclusive := h.exclusive
  openedIds sid v hmem := h.openedIds sid v (mem_neutral hneutral rfl hmem)
  mailedIds id hmem := h.mailedIds id (mem_neutral hneutral rfl hmem)
  live sid row v hget hnone hmem :=
    (h.live sid row v hget hnone (mem_neutral hneutral rfl hmem)).trans (changes_neutral hneutral).symm
  latest row hrow := by rw [links_neutral hneutral]; exact h.latest row hrow
  unused row hrow hnone hmem := h.unused row hrow hnone (mem_neutral hneutral rfl hmem)
  changedMailed id hmem := List.mem_cons_of_mem _ (h.changedMailed id (mem_neutral hneutral rfl hmem))
  clean := cleanCut_cons.2 ⟨hclean, h.clean⟩

lemma not_holds_of_held {sid : Uuid} (hfree : s.held sid = false) (hget : s.pending.get n = some txn) :
    txn.holds sid = false := by
  unfold State.held at hfree
  rw [List.any_eq_false] at hfree
  exact Bool.not_eq_true _ ▸ hfree (n, txn) (Store.mem_of_get hget)

/-- The request `n` begins, or goes on; what it holds from now on, nobody else holds. -/
lemma Inv.put (h : Inv cfg s) {next : ℕ} (hn : n < next) (hnext : s.next ≤ next)
    (hfresh : s.next ≤ n ∨ s.pending.get n ≠ none) (hnew : txn.Holds cfg s n)
    (hfree : ∀ sid m txn', txn.holds sid = true → m ≠ n → s.pending.get m = some txn' → txn'.holds sid = false) :
    Inv cfg { s with pending := s.pending.put n txn, next := next } := by
  have hkept : ∀ k < s.next, s.pending.get k = none →
      ({ s with pending := s.pending.put n txn, next := next } : State).pending.get k = none := by
    intro k hk hnone
    have hne : k ≠ n := by
      rintro rfl
      rcases hfresh with hle | hsome
      · omega
      · exact hsome hnone
    rw [get_put, if_neg hne, hnone]
  constructor
  case pendingLt =>
    intro m txn' hget
    rw [get_put] at hget
    split at hget
    · rename_i hm
      exact hm ▸ hn
    · exact Nat.lt_of_lt_of_le (h.pendingLt m txn' hget) hnext
  case holds =>
    intro m txn' hget
    rw [get_put] at hget
    split at hget
    · rename_i hm
      obtain rfl := Option.some.inj hget
      rw [hm]
      exact hnew.same rfl rfl rfl rfl
    · exact (h.holds m txn' hget).same rfl rfl rfl rfl
  case exclusive =>
    intro m m' txn₁ txn₂ sid h₁ h₂ hs₁ hs₂
    rw [get_put] at h₁ h₂
    split at h₁ <;> split at h₂
    · rename_i hm hm'
      rw [hm, hm']
    · rename_i hm hm'
      obtain rfl := Option.some.inj h₁
      rw [hfree sid m' txn₂ hs₁ hm' h₂] at hs₂
      cases hs₂
    · rename_i hm hm'
      obtain rfl := Option.some.inj h₂
      rw [hfree sid m txn₁ hs₂ hm h₁] at hs₁
      cases hs₁
    · exact h.exclusive m m' txn₁ txn₂ sid h₁ h₂ hs₁ hs₂
  case openedIds =>
    intro sid v hmem
    obtain ⟨k, hk, hid, hget⟩ := h.openedIds sid v hmem
    exact ⟨k, Nat.lt_of_lt_of_le hk hnext, hid, hkept k hk hget⟩
  case mailedIds =>
    intro id hmem
    obtain ⟨k, hk, hid, hget⟩ := h.mailedIds id hmem
    exact ⟨k, Nat.lt_of_lt_of_le hk hnext, hid, hkept k hk hget⟩
  case live => exact h.live
  case latest => exact h.latest
  case unused => exact h.unused
  case changedMailed => exact h.changedMailed
  case clean => exact h.clean

/-- A request begins, of what nobody holds. -/
lemma Inv.enter (h : Inv cfg s) (hnew : txn.Holds cfg s s.next)
    (hfree : ∀ sid, txn.holds sid = true → s.held sid = false) : Inv cfg (s.enter txn []) := by
  refine h.put (Nat.lt_succ_self _) (Nat.le_succ _) (.inl (Nat.le_refl _)) hnew ?_
  intro sid m txn' hholds _ hget
  exact not_holds_of_held (hfree sid hholds) hget

/-- The request `n` ends, before its rows are written. -/
lemma Inv.leave (h : Inv cfg s) : Inv cfg (s.leave n s.tables []) := by
  have hget : ∀ {m txn'}, (s.leave n s.tables []).pending.get m = some txn' → s.pending.get m = some txn' := by
    intro m txn' hm
    rw [get_leave] at hm
    split at hm
    · cases hm
    · exact hm
  have hnone : ∀ {m}, s.pending.get m = none → (s.leave n s.tables []).pending.get m = none := by
    intro m hm
    rw [get_leave, hm, ite_self]
  constructor
  case pendingLt => exact fun m txn' hm => h.pendingLt m txn' (hget hm)
  case holds => exact fun m txn' hm => (h.holds m txn' (hget hm)).same rfl rfl rfl rfl
  case exclusive => exact fun m m' txn₁ txn₂ sid h₁ h₂ => h.exclusive m m' txn₁ txn₂ sid (hget h₁) (hget h₂)
  case openedIds =>
    intro sid v hmem
    obtain ⟨k, hk, hid, hkget⟩ := h.openedIds sid v hmem
    exact ⟨k, hk, hid, hnone hkget⟩
  case mailedIds =>
    intro id hmem
    obtain ⟨k, hk, hid, hkget⟩ := h.mailedIds id hmem
    exact ⟨k, hk, hid, hnone hkget⟩
  case live => exact h.live
  case latest => exact h.latest
  case unused => exact h.unused
  case changedMailed => exact h.changedMailed
  case clean => exact h.clean

/-! ### What a commit writes -/

/-- Only the row of the account is written. -/
lemma Inv.userWritten (h : Inv cfg s) (user : User) : Inv cfg { s with tables := { s.tables with user } } where
  pendingLt := h.pendingLt
  holds n txn hget := (h.holds n txn hget).same rfl rfl rfl rfl
  exclusive := h.exclusive
  openedIds := h.openedIds
  mailedIds := h.mailedIds
  live := h.live
  latest := h.latest
  unused := h.unused
  changedMailed := h.changedMailed
  clean := h.clean

/-- The row of a session that nobody holds is written; it is not opened again. -/
lemma Inv.refreshed (h : Inv cfg s) {sid : Uuid} (row : AuthSession) {row₀ : AuthSession}
    (hget : s.tables.sessions.get sid = some row₀) (hrow : row.revokedAt = none → row₀.revokedAt = none)
    (hfree : ∀ m txn', s.pending.get m = some txn' → txn'.holds sid = false) :
    Inv cfg { s with tables := { s.tables with sessions := s.tables.sessions.put sid row } } := by
  -- Every open session was open before.
  have hopen : ∀ sid' row', (s.tables.sessions.put sid row).get sid' = some row' → row'.revokedAt = none →
      ∃ row₁, s.tables.sessions.get sid' = some row₁ ∧ row₁.revokedAt = none := by
    intro sid' row' hget' hnone
    by_cases hsid : sid' = sid
    · rw [hsid, Store.get_put_self] at hget'
      obtain rfl := Option.some.inj hget'
      exact ⟨row₀, hsid ▸ hget, hrow hnone⟩
    · rw [Store.get_put_of_ne _ _ hsid] at hget'
      exact ⟨row', hget', hnone⟩
  constructor
  case holds =>
    intro m txn' hm
    refine (h.holds m txn' hm).mono ?_ (Nat.le_refl _) (fun _ => hopen) (Nat.le_refl _)
      fun _ row' hrow' => ⟨row', hrow', rfl⟩
    intro sid' row' hholds hget'
    have hne : sid' ≠ sid := by
      rintro rfl
      rw [hfree m txn' hm] at hholds
      cases hholds
    exact ⟨row', by rw [← hget']; exact Store.get_put_of_ne _ _ hne, id⟩
  case live =>
    intro sid' row' v hget' hnone hmem
    obtain ⟨row₁, hget₁, hnone₁⟩ := hopen sid' row' hget' hnone
    exact h.live sid' row₁ v hget₁ hnone₁ hmem
  case pendingLt => exact h.pendingLt
  case exclusive => exact h.exclusive
  case openedIds => exact h.openedIds
  case mailedIds => exact h.mailedIds
  case latest => exact h.latest
  case unused => exact h.unused
  case changedMailed => exact h.changedMailed
  case clean => exact h.clean

/-- A login that was not overtaken opens a session. -/
lemma Inv.opened (h : Inv cfg s) {k : ℕ} {row : AuthSession} (hk : k < s.next) (hdone : s.pending.get k = none)
    (hfresh : ∀ v, Entry.opened (cfg.session.newId k) v ∉ s.log) (hrow : row.revokedAt = none) :
    Inv cfg { s with
      tables := { s.tables with sessions := s.tables.sessions.put (cfg.session.newId k) row }
      log := .opened (cfg.session.newId k) (changes s.log) :: s.log } := by
  constructor
  case holds =>
    intro m txn' hm
    have hlogins : ∀ e, logins (.opened (cfg.session.newId k) e :: s.log) = logins s.log + 1 := by
      intro e
      simp [logins]
    refine (h.holds m txn' hm).mono ?_ ?_ ?_ (Nat.le_refl _) fun _ row' hrow' => ⟨row', hrow', rfl⟩
    · intro sid row' _ hget
      by_cases hsid : sid = cfg.session.newId k
      · exact ⟨row, by rw [hsid]; exact Store.get_put_self _ _ _, fun _ => hrow⟩
      · exact ⟨row', by rw [← hget]; exact Store.get_put_of_ne _ _ hsid, id⟩
    · dsimp only
      rw [hlogins]
      exact Nat.le_succ _
    · intro heq
      dsimp only at heq
      rw [hlogins] at heq
      omega
  case openedIds =>
    intro sid v hmem
    rcases List.mem_cons.1 hmem with heq | hmem
    · cases heq
      exact ⟨k, hk, rfl, hdone⟩
    · exact h.openedIds sid v hmem
  case mailedIds =>
    intro id hmem
    exact h.mailedIds id ((List.mem_cons.1 hmem).resolve_left nofun)
  case live =>
    intro sid row' v hget hnone hmem
    rcases List.mem_cons.1 hmem with heq | hmem
    · cases heq
      rfl
    · have hsid : sid ≠ cfg.session.newId k := by
        rintro rfl
        exact hfresh v hmem
      rw [Store.get_put_of_ne _ _ hsid] at hget
      exact h.live sid row' v hget hnone hmem
  case unused =>
    intro row' hrow' hnone hmem
    exact h.unused row' hrow' hnone ((List.mem_cons.1 hmem).resolve_left nofun)
  case changedMailed =>
    intro id hmem
    exact List.mem_cons_of_mem _ (h.changedMailed id ((List.mem_cons.1 hmem).resolve_left nofun))
  case pendingLt => exact h.pendingLt
  case exclusive => exact h.exclusive
  case latest => exact h.latest
  case clean => exact cleanCut_cons.2 ⟨trivial, h.clean⟩

/-- The links that stay are old ones; the one that is used is marked. -/
lemma mem_change_tokens {read new : User} {link : Option Uuid} {begun : Time} {r : Revocation} {row : ResetToken}
    (hrow : row ∈ (s.tables.change read new link begun r).tokens) :
    ∃ row₀ ∈ s.tables.tokens, row₀.id = row.id ∧ (row.usedAt = none → row₀.usedAt = none ∧ link ≠ some row.id) := by
  obtain ⟨row₀, hrow₀, rfl⟩ := List.mem_map.1 hrow
  have hmem := (List.mem_filter.1 hrow₀).1
  by_cases heq : link = some row₀.id
  · rw [if_pos heq]
    exact ⟨row₀, hmem, rfl, nofun⟩
  · rw [if_neg heq]
    exact ⟨row₀, hmem, rfl, fun hnone => ⟨hnone, heq⟩⟩

lemma get_change_sessions (read new : User) (link : Option Uuid) (begun : Time) (r : Revocation) (sid : Uuid) :
    (s.tables.change read new link begun r).sessions.get sid =
      (s.tables.sessions.get sid).map fun row => if sid ∈ r.sessions then row.revoke r.instant else row := by
  rw [Tables.change, Store.get_mapKeyed]

/-- No session is left open by a change that has read them all. -/
lemma change_closed {read new : User} {link : Option Uuid} {begun : Time} {r : Revocation}
    (hall : ∀ sid row, s.tables.sessions.get sid = some row → row.revokedAt = none → sid ∈ r.sessions)
    {sid : Uuid} {row : AuthSession} (hget : (s.tables.change read new link begun r).sessions.get sid = some row) :
    row.revokedAt ≠ none := by
  intro hnone
  rw [get_change_sessions] at hget
  obtain ⟨row₀, hget₀, rfl⟩ := Option.map_eq_some_iff.1 hget
  split at hnone
  · exact Session.revoke_revokedAt hnone
  · rename_i hnot
    exact hnot (hall sid row₀ hget₀ hnone)

/-- A change that was not overtaken closes every session, and uses its link. -/
lemma Inv.changed (h : Inv cfg s) {read new : User} {link : Option Uuid} {begun : Time} {r : Revocation}
    (hall : ∀ sid row, s.tables.sessions.get sid = some row → row.revokedAt = none → sid ∈ r.sessions)
    (hlink : ∀ id, link = some id → ∃ row ∈ s.tables.tokens, row.id = id)
    (hused : ∀ row ∈ s.tables.tokens, link = some row.id → row.usedAt = none)
    (hfree : ∀ sid ∈ r.sessions, ∀ m txn', s.pending.get m = some txn' → txn'.holds sid = false) :
    Inv cfg { s with
      tables := s.tables.change read new link begun r
      log := .changed link :: s.log } := by
  constructor
  case holds =>
    intro m txn' hm
    refine (h.holds m txn' hm).mono ?_ (Nat.le_refl _) ?_ (Nat.le_refl _) ?_
    · intro sid row hholds hget
      have hnot : sid ∉ r.sessions := by
        intro hmem
        rw [hfree sid hmem m txn' hm] at hholds
        cases hholds
      exact ⟨row, by simp only [get_change_sessions, hget, Option.map_some, if_neg hnot], id⟩
    · intro _ sid row hget hnone
      exact absurd hnone (change_closed hall hget)
    · intro _ row hrow
      obtain ⟨row₀, hrow₀, hid, -⟩ := mem_change_tokens hrow
      exact ⟨row₀, hrow₀, hid⟩
  case live =>
    intro sid row v hget hnone
    exact absurd hnone (change_closed hall hget)
  case latest =>
    intro row hrow
    obtain ⟨row₀, hrow₀, hid, -⟩ := mem_change_tokens hrow
    exact hid ▸ h.latest row₀ hrow₀
  case unused =>
    intro row hrow hnone hmem
    obtain ⟨row₀, hrow₀, hid, hopen⟩ := mem_change_tokens hrow
    obtain ⟨hnone₀, hne⟩ := hopen hnone
    rcases List.mem_cons.1 hmem with heq | hmem
    · cases heq
      exact hne rfl
    · exact h.unused row₀ hrow₀ hnone₀ (hid ▸ hmem)
  case changedMailed =>
    intro id hmem
    refine List.mem_cons_of_mem _ ?_
    rcases List.mem_cons.1 hmem with heq | hmem
    · cases heq
      obtain ⟨row, hrow, rfl⟩ := hlink id rfl
      exact mem_of_mem_links (List.mem_of_head? (h.latest row hrow))
    · exact h.changedMailed id hmem
  case clean =>
    refine cleanCut_cons.2 ⟨?_, h.clean⟩
    cases link with
    | none => trivial
    | some id =>
      obtain ⟨row, hrow, rfl⟩ := hlink id rfl
      exact ⟨h.unused row hrow (hused row hrow rfl), h.latest row hrow⟩
  case pendingLt => exact h.pendingLt
  case exclusive => exact h.exclusive
  case openedIds =>
    intro sid v hmem
    exact h.openedIds sid v ((List.mem_cons.1 hmem).resolve_left (by simp))
  case mailedIds =>
    intro id hmem
    exact h.mailedIds id ((List.mem_cons.1 hmem).resolve_left (by simp))

/-- A request that was not overtaken leaves its own link, and no other. -/
lemma Inv.requested (h : Inv cfg s) {k : ℕ} {token : ResetToken} {dropped : List Uuid} (hk : k < s.next)
    (hdone : s.pending.get k = none) (hid : token.id = cfg.session.newId k)
    (hfresh : Entry.mailed token.id ∉ s.log) (hall : ∀ row ∈ s.tables.tokens, row.id ∈ dropped) :
    Inv cfg { s with
      tables := { s.tables with tokens := s.tables.tokens.filter (·.id ∉ dropped) ++ [token] }
      log := .mailed token.id :: s.log } := by
  have honly : ∀ row ∈ s.tables.tokens.filter (·.id ∉ dropped) ++ [token], row = token := by
    intro row hrow
    rcases List.mem_append.1 hrow with hrow | hrow
    · obtain ⟨hmem, hnot⟩ := List.mem_filter.1 hrow
      exact absurd (hall row hmem) (of_decide_eq_true hnot)
    · exact List.mem_singleton.1 hrow
  have hlinks : links (.mailed token.id :: s.log) = token.id :: links s.log := rfl
  constructor
  case holds =>
    intro m txn' hm
    refine (h.holds m txn' hm).mono (fun sid row _ hget => ⟨row, hget, id⟩) (Nat.le_refl _)
      (fun _ sid row hget hnone => ⟨row, hget, hnone⟩) ?_ ?_
    · rw [hlinks, List.length_cons]
      exact Nat.le_succ _
    · intro heq
      rw [hlinks, List.length_cons] at heq
      omega
  case mailedIds =>
    intro id hmem
    rcases List.mem_cons.1 hmem with heq | hmem
    · cases heq
      exact ⟨k, hk, hid, hdone⟩
    · exact h.mailedIds id hmem
  case openedIds =>
    intro sid v hmem
    exact h.openedIds sid v ((List.mem_cons.1 hmem).resolve_left nofun)
  case live =>
    intro sid row v hget hnone hmem
    exact h.live sid row v hget hnone ((List.mem_cons.1 hmem).resolve_left nofun)
  case latest =>
    intro row hrow
    rw [honly row hrow]
    rfl
  case unused =>
    intro row hrow _ hmem
    rw [honly row hrow] at hmem
    exact hfresh (h.changedMailed token.id ((List.mem_cons.1 hmem).resolve_left nofun))
  case changedMailed =>
    intro id hmem
    exact List.mem_cons_of_mem _ (h.changedMailed id ((List.mem_cons.1 hmem).resolve_left nofun))
  case clean => exact cleanCut_cons.2 ⟨trivial, h.clean⟩
  case pendingLt => exact h.pendingLt
  case exclusive => exact h.exclusive

/-! ### Every step -/

/-- A session that is open may be accepted. -/
lemma Inv.accept (h : Inv cfg s) {sid : Uuid} {row : AuthSession} (hget : s.tables.sessions.get sid = some row)
    (hopen : row.revokedAt = none) : Inv cfg { s with log := .accepted sid :: s.log } :=
  h.record rfl fun v hmem => h.live sid row v hget hopen hmem

lemma Inv.acceptBearer (h : Inv cfg s) {bearer : Session.AccessClaims} {now : Time} {sid : Uuid}
    (hsid : acceptedSession cfg s bearer now = some sid) : Inv cfg { s with log := .accepted sid :: s.log } := by
  unfold acceptedSession at hsid
  split at hsid
  · rename_i sid' userId hok
    obtain rfl := Option.some.inj hsid
    obtain ⟨row, hget, hlive⟩ := Session.authenticate_live hok
    exact h.accept hget (Session.isLive_iff.1 hlive).1
  · cases hsid

lemma Inv.beginLogin (h : Inv cfg s) (password : String) (now : Time) : Inv cfg (beginLogin cfg s password now) := by
  have hwrong : ∀ new attempt, Inv cfg (s.enter (.login s.tables.user new attempt none (changes s.log)) [.guessed]) := by
    intro new attempt
    have hentered : Inv cfg (s.enter (.login s.tables.user new attempt none (changes s.log)) []) :=
      h.enter (fun _ _ hnone => nomatch hnone) nofun
    exact hentered.record rfl trivial
  unfold Credentials.beginLogin
  dsimp only
  split
  · exact h
  · exact h
  · exact hwrong _ _
  · exact hwrong _ _
  · refine h.enter ?_ nofun
    rintro sid row heq
    cases heq
    exact ⟨rfl, rfl⟩

lemma Inv.beginRefresh (h : Inv cfg s) (cookie : Token) (now : Time) : Inv cfg (beginRefresh cfg s cookie now) := by
  unfold Credentials.beginRefresh
  have henter : ∀ sid row₀ row accepted, s.held sid = false → s.tables.sessions.get sid = some row₀ →
      (row.revokedAt = none → row₀.revokedAt = none) → (accepted = true → row.revokedAt = none) →
      Inv cfg (s.enter (.refresh sid row accepted) []) := by
    intro sid row₀ row accepted hfree hget hrow haccepted
    refine h.enter ⟨⟨row₀, hget, hrow⟩, haccepted⟩ fun sid' hsid => ?_
    obtain rfl : sid = sid' := of_decide_eq_true hsid
    exact hfree
  rcases Session.refresh_cases cfg.session (s.tables.db cfg s.next) cookie now with
    ⟨-, hr⟩ | ⟨sid, row, -, hget, hlive, hcase⟩
  · rw [hr]
    exact h
  have hopen := (Session.isLive_iff.1 hlive).1
  cases hheld : s.held sid with
  | true =>
    rcases hcase with ⟨-, hr⟩ | ⟨-, -, -, hr⟩ | ⟨-, -, hr⟩
    all_goals
      rw [hr]
      dsimp only
      rw [hheld, if_pos rfl]
      exact h
  | false =>
    rcases hcase with ⟨-, hr⟩ | ⟨-, -, -, hr⟩ | ⟨-, -, hr⟩
    all_goals
      rw [hr]
      dsimp only
      rw [hheld, if_neg (by simp)]
    · rw [if_neg (by simp)]
      split
      · exact henter sid row _ true hheld hget (fun _ => hopen) fun _ => hopen
      · exact henter sid row _ false hheld hget (fun _ => hopen) nofun
    · rw [if_neg (by simp)]
      split
      · exact henter sid row _ true hheld hget (fun _ => hopen) fun _ => hopen
      · exact henter sid row _ false hheld hget (fun _ => hopen) nofun
    · rw [if_pos rfl]
      exact henter sid row _ false hheld hget (fun _ => hopen) nofun

lemma Inv.beginChange (h : Inv cfg s) (link : Option Uuid) (newPassword : String) (now : Time) :
    Inv cfg (beginChange cfg s link newPassword now []) :=
  h.enter (fun _ hnone => nomatch hnone) nofun

lemma Inv.request (h : Inv cfg s) (now : Time) (action : Action) : Inv cfg (request cfg s now action) := by
  cases action with
  | login password => exact h.beginLogin password now
  | refresh cookie => exact h.beginRefresh cookie now
  | requestReset =>
    unfold Credentials.request
    dsimp only
    split
    · refine h.enter ⟨rfl, rfl, Nat.le_refl _, fun _ row hrow => ?_⟩ nofun
      exact List.mem_map_of_mem hrow
    · exact h
  | confirmReset token newPassword =>
    unfold Credentials.request
    dsimp only
    split
    · exact h
    · exact h.beginChange _ _ _
  | changePassword bearer currentPassword newPassword =>
    unfold Credentials.request
    dsimp only
    split
    · exact h
    · rename_i sid hsid
      split
      · exact (h.acceptBearer hsid).beginChange none newPassword now
      · exact h.acceptBearer hsid
  | resetPassword newPassword => exact h.beginChange _ _ _

lemma Inv.revoke (h : Inv cfg s) (n : ℕ) (now : Time) : Inv cfg (revoke s n now) := by
  unfold Credentials.revoke
  split
  · rename_i read new link begun hget
    dsimp only
    split
    · exact h
    · rename_i hfree
      refine h.put (show n < s.next from h.pendingLt n _ hget) (Nat.le_refl _) (.inr (by simp [hget])) ?_ ?_
      · intro r hr
        obtain rfl := Option.some.inj hr
        refine ⟨Nat.le_refl _, fun _ sid row hrow hopen => ?_⟩
        refine List.mem_map.2 ⟨(sid, row), List.mem_filter.2 ⟨Store.mem_of_get hrow, ?_⟩, rfl⟩
        rw [hopen]
        rfl
      · intro sid m txn' hholds _ hm
        refine not_holds_of_held ?_ hm
        have hmem : sid ∈ openSessions s.tables := of_decide_eq_true hholds
        rw [Bool.not_eq_true, List.any_eq_false] at hfree
        simpa using hfree sid hmem
  · exact h

/-- The commit of a request that was not overtaken. -/
lemma Inv.commit (h : Inv cfg s) (n : ℕ) (hcalm : undisturbed s (.commit n) = true) : Inv cfg (commit s n) := by
  unfold Credentials.commit
  dsimp only
  cases hget : s.pending.get n with
  | none => exact h
  | some txn =>
    have hholds := h.holds n txn hget
    have hlt := h.pendingLt n txn hget
    have hcalm' : txn.undisturbed s = true := by simpa [undisturbed, hget] using hcalm
    have hdone : (s.leave n s.tables []).pending.get n = none := by rw [get_leave, if_pos rfl]
    have hleft : Inv cfg (s.leave n s.tables []) := h.leave
    have hfree : ∀ sid, txn.holds sid = true → ∀ m txn', (s.leave n s.tables []).pending.get m = some txn' →
        txn'.holds sid = false := by
      intro sid hsid m txn' hm
      rw [get_leave] at hm
      split at hm
      · cases hm
      rename_i hne
      by_contra hcon
      exact hne (h.exclusive m n txn' txn sid hm hget (by simpa using hcon) hsid)
    cases txn with
    | login read new attempt session seen =>
      have huser := hleft.userWritten (userWriteBack read new s.tables.user)
      cases session with
      | none =>
        dsimp only
        split
        · exact huser.record rfl trivial
        · exact huser
      | some session =>
        obtain ⟨sid, row⟩ := session
        obtain ⟨rfl, hopen⟩ := hholds sid row rfl
        obtain rfl : seen = changes s.log := of_decide_eq_true hcalm'
        refine huser.opened hlt hdone (fun v hmem => ?_) hopen
        -- A session of this number has not been opened: its request is under way.
        obtain ⟨k, -, hid, hnone⟩ := h.openedIds _ v hmem
        obtain rfl := cfg.session.newId_injective hid
        rw [hget] at hnone
        cases hnone
    | refresh sid row accepted =>
      obtain ⟨⟨row₀, hrow₀, hrow⟩, haccepted⟩ := hholds
      have hwritten := hleft.refreshed row hrow₀ hrow (hfree sid (decide_eq_true rfl))
      dsimp only
      split
      · rename_i hyes
        exact hwritten.accept (Store.get_put_self _ _ _) (haccepted hyes)
      · exact hwritten
    | change read new link begun revocation =>
      cases revocation with
      | none => exact h
      | some r =>
        obtain ⟨-, hall⟩ := hholds r rfl
        obtain ⟨hlogins, hused⟩ : r.logins = logins s.log ∧
            ∀ row ∈ s.tables.tokens, link = some row.id → row.usedAt = none := by
          simpa [Txn.undisturbed, imp_iff_not_or] using hcalm'
        dsimp only
        split
        · rename_i hthere
          refine hleft.changed (hall hlogins) ?_ hused fun sid hsid => hfree sid (decide_eq_true hsid)
          rintro id rfl
          have hrow : ∃ row ∈ s.tables.tokens, row.id = id := by simpa using hthere
          exact hrow
        · exact hleft
    | request token dropped mailed =>
      obtain ⟨hid, -, -, hall⟩ := hholds
      refine hleft.requested hlt hdone hid (fun hmem => ?_) (hall (of_decide_eq_true hcalm'))
      obtain ⟨k, -, hid', hnone⟩ := h.mailedIds _ hmem
      obtain rfl := cfg.session.newId_injective (hid.symm.trans hid')
      rw [hget] at hnone
      cases hnone

theorem Inv.step (e : Event) (hcalm : undisturbed s e = true) (h : Inv cfg s) : Inv cfg (step cfg s e) := by
  cases e with
  | request now action => exact h.request now action
  | revoke n now => exact h.revoke n now
  | commit n => exact h.commit n hcalm
  | guarded bearer now =>
    unfold Credentials.step
    dsimp only
    split
    · exact h
    · rename_i sid hsid
      exact h.acceptBearer hsid

lemma Inv.start (user : User) : Inv cfg (start user) where
  pendingLt _ _ hget := nomatch hget
  holds _ _ hget := nomatch hget
  exclusive _ _ _ _ _ hget := nomatch hget
  openedIds _ _ hmem := nomatch hmem
  mailedIds _ hmem := nomatch hmem
  live _ _ _ hget := nomatch hget
  latest _ hrow := nomatch hrow
  unused _ hrow := nomatch hrow
  changedMailed _ hmem := nomatch hmem
  clean later e earlier hlog := by
    cases later <;> cases hlog

end Steps

/-- **Clean cut.**  In every run in which no commit was overtaken since its read, a session is accepted only if
its login presented the password in force, a link sets one password at most, and only the last one mailed
does. -/
theorem clean_cut (cfg : Config) (user : User) (events : List Event)
    (hcalm : Guarded (step cfg) (fun s e => undisturbed s e = true) (start user) events) :
    CleanCut (run (step cfg) (start user) events).log :=
  (hcalm.invariant (fun _ e h hinv => hinv.step e h) (Inv.start user)).clean

/-- A login, a link that sets a password, another login, and what it refreshes. -/
theorem clean_cut_oneByOne :
    let events : List Event :=
      [.request 0 (.login "old"), .commit 0, .request 1 .requestReset, .commit 1,
        .request 2 (.confirmReset "aa" "new"), .revoke 2 2, .commit 2, .request 3 (.refresh "0.a"),
        .request 3 (.login "new"), .commit 3, .request 4 (.refresh "0000.aaaa"), .commit 4]
    (run (step .standard) (start (account "old")) events).log =
        [.accepted 3, .opened 3 1, .changed (some 1), .mailed 1, .opened 0 0] ∧
      CleanCut (run (step .standard) (start (account "old")) events).log :=
  ⟨by decide, clean_cut _ _ _ (by decide)⟩

/-- A login overtaken by a change keeps its session, which is refreshed afterwards; two confirmations of one link
overlap, and both set a password; two requests overlap, and the link of the first still sets a password. -/
theorem not_clean_cut :
    ¬CleanCut (run (step .standard) (start (account "old"))
      [.request 0 (.login "old"), .request 1 (.resetPassword "new"), .revoke 1 1, .commit 1, .commit 0,
        .request 2 (.refresh "0.a"), .commit 2]).log ∧
      ¬CleanCut (run (step .standard) (start (account "old"))
        [.request 0 .requestReset, .commit 0, .request 1 (.confirmReset "a" "one"),
          .request 1 (.confirmReset "a" "two"), .revoke 1 1, .commit 1, .revoke 2 2, .commit 2]).log ∧
      ¬CleanCut (run (step .standard) (start (account "old"))
        [.request 0 .requestReset, .request 0 .requestReset, .commit 0, .commit 1,
          .request 1 (.confirmReset "a" "new"), .revoke 2 1, .commit 2]).log := by
  refine ⟨fun h => ?_, fun h => ?_, fun h => ?_⟩
  · have hclean : Clean (.accepted 0) [.opened 0 0, .changed none] := h [] _ _ (by decide)
    have hseen : 0 = changes [.opened 0 0, .changed none] := hclean 0 (by decide)
    exact absurd hseen (by decide)
  · have hclean : Clean (.changed (some 0)) [.changed (some 0), .mailed 0] := h [] _ _ (by decide)
    exact hclean.1 (by decide)
  · have hclean : Clean (.changed (some 0)) [.mailed 1, .mailed 0] := h [] _ _ (by decide)
    exact absurd hclean.2 (by decide)

end Tiai.Credentials
