import Mathlib
import Tiai.Base
import Tiai.Lib.Rows
import Tiai.Lib.Runs
import Tiai.Lib.Sql

/-!
# The e-mail outbox

`features/notification/outbox.py`: every mail is a row before it is a request, and the worker, the only drainer,
tries the due rows in rounds.  A round commits after its last row, so that a crash before the commit leaves the rows
as they were while the provider may have accepted some of the mails.

* `queueEmail`, `sendPending`, `purgeSettled` — the operations, on a committed table and the log of what happened;
* `Inv` — what the table says agrees with the log;
* `Inv.attemptRow`, `Inv.step` — what one try keeps, and what one event keeps;
* `outbox_accounts` — over every run: each mail is accounted for, a purge spares pending mails, a round tries every
  mail of its batch, and the delays grow up to an hour.
-/

namespace Tiai.Outbox

open Lib

/-! ### Data -/

inductive EmailStatus
  | pending
  | sent
  | abandoned
  deriving DecidableEq, Repr

structure EmailOutbox where
  id : Uuid
  toAddress : String
  subject : String
  body : String
  status : EmailStatus
  attempts : ℕ
  createdAt : Time
  nextAttemptAt : Time
  sentAt : Option Time
  lastError : Option String
  deriving DecidableEq, Repr

def EmailOutbox.key (row : EmailOutbox) : Uuid := row.id

/-- The settings the outbox reads. -/
structure Config where
  emailMaxAttempts : ℤ
  emailOutboxRetentionDays : ℤ

/-- How `send_email` ends: it returns true, or false, or raises. -/
inductive Outcome
  | accepted
  | notConfigured
  | raised (error : String)
  deriving DecidableEq

/-- What happened to a mail: the provider accepted it, or a failure of it was committed, with the delay before the
next try unless it was given up. -/
inductive Entry
  | accepted (id : Uuid)
  | failed (id : Uuid) (delay : Option ℤ)
  deriving DecidableEq

def Entry.id : Entry → Uuid
  | .accepted id => id
  | .failed id _ => id

structure State where
  rows : List EmailOutbox
  /-- The ids drawn for the rows so far. -/
  queued : List Uuid
  log : List Entry

def start : State := ⟨[], [], []⟩

/-! ### The operations -/

/-- `RETRY_BASE_SECONDS`. -/
def retryBaseSeconds : ℕ := 60

/-- `RETRY_MAX_SECONDS`. -/
def retryMaxSeconds : ℕ := 3600

/-- `_retry_delay`. -/
def retryDelay (attempts : ℕ) : ℤ := seconds (min (retryBaseSeconds * 2 ^ (attempts - 1)) retryMaxSeconds)

/-- `queue_email`, of a caller that commits: a new id is none of those drawn before. -/
def queueEmail (enabled : Bool) (id : Uuid) (toAddress subject text : String) (now : Time) (s : State) : State :=
  if !enabled || toAddress = "" then s
  else if id ∈ s.queued then s
  else
    { s with
      rows := s.rows ++ [⟨id, toAddress, subject, text, .pending, 0, now, now, none, none⟩]
      queued := id :: s.queued }

/-- The row after a failure. -/
def EmailOutbox.fail (cfg : Config) (now : Time) (error : String) (row : EmailOutbox) : EmailOutbox :=
  let row := { row with attempts := row.attempts + 1, lastError := some error }
  if cfg.emailMaxAttempts ≤ row.attempts then { row with status := .abandoned }
  else { row with nextAttemptAt := now + retryDelay row.attempts }

def EmailOutbox.failure (cfg : Config) (row : EmailOutbox) : Entry :=
  if cfg.emailMaxAttempts ≤ row.attempts + 1 then .failed row.id none
  else .failed row.id (some (retryDelay (row.attempts + 1)))

/-- The body of the loop, for one row of the batch. -/
def attemptRow (cfg : Config) (clock : Uuid → Time) (outcome : Uuid → Outcome) (s : State) (row : EmailOutbox) : State :=
  match outcome row.id with
  | .accepted =>
    { s with
      rows := putRow EmailOutbox.key s.rows { row with status := .sent, sentAt := some (clock row.id) }
      log := s.log ++ [.accepted row.id] }
  | .notConfigured =>
    { s with
      rows := putRow EmailOutbox.key s.rows (row.fail cfg (clock row.id) "E-mail provider is not configured")
      log := s.log ++ [row.failure cfg] }
  | .raised error =>
    { s with
      rows := putRow EmailOutbox.key s.rows (row.fail cfg (clock row.id) (String.ofList (error.toList.take 500)))
      log := s.log ++ [row.failure cfg] }

/-- The due mails, oldest first, as many as fit in the batch. -/
def batch (now : Time) (batchSize : ℕ) (rows : List EmailOutbox) : List EmailOutbox :=
  (Sql.orderBy (fun a b => compare a.createdAt b.createdAt)
    (rows.filter fun row => row.status = .pending && row.nextAttemptAt ≤ now)).take batchSize

/-- A round: when it starts, what the clock and the provider say of each mail, and after how many tries the worker
dies before the commit, if it does. -/
structure Round where
  now : Time
  batchSize : ℕ
  clock : Uuid → Time
  outcome : Uuid → Outcome
  crash : Option ℕ

/-- `send_pending`. -/
def sendPending (cfg : Config) (r : Round) (s : State) : State :=
  let due := batch r.now r.batchSize s.rows
  match r.crash with
  | none => due.foldl (attemptRow cfg r.clock r.outcome) s
  | some tried =>
    { s with
      log := s.log ++ (((due.take tried).filter fun row => r.outcome row.id = .accepted).map fun row => .accepted row.id) }

/-- `purge_settled`. -/
def purgeSettled (cfg : Config) (now : Time) (s : State) : State :=
  let cutoff := now - cfg.emailOutboxRetentionDays * days 1
  { s with rows := s.rows.filter fun row => !((row.status = .sent || row.status = .abandoned) && row.createdAt < cutoff) }

inductive Event
  | queue (enabled : Bool) (id : Uuid) (toAddress subject text : String) (now : Time)
  | round (r : Round)
  | purge (now : Time)

def step (cfg : Config) (s : State) : Event → State
  | .queue enabled id toAddress subject text now => queueEmail enabled id toAddress subject text now s
  | .round r => sendPending cfg r s
  | .purge now => purgeSettled cfg now s

/-! ### What the log says of a mail -/

/-- How many failures of a mail were recorded. -/
def failures (id : Uuid) (log : List Entry) : ℕ :=
  log.countP fun e => match e with
    | .accepted _ => false
    | .failed i _ => i = id

/-- The delays of a mail's retries, in order. -/
def delays (id : Uuid) (log : List Entry) : List ℤ :=
  log.filterMap fun e => match e with
    | .accepted _ => none
    | .failed i delay => if i = id then delay else none

/-- After how many failures a mail is given up: one at least. -/
def Config.limit (cfg : Config) : ℤ := max 1 cfg.emailMaxAttempts

/-- A mail that was queued is pending, sent or abandoned, or was purged once it was sent or abandoned; what is sent was
accepted, and what is abandoned has failed as often as the limit says. -/
def Accounted (cfg : Config) (s : State) (id : Uuid) : Prop :=
  (∃ row ∈ s.rows, row.id = id ∧
    (row.status = .pending ∨ (row.status = .sent ∧ .accepted id ∈ s.log) ∨
      (row.status = .abandoned ∧ (failures id s.log : ℤ) = cfg.limit))) ∨
  ((∀ row ∈ s.rows, row.id ≠ id) ∧ (.accepted id ∈ s.log ∨ (failures id s.log : ℤ) = cfg.limit))

/-! ### The table and the log agree -/

structure Inv (cfg : Config) (s : State) : Prop where
  ids : (s.rows.map EmailOutbox.key).Nodup
  known : ∀ row ∈ s.rows, row.id ∈ s.queued
  counted : ∀ row ∈ s.rows, failures row.id s.log = row.attempts
  pending : ∀ row ∈ s.rows, row.status = .pending → (row.attempts : ℤ) < cfg.limit
  sent : ∀ row ∈ s.rows, row.status = .sent → .accepted row.id ∈ s.log
  abandoned : ∀ row ∈ s.rows, row.status = .abandoned → (row.attempts : ℤ) = cfg.limit
  purged : ∀ id ∈ s.queued, (∀ row ∈ s.rows, row.id ≠ id) →
    .accepted id ∈ s.log ∨ (failures id s.log : ℤ) = cfg.limit
  unknown : ∀ id, id ∉ s.queued → failures id s.log = 0
  delays : ∀ id, (delays id s.log).Pairwise (· ≤ ·) ∧ ∀ d ∈ delays id s.log, d ≤ retryDelay (failures id s.log)

section

variable {cfg : Config} {s : State} {row : EmailOutbox} {id : Uuid} {log more : List Entry} {clock : Uuid → Time}
  {outcome : Uuid → Outcome}

lemma Inv.accounted (h : Inv cfg s) (hid : id ∈ s.queued) : Accounted cfg s id := by
  by_cases hrow : ∃ row ∈ s.rows, row.id = id
  · obtain ⟨row, hrow, rfl⟩ := hrow
    refine Or.inl ⟨row, hrow, rfl, ?_⟩
    cases hstatus : row.status with
    | pending => exact Or.inl rfl
    | sent => exact Or.inr (Or.inl ⟨rfl, h.sent row hrow hstatus⟩)
    | abandoned =>
      refine Or.inr (Or.inr ⟨rfl, ?_⟩)
      rw [h.counted row hrow]
      exact h.abandoned row hrow hstatus
  · have hgone : ∀ row ∈ s.rows, row.id ≠ id := fun row hr he => hrow ⟨row, hr, he⟩
    exact Or.inr ⟨hgone, h.purged id hid hgone⟩

/-! ### The delays -/

lemma retryDelay_mono : Monotone retryDelay := by
  intro a b h
  have hpow : retryBaseSeconds * 2 ^ (a - 1) ≤ retryBaseSeconds * 2 ^ (b - 1) :=
    Nat.mul_le_mul_left _ (Nat.pow_le_pow_right (by decide) (by omega))
  unfold retryDelay seconds
  have hmin : min (retryBaseSeconds * 2 ^ (a - 1)) retryMaxSeconds ≤
      min (retryBaseSeconds * 2 ^ (b - 1)) retryMaxSeconds := min_le_min_right _ hpow
  omega

lemma retryDelay_le (attempts : ℕ) : retryDelay attempts ≤ seconds retryMaxSeconds := by
  unfold retryDelay seconds
  have hmin : min (retryBaseSeconds * 2 ^ (attempts - 1)) retryMaxSeconds ≤ retryMaxSeconds := min_le_right _ _
  omega

lemma failures_append : failures id (log ++ more) = failures id log + failures id more := List.countP_append ..

lemma delays_append : delays id (log ++ more) = delays id log ++ delays id more := List.filterMap_append ..

/-- Acceptances are neither failures nor retries. -/
lemma accepted_only (h : ∀ e ∈ more, ∃ i, e = .accepted i) : failures id more = 0 ∧ delays id more = [] := by
  constructor
  · refine List.countP_eq_zero.2 fun e he => ?_
    obtain ⟨i, rfl⟩ := h e he
    simp
  · refine List.filterMap_eq_nil_iff.2 fun e he => ?_
    obtain ⟨i, rfl⟩ := h e he
    rfl

/-- What the provider accepts before a crash changes no row. -/
lemma Inv.log_accepted (h : Inv cfg s) (hmore : ∀ e ∈ more, ∃ i, e = .accepted i) :
    Inv cfg { s with log := s.log ++ more } := by
  have hfailures : ∀ id, failures id (s.log ++ more) = failures id s.log := by
    intro id
    rw [failures_append, (accepted_only hmore).1, Nat.add_zero]
  have hdelays : ∀ id, Outbox.delays id (s.log ++ more) = Outbox.delays id s.log := by
    intro id
    rw [delays_append, (accepted_only hmore).2, List.append_nil]
  refine ⟨h.ids, h.known, fun row hrow => ?_, h.pending, fun row hrow hs => ?_, h.abandoned, fun id hid hgone => ?_,
    fun id hid => ?_, fun id => ?_⟩
  · exact (hfailures row.id).trans (h.counted row hrow)
  · exact List.mem_append_left _ (h.sent row hrow hs)
  · rcases h.purged id hid hgone with haccepted | hlimit
    · exact Or.inl (List.mem_append_left _ haccepted)
    · exact Or.inr (by rw [hfailures id]; exact hlimit)
  · exact (hfailures id).trans (h.unknown id hid)
  · rw [hdelays id, hfailures id]
    exact h.delays id

/-! ### One try -/

lemma failures_other {e : Entry} (h : e.id ≠ id) : failures id [e] = 0 := by
  cases e with
  | accepted i => rfl
  | failed i delay => exact List.countP_eq_zero.2 (by simpa [Entry.id] using h)

lemma delays_other {e : Entry} (h : e.id ≠ id) : Outbox.delays id [e] = [] := by
  cases e with
  | accepted i => rfl
  | failed i delay => exact List.filterMap_cons_none (if_neg h)

/-- A row takes the place of another of the same id, and one entry about it is logged. -/
lemma Inv.replace {row' : EmailOutbox} {e : Entry} (h : Inv cfg s) (hrow : row ∈ s.rows) (hid : row'.id = row.id)
    (he : e.id = row.id) (hcount : row'.attempts = row.attempts + failures row.id [e])
    (hpending : row'.status = .pending → (row'.attempts : ℤ) < cfg.limit)
    (hsent : row'.status = .sent → e = .accepted row.id)
    (habandoned : row'.status = .abandoned → (row'.attempts : ℤ) = cfg.limit)
    (hdelay : ∀ d ∈ Outbox.delays row.id [e], d = retryDelay row'.attempts) :
    Inv cfg { s with rows := putRow EmailOutbox.key s.rows row', log := s.log ++ [e] } := by
  have hkeys : (putRow EmailOutbox.key s.rows row').map EmailOutbox.key = s.rows.map EmailOutbox.key := map_key_putRow
  have hother : ∀ {id}, id ≠ row.id → failures id (s.log ++ [e]) = failures id s.log := by
    intro id hne
    rw [failures_append, failures_other (he.trans_ne hne.symm), Nat.add_zero]
  have hself : failures row.id (s.log ++ [e]) = row'.attempts := by
    rw [failures_append, h.counted row hrow, hcount]
  have hold : ∀ x ∈ putRow EmailOutbox.key s.rows row', x = row' ∨ x ∈ s.rows ∧ x.id ≠ row.id := by
    intro x hx
    rcases mem_putRow hx with rfl | ⟨hx, hne⟩
    · exact Or.inl rfl
    · exact Or.inr ⟨hx, fun heq => hne (heq.trans hid.symm)⟩
  refine ⟨hkeys ▸ h.ids, fun x hx => ?_, fun x hx => ?_, fun x hx hs => ?_, fun x hx hs => ?_, fun x hx hs => ?_,
    fun id hqueued hgone => ?_, fun id hqueued => ?_, fun id => ?_⟩
  · rcases hold x hx with rfl | ⟨hx, -⟩
    · rw [hid]
      exact h.known row hrow
    · exact h.known x hx
  · rcases hold x hx with rfl | ⟨hx, hne⟩
    · rw [hid]
      exact hself
    · rw [hother hne]
      exact h.counted x hx
  · rcases hold x hx with rfl | ⟨hx, -⟩
    · exact hpending hs
    · exact h.pending x hx hs
  · rcases hold x hx with rfl | ⟨hx, -⟩
    · rw [hid, hsent hs]
      exact List.mem_append_right _ (List.mem_singleton_self _)
    · exact List.mem_append_left _ (h.sent x hx hs)
  · rcases hold x hx with rfl | ⟨hx, -⟩
    · exact habandoned hs
    · exact h.abandoned x hx hs
  · have hne : id ≠ row.id := by
      rintro rfl
      have hmem : EmailOutbox.key row' ∈ s.rows.map EmailOutbox.key :=
        (show EmailOutbox.key row' = EmailOutbox.key row from hid) ▸ List.mem_map_of_mem hrow
      exact hgone row' (mem_putRow_self hmem) hid
    have hgone' : ∀ x ∈ s.rows, x.id ≠ id := fun x hx heq =>
      hgone x (mem_putRow_of_ne hx fun hk => hne (heq.symm.trans (hk.trans hid))) heq
    rcases h.purged id hqueued hgone' with haccepted | hlimit
    · exact Or.inl (List.mem_append_left _ haccepted)
    · exact Or.inr (by rw [hother hne]; exact hlimit)
  · have hne : id ≠ row.id := by
      rintro rfl
      exact hqueued (h.known row hrow)
    rw [hother hne]
    exact h.unknown id hqueued
  · obtain ⟨hsorted, hbound⟩ := h.delays id
    by_cases hne : id = row.id
    · subst hne
      have hfailures := h.counted row hrow
      have hgrown : retryDelay (failures row.id s.log) ≤ retryDelay row'.attempts :=
        retryDelay_mono (by omega)
      rw [delays_append, hself, List.pairwise_append]
      refine ⟨⟨hsorted, ?_, fun d hd d' hd' => ?_⟩, fun d hd => ?_⟩
      · refine List.pairwise_of_forall_mem_list fun d hd d' hd' => ?_
        rw [hdelay d hd, hdelay d' hd']
      · rw [hdelay d' hd']
        exact (hbound d hd).trans hgrown
      · rcases List.mem_append.1 hd with hd | hd
        · exact (hbound d hd).trans hgrown
        · exact (hdelay d hd).le
    · rw [delays_append, delays_other (he.trans_ne (Ne.symm hne)), List.append_nil, hother hne]
      exact ⟨hsorted, hbound⟩

/-- Every try either sends the row or records a failure of it. -/
lemma attemptRow_cases (cfg : Config) (clock : Uuid → Time) (outcome : Uuid → Outcome) (s : State)
    (row : EmailOutbox) :
    (∃ sentAt, attemptRow cfg clock outcome s row =
      { s with
        rows := putRow EmailOutbox.key s.rows { row with status := .sent, sentAt := some sentAt }
        log := s.log ++ [.accepted row.id] }) ∨
    ∃ now error, attemptRow cfg clock outcome s row =
      { s with
        rows := putRow EmailOutbox.key s.rows (row.fail cfg now error)
        log := s.log ++ [row.failure cfg] } := by
  unfold attemptRow
  cases outcome row.id with
  | accepted => exact Or.inl ⟨_, rfl⟩
  | notConfigured => exact Or.inr ⟨_, _, rfl⟩
  | raised error => exact Or.inr ⟨_, _, rfl⟩

lemma Inv.attemptRow (h : Inv cfg s) (hrow : row ∈ s.rows) (hstatus : row.status = .pending) :
    Inv cfg (attemptRow cfg clock outcome s row) := by
  rcases attemptRow_cases cfg clock outcome s row with ⟨sentAt, hsent⟩ | ⟨now, error, hfail⟩
  · rw [hsent]
    refine h.replace hrow rfl rfl rfl (fun hs => by cases hs) (fun _ => rfl) (fun hs => by cases hs) fun d hd => ?_
    cases hd
  · rw [hfail]
    have hattempts := h.pending row hrow hstatus
    unfold Config.limit at hattempts
    by_cases hlast : cfg.emailMaxAttempts ≤ (row.attempts : ℤ) + 1
    · have hrow' : row.fail cfg now error =
          { row with attempts := row.attempts + 1, lastError := some error, status := .abandoned } :=
        if_pos (by push_cast; exact hlast)
      have hentry : row.failure cfg = .failed row.id none := if_pos hlast
      rw [hrow', hentry]
      refine h.replace hrow rfl rfl ?_ (fun hs => by cases hs) (fun hs => by cases hs) (fun _ => ?_) fun d hd => ?_
      · simp [failures]
      · unfold Config.limit
        push_cast
        omega
      · simp [Outbox.delays] at hd
    · have hrow' : row.fail cfg now error =
          { row with
            attempts := row.attempts + 1
            lastError := some error
            nextAttemptAt := now + retryDelay (row.attempts + 1) } := if_neg (by push_cast; exact hlast)
      have hentry : row.failure cfg = .failed row.id (some (retryDelay (row.attempts + 1))) := if_neg hlast
      rw [hrow', hentry]
      refine h.replace hrow rfl rfl ?_ (fun _ => ?_) (fun hs => ?_) (fun hs => ?_) fun d hd => ?_
      · simp [failures]
      · unfold Config.limit
        push_cast
        omega
      · rw [hstatus] at hs
        cases hs
      · rw [hstatus] at hs
        cases hs
      · simp [Outbox.delays] at hd
        exact hd

/-- A try leaves the other rows as they are. -/
lemma mem_attemptRow {x : EmailOutbox} (hx : x ∈ s.rows) (hne : x.id ≠ row.id) :
    x ∈ (attemptRow cfg clock outcome s row).rows := by
  rcases attemptRow_cases cfg clock outcome s row with ⟨sentAt, hsent⟩ | ⟨now, error, hfail⟩
  · rw [hsent]
    exact mem_putRow_of_ne hx hne
  · rw [hfail]
    have hid : (row.fail cfg now error).id = row.id := by
      unfold EmailOutbox.fail
      dsimp only
      split <;> rfl
    exact mem_putRow_of_ne hx fun hk => hne (hk.trans hid)

lemma id_of_logged (cfg : Config) (clock : Uuid → Time) (outcome : Uuid → Outcome) (s : State) (row : EmailOutbox) :
    ∃ e, (attemptRow cfg clock outcome s row).log = s.log ++ [e] ∧ e.id = row.id := by
  rcases attemptRow_cases cfg clock outcome s row with ⟨sentAt, hsent⟩ | ⟨now, error, hfail⟩
  · rw [hsent]
    exact ⟨_, rfl, rfl⟩
  · rw [hfail]
    refine ⟨_, rfl, ?_⟩
    unfold EmailOutbox.failure
    split <;> rfl

/-! ### A round -/

/-- The rows of a batch are pending rows of the table, each once. -/
structure Pending (s : State) (rows : List EmailOutbox) : Prop where
  mem : ∀ row ∈ rows, row ∈ s.rows ∧ row.status = .pending
  ids : (rows.map EmailOutbox.key).Nodup

lemma pending_batch (h : Inv cfg s) (now : Time) (batchSize : ℕ) : Pending s (batch now batchSize s.rows) where
  mem row hrow := by
    have hsorted := (List.mergeSort_perm _ _).mem_iff.1 (List.mem_of_mem_take hrow)
    obtain ⟨hmem, hdue⟩ := List.mem_filter.1 hsorted
    exact ⟨hmem, of_decide_eq_true (Bool.and_eq_true_iff.1 hdue).1⟩
  ids := by
    have hfilter : ((s.rows.filter fun row => row.status = .pending && row.nextAttemptAt ≤ now).map
        EmailOutbox.key).Nodup := h.ids.sublist (List.filter_sublist.map _)
    have hsorted := ((List.mergeSort_perm _ fun a b => (compare a.createdAt b.createdAt).isLE).map
      EmailOutbox.key).nodup_iff.2 hfilter
    exact hsorted.sublist ((List.take_sublist _ _).map _)

/-- The tries of a round, one after the other. -/
lemma Inv.foldl_attemptRow {rows : List EmailOutbox} (h : Inv cfg s) (hrows : Pending s rows) :
    Inv cfg (rows.foldl (Outbox.attemptRow cfg clock outcome) s) := by
  induction rows generalizing s with
  | nil => exact h
  | cons row rows ih =>
    obtain ⟨hrow, hstatus⟩ := hrows.mem row List.mem_cons_self
    have hids := hrows.ids
    rw [List.map_cons, List.nodup_cons] at hids
    refine ih (h.attemptRow hrow hstatus) ⟨fun x hx => ?_, hids.2⟩
    obtain ⟨hmem, hpending⟩ := hrows.mem x (List.mem_cons_of_mem _ hx)
    refine ⟨mem_attemptRow hmem fun heq => hids.1 ?_, hpending⟩
    rw [show EmailOutbox.key row = EmailOutbox.key x from heq.symm]
    exact List.mem_map_of_mem hx

/-- A round that is not cut short tries every mail of its batch once, whatever becomes of the others. -/
lemma log_foldl_attemptRow (rows : List EmailOutbox) : ∃ entries,
    (rows.foldl (Outbox.attemptRow cfg clock outcome) s).log = s.log ++ entries ∧
      entries.map Entry.id = rows.map EmailOutbox.id := by
  induction rows generalizing s with
  | nil => exact ⟨[], (List.append_nil _).symm, rfl⟩
  | cons row rows ih =>
    obtain ⟨e, he, hid⟩ := id_of_logged cfg clock outcome s row
    obtain ⟨entries, hentries, hids⟩ := @ih (Outbox.attemptRow cfg clock outcome s row)
    refine ⟨e :: entries, ?_, by rw [List.map_cons, List.map_cons, hid, hids]⟩
    rw [List.foldl_cons, hentries, he, List.append_assoc]
    rfl

/-! ### A run -/

lemma Inv.queueEmail (h : Inv cfg s) (enabled : Bool) (id : Uuid) (toAddress subject text : String) (now : Time) :
    Inv cfg (queueEmail enabled id toAddress subject text now s) := by
  unfold Outbox.queueEmail
  split
  · exact h
  split
  · exact h
  rename_i hnew
  have hfresh : ∀ row ∈ s.rows, row.id ≠ id := fun row hrow heq => hnew (heq ▸ h.known row hrow)
  have hrows : ∀ row ∈ s.rows ++ [⟨id, toAddress, subject, text, .pending, 0, now, now, none, none⟩],
      row ∈ s.rows ∨ row = ⟨id, toAddress, subject, text, .pending, 0, now, now, none, none⟩ := by
    intro row hrow
    rw [List.mem_append, List.mem_singleton] at hrow
    exact hrow
  refine ⟨?_, fun row hrow => ?_, fun row hrow => ?_, fun row hrow hs => ?_, fun row hrow hs => ?_,
    fun row hrow hs => ?_, fun i hi hgone => ?_, fun i hi => ?_, h.delays⟩
  · rw [List.map_append, List.nodup_append]
    refine ⟨h.ids, List.nodup_singleton _, fun a ha b hb hab => ?_⟩
    obtain ⟨row, hrow, rfl⟩ := List.mem_map.1 ha
    rw [List.map_singleton, List.mem_singleton] at hb
    exact hfresh row hrow (hab.trans hb)
  · rcases hrows row hrow with hold | rfl
    · exact List.mem_cons_of_mem _ (h.known row hold)
    · exact List.mem_cons_self
  · rcases hrows row hrow with hold | rfl
    · exact h.counted row hold
    · exact h.unknown id hnew
  · rcases hrows row hrow with hold | rfl
    · exact h.pending row hold hs
    · exact lt_of_lt_of_le Int.zero_lt_one (le_max_left _ _)
  · rcases hrows row hrow with hold | rfl
    · exact h.sent row hold hs
    · cases hs
  · rcases hrows row hrow with hold | rfl
    · exact h.abandoned row hold hs
    · cases hs
  · rcases List.mem_cons.1 hi with rfl | hi
    · exact absurd rfl (hgone _ (List.mem_append_right _ (List.mem_singleton_self _)))
    · exact h.purged i hi fun row hrow => hgone row (List.mem_append_left _ hrow)
  · exact h.unknown i fun hmem => hi (List.mem_cons_of_mem _ hmem)

/-- A purge takes settled rows only, and what it takes is accounted for in the log. -/
lemma Inv.purgeSettled (h : Inv cfg s) (now : Time) : Inv cfg (purgeSettled cfg now s) := by
  have hmem : ∀ row ∈ (Outbox.purgeSettled cfg now s).rows, row ∈ s.rows := fun row hrow => (List.mem_filter.1 hrow).1
  refine ⟨h.ids.sublist (List.filter_sublist.map _), fun row hrow => h.known row (hmem row hrow),
    fun row hrow => h.counted row (hmem row hrow), fun row hrow => h.pending row (hmem row hrow),
    fun row hrow => h.sent row (hmem row hrow), fun row hrow => h.abandoned row (hmem row hrow),
    fun id hid hgone => ?_, h.unknown, h.delays⟩
  by_cases hrow : ∃ row ∈ s.rows, row.id = id
  · obtain ⟨row, hrow, rfl⟩ := hrow
    cases hstatus : row.status with
    | pending =>
      have hkept : row ∈ (Outbox.purgeSettled cfg now s).rows := List.mem_filter.2 ⟨hrow, by simp [hstatus]⟩
      exact absurd rfl (hgone row hkept)
    | sent => exact Or.inl (h.sent row hrow hstatus)
    | abandoned =>
      refine Or.inr ?_
      rw [show (Outbox.purgeSettled cfg now s).log = s.log from rfl, h.counted row hrow]
      exact h.abandoned row hrow hstatus
  · exact h.purged id hid fun row hr heq => hrow ⟨row, hr, heq⟩

/-- **One event keeps the table and the log in agreement.** -/
theorem Inv.step (h : Inv cfg s) (e : Event) : Inv cfg (step cfg s e) := by
  cases e with
  | queue enabled id toAddress subject text now => exact h.queueEmail enabled id toAddress subject text now
  | purge now => exact h.purgeSettled now
  | round r =>
    change Inv cfg (sendPending cfg r s)
    unfold sendPending
    cases r.crash with
    | none => exact h.foldl_attemptRow (pending_batch h r.now r.batchSize)
    | some tried =>
      refine h.log_accepted fun e he => ?_
      obtain ⟨row, -, rfl⟩ := List.mem_map.1 he
      exact ⟨row.id, rfl⟩

lemma inv_start (cfg : Config) : Inv cfg start where
  ids := List.nodup_nil
  known _ hrow := absurd hrow List.not_mem_nil
  counted _ hrow := absurd hrow List.not_mem_nil
  pending _ hrow := absurd hrow List.not_mem_nil
  sent _ hrow := absurd hrow List.not_mem_nil
  abandoned _ hrow := absurd hrow List.not_mem_nil
  purged _ hid := absurd hid List.not_mem_nil
  unknown _ _ := rfl
  delays _ := ⟨List.Pairwise.nil, fun _ hd => absurd hd List.not_mem_nil⟩

end

/-- **The outbox accounts for every mail.**  After any run of commits of queued mails, rounds that end or crash, and
purges: every mail that was queued is pending, sent after the provider accepted it, or abandoned after exactly as many
recorded failures as the limit says, or was purged once it was sent or abandoned; a purge would leave every pending
row; a round that does not crash would try every mail of its batch; and the delays of a mail's retries never decrease
and never exceed an hour. -/
theorem outbox_accounts (cfg : Config) (events : List Event) :
    (∀ id ∈ (run (step cfg) start events).queued, Accounted cfg (run (step cfg) start events) id) ∧
    (∀ now, ∀ row ∈ (run (step cfg) start events).rows, row.status = .pending →
      row ∈ (purgeSettled cfg now (run (step cfg) start events)).rows) ∧
    (∀ r : Round, r.crash = none → ∃ entries,
      (sendPending cfg r (run (step cfg) start events)).log = (run (step cfg) start events).log ++ entries ∧
      entries.map Entry.id = (batch r.now r.batchSize (run (step cfg) start events).rows).map EmailOutbox.id) ∧
    ∀ id, (delays id (run (step cfg) start events).log).Pairwise (· ≤ ·) ∧
      ∀ d ∈ delays id (run (step cfg) start events).log, d ≤ seconds 3600 := by
  have h : Inv cfg (run (step cfg) start events) := run_invariant (fun _ e h => h.step e) (inv_start cfg) events
  refine ⟨fun id hid => h.accounted hid, fun now row hrow hstatus => ?_, fun r hr => ?_, fun id => ?_⟩
  · exact List.mem_filter.2 ⟨hrow, by simp [hstatus]⟩
  · unfold sendPending
    rw [hr]
    exact log_foldl_attemptRow _
  · obtain ⟨hsorted, hbound⟩ := h.delays id
    exact ⟨hsorted, fun d hd => (hbound d hd).trans (retryDelay_le _)⟩

/-- With `EMAIL_MAX_ATTEMPTS=0`, a mail is abandoned after one failure. -/
theorem abandoned_after_one :
    let cfg : Config := ⟨0, 30⟩
    let s := run (step cfg) start
      [.queue true 7 "anna@parc.test" "Alerte" "…" 0, .round ⟨60, 50, fun _ => 61, fun _ => .notConfigured, none⟩]
    s.rows.map (fun row => (row.id, row.status)) = [(7, .abandoned)] ∧ failures 7 s.log = 1 ∧
      (failures 7 s.log : ℤ) ≠ cfg.emailMaxAttempts := by
  intro cfg s
  have hqueue : queueEmail true 7 "anna@parc.test" "Alerte" "…" 0 start =
      ⟨[⟨7, "anna@parc.test", "Alerte", "…", .pending, 0, 0, 0, none, none⟩], [7], []⟩ := by
    simp [queueEmail, start]
  have hbatch : ∀ row : EmailOutbox, row.status = .pending → row.nextAttemptAt = 0 → batch 60 50 [row] = [row] := by
    intro row hstatus hdue
    unfold batch Sql.orderBy
    rw [List.filter_cons_of_pos (by simp [hstatus, hdue]), List.filter_nil, List.mergeSort_singleton]
    rfl
  have hs : s = ⟨[⟨7, "anna@parc.test", "Alerte", "…", .abandoned, 1, 0, 0, none,
      some "E-mail provider is not configured"⟩], [7], [.failed 7 none]⟩ := by
    simp only [s, run_cons, run_nil, step, hqueue, sendPending]
    rw [hbatch _ rfl rfl]
    rfl
  rw [hs]
  decide

end Tiai.Outbox
