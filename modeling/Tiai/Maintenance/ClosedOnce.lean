import Tiai.Maintenance.Checks

/-!
# A verification request is closed once

What holds of the requests in every interleaving, and what holds of the journal in those where no commit is disturbed.

* `Sane` — the rows and the transactions under way, in every state;
* `OneOpen`, `closings` — one open request per poste, and a request is closed once, whatever happens;
* `Paired` — the journal tells each request that the route has closed, once;
* `closed_once` — the three of them, in a run where every commit finds its rows as it read them;
* `not_closed_once` — two closings at a time are told twice.
-/

namespace Tiai.Checks

open Lib
open Merge (MachineCheck Intervention NotBothOpen checkOwner journalOwner openForMachine superseded)
open Journal (InterventionKind entryKey)

/-! ### The laws -/

/-- The open requests of a poste. -/
def openOf (db : Db) (machineId : Uuid) : List MachineCheck :=
  db.checks.filter fun k => k.machineId = machineId ∧ k.closedAt = none

def OneOpen (db : Db) : Prop := ∀ machineId, (openOf db machineId).length ≤ 1

def isOpen (db : Db) (id : Uuid) : Bool := db.checks.any fun k => k.id = id ∧ k.closedAt = none

def isClosed (db : Db) (id : Uuid) : Bool := db.checks.any fun k => k.id = id ∧ k.closedAt ≠ none

/-- How many steps of a run close the request. -/
def closings (id : Uuid) : State → List Event → ℕ
  | _, [] => 0
  | s, e :: es => (isOpen s.db id && isClosed (step s e).db id).toNat + closings id (step s e) es

/-- The verifications that a journal has of a request. -/
def entriesOf (journal : List Intervention) (id : Uuid) : List Intervention :=
  journal.filter fun i => i.checkId = some id ∧ i.kind = InterventionKind.verification.value

/-- The journal tells of the request once, with its note and its date. -/
def Told (journal : List Intervention) (k : MachineCheck) : Prop :=
  ∃ i, entriesOf journal k.id = [i] ∧ i.note = k.closingNote ∧ k.closedAt = some i.performedAt

def Paired (s : State) : Prop := ∀ k ∈ s.db.checks, k.id ∈ s.byRoute → Told s.db.interventions k

/-- What the commit of a transaction has to find.  For a closing, the request open, if its poste is still there.  For
a merge: the route has not closed the request that it closes, and an entry of the source that it has not moved is of no
request that stays. -/
def Txn.Undisturbed (s : State) : Txn → Prop
  | .close read _ => read.machineId ∈ s.db.machines → ∀ k ∈ s.db.checks, k.id = read.id → k.closedAt = none
  | .merge _ sourceId _ (.requests entries closes moved) =>
    (∀ read ∈ closes, read.id ∉ s.byRoute) ∧
      ∀ i ∈ s.db.interventions, i.machineId = sourceId → i.id ∉ entries →
        ∀ k ∈ s.db.checks, i.checkId = some k.id → k.machineId = sourceId ∧ k.id ∉ moved
  | _ => True

def Undisturbed (s : State) : Event → Prop
  | .commit n => ∀ txn ∈ s.pending.get n, txn.Undisturbed s
  | _ => True

instance (s : State) : (txn : Txn) → Decidable (txn.Undisturbed s)
  | .close _ _ => by unfold Txn.Undisturbed; infer_instance
  | .merge _ _ _ (.requests _ _ _) => by unfold Txn.Undisturbed; infer_instance
  | .merge _ _ _ .begun | .merge _ _ _ (.journal _) | .merge _ _ _ (.targetRead _ _)
  | .merge _ _ _ (.sourceRead _ _) | .create _ | .update _ _ => isTrue trivial

instance (s : State) : (e : Event) → Decidable (Undisturbed s e)
  | .commit n => by unfold Undisturbed; infer_instance
  | .request _ _ _ | .statement _ | .abort _ => isTrue trivial

/-! ### What is always true -/

/-- The request that a merge closes, once it has read it. -/
def Merging.closes : Merging → Option MachineCheck
  | .sourceRead _ closes | .requests _ closes _ => closes
  | _ => none

/-- What a transaction has read, and what it leaves alone. -/
def Txn.Sane (next : ℕ) : Txn → Prop
  | .create _ => True
  | .update read new => new.closedAt = read.closedAt ∧ new.closingNote = read.closingNote
  | .close read _ => read.id < next ∧ read.closedAt = none ∧ read.closingNote = none
  | .merge targetId sourceId _ progress => targetId ≠ sourceId ∧ ∀ read ∈ progress.closes, read.closedAt = none

/-- What is true of a state, in every run. -/
structure Sane (s : State) : Prop where
  ids : (s.db.checks.map MachineCheck.id).Nodup
  below : ∀ k ∈ s.db.checks, k.id < s.next
  oneOpen : s.db.checks.Pairwise NotBothOpen
  blank : ∀ k ∈ s.db.checks, k.closedAt = none → k.closingNote = none
  entriesBelow : ∀ i ∈ s.db.interventions, ∀ id, i.checkId = some id → id < s.next
  untold : ∀ k ∈ s.db.checks, k.closedAt = none → ∀ i ∈ s.db.interventions, i.checkId ≠ some k.id
  routeBelow : ∀ id ∈ s.byRoute, id < s.next
  routeClosed : ∀ k ∈ s.db.checks, k.id ∈ s.byRoute → k.closedAt ≠ none
  pending : ∀ n txn, s.pending.get n = some txn → txn.Sane s.next

/-- What a commit that adds no request makes of the rows; `closes` are those that the route closes. -/
structure Evolves (db db' : Db) (closes : List Uuid) : Prop where
  ids : (db'.checks.map MachineCheck.id).Sublist (db.checks.map MachineCheck.id)
  rows : ∀ k' ∈ db'.checks, ∃ k ∈ db.checks, k.id = k'.id ∧
    (k'.closedAt = none → k.closedAt = none ∧ k'.closingNote = k.closingNote)
  entries : ∀ i ∈ db'.interventions, ∀ id, i.checkId = some id →
    (∃ j ∈ db.interventions, j.checkId = some id) ∨ id ∈ closes
  closed : ∀ k' ∈ db'.checks, k'.id ∈ closes → k'.closedAt ≠ none

section Rows

variable {read new k : MachineCheck} {checks checks' : List MachineCheck}

/-- A transaction that leaves the date and the note alone. -/
lemma writeBack_untouched (hdate : new.closedAt = read.closedAt) (hnote : new.closingNote = read.closingNote) :
    (rowWriteBack read new k).closedAt = k.closedAt ∧ (rowWriteBack read new k).closingNote = k.closingNote := by
  unfold rowWriteBack
  rw [hdate, hnote, writeBack_of_eq, writeBack_of_eq]
  exact ⟨rfl, rfl⟩

/-- A transaction that has read the request open, and closes it. -/
lemma writeBack_closed {t : Time} (hread : read.closedAt = none) (hnew : new.closedAt = some t) :
    (rowWriteBack read new k).closedAt = some t := by
  change writeBack read.closedAt new.closedAt k.closedAt = some t
  rw [hread, hnew]
  exact writeBack_of_ne (Option.some_ne_none t) k.closedAt

lemma updateRow_eq (h : updateRow checks read new = some checks') :
    checks' = checks.map fun k => if k.id = read.id then rowWriteBack read new k else k := by
  unfold updateRow at h
  split at h
  · exact (Option.some.inj h).symm
  · cases h

/-- The row that an `UPDATE` leaves. -/
lemma mem_updated {k' : MachineCheck}
    (h : k' ∈ checks.map fun k => if k.id = read.id then rowWriteBack read new k else k) :
    ∃ k ∈ checks, k.id = k'.id ∧
      ((k.id = read.id ∧ k' = rowWriteBack read new k) ∨ (k.id ≠ read.id ∧ k' = k)) := by
  obtain ⟨k, hk, rfl⟩ := List.mem_map.1 h
  by_cases hid : k.id = read.id
  · rw [if_pos hid]
    exact ⟨k, hk, rfl, .inl ⟨hid, rfl⟩⟩
  · rw [if_neg hid]
    exact ⟨k, hk, rfl, .inr ⟨hid, rfl⟩⟩

lemma map_id_updated : (checks.map fun k => if k.id = read.id then rowWriteBack read new k else k).map
    MachineCheck.id = checks.map MachineCheck.id := by
  rw [List.map_map]
  refine List.map_congr_left fun k _ => ?_
  rw [Function.comp_apply]
  split <;> rfl

lemma flush_eq {db db' : Db} (h : flush db = some db') : db' = db ∧ db.checks.Pairwise NotBothOpen := by
  unfold flush at h
  split at h
  · rename_i hone
    exact ⟨(Option.some.inj h).symm, hone⟩
  · cases h

/-- The rows that a creation adds. -/
lemma mem_rows {next : Uuid} {new : List NewCheck} (h : k ∈ rows next new) :
    next ≤ k.id ∧ k.id < next + new.length ∧ k.closedAt = none ∧ k.closingNote = none := by
  induction new generalizing next with
  | nil => cases h
  | cons c cs ih =>
    rw [List.length_cons]
    rcases List.mem_cons.1 h with rfl | h
    · exact ⟨Nat.le_refl next, Nat.lt_add_of_pos_right (Nat.succ_pos _), rfl, rfl⟩
    · obtain ⟨hle, hlt, hopen⟩ := ih h
      rw [Nat.add_right_comm] at hlt
      exact ⟨Nat.le_of_succ_le hle, hlt, hopen⟩

lemma nodup_rows (next : Uuid) (new : List NewCheck) : ((rows next new).map MachineCheck.id).Nodup := by
  induction new generalizing next with
  | nil => exact List.nodup_nil
  | cons c cs ih =>
    refine List.nodup_cons.2 ⟨fun hmem => ?_, ih (next + 1)⟩
    obtain ⟨k, hk, hid⟩ := List.mem_map.1 hmem
    have hle := (mem_rows hk).1
    rw [hid] at hle
    exact Nat.not_succ_le_self next hle

end Rows

section Writes

variable {db db' db'' : Db} {read new : MachineCheck} {closes : List Uuid} {next : ℕ}

lemma Evolves.trans (h : Evolves db db' closes) (h' : Evolves db' db'' []) : Evolves db db'' closes where
  ids := h'.ids.trans h.ids
  rows k'' hk'' := by
    obtain ⟨k', hk', hid', hopen'⟩ := h'.rows k'' hk''
    obtain ⟨k, hk, hid, hopen⟩ := h.rows k' hk'
    refine ⟨k, hk, hid.trans hid', fun hnone => ?_⟩
    obtain ⟨hnone', hnote'⟩ := hopen' hnone
    obtain ⟨hnone, hnote⟩ := hopen hnone'
    exact ⟨hnone, hnote'.trans hnote⟩
  entries i hi id hc := by
    rcases h'.entries i hi id hc with ⟨j, hj, hjc⟩ | hnil
    · exact h.entries j hj id hjc
    · cases hnil
  closed k'' hk'' hid hnone := by
    obtain ⟨k', hk', hid', hopen'⟩ := h'.rows k'' hk''
    exact h.closed k' hk' (hid'.symm ▸ hid) (hopen' hnone).1

/-- A row is written, and closed if it was to be. -/
lemma evolves_updated (hrow : ∀ k, (rowWriteBack read new k).closedAt = none →
      k.closedAt = none ∧ (rowWriteBack read new k).closingNote = k.closingNote)
    (hentries : ∀ i ∈ db'.interventions, ∀ id, i.checkId = some id →
      (∃ j ∈ db.interventions, j.checkId = some id) ∨ id ∈ closes)
    (hclosed : ∀ k, closes ⊆ [read.id] ∧ (closes ≠ [] → (rowWriteBack read new k).closedAt ≠ none))
    (hchecks : db'.checks = db.checks.map fun k => if k.id = read.id then rowWriteBack read new k else k) :
    Evolves db db' closes where
  ids := by
    rw [hchecks, map_id_updated]
  rows k' hk' := by
    rw [hchecks] at hk'
    obtain ⟨k, hk, hid, ⟨-, rfl⟩ | ⟨-, rfl⟩⟩ := mem_updated hk'
    · exact ⟨k, hk, hid, hrow k⟩
    · exact ⟨k', hk, hid, fun hnone => ⟨hnone, rfl⟩⟩
  entries := hentries
  closed k' hk' hid := by
    rw [hchecks] at hk'
    obtain ⟨k, hk, hid', ⟨-, rfl⟩ | ⟨hne, rfl⟩⟩ := mem_updated hk'
    · exact (hclosed k).2 (List.ne_nil_of_mem hid)
    · exact absurd (List.mem_singleton.1 ((hclosed k').1 hid)) hne

lemma moveCheck_same (targetId : Uuid) (moved : List Uuid) (k : MachineCheck) :
    (moveCheck targetId moved k).id = k.id ∧ (moveCheck targetId moved k).closedAt = k.closedAt ∧
      (moveCheck targetId moved k).closingNote = k.closingNote := by
  unfold moveCheck
  split
  · exact ⟨rfl, rfl, rfl⟩
  · exact ⟨rfl, rfl, rfl⟩

lemma moveEntry_same (targetId : Uuid) (entries : List Uuid) (i : Intervention) :
    (moveEntry targetId entries i).checkId = i.checkId ∧ (moveEntry targetId entries i).kind = i.kind ∧
      (moveEntry targetId entries i).note = i.note ∧ (moveEntry targetId entries i).performedAt = i.performedAt := by
  unfold moveEntry
  split
  · exact ⟨rfl, rfl, rfl, rfl⟩
  · exact ⟨rfl, rfl, rfl, rfl⟩

lemma evolves_moved (targetId : Uuid) (entries moved : List Uuid) : Evolves db (db.moved targetId entries moved) [] where
  ids := by
    change ((db.checks.map (moveCheck targetId moved)).map MachineCheck.id).Sublist _
    rw [List.map_map, List.map_congr_left (g := MachineCheck.id)]
    exact fun k _ => (moveCheck_same targetId moved k).1
  rows k' hk' := by
    obtain ⟨k, hk, rfl⟩ := List.mem_map.1 hk'
    obtain ⟨hid, hdate, hnote⟩ := moveCheck_same targetId moved k
    exact ⟨k, hk, hid.symm, fun hnone => ⟨hdate ▸ hnone, hnote⟩⟩
  entries i hi id hc := by
    obtain ⟨j, hj, rfl⟩ := List.mem_map.1 hi
    exact .inl ⟨j, hj, (moveEntry_same targetId entries j).1 ▸ hc⟩
  closed _ _ hid := nomatch hid

lemma evolves_deleteMachine (id : Uuid) : Evolves db (db.deleteMachine id) [] where
  ids := List.filter_sublist.map MachineCheck.id
  rows k' hk' := ⟨k', (checkOwner.mem_without.1 hk').1, rfl, fun hnone => ⟨hnone, rfl⟩⟩
  entries i hi c hc := by
    obtain ⟨j, hj, rfl⟩ := List.mem_map.1 hi
    exact .inl ⟨j, (journalOwner.mem_without.1 hj).1, (Option.filter_eq_some_iff.1 hc).1⟩
  closed _ _ hid := nomatch hid

lemma write_create {new : List NewCheck} (h : (Txn.create new).write db next = some db') :
    db' = { db with checks := db.checks ++ rows next new } ∧ (db.checks ++ rows next new).Pairwise NotBothOpen := by
  change (if _ then _ else none) = _ at h
  split at h
  · exact flush_eq h
  · cases h

lemma write_update (h : (Txn.update read new).write db next = some db') :
    db'.interventions = db.interventions ∧ db'.checks.Pairwise NotBothOpen ∧
      db'.checks = db.checks.map fun k => if k.id = read.id then rowWriteBack read new k else k := by
  obtain ⟨checks, hchecks, h⟩ := Option.bind_eq_some_iff.1 h
  obtain ⟨rfl, hone⟩ := flush_eq h
  exact ⟨rfl, hone, updateRow_eq hchecks⟩

lemma write_close {closing : Closing} (h : (Txn.close read closing).write db next = some db') :
    read.machineId ∈ db.machines ∧ db'.interventions = db.interventions ++ [closingEntry closing read next] ∧
      db'.checks.Pairwise NotBothOpen ∧
      db'.checks = db.checks.map fun k => if k.id = read.id then rowWriteBack read (closed closing read) k else k := by
  obtain ⟨checks, hchecks, h⟩ := Option.bind_eq_some_iff.1 h
  split at h
  · rename_i hmachine
    obtain ⟨rfl, hone⟩ := flush_eq h
    exact ⟨hmachine, rfl, hone, updateRow_eq hchecks⟩
  · cases h

/-- What a merge makes of the requests before it moves them. -/
def afterClosing (db : Db) (closes : Option MachineCheck) (now : Time) : Db :=
  match closes with
  | some read =>
    { db with checks := db.checks.map fun k => if k.id = read.id then rowWriteBack read (superseded now read) k else k }
  | none => db

lemma write_merge {targetId sourceId : Uuid} {now : Time} {progress : Merging}
    (h : (Txn.merge targetId sourceId now progress).write db next = some db') :
    ∃ entries closes moved, progress = .requests entries closes moved ∧ db'.checks.Pairwise NotBothOpen ∧
      db' = ((afterClosing db closes now).moved targetId entries moved).deleteMachine sourceId := by
  cases progress with
  | requests entries closes moved =>
    refine ⟨entries, closes, moved, rfl, ?_⟩
    obtain ⟨checks, hchecks, h⟩ := Option.bind_eq_some_iff.1 h
    split at h
    · obtain ⟨rfl, hone⟩ := flush_eq h
      refine ⟨hone, ?_⟩
      cases closes with
      | none =>
        obtain rfl := Option.some.inj hchecks
        rfl
      | some read =>
        rw [updateRow_eq hchecks]
        rfl
    · cases h
  | begun => cases h
  | journal => cases h
  | targetRead => cases h
  | sourceRead => cases h

lemma evolves_afterClosing {closes : Option MachineCheck} (hread : ∀ read ∈ closes, read.closedAt = none) (now : Time) :
    Evolves db (afterClosing db closes now) [] := by
  cases closes with
  | none => exact ⟨List.Sublist.refl _, fun k hk => ⟨k, hk, rfl, fun hnone => ⟨hnone, rfl⟩⟩,
      fun i hi id hc => .inl ⟨i, hi, hc⟩, fun _ _ hid => nomatch hid⟩
  | some read =>
    have hrow : ∀ k, (rowWriteBack read (superseded now read) k).closedAt = some now :=
      fun k => writeBack_closed (hread read rfl) rfl
    refine evolves_updated (fun k hnone => ?_) (fun i hi id hc => .inl ⟨i, hi, hc⟩)
      (fun k => ⟨List.nil_subset _, fun h => absurd rfl h⟩) rfl
    rw [hrow] at hnone
    cases hnone

/-- What a commit that adds no request makes of the rows. -/
lemma Txn.evolves {txn : Txn} (hsane : txn.Sane next) (hnew : ∀ new, txn ≠ .create new)
    (h : txn.write db next = some db') : Evolves db db' txn.closes ∧ db'.checks.Pairwise NotBothOpen := by
  cases txn with
  | create new => exact absurd rfl (hnew new)
  | update read new =>
    obtain ⟨hjournal, hone, hchecks⟩ := write_update h
    refine ⟨evolves_updated (fun k hnone => ?_) (fun i hi id hc => .inl ⟨i, hjournal ▸ hi, hc⟩)
      (fun k => ⟨List.nil_subset _, fun h => absurd rfl h⟩) hchecks, hone⟩
    obtain ⟨hdate, hnote⟩ := writeBack_untouched (k := k) hsane.1 hsane.2
    exact ⟨hdate ▸ hnone, hnote⟩
  | close read closing =>
    obtain ⟨-, hjournal, hone, hchecks⟩ := write_close h
    have hclosed : ∀ k, (rowWriteBack read (closed closing read) k).closedAt = some closing.closedAt :=
      fun k => writeBack_closed hsane.2.1 rfl
    refine ⟨evolves_updated (fun k hnone => ?_) (fun i hi id hc => ?_)
      (fun k => ⟨List.Subset.refl _, fun _ => ?_⟩) hchecks, hone⟩
    · rw [hclosed] at hnone
      cases hnone
    · rw [hjournal] at hi
      rcases List.mem_append.1 hi with hi | hi
      · exact .inl ⟨i, hi, hc⟩
      · rw [List.mem_singleton.1 hi] at hc
        exact .inr (List.mem_singleton.2 (Option.some.inj hc).symm)
    · rw [hclosed]
      exact Option.some_ne_none _
  | merge targetId sourceId now progress =>
    obtain ⟨entries, closes, moved, rfl, hone, rfl⟩ := write_merge h
    exact ⟨((evolves_afterClosing hsane.2 now).trans (evolves_moved targetId entries moved)).trans
      (evolves_deleteMachine sourceId), hone⟩

end Writes

section Invariant

variable {s : State} {n : ℕ} {txn : Txn}

lemma get_leave (m : ℕ) : (s.leave n).pending.get m = if m = n then none else s.pending.get m := by
  simp [State.leave, Store.get_drop]

lemma Txn.Sane.mono {next next' : ℕ} (h : txn.Sane next) (hle : next ≤ next') : txn.Sane next' := by
  cases txn with
  | close read closing => exact ⟨Nat.lt_of_lt_of_le h.1 hle, h.2⟩
  | create => exact h
  | update => exact h
  | merge => exact h

lemma Sane.leave (h : Sane s) (n : ℕ) : Sane (s.leave n) where
  ids := h.ids
  below := h.below
  oneOpen := h.oneOpen
  blank := h.blank
  entriesBelow := h.entriesBelow
  untold := h.untold
  routeBelow := h.routeBelow
  routeClosed := h.routeClosed
  pending m txn hget := by
    rw [get_leave] at hget
    split at hget
    · cases hget
    · exact h.pending m txn hget

/-- A transaction begins, or goes on. -/
lemma Sane.put (h : Sane s) (n : ℕ) {next : ℕ} (hle : s.next ≤ next) (htxn : txn.Sane next) :
    Sane { s with pending := s.pending.put n txn, next := next } where
  ids := h.ids
  below k hk := Nat.lt_of_lt_of_le (h.below k hk) hle
  oneOpen := h.oneOpen
  blank := h.blank
  entriesBelow i hi id hc := Nat.lt_of_lt_of_le (h.entriesBelow i hi id hc) hle
  untold := h.untold
  routeBelow id hid := Nat.lt_of_lt_of_le (h.routeBelow id hid) hle
  routeClosed := h.routeClosed
  pending m txn' hget := by
    change (s.pending.put n txn).get m = some txn' at hget
    rw [Store.get_put] at hget
    split at hget
    · obtain rfl := Option.some.inj hget
      exact htxn
    · exact (h.pending m txn' hget).mono hle

/-- Requests are added. -/
lemma Sane.created (h : Sane s) {new : List NewCheck}
    (hone : (s.db.checks ++ rows s.next new).Pairwise NotBothOpen) :
    Sane { s with db := { s.db with checks := s.db.checks ++ rows s.next new }, next := s.next + new.length } where
  ids := by
    rw [List.map_append, List.nodup_append]
    refine ⟨h.ids, nodup_rows _ _, fun a ha b hb hab => ?_⟩
    obtain ⟨k, hk, rfl⟩ := List.mem_map.1 ha
    obtain ⟨l, hl, rfl⟩ := List.mem_map.1 hb
    have hlt := h.below k hk
    rw [hab] at hlt
    exact Nat.not_lt.2 (mem_rows hl).1 hlt
  below k hk := by
    rcases List.mem_append.1 hk with hk | hk
    · exact Nat.lt_of_lt_of_le (h.below k hk) (Nat.le_add_right _ _)
    · exact (mem_rows hk).2.1
  oneOpen := hone
  blank k hk hnone := by
    rcases List.mem_append.1 hk with hk | hk
    · exact h.blank k hk hnone
    · exact (mem_rows hk).2.2.2
  entriesBelow i hi id hc := Nat.lt_of_lt_of_le (h.entriesBelow i hi id hc) (Nat.le_add_right _ _)
  untold k hk hnone i hi hc := by
    rcases List.mem_append.1 hk with hk | hk
    · exact h.untold k hk hnone i hi hc
    · exact Nat.not_lt.2 (mem_rows hk).1 (h.entriesBelow i hi k.id hc)
  routeBelow id hid := Nat.lt_of_lt_of_le (h.routeBelow id hid) (Nat.le_add_right _ _)
  routeClosed k hk hid := by
    rcases List.mem_append.1 hk with hk | hk
    · exact h.routeClosed k hk hid
    · exact absurd (h.routeBelow k.id hid) (Nat.not_lt.2 (mem_rows hk).1)
  pending m txn hget := (h.pending m txn hget).mono (Nat.le_add_right _ _)

/-- Requests are written, moved, dropped, or closed. -/
lemma Sane.evolved (h : Sane s) {db : Db} {closes : List Uuid} (hevolves : Evolves s.db db closes)
    (hone : db.checks.Pairwise NotBothOpen) (hcloses : ∀ id ∈ closes, id < s.next) (drawn : ℕ) :
    Sane { s with db := db, next := s.next + drawn, byRoute := closes ++ s.byRoute } where
  ids := h.ids.sublist hevolves.ids
  below k hk := by
    obtain ⟨k₀, hk₀, hid, -⟩ := hevolves.rows k hk
    exact Nat.lt_of_lt_of_le (hid ▸ h.below k₀ hk₀) (Nat.le_add_right _ _)
  oneOpen := hone
  blank k hk hnone := by
    obtain ⟨k₀, hk₀, -, hopen⟩ := hevolves.rows k hk
    exact (hopen hnone).2.trans (h.blank k₀ hk₀ (hopen hnone).1)
  entriesBelow i hi id hc := by
    refine Nat.lt_of_lt_of_le ?_ (Nat.le_add_right _ _)
    rcases hevolves.entries i hi id hc with ⟨j, hj, hjc⟩ | hid
    · exact h.entriesBelow j hj id hjc
    · exact hcloses id hid
  untold k hk hnone i hi hc := by
    obtain ⟨k₀, hk₀, hid, hopen⟩ := hevolves.rows k hk
    rcases hevolves.entries i hi k.id hc with ⟨j, hj, hjc⟩ | hclosed
    · exact h.untold k₀ hk₀ (hopen hnone).1 j hj (hid.symm ▸ hjc)
    · exact hevolves.closed k hk hclosed hnone
  routeBelow id hid := by
    refine Nat.lt_of_lt_of_le ?_ (Nat.le_add_right _ _)
    rcases List.mem_append.1 hid with hid | hid
    · exact hcloses id hid
    · exact h.routeBelow id hid
  routeClosed k hk hid := by
    rcases List.mem_append.1 hid with hid | hid
    · exact hevolves.closed k hk hid
    · obtain ⟨k₀, hk₀, hid₀, hopen⟩ := hevolves.rows k hk
      exact fun hnone => h.routeClosed k₀ hk₀ (hid₀.symm ▸ hid) (hopen hnone).1
  pending m txn hget := (h.pending m txn hget).mono (Nat.le_add_right _ _)

lemma Sane.apply (h : Sane s) (htxn : txn.Sane s.next) : Sane (s.apply txn) := by
  unfold State.apply
  split
  · rename_i db hwrite
    by_cases hnew : ∃ new, txn = .create new
    · obtain ⟨new, rfl⟩ := hnew
      obtain ⟨rfl, hone⟩ := write_create hwrite
      exact h.created hone
    · obtain ⟨hevolves, hone⟩ := Txn.evolves htxn (fun new heq => hnew ⟨new, heq⟩) hwrite
      refine h.evolved hevolves hone (fun id hid => ?_) txn.drawn
      cases txn with
      | close read closing =>
        rw [List.mem_singleton.1 hid]
        exact htxn.1
      | create => cases hid
      | update => cases hid
      | merge => cases hid
  · exact h

lemma mem_of_requireCheck {db : Db} {caller : Caller} {id : Uuid} {k : MachineCheck}
    (h : requireCheck db caller id = .ok k) : k ∈ db.checks := by
  unfold requireCheck at h
  split at h
  · rename_i found hfound
    split at h
    · cases h
      exact mem_of_rowOf hfound
    · cases h
  · cases h

/-- What a route has read. -/
lemma Sane.handle (h : Sane s) {caller : Caller} {now : Time} {request : Request}
    (hok : handle s.db caller now request = .ok txn) : txn.Sane s.next := by
  cases request with
  | create machineId payload =>
    obtain ⟨-, -, hok⟩ := bind_eq_ok hok
    split at hok
    · cases hok
    · cases hok
    · obtain ⟨-, -, hok⟩ := bind_eq_ok hok
      cases hok
      trivial
  | bulk machineIds payload =>
    obtain ⟨-, -, hok⟩ := bind_eq_ok hok
    obtain ⟨-, -, hok⟩ := bind_eq_ok hok
    cases hok
    trivial
  | update id payload =>
    obtain ⟨row, -, hok⟩ := bind_eq_ok hok
    obtain ⟨-, -, hok⟩ := bind_eq_ok hok
    obtain ⟨-, -, hok⟩ := bind_eq_ok hok
    cases hok
    exact ⟨rfl, rfl⟩
  | close id payload =>
    obtain ⟨row, hrow, hok⟩ := bind_eq_ok hok
    obtain ⟨_, hopen, hok⟩ := bind_eq_ok hok
    cases hok
    have hmem := mem_of_requireCheck hrow
    have hnone : row.closedAt = none := of_decide_eq_true (Rooms.check_ok hopen)
    exact ⟨h.below row hmem, hnone, h.blank row hmem hnone⟩
  | merge machineId sourceId =>
    obtain ⟨_, hself, hok⟩ := bind_eq_ok hok
    obtain ⟨-, -, hok⟩ := bind_eq_ok hok
    obtain ⟨-, -, hok⟩ := bind_eq_ok hok
    cases hok
    exact ⟨of_decide_eq_true (Rooms.check_ok hself), nofun⟩

/-- What `open_for_machine` finds is open. -/
lemma openForMachine_open {checks : List MachineCheck} {machineId : Uuid} {k : MachineCheck}
    (h : openForMachine checks machineId = some (some k)) : k.closedAt = none := by
  unfold openForMachine at h
  split at h
  · cases h
  · rename_i hfound
    obtain rfl := Option.some.inj (Option.some.inj h)
    have hmem := List.mem_filter.1 (hfound ▸ List.mem_singleton_self _)
    exact (of_decide_eq_true hmem.2).2
  · cases h

/-- What a merge has read. -/
lemma Merging.next_open {db : Db} {targetId sourceId : Uuid} {progress progress' : Merging}
    (hread : ∀ read ∈ progress.closes, read.closedAt = none) (h : progress.next db targetId sourceId = some progress') :
    ∀ read ∈ progress'.closes, read.closedAt = none := by
  intro read hclose
  match progress with
  | .begun =>
    obtain rfl := Option.some.inj h
    cases hclose
  | .journal entries =>
    obtain ⟨found, -, rfl⟩ := Option.map_eq_some_iff.1 h
    cases hclose
  | .targetRead entries false =>
    obtain rfl := Option.some.inj h
    cases hclose
  | .targetRead entries true =>
    obtain ⟨found, hfound, rfl⟩ := Option.map_eq_some_iff.1 h
    obtain rfl : found = some read := hclose
    exact openForMachine_open hfound
  | .sourceRead entries closes =>
    obtain rfl := Option.some.inj h
    exact hread read hclose
  | .requests entries closes moved =>
    obtain rfl := Option.some.inj h
    exact hread read hclose

lemma Sane.step (h : Sane s) (e : Event) : Sane (step s e) := by
  cases e with
  | request caller now request =>
    simp only [Checks.step]
    split
    · rename_i txn hok
      exact h.put s.next (Nat.le_succ _) ((h.handle hok).mono (Nat.le_succ _))
    · exact h
  | statement n =>
    simp only [Checks.step]
    split
    · rename_i targetId sourceId now progress hget
      obtain ⟨hne, hread⟩ := h.pending n _ hget
      split
      · rename_i progress' hnext
        exact h.put n (Nat.le_refl _) ⟨hne, Merging.next_open hread hnext⟩
      · exact h.leave n
    · exact h
  | commit n =>
    simp only [Checks.step]
    split
    · rename_i txn hget
      exact (h.leave n).apply (h.pending n txn hget)
    · exact h
  | abort n => exact h.leave n

lemma sane_initial (machines : List Uuid) : Sane (.initial machines) where
  ids := List.nodup_nil
  below _ hk := nomatch hk
  oneOpen := List.Pairwise.nil
  blank _ hk := nomatch hk
  entriesBelow _ hi := nomatch hi
  untold _ hk := nomatch hk
  routeBelow _ hid := nomatch hid
  routeClosed _ hk := nomatch hk
  pending _ _ hget := nomatch hget

end Invariant

/-! ### A request is closed once -/

section Closings

variable {s : State} {id : Uuid}

lemma isOpen_iff {db : Db} : isOpen db id = true ↔ ∃ k ∈ db.checks, k.id = id ∧ k.closedAt = none := by
  simp [isOpen]

lemma isClosed_iff {db : Db} : isClosed db id = true ↔ ∃ k ∈ db.checks, k.id = id ∧ k.closedAt ≠ none := by
  simp [isClosed]

/-- A request that is not open is not opened again. -/
lemma not_open_apply {txn : Txn} (htxn : txn.Sane s.next) (hid : id < s.next)
    (hclosed : isOpen s.db id = false) : isOpen (s.apply txn).db id = false := by
  unfold State.apply
  split
  · rename_i db hwrite
    rw [← Bool.not_eq_true, isOpen_iff] at hclosed ⊢
    rintro ⟨k, hk, rfl, hnone⟩
    by_cases hnew : ∃ new, txn = .create new
    · obtain ⟨new, rfl⟩ := hnew
      obtain ⟨rfl, -⟩ := write_create hwrite
      rcases List.mem_append.1 hk with hk | hk
      · exact hclosed ⟨k, hk, rfl, hnone⟩
      · exact Nat.not_lt.2 (mem_rows hk).1 hid
    · obtain ⟨hevolves, -⟩ := Txn.evolves htxn (fun new heq => hnew ⟨new, heq⟩) hwrite
      obtain ⟨k₀, hk₀, hid₀, hopen⟩ := hevolves.rows k hk
      exact hclosed ⟨k₀, hk₀, hid₀, (hopen hnone).1⟩
  · exact hclosed

lemma not_open_step (h : Sane s) (e : Event) (hid : id < s.next) (hclosed : isOpen s.db id = false) :
    id < (step s e).next ∧ isOpen (step s e).db id = false := by
  cases e with
  | request caller now request =>
    simp only [step]
    split
    · exact ⟨Nat.lt_succ_of_lt hid, hclosed⟩
    · exact ⟨hid, hclosed⟩
  | statement n =>
    simp only [step]
    split
    · split
      · exact ⟨hid, hclosed⟩
      · exact ⟨hid, hclosed⟩
    · exact ⟨hid, hclosed⟩
  | commit n =>
    simp only [step]
    split
    · rename_i txn hget
      refine ⟨?_, not_open_apply (h.pending n txn hget) hid hclosed⟩
      unfold State.apply
      split
      · exact Nat.lt_of_lt_of_le hid (Nat.le_add_right _ _)
      · exact hid
    · exact ⟨hid, hclosed⟩
  | abort n => exact ⟨hid, hclosed⟩

lemma closings_of_not_open (h : Sane s) (hid : id < s.next) (hclosed : isOpen s.db id = false) (events : List Event) :
    closings id s events = 0 := by
  induction events generalizing s with
  | nil => rfl
  | cons e es ih =>
    obtain ⟨hid', hclosed'⟩ := not_open_step h e hid hclosed
    rw [closings, hclosed, ih (h.step e) hid' hclosed']
    rfl

/-- Two rows of a table do not share an identifier. -/
lemma isOpen_of_isClosed {db : Db} (hids : (db.checks.map MachineCheck.id).Nodup) (h : isClosed db id = true) :
    isOpen db id = false := by
  rw [isClosed_iff] at h
  obtain ⟨k, hk, rfl, hclosed⟩ := h
  rw [← Bool.not_eq_true, isOpen_iff]
  rintro ⟨l, hl, hid, hopen⟩
  rw [eq_of_key_eq hids hl hk hid] at hopen
  exact hclosed hopen

/-- **At most once.**  In every run, one step at most closes a request. -/
theorem closings_le (h : Sane s) (id : Uuid) (events : List Event) : closings id s events ≤ 1 := by
  induction events generalizing s with
  | nil => exact Nat.zero_le 1
  | cons e es ih =>
    rw [closings]
    cases hcloses : isOpen s.db id && isClosed (step s e).db id with
    | false =>
      rw [Bool.toNat_false, Nat.zero_add]
      exact ih (h.step e)
    | true =>
      obtain ⟨-, hclosed⟩ := Bool.and_eq_true_iff.1 hcloses
      have hsane := h.step e
      obtain ⟨k, hk, hid, -⟩ := isClosed_iff.1 hclosed
      have hlt := hsane.below k hk
      rw [hid] at hlt
      rw [closings_of_not_open hsane hlt (isOpen_of_isClosed hsane.ids hclosed) es]
      exact Nat.le_refl 1

/-- One open request per poste. -/
lemma Sane.one (h : Sane s) : OneOpen s.db := by
  intro machineId
  have hpair : (openOf s.db machineId).Pairwise NotBothOpen := h.oneOpen.filter _
  have hmem : ∀ k ∈ openOf s.db machineId, k.machineId = machineId ∧ k.closedAt = none :=
    fun k hk => of_decide_eq_true (List.mem_filter.1 hk).2
  match hopen : openOf s.db machineId with
  | [] => exact Nat.zero_le 1
  | [_] => exact Nat.le_refl 1
  | k :: l :: _ =>
    rw [hopen] at hpair hmem
    obtain ⟨hkm, hko⟩ := hmem k List.mem_cons_self
    obtain ⟨hlm, hlo⟩ := hmem l (List.mem_cons_of_mem k List.mem_cons_self)
    exact absurd ⟨hkm.trans hlm.symm, hko, hlo⟩ ((List.pairwise_cons.1 hpair).1 l List.mem_cons_self)

/-- **One open request.**  In every run, disturbed or not. -/
theorem one_open_run (machines : List Uuid) (events : List Event) : OneOpen (run step (.initial machines) events).db :=
  Sane.one (run_invariant (P := Sane) (fun _ e h => h.step e) (sane_initial machines) events)

end Closings

/-! ### And told once -/

section Pairing

variable {s : State} {journal : List Intervention} {id : Uuid} {i : Intervention}

/-- The lines about a request that stays, in the journal of a merge. -/
lemma entriesOf_merged {targetId sourceId : Uuid} {entries gone : List Uuid} (hid : id ∉ gone) :
    entriesOf ((journalOwner.without sourceId (journal.map (moveEntry targetId entries))).map (forget gone)) id =
      (journalOwner.without sourceId ((entriesOf journal id).map (moveEntry targetId entries))).map (forget gone) := by
  have hforget : ∀ i : Intervention, (forget gone i).checkId = some id ↔ i.checkId = some id := by
    intro i
    unfold forget
    rw [Option.filter_eq_some_iff]
    constructor
    · exact And.left
    · intro hc
      exact ⟨hc, decide_eq_true hid⟩
  unfold entriesOf Owner.without
  rw [List.filter_map, List.filter_comm, List.filter_map]
  refine congrArg (List.map _) (congrArg (List.filter _) (congrArg (List.map _) (List.filter_congr fun i _ => ?_)))
  obtain ⟨hcheck, hkind, -⟩ := moveEntry_same targetId entries i
  have hkind' : (forget gone (moveEntry targetId entries i)).kind = i.kind := hkind
  simp only [Function.comp_apply, hforget, hcheck, hkind']

/-- A merge that drops no line of a request that stays. -/
lemma told_merged {db : Db} {targetId sourceId : Uuid} {entries moved : List Uuid} {k : MachineCheck}
    (hids : (db.checks.map MachineCheck.id).Nodup) (hne : targetId ≠ sourceId) (hk : k ∈ db.checks)
    (hstays : (moveCheck targetId moved k).machineId ≠ sourceId)
    (hentries : ∀ i ∈ db.interventions, i.machineId = sourceId → i.id ∉ entries → i.checkId ≠ some k.id)
    (htold : Told db.interventions k) :
    Told ((db.moved targetId entries moved).deleteMachine sourceId).interventions (moveCheck targetId moved k) := by
  obtain ⟨i, hi, hnote, hdate⟩ := htold
  obtain ⟨hid, hdate', hnote'⟩ := moveCheck_same targetId moved k
  obtain ⟨-, -, hinote, hidate⟩ := moveEntry_same targetId entries i
  have hgone : k.id ∉ (db.moved targetId entries moved).requestsOf sourceId := by
    intro hmem
    obtain ⟨l, hl, hlid⟩ := List.mem_map.1 hmem
    obtain ⟨hl, hlm⟩ := List.mem_filter.1 hl
    obtain ⟨k', hk', rfl⟩ := List.mem_map.1 hl
    rw [(moveCheck_same targetId moved k').1] at hlid
    rw [eq_of_key_eq hids hk' hk hlid] at hlm
    exact hstays (of_decide_eq_true hlm)
  have hmem : i ∈ db.interventions ∧ i.checkId = some k.id := by
    have hi' : i ∈ entriesOf db.interventions k.id := hi ▸ List.mem_singleton_self i
    exact ⟨(List.mem_filter.1 hi').1, (of_decide_eq_true (List.mem_filter.1 hi').2).1⟩
  have hkept : (moveEntry targetId entries i).machineId ≠ sourceId := by
    by_cases hmoved : i.id ∈ entries
    · rw [moveEntry, if_pos hmoved]
      exact hne
    · rw [moveEntry, if_neg hmoved]
      exact fun hm => hentries i hmem.1 hm hmoved hmem.2
  have hwithout : journalOwner.without sourceId [moveEntry targetId entries i] = [moveEntry targetId entries i] :=
    journalOwner.without_eq_self fun j hj => by rw [List.mem_singleton.1 hj]; exact hkept
  refine ⟨forget ((db.moved targetId entries moved).requestsOf sourceId) (moveEntry targetId entries i), ?_, hinote.trans (hnote.trans hnote'.symm), ?_⟩
  · rw [hid]
    refine (entriesOf_merged hgone).trans ?_
    rw [hi, List.map_singleton, hwithout, List.map_singleton]
  · rw [hdate', hdate]
    exact congrArg some hidate.symm

lemma Told.congr {journal' : List Intervention} {k k' : MachineCheck} (h : Told journal k) (hid : k'.id = k.id)
    (hdate : k'.closedAt = k.closedAt) (hnote : k'.closingNote = k.closingNote)
    (hentries : entriesOf journal' k.id = entriesOf journal k.id) : Told journal' k' := by
  obtain ⟨i, hi, hinote, hidate⟩ := h
  exact ⟨i, by rw [hid, hentries, hi], hinote.trans hnote.symm, hdate.trans hidate⟩

lemma paired_created (h : Sane s) (hp : Paired s) {new : List NewCheck} {db : Db}
    (hwrite : (Txn.create new).write s.db s.next = some db) :
    ∀ k ∈ db.checks, k.id ∈ s.byRoute → Told db.interventions k := by
  obtain ⟨rfl, -⟩ := write_create hwrite
  intro k hk hid
  rcases List.mem_append.1 hk with hk | hk
  · exact hp k hk hid
  · exact absurd (h.routeBelow k.id hid) (Nat.not_lt.2 (mem_rows hk).1)

lemma paired_updated (hp : Paired s) {read new : MachineCheck} {db : Db} (htxn : (Txn.update read new).Sane s.next)
    (hwrite : (Txn.update read new).write s.db s.next = some db) :
    ∀ k ∈ db.checks, k.id ∈ s.byRoute → Told db.interventions k := by
  obtain ⟨hjournal, -, hchecks⟩ := write_update hwrite
  intro k' hk' hid
  rw [hchecks] at hk'
  rw [hjournal]
  obtain ⟨k, hk, hid', ⟨-, rfl⟩ | ⟨-, rfl⟩⟩ := mem_updated hk'
  · obtain ⟨hdate, hnote⟩ := writeBack_untouched (k := k) htxn.1 htxn.2
    exact (hp k hk hid).congr rfl hdate hnote rfl
  · exact hp k' hk hid

lemma paired_closed (h : Sane s) (hp : Paired s) {read : MachineCheck} {closing : Closing} {db : Db}
    (htxn : (Txn.close read closing).Sane s.next) (hquiet : (Txn.close read closing).Undisturbed s)
    (hwrite : (Txn.close read closing).write s.db s.next = some db) :
    ∀ k ∈ db.checks, k.id ∈ read.id :: s.byRoute → Told db.interventions k := by
  obtain ⟨hmachine, hjournal, -, hchecks⟩ := write_close hwrite
  obtain ⟨-, hread, hblank⟩ := htxn
  intro k' hk' hid
  rw [hchecks] at hk'
  rw [hjournal]
  obtain ⟨k, hk, -, ⟨hself, rfl⟩ | ⟨hne, rfl⟩⟩ := mem_updated hk'
  · -- the request that is closed: found open, so that nothing tells of it
    have hopen := hquiet hmachine k hk hself
    have hnone : entriesOf s.db.interventions k.id = [] := by
      refine List.filter_eq_nil_iff.2 fun i hi htells => ?_
      exact h.untold k hk hopen i hi (of_decide_eq_true htells).1
    refine ⟨closingEntry closing read s.next, ?_, ?_, writeBack_closed hread rfl⟩
    · change entriesOf _ k.id = _
      unfold entriesOf at hnone ⊢
      rw [List.filter_append, hnone, List.nil_append, List.filter_cons_of_pos, List.filter_nil]
      exact decide_eq_true ⟨congrArg some hself.symm, rfl⟩
    · change closing.note = writeBack read.closingNote closing.note k.closingNote
      rw [writeBack_eq_new]
      intro helided
      rw [h.blank k hk hopen, ← helided, hblank]
  · have hid : k'.id ∈ s.byRoute := (List.mem_cons.1 hid).resolve_left hne
    refine (hp k' hk hid).congr rfl rfl rfl ?_
    unfold entriesOf
    rw [List.filter_append, List.filter_cons_of_neg, List.filter_nil, List.append_nil]
    rw [decide_eq_true_iff]
    rintro ⟨hcheck, -⟩
    exact hne (Option.some.inj hcheck).symm

lemma paired_merged (h : Sane s) (hp : Paired s) {targetId sourceId : Uuid} {now : Time} {progress : Merging} {db : Db}
    (htxn : (Txn.merge targetId sourceId now progress).Sane s.next)
    (hquiet : (Txn.merge targetId sourceId now progress).Undisturbed s)
    (hwrite : (Txn.merge targetId sourceId now progress).write s.db s.next = some db) :
    ∀ k ∈ db.checks, k.id ∈ s.byRoute → Told db.interventions k := by
  obtain ⟨entries, closes, moved, rfl, -, rfl⟩ := write_merge hwrite
  obtain ⟨hroute, hentries⟩ := hquiet
  intro k' hk' hid
  obtain ⟨hk', hstays⟩ := checkOwner.mem_without.1 hk'
  obtain ⟨k₁, hk₁, rfl⟩ := List.mem_map.1 hk'
  rw [(moveCheck_same targetId moved k₁).1] at hid
  -- a request that the route has closed is none that the merge closes
  obtain ⟨hk, hjournal, hids⟩ : k₁ ∈ s.db.checks ∧ (afterClosing s.db closes now).interventions = s.db.interventions ∧
      ((afterClosing s.db closes now).checks.map MachineCheck.id).Nodup := by
    cases closes with
    | none => exact ⟨hk₁, rfl, h.ids⟩
    | some read =>
      refine ⟨?_, rfl, map_id_updated.symm ▸ h.ids⟩
      obtain ⟨k, hk, hid', ⟨hself, -⟩ | ⟨-, rfl⟩⟩ := mem_updated hk₁
      · rw [← hid', hself] at hid
        exact absurd hid (hroute read rfl)
      · exact hk
  refine told_merged hids htxn.1 hk₁ hstays (fun i hi hm hnot hcheck => ?_) ?_
  · rw [hjournal] at hi
    obtain ⟨hsource, hnotmoved⟩ := hentries i hi hm hnot k₁ hk hcheck
    refine hstays ?_
    change (moveCheck targetId moved k₁).machineId = sourceId
    rw [moveCheck, if_neg hnotmoved]
    exact hsource
  · rw [hjournal]
    exact hp k₁ hk hid

lemma Paired.apply (hp : Paired s) (h : Sane s) {txn : Txn} (htxn : txn.Sane s.next) (hquiet : txn.Undisturbed s) :
    Paired (s.apply txn) := by
  unfold State.apply
  split
  · rename_i db hwrite
    cases txn with
    | create new => exact paired_created h hp hwrite
    | update read new => exact paired_updated hp htxn hwrite
    | close read closing => exact paired_closed h hp htxn hquiet hwrite
    | merge targetId sourceId now progress => exact paired_merged h hp htxn hquiet hwrite
  · exact hp

lemma Paired.step (hp : Paired s) (h : Sane s) (e : Event) (hquiet : Undisturbed s e) : Paired (step s e) := by
  cases e with
  | request caller now request =>
    simp only [Checks.step]
    split
    · exact hp
    · exact hp
  | statement n =>
    simp only [Checks.step]
    split
    · split
      · exact hp
      · exact hp
    · exact hp
  | commit n =>
    simp only [Checks.step]
    split
    · rename_i txn hget
      exact Paired.apply (s := s.leave n) hp (h.leave n) (h.pending n txn hget) (hquiet txn hget)
    · exact hp
  | abort n => exact hp

end Pairing

/-- **A request is closed once.**  In every run whose commits are undisturbed, in every state of it: a poste has one
open request at most, and the journal tells once of each request that the route has closed, with its note and its date.
And one step at most of the run closes a request. -/
theorem closed_once (machines : List Uuid) (events : List Event)
    (hquiet : Guarded step Undisturbed (.initial machines) events) :
    (∀ fs, fs <+: events → OneOpen (run step (.initial machines) fs).db ∧ Paired (run step (.initial machines) fs)) ∧
      ∀ id, closings id (.initial machines) events ≤ 1 := by
  refine ⟨fun fs hfs => ?_, fun id => closings_le (sane_initial machines) id events⟩
  obtain ⟨gs, rfl⟩ := hfs
  obtain ⟨hsane, hpaired⟩ := Guarded.invariant (P := fun s => Sane s ∧ Paired s)
    (fun s e hq h => ⟨h.1.step e, h.2.step h.1 e hq⟩) (Guarded.append_iff.1 hquiet).1
    ⟨sane_initial machines, fun _ hk => nomatch hk⟩
  exact ⟨hsane.one, hpaired⟩

/-! ### Two closings at a time -/

def operator : Caller := ⟨"ops@example.org", fun _ => true, fun _ => true⟩

/-- The poste 1 is asked for: the request gets the identifier 1. -/
def asked : List Event := [.request operator 100 (.create 1 ⟨none, none⟩), .commit 0]

def closing : Event := .request operator 200 (.close 1 ⟨none, none⟩)

/-- One after the other, the second is refused. -/
theorem closed_once_asked :
    (∀ fs, fs <+: asked ++ [closing, .commit 2, closing] → OneOpen (run step (.initial [1]) fs).db ∧
        Paired (run step (.initial [1]) fs)) ∧
      ∀ id, closings id (.initial [1]) (asked ++ [closing, .commit 2, closing]) ≤ 1 :=
  closed_once [1] (asked ++ [closing, .commit 2, closing]) (by decide)

/-- **Two closings at a time.**  Both have read the request open: the journal tells of it twice. -/
theorem not_closed_once : ¬∀ (machines : List Uuid) (events : List Event),
    Paired (run step (.initial machines) events) := by
  intro h
  have hpaired := h [1] (asked ++ [closing, closing, .commit 2, .commit 3])
  obtain ⟨i, htold, -⟩ := hpaired ⟨1, 1, "ops@example.org", none, none, 100, 200, some 200, some "ops@example.org", none⟩
    (by decide) (by decide)
  have htwice : (entriesOf (run step (.initial [1]) (asked ++ [closing, closing, .commit 2, .commit 3])).db.interventions
      1).length = 2 := by decide
  rw [htold] at htwice
  cases htwice

end Tiai.Checks
