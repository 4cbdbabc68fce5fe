import Tiai.Lists.Model

/-!
# Every row on one page

The comments of the lists of postes, accounts, threats and commands say why a unique key closes their
`ORDER BY`: of tied rows, the database may put one on two pages and another on none.

* `total_machineOrder`, `total_users`, `total_threats`, `total_commands` — those four tie no two rows;
* `always_shown_once` — and show every row once, whatever the size of the page;
* `shown_once_iff` — any list does exactly when no group of tied rows goes over the end of a page;
* `not_shown_once` — two visits of the same instant.
-/

namespace Tiai.Lists

open Lib
open Maintenance (MaintenancePolicy)

variable {text : Text} {s : Stored text}

/-! ### The four that end on a key -/

/-- Its `ORDER BY` ties no two rows. -/
def Listing.Total (l : Listing) : Prop := ∀ a ∈ l.rows, ∀ b ∈ l.rows, l.order b a = .eq → b = a

/-- It ties none when its last key is a key of the rows. -/
lemma Listing.total_of_key {l : Listing} {κ : Type} {key : l.Row → κ} (hkeys : (l.rows.map key).Nodup)
    (hlast : ∀ a b, l.order b a = .eq → key b = key a) : l.Total :=
  fun a ha b hb htied => List.inj_on_of_nodup_map hkeys hb ha (hlast a b htied)

/-- A key of a table is one of the rows that a filter keeps. -/
lemma nodup_map_filter {α κ : Type} {key : α → κ} {rows : List α} (h : (rows.map key).Nodup) (p : α → Bool) :
    ((rows.filter p).map key).Nodup := h.sublist (List.filter_sublist.map key)

lemma last_of_then {first second : Ordering} (h : first.then second = .eq) : second = .eq :=
  (Ordering.then_eq_eq.1 h).2

/-- Whatever the sort, the list of postes ends on their `id`. -/
lemma last_machineOrder (policy : MaintenancePolicy) (versions : List String) (start : Time)
    (sort : Option (MachineSortField × Bool)) {a b : MachineRow}
    (h : machineOrder text policy versions start sort b a = .eq) : b.machine.id = a.machine.id := by
  have hcontact : contactOrder b a = .eq := by
    match sort with
    | none => exact h
    | some _ => exact last_of_then h
  exact compare_eq_iff_eq.1 (last_of_then hcontact)

lemma total_machines (scope : Option Scope) (facets : MachineRow → Bool) (start : Time) (versions : List String)
    (sort : Option (MachineSortField × Bool)) :
    (machineList s scope facets start versions sort).Total := by
  have hids : ((machineRows s start).map fun row => row.machine.id).Nodup := by
    have := s.machineIds
    rwa [← map_machine_machineRows start, List.map_map] at this
  exact Listing.total_of_key (nodup_map_filter hids _) fun a b h =>
    last_machineOrder s.policy versions start sort h

lemma total_users (search : Option String) : (userList s search).Total := by
  refine Listing.total_of_key (nodup_map_filter s.userEmails _) fun a b h => ?_
  exact congrArg text.lower (text.eq_of_collate _ _ (last_of_then h))

lemma total_threats (scope : Option Scope) (machineId : Option Uuid) (status severity : Option String) :
    (threatList s scope machineId status severity).Total := by
  refine Listing.total_of_key (nodup_map_filter s.threatIds _) fun a b h => ?_
  exact (compare_eq_iff_eq.1 (last_of_then h)).symm

lemma total_commands (now : Time) (scope : Option Scope) (status : Option CommandStatus)
    (machineId packageId : Option Uuid) :
    (commandList s now scope status machineId packageId).Total := by
  refine Listing.total_of_key (nodup_map_filter (markExpired_ids s.commands now ▸ s.commandIds) _) fun a b h => ?_
  exact compare_eq_iff_eq.1 (last_of_then h)

/-- The lists whose `ORDER BY` ends on a key. -/
def ListQuery.keyed : ListQuery → Bool
  | machines .. | users _ | threats .. | commands .. => true
  | audit _ | software .. | journal _ | checks .. | visits .. => false

lemma total_of_keyed {q : ListQuery} (hq : q.keyed = true) : (q.listing s).Total := by
  cases q with
  | machines scope facets start versions sort => exact total_machines scope facets start versions sort
  | users search => exact total_users search
  | threats scope machineId status severity => exact total_threats scope machineId status severity
  | commands now scope status machineId packageId => exact total_commands now scope status machineId packageId
  | _ => cases hq

/-- **Postes, accounts, threats and commands**: every row is on one page, whatever the size of the page. -/
theorem always_shown_once {q : ListQuery} (hq : q.keyed = true) {pageSize : ℕ} (hsize : 0 < pageSize) :
    (q.listing s).ShownOnce pageSize := by
  have := (q.listing s).trans
  exact Sql.shownOnce_of_whole hsize (Sql.Whole.of_total (q.listing s).nodup (total_of_keyed hq) pageSize)

/-! ### All of them -/

/-- **A list shows every row once**, for that state, those filters and that size of page, exactly when no group
of rows that its `ORDER BY` ties goes over the end of a page. -/
theorem shown_once_iff (s : Stored text) (q : ListQuery) {pageSize : ℕ} (hsize : 0 < pageSize) :
    (q.listing s).ShownOnce pageSize ↔ Sql.Whole (q.listing s).order pageSize (q.listing s).rows := by
  have := (q.listing s).trans
  exact Sql.shownOnce_iff hsize (q.listing s).nodup

/-- **For every size of page**, exactly when it ties no two rows. -/
theorem shown_once_every_size_iff (s : Stored text) (q : ListQuery) :
    (∀ pageSize, 0 < pageSize → (q.listing s).ShownOnce pageSize) ↔ (q.listing s).Total := by
  have := (q.listing s).trans
  exact Sql.every_size_iff (q.listing s).nodup

/-! ### Two visits of one instant -/

/-- A collation by code points. -/
def plainText : Text where
  lower value := value
  ilike _ _ := false
  collate value other := compare value other
  trans := inferInstance
  eq_of_collate _ _ h := Std.LawfulEqOrd.eq_of_compare h

/-- A visit outside any room, at the instant that its form gave. -/
def visited (id : Uuid) (performedAt : Time) : Confined.Visit :=
  ⟨id, none, none, "ops@example.org", performedAt, none, performedAt⟩

/-- A server that two visits have been recorded on. -/
def twoVisits (first second : Time) : Stored plainText where
  machines := []
  rooms := []
  buildings := []
  checks := []
  uptime := []
  users := []
  threats := []
  commands := []
  audit := []
  software := []
  installed := []
  interventions := []
  visits := [visited 1 first, visited 2 second]
  policy := ⟨90, none, 14⟩
  machineIds := List.nodup_nil
  roomIds := List.nodup_nil
  buildingIds := List.nodup_nil
  checkIds := List.nodup_nil
  checkOpen := fun _ hc => nomatch hc
  userIds := List.nodup_nil
  userEmails := List.nodup_nil
  threatIds := List.nodup_nil
  commandIds := List.nodup_nil
  auditIds := List.nodup_nil
  softwareIds := List.nodup_nil
  softwareIdentity := List.nodup_nil
  interventionIds := List.nodup_nil
  visitIds := by simp [visited, Confined.Visit.key]

def allVisits : ListQuery := .visits none none none

/-- On pages of one. -/
theorem shown_once_iff_two_visits : 0 < 1 ∧ ((allVisits.listing (twoVisits 100 200)).ShownOnce 1 ↔
    Sql.Whole (allVisits.listing (twoVisits 100 200)).order 1 (allVisits.listing (twoVisits 100 200)).rows) :=
  ⟨Nat.one_pos, shown_once_iff (twoVisits 100 200) allVisits Nat.one_pos⟩

/-- What the database answers to the requests for two visits: in one order, then in the other. -/
def eitherWay : ℕ → List Confined.Visit
  | 0 => [visited 1 100, visited 2 100]
  | _ + 1 => [visited 2 100, visited 1 100]

/-- **Two visits of the same instant**, on pages of one: the first is on both. -/
theorem not_shown_once : ¬∀ (text : Text) (s : Stored text) (q : ListQuery) (pageSize : ℕ), 0 < pageSize →
    (q.listing s).ShownOnce pageSize := by
  intro h
  have hanswers : ∀ page, Sql.Arranged (allVisits.listing (twoVisits 100 100)).order
      (allVisits.listing (twoVisits 100 100)).rows (eitherWay page) := by
    intro page
    match page with
    | 0 => exact ⟨List.Perm.refl _, by simp [eitherWay, allVisits, ListQuery.listing, visitList, visited]⟩
    | _ + 1 => exact ⟨List.Perm.swap _ _ [], by simp [eitherWay, allVisits, ListQuery.listing, visitList, visited]⟩
  have hpages : [visited 1 100, visited 1 100].Perm [visited 1 100, visited 2 100] :=
    h plainText (twoVisits 100 100) allVisits 1 Nat.one_pos eitherWay hanswers
  have hsecond : visited 2 100 ∈ [visited 1 100, visited 1 100] := hpages.mem_iff.2 (by simp)
  simp [visited] at hsecond

end Tiai.Lists
