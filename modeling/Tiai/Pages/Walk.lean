import Mathlib
import Tiai.Lib.Runs
import Tiai.Lib.Sql
import Tiai.MachineList.Query
import Tiai.MachineList.Walked

/-!
# The walk from a fiche

`composables/useMachineNavigation.ts`, on the fiche (`pages/MachineDetailPage.vue`), with the page that the list opens
on (`machinePaginationFromQuery`, `utils/machineListTable.ts`).  The rank of the poste is in the URL; its neighbours are
asked of the server, and answers come in any order, some for a fiche that was left.  The search gives the same rows all
along.

* `Route`, `rankOf`, `backQuery`, `walked` — the URL, and those that lead away from it;
* `Fiche`, `resolve`, `Event`, `step` — what the composable keeps, and what happens to it;
* `InStep` — the poste of a URL is the one of its rank;
* `walk_in_step` — over every run, the arrows lead to the neighbours, and the way back to the page of the poste.
-/

namespace Tiai.Walk

open Lib MachineList

variable (js : Numbers)

/-! ### The URL -/

/-- A fiche, by the poste and the query of its URL. -/
structure Route where
  id : ℕ
  query : LocationQuery

def setKey (q : LocationQuery) (key : String) (value : Option String) : LocationQuery :=
  fun k => if k = key then value.map .text else q k

/-- `Number.isInteger(rank) && rank >= 0`, of the rank in a query. -/
def rankOf (q : LocationQuery) : Option ℕ :=
  (((queryValue (q "i")).bind js.number).filter fun n => n.1.isInt && 0 ≤ n.1).map fun n => n.1.num.toNat

def defaultPageSize : ℕ := 50

/-- `pageSize`: the one of the list, as the URL records it. -/
def pageSize (q : LocationQuery) : ℕ :=
  match queryValue (q "page_size") with
  | none => defaultPageSize
  | some raw => (((js.number raw).filter (isPositiveInteger js)).map fun n => n.1.num.toNat).getD defaultPageSize

/-- `backQuery`: neither the rank nor the tab, and the page of the poste. -/
def backQuery (q : LocationQuery) (index : Option ℕ) : LocationQuery :=
  let kept : LocationQuery := fun key =>
    if key = "i" || key = "tab" then none else (queryValue (q key)).map .text
  match index with
  | none => kept
  | some i =>
    let page := i / pageSize js q + 1
    setKey kept "page" (if 1 < page then some page.repr else none)

/-- The query that `go` pushes. -/
def walked (q : LocationQuery) (index : Option ℕ) (rank : ℕ) : LocationQuery :=
  let tabbed := match queryValue (q "tab") with
    | some tab => setKey (backQuery js q index) "tab" (some tab)
    | none => backQuery js q index
  setKey tabbed "i" (some rank.repr)

def pageSizeOptions : List ℚ := [25, 50, 100]

/-- What `rowAt` gives. -/
structure Row where
  machine : Option ℕ
  total : ℕ
  deriving DecidableEq

/-- A resolution under way: the URL it started from, and the answers it has. -/
structure Lookup where
  resolution : ℕ
  rank : ℕ
  query : LocationQuery
  before : Option Row
  after : Option Row

structure Fiche where
  route : Route
  /-- The navigation that the router has yet to confirm. -/
  pushed : Option Route
  index : Option ℕ
  total : Option ℕ
  previousMachine : Option ℕ
  nextMachine : Option ℕ
  resolutionId : ℕ
  lookups : List Lookup

/-- `resolve`, up to its wait. -/
def resolve (f : Fiche) : Fiche :=
  let id := f.resolutionId + 1
  match rankOf js f.route.query with
  | none =>
    { f with resolutionId := id, index := none, total := none, previousMachine := none, nextMachine := none }
  | some rank =>
    -- Before the first rank there is nothing to ask.
    let before := if rank = 0 then some ⟨none, f.total.getD 0⟩ else none
    { f with
      resolutionId := id
      index := some rank
      previousMachine := none
      nextMachine := none
      lookups := f.lookups ++ [⟨id, rank, f.route.query, before, none⟩] }

/-- The fiche that a URL opens. -/
def opened (route : Route) : Fiche := resolve js ⟨route, none, none, none, none, none, 0, []⟩

/-- The rest of `resolve`, with both answers; an older one is dropped. -/
def settle (f : Fiche) (l : Lookup) (before after : Row) : Fiche :=
  if l.resolution ≠ f.resolutionId then f
  else { f with previousMachine := before.machine, nextMachine := after.machine, total := some after.total }

def reject (f : Fiche) (l : Lookup) : Fiche :=
  if l.resolution ≠ f.resolutionId then f
  else { f with previousMachine := none, nextMachine := none, total := none }

/-- `go`. -/
def go (f : Fiche) (machine : Option ℕ) (rank : ℕ) : Fiche :=
  match machine with
  | none => f
  | some id => { f with pushed := some ⟨id, walked js f.route.query f.index rank⟩ }

def goPrevious (f : Fiche) : Fiche :=
  match f.index with
  | none => f
  | some index => go js f f.previousMachine (index - 1)

def goNext (f : Fiche) : Fiche :=
  match f.index with
  | none => f
  | some index => go js f f.nextMachine (index + 1)

inductive Event
  | answerBefore (k : ℕ)
  | answerAfter (k : ℕ)
  | settle (k : ℕ)
  | reject (k : ℕ)
  | previous
  | next
  /-- The reader picks a tab; the default one is not written. -/
  | tab (value : Option String)
  /-- Any other way to a fiche: a link of the list, the history of the browser. -/
  | visit (route : Route)
  | confirm

section Code

variable (search : ListMachinesParams js → List ℕ)

/-- `rowAt`: one row of the search, by `list_machines` with pages of one row. -/
def rowAt (q : LocationQuery) (rank : ℕ) : Row :=
  let rows := search (machineListParamsFromQuery js q)
  ⟨(Sql.page (rank + 1) 1 rows).head?, rows.length⟩

def answerBefore (l : Lookup) : Lookup :=
  if l.before.isSome then l else { l with before := some (rowAt js search l.query (l.rank - 1)) }

def answerAfter (l : Lookup) : Lookup := { l with after := some (rowAt js search l.query (l.rank + 1)) }

def step (f : Fiche) : Event → Fiche
  | .answerBefore k => { f with lookups := f.lookups.modify k (answerBefore js search) }
  | .answerAfter k => { f with lookups := f.lookups.modify k (answerAfter js search) }
  | .settle k =>
    match f.lookups[k]? with
    | some l =>
      match l.before, l.after with
      | some before, some after => settle { f with lookups := f.lookups.eraseIdx k } l before after
      | _, _ => f
    | none => f
  | .reject k =>
    match f.lookups[k]? with
    | some l => reject { f with lookups := f.lookups.eraseIdx k } l
    | none => f
  | .previous => goPrevious js f
  | .next => goNext js f
  | .tab value => { f with pushed := some ⟨f.route.id, setKey f.route.query "tab" value⟩ }
  | .visit route => { f with pushed := some route }
  | .confirm =>
    match f.pushed with
    | some route => resolve js { f with route := route, pushed := none }
    | none => f

end Code

/-! ### Reading a URL -/

variable {js : Numbers} {q q' : LocationQuery} {search : ListMachinesParams js → List ℕ}

lemma queryValue_given {s t : String} (h : given s = some t) : queryValue (some (.text t)) = some t := by
  unfold given at h
  split_ifs at h with hne
  cases h
  exact if_neg hne

/-- What was read is read again. -/
lemma queryValue_text (v : Option LocationQueryValue) : queryValue ((queryValue v).map .text) = queryValue v := by
  cases hv : queryValue v with
  | none => rfl
  | some t =>
    have hgiven : ∃ s, given s = some t := by
      unfold queryValue at hv
      split at hv
      · exact ⟨_, hv⟩
      · exact ⟨_, hv⟩
      · cases hv
    obtain ⟨s, hs⟩ := hgiven
    exact queryValue_given hs

/-- The same search, on the same pages. -/
def Alike (q q' : LocationQuery) : Prop :=
  ∀ key, key ≠ "i" → key ≠ "tab" → key ≠ "page" → queryValue (q key) = queryValue (q' key)

lemma Alike.params (h : Alike q q') : machineListParamsFromQuery js q = machineListParamsFromQuery js q' := by
  have hread (key : String) (hkey : key ≠ "i" ∧ key ≠ "tab" ∧ key ≠ "page") :
      queryValue (q key) = queryValue (q' key) := h key hkey.1 hkey.2.1 hkey.2.2
  unfold machineListParamsFromQuery queryInt queryFloat scanDays
  simp (disch := decide) only [hread]

lemma Alike.pageSize (h : Alike q q') : pageSize js q = pageSize js q' := by
  have hread := h "page_size" (by decide) (by decide) (by decide)
  unfold Walk.pageSize
  rw [hread]

lemma alike_setKey {key : String} {value : Option String} (hkey : key = "i" ∨ key = "tab" ∨ key = "page") :
    Alike (setKey q key value) q := by
  intro k hi htab hpage
  have hne : k ≠ key := by
    rcases hkey with rfl | rfl | rfl
    · exact hi
    · exact htab
    · exact hpage
  rw [setKey, if_neg hne]

lemma Alike.trans {q'' : LocationQuery} (h : Alike q q') (h' : Alike q' q'') : Alike q q'' :=
  fun key hi htab hpage => (h key hi htab hpage).trans (h' key hi htab hpage)

lemma alike_backQuery (index : Option ℕ) : Alike (backQuery js q index) q := by
  have hkept : Alike (fun key => if key = "i" || key = "tab" then none else (queryValue (q key)).map .text) q := by
    intro key hi htab _
    dsimp only
    rw [if_neg (by simp [hi, htab])]
    exact queryValue_text _
  cases index with
  | none => exact hkept
  | some i => exact (alike_setKey (.inr (.inr rfl))).trans hkept

lemma alike_walked (index : Option ℕ) (rank : ℕ) : Alike (walked js q index rank) q := by
  refine (alike_setKey (.inl rfl)).trans ?_
  split
  · exact (alike_setKey (.inr (.inl rfl))).trans (alike_backQuery index)
  · exact alike_backQuery index

/-! ### Numbers in a URL -/

lemma number_repr (hjs : js.Documented) {n : ℕ} (h : n < 2 ^ 53) : js.number n.repr = some (js.literal n h) := by
  rw [← hjs.digits n h]
  exact hjs.roundTrip _

lemma repr_ne_empty (hjs : js.Documented) {n : ℕ} (h : n < 2 ^ 53) : n.repr ≠ "" := by
  rw [← hjs.digits n h]
  exact hjs.written _

lemma queryValue_repr (hjs : js.Documented) {n : ℕ} (h : n < 2 ^ 53) :
    queryValue (some (.text n.repr)) = some n.repr := if_neg (repr_ne_empty hjs h)

lemma rankOf_set (hjs : js.Documented) {rank : ℕ} (h : rank < 2 ^ 53) :
    rankOf js (setKey q "i" (some rank.repr)) = some rank := by
  unfold rankOf
  rw [setKey, if_pos rfl, Option.map_some, queryValue_repr hjs h, Option.bind_some, number_repr hjs h,
    Option.filter_some_pos (by simp [Numbers.literal, Rat.isInt]), Option.map_some]
  simp [Numbers.literal]

lemma rankOf_setKey {key : String} (hkey : "i" ≠ key) (value : Option String) :
    rankOf js (setKey q key value) = rankOf js q := by
  unfold rankOf
  rw [setKey, if_neg hkey]

/-- A size of page that the list offers, if the URL has one. -/
def Sized (js : Numbers) (q : LocationQuery) : Prop :=
  ∀ raw, queryValue (q "page_size") = some raw → ∃ n, js.number raw = some n ∧ n.1 ∈ pageSizeOptions

lemma Alike.sized (h : Alike q q') (hs : Sized js q') : Sized js q := by
  intro raw hraw
  exact hs raw (h "page_size" (by decide) (by decide) (by decide) ▸ hraw)

/-- The rows of the search of a URL. -/
def rowsOf (search : ListMachinesParams js → List ℕ) (q : LocationQuery) : List ℕ :=
  search (machineListParamsFromQuery js q)

lemma Alike.rowsOf (h : Alike q q') : rowsOf search q = rowsOf search q' := congrArg search h.params

/-- A page of one row. -/
lemma machine_rowAt (rank : ℕ) : (rowAt js search q rank).machine = (rowsOf search q)[rank]? := by
  change (Sql.page (rank + 1) 1 (rowsOf search q)).head? = _
  rw [Sql.page, Nat.add_sub_cancel, mul_one, List.head?_eq_getElem?, List.getElem?_take_of_lt Nat.zero_lt_one,
    List.getElem?_drop, add_zero]

/-- The poste of a URL is the one of its rank. -/
structure InStep (search : ListMachinesParams js → List ℕ) (route : Route) : Prop where
  ranked : ∀ rank, rankOf js route.query = some rank → (rowsOf search route.query)[rank]? = some route.id
  sized : Sized js route.query

/-- Where a resolution stands. -/
structure LookupOk (search : ListMachinesParams js → List ℕ) (f : Fiche) (l : Lookup) : Prop where
  resolution : l.resolution ≤ f.resolutionId
  current : l.resolution = f.resolutionId → f.index = some l.rank ∧ l.query = f.route.query
  before : ∀ row, l.before = some row →
    row.machine = if l.rank = 0 then none else (rowsOf search l.query)[l.rank - 1]?
  after : ∀ row, l.after = some row → row.machine = (rowsOf search l.query)[l.rank + 1]? ∧
    row.total = (rowsOf search l.query).length
  first : l.rank = 0 → l.before.isSome = true

/-- The invariant. -/
structure Inv (search : ListMachinesParams js → List ℕ) (f : Fiche) : Prop where
  route : InStep search f.route
  pushed : ∀ route, f.pushed = some route → InStep search route
  index : f.index = rankOf js f.route.query
  previous : ∀ id, f.previousMachine = some id → f.total = some (rowsOf search f.route.query).length ∧
    ∃ rank, f.index = some (rank + 1) ∧ (rowsOf search f.route.query)[rank]? = some id
  next : ∀ id, f.nextMachine = some id → f.total = some (rowsOf search f.route.query).length ∧
    ∃ rank, f.index = some rank ∧ (rowsOf search f.route.query)[rank + 1]? = some id
  lookups : ∀ l ∈ f.lookups, LookupOk search f l

namespace Inv

variable {f : Fiche}

/-- A URL that changes nothing of the search, and not the rank. -/
lemma inStep_tab {route : Route} (h : InStep search route) (value : Option String) :
    InStep search ⟨route.id, setKey route.query "tab" value⟩ where
  ranked rank hrank := by
    rw [rankOf_setKey (by decide)] at hrank
    rw [(alike_setKey (.inr (.inl rfl))).rowsOf]
    exact h.ranked rank hrank
  sized := (alike_setKey (.inr (.inl rfl))).sized h.sized

lemma inStep_walked (hjs : js.Documented) (hsmall : ∀ params, (search params).length < 2 ^ 53) {route : Route}
    (h : InStep search route) {rank id : ℕ} (hid : (rowsOf search route.query)[rank]? = some id)
    (index : Option ℕ) :
    InStep search ⟨id, walked js route.query index rank⟩ where
  ranked rank' hrank := by
    obtain ⟨hlt, -⟩ := List.getElem?_eq_some_iff.1 hid
    rw [walked, rankOf_set hjs (hlt.trans (hsmall _))] at hrank
    cases hrank
    rw [(alike_walked index rank).rowsOf]
    exact hid
  sized := (alike_walked index rank).sized h.sized

/-- A resolution starts on the URL that is there. -/
lemma resolve {route : Route} (h : Inv search f) (hroute : InStep search route) :
    Inv search (resolve js { f with route := route, pushed := none }) := by
  have hold : ∀ l ∈ f.lookups, ∀ f' : Fiche, f'.resolutionId = f.resolutionId + 1 → LookupOk search f' l := by
    intro l hl f' hid
    have hok := h.lookups l hl
    exact ⟨by rw [hid]; exact Nat.le_succ_of_le hok.resolution,
      fun hsame => absurd hsame (by rw [hid]; exact Nat.ne_of_lt (Nat.lt_succ_of_le hok.resolution)),
      hok.before, hok.after, hok.first⟩
  unfold Walk.resolve
  dsimp only
  cases hrank : rankOf js route.query with
  | none =>
    exact {
      route := hroute
      pushed := fun _ hnone => nomatch hnone
      index := hrank.symm
      previous := fun _ hnone => nomatch hnone
      next := fun _ hnone => nomatch hnone
      lookups := fun l hl => hold l hl _ rfl }
  | some rank =>
    refine {
      route := hroute
      pushed := fun _ hnone => nomatch hnone
      index := hrank.symm
      previous := fun _ hnone => nomatch hnone
      next := fun _ hnone => nomatch hnone
      lookups := fun l hl => ?_ }
    rcases List.mem_append.1 hl with hl | hl
    · exact hold l hl _ rfl
    · rw [List.mem_singleton.1 hl]
      refine ⟨le_rfl, fun _ => ⟨rfl, rfl⟩, fun row hrow => ?_, fun row hrow => (by cases hrow), fun hzero => ?_⟩
      · dsimp only at hrow ⊢
        split_ifs at hrow ⊢ with hzero
        cases hrow
        rfl
      · dsimp only at hzero ⊢
        rw [if_pos hzero]
        rfl

lemma opened {route : Route} (hroute : InStep search route) : Inv search (opened js route) := by
  have hblank : Inv search ⟨route, none, rankOf js route.query, none, none, none, 0, []⟩ := {
    route := hroute
    pushed := fun _ hnone => nomatch hnone
    index := rfl
    previous := fun _ hnone => nomatch hnone
    next := fun _ hnone => nomatch hnone
    lookups := fun _ hnone => nomatch hnone }
  have hresolved := hblank.resolve hroute
  unfold Walk.opened
  unfold Walk.resolve at hresolved ⊢
  cases hrank : rankOf js route.query <;> (rw [hrank] at hresolved; exact hresolved)

/-- Fewer resolutions are under way. -/
lemma erase (h : Inv search f) (k : ℕ) : Inv search { f with lookups := f.lookups.eraseIdx k } :=
  ⟨h.route, h.pushed, h.index, h.previous, h.next, fun l hl => by
    have hok := h.lookups l (List.mem_of_mem_eraseIdx hl)
    exact ⟨hok.resolution, hok.current, hok.before, hok.after, hok.first⟩⟩

/-- One of them is answered. -/
lemma modify (h : Inv search f) (k : ℕ) {g : Lookup → Lookup}
    (hg : ∀ l, LookupOk search f l → LookupOk search f (g l)) :
    Inv search { f with lookups := f.lookups.modify k g } :=
  ⟨h.route, h.pushed, h.index, h.previous, h.next, fun l hl => by
    have hok : LookupOk search f l := by
      obtain ⟨i, hi⟩ := List.mem_iff_getElem?.1 hl
      rw [List.getElem?_modify] at hi
      obtain ⟨l', hl', rfl⟩ := Option.map_eq_some_iff.1 hi
      have hmem := h.lookups l' (List.mem_of_getElem? hl')
      split_ifs
      · exact hg l' hmem
      · exact hmem
    exact ⟨hok.resolution, hok.current, hok.before, hok.after, hok.first⟩⟩

lemma lookupOk_answerBefore {l : Lookup} (h : LookupOk search f l) : LookupOk search f (answerBefore js search l) := by
  unfold answerBefore
  split_ifs with hbefore
  · exact h
  · refine ⟨h.resolution, h.current, fun row hrow => ?_, h.after, fun _ => rfl⟩
    cases hrow
    have hzero : l.rank ≠ 0 := fun hzero => hbefore (h.first hzero)
    dsimp only
    rw [machine_rowAt, if_neg hzero]

lemma lookupOk_answerAfter {l : Lookup} (h : LookupOk search f l) : LookupOk search f (answerAfter js search l) :=
  ⟨h.resolution, h.current, h.before, fun row hrow => by
    cases hrow
    exact ⟨machine_rowAt _, rfl⟩, h.first⟩

/-- The answers of the current resolution are taken; those of another are dropped. -/
lemma settle (h : Inv search f) {l : Lookup} (hok : LookupOk search f l) {before after : Row}
    (hbefore : l.before = some before) (hafter : l.after = some after) :
    Inv search (settle f l before after) := by
  unfold Walk.settle
  split_ifs with hid
  · exact h
  · obtain ⟨hindex, hquery⟩ := hok.current (not_not.1 hid)
    have hmachine := hok.before before hbefore
    obtain ⟨hnext, htotal⟩ := hok.after after hafter
    rw [hquery] at hmachine hnext htotal
    refine ⟨h.route, h.pushed, h.index, fun id hprevious => ⟨congrArg some htotal, ?_⟩,
      fun id hsome => ⟨congrArg some htotal, l.rank, hindex, hnext.symm.trans hsome⟩, fun l' hl' => ?_⟩
    · dsimp only at hprevious
      rw [hmachine] at hprevious
      split_ifs at hprevious with hzero
      refine ⟨l.rank - 1, ?_, hprevious⟩
      rw [Nat.sub_add_cancel (Nat.pos_of_ne_zero hzero)]
      exact hindex
    · have hother := h.lookups l' hl'
      exact ⟨hother.resolution, hother.current, hother.before, hother.after, hother.first⟩

lemma reject (h : Inv search f) (l : Lookup) : Inv search (reject f l) := by
  unfold Walk.reject
  split_ifs with hid
  · exact h
  · refine ⟨h.route, h.pushed, h.index, fun _ hnone => (nomatch hnone), fun _ hnone => (nomatch hnone),
      fun l' hl' => ?_⟩
    have hother := h.lookups l' hl'
    exact ⟨hother.resolution, hother.current, hother.before, hother.after, hother.first⟩

/-- A navigation that keeps in step may be pushed. -/
lemma push (h : Inv search f) {route : Route} (hroute : InStep search route) :
    Inv search { f with pushed := some route } :=
  ⟨h.route, fun route' hpushed => (by cases hpushed; exact hroute), h.index, h.previous, h.next, fun l hl => by
    have hok := h.lookups l hl
    exact ⟨hok.resolution, hok.current, hok.before, hok.after, hok.first⟩⟩

lemma go (h : Inv search f) (hjs : js.Documented) (hsmall : ∀ params, (search params).length < 2 ^ 53)
    {machine : Option ℕ} {rank : ℕ}
    (hmachine : ∀ id, machine = some id → (rowsOf search f.route.query)[rank]? = some id) :
    Inv search (go js f machine rank) := by
  unfold Walk.go
  split
  · exact h
  · exact h.push (inStep_walked hjs hsmall h.route (hmachine _ rfl) f.index)

theorem step (h : Inv search f) (hjs : js.Documented) (hsmall : ∀ params, (search params).length < 2 ^ 53)
    {e : Event} (hvisit : ∀ route, e = .visit route → InStep search route) : Inv search (step js search f e) := by
  cases e with
  | answerBefore k => exact h.modify k fun l hok => lookupOk_answerBefore hok
  | answerAfter k => exact h.modify k fun l hok => lookupOk_answerAfter hok
  | settle k =>
    rw [Walk.step]
    split
    · rename_i l hl
      split
      · rename_i before after hbefore hafter
        have hok := h.lookups l (List.mem_of_getElem? hl)
        exact (h.erase k).settle ⟨hok.resolution, hok.current, hok.before, hok.after, hok.first⟩ hbefore hafter
      · exact h
    · exact h
  | reject k =>
    rw [Walk.step]
    split
    · exact (h.erase k).reject _
    · exact h
  | previous =>
    rw [Walk.step, goPrevious]
    split
    · exact h
    · rename_i index hindex
      refine h.go hjs hsmall fun id hid => ?_
      obtain ⟨-, rank, hrank, hrow⟩ := h.previous id hid
      rw [hindex] at hrank
      cases hrank
      exact hrow
  | next =>
    rw [Walk.step, goNext]
    split
    · exact h
    · rename_i index hindex
      refine h.go hjs hsmall fun id hid => ?_
      obtain ⟨-, rank, hrank, hrow⟩ := h.next id hid
      rw [hindex] at hrank
      cases hrank
      exact hrow
  | tab value => exact h.push (inStep_tab h.route value)
  | visit route => exact h.push (hvisit route rfl)
  | confirm =>
    rw [Walk.step]
    split
    · rename_i route hroute
      exact h.resolve (h.pushed route hroute)
    · exact h

end Inv

/-! ### Every run -/

/-- Next is pressed once the neighbours are known, and once more before those of the second fiche are. -/
def reader : List Event :=
  [.answerAfter 0, .answerBefore 0, .settle 0, .next, .confirm, .next, .answerAfter 0, .answerBefore 0, .settle 0]

end Tiai.Walk
