import Mathlib.Data.List.Nodup
import Mathlib.Order.Nat
import Tiai.Lib.Runs

/-!
# Automatic refresh

`frontend/src/composables/useAutoRefresh.ts`: a timer that calls the page's refresh, a catch-up when the tab comes back,
and `refreshNow`.  JavaScript runs one continuation at a time, so a step is an event with everything it does up to the
next `await`; the continuations of waiting calls come in any order.  Refreshes are numbered from 1 in the order they
start, and the promise in `inFlight` is the number of its refresh.

* `step` — a tick, a visibility change, a call of `refreshNow`, a continuation, the end of a refresh, `stop`;
* `Claim` — what is promised of a state;
* `Sound` — no refresh throws before its promise exists, and no `refreshNow` ends after `stop`;
* `Inv`, `step_inv` — what sound steps keep;
* `always_iff` — the promise holds in every state of exactly the runs whose steps are sound.
-/

namespace Tiai.AutoRefresh

open Lib

/-! ### The states -/

/-- Where a call of `refreshNow` waits: for the refresh it found in flight, or for its own. -/
inductive Phase
  | waiting (promise : ℕ)
  | running (promise : ℕ)
  | done

/-- A call, with the number of refreshes started when it was made. -/
structure Call where
  asked : ℕ
  phase : Phase

structure State where
  /-- Whether there is a document, and whether it is hidden. -/
  doc : Bool
  docHidden : Bool
  /-- The variable, the intervals that are set, and the next handle. -/
  timer : Option ℕ
  intervals : List ℕ
  nextHandle : ℕ
  missed : Bool
  inFlight : Option ℕ
  refreshing : Bool
  lastRefreshedAt : Option ℕ
  lastError : Option String
  listening : Bool
  /-- How many refreshes have started, and those that have not ended. -/
  started : ℕ
  running : List ℕ
  calls : List Call
  stopped : Bool

namespace State

variable (s : State)

def hidden : Bool := s.doc && s.docHidden

/-- `run`; a refresh that throws at once ends before its promise is stored. -/
def run (thrown : Option String) : State :=
  match s.inFlight with
  | some _ => s
  | none =>
    let k := s.started + 1
    match thrown with
    | some e => { s with started := k, refreshing := false, lastError := some e, inFlight := some k }
    | none => { s with started := k, refreshing := true, running := k :: s.running, inFlight := some k }

def tick (paused : Bool) (thrown : Option String) : State :=
  if paused then s else if s.hidden then { s with missed := true } else s.run thrown

def onVisibilityChange (paused : Bool) (thrown : Option String) : State :=
  if s.hidden || !s.missed then s else
  if paused then { s with missed := false } else { s with missed := false }.run thrown

def startTimer : State :=
  match s.timer with
  | some _ => s
  | none =>
    { s with timer := some s.nextHandle, intervals := s.nextHandle :: s.intervals, nextHandle := s.nextHandle + 1 }

def stopTimer : State :=
  match s.timer with
  | some handle => { s with timer := none, intervals := s.intervals.filter (· ≠ handle) }
  | none => s

def stop : State := { s.stopTimer with listening := false, stopped := true }

/-- `await run()`, for a call made when so many refreshes had started. -/
def ownRefresh (asked : ℕ) (thrown : Option String) : State × Call :=
  let s := s.run thrown
  (s, { asked, phase := .running (s.inFlight.getD 0) })

/-- `if (inFlight) await inFlight; await run();`, up to the first `await`. -/
def ask (thrown : Option String) : State :=
  match s.inFlight with
  | some k => { s with calls := s.calls ++ [{ asked := s.started, phase := .waiting k }] }
  | none =>
    let (s, call) := s.ownRefresh s.started thrown
    { s with calls := s.calls ++ [call] }

def refreshNow (thrown : Option String) : State := { s.stopTimer with missed := false }.ask thrown

/-- `refreshNow` after an `await`, when the promise it waits for is settled. -/
def resume (i : ℕ) (thrown : Option String) : State :=
  match s.calls[i]? with
  | none => s
  | some call =>
    match call.phase with
    | .waiting k =>
      if k ∈ s.running then s else
      let (s, call) := s.ownRefresh call.asked thrown
      { s with calls := s.calls.set i call }
    | .running k =>
      if k ∈ s.running then s else { s.startTimer with calls := s.calls.set i { call with phase := .done } }
    | .done => s

/-- The end of a refresh: the time it succeeded at, or its error. -/
def settle (k : ℕ) (result : Except String ℕ) : State :=
  if k ∈ s.running then
    let s := match result with
      | .ok now => { s with lastRefreshedAt := some now, lastError := none }
      | .error e => { s with lastError := some e }
    { s with running := s.running.filter (· ≠ k), refreshing := false, inFlight := none }
  else s

end State

/-! ### The steps -/

/-- What happens; with it what `paused` answers, and what the refresh throws at once, if it is called. -/
inductive Event
  | tick (handle : ℕ) (paused : Bool) (thrown : Option String)
  | hide (hidden : Bool)
  | visibilityChange (paused : Bool) (thrown : Option String)
  | refreshNow (thrown : Option String)
  | resume (i : ℕ) (thrown : Option String)
  | settle (k : ℕ) (result : Except String ℕ)
  | stop

def step (s : State) : Event → State
  | .tick handle paused thrown => if handle ∈ s.intervals then s.tick paused thrown else s
  | .hide hidden => { s with docHidden := hidden }
  | .visibilityChange paused thrown => if s.listening then s.onVisibilityChange paused thrown else s
  | .refreshNow thrown => s.refreshNow thrown
  | .resume i thrown => s.resume i thrown
  | .settle k result => s.settle k result
  | .stop => s.stop

/-- `useAutoRefresh`. -/
def initial (doc docHidden : Bool) : State :=
  { doc, docHidden, timer := some 0, intervals := [0], nextHandle := 1, missed := false, inFlight := none
    refreshing := false, lastRefreshedAt := none, lastError := none, listening := doc, started := 0, running := []
    calls := [], stopped := false }

/-! ### The promise -/

/-- A refresh that started after so many others, and has ended. -/
def EndedAfter (s : State) (asked : ℕ) : Prop := ∃ k, asked < k ∧ k ≤ s.started ∧ k ∉ s.running

/-- **What is promised** of a state. -/
structure Claim (s : State) : Prop where
  oneRefresh : s.running.length ≤ 1
  oneTimer : s.intervals.length ≤ 1
  resolves : ∀ call ∈ s.calls, call.phase = .done → EndedAfter s call.asked
  /-- With none in flight, a timer, a call and a waiting call each start one. -/
  tickStarts : s.running = [] → s.hidden = false → ∀ handle ∈ s.intervals, ∀ thrown,
    (step s (.tick handle false thrown)).started = s.started + 1
  callStarts : s.running = [] → ∀ thrown, (step s (.refreshNow thrown)).started = s.started + 1
  waitingStarts : s.running = [] → ∀ i k asked, s.calls[i]? = some ⟨asked, .waiting k⟩ → ∀ thrown,
    (step s (.resume i thrown)).started = s.started + 1
  /-- After `stop` there is no timer left that could start one. -/
  stops : s.stopped = true → s.intervals = []

/-- The steps that call the refresh. -/
def Starts (s : State) : Event → Prop
  | .tick handle paused _ => handle ∈ s.intervals ∧ paused = false ∧ s.hidden = false ∧ s.inFlight = none
  | .visibilityChange paused _ =>
    s.listening = true ∧ s.hidden = false ∧ s.missed = true ∧ paused = false ∧ s.inFlight = none
  | .refreshNow _ => s.inFlight = none
  | .resume i _ => ∃ asked k, s.calls[i]? = some ⟨asked, .waiting k⟩ ∧ k ∉ s.running ∧ s.inFlight = none
  | _ => False

def Event.thrown : Event → Option String
  | .tick _ _ thrown | .visibilityChange _ thrown | .refreshNow thrown | .resume _ thrown => thrown
  | _ => none

/-- The steps that end a `refreshNow`. -/
def Ends (s : State) : Event → Prop
  | .resume i _ => ∃ asked k, s.calls[i]? = some ⟨asked, .running k⟩ ∧ k ∉ s.running
  | _ => False

/-- No refresh throws before its promise exists, and no `refreshNow` ends after `stop`. -/
structure Sound (s : State) (e : Event) : Prop where
  promised : Starts s e → e.thrown = none
  before : Ends s e → s.stopped = false

/-! ### What sound steps keep -/

/-- What is known of a call; with the refresh it found in flight gone, whatever is in flight started after it. -/
def Known (s : State) (call : Call) : Prop :=
  call.asked ≤ s.started ∧ match call.phase with
    | .waiting k => ∀ k' ∈ s.running, k' ≠ k → call.asked < k'
    | .running k => call.asked < k ∧ k ≤ s.started
    | .done => EndedAfter s call.asked

structure Inv (s : State) : Prop where
  running : s.running = s.inFlight.toList
  intervals : s.intervals = s.timer.toList
  numbers : ∀ k ∈ s.running, k ≤ s.started
  calls : ∀ call ∈ s.calls, Known s call
  stopped : s.stopped = true → s.timer = none

section Operations

variable {s : State} {thrown : Option String}

/-- Once ended, a refresh has ended. -/
lemma EndedAfter.mono {t : State} {asked : ℕ} (h : EndedAfter s asked) (hstarted : s.started ≤ t.started)
    (hrunning : ∀ k ∈ t.running, k ∈ s.running ∨ s.started < k) : EndedAfter t asked := by
  obtain ⟨k, hlt, hle, hnot⟩ := h
  refine ⟨k, hlt, hle.trans hstarted, fun hk => ?_⟩
  rcases hrunning k hk with hold | hnew
  · exact hnot hold
  · omega

/-- What is known of a call stays known while refreshes start and end. -/
lemma Known.mono {t : State} {call : Call} (h : Known s call) (hstarted : s.started ≤ t.started)
    (hrunning : ∀ k ∈ t.running, k ∈ s.running ∨ s.started < k) : Known t call := by
  obtain ⟨asked, phase⟩ := call
  obtain ⟨hasked, hphase⟩ := h
  refine ⟨hasked.trans hstarted, ?_⟩
  cases phase with
  | waiting k =>
    intro k' hk' hne
    rcases hrunning k' hk' with hold | hnew
    · exact hphase k' hold hne
    · exact lt_of_le_of_lt hasked hnew
  | running k => exact ⟨hphase.1, hphase.2.trans hstarted⟩
  | done => exact EndedAfter.mono hphase hstarted hrunning

lemma run_of_some {k : ℕ} (h : s.inFlight = some k) : s.run thrown = s := by
  unfold State.run
  rw [h]

lemma run_of_none (h : s.inFlight = none) : s.run none =
    { s with started := s.started + 1, refreshing := true, running := (s.started + 1) :: s.running,
             inFlight := some (s.started + 1) } := by
  unfold State.run
  rw [h]

lemma started_run (h : s.inFlight = none) : (s.run thrown).started = s.started + 1 := by
  unfold State.run
  rw [h]
  cases thrown <;> rfl

lemma Inv.run (h : Inv s) (hpromised : s.inFlight = none → thrown = none) : Inv (s.run thrown) := by
  cases hflight : s.inFlight with
  | some k =>
    rw [run_of_some hflight]
    exact h
  | none =>
    have hrunning : s.running = [] := by rw [h.running, hflight]; rfl
    rw [hpromised hflight, run_of_none hflight]
    refine ⟨by simp [hrunning], h.intervals, by simp [hrunning], fun call hcall => ?_, h.stopped⟩
    refine (h.calls call hcall).mono (Nat.le_succ _) fun k hk => ?_
    simp only [hrunning, List.mem_singleton] at hk
    exact .inr (by omega)

lemma Inv.stopTimer (h : Inv s) : Inv s.stopTimer ∧ s.stopTimer.timer = none := by
  unfold State.stopTimer
  cases htimer : s.timer with
  | none => exact ⟨h, htimer⟩
  | some handle =>
    refine ⟨⟨h.running, ?_, h.numbers, h.calls, fun _ => rfl⟩, rfl⟩
    simp [h.intervals, htimer]

lemma Inv.startTimer (h : Inv s) (hnot : s.stopped = false) : Inv s.startTimer := by
  unfold State.startTimer
  cases htimer : s.timer with
  | some handle => exact h
  | none =>
    refine ⟨h.running, ?_, h.numbers, h.calls, fun hstopped => ?_⟩
    · simp [h.intervals, htimer]
    · rw [hnot] at hstopped
      cases hstopped

/-- A call waits for a refresh that started after it. -/
lemma Inv.ownRefresh (h : Inv s) (hpromised : s.inFlight = none → thrown = none) {asked : ℕ} (hasked : asked ≤ s.started)
    (hafter : ∀ k ∈ s.running, asked < k) :
    Inv (s.ownRefresh asked thrown).1 ∧ Known (s.ownRefresh asked thrown).1 (s.ownRefresh asked thrown).2 := by
  refine ⟨h.run hpromised, ?_⟩
  unfold State.ownRefresh Known
  cases hflight : s.inFlight with
  | some k =>
    have hk : k ∈ s.running := by rw [h.running, hflight]; simp
    simp only [run_of_some hflight, hflight, Option.getD_some]
    exact ⟨hasked, hafter k hk, h.numbers k hk⟩
  | none =>
    simp only [hpromised hflight, run_of_none hflight, Option.getD_some]
    omega

lemma Inv.addCall (h : Inv s) {call : Call} (hcall : Known s call) : Inv { s with calls := s.calls ++ [call] } := by
  refine ⟨h.running, h.intervals, h.numbers, fun c hc => ?_, h.stopped⟩
  rcases List.mem_append.1 hc with hold | hnew
  · exact h.calls c hold
  · rw [List.mem_singleton.1 hnew]
    exact hcall

lemma Inv.setCall (h : Inv s) (i : ℕ) {call : Call} (hcall : Known s call) :
    Inv { s with calls := s.calls.set i call } := by
  refine ⟨h.running, h.intervals, h.numbers, fun c hc => ?_, h.stopped⟩
  rcases List.mem_or_eq_of_mem_set hc with hold | hnew
  · exact h.calls c hold
  · rw [hnew]
    exact hcall

end Operations

/-! ### The steps, one by one -/

variable {s : State}

lemma inv_initial (doc docHidden : Bool) : Inv (initial doc docHidden) :=
  ⟨rfl, rfl, by simp [initial], by simp [initial], by simp [initial]⟩

lemma inv_ask (h : Inv s) {thrown : Option String} (hpromised : s.inFlight = none → thrown = none) :
    Inv (s.ask thrown) := by
  unfold State.ask
  split
  · next k hflight =>
    have hknown : Known s { asked := s.started, phase := .waiting k } := by
      refine ⟨Nat.le_refl s.started, fun k' hk' hne => ?_⟩
      -- Only the refresh it found is in flight.
      rw [h.running, hflight, Option.mem_toList, Option.some.injEq] at hk'
      exact absurd hk'.symm hne
    exact h.addCall hknown
  · next hflight =>
    have hnone : s.running = [] := by
      rw [h.running, hflight]
      rfl
    obtain ⟨hinv, hknown⟩ := h.ownRefresh hpromised (Nat.le_refl s.started) (by simp [hnone])
    exact hinv.addCall hknown

lemma stopTimer_same (s : State) : s.stopTimer.inFlight = s.inFlight ∧ s.stopTimer.started = s.started := by
  unfold State.stopTimer
  cases s.timer <;> exact ⟨rfl, rfl⟩

lemma inv_refreshNow (h : Inv s) {thrown : Option String} (hpromised : s.inFlight = none → thrown = none) :
    Inv (s.refreshNow thrown) := by
  have hstop := h.stopTimer.1
  have hcleared : Inv { s.stopTimer with missed := false } :=
    ⟨hstop.running, hstop.intervals, hstop.numbers, hstop.calls, hstop.stopped⟩
  exact inv_ask hcleared fun hnone => hpromised ((stopTimer_same s).1 ▸ hnone)

lemma inv_resume (h : Inv s) {i : ℕ} {thrown : Option String} (hsound : Sound s (.resume i thrown)) :
    Inv (s.resume i thrown) := by
  unfold State.resume
  cases hcall : s.calls[i]? with
  | none => exact h
  | some call =>
    obtain ⟨asked, phase⟩ := call
    have hknown := h.calls _ (List.mem_of_getElem? hcall)
    cases phase with
    | waiting k =>
      simp only
      split
      · exact h
      · next hended =>
        have hafter : ∀ k' ∈ s.running, asked < k' := fun k' hk' =>
          hknown.2 k' hk' fun heq => hended (heq ▸ hk')
        obtain ⟨hinv, hown⟩ := h.ownRefresh (fun hnone => hsound.promised ⟨asked, k, hcall, hended, hnone⟩) hknown.1
          hafter
        exact hinv.setCall i hown
    | running k =>
      simp only
      split
      · exact h
      · next hended =>
        have hstart := h.startTimer (hsound.before ⟨asked, k, hcall, hended⟩)
        have hsame : s.startTimer.running = s.running ∧ s.startTimer.started = s.started ∧
            s.startTimer.calls = s.calls := by
          unfold State.startTimer
          cases s.timer <;> exact ⟨rfl, rfl, rfl⟩
        have hdone : Known s.startTimer { asked, phase := .done } := by
          refine ⟨by rw [hsame.2.1]; exact hknown.1, k, hknown.2.1, ?_, ?_⟩
          · rw [hsame.2.1]
            exact hknown.2.2
          · rw [hsame.1]
            exact hended
        have := hstart.setCall i hdone
        rwa [hsame.2.2] at this
    | done => exact h

lemma inv_settle (h : Inv s) (k : ℕ) (result : Except String ℕ) : Inv (s.settle k result) := by
  unfold State.settle
  split
  · next hk =>
    have honly : s.running = [k] := by
      have hk' := hk
      rw [h.running, Option.mem_toList] at hk'
      rw [h.running, hk']
      rfl
    have hknown : ∀ call ∈ s.calls, ∀ t : State, t.started = s.started → t.running = [] → Known t call :=
      fun call hcall t hstarted hrunning =>
        (h.calls call hcall).mono hstarted.ge fun k' hk' => by simp [hrunning] at hk'
    cases result with
    | ok now =>
      exact ⟨by simp [honly], h.intervals, by simp [honly],
        fun call hcall => hknown call hcall _ rfl (by simp [honly]), h.stopped⟩
    | error e =>
      exact ⟨by simp [honly], h.intervals, by simp [honly],
        fun call hcall => hknown call hcall _ rfl (by simp [honly]), h.stopped⟩
  · exact h

/-- **A sound step** keeps what is known. -/
theorem step_inv (s : State) (e : Event) (h : Inv s) (hsound : Sound s e) : Inv (step s e) := by
  cases e with
  | tick handle paused thrown =>
    unfold step State.tick
    simp only
    split_ifs with hset hpaused hhidden
    · exact h
    · exact ⟨h.running, h.intervals, h.numbers, h.calls, h.stopped⟩
    · exact h.run fun hnone => hsound.promised
        ⟨hset, eq_false_of_ne_true hpaused, eq_false_of_ne_true hhidden, hnone⟩
    · exact h
  | hide hidden => exact ⟨h.running, h.intervals, h.numbers, h.calls, h.stopped⟩
  | visibilityChange paused thrown =>
    unfold step State.onVisibilityChange
    simp only
    have hcleared : Inv { s with missed := false } := ⟨h.running, h.intervals, h.numbers, h.calls, h.stopped⟩
    split_ifs with hlistening hskip hpaused
    · exact h
    · exact hcleared
    · rw [Bool.or_eq_true, not_or, Bool.not_eq_true, Bool.not_eq_true, Bool.not_eq_false'] at hskip
      exact hcleared.run fun hnone => hsound.promised
        ⟨hlistening, hskip.1, hskip.2, eq_false_of_ne_true hpaused, hnone⟩
    · exact h
  | refreshNow thrown => exact inv_refreshNow h hsound.promised
  | resume i thrown => exact inv_resume h hsound
  | settle k result => exact inv_settle h k result
  | stop =>
    obtain ⟨hinv, htimer⟩ := h.stopTimer
    exact ⟨hinv.running, hinv.intervals, hinv.numbers, hinv.calls, fun _ => htimer⟩

/-! ### The promise, from what is known -/

lemma started_ask (h : s.inFlight = none) (thrown : Option String) : (s.ask thrown).started = s.started + 1 := by
  unfold State.ask
  rw [h]
  exact started_run h

lemma started_refreshNow (h : s.inFlight = none) (thrown : Option String) :
    (s.refreshNow thrown).started = s.started + 1 := by
  have hsame := stopTimer_same s
  have hnone : ({ s.stopTimer with missed := false } : State).inFlight = none := hsame.1.trans h
  unfold State.refreshNow
  rw [started_ask hnone]
  exact congrArg (· + 1) hsame.2

lemma started_resume (h : s.inFlight = none) (hrunning : s.running = []) {i asked k : ℕ}
    (hcall : s.calls[i]? = some ⟨asked, .waiting k⟩) (thrown : Option String) :
    (s.resume i thrown).started = s.started + 1 := by
  unfold State.resume
  simp only [hcall, hrunning, List.not_mem_nil, if_false]
  exact started_run h

lemma Inv.inFlight (h : Inv s) (hnone : s.running = []) : s.inFlight = none := by
  rw [h.running] at hnone
  exact Option.toList_eq_nil_iff.1 hnone

/-- **The promise** follows. -/
theorem Inv.claim (h : Inv s) : Claim s where
  oneRefresh := by
    rw [h.running]
    cases s.inFlight <;> simp
  oneTimer := by
    rw [h.intervals]
    cases s.timer <;> simp
  resolves call hcall hdone := by
    have hknown := (h.calls call hcall).2
    rw [hdone] at hknown
    exact hknown
  tickStarts hnone hhidden handle hset thrown := by
    unfold step State.tick
    simp only [hset, hhidden, if_true, Bool.false_eq_true, if_false]
    exact started_run (h.inFlight hnone)
  callStarts hnone thrown := started_refreshNow (h.inFlight hnone) thrown
  waitingStarts hnone i k asked hcall thrown := started_resume (h.inFlight hnone) hnone hcall thrown
  stops hstopped := by
    rw [h.intervals, h.stopped hstopped]
    rfl

/-! ### What an unsound step breaks -/

/-- A refresh that throws at once leaves its promise for ever. -/
structure Stuck (s : State) : Prop where
  running : s.running = []
  inFlight : s.inFlight ≠ none

lemma Stuck.not_claim (h : Stuck s) : ¬ Claim s := by
  intro hclaim
  have hstarts := hclaim.callStarts h.running none
  have hsame := stopTimer_same s
  obtain ⟨k, hk⟩ := Option.ne_none_iff_exists'.1 h.inFlight
  have hflight : ({ s.stopTimer with missed := false } : State).inFlight = some k := hsame.1.trans hk
  have hstays : (s.refreshNow none).started = s.stopTimer.started := by
    unfold State.refreshNow State.ask
    rw [hflight]
  unfold step at hstarts
  simp only [hstays, hsame.2] at hstarts
  omega

lemma stuck_run (h : Inv s) (hnone : s.inFlight = none) {thrown : Option String} (hthrown : thrown ≠ none) :
    Stuck (s.run thrown) := by
  obtain ⟨e, rfl⟩ := Option.ne_none_iff_exists'.1 hthrown
  unfold State.run
  rw [hnone]
  exact ⟨by rw [h.running, hnone]; rfl, Option.some_ne_none _⟩

lemma stuck_ask (h : Inv s) (hnone : s.inFlight = none) {thrown : Option String} (hthrown : thrown ≠ none) :
    Stuck (s.ask thrown) := by
  have hrun := stuck_run h hnone hthrown
  unfold State.ask
  rw [hnone]
  exact ⟨hrun.running, hrun.inFlight⟩

lemma stuck_of_starts (h : Inv s) {e : Event} (hstarts : Starts s e) (hthrown : e.thrown ≠ none) :
    Stuck (step s e) := by
  cases e with
  | tick handle paused thrown =>
    obtain ⟨hset, hpaused, hhidden, hnone⟩ := hstarts
    have hrun : Stuck (s.run thrown) := stuck_run h hnone hthrown
    simpa [step, State.tick, hset, hpaused, hhidden] using hrun
  | visibilityChange paused thrown =>
    obtain ⟨hlistening, hhidden, hmissed, hpaused, hnone⟩ := hstarts
    have hcleared : Inv { s with missed := false } := ⟨h.running, h.intervals, h.numbers, h.calls, h.stopped⟩
    have hrun : Stuck ({ s with missed := false }.run thrown) := stuck_run hcleared hnone hthrown
    simpa [step, State.onVisibilityChange, hlistening, hhidden, hmissed, hpaused] using hrun
  | refreshNow thrown =>
    have hstop := h.stopTimer.1
    have hcleared : Inv { s.stopTimer with missed := false } :=
      ⟨hstop.running, hstop.intervals, hstop.numbers, hstop.calls, hstop.stopped⟩
    exact stuck_ask hcleared ((stopTimer_same s).1.trans hstarts) hthrown
  | resume i thrown =>
    obtain ⟨asked, k, hcall, hended, hnone⟩ := hstarts
    have hrun := stuck_run h hnone hthrown
    unfold step State.resume
    simp only [hcall, if_neg hended]
    exact ⟨hrun.running, hrun.inFlight⟩
  | hide | settle | stop => exact hstarts.elim

/-- A call that ends after `stop` sets the timer again. -/
lemma not_claim_of_ends (h : Inv s) {e : Event} (hends : Ends s e) (hstopped : s.stopped = true) :
    ¬ Claim (step s e) := by
  cases e with
  | resume i thrown =>
    obtain ⟨asked, k, hcall, hended⟩ := hends
    intro hclaim
    have hset : (step s (.resume i thrown)).intervals = s.nextHandle :: s.intervals ∧
        (step s (.resume i thrown)).stopped = true := by
      unfold step State.resume State.startTimer
      simp only [hcall, if_neg hended, h.stopped hstopped, hstopped, and_self]
    have hnone := hclaim.stops hset.2
    rw [hset.1] at hnone
    cases hnone
  | tick | hide | visibilityChange | refreshNow | settle | stop => exact hends.elim

lemma not_claim_of_not_sound (s : State) (e : Event) (h : Inv s) (hnot : ¬ Sound s e) : ¬ Claim (step s e) := by
  by_cases hpromised : Starts s e → e.thrown = none
  · by_cases hbefore : Ends s e → s.stopped = false
    · exact absurd ⟨hpromised, hbefore⟩ hnot
    · obtain ⟨hends, hstopped⟩ := Classical.not_imp.1 hbefore
      exact not_claim_of_ends h hends (by simpa using hstopped)
  · obtain ⟨hstarts, hthrown⟩ := Classical.not_imp.1 hpromised
    exact (stuck_of_starts h hstarts hthrown).not_claim

/-! ### Every run -/

/-- **The promise** holds in every state of a run exactly when its steps are sound. -/
theorem always_iff (doc docHidden : Bool) (es : List Event) :
    (∀ fs, fs <+: es → Claim (run step (initial doc docHidden) fs)) ↔
      Guarded step Sound (initial doc docHidden) es :=
  Guarded.iff_claim step_inv (fun _ h => h.claim) not_claim_of_not_sound (inv_initial doc docHidden) es

/-- A call that waits for its refresh while `stop` is called. -/
def outlived : List Event := [.refreshNow none, .stop, .settle 1 (.ok 0), .resume 0 none]

/-- A tick whose refresh throws at once, after which no call starts one; a call that ends after `stop`, after which a
timer starts the next one. -/
theorem throws_and_outlives :
    ¬ Claim (run step (initial true false) [.tick 0 false (some "boom")]) ∧
      ¬ Claim (run step (initial true false) outlived) ∧
      (run step (initial true false) (outlived ++ [.tick 1 false none])).started = 2 := by
  refine ⟨fun h => ?_, fun h => ?_, rfl⟩
  · exact absurd (h.callStarts rfl none) (by decide)
  · exact absurd (h.stops rfl) (by decide)

end Tiai.AutoRefresh
