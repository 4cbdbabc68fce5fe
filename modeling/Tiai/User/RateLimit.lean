import Mathlib.Algebra.Order.Ring.Rat
import Mathlib.Data.List.Induction
import Mathlib.Tactic.Linarith
import Tiai.Lib.Runs
import Tiai.Lib.Store

/-!
# The rate limiter of the authentication surface

`RateLimiter` remembers, for each key, the moments of its accepted calls in a deque: a call first drops the
moments that left the window from the front of its key's deque, is refused when `max_attempts` are left, and is
recorded otherwise.  When more than 1024 keys are remembered, an accepted call also drops what left the window
from every deque and forgets the keys that keep nothing.

* `RateLimiter.allow` — one call, with the sweep of the other keys;
* `plainStep` — the same answer from the plain count over the full history;
* `run_history` — a limiter that sweeps whenever it likes answers as the plain count does;
* `plain_le`, `plain_refused` — the two sides of the count;
* `rate_limited` — no window holds more than `max_attempts` accepted calls of a key, no call is refused without
  them, and the sweeps change no answer.
-/

namespace Tiai.RateLimit

open Lib

/-- A value of the monotonic clock. -/
abbrev Moment := ℚ

abbrev Key := String

structure RateLimiter where
  maxAttempts : ℕ
  window : ℚ

/-- The deques of moments by key. -/
abbrev Hits := Store Key (List Moment)

structure Call where
  key : Key
  now : Moment

/-! ### One call -/

/-- Drops the moments up to `windowStart` from the front. -/
def popleft (windowStart : Moment) (hits : List Moment) : List Moment :=
  hits.dropWhile fun t => t ≤ windowStart

def sweep (windowStart : Moment) (hits : Hits) : Hits :=
  (hits.mapAll (popleft windowStart)).dropWhere fun deque => deque.isEmpty

/-- One call of a limiter that sweeps after an accepted call when `due` holds of what it remembers. -/
def RateLimiter.allowSweeping (l : RateLimiter) (due : Hits → Bool) (hits : Hits) (key : Key)
    (now : Moment) : Bool × Hits :=
  let windowStart := now - l.window
  let deque := popleft windowStart ((hits.get key).getD [])
  if deque.length ≥ l.maxAttempts then (false, hits.put key deque)
  else
    let hits := hits.put key (deque ++ [now])
    (true, if due hits then sweep windowStart hits else hits)

def RateLimiter.allow (l : RateLimiter) : Hits → Key → Moment → Bool × Hits :=
  l.allowSweeping fun hits => hits.length > 1024

/-! ### A sequence of calls -/

/-- What a limiter remembers, and what it answered so far. -/
structure Served where
  hits : Hits
  history : List (Call × Bool)

def start : Served := ⟨[], []⟩

def stepWith (allow : Hits → Key → Moment → Bool × Hits) (s : Served) (c : Call) : Served where
  hits := (allow s.hits c.key c.now).2
  history := s.history ++ [(c, (allow s.hits c.key c.now).1)]

/-- The moments of the accepted calls of a key, oldest first. -/
def accepted (key : Key) (history : List (Call × Bool)) : List Moment :=
  (history.filter fun e => e.1.key = key && e.2).map (·.1.now)

/-- How many calls of a key were accepted after `t`, up to `t'`. -/
def acceptedIoc (key : Key) (t t' : Moment) (history : List (Call × Bool)) : ℕ :=
  (accepted key history).countP fun x => t < x ∧ x ≤ t'

/-- How many calls of a key were accepted from `t` on, before `t'`. -/
def acceptedIco (key : Key) (t t' : Moment) (history : List (Call × Bool)) : ℕ :=
  (accepted key history).countP fun x => t ≤ x ∧ x < t'

/-- The answer by the plain count over the full history. -/
def RateLimiter.plainAllow (l : RateLimiter) (history : List (Call × Bool)) (c : Call) : Bool :=
  acceptedIoc c.key (c.now - l.window) c.now history < l.maxAttempts

def RateLimiter.plainStep (l : RateLimiter) (history : List (Call × Bool)) (c : Call) : List (Call × Bool) :=
  history ++ [(c, l.plainAllow history c)]

section

variable {l : RateLimiter} {due : Hits → Bool} {hits : Hits} {key : Key} {x y now : Moment} {s : Served}
  {deque rest : List Moment} {history : List (Call × Bool)} {c : Call} {b : Bool} {calls : List Call}

/-! ### What leaves the window -/

/-- What left an earlier window has left a later one. -/
lemma popleft_popleft_append (h : y ≤ x) :
    popleft x (popleft y deque ++ rest) = popleft x (deque ++ rest) := by
  induction deque with
  | nil => rfl
  | cons t deque ih =>
    by_cases ht : t ≤ y
    · have hx : t ≤ x := ht.trans h
      have hy : popleft y (t :: deque) = popleft y deque := List.dropWhile_cons_of_pos (by simpa using ht)
      rw [hy, ih]
      exact (List.dropWhile_cons_of_pos (by simpa using hx)).symm
    · have hy : popleft y (t :: deque) = t :: deque := List.dropWhile_cons_of_neg (by simpa using ht)
      rw [hy]

lemma popleft_popleft (h : y ≤ x) : popleft x (popleft y deque) = popleft x deque := by
  have happend : popleft x (popleft y deque ++ []) = popleft x (deque ++ []) := popleft_popleft_append h
  rwa [List.append_nil, List.append_nil] at happend

/-- In a sorted deque, what is left is what lies in the window. -/
lemma popleft_of_sorted (h : deque.Pairwise (· ≤ ·)) : popleft x deque = deque.filter fun t => x < t := by
  induction deque with
  | nil => rfl
  | cons t deque ih =>
    rw [List.pairwise_cons] at h
    by_cases ht : t ≤ x
    · rw [List.filter_cons_of_neg (by simpa using ht), ← ih h.2]
      exact List.dropWhile_cons_of_pos (by simpa using ht)
    · have hkept : (t :: deque).filter (fun t => decide (x < t)) = t :: deque := by
        rw [List.filter_eq_self]
        intro u hu
        have htu : t ≤ u := by
          rcases List.mem_cons.1 hu with rfl | hu
          · exact le_rfl
          · exact h.1 u hu
        simpa using lt_of_lt_of_le (not_le.1 ht) htu
      rw [hkept]
      exact List.dropWhile_cons_of_neg (by simpa using ht)

lemma getD_sweep : ((sweep x hits).get key).getD [] = popleft x ((hits.get key).getD []) := by
  rw [sweep, Store.get_dropWhere, Store.get_mapAll]
  cases hits.get key with
  | none => rfl
  | some deque =>
    rw [Option.map_some, Option.getD_some]
    cases hkept : popleft x deque with
    | nil => rfl
    | cons t rest => rfl

/-! ### What one call leaves -/

lemma accepted_append (key : Key) (history : List (Call × Bool)) (c : Call) (b : Bool) :
    accepted key (history ++ [(c, b)]) =
      accepted key history ++ if c.key = key && b then [c.now] else [] := by
  rw [accepted, accepted, List.filter_append, List.map_append, List.filter_cons, List.filter_nil]
  congr 1
  split <;> rfl

lemma allowSweeping_fst : (l.allowSweeping due hits key now).1 =
    decide ((popleft (now - l.window) ((hits.get key).getD [])).length < l.maxAttempts) := by
  unfold RateLimiter.allowSweeping
  by_cases hfull : (popleft (now - l.window) ((hits.get key).getD [])).length ≥ l.maxAttempts
  · rw [if_pos hfull]
    exact (decide_eq_false (not_lt.2 hfull)).symm
  · rw [if_neg hfull]
    exact (decide_eq_true (not_le.1 hfull)).symm

/-- Whether it sweeps or not, a call leaves every deque as it was, with its own moment at the end if it was
accepted, up to what no later call will look at. -/
lemma popleft_allowSweeping (key' : Key) (h : now - l.window ≤ x) :
    popleft x (((l.allowSweeping due hits key now).2.get key').getD []) =
      popleft x ((hits.get key').getD [] ++
        if key = key' && (l.allowSweeping due hits key now).1 then [now] else []) := by
  have hput : ∀ rest, popleft x (((hits.put key
      (popleft (now - l.window) ((hits.get key).getD []) ++ rest)).get key').getD []) =
        popleft x ((hits.get key').getD [] ++ if key = key' then rest else []) := by
    intro rest
    by_cases hkey : key = key'
    · subst hkey
      rw [Store.get_put_self, if_pos rfl, Option.getD_some, popleft_popleft_append h]
    · rw [Store.get_put_of_ne _ _ (Ne.symm hkey), if_neg hkey, List.append_nil]
  rw [allowSweeping_fst]
  unfold RateLimiter.allowSweeping
  by_cases hfull : (popleft (now - l.window) ((hits.get key).getD [])).length ≥ l.maxAttempts
  · have hrefused := hput []
    rw [List.append_nil, ite_self] at hrefused
    rw [if_pos hfull, decide_eq_false (not_lt.2 hfull), Bool.and_false, if_neg Bool.false_ne_true]
    exact hrefused
  · have haccepted := hput [now]
    rw [if_neg hfull, decide_eq_true (not_le.1 hfull), Bool.and_true]
    simp only [decide_eq_true_eq]
    split
    · rw [getD_sweep, popleft_popleft h]
      exact haccepted
    · exact haccepted

/-! ### The plain count -/

/-- What is remembered of a key answers, for any window a later call may ask for, as the full history does. -/
def Remembers (l : RateLimiter) (s : Served) : Prop :=
  ∀ key x now, (∀ e ∈ s.history, e.1.now ≤ now) → now - l.window ≤ x →
    popleft x ((s.hits.get key).getD []) = popleft x (accepted key s.history)

lemma Remembers.step (hclock : ∀ e ∈ s.history, e.1.now ≤ c.now) (h : Remembers l s) :
    Remembers l (stepWith (l.allowSweeping due) s c) := by
  intro key x now hpast hx
  have hnow : c.now ≤ now := hpast _ (List.mem_append_right _ (List.mem_singleton_self _))
  have hwindow : c.now - l.window ≤ x := (sub_le_sub_right hnow _).trans hx
  have hkept := h key (c.now - l.window) c.now hclock le_rfl
  calc popleft x (((stepWith (l.allowSweeping due) s c).hits.get key).getD [])
      = popleft x ((s.hits.get key).getD [] ++
          if c.key = key && (l.allowSweeping due s.hits c.key c.now).1 then [c.now] else []) :=
        popleft_allowSweeping key hwindow
    _ = popleft x (accepted key s.history ++
          if c.key = key && (l.allowSweeping due s.hits c.key c.now).1 then [c.now] else []) := by
        rw [← popleft_popleft_append hwindow, hkept, popleft_popleft_append hwindow]
    _ = popleft x (accepted key (stepWith (l.allowSweeping due) s c).history) := by
        rw [stepWith, accepted_append]

lemma mem_accepted {t : Moment} (h : t ∈ accepted key history) : ∃ e ∈ history, e.1.now = t := by
  obtain ⟨e, he, rfl⟩ := List.mem_map.1 h
  exact ⟨e, (List.mem_filter.1 he).1, rfl⟩

lemma sorted_accepted (h : (history.map Prod.fst).Pairwise (·.now ≤ ·.now)) :
    (accepted key history).Pairwise (· ≤ ·) := by
  rw [List.pairwise_map] at h
  exact List.pairwise_map.2 (h.filter _)

/-- The answer of a limiter that remembers what it must is the plain one. -/
lemma Remembers.allow_eq (hsorted : (s.history.map Prod.fst).Pairwise (·.now ≤ ·.now))
    (hclock : ∀ e ∈ s.history, e.1.now ≤ c.now) (h : Remembers l s) :
    (l.allowSweeping due s.hits c.key c.now).1 = l.plainAllow s.history c := by
  have hcount : (popleft (c.now - l.window) ((s.hits.get c.key).getD [])).length =
      acceptedIoc c.key (c.now - l.window) c.now s.history := by
    rw [h c.key _ c.now hclock le_rfl, popleft_of_sorted (sorted_accepted hsorted),
      ← List.countP_eq_length_filter]
    refine List.countP_congr fun t ht => ?_
    obtain ⟨e, he, rfl⟩ := mem_accepted ht
    have hpast := hclock e he
    simp [hpast]
  rw [allowSweeping_fst, hcount]
  rfl

lemma history_calls (allow : Hits → Key → Moment → Bool × Hits) (calls : List Call) :
    (run (stepWith allow) start calls).history.map Prod.fst = calls := by
  induction calls using List.reverseRecOn with
  | nil => rfl
  | append_singleton calls c ih =>
    rw [run_append, run_cons, run_nil, stepWith, List.map_append, ih]
    rfl

/-- **Sweeps change no answer.**  Whenever it sweeps, a limiter on a nondecreasing clock answers as the plain
count over the full history does. -/
theorem run_history (due : Hits → Bool) (hclock : calls.Pairwise (·.now ≤ ·.now)) :
    (run (stepWith (l.allowSweeping due)) start calls).history = run l.plainStep [] calls := by
  suffices h : Remembers l (run (stepWith (l.allowSweeping due)) start calls) ∧
      (run (stepWith (l.allowSweeping due)) start calls).history = run l.plainStep [] calls from h.2
  induction calls using List.reverseRecOn with
  | nil => exact ⟨fun _ _ _ _ _ => rfl, rfl⟩
  | append_singleton calls c ih =>
    rw [List.pairwise_append] at hclock
    obtain ⟨hkept, hhistory⟩ := ih hclock.1
    have hcalls := history_calls (l.allowSweeping due) calls
    have hsorted : ((run (stepWith (l.allowSweeping due)) start calls).history.map Prod.fst).Pairwise
        (·.now ≤ ·.now) := hcalls.symm ▸ hclock.1
    have hpast : ∀ e ∈ (run (stepWith (l.allowSweeping due)) start calls).history, e.1.now ≤ c.now := by
      intro e he
      have hmem : e.1 ∈ calls := hcalls ▸ List.mem_map_of_mem he
      exact hclock.2.2 e.1 hmem c (List.mem_singleton_self c)
    rw [run_append, run_append]
    refine ⟨hkept.step hpast, ?_⟩
    rw [run_cons, run_nil, run_cons, run_nil, RateLimiter.plainStep, ← hhistory,
      ← hkept.allow_eq hsorted hpast]
    rfl

/-! ### What the plain count promises -/

lemma plain_calls (l : RateLimiter) (calls : List Call) : (run l.plainStep [] calls).map Prod.fst = calls := by
  induction calls using List.reverseRecOn with
  | nil => rfl
  | append_singleton calls c ih =>
    rw [run_append, run_cons, run_nil, RateLimiter.plainStep, List.map_append, ih]
    rfl

/-- No set of moments less than a window apart holds more than `max_attempts` accepted calls of a key. -/
theorem plain_le (p : Moment → Bool) (hp : ∀ t u, p t = true → p u = true → u - t < l.window)
    (hclock : calls.Pairwise (·.now ≤ ·.now)) (key : Key) :
    (accepted key (run l.plainStep [] calls)).countP p ≤ l.maxAttempts := by
  induction calls using List.reverseRecOn with
  | nil => exact Nat.zero_le _
  | append_singleton calls c ih =>
    rw [List.pairwise_append] at hclock
    have hbefore := ih hclock.1
    rw [run_append, run_cons, run_nil, RateLimiter.plainStep, accepted_append, List.countP_append]
    by_cases hcounted : (c.key = key && l.plainAllow (run l.plainStep [] calls) c) = true ∧ p c.now = true
    · obtain ⟨hc, hin⟩ := hcounted
      obtain ⟨hkey, hallowed⟩ := Bool.and_eq_true_iff.1 hc
      obtain rfl := of_decide_eq_true hkey
      rw [if_pos hc, List.countP_singleton, if_pos hin]
      -- what lies in a window with this call lies in the window that ends at it
      have hsub : (accepted c.key (run l.plainStep [] calls)).countP p ≤
          acceptedIoc c.key (c.now - l.window) c.now (run l.plainStep [] calls) := by
        refine List.countP_mono_left fun t ht hpt => ?_
        obtain ⟨e, he, rfl⟩ := mem_accepted ht
        have hmem : e.1 ∈ calls := plain_calls l calls ▸ List.mem_map_of_mem he
        have hpast := hclock.2.2 e.1 hmem c (List.mem_singleton_self c)
        have hspan := hp e.1.now c.now hpt hin
        exact decide_eq_true ⟨by linarith, hpast⟩
      exact Nat.succ_le_of_lt (hsub.trans_lt (of_decide_eq_true hallowed))
    · have hnone : (if (c.key = key && l.plainAllow (run l.plainStep [] calls) c) = true
          then [c.now] else []).countP p = 0 := by
        split
        · rename_i hc
          rw [List.countP_singleton, if_neg fun hin => hcounted ⟨hc, hin⟩]
        · rfl
      rw [hnone]
      exact hbefore

/-- Each answer of the history is the plain one after what stands before it. -/
theorem plain_answer {past rest : List (Call × Bool)} (h : run l.plainStep [] calls = past ++ (c, b) :: rest) :
    b = l.plainAllow past c := by
  induction calls using List.reverseRecOn generalizing rest with
  | nil => exact absurd h.symm (List.append_ne_nil_of_right_ne_nil past (List.cons_ne_nil _ rest))
  | append_singleton calls d ih =>
    rw [run_append, run_cons, run_nil, RateLimiter.plainStep] at h
    rcases List.eq_nil_or_concat rest with rfl | ⟨rest, last, rfl⟩
    · obtain ⟨hpast, hlast⟩ := List.append_inj' h rfl
      obtain ⟨rfl, hb⟩ := Prod.mk.inj (List.cons.inj hlast).1
      rw [← hpast, hb]
    · rw [List.concat_eq_append, ← List.cons_append, ← List.append_assoc] at h
      exact ih (List.append_inj' h rfl).1

/-- A refused call already has `max_attempts` accepted calls in the window that ends at it. -/
theorem plain_refused {past rest : List (Call × Bool)}
    (h : run l.plainStep [] calls = past ++ (c, false) :: rest) :
    l.maxAttempts ≤ acceptedIoc c.key (c.now - l.window) c.now past :=
  not_lt.1 (of_decide_eq_false (plain_answer h).symm)

end

/-! ### The limiter -/

/-- The history of a limiter after a sequence of calls. -/
def RateLimiter.serve (l : RateLimiter) (calls : List Call) : List (Call × Bool) :=
  (run (stepWith l.allow) start calls).history

/-- The same limiter without its sweeps. -/
def RateLimiter.serveUnswept (l : RateLimiter) (calls : List Call) : List (Call × Bool) :=
  (run (stepWith (l.allowSweeping fun _ => false)) start calls).history

/-- **The limiter counts as over the full history.**  For any calls on a nondecreasing clock, no window of the
configured length holds more than `max_attempts` accepted calls of a key, whichever of its ends it leaves out; a
call is refused only when the window that ends at it already holds `max_attempts` accepted calls of its key; and a
limiter that never sweeps gives the same answers. -/
theorem rate_limited (l : RateLimiter) (calls : List Call) (hclock : calls.Pairwise (·.now ≤ ·.now)) :
    (∀ key t, acceptedIoc key t (t + l.window) (l.serve calls) ≤ l.maxAttempts ∧
      acceptedIco key t (t + l.window) (l.serve calls) ≤ l.maxAttempts) ∧
    (∀ past c rest, l.serve calls = past ++ (c, false) :: rest →
      l.maxAttempts ≤ acceptedIoc c.key (c.now - l.window) c.now past) ∧
    l.serve calls = l.serveUnswept calls := by
  have hplain : l.serve calls = run l.plainStep [] calls := run_history _ hclock
  have hunswept : l.serveUnswept calls = run l.plainStep [] calls := run_history _ hclock
  rw [hunswept, hplain]
  refine ⟨fun key t => ⟨?_, ?_⟩, fun past c rest h => plain_refused h, rfl⟩
  · refine plain_le _ (fun x y hx hy => ?_) hclock key
    have hx := of_decide_eq_true hx
    have hy := of_decide_eq_true hy
    linarith [hx.1, hy.2]
  · refine plain_le _ (fun x y hx hy => ?_) hclock key
    have hx := of_decide_eq_true hx
    have hy := of_decide_eq_true hy
    linarith [hx.1, hy.2]

/-- The budget of password reset requests. -/
def passwordResetLimiter : RateLimiter := ⟨5, 900⟩

/-- Six requests in six seconds: the sixth is refused. -/
theorem rate_limited_reset :
    let calls := [0, 1, 2, 3, 4, 5].map fun t : ℚ => (⟨"10.0.0.7", t⟩ : Call)
    (passwordResetLimiter.serve calls).map Prod.snd = [true, true, true, true, true, false] ∧
    passwordResetLimiter.serve calls = passwordResetLimiter.serveUnswept calls := by
  refine ⟨by decide +kernel, (rate_limited passwordResetLimiter _ ?_).2.2⟩
  decide +kernel

end Tiai.RateLimit
