import Mathlib.Order.Bounds.Basic
import Mathlib.Data.List.Chain

/-!
# Recurrences, and a timer that follows one

Time is divided into periods, numbered in order.  A recurrence has at most one due instant in each period,
and for every instant a next one after it.  A timer aims at a due instant of its recurrence; when the clock
has reached it, it fires and aims at the next.  It may be moved to another recurrence, and then skips what
is left of the period it last fired in.

* `Recurrence.period_lt_next` — from a due instant, and later in its period, the next is in a later period;
* `Timer.Spaced` — the firings are one a period, but for a period with a late one;
* `Timer.Apart` — firings from some point on share no period with the earlier ones;
* `Timer.Spaced.fire`, `Timer.Spaced.move`, `Timer.Apart.fire`, `Timer.Apart.move` — the steps keep them;
* `Timer.Spaced.two_in_period` — two firings in one period are consecutive, and the first was late.
-/

namespace Tiai.Lib

variable {τ π : Type*} [LinearOrder τ]

/-- Due instants, one a period at most, and the next one after any instant. -/
structure Recurrence (period : τ → π) where
  due : Set τ
  next : τ → τ
  next_isLeast (t : τ) : IsLeast {d | d ∈ due ∧ t < d} (next t)
  once : Set.InjOn period due

variable {period : τ → π}

namespace Recurrence

variable (r : Recurrence period)

lemma next_due (t : τ) : r.next t ∈ r.due := (r.next_isLeast t).1.1

lemma lt_next (t : τ) : t < r.next t := (r.next_isLeast t).1.2

variable [LinearOrder π]

lemma period_lt_next (hperiod : Monotone period) {d t : τ} (hd : d ∈ r.due) (hdt : d ≤ t)
    (hsame : period d = period t) : period t < period (r.next t) := by
  refine lt_of_le_of_ne (hperiod (r.lt_next t).le) fun h => ?_
  have : d = r.next t := r.once hd (r.next_due t) (hsame.trans h)
  exact absurd (r.lt_next t) (this ▸ hdt).not_gt

lemma period_lt_next_next (hperiod : Monotone period) (t : τ) :
    period (r.next t) < period (r.next (r.next t)) :=
  r.period_lt_next hperiod (r.next_due t) le_rfl rfl

end Recurrence

/-- A firing: the instant that was due, and when the timer was found to have reached it. -/
structure Firing (τ : Type*) where
  due : τ
  fired : τ

variable [LinearOrder π]

/-- The firing was late, in a later period than was due. -/
def Firing.Late (period : τ → π) (f : Firing τ) : Prop := period f.due < period f.fired

/-- A timer, and its firings so far. -/
structure Timer (period : τ → π) where
  recurrence : Recurrence period
  aim : τ
  aim_due : aim ∈ recurrence.due
  firings : List (Firing τ)

namespace Timer

def start (r : Recurrence period) (now : τ) : Timer period := ⟨r, r.next now, r.next_due now, []⟩

/-- The clock is read: a timer that has reached its aim fires. -/
def fire (timer : Timer period) (now : τ) : Timer period :=
  if now < timer.aim then timer
  else ⟨timer.recurrence, timer.recurrence.next now, timer.recurrence.next_due now,
    timer.firings ++ [⟨timer.aim, now⟩]⟩

/-- The first due instant of `r` after `now` that is not in the period of the last firing. -/
def reaim (r : Recurrence period) (last : Option (Firing τ)) (now : τ) : τ :=
  match last with
  | none => r.next now
  | some f => if period f.fired = period (r.next now) then r.next (r.next now) else r.next now

lemma reaim_due (r : Recurrence period) (last : Option (Firing τ)) (now : τ) :
    reaim r last now ∈ r.due := by
  unfold reaim
  cases last with
  | none => exact r.next_due now
  | some f =>
    simp only
    split
    · exact r.next_due _
    · exact r.next_due now

/-- The timer is moved to another recurrence. -/
def move (timer : Timer period) (r : Recurrence period) (now : τ) : Timer period :=
  ⟨r, reaim r timer.firings.getLast? now, reaim_due r _ now, timer.firings⟩

/-- What a firing is to the next one. -/
def Before (period : τ → π) (f g : Firing τ) : Prop :=
  f.fired < g.due ∧ (period f.fired = period g.fired → f.Late period)

/-- By `clock`, the timer has fired once a period, but for a period it fired late in. -/
structure Spaced (timer : Timer period) (clock : τ) : Prop where
  due_le : ∀ f ∈ timer.firings, f.due ≤ f.fired
  sorted : timer.firings.Pairwise fun f g => f.fired ≤ g.fired
  chain : timer.firings.IsChain (Before period)
  fired_le : ∀ f ∈ timer.firings, f.fired ≤ clock
  lt_aim : ∀ f ∈ timer.firings, f.fired < timer.aim
  aim_late : ∀ f ∈ timer.firings.getLast?, period f.fired = period timer.aim → f.Late period

/-- The firings are those in `old`, and later ones in later periods; so is the aim. -/
structure Apart (old : List (Firing τ)) (timer : Timer period) : Prop where
  later : ∃ new, timer.firings = old ++ new ∧ ∀ f ∈ old, ∀ g ∈ new, period f.fired < period g.fired
  lt_aim : ∀ f ∈ old, period f.fired < period timer.aim

lemma spaced_start (r : Recurrence period) (now : τ) : (start r now).Spaced now where
  due_le := fun _ hf => absurd hf List.not_mem_nil
  sorted := .nil
  chain := .nil
  fired_le := fun _ hf => absurd hf List.not_mem_nil
  lt_aim := fun _ hf => absurd hf List.not_mem_nil
  aim_late := fun _ hf => nomatch hf

section Steps

variable {timer : Timer period} {clock now : τ} {r : Recurrence period} {old : List (Firing τ)}

/-! A firing -/

lemma Spaced.fire (hperiod : Monotone period) (h : timer.Spaced clock) (hnow : clock ≤ now) :
    (timer.fire now).Spaced now := by
  have hpast (f : Firing τ) (hf : f ∈ timer.firings) : f.fired ≤ now := (h.fired_le f hf).trans hnow
  unfold Timer.fire
  split
  · exact { h with fired_le := hpast }
  · rename_i haim
    have haim : timer.aim ≤ now := not_lt.1 haim
    refine ⟨?_, ?_, ?_, ?_, ?_, ?_⟩
    · intro f hf
      rcases List.mem_append.1 hf with hf | hf
      · exact h.due_le f hf
      · obtain rfl := List.mem_singleton.1 hf
        exact haim
    · refine List.pairwise_append.2 ⟨h.sorted, List.pairwise_singleton _ _, ?_⟩
      intro f hf g hg
      obtain rfl := List.mem_singleton.1 hg
      exact hpast f hf
    · refine List.isChain_append.2 ⟨h.chain, .singleton _, ?_⟩
      intro f hf g hg
      obtain rfl := Option.some.inj hg
      have hlt := h.lt_aim f (List.mem_of_getLast? hf)
      refine ⟨hlt, fun hsame => h.aim_late f hf ?_⟩
      -- The aim is between two instants of one period.
      exact le_antisymm (hperiod hlt.le) (hsame ▸ hperiod haim)
    · intro f hf
      rcases List.mem_append.1 hf with hf | hf
      · exact hpast f hf
      · obtain rfl := List.mem_singleton.1 hf
        exact le_rfl
    · intro f hf
      rcases List.mem_append.1 hf with hf | hf
      · exact lt_of_le_of_lt (hpast f hf) (timer.recurrence.lt_next now)
      · obtain rfl := List.mem_singleton.1 hf
        exact timer.recurrence.lt_next now
    · intro f hf hsame
      rw [List.getLast?_concat] at hf
      obtain rfl := Option.some.inj hf
      -- Were it in time, the next would be in a later period.
      refine lt_of_le_of_ne (hperiod haim) fun hintime => ?_
      exact (timer.recurrence.period_lt_next hperiod timer.aim_due haim hintime).ne hsame

lemma Apart.fire (hperiod : Monotone period) (h : timer.Apart old) : (timer.fire now).Apart old := by
  unfold Timer.fire
  split
  · exact h
  · rename_i haim
    have haim : timer.aim ≤ now := not_lt.1 haim
    have hnow (f : Firing τ) (hf : f ∈ old) : period f.fired < period now :=
      lt_of_lt_of_le (h.lt_aim f hf) (hperiod haim)
    obtain ⟨new, hfirings, hnew⟩ := h.later
    refine ⟨⟨new ++ [⟨timer.aim, now⟩], ?_, ?_⟩, ?_⟩
    · simp only [hfirings, List.append_assoc]
    · intro f hf g hg
      rcases List.mem_append.1 hg with hg | hg
      · exact hnew f hf g hg
      · obtain rfl := List.mem_singleton.1 hg
        exact hnow f hf
    · intro f hf
      exact lt_of_lt_of_le (hnow f hf) (hperiod (timer.recurrence.lt_next now).le)

/-! A move -/

lemma lt_reaim (r : Recurrence period) (last : Option (Firing τ)) (now : τ) : now < reaim r last now := by
  unfold reaim
  cases last with
  | none => exact r.lt_next now
  | some f =>
    simp only
    split
    · exact (r.lt_next now).trans (r.lt_next _)
    · exact r.lt_next now

lemma period_lt_reaim (hperiod : Monotone period) {f : Firing τ} (hf : f.fired ≤ now) :
    period f.fired < period (reaim r (some f) now) := by
  have hle : period f.fired ≤ period (r.next now) := hperiod (hf.trans (r.lt_next now).le)
  unfold reaim
  simp only
  split
  · exact lt_of_le_of_lt hle (r.period_lt_next_next hperiod now)
  · rename_i hne
    exact lt_of_le_of_ne hle hne

/-- A timer that is moved aims past the periods it has fired in. -/
lemma Spaced.lt_move (hperiod : Monotone period) (h : timer.Spaced clock) (hnow : clock ≤ now)
    {f : Firing τ} (hf : f ∈ timer.firings) : period f.fired < period (timer.move r now).aim := by
  rcases List.eq_nil_or_concat timer.firings with hnil | ⟨init, last, hfirings⟩
  · rw [hnil] at hf
    exact absurd hf List.not_mem_nil
  rw [List.concat_eq_append] at hfirings
  have hlast : timer.firings.getLast? = some last := by rw [hfirings, List.getLast?_concat]
  have hle : f.fired ≤ last.fired := by
    rw [hfirings] at hf
    rcases List.mem_append.1 hf with hf | hf
    · exact (List.pairwise_append.1 (hfirings ▸ h.sorted)).2.2 f hf last (List.mem_singleton_self last)
    · obtain rfl := List.mem_singleton.1 hf
      exact le_rfl
  have hpast : last.fired ≤ now := (h.fired_le last (List.mem_of_getLast? hlast)).trans hnow
  unfold Timer.move
  simp only [hlast]
  exact lt_of_le_of_lt (hperiod hle) (period_lt_reaim hperiod hpast)

lemma Spaced.move (hperiod : Monotone period) (h : timer.Spaced clock) (hnow : clock ≤ now) :
    (timer.move r now).Spaced now where
  due_le := h.due_le
  sorted := h.sorted
  chain := h.chain
  fired_le f hf := (h.fired_le f hf).trans hnow
  lt_aim f hf := lt_of_le_of_lt ((h.fired_le f hf).trans hnow) (lt_reaim r _ now)
  aim_late _ hf hsame := absurd hsame (h.lt_move hperiod hnow (List.mem_of_getLast? hf)).ne

lemma Apart.move (hperiod : Monotone period) (h : timer.Spaced clock) (hnow : clock ≤ now)
    (hold : timer.Apart old) : (timer.move r now).Apart old := by
  obtain ⟨new, hfirings, hnew⟩ := hold.later
  refine ⟨⟨new, hfirings, hnew⟩, fun f hf => ?_⟩
  refine h.lt_move hperiod hnow ?_
  rw [hfirings]
  exact List.mem_append_left new hf

/-- After a move, the firings so far are over. -/
lemma Spaced.apart_move (hperiod : Monotone period) (h : timer.Spaced clock) (hnow : clock ≤ now) :
    (timer.move r now).Apart timer.firings where
  later := ⟨[], (List.append_nil _).symm, fun _ _ _ hg => absurd hg List.not_mem_nil⟩
  lt_aim _ hf := h.lt_move hperiod hnow hf

/-! Two firings in one period -/

lemma chain_two (hperiod : Monotone period) {a b : Firing τ} {between later : List (Firing τ)}
    (hdue : ∀ f ∈ a :: between ++ b :: later, f.due ≤ f.fired)
    (hsorted : (a :: between ++ b :: later).Pairwise fun f g => f.fired ≤ g.fired)
    (hchain : (a :: between ++ b :: later).IsChain (Before period))
    (hsame : period a.fired = period b.fired) : between = [] ∧ a.Late period := by
  induction between generalizing a with
  | nil => exact ⟨rfl, (List.isChain_cons_cons.1 hchain).1.2 hsame⟩
  | cons c between ih =>
    -- `c` is in the period too; so it was late, and yet due after `a`.
    obtain ⟨⟨hac, -⟩, hchain⟩ := List.isChain_cons_cons.1 hchain
    have hsorted := (List.pairwise_cons.1 hsorted).2
    have hdue := fun f hf => hdue f (List.mem_cons_of_mem a hf)
    have hca : period a.fired ≤ period c.due := hperiod hac.le
    have hcb : period c.fired ≤ period b.fired := by
      refine hperiod ((List.pairwise_cons.1 hsorted).1 b ?_)
      exact List.mem_append_right between List.mem_cons_self
    have hc : period c.due ≤ period c.fired := hperiod (hdue c List.mem_cons_self)
    obtain ⟨-, hlate⟩ := ih hdue hsorted hchain (le_antisymm hcb (hsame ▸ hca.trans hc))
    exact absurd (lt_of_lt_of_le hlate hcb) (hsame ▸ hca).not_gt

/-- **Once a period.**  Two firings in one period follow each other, and the first was late. -/
theorem Spaced.two_in_period (hperiod : Monotone period) (h : timer.Spaced clock) {a b : Firing τ}
    {earlier between later : List (Firing τ)} (hfirings : timer.firings = earlier ++ a :: between ++ b :: later)
    (hsame : period a.fired = period b.fired) : between = [] ∧ a.Late period := by
  rw [List.append_assoc] at hfirings
  have hsub (f : Firing τ) (hf : f ∈ a :: between ++ b :: later) : f ∈ timer.firings := by
    rw [hfirings]
    exact List.mem_append_right earlier hf
  refine chain_two hperiod (fun f hf => h.due_le f (hsub f hf)) ?_ ?_ hsame
  · exact (List.pairwise_append.1 (hfirings ▸ h.sorted)).2.1
  · exact (List.isChain_append.1 (hfirings ▸ h.chain)).2.1

end Steps

end Timer

end Tiai.Lib
