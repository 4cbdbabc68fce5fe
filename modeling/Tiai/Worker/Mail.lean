import Mathlib
import Tiai.Lib.Recurrence
import Tiai.Worker.Schedule

/-!
# One mail a period

The two mail jobs as timers that follow a recurrence: a day's hour, a week's day and hour.

* `period`, `samePeriod_iff` — the days and the ISO weeks, numbered in order;
* `daily`, `weekly` — the recurrences of the two schedules;
* `Follows` — a job and the timer that does what it does;
* `mail_schedule` — of any run of the loop, the digests and the reminders.
-/

namespace Tiai.Worker

open Lib

/-! ### Periods -/

/-- The number of the day, or of the week by its Monday. -/
def period (name : JobName) (t : Time) : ℤ :=
  if name = .maintenanceReminders then Calendar.monday (date t) else date t

lemma samePeriod_iff {name : JobName} {a b : Time} :
    samePeriod name a b = true ↔ period name a = period name b := by
  unfold samePeriod period
  by_cases h : name = .maintenanceReminders
  · simp only [if_pos h, decide_eq_true_eq]
    exact Calendar.isoWeek_eq_iff
  · simp only [if_neg h, decide_eq_true_eq]

lemma date_mono : Monotone date := by
  intro a b h
  exact Int.add_le_add_right (Int.ediv_le_ediv (by decide) h) 1

lemma period_mono (name : JobName) : Monotone (period name) := by
  intro a b h
  unfold period
  split
  · exact Calendar.monday_mono (date_mono h)
  · exact date_mono h

/-! ### Recurrences -/

section Recurrences

variable {hour : Fin 24} {weekday : Fin 7} {now : ℤ}

lemma days_one : days 1 = 86400000000 := rfl

lemma days_seven : days 7 = 604800000000 := rfl

/-- An hour is within the day. -/
lemma hour_bound (hour : Fin 24) : 0 ≤ seconds (3600 * hour) ∧ seconds (3600 * hour) < 86400000000 := by
  unfold seconds
  omega

/-- Every day at HH:00. -/
def daily (hour : Fin 24) : Set ℤ := {t | t % days 1 = seconds (3600 * hour)}

/-- Every `weekday` at HH:00. -/
def weekly (weekday : Fin 7) (hour : Fin 24) : Set ℤ :=
  {t | t % days 1 = seconds (3600 * hour) ∧ Calendar.weekday (date t) = weekday}

lemma dailyAt_isLeast : IsLeast {d | d ∈ daily hour ∧ now < d} (dailyAt hour now) := by
  have hhour := hour_bound hour
  unfold dailyAt replaceHour daily
  generalize seconds (3600 * hour) = s at hhour
  generalize hday : days 1 = day
  obtain rfl : day = 86400000000 := hday.symm.trans days_one
  simp only
  by_cases hpast : now / 86400000000 * 86400000000 + s ≤ now
  · rw [if_pos hpast]
    refine ⟨⟨?_, ?_⟩, ?_⟩
    · change (now / 86400000000 * 86400000000 + s + 86400000000) % 86400000000 = s
      omega
    · omega
    · rintro d ⟨hd, hlt⟩
      change d % 86400000000 = s at hd
      omega
  · rw [if_neg hpast]
    refine ⟨⟨?_, ?_⟩, ?_⟩
    · change (now / 86400000000 * 86400000000 + s) % 86400000000 = s
      omega
    · omega
    · rintro d ⟨hd, hlt⟩
      change d % 86400000000 = s at hd
      omega

lemma weeklyAt_isLeast : IsLeast {d | d ∈ weekly weekday hour ∧ now < d} (weeklyAt weekday hour now) := by
  have hhour := hour_bound hour
  have hweekday : (0 : ℤ) ≤ weekday ∧ (weekday : ℤ) < 7 := by omega
  unfold weeklyAt replaceHour weekly date Calendar.weekday
  generalize seconds (3600 * hour) = s at hhour
  generalize ((weekday : ℕ) : ℤ) = w at hweekday
  generalize hday : days 1 = day
  obtain rfl : day = 86400000000 := hday.symm.trans days_one
  generalize hweek : days 7 = week
  obtain rfl : week = 604800000000 := hweek.symm.trans days_seven
  simp only
  generalize hq : now / 86400000000 = q
  generalize hq' : (q * 86400000000 + s) / 86400000000 = q'
  obtain rfl : q' = q := by omega
  generalize ha : (w - (q' + 1 + 6) % 7) % 7 = a
  by_cases hpast : q' * 86400000000 + s + a * 86400000000 ≤ now
  · rw [if_pos hpast]
    refine ⟨⟨⟨?_, ?_⟩, ?_⟩, ?_⟩
    · omega
    · omega
    · omega
    · rintro d ⟨⟨hd, hw⟩, hlt⟩
      generalize hd' : d / 86400000000 = e at hw
      omega
  · rw [if_neg hpast]
    refine ⟨⟨⟨?_, ?_⟩, ?_⟩, ?_⟩
    · omega
    · omega
    · omega
    · rintro d ⟨⟨hd, hw⟩, hlt⟩
      generalize hd' : d / 86400000000 = e at hw
      omega

lemma daily_once {name : JobName} (hname : name ≠ .maintenanceReminders) :
    @Set.InjOn ℤ ℤ (period name) (daily hour) := by
  intro a ha b hb hab
  simp only [period, if_neg hname, date, days_one] at hab
  change a % 86400000000 = _ at ha
  change b % 86400000000 = _ at hb
  omega

lemma weekly_once : Set.InjOn (period .maintenanceReminders) (weekly weekday hour) := by
  intro a ha b hb hab
  have hdate : date a = date b := by
    have hwa := ha.2
    have hwb := hb.2
    simp only [period, Calendar.monday, if_pos] at hab
    omega
  exact daily_once (show JobName.dailyDigest ≠ .maintenanceReminders by decide) ha.1 hb.1 hdate

/-- `daily_at`, as a recurrence of a job counted by the day. -/
def dailyRecurrence {name : JobName} (hname : name ≠ .maintenanceReminders) (hour : Fin 24) :
    Recurrence (period name) where
  due := daily hour
  next := dailyAt hour
  next_isLeast _ := dailyAt_isLeast
  once := daily_once hname

/-- `weekly_at`, as a recurrence of the reminder. -/
def weeklyRecurrence (weekday : Fin 7) (hour : Fin 24) : Recurrence (period .maintenanceReminders) where
  due := weekly weekday hour
  next := weeklyAt weekday hour
  next_isLeast _ := weeklyAt_isLeast
  once := weekly_once

/-- The schedule wanted of a mail job is a recurrence of its periods. -/
lemma wanted_recurrence {policy : SchedulePolicy} {name : JobName} {params : List ℕ}
    {schedule : Time → Time} (h : wanted policy name = some (params, schedule)) :
    ∃ r : Recurrence (period name), r.next = schedule := by
  cases name with
  | dailyDigest =>
    cases h
    exact ⟨dailyRecurrence (by decide) policy.digestHourUtc, rfl⟩
  | maintenanceReminders =>
    cases h
    exact ⟨weeklyRecurrence policy.reminderWeekday policy.digestHourUtc, rfl⟩
  | _ => cases h

end Recurrences

/-! ### A job and its timer -/

/-- The firing that a run is. -/
def Run.firing (run : Run) : Firing Time := ⟨run.due, run.ranAt⟩

/-- The job of that name does what the timer does. -/
structure Follows (name : JobName) (job : Job) (timer : Timer (period name)) : Prop where
  name_eq : job.name = name
  schedule : job.schedule = timer.recurrence.next
  nextRun : job.nextRun = timer.aim
  lastRun : job.lastRun = timer.firings.getLast?.map Firing.fired

/-- `run_due_jobs`, of one job. -/
def Job.run (now : Time) (job : Job) : Job :=
  if job.nextRun > now then job else { job with nextRun := job.schedule now, lastRun := some now }

/-- The run that a job makes of it. -/
def Job.made (now : Time) (job : Job) : Option Run :=
  if job.nextRun > now then none else some ⟨job.name, job.nextRun, now⟩

lemma runDueJobs_eq (jobs : List Job) (now : Time) :
    runDueJobs jobs now = (jobs.map (Job.run now), jobs.filterMap (Job.made now)) := by
  induction jobs with
  | nil => rfl
  | cons job jobs ih =>
    simp only [runDueJobs, ih, List.map_cons, List.filterMap_cons]
    by_cases h : job.nextRun > now
    · simp only [Job.run, Job.made, if_pos h]
    · simp only [Job.run, Job.made, if_neg h]

section Jobs

variable {job : Job} {policy : SchedulePolicy} {now : Time}

@[simp] lemma Job.apply_name (job : Job) : (job.apply policy now).name = job.name := by
  unfold Job.apply
  split
  · rfl
  · split <;> rfl

@[simp] lemma Job.run_name (job : Job) : (job.run now).name = job.name := by
  unfold Job.run
  split <;> rfl

lemma Job.apply_of_not_moves (h : job.moves policy = false) : job.apply policy now = job := by
  unfold Job.moves at h
  unfold Job.apply
  cases hwanted : wanted policy job.name with
  | none => rfl
  | some w =>
    rw [hwanted] at h
    have hparams : job.params = some w.1 := by simpa using h
    exact if_pos hparams

lemma Job.made_name {run : Run} (h : job.made now = some run) : run.name = job.name := by
  unfold Job.made at h
  split at h
  · cases h
  · cases h
    rfl

variable {name : JobName} {timer : Timer (period name)}

/-- A job whose settings change is moved to the recurrence of its new schedule. -/
lemma Follows.apply (now : Time) (h : Follows name job timer) (hmoves : job.moves policy = true) :
    ∃ r, Follows name (job.apply policy now) (timer.move r now) := by
  obtain rfl := h.name_eq
  unfold Job.moves at hmoves
  unfold Job.apply
  cases hwanted : wanted policy job.name with
  | none =>
    rw [hwanted] at hmoves
    cases hmoves
  | some w =>
    obtain ⟨params, schedule⟩ := w
    obtain ⟨r, rfl⟩ := wanted_recurrence hwanted
    rw [hwanted] at hmoves
    have hparams : job.params ≠ some params := by simpa using hmoves
    refine ⟨r, ?_⟩
    simp only [if_neg hparams]
    refine ⟨rfl, rfl, ?_, h.lastRun⟩
    unfold aimed Timer.move Timer.reaim
    simp only [h.lastRun]
    cases timer.firings.getLast? with
    | none => rfl
    | some f => simp only [Option.map_some, samePeriod_iff]

/-- A job that is due runs, and its timer fires. -/
lemma Follows.run (h : Follows name job timer) : Follows name (job.run now) (timer.fire now) := by
  unfold Job.run Timer.fire
  rw [h.nextRun]
  by_cases hdue : now < timer.aim
  · rw [if_pos hdue, if_pos hdue]
    exact h
  · rw [if_neg hdue, if_neg hdue]
    refine ⟨h.name_eq, h.schedule, congrFun h.schedule now, ?_⟩
    simp only [List.getLast?_concat, Option.map_some]

lemma Follows.made (h : Follows name job timer) :
    (timer.fire now).firings = timer.firings ++ (job.made now).toList.map Run.firing := by
  unfold Job.made Timer.fire
  rw [h.nextRun]
  by_cases hdue : now < timer.aim
  · rw [if_pos hdue, if_pos hdue]
    exact (List.append_nil _).symm
  · rw [if_neg hdue, if_neg hdue]
    rfl

/-- The runs of a name are those of the one job that has it. -/
lemma made_of_name (now : Time) {jobs : List Job} (hnames : (jobs.map Job.name).Nodup) (hjob : job ∈ jobs) :
    (jobs.filterMap (Job.made now)).filter (·.name = job.name) = (job.made now).toList := by
  have hother (rest : List Job) (hrest : job.name ∉ rest.map Job.name) :
      (rest.filterMap (Job.made now)).filter (·.name = job.name) = [] := by
    rw [List.filter_eq_nil_iff]
    intro run hrun hname
    obtain ⟨other, hother, hmade⟩ := List.mem_filterMap.1 hrun
    have hsame : other.name = job.name := (Job.made_name hmade).symm.trans (of_decide_eq_true hname)
    exact hrest (hsame ▸ List.mem_map_of_mem hother)
  induction jobs with
  | nil => exact absurd hjob List.not_mem_nil
  | cons first rest ih =>
    obtain ⟨hfirst, hnames⟩ := List.nodup_cons.1 hnames
    rw [show first :: rest = [first] ++ rest from rfl, List.filterMap_append, List.filter_append]
    rcases List.mem_cons.1 hjob with rfl | hjob
    · rw [hother rest hfirst, List.append_nil]
      cases hmade : job.made now with
      | none => simp [hmade]
      | some run => simp [hmade, Job.made_name hmade]
    · have hne : job.name ∉ [first].map Job.name := by
        intro h
        have : job.name = first.name := by simpa using h
        exact hfirst (this ▸ List.mem_map_of_mem hjob)
      rw [hother [first] hne, ih hnames hjob, List.nil_append]

end Jobs

/-! ### The loop -/

section Loops

/-- The loop's jobs have distinct names, and the timer does what the one of that name does. -/
structure Tracks (name : JobName) (loop : Loop) (timer : Timer (period name)) : Prop where
  names : (loop.jobs.map Job.name).Nodup
  job : ∃ job ∈ loop.jobs, Follows name job timer
  runs : (loop.runsOf name).map Run.firing = timer.firings

variable {name : JobName} {loop : Loop} {timer : Timer (period name)} {t : Tick}

lemma scheduled_names : (loop.scheduled t).map Job.name = loop.jobs.map Job.name := by
  unfold Loop.scheduled applySchedule
  cases t.policy with
  | none => rfl
  | some policy =>
    simp only [List.map_map]
    exact List.map_congr_left fun job _ => Job.apply_name job

/-- The job is the one of its name. -/
lemma Loop.changes_iff {job : Job} (hnames : (loop.jobs.map Job.name).Nodup) (hjob : job ∈ loop.jobs) :
    loop.changes job.name t = t.policy.any job.moves := by
  unfold Loop.changes
  cases t.policy with
  | none => rfl
  | some policy =>
    simp only [Option.any_some]
    rw [Bool.eq_iff_iff, List.any_eq_true]
    constructor
    · rintro ⟨other, hother, h⟩
      simp only [Bool.and_eq_true, decide_eq_true_eq] at h
      obtain rfl := List.inj_on_of_nodup_map hnames hother hjob h.1
      exact h.2
    · intro h
      exact ⟨job, hjob, by simpa using h⟩

/-- The jobs are run: the timer, as the schedule left it, reads the clock. -/
lemma Tracks.fire {job : Job} (hnames : (loop.jobs.map Job.name).Nodup) (hjob : job ∈ loop.scheduled t)
    (hfollows : Follows name job timer) (hruns : (loop.runsOf name).map Run.firing = timer.firings) :
    Tracks name (tick loop t) (timer.fire t.now) := by
  have hscheduled : ((loop.scheduled t).map Job.name).Nodup := scheduled_names ▸ hnames
  have hmade := made_of_name t.now hscheduled hjob
  rw [hfollows.name_eq] at hmade
  unfold tick
  rw [runDueJobs_eq]
  refine ⟨?_, ⟨job.run t.now, List.mem_map_of_mem hjob, hfollows.run⟩, ?_⟩
  · simp only [List.map_map]
    rw [show Job.name ∘ Job.run t.now = Job.name from funext Job.run_name]
    exact hscheduled
  · unfold Loop.runsOf at hruns ⊢
    rw [List.filter_append, List.map_append, hmade, hruns, hfollows.made]

/-- **A tick** re-aims the job whose settings it changes, and runs it when it is due. -/
lemma Tracks.tick (h : Tracks name loop timer) :
    (loop.changes name t = false ∧ Tracks name (tick loop t) (timer.fire t.now)) ∨
      (loop.changes name t = true ∧
        ∃ r, Tracks name (Worker.tick loop t) ((timer.move r t.appliedAt).fire t.now)) := by
  obtain ⟨job, hjob, hfollows⟩ := h.job
  have hchanges := Loop.changes_iff (t := t) h.names hjob
  rw [hfollows.name_eq] at hchanges
  rw [hchanges]
  cases hpolicy : t.policy with
  | none =>
    have hmem : job ∈ loop.scheduled t := by
      unfold Loop.scheduled
      rw [hpolicy]
      exact hjob
    exact .inl ⟨rfl, Tracks.fire h.names hmem hfollows h.runs⟩
  | some policy =>
    have hmem : job.apply policy t.appliedAt ∈ loop.scheduled t := by
      unfold Loop.scheduled
      rw [hpolicy]
      exact List.mem_map_of_mem hjob
    simp only [Option.any_some]
    cases hmoves : job.moves policy with
    | false =>
      rw [Job.apply_of_not_moves hmoves] at hmem
      exact .inl ⟨rfl, Tracks.fire h.names hmem hfollows h.runs⟩
    | true =>
      obtain ⟨r, hmoved⟩ := hfollows.apply t.appliedAt hmoves
      exact .inr ⟨rfl, r, Tracks.fire h.names hmem hmoved h.runs⟩

/-- The timer of a mail job when the worker starts. -/
lemma Tracks.start (settings : SchedulePolicy) (policy : Option SchedulePolicy) (now : Time)
    (hmail : name = .dailyDigest ∨ name = .maintenanceReminders) :
    ∃ r, Tracks name (.start settings policy now) (Timer.start r now) := by
  have hnames : ((Loop.start settings policy now).jobs.map Job.name).Nodup := by
    simp only [Loop.start, buildJobs, List.map_cons, List.map_nil]
    decide
  rcases hmail with rfl | rfl
  · refine ⟨dailyRecurrence (by decide) (policy.getD settings).digestHourUtc, hnames, ?_, rfl⟩
    exact ⟨_, List.mem_cons_of_mem _ (List.mem_cons_of_mem _ List.mem_cons_self), rfl, rfl, rfl, rfl⟩
  · refine ⟨weeklyRecurrence (policy.getD settings).reminderWeekday (policy.getD settings).digestHourUtc,
      hnames, ?_, rfl⟩
    exact ⟨_, List.mem_cons_of_mem _ (List.mem_cons_of_mem _ (List.mem_cons_of_mem _ List.mem_cons_self)),
      rfl, rfl, rfl, rfl⟩

/-- The job of that name has been run once a period, but for the period of a late run. -/
def Spaced (name : JobName) (loop : Loop) : Prop :=
  ∃ timer, Tracks name loop timer ∧ timer.Spaced loop.clock

/-- And what it ran but for `old`, it ran in later periods. -/
def Apart (name : JobName) (old : List Run) (loop : Loop) : Prop :=
  ∃ timer, Tracks name loop timer ∧ timer.Spaced loop.clock ∧ timer.Apart (old.map Run.firing)

lemma Spaced.tick (ht : Forward loop t) (h : Spaced name loop) : Spaced name (Worker.tick loop t) := by
  obtain ⟨timer, htracks, hspaced⟩ := h
  rcases htracks.tick with ⟨-, htracks⟩ | ⟨-, r, htracks⟩
  · exact ⟨_, htracks, hspaced.fire (period_mono name) (ht.1.trans ht.2)⟩
  · exact ⟨_, htracks, (hspaced.move (period_mono name) ht.1).fire (period_mono name) ht.2⟩

lemma Apart.tick {old : List Run} (ht : Forward loop t) (h : Apart name old loop) :
    Apart name old (Worker.tick loop t) := by
  obtain ⟨timer, htracks, hspaced, hapart⟩ := h
  rcases htracks.tick with ⟨-, htracks⟩ | ⟨-, r, htracks⟩
  · exact ⟨_, htracks, hspaced.fire (period_mono name) (ht.1.trans ht.2), hapart.fire (period_mono name)⟩
  · exact ⟨_, htracks, (hspaced.move (period_mono name) ht.1).fire (period_mono name) ht.2,
      (hapart.move (period_mono name) hspaced ht.1).fire (period_mono name)⟩

/-- A change of settings parts the runs before it from those after. -/
lemma Spaced.apart (ht : Forward loop t) (h : Spaced name loop) (hchanges : loop.changes name t = true) :
    Apart name (loop.runsOf name) (Worker.tick loop t) := by
  obtain ⟨timer, htracks, hspaced⟩ := h
  have hruns := htracks.runs
  rcases htracks.tick with ⟨hnot, -⟩ | ⟨-, r, htracks⟩
  · rw [hchanges] at hnot
    cases hnot
  · refine ⟨_, htracks, (hspaced.move (period_mono name) ht.1).fire (period_mono name) ht.2, ?_⟩
    rw [hruns]
    exact (hspaced.apart_move (period_mono name) ht.1).fire (period_mono name)

lemma runs_grow (ticks : List Tick) (loop : Loop) (name : JobName) :
    ∃ new, (run Worker.tick loop ticks).runsOf name = loop.runsOf name ++ new := by
  induction ticks generalizing loop with
  | nil => exact ⟨[], (List.append_nil _).symm⟩
  | cons t ticks ih =>
    obtain ⟨new, hnew⟩ := ih (Worker.tick loop t)
    have htick : (Worker.tick loop t).runsOf name = loop.runsOf name ++
        ((runDueJobs (loop.scheduled t) t.now).2.filter (·.name = name)) := List.filter_append _ _
    rw [htick, List.append_assoc] at hnew
    exact ⟨_, hnew⟩

end Loops

section Runs

variable {settings : SchedulePolicy} {policy : Option SchedulePolicy} {start : Time} {ticks : List Tick}
  {name : JobName}

lemma spaced_run (hticks : Guarded tick Forward (Loop.start settings policy start) ticks)
    (hmail : name = .dailyDigest ∨ name = .maintenanceReminders) :
    Spaced name (run tick (Loop.start settings policy start) ticks) := by
  refine Guarded.invariant (fun _ _ ht h => h.tick ht) hticks ?_
  obtain ⟨r, htracks⟩ := Tracks.start settings policy start hmail
  exact ⟨_, htracks, Timer.spaced_start r start⟩

/-- **The mails.**  Two runs of the digest in one day, or of the reminder in one ISO week, follow each other,
and the first was late, due in an earlier one.  And the runs after a change of settings are not in a period
of those before it. -/
theorem mail_schedule (hticks : Guarded tick Forward (Loop.start settings policy start) ticks)
    (hmail : name = .dailyDigest ∨ name = .maintenanceReminders) :
    (∀ earlier a between b later,
      (run tick (Loop.start settings policy start) ticks).runsOf name = earlier ++ a :: between ++ b :: later →
      samePeriod name a.ranAt b.ranAt = true → between = [] ∧ a.Late) ∧
    ∀ before t after, ticks = before ++ t :: after →
      (run tick (Loop.start settings policy start) before).changes name t = true →
      ∃ new, (run tick (Loop.start settings policy start) ticks).runsOf name =
          (run tick (Loop.start settings policy start) before).runsOf name ++ new ∧
        ∀ a ∈ (run tick (Loop.start settings policy start) before).runsOf name, ∀ b ∈ new,
          samePeriod name a.ranAt b.ranAt = false := by
  constructor
  · intro earlier a between b later hruns hsame
    obtain ⟨timer, htracks, hspaced⟩ := spaced_run hticks hmail
    have ha : a.name = name := by
      have hmem : a ∈ (run tick (Loop.start settings policy start) ticks).runsOf name := by
        rw [hruns]
        simp
      exact of_decide_eq_true (List.mem_filter.1 hmem).2
    have hfirings := htracks.runs
    rw [hruns] at hfirings
    simp only [List.map_append, List.map_cons] at hfirings
    obtain ⟨hbetween, hlate⟩ :=
      hspaced.two_in_period (period_mono name) hfirings.symm (samePeriod_iff.1 hsame)
    refine ⟨List.map_eq_nil_iff.1 hbetween, (period_mono name).reflect_lt hlate, ?_⟩
    rw [ha, Bool.eq_false_iff]
    exact mt samePeriod_iff.1 hlate.ne
  · intro before t after hsplit hchanges
    obtain ⟨hbefore, ht, hafter⟩ := Guarded.append_iff.1 (hsplit ▸ hticks)
    have hrun : run tick (Loop.start settings policy start) ticks =
        run tick (tick (run tick (Loop.start settings policy start) before) t) after := by
      rw [hsplit, run_append, run_cons]
    have happly := (spaced_run hbefore hmail).apart ht hchanges
    rw [hrun]
    obtain ⟨timer, htracks, -, ⟨new, hfirings, hnew⟩, -⟩ :=
      Guarded.invariant (P := Apart name _) (fun _ _ ht h => h.tick ht) hafter happly
    obtain ⟨runs, hruns⟩ := runs_grow (t :: after) (run tick (Loop.start settings policy start) before) name
    rw [run_cons] at hruns
    have hsame : runs.map Run.firing = new := by
      have hall := htracks.runs
      rw [hruns, List.map_append, hfirings] at hall
      exact List.append_cancel_left hall
    refine ⟨runs, hruns, fun a ha b hb => ?_⟩
    have hlt := hnew _ (List.mem_map_of_mem ha) _ (hsame ▸ List.mem_map_of_mem hb)
    rw [Bool.eq_false_iff]
    exact mt samePeriod_iff.1 hlt.ne

end Runs

/-- `HH:MM` of a day, the first being 0. -/
def clockTime (day hour minute : ℕ) : Time := days day + seconds (3600 * hour + 60 * minute)

/-- A digest at 18:00 that is late until 02:00, and runs again at 18:00; then the hour is moved to 20:00. -/
def lateThenMoved : List Tick :=
  [⟨none, clockTime 1 2 0, clockTime 1 2 0⟩, ⟨none, clockTime 1 18 0, clockTime 1 18 0⟩,
    ⟨some ⟨20, 0⟩, clockTime 1 18 30, clockTime 1 18 30⟩, ⟨none, clockTime 1 20 0, clockTime 1 20 0⟩,
    ⟨some ⟨20, 0⟩, clockTime 2 20 0, clockTime 2 20 0⟩]

theorem mail_schedule_moved :
    (run tick (Loop.start ⟨18, 0⟩ none 0) lateThenMoved).runsOf .dailyDigest =
      [⟨.dailyDigest, clockTime 0 18 0, clockTime 1 2 0⟩, ⟨.dailyDigest, clockTime 1 18 0, clockTime 1 18 0⟩,
        ⟨.dailyDigest, clockTime 2 20 0, clockTime 2 20 0⟩] ∧
    Run.Late ⟨.dailyDigest, clockTime 0 18 0, clockTime 1 2 0⟩ ∧
    ∃ new, (run tick (Loop.start ⟨18, 0⟩ none 0) lateThenMoved).runsOf .dailyDigest =
        (run tick (Loop.start ⟨18, 0⟩ none 0) (lateThenMoved.take 2)).runsOf .dailyDigest ++ new ∧
      ∀ a ∈ (run tick (Loop.start ⟨18, 0⟩ none 0) (lateThenMoved.take 2)).runsOf .dailyDigest, ∀ b ∈ new,
        samePeriod .dailyDigest a.ranAt b.ranAt = false := by
  have hruns : (run tick (Loop.start ⟨18, 0⟩ none 0) lateThenMoved).runsOf .dailyDigest =
      [⟨.dailyDigest, clockTime 0 18 0, clockTime 1 2 0⟩,
        ⟨.dailyDigest, clockTime 1 18 0, clockTime 1 18 0⟩,
        ⟨.dailyDigest, clockTime 2 20 0, clockTime 2 20 0⟩] := by
    decide +kernel
  have hticks : Guarded tick Forward (Loop.start ⟨18, 0⟩ none 0) lateThenMoved := by decide +kernel
  obtain ⟨honce, hmoved⟩ := mail_schedule hticks (.inl rfl)
  have hchanges : (run tick (Loop.start ⟨18, 0⟩ none 0) (lateThenMoved.take 2)).changes .dailyDigest
      ⟨some ⟨20, 0⟩, clockTime 1 18 30, clockTime 1 18 30⟩ = true := by decide +kernel
  exact ⟨hruns, (honce [] _ [] _ _ hruns (by decide)).2, hmoved (lateThenMoved.take 2) _ _ rfl hchanges⟩

end Tiai.Worker
