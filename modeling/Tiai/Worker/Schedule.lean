import Mathlib.Data.List.Basic
import Mathlib.Data.Fin.Basic
import Tiai.Base
import Tiai.Lib.Calendar
import Tiai.Lib.Runs

/-!
# The worker's loop

`core/worker.py`: the jobs and when each is next due, the schedule of the two mails, which the console can
change, and the loop that reads it and runs what has come due.

* `dailyAt`, `weeklyAt`, `every` — the schedules;
* `buildJobs`, `applySchedule`, `runDueJobs` — the worker's jobs;
* `Loop`, `tick` — the loop, and what a turn of it does.

A job's own work is not modelled: it is rescheduled before it runs, and a failure is only logged.
-/

namespace Tiai.Worker

open Lib

/-! ### Schedules -/

scoped instance hoursOfDay : NeZero 24 := ⟨by decide⟩

scoped instance daysOfWeek : NeZero 7 := ⟨by decide⟩

/-- The day of an instant (`date`), instants being counted from the first day's midnight. -/
def date (t : Time) : ℤ := t / days 1 + 1

/-- `now.replace(hour=hour, minute=0, second=0, microsecond=0)`. -/
def replaceHour (now : Time) (hour : Fin 24) : Time := now / days 1 * days 1 + seconds (3600 * hour)

/-- `every`: an interval, measured from each run. -/
def every (secs : ℕ) (now : Time) : Time := now + seconds secs

/-- `daily_at`: the next HH:00 strictly after `now`. -/
def dailyAt (hour : Fin 24) (now : Time) : Time :=
  let candidate := replaceHour now hour
  if candidate ≤ now then candidate + days 1 else candidate

/-- `weekly_at`: the next `weekday` at HH:00 strictly after `now`. -/
def weeklyAt (weekday : Fin 7) (hour : Fin 24) (now : Time) : Time :=
  let candidate := replaceHour now hour
  let daysAhead := (weekday - Calendar.weekday (date candidate)) % 7
  let candidate := candidate + daysAhead * days 1
  if candidate ≤ now then candidate + days 7 else candidate

/-- `SchedulePolicy`; the API and the settings bound its two numbers. -/
structure SchedulePolicy where
  digestHourUtc : Fin 24
  reminderWeekday : Fin 7
  deriving DecidableEq, Repr

def digestParams (policy : SchedulePolicy) : List ℕ := [policy.digestHourUtc]

def reminderParams (policy : SchedulePolicy) : List ℕ := [policy.reminderWeekday, policy.digestHourUtc]

/-! ### Jobs -/

inductive JobName
  | outbox | expireStaleCommands | dailyDigest | maintenanceReminders
  | purgeOutbox | purgeUsage | purgeSessions | purgeAudit | purgeCommands | purgeResetTokens
  deriving DecidableEq, Repr

structure Job where
  name : JobName
  nextRun : Time
  schedule : Time → Time
  params : Option (List ℕ)
  lastRun : Option Time

/-- `_same_period`: of the reminder, the ISO week; else the day. -/
def samePeriod (name : JobName) (a b : Time) : Bool :=
  if name = .maintenanceReminders then Calendar.isoWeek (date a) = Calendar.isoWeek (date b)
  else date a = date b

/-- `build_jobs`; without a policy, the environment's. -/
def buildJobs (settings : SchedulePolicy) (now : Time) (policy : Option SchedulePolicy) : List Job :=
  let policy := policy.getD settings
  let digestHour := dailyAt policy.digestHourUtc
  let reminder := weeklyAt policy.reminderWeekday policy.digestHourUtc
  let housekeeping := dailyAt 8
  [⟨.outbox, now, every 30, none, none⟩,
    ⟨.expireStaleCommands, now, every 300, none, none⟩,
    ⟨.dailyDigest, digestHour now, digestHour, some (digestParams policy), none⟩,
    ⟨.maintenanceReminders, reminder now, reminder, some (reminderParams policy), none⟩,
    ⟨.purgeOutbox, housekeeping now, housekeeping, none, none⟩,
    ⟨.purgeUsage, housekeeping now, housekeeping, none, none⟩,
    ⟨.purgeSessions, housekeeping now, housekeeping, none, none⟩,
    ⟨.purgeAudit, housekeeping now, housekeeping, none, none⟩,
    ⟨.purgeCommands, housekeeping now, housekeeping, none, none⟩,
    ⟨.purgeResetTokens, housekeeping now, housekeeping, none, none⟩]

/-- What `apply_schedule` wants of a mail job: its settings, and the schedule built from them. -/
def wanted (policy : SchedulePolicy) : JobName → Option (List ℕ × (Time → Time))
  | .dailyDigest => some (digestParams policy, dailyAt policy.digestHourUtc)
  | .maintenanceReminders =>
    some (reminderParams policy, weeklyAt policy.reminderWeekday policy.digestHourUtc)
  | _ => none

/-- The policy changes the job's settings. -/
def Job.moves (job : Job) (policy : SchedulePolicy) : Bool :=
  (wanted policy job.name).any fun (params, _) => job.params ≠ some params

/-- Where a schedule aims a job that last ran at `lastRun`: not in the same period. -/
def aimed (name : JobName) (lastRun : Option Time) (schedule : Time → Time) (now : Time) : Time :=
  let nextRun := schedule now
  match lastRun with
  | some last => if samePeriod name last nextRun then schedule nextRun else nextRun
  | none => nextRun

/-- `apply_schedule`, of one job. -/
def Job.apply (policy : SchedulePolicy) (now : Time) (job : Job) : Job :=
  match wanted policy job.name with
  | none => job
  | some (params, schedule) =>
    if job.params = some params then job
    else { job with
      params := some params
      schedule
      nextRun := aimed job.name job.lastRun schedule now }

/-- `apply_schedule`. -/
def applySchedule (jobs : List Job) (policy : SchedulePolicy) (now : Time) : List Job :=
  jobs.map (Job.apply policy now)

/-- A job that was run: when it was due, and when it ran. -/
structure Run where
  name : JobName
  due : Time
  ranAt : Time
  deriving DecidableEq, Repr

/-- `run_due_jobs`: the jobs as it leaves them, and those it ran. -/
def runDueJobs : List Job → Time → List Job × List Run
  | [], _ => ([], [])
  | job :: jobs, now =>
    let (rest, runs) := runDueJobs jobs now
    if job.nextRun > now then (job :: rest, runs)
    else
      ({ job with nextRun := job.schedule now, lastRun := some now } :: rest,
        ⟨job.name, job.nextRun, now⟩ :: runs)

/-! ### The loop -/

/-- The loop of `main`: its jobs, when it last read the clock, and every run so far. -/
structure Loop where
  jobs : List Job
  clock : Time
  runs : List Run

/-- A turn of the loop: what `load_schedule` answered and when it was applied, and when the jobs were run.
Without an answer the schedule is kept. -/
structure Tick where
  policy : Option SchedulePolicy
  appliedAt : Time
  now : Time
  deriving DecidableEq, Repr

def Loop.start (settings : SchedulePolicy) (policy : Option SchedulePolicy) (now : Time) : Loop :=
  ⟨buildJobs settings now policy, now, []⟩

/-- The jobs once the schedule has been read. -/
def Loop.scheduled (loop : Loop) (t : Tick) : List Job :=
  match t.policy with
  | some policy => applySchedule loop.jobs policy t.appliedAt
  | none => loop.jobs

def tick (loop : Loop) (t : Tick) : Loop :=
  let (jobs, runs) := runDueJobs (loop.scheduled t) t.now
  ⟨jobs, t.now, loop.runs ++ runs⟩

/-- The clock does not go back. -/
def Forward (loop : Loop) (t : Tick) : Prop := loop.clock ≤ t.appliedAt ∧ t.appliedAt ≤ t.now

instance (loop : Loop) (t : Tick) : Decidable (Forward loop t) := by
  unfold Forward
  infer_instance

/-- The runs of one job. -/
def Loop.runsOf (loop : Loop) (name : JobName) : List Run := loop.runs.filter (·.name = name)

/-- The tick brings other settings for the job. -/
def Loop.changes (loop : Loop) (name : JobName) (t : Tick) : Bool :=
  t.policy.any fun policy => loop.jobs.any fun job => job.name = name && job.moves policy

/-- The run was for a due instant of an earlier period. -/
def Run.Late (run : Run) : Prop := run.due < run.ranAt ∧ samePeriod run.name run.due run.ranAt = false

/-- Digest at 18:00, moved at 18:30 to 20:00: tomorrow's, not tonight's. -/
example : aimed .dailyDigest (some (seconds (18 * 3600))) (dailyAt 20) (seconds (37 * 1800)) =
    days 1 + seconds (20 * 3600) := by decide

end Tiai.Worker
