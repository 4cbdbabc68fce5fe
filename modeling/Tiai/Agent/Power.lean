import Mathlib.Data.List.Induction
import Tiai.Lib.Runs
import Tiai.Agent.Worker

/-!
# Rationing the power actions

`internal/agent/power.go`, and the worker around it: `execute` consults `pending` before it starts
anything, `runPowerAction` consults `allow` before it asks Windows for anything.  The guard remembers
the last action in the process (`scheduled`); an earlier process's are inferred from the uptime, which
a boot resets.

* `guarded_rationed` — while the service is restarted only once every action that still stands has
  reached the minimum interval, two accepted actions are that far apart and nothing starts under a
  recent one;
* `rationed_lost` — a service restarted a few seconds after an action forgets it, and the uptime has
  nothing to say about it.
-/

namespace Tiai.Power

open Lib

/-- `minPowerActionInterval`. -/
def minPowerActionInterval : ℤ := minutes 10

/-- `powerActionPendingWindow`. -/
def powerActionPendingWindow : ℤ := minutes 5

def actionReboot : String := "redémarrage"
def actionShutdown : String := "arrêt"

/-! ### The guard -/

/-- `humanAge`: a duration, truncated to the unit it is read in. -/
def humanAge (d : ℤ) : String :=
  if d < minutes 1 then toString (d.tdiv (seconds 1)) ++ " s"
  else if d < minutes 60 then toString (d.tdiv (minutes 1)) ++ " min"
  else toString (d.tdiv (minutes 60)) ++ " h"

/-- `powerGuard`: when this process last got an action accepted by Windows, and which one. -/
structure PowerGuard where
  scheduled : Option Time
  kind : String
  deriving DecidableEq, Repr

def PowerGuard.zero : PowerGuard := ⟨none, ""⟩

/-- `errPowerActionTooSoon`. -/
def errPowerActionTooSoon : String := "opération refusée"

/-- What `allow` answers of an action this process remembers. -/
def alreadyScheduled (kind : String) (since : ℤ) : String :=
  errPowerActionTooSoon ++ " : un " ++ kind ++ " a déjà été programmé sur ce poste il y a " ++
    humanAge since ++ " (délai minimum " ++ humanAge minPowerActionInterval ++ ")"

/-- What `allow` answers of a poste that has just booted. -/
def justBooted (up : ℤ) : String :=
  errPowerActionTooSoon ++ " : ce poste a démarré il y a " ++ humanAge up ++ " (délai minimum " ++
    humanAge minPowerActionInterval ++ " avant de l'arrêter ou de le redémarrer à nouveau)"

/-- The second half of `allow`; a read failure is not a refusal. -/
def allowUptime (uptime : Option ℤ) : Option String :=
  match uptime with
  | none => none
  | some up => if up < minPowerActionInterval then some (justBooted up) else none

/-- `powerGuard.allow`: the error, or none. -/
def PowerGuard.allow (g : PowerGuard) (now : Time) (uptime : Option ℤ) : Option String :=
  match g.scheduled with
  | none => allowUptime uptime
  | some scheduled =>
    let since : ℤ := now - scheduled
    if since < minPowerActionInterval then some (alreadyScheduled g.kind since)
    else allowUptime uptime

/-- `powerGuard.markScheduled`. -/
def PowerGuard.markScheduled (_ : PowerGuard) (now : Time) (kind : String) : PowerGuard :=
  ⟨some now, kind⟩

/-- `powerGuard.pending`: what the machine is about to do. -/
def PowerGuard.pending (g : PowerGuard) (now : Time) : Option String :=
  match g.scheduled with
  | none => none
  | some scheduled =>
    let since : ℤ := now - scheduled
    if since ≥ powerActionPendingWindow then none else some g.kind

lemma allowUptime_none {up : ℤ} (h : allowUptime (some up) = none) : minPowerActionInterval ≤ up := by
  unfold allowUptime at h
  dsimp only at h
  split at h
  · cases h
  · omega

lemma allow_none {g : PowerGuard} {now up : ℤ} (h : g.allow now (some up) = none) :
    minPowerActionInterval ≤ up ∧
      ∀ m : ℤ, g.scheduled = some m → m + minPowerActionInterval ≤ now := by
  unfold PowerGuard.allow at h
  cases hs : g.scheduled with
  | none =>
    rw [hs] at h
    exact ⟨allowUptime_none h, fun m hm => by cases hm⟩
  | some scheduled =>
    rw [hs] at h
    dsimp only at h
    split at h
    · cases h
    · rename_i hold
      refine ⟨allowUptime_none h, fun m hm => ?_⟩
      obtain rfl : scheduled = m := Option.some.inj hm
      have hold : minPowerActionInterval ≤ now - scheduled := Int.not_lt.mp hold
      omega

lemma pending_none {g : PowerGuard} {now : ℤ} (h : g.pending now = none) :
    ∀ m : ℤ, g.scheduled = some m → m + powerActionPendingWindow ≤ now := by
  unfold PowerGuard.pending at h
  intro m hm
  rw [hm] at h
  dsimp only at h
  split at h
  · omega
  · cases h

/-! ### The poste -/

/-- What happened to the poste, oldest first. -/
inductive Entry
  /-- The agent let a power action through, and Windows accepted it. -/
  | accepted (at_ : Time) (kind : String)
  /-- A command started executing. -/
  | started (at_ : Time) (type : CommandType)
  | booted (at_ : Time)
  deriving DecidableEq, Repr

/-- The actions accepted that no boot has followed. -/
def standing (history : List Entry) : List ℤ :=
  history.foldl (fun standing entry =>
    match entry with
    | .accepted at_ _ => standing ++ [at_]
    | .started _ _ => standing
    | .booted _ => []) []

structure Poste where
  agent : Agent
  guard : PowerGuard
  /-- `runPowerAction` past `allow`: the instant it read, and what it asked Windows for. -/
  scheduling : Option (Time × String)
  bootedAt : Time
  clock : Time
  history : List Entry
  deriving Repr

/-- The two commands `resolve` hands to `runPowerAction`. -/
def powerAction (type : CommandType) : Option String :=
  match type with
  | .reboot => some actionReboot
  | .shutdown => some actionShutdown
  | _ => none

/-- `collector.Uptime`: a tick count in milliseconds, which may be late. -/
def Poste.uptime (s : Poste) (lag : ℕ) : ℤ := (s.clock - s.bootedAt - lag) / 1000 * 1000

inductive Event
  /-- Time passes. -/
  | wait (d : ℕ)
  /-- A heartbeat's response offers a command. -/
  | offer (cmd : CommandOut)
  /-- The worker takes the next command. -/
  | take
  /-- The power action at hand asks `allow`; `lag` is what the tick count is behind by. -/
  | decide (lag : ℕ)
  /-- `shutdown.exe` answers. -/
  | scheduled (output : String) (error : Option String)
  /-- A command that is no power action ends. -/
  | complete (output : String) (error : Option String)
  /-- The verdict is posted, or goes to the queue. -/
  | deliver (posted : Bool) (maxItems : ℕ) (stored : Bool)
  | stop
  /-- The service's process is replaced by a new one. -/
  | restart
  /-- The machine boots, and the service with it. -/
  | boot
  deriving DecidableEq, Repr

/-- The command being executed, before its action has been decided. -/
def Poste.executing (s : Poste) : Option CommandOut :=
  match s.agent.worker, s.scheduling with
  | .executing cmd, none => some cmd
  | _, _ => none

/-- `execute`, to the point where a command runs. -/
def Poste.take (s : Poste) : Poste :=
  let agent := s.agent.take (s.guard.pending s.clock)
  match s.agent.worker, agent.worker with
  | .idle, .executing cmd =>
    { s with agent := agent, history := s.history ++ [.started s.clock cmd.type] }
  | _, _ => { s with agent := agent }

/-- `runPowerAction`, to the point where Windows is asked. -/
def Poste.decide (s : Poste) (lag : ℕ) : Poste :=
  match s.executing with
  | none => s
  | some cmd =>
    match powerAction cmd.type with
    | none => s
    | some kind =>
      match s.guard.allow s.clock (some (s.uptime lag)) with
      | some error => { s with agent := s.agent.complete "" (some error) }
      | none => { s with scheduling := some (s.clock, kind) }

/-- The rest of `runPowerAction`. -/
def Poste.scheduled (s : Poste) (output : String) (error : Option String) : Poste :=
  match s.scheduling with
  | none => s
  | some (now, kind) =>
    match error with
    | some error => { s with agent := s.agent.complete output (some error), scheduling := none }
    | none =>
      { s with
        agent := s.agent.complete output none
        guard := s.guard.markScheduled now kind
        scheduling := none
        history := s.history ++ [.accepted now kind] }

def Poste.complete (s : Poste) (output : String) (error : Option String) : Poste :=
  match s.executing with
  | none => s
  | some cmd =>
    match powerAction cmd.type with
    | none => { s with agent := s.agent.complete output error }
    | some _ => s

def Poste.deliver (s : Poste) (posted : Bool) (maxItems : ℕ) (stored : Bool) : Poste :=
  match s.agent.worker with
  | .posting cmd verdict =>
    if posted then { s with agent := s.agent.release cmd.id }
    else
      let queue := enqueue maxItems s.agent.queue (cmd.id, verdict) stored
      { s with agent := { s.agent with queue := queue }.release cmd.id }
  | _ => s

/-- A new process: the queue is on disk, the guard is not. -/
def Poste.restart (s : Poste) : Poste :=
  { s with agent := .started s.agent.queue, guard := .zero, scheduling := none }

def step (s : Poste) : Event → Poste
  | .wait d => { s with clock := s.clock + d }
  | .offer cmd => { s with agent := s.agent.accept cmd }
  | .take => s.take
  | .decide lag => s.decide lag
  | .scheduled output error => s.scheduled output error
  | .complete output error => s.complete output error
  | .deliver posted maxItems stored => s.deliver posted maxItems stored
  | .stop => { s with agent := s.agent.stop }
  | .restart => s.restart
  | .boot => { s.restart with bootedAt := s.clock, history := s.history ++ [.booted s.clock] }

/-- An agent that has just been installed, on a machine that booted `up` ago. -/
def Poste.installed (now : Time) (up : ℕ) (queue : List (Uuid × Verdict)) : Poste :=
  ⟨.started queue, .zero, none, now - up, now, []⟩

/-! ### What is asked of it -/

/-- Two accepted actions are the minimum interval apart, and nothing starts under one that still
stands and is younger than the pending window. -/
structure Rationed (history : List Entry) : Prop where
  apart : ∀ pre mid post (a b : ℤ) k k',
    history = pre ++ .accepted a k :: mid ++ .accepted b k' :: post →
      a + minPowerActionInterval ≤ b
  quiet : ∀ pre mid post (a t : ℤ) k type,
    history = pre ++ .accepted a k :: mid ++ .started t type :: post →
      (∀ b, .booted b ∉ mid) → a + powerActionPendingWindow ≤ t

/-- **The condition.**  The service is restarted only once every action that still stands has reached
the minimum interval. -/
def Settled (s : Poste) (e : Event) : Prop :=
  e = .restart → ∀ a ∈ standing s.history, a + minPowerActionInterval ≤ s.clock

instance (s : Poste) (e : Event) : Decidable (Settled s e) := by unfold Settled; infer_instance

/-! ### What stands -/

@[simp] lemma standing_nil : standing [] = [] := rfl

@[simp] lemma standing_accepted (h : List Entry) (a : Time) (k : String) :
    standing (h ++ [.accepted a k]) = standing h ++ [a] := by simp [standing]

@[simp] lemma standing_started (h : List Entry) (t : Time) (type : CommandType) :
    standing (h ++ [.started t type]) = standing h := by simp [standing]

@[simp] lemma standing_booted (h : List Entry) (t : Time) : standing (h ++ [.booted t]) = [] := by
  simp [standing]

/-- An accepted action stands until the machine boots. -/
lemma mem_standing (pre : List Entry) (a : Time) (k : String) {mid : List Entry}
    (hmid : ∀ b, .booted b ∉ mid) : a ∈ standing (pre ++ .accepted a k :: mid) := by
  induction mid using List.reverseRecOn with
  | nil => simp
  | append_singleton mid e ih =>
    have ih := ih fun b hb => hmid b (List.mem_append_left _ hb)
    rw [← List.cons_append, ← List.append_assoc]
    cases e with
    | accepted a' k' => rw [standing_accepted]; exact List.mem_append_left _ ih
    | started t type => rw [standing_started]; exact ih
    | booted b => exact absurd (List.mem_append_right _ (List.mem_singleton_self _)) (hmid b)

lemma exists_accepted {h : List Entry} {a : Time} (ha : a ∈ standing h) : ∃ k, .accepted a k ∈ h := by
  induction h using List.reverseRecOn with
  | nil => simp at ha
  | append_singleton h e ih =>
    cases e with
    | accepted b k =>
      rw [standing_accepted] at ha
      rcases List.mem_append.mp ha with ha | ha
      · obtain ⟨k', hk⟩ := ih ha
        exact ⟨k', List.mem_append_left _ hk⟩
      · obtain rfl := List.mem_singleton.mp ha
        exact ⟨k, List.mem_append_right _ (List.mem_singleton_self _)⟩
    | started t type =>
      rw [standing_started] at ha
      obtain ⟨k', hk⟩ := ih ha
      exact ⟨k', List.mem_append_left _ hk⟩
    | booted b =>
      rw [standing_booted] at ha
      cases ha

/-- Where the last two marks of a history that has just grown are. -/
lemma eq_append_cases {h pre mid post : List Entry} {e x y : Entry}
    (heq : h ++ [e] = pre ++ x :: mid ++ y :: post) :
    (y = e ∧ h = pre ++ x :: mid) ∨ ∃ post', h = pre ++ x :: mid ++ y :: post' := by
  rcases List.eq_nil_or_concat post with rfl | ⟨post', z, rfl⟩
  · obtain ⟨hh, he⟩ := List.append_inj' heq rfl
    exact Or.inl ⟨(List.cons.inj he).1.symm, hh⟩
  · right
    refine ⟨post', ?_⟩
    have heq' : h ++ [e] = (pre ++ x :: mid ++ y :: post') ++ [z] := by simpa using heq
    exact (List.append_inj' heq' rfl).1

lemma rationed_nil : Rationed [] where
  apart := by intro pre mid post a b k k' h; simp at h
  quiet := by intro pre mid post a t k type h; simp at h

/-- What is asked of the newest mark is asked of it alone. -/
lemma Rationed.append {h : List Entry} (hr : Rationed h) (e : Entry)
    (happ : ∀ (b : ℤ) k', e = .accepted b k' →
      ∀ (a : ℤ) k, .accepted a k ∈ h → a + minPowerActionInterval ≤ b)
    (hstart : ∀ (t : ℤ) type, e = .started t type →
      ∀ a ∈ standing h, a + powerActionPendingWindow ≤ t) : Rationed (h ++ [e]) where
  apart := by
    intro pre mid post a b k k' heq
    rcases eq_append_cases heq with ⟨he, rfl⟩ | ⟨post', hh⟩
    · exact happ b k' he.symm a k (by simp)
    · exact hr.apart pre mid post' a b k k' hh
  quiet := by
    intro pre mid post a t k type heq hmid
    rcases eq_append_cases heq with ⟨he, rfl⟩ | ⟨post', hh⟩
    · exact hstart t type he.symm a (mem_standing pre a k hmid)
    · exact hr.quiet pre mid post' a t k type hh hmid

/-! ### The invariant -/

/-- The guard remembers the action, or a later one. -/
def Poste.Remembers (s : Poste) (a : ℤ) : Prop := ∃ m : ℤ, s.guard.scheduled = some m ∧ a ≤ m

/-- An action that a boot has ended is as old as the uptime; one that stands is old, or remembered. -/
structure Safe (s : Poste) : Prop where
  rationed : Rationed s.history
  booted : s.bootedAt ≤ s.clock
  past : ∀ (a : ℤ) k, .accepted a k ∈ s.history → a ≤ s.clock
  ended : ∀ (a : ℤ) k, .accepted a k ∈ s.history → a ≤ s.bootedAt ∨ a ∈ standing s.history
  remembered : ∀ a ∈ standing s.history, a + minPowerActionInterval ≤ s.clock ∨ s.Remembers a
  decided : ∀ (now : ℤ) kind, s.scheduling = some (now, kind) → now ≤ s.clock ∧
    ∀ (a : ℤ) k, .accepted a k ∈ s.history → a + minPowerActionInterval ≤ now

lemma Safe.installed (now : Time) (up : ℕ) (queue : List (Uuid × Verdict)) :
    Safe (.installed now up queue) where
  rationed := rationed_nil
  booted := Int.sub_le_self now (Int.natCast_nonneg up)
  past := by intro a k h; simp [Poste.installed] at h
  ended := by intro a k h; simp [Poste.installed] at h
  remembered := by intro a h; simp [Poste.installed] at h
  decided := by intro n k h; simp [Poste.installed] at h

/-- What the agent does besides leaves the guard and the history alone. -/
lemma Safe.agent {s : Poste} (h : Safe s) (a : Agent) : Safe { s with agent := a } :=
  ⟨h.rationed, h.booted, h.past, h.ended, h.remembered, h.decided⟩

/-- The action at hand is given up. -/
lemma Safe.idle {s : Poste} (h : Safe s) : Safe { s with scheduling := none } :=
  ⟨h.rationed, h.booted, h.past, h.ended, h.remembered, fun _ _ hn => by cases hn⟩

/-- A command starts: nothing that still stands is recent, since the guard has nothing pending. -/
lemma Safe.start {s : Poste} (h : Safe s) (type : CommandType)
    (hp : s.guard.pending s.clock = none) :
    Safe { s with history := s.history ++ [.started s.clock type] } where
  rationed := by
    refine h.rationed.append _ (fun b k he => by cases he) fun t ty he a ha => ?_
    obtain ⟨rfl, -⟩ : s.clock = t ∧ type = ty := by simpa using he
    rcases h.remembered a ha with hold | ⟨m, hm, ham⟩
    · have : powerActionPendingWindow ≤ minPowerActionInterval := by decide
      omega
    · have := pending_none hp m hm
      omega
  booted := h.booted
  past := by
    intro a k ha
    rcases List.mem_append.mp ha with ha | ha
    · exact h.past a k ha
    · simp at ha
  ended := by
    intro a k ha
    rw [standing_started]
    rcases List.mem_append.mp ha with ha | ha
    · exact h.ended a k ha
    · simp at ha
  remembered := by
    intro a ha
    rw [standing_started] at ha
    exact h.remembered a ha
  decided := by
    intro now k hn
    refine ⟨(h.decided now k hn).1, fun a k' ha => ?_⟩
    rcases List.mem_append.mp ha with ha | ha
    · exact (h.decided now k hn).2 a k' ha
    · simp at ha

lemma Safe.take {s : Poste} (h : Safe s) : Safe s.take := by
  unfold Poste.take
  dsimp only
  split
  · rename_i cmd hidle hexec
    have hp : s.guard.pending s.clock = none := by
      unfold Agent.take at hexec
      rw [hidle] at hexec
      cases hp : s.guard.pending s.clock with
      | none => rfl
      | some kind =>
        rw [hp] at hexec
        dsimp only at hexec
        split at hexec
        · split at hexec
          · split at hexec <;> cases hexec
          · rw [hidle] at hexec; cases hexec
        · rw [hidle] at hexec; cases hexec
    exact (h.start cmd.type hp).agent _
  · exact h.agent _

lemma uptime_le (s : Poste) (lag : ℕ) : s.uptime lag ≤ s.clock - s.bootedAt := by
  unfold Poste.uptime
  omega

/-- An action let through is far from every one accepted before it. -/
lemma Safe.allowed {s : Poste} (h : Safe s) {lag : ℕ} (kind : String)
    (ha : s.guard.allow s.clock (some (s.uptime lag)) = none) :
    Safe { s with scheduling := some (s.clock, kind) } where
  rationed := h.rationed
  booted := h.booted
  past := h.past
  ended := h.ended
  remembered := h.remembered
  decided := by
    obtain ⟨hup, hguard⟩ := allow_none ha
    have hle := uptime_le s lag
    intro now k hn
    obtain ⟨rfl, -⟩ : s.clock = now ∧ kind = k := by simpa using hn
    refine ⟨Int.le_refl _, fun a k' hmem => ?_⟩
    rcases h.ended a k' hmem with hboot | hstand
    · -- before the boot, which is as old as the uptime
      omega
    · rcases h.remembered a hstand with hold | ⟨m, hm, ham⟩
      · exact hold
      · have := hguard m hm
        omega

lemma Safe.decide {s : Poste} (h : Safe s) (lag : ℕ) : Safe (s.decide lag) := by
  unfold Poste.decide
  split
  · exact h
  · split
    · exact h
    · split
      · exact h.agent _
      · rename_i kind _ _ ha
        exact h.allowed kind ha

/-- Windows accepts: the guard remembers the newest action, the others are far from it. -/
lemma Safe.accept {s : Poste} (h : Safe s) {now : ℤ} {kind : String}
    (hs : s.scheduling = some (now, kind)) :
    Safe { s with
      guard := s.guard.markScheduled now kind
      scheduling := none
      history := s.history ++ [.accepted now kind] } where
  rationed := by
    refine h.rationed.append _ (fun b k he a k' ha => ?_) fun t ty he => by cases he
    obtain ⟨rfl, -⟩ : now = b ∧ kind = k := by simpa using he
    exact (h.decided now kind hs).2 a k' ha
  booted := h.booted
  past := by
    intro a k ha
    rcases List.mem_append.mp ha with ha | ha
    · exact h.past a k ha
    · obtain ⟨rfl, -⟩ : a = now ∧ k = kind := by simpa using ha
      exact (h.decided a kind hs).1
  ended := by
    intro a k ha
    rw [standing_accepted]
    rcases List.mem_append.mp ha with ha | ha
    · exact (h.ended a k ha).imp_right (List.mem_append_left _)
    · obtain ⟨rfl, -⟩ : a = now ∧ k = kind := by simpa using ha
      exact Or.inr (List.mem_append_right _ (List.mem_singleton_self _))
  remembered := by
    intro a ha
    right
    refine ⟨now, rfl, ?_⟩
    rw [standing_accepted] at ha
    rcases List.mem_append.mp ha with ha | ha
    · obtain ⟨k, hk⟩ := exists_accepted ha
      have := (h.decided now kind hs).2 a k hk
      have : (0 : ℤ) ≤ minPowerActionInterval := by decide
      omega
    · exact Int.le_of_eq (List.mem_singleton.mp ha)
  decided := by intro n k hn; cases hn

lemma Safe.scheduled {s : Poste} (h : Safe s) (output : String) (error : Option String) :
    Safe (s.scheduled output error) := by
  unfold Poste.scheduled
  split
  · exact h
  · rename_i now kind hs
    split
    · exact h.idle.agent _
    · exact (h.accept hs).agent _

lemma Safe.complete {s : Poste} (h : Safe s) (output : String) (error : Option String) :
    Safe (s.complete output error) := by
  unfold Poste.complete
  split
  · exact h
  · split
    · exact h.agent _
    · exact h

lemma Safe.deliver {s : Poste} (h : Safe s) (posted : Bool) (maxItems : ℕ) (stored : Bool) :
    Safe (s.deliver posted maxItems stored) := by
  unfold Poste.deliver
  split
  · dsimp only
    split
    · exact h.agent _
    · exact h.agent _
  · exact h

lemma Safe.restart {s : Poste} (h : Safe s)
    (hold : ∀ a ∈ standing s.history, a + minPowerActionInterval ≤ s.clock) : Safe s.restart where
  rationed := h.rationed
  booted := h.booted
  past := h.past
  ended := h.ended
  remembered := fun a ha => Or.inl (hold a ha)
  decided := by intro n k hn; cases hn

/-- A boot takes the guard's memory and leaves the uptime, which covers everything before it. -/
lemma Safe.boot {s : Poste} (h : Safe s) :
    Safe { s.restart with bootedAt := s.clock, history := s.history ++ [.booted s.clock] } where
  rationed := h.rationed.append _ (fun b k he => by cases he) fun t ty he => by cases he
  booted := Int.le_refl _
  past := by
    intro a k ha
    rcases List.mem_append.mp ha with ha | ha
    · exact h.past a k ha
    · simp at ha
  ended := by
    intro a k ha
    left
    rcases List.mem_append.mp ha with ha | ha
    · exact h.past a k ha
    · simp at ha
  remembered := by
    intro a ha
    rw [standing_booted] at ha
    cases ha
  decided := by intro n k hn; cases hn

lemma Safe.wait {s : Poste} (h : Safe s) (d : ℕ) : Safe { s with clock := s.clock + d } where
  rationed := h.rationed
  booted := Int.le_trans h.booted (Int.le_add_of_nonneg_right (Int.natCast_nonneg d))
  past := by
    intro a k ha
    have := h.past a k ha
    change a ≤ s.clock + d
    omega
  ended := h.ended
  remembered := by
    intro a ha
    refine (h.remembered a ha).imp_left fun hold => ?_
    change a + minPowerActionInterval ≤ s.clock + d
    omega
  decided := by
    intro now k hn
    obtain ⟨hle, hfar⟩ := h.decided now k hn
    refine ⟨?_, hfar⟩
    change now ≤ s.clock + d
    omega

theorem step_safe (s : Poste) (e : Event) (hg : Settled s e) (h : Safe s) : Safe (step s e) := by
  cases e with
  | wait d => exact h.wait d
  | offer cmd => exact h.agent _
  | take => exact h.take
  | decide lag => exact h.decide lag
  | scheduled output error => exact h.scheduled output error
  | complete output error => exact h.complete output error
  | deliver posted maxItems stored => exact h.deliver posted maxItems stored
  | stop => exact h.agent _
  | restart => exact h.restart (hg rfl)
  | boot => exact h.boot

/-! ### The law -/

/-- **The law, where the service is restarted in time.**  From an agent just installed, over every run
in which a restart of the service alone comes only once the actions that stand have reached the minimum
interval: two accepted actions are that far apart, and nothing starts under a recent one. -/
theorem guarded_rationed (now : Time) (up : ℕ) (queue : List (Uuid × Verdict)) (es : List Event)
    (hg : Guarded step Settled (.installed now up queue) es) :
    Rationed (run step (.installed now up queue) es).history :=
  (hg.invariant step_safe (.installed now up queue)).rationed

def rebootCommand (id : Uuid) : CommandOut := ⟨id, .reboot, none, none⟩

/-- A restart is asked for, scheduled and reported. -/
def reboots (id : Uuid) : List Event :=
  [.offer (rebootCommand id), .take, .decide 0, .scheduled "Redémarrage" none, .deliver true 100 true]

/-- The service is restarted ten minutes after an action that has been called off; the next one is let
through. -/
theorem guarded_rationed_late :
    let s := Poste.installed 0 3600000000 []
    let es := reboots 1 ++ [.wait 600000000, .restart] ++ reboots 2
    Guarded step Settled s es ∧ (run step s es).history.length = 4 ∧
      Rationed (run step s es).history :=
  ⟨by decide, by decide, guarded_rationed 0 3600000000 [] _ (by decide)⟩

/-- **Restarted in between.**  The service of a machine that has been up for an hour is restarted five
seconds after it scheduled a restart: the next command starts, and its action is let through. -/
theorem rationed_lost :
    ¬∀ (now : Time) (up : ℕ) (queue : List (Uuid × Verdict)) (es : List Event),
      Rationed (run step (.installed now up queue) es).history := by
  intro h
  have hr := h 0 3600000000 [] (reboots 1 ++ [.wait 5000000, .restart] ++ reboots 2)
  have happ := hr.apart [.started 0 .reboot] [.started 5000000 .reboot] [] 0 5000000
    actionReboot actionReboot (by decide)
  exact absurd happ (by decide)

end Tiai.Power
