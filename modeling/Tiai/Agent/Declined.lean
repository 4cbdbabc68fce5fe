import Tiai.Agent.Handout

/-!
# What an agent declines

An agent that declines a command for want of room expects it to come back; the server, for which the
command is delivered, never offers it again.

* `Offered` — whatever an agent reads, or has declined, has been handed out;
* `declined_for_good` — and that was the only time.
-/

namespace Tiai.Handout

open Lib

/-- What an agent reads or has declined has been handed out. -/
structure Offered (s : System) : Prop where
  once : Once s.fleet
  inbox : ∀ m, ∀ cmd ∈ (s.agents m).inbox, cmd.id ∈ handedOut s.fleet.responses
  declined : ∀ id ∈ s.declined, id ∈ handedOut s.fleet.responses

section Declined

variable {srv : Server} {s : System} {maxItems : ℕ}

lemma handedOut_mono {s : Fleet} (e : Tiai.Event) {id : Uuid} (h : id ∈ handedOut s.responses) :
    id ∈ handedOut (Tiai.step srv s e).responses := by
  have hgrows : ∃ out, (Tiai.step srv s e).responses = s.responses ++ out := by
    cases e with
    | heartbeat machineId p drawn =>
      simp only [Tiai.step]
      split
      · exact ⟨[], (List.append_nil _).symm⟩
      · exact ⟨_, rfl⟩
    | result machineId commandId payload =>
      refine ⟨[], ?_⟩
      simp only [Tiai.step]
      split <;> exact (List.append_nil _).symm
    | tick | enroll | createCommands | wake | sweep | merge | addPackage | deletePackage =>
      exact ⟨[], (List.append_nil _).symm⟩
  obtain ⟨out, hout⟩ := hgrows
  rw [hout, handedOut, List.flatMap_append]
  exact List.mem_append_left _ h

/-- The fleet moves only by the server's steps. -/
lemma step_fleet (srv : Server) (maxItems : ℕ) (s : System) (e : Event) : (step srv maxItems s e).fleet = s.fleet ∨
    ∃ e', (step srv maxItems s e).fleet = Tiai.step srv s.fleet e' := by
  have hpost : ∀ m id r reached, post srv s.fleet m id r reached = s.fleet ∨
      ∃ e', post srv s.fleet m id r reached = Tiai.step srv s.fleet e' := by
    intro m id r reached
    cases reached with
    | false => exact Or.inl rfl
    | true => exact Or.inr ⟨.result m id r, rfl⟩
  cases e with
  | server e =>
    simp only [step]
    split
    · exact Or.inl rfl
    · exact Or.inr ⟨e, rfl⟩
  | poll m p drawn =>
    simp only [step]
    split
    · split
      · exact Or.inl rfl
      · exact Or.inr ⟨.heartbeat m p drawn, rfl⟩
    · exact Or.inl rfl
  | accept m =>
    simp only [step]
    split
    · exact Or.inl rfl
    · split <;> exact Or.inl rfl
  | reportRunning m =>
    simp only [step]
    split
    · exact hpost m _ _ true
    · exact Or.inl rfl
  | deliver m reached acked stored =>
    simp only [step]
    split
    · split <;> exact hpost m _ _ reached
    · exact Or.inl rfl
  | flush m reached acked =>
    simp only [step]
    split
    · exact Or.inl rfl
    · split <;> exact hpost m _ _ reached
  | take | complete | stop | start => exact Or.inl rfl

/-- An agent that moves reads nothing new. -/
lemma setAgent_inbox {m : Uuid} {a : Agent} (hin : ∀ cmd ∈ a.inbox, cmd ∈ (s.agents m).inbox)
    {x : Uuid} {cmd : CommandOut} (hcmd : cmd ∈ (Function.update s.agents m a x).inbox) :
    cmd ∈ (s.agents x).inbox := by
  by_cases hx : x = m
  · rw [hx, Function.update_self] at hcmd
    rw [hx]
    exact hin cmd hcmd
  · rwa [Function.update_of_ne hx] at hcmd

lemma start_inbox (a : Agent) {cmd : CommandOut} (h : cmd ∈ a.start.inbox) : cmd ∈ a.inbox := by
  unfold Agent.start at h
  split at h
  · exact absurd h List.not_mem_nil
  · exact h

/-- What an agent has to read is what it had, or a response just made. -/
lemma step_inbox (s : System) (e : Event) (x : Uuid) {cmd : CommandOut}
    (hcmd : cmd ∈ ((step srv maxItems s e).agents x).inbox) :
    cmd ∈ (s.agents x).inbox ∨ cmd.id ∈ handedOut (step srv maxItems s e).fleet.responses := by
  cases e with
  | server e =>
    left
    simp only [step] at hcmd
    split at hcmd <;> exact hcmd
  | poll m p drawn =>
    simp only [step] at hcmd ⊢
    split at hcmd
    · rename_i hidle
      rw [if_pos hidle]
      split at hcmd
      · exact Or.inl hcmd
      · rename_i row hrow
        have hcmd : cmd ∈ (Function.update s.agents m { s.agents m with
            inbox := (heartbeat srv s.fleet.db row p s.fleet.now drawn).2.commands } x).inbox := hcmd
        by_cases hx : x = m
        · rw [hx, Function.update_self] at hcmd
          right
          simp only [System.setAgent, Tiai.step, hrow, handedOut, List.flatMap_append]
          exact List.mem_append_right _ (List.mem_flatMap.mpr
            ⟨_, List.mem_singleton_self _, List.mem_map_of_mem hcmd⟩)
        · rw [Function.update_of_ne hx] at hcmd
          exact Or.inl hcmd
    · exact Or.inl hcmd
  | accept m =>
    left
    simp only [step] at hcmd
    split at hcmd
    · exact hcmd
    · rename_i c rest hin
      have hsub : ∀ y ∈ ({ s.agents m with inbox := rest }.accept c : Agent).inbox,
          y ∈ (s.agents m).inbox := by
        intro y hy
        rw [accept_inbox] at hy
        rw [hin]
        exact List.mem_cons_of_mem _ hy
      split at hcmd <;> exact setAgent_inbox hsub hcmd
  | take m pending =>
    refine Or.inl (setAgent_inbox (fun y hy => ?_) hcmd)
    rcases take_cases (s.agents m) pending with ht | ⟨c, rest, w, -, -, ht, -⟩
    · rwa [ht] at hy
    · rwa [ht] at hy
  | complete m output error =>
    refine Or.inl (setAgent_inbox (fun y hy => ?_) hcmd)
    rwa [complete_rest] at hy
  | reportRunning m =>
    left
    simp only [step] at hcmd
    split at hcmd <;> exact hcmd
  | deliver m reached acked stored =>
    left
    simp only [step] at hcmd
    split at hcmd
    · split at hcmd
      · refine setAgent_inbox (m := m) ?_ hcmd
        exact fun _ hy => hy
      · refine setAgent_inbox (m := m) ?_ hcmd
        exact fun _ hy => hy
    · exact hcmd
  | flush m reached acked =>
    left
    simp only [step] at hcmd
    split at hcmd
    · exact hcmd
    · split at hcmd
      · refine setAgent_inbox (m := m) ?_ hcmd
        exact fun _ hy => hy
      · exact hcmd
  | stop m => exact Or.inl (setAgent_inbox (fun _ hy => absurd hy List.not_mem_nil) hcmd)
  | start m => exact Or.inl (setAgent_inbox (fun _ hy => start_inbox _ hy) hcmd)

/-- What is declined was there to read. -/
lemma step_declined (s : System) (e : Event) {id : Uuid}
    (hid : id ∈ (step srv maxItems s e).declined) :
    id ∈ s.declined ∨ ∃ m, ∃ cmd ∈ (s.agents m).inbox, cmd.id = id := by
  cases e with
  | accept m =>
    simp only [step] at hid
    split at hid
    · exact Or.inl hid
    · rename_i cmd rest hin
      split at hid
      · rcases List.mem_cons.mp hid with rfl | hid
        · exact Or.inr ⟨m, cmd, by rw [hin]; exact List.mem_cons_self, rfl⟩
        · exact Or.inl hid
      · exact Or.inl hid
  | server e => left; simp only [step] at hid; split at hid <;> exact hid
  | poll m p drawn =>
    left
    simp only [step] at hid
    split at hid
    · split at hid <;> exact hid
    · exact hid
  | reportRunning m => left; simp only [step] at hid; split at hid <;> exact hid
  | deliver m reached acked stored =>
    left
    simp only [step] at hid
    split at hid
    · split at hid <;> exact hid
    · exact hid
  | flush m reached acked =>
    left
    simp only [step] at hid
    split at hid
    · exact hid
    · split at hid <;> exact hid
  | take | complete | stop | start => exact Or.inl hid

lemma step_handedOut (s : System) (e : Event) {id : Uuid}
    (hid : id ∈ handedOut s.fleet.responses) :
    id ∈ handedOut (step srv maxItems s e).fleet.responses := by
  rcases step_fleet srv maxItems s e with he | ⟨e', he⟩
  · rw [he]; exact hid
  · rw [he]; exact handedOut_mono e' hid

theorem step_offered (h : Offered s) (e : Event) : Offered (step srv maxItems s e) where
  once := by
    rcases step_fleet srv maxItems s e with he | ⟨e', he⟩
    · rw [he]; exact h.once
    · rw [he]; exact step_once h.once e'
  inbox x cmd hcmd := by
    rcases step_inbox s e x hcmd with hold | hnew
    · exact step_handedOut s e (h.inbox x cmd hold)
    · exact hnew
  declined id hid := by
    rcases step_declined s e hid with hold | ⟨m, cmd, hcmd, rfl⟩
    · exact step_handedOut s e (h.declined id hold)
    · exact step_handedOut s e (h.inbox m cmd hcmd)

lemma Offered.initial (now : Time) : Offered (.initial now) where
  once := ⟨.empty now, List.nodup_nil, fun _ hi => absurd hi List.not_mem_nil,
    fun _ hi => absurd hi List.not_mem_nil⟩
  inbox _ _ hcmd := absurd hcmd List.not_mem_nil
  declined _ hid := absurd hid List.not_mem_nil

/-- **For good**: however the run goes on, a declined command has been handed out that once. -/
theorem declined_for_good (now : Time) (es fs : List Event) :
    ∀ id ∈ (run (step srv maxItems) (.initial now) es).declined,
      (handedOut (run (step srv maxItems) (run (step srv maxItems) (.initial now) es)
        fs).fleet.responses).count id = 1 := by
  intro id hid
  have hnow : Offered (run (step srv maxItems) (.initial now) es) :=
    run_invariant (P := Offered) (fun s e h => step_offered h e) (.initial now) es
  generalize run (step srv maxItems) (.initial now) es = s at hid hnow
  have hthen : Offered (run (step srv maxItems) s fs) ∧
      id ∈ handedOut (run (step srv maxItems) s fs).fleet.responses :=
    run_invariant (P := fun s => Offered s ∧ id ∈ handedOut s.fleet.responses)
      (fun s e h => ⟨step_offered h.1 e, step_handedOut s e h.2⟩) ⟨hnow, hnow.declined id hid⟩ fs
  exact List.count_eq_one_of_mem hthen.1.once.once hthen.2

end Declined

end Tiai.Handout
