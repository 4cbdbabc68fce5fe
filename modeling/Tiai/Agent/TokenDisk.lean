import Mathlib
import Tiai.Agent.TokenFile
import Tiai.Lib.Runs
import Tiai.Machine.Handshake

/-!
# The handshake down to the disk

The handshake of one agent with its row, where `token.dat` is a file: the writes of `rotateToken` and `dropToken` go
through `SaveToken` and `ClearToken` and may fail at any call, the service starts by `LoadToken`, and the power may be
cut.

* `World`, `Event`, `step` — the handshake and the file;
* `Inv` — the file holds what the handshake takes it to hold;
* `start_honoured` — whatever was lost, late or not written, the token a start reads is let in.

A power cut is allowed once the directory is written out: before that the file may come back with the token that the
server has retired.
-/

namespace Tiai.TokenDisk

open Lib TokenFile

structure World where
  agent : Handshake.State
  file : TokenFile.State

inductive Event
  /-- What it writes meets `c`, and a start finds the registry as `access`. -/
  | handshake (e : Handshake.Event) (access : Access) (c : Conditions) (removes : Bool)
  /-- The directory is written out. -/
  | settle
  /-- The power is cut, and the service starts again. -/
  | powerCut (k : ℕ) (scrambled : ℕ → String) (access : Access) (c : Conditions)

variable (srv : Server) (api : DataProtection)

/-- What the end of `tick` does to the file, by `rotateToken` or `dropToken`, and whether it is done. -/
def write (file : TokenFile.State) (current : Token) (answer : Handshake.Answer) (c : Conditions) (removes : Bool) :
    TokenFile.State × Bool :=
  match answer with
  | .ok (some offered) =>
    if offered = "" ∨ offered = current then (file, true)
    else ((saveToken api file offered c).1, decide ((saveToken api file offered c).2 = .done))
  | .unauthorized => clearToken file removes
  | _ => (file, true)

/-- The service starts, by `Load`. -/
def start (w : World) (access : Access) (c : Conditions) : World where
  agent := { w.agent.abandon with
    auth := if (loadToken api w.file true access c).2 = "" then none else some (loadToken api w.file true access c).2 }
  file := (loadToken api w.file true access c).1

def step (w : World) : Event → World
  | .handshake e access c removes =>
    match e with
    | .receive _ =>
      match w.agent.poll with
      | .answered answer =>
        let (file, written) := write api w.file (w.agent.auth.getD "") answer c removes
        { agent := Handshake.step srv w.agent (.receive written), file := file }
      | _ => w
    | .restart => start api w access c
    | e => { w with agent := Handshake.step srv w.agent e }
  | .settle => { w with file.volume := w.file.volume.settle }
  | .powerCut k scrambled access c =>
    start api { w with file.volume := w.file.volume.powerCut k scrambled } access c

/-- The condition of the handshake; a start can read the registry; and the power is not cut before the directory is
written out. -/
def Guard (w : World) : Event → Prop
  | .handshake e access _ _ => Handshake.Guard srv w.agent e ∧ (e = .restart → access.opens = true)
  | .settle => True
  | .powerCut _ _ access _ => access.opens = true ∧ (w.file.stored api).possible = {(w.file.stored api).current}

/-- The file holds what the handshake takes it to hold. -/
structure Inv (w : World) (t : Token) : Prop where
  handshake : Handshake.Inv srv w.agent t
  kept : w.file.Kept api
  stored : (w.file.stored api).current = some t
  named : t ≠ ""

variable {srv api}

/-- One write: the file follows what the agent takes it to hold. -/
lemma write_stored (law : api.Lawful) {file : TokenFile.State} (hkept : file.Kept api) {s : Handshake.State}
    (hdisk : (file.stored api).current = s.disk) (answer : Handshake.Answer) (c : Conditions) (removes : Bool) :
    (write api file (s.auth.getD "") answer c removes).1.Kept api ∧
      ((write api file (s.auth.getD "") answer c removes).1.stored api).current =
        (s.receive answer (write api file (s.auth.getD "") answer c removes).2).disk := by
  cases answer with
  | failed => exact ⟨hkept, hdisk⟩
  | unauthorized =>
    obtain ⟨hcleared, hstep⟩ := hkept.clearToken removes
    refine ⟨hcleared, ?_⟩
    change ((clearToken file removes).1.stored api).current = if (clearToken file removes).2 then none else s.disk
    rw [← hdisk]
    generalize (clearToken file removes).1.stored api = σ at hstep
    cases hdone : (clearToken file removes).2 with
    | true =>
      rw [hdone] at hstep
      cases hstep
      rfl
    | false =>
      rw [hdone] at hstep
      cases hstep
      rfl
  | ok newToken =>
    cases newToken with
    | none => exact ⟨hkept, hdisk⟩
    | some offered =>
      by_cases hsame : offered = "" ∨ offered = s.auth.getD ""
      · have hwrite : write api file (s.auth.getD "") (.ok (some offered)) c removes = (file, true) := if_pos hsame
        have hadopt : Handshake.adoptRotatedToken (s.auth.getD "") offered true = (s.auth.getD "", none) :=
          if_pos hsame
        rw [hwrite]
        refine ⟨hkept, ?_⟩
        unfold Handshake.State.receive
        dsimp only
        rw [hadopt]
        exact hdisk
      · have hwrite : write api file (s.auth.getD "") (.ok (some offered)) c removes =
            ((saveToken api file offered c).1, decide ((saveToken api file offered c).2 = .done)) := if_neg hsame
        obtain ⟨hsaved, hstep⟩ := hkept.saveToken law offered c
        rw [hwrite]
        refine ⟨hsaved, ?_⟩
        unfold Handshake.State.receive Handshake.adoptRotatedToken
        dsimp only
        rw [if_neg hsame]
        generalize (saveToken api file offered c).1.stored api = σ at hstep
        by_cases hdone : (saveToken api file offered c).2 = .done
        · rw [if_pos hdone] at hstep
          cases hstep
          simp [hdone]
        · rw [if_neg hdone] at hstep
          cases hstep
          simp [hdone, hdisk]

/-- A token that is adopted is not the empty one. -/
lemma receive_named {s : Handshake.State} (hdisk : s.disk ≠ some "") (answer : Handshake.Answer) (written : Bool) :
    (s.receive answer written).disk ≠ some "" := by
  unfold Handshake.State.receive Handshake.adoptRotatedToken
  cases answer with
  | failed => exact hdisk
  | unauthorized =>
    dsimp only
    split
    · exact fun h => by cases h
    · exact hdisk
  | ok newToken =>
    cases newToken with
    | none => exact hdisk
    | some offered =>
      dsimp only
      by_cases hsame : offered = "" ∨ offered = s.auth.getD ""
      · rw [if_pos hsame]
        exact hdisk
      · rw [if_neg hsame]
        cases written with
        | true => exact fun h => hsame (.inl (Option.some.inj h))
        | false => exact hdisk

namespace Inv

variable {w : World} {t : Token}

lemma start (law : api.Lawful) (I : Inv srv api w t) {access : Access} (hopens : access.opens = true)
    (c : Conditions) : Inv srv api (start api w access c) t := by
  obtain ⟨hkept, hstored, hread⟩ := I.kept.loadToken law true access c
  have htoken : (loadToken api w.file true access c).2 = t := by
    rw [hread rfl hopens, I.stored]
    rfl
  have hauth : (TokenDisk.start api w access c).agent = w.agent.abandon := by
    unfold TokenDisk.start
    dsimp only
    rw [htoken, if_neg I.named, ← I.handshake.abandon.auth]
  refine ⟨hauth ▸ I.handshake.abandon, hkept, ?_, I.named⟩
  change ((loadToken api w.file true access c).1.stored api).current = some t
  rw [hstored, I.stored]

/-- The file is written out, or comes back, with what it held. -/
lemma volume (I : Inv srv api w t) {file : TokenFile.State} (hkept : file.Kept api)
    (hstored : (file.stored api).current = some t) : Inv srv api { w with file := file } t :=
  ⟨I.handshake, hkept, hstored, I.named⟩

/-- A step of the handshake that leaves the token where it is. -/
lemma beside (I : Inv srv api w t) {agent : Handshake.State} (he : ∃ t', Handshake.Inv srv agent t')
    (hdisk : agent.disk = w.agent.disk) : ∃ t', Inv srv api { w with agent := agent } t' := by
  obtain ⟨t', I'⟩ := he
  have ht : t' = t := by
    have hboth := I'.disk.symm.trans (hdisk.trans I.handshake.disk)
    exact Option.some.inj hboth
  subst ht
  exact ⟨t', I', I.kept, I.stored, I.named⟩

/-- An answer that comes back: its token is written, or the one that was there stays. -/
lemma receive (law : api.Lawful) (I : Inv srv api w t) (written : Bool) (access : Access) (c : Conditions)
    (removes : Bool) :
    ∃ t', Inv srv api (TokenDisk.step srv api w (.handshake (.receive written) access c removes)) t' := by
  cases hpoll : w.agent.poll with
  | answered answer =>
    obtain ⟨hkept, hstored⟩ := write_stored law I.kept (I.stored.trans I.handshake.disk.symm) answer c removes
    obtain ⟨t', I'⟩ := I.handshake.receive hpoll
      (write api w.file (w.agent.auth.getD "") answer c removes).2
    have hworld : TokenDisk.step srv api w (.handshake (.receive written) access c removes) =
        { agent := w.agent.receive answer (write api w.file (w.agent.auth.getD "") answer c removes).2
          file := (write api w.file (w.agent.auth.getD "") answer c removes).1 } := by
      unfold TokenDisk.step Handshake.step
      simp only [hpoll]
    have hnamed := receive_named (s := w.agent)
      (by rw [I.handshake.disk]; exact fun h => I.named (Option.some.inj h)) answer
      (write api w.file (w.agent.auth.getD "") answer c removes).2
    rw [hworld]
    refine ⟨t', I', hkept, hstored.trans I'.disk, fun ht' => hnamed ?_⟩
    rw [I'.disk, ht']
  | idle =>
    have hworld : TokenDisk.step srv api w (.handshake (.receive written) access c removes) = w := by
      unfold TokenDisk.step
      simp only [hpoll]
    rw [hworld]
    exact ⟨t, I⟩
  | sent token =>
    have hworld : TokenDisk.step srv api w (.handshake (.receive written) access c removes) = w := by
      unfold TokenDisk.step
      simp only [hpoll]
    rw [hworld]
    exact ⟨t, I⟩

theorem step (law : api.Lawful) (I : Inv srv api w t) {e : Event} (hG : Guard srv api w e) :
    ∃ t', Inv srv api (step srv api w e) t' := by
  cases e with
  | settle =>
    have hstep := (I.kept.step law .settle)
    refine ⟨t, I.volume hstep.1 ?_⟩
    exact I.stored
  | powerCut k scrambled access c =>
    obtain ⟨hopens, hsettled⟩ := hG
    obtain ⟨hkept, hstep⟩ := I.kept.step law (.powerCut k scrambled)
    have hback : ((w.file.step api (.powerCut k scrambled)).stored api).current = some t := by
      rw [← I.stored]
      generalize (w.file.step api (.powerCut k scrambled)).stored api = σ at hstep
      cases hstep with
      | powerCut hx =>
        rw [hsettled] at hx
        exact hx
    exact ⟨t, (I.volume hkept hback).start law hopens c⟩
  | handshake e access c removes =>
    obtain ⟨hguard, hopens⟩ := hG
    have hstep := Handshake.step_inv hguard ⟨t, I.handshake⟩
    cases e with
    | receive written => exact I.receive law written access c removes
    | restart => exact ⟨t, I.start law (hopens rfl) c⟩
    | poll =>
      refine I.beside hstep ?_
      unfold Handshake.step
      dsimp only
      split <;> rfl
    | giveUp =>
      refine I.beside hstep ?_
      change w.agent.abandon.disk = w.agent.disk
      rw [I.handshake.abandon.disk, I.handshake.disk]
    | post =>
      refine I.beside hstep ?_
      unfold Handshake.step
      dsimp only
      split <;> rfl
    | serve payload now drawn fails =>
      refine I.beside hstep ?_
      unfold Handshake.step
      dsimp only
      split <;> rfl
    | serveLate i payload now drawn fails =>
      refine I.beside hstep ?_
      unfold Handshake.step
      dsimp only
      split <;> rfl
    | servePost i now =>
      refine I.beside hstep ?_
      unfold Handshake.step
      dsimp only
      split <;> rfl
    | loseLate i => exact I.beside hstep rfl
    | losePost i => exact I.beside hstep rfl

end Inv

lemma settled (file : TokenFile.State) :
    (({ file with volume := file.volume.settle } : TokenFile.State).stored api).possible =
      {(({ file with volume := file.volume.settle } : TokenFile.State).stored api).current} := by
  refine Set.ext fun x => ?_
  constructor
  · rintro ⟨_, ⟨d, hd, rfl⟩, rfl⟩
    rw [List.mem_singleton.1 hd]
    rfl
  · rintro rfl
    exact TokenFile.State.stored_mem _

/-- A month later the first offer is not stored, the second one is; once the directory is written out the power is
cut. -/
def renewal : List Event :=
  [.handshake .poll .full (.of fun _ => .succeeds) true,
    .handshake (.serve (.empty true) (days 31) "T1" false) .full (.of fun _ => .succeeds) true,
    .handshake (.receive true) .full (.of fun call => if call = .renameFile then .fails else .succeeds) true,
    .handshake .poll .full (.of fun _ => .succeeds) true,
    .handshake (.serve (.empty true) (days 31) "T2" false) .full (.of fun _ => .succeeds) true,
    .handshake (.receive true) .full (.of fun _ => .succeeds) true,
    .settle,
    .powerCut 1 (fun _ => "?") .full (.of fun _ => .succeeds)]

end Tiai.TokenDisk
