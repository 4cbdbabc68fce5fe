import Mathlib
import Tiai.Confined.Model
import Tiai.Threat.History
import Tiai.User.Accounts

/-!
# The alert on a new detection

`features/notification/threat_alert.py`, with `users_for` (`recipients.py`) and `queue_email` (`outbox.py`), in the
heartbeat that brings the detections (`heartbeat`, `api/routes/agent.py`).  A heartbeat whose transaction fails queues
nothing and is no part of a run; accounts, scopes, places and the settings of mail are what each heartbeat finds.

* `World`, `Beat` — what a heartbeat finds, and what it brings;
* `queueThreatAlert`, `renderAlert` — the alerts that it queues, and their text;
* `Announces` — the heartbeat that brings a detection first, while an account is to hear of it;
* `told_once` — over every run, an account is told of a detection by that heartbeat alone.
-/

namespace Tiai.ThreatAlert

open Lib Threats

/-! ### What a heartbeat finds -/

structure Config where
  projectName : String
  consoleBaseUrl : String
  threatAlertMaxAgeHours : ℕ
  notificationMaxItems : ℕ
  /-- The collation of the database. -/
  collate : String → String → Ordering
  /-- `strftime("%d/%m/%Y à %H:%M UTC")`. -/
  stamp : Time → String
  /-- `str`, of an identifier. -/
  uuidText : Uuid → String

/-- The accounts, the places, and the policy of mail: in the database, and as the process last resolved it. -/
structure World where
  accounts : Tiai.Tables
  db : Confined.Db
  enabled : Bool
  current : Bool
  emails : (accounts.users.map User.email).Nodup

/-- `MachineContext`. -/
structure MachineContext where
  id : Uuid
  machineUuid : String
  hostname : Option String
  domain : Option String
  ipAddress : Option String
  sessionUsername : Option String
  deriving DecidableEq

/-- A mail of the outbox, by what its text is rendered from. -/
structure Alert where
  toAddress : String
  machine : MachineContext
  detections : List NewDetection
  deriving DecidableEq

section Queue

variable (cfg : Config)

/-- `users_for`. -/
def usersFor (accounts : Tiai.Tables) (preferences : List EmailPreference) : List User :=
  if preferences = [] then [] else
  Sql.orderBy (fun u v => cfg.collate u.email v.email)
    (accounts.users.filter fun u => u.isActive && u.emailPreference ∈ preferences)

/-- Whether a date, if it is known, is recent. -/
def recent (now : Time) (detectedAt : Option Time) : Bool :=
  detectedAt.all fun t => now - seconds (3600 * cfg.threatAlertMaxAgeHours) ≤ t

/-- `recent_detections`. -/
def recentDetections (now : Time) (detections : List NewDetection) : List NewDetection :=
  detections.filter fun d => recent cfg now d.detectedAt

/-- `queue_email`, of an alert. -/
def queueEmail (w : World) (alert : Alert) : Option Alert :=
  if !w.current || alert.toAddress = "" then none else some alert

/-- `queue_threat_alert`. -/
def queueThreatAlert (w : World) (now : Time) (machine : MachineContext) (detections : List NewDetection) :
    List Alert :=
  let fresh := recentDetections cfg now detections
  if fresh = [] then [] else
  let recipients := ((usersFor cfg w.accounts [.immediate]).filter fun u =>
    w.db.machineVisible (userScope w.accounts u.id) machine.id).map User.email
  if recipients = [] then [] else
  if !w.enabled then [] else
  recipients.filterMap fun address => queueEmail w ⟨address, machine, fresh⟩

/-! ### The text -/

/-- `x or y`, of a text. -/
def orElse (text : Option String) (other : String) : String := (text.filter (· ≠ "")).getD other

/-- The line of a detection. -/
def bullet (d : NewDetection) : String :=
  let parts := [orElse d.threatName "menace non nommée"] ++
    ((d.severity.filter (· ≠ "")).map fun v => "sévérité " ++ v).toList ++
    ((d.status.filter (· ≠ "")).map fun v => "statut " ++ v).toList ++
    (d.detectedAt.map fun t => "détectée le " ++ cfg.stamp t).toList
  "  • " ++ " — ".intercalate parts

/-- `render_alert`. -/
def renderAlert (machine : MachineContext) (detections : List NewDetection) : String × String :=
  let name := orElse machine.hostname machine.machineUuid
  let count := detections.length
  let subject :=
    if count = 1 then cfg.projectName ++ " — menace détectée sur " ++ name
    else cfg.projectName ++ " — " ++ toString count ++ " menaces détectées sur " ++ name
  let cap := cfg.notificationMaxItems
  let lines :=
    ["Microsoft Defender a signalé " ++ toString count ++ " détection(s) sur le poste " ++ name ++ ".", ""] ++
    (detections.take cap).map (bullet cfg) ++
    (if cap < count then ["  … et " ++ toString (count - cap) ++ " autre(s) détection(s)"] else []) ++
    ["", "Poste : " ++ name, "UUID : " ++ machine.machineUuid, "Domaine : " ++ orElse machine.domain "—",
      "Adresse IP : " ++ orElse machine.ipAddress "—", "Session ouverte : " ++ orElse machine.sessionUsername "—",
      ""] ++
    (if cfg.consoleBaseUrl = "" then []
      else ["Ouvrir la fiche du poste : " ++ cfg.consoleBaseUrl ++ "/machines/" ++ cfg.uuidText machine.id, ""]) ++
    ["Vous recevez ce message parce que votre compte est réglé sur les alertes " ++
      "immédiates. Changez-le dans la console, page « Mon compte »."]
  (subject, "\n".intercalate lines)

def Alert.rendered (alert : Alert) : String × String := renderAlert cfg alert.machine alert.detections

end Queue

/-! ### Runs -/

/-- A heartbeat, and what it finds. -/
structure Beat where
  machine : MachineContext
  threats : List ThreatReport
  now : Time
  world : World

def Beat.heartbeat (b : Beat) : Heartbeat := ⟨b.machine.id, b.threats⟩

structure State where
  threats : Table
  queued : List Alert

def State.start : State := ⟨.empty, []⟩

variable (cfg : Config)

/-- The heartbeat: the detections are stored, and those that are new are announced. -/
def step (s : State) (b : Beat) : State :=
  let (threats, result) := upsertThreats s.threats b.machine.id b.heartbeat.detections
  ⟨threats, s.queued ++ queueThreatAlert cfg b.world b.now b.machine result.newDetections⟩

/-- The mails to an address that are about a detection of a poste. -/
def told (queued : List Alert) (address : String) (machineId : Uuid) (id : String) : ℕ :=
  queued.countP fun alert => alert.toAddress = address && alert.machine.id = machineId &&
    alert.detections.any fun d => d.detectionId = some id

/-- An account at the address wants its alerts at once, may see the poste, and mail is on. -/
structure Hears (w : World) (address : String) (machineId : Uuid) : Prop where
  account : ∃ u ∈ w.accounts.users, u.email = address ∧ u.isActive = true ∧ u.emailPreference = .immediate ∧
    w.db.machineVisible (userScope w.accounts u.id) machineId = true
  address : address ≠ ""
  enabled : w.enabled = true
  current : w.current = true

instance Hears.decidable (w : World) (address : String) (machineId : Uuid) : Decidable (Hears w address machineId) :=
  decidable_of_iff ((∃ u ∈ w.accounts.users, u.email = address ∧ u.isActive = true ∧ u.emailPreference = .immediate ∧
      w.db.machineVisible (userScope w.accounts u.id) machineId = true) ∧
    address ≠ "" ∧ w.enabled = true ∧ w.current = true)
    ⟨fun ⟨h₁, h₂, h₃, h₄⟩ => ⟨h₁, h₂, h₃, h₄⟩, fun h => ⟨h.account, h.address, h.enabled, h.current⟩⟩

/-- The heartbeat brings the detection, which no heartbeat before it brought, recent or with no date, and an account
is to hear of it. -/
structure Announces (before : List Beat) (b : Beat) (address : String) (machineId : Uuid) (id : String) : Prop where
  machine : b.machine.id = machineId
  first : ¬Reported (before.map Beat.heartbeat) machineId id
  recent : ∃ r, lastOf b.heartbeat.detections id = some r ∧ recent cfg b.now r.detectedAt = true
  hears : Hears b.world address machineId

/-! ### What one heartbeat announces -/

section Beat

variable {id address : String} {machineId : Uuid}

/-- A report, as it is announced. -/
def asNew (r : ThreatReport) : NewDetection := ⟨r.detectionId, r.threatName, r.severity, r.status, r.detectedAt⟩

/-- Of a detection, what a heartbeat returns as new: its last report, when nothing is stored. -/
lemma newDetections_filter (hid : id ≠ "") (t : Table) (e : Heartbeat) :
    (upsertThreats t e.machineId e.detections).2.newDetections.filter (·.detectionId = some id) =
      if storedOf t e.machineId id = none then ((lastOf e.detections id).map asNew).toList else [] := by
  have hspec := heartbeat_spec t e hid
  have hkeyed : (upsertThreats t e.machineId e.detections).2.newDetections.filter (·.detectionId = some id) =
      (((returnedBy t e).filter (·.row.key = (e.machineId, some id))).filter Returned.inserted).map
        Returned.detection := by
    change (((returnedBy t e).filter Returned.inserted).map Returned.detection).filter _ = _
    rw [List.filter_map, List.filter_filter, List.filter_filter]
    refine congrArg _ (List.filter_congr fun w hw => ?_)
    have hkey := key_eq_iff id (returned_machineId _ _ _ w hw)
    rw [Bool.and_comm]
    exact congrArg (w.inserted && ·) (decide_eq_decide.2 hkey.symm)
  rw [hkeyed]
  cases hlast : lastOf e.detections id with
  | none =>
    rw [hlast] at hspec
    rw [hspec.2]
    simp
  | some r =>
    rw [hlast] at hspec
    obtain ⟨-, x, w, -, heffect, hreturned⟩ := hspec
    rw [hreturned]
    cases hold : storedOf t e.machineId id with
    | none =>
      rw [hold] at heffect
      cases heffect
      rfl
    | some y =>
      rw [hold] at heffect
      cases heffect with
      | updated => rfl
      | kept => rfl

/-- The addresses that are told of a poste. -/
def recipients (cfg : Config) (w : World) (machineId : Uuid) : List String :=
  ((usersFor cfg w.accounts [.immediate]).filter fun u =>
    w.db.machineVisible (userScope w.accounts u.id) machineId).map User.email

variable {cfg : Config}

lemma nodup_recipients (w : World) (machineId : Uuid) : (recipients cfg w machineId).Nodup := by
  have hperm : (usersFor cfg w.accounts [.immediate]).Perm
      (w.accounts.users.filter fun u => u.isActive && u.emailPreference ∈ [EmailPreference.immediate]) :=
    List.mergeSort_perm _ _
  have hsub : (w.accounts.users.filter fun u => u.isActive && u.emailPreference ∈ [EmailPreference.immediate]).Sublist
      w.accounts.users := List.filter_sublist
  have hnodup : ((usersFor cfg w.accounts [.immediate]).map User.email).Nodup :=
    (hperm.map User.email).nodup_iff.2 (w.emails.sublist (hsub.map User.email))
  exact hnodup.sublist (List.filter_sublist.map User.email)

lemma mem_recipients {w : World} : address ∈ recipients cfg w machineId ↔
    ∃ u ∈ w.accounts.users, u.email = address ∧ u.isActive = true ∧ u.emailPreference = .immediate ∧
      w.db.machineVisible (userScope w.accounts u.id) machineId = true := by
  have hmem (u : User) : u ∈ usersFor cfg w.accounts [.immediate] ↔
      u ∈ w.accounts.users ∧ u.isActive = true ∧ u.emailPreference = .immediate := by
    rw [usersFor, if_neg (by simp), Sql.orderBy, List.mem_mergeSort, List.mem_filter]
    simp
  simp only [recipients, List.mem_map, List.mem_filter, hmem]
  constructor
  · rintro ⟨u, ⟨⟨hu, hactive, hpreference⟩, hvisible⟩, hemail⟩
    exact ⟨u, hu, hemail, hactive, hpreference, hvisible⟩
  · rintro ⟨u, hu, hemail, hactive, hpreference, hvisible⟩
    exact ⟨u, ⟨⟨hu, hactive, hpreference⟩, hvisible⟩, hemail⟩

variable (cfg) in
lemma hears_iff {w : World} : Hears w address machineId ↔
    address ∈ recipients cfg w machineId ∧ address ≠ "" ∧ w.enabled = true ∧ w.current = true := by
  rw [mem_recipients]
  exact ⟨fun h => ⟨h.account, h.address, h.enabled, h.current⟩, fun ⟨h₁, h₂, h₃, h₄⟩ => ⟨h₁, h₂, h₃, h₄⟩⟩

/-- The mails to an address, of a list of distinct recipients. -/
lemma told_recipients {addresses : List String} (haddresses : addresses.Nodup) (w : World) (machine : MachineContext)
    (fresh : List NewDetection) :
    told (addresses.filterMap fun a => queueEmail w ⟨a, machine, fresh⟩) address machineId id =
      if address ∈ addresses ∧ address ≠ "" ∧ w.current = true ∧ machine.id = machineId ∧
        fresh.any (fun d => d.detectionId = some id) then 1 else 0 := by
  have hsent (a : String) : ((queueEmail w ⟨a, machine, fresh⟩).map fun alert =>
      alert.toAddress = address && alert.machine.id = machineId &&
        alert.detections.any fun d => d.detectionId = some id).getD false =
      (decide (a = address) && decide (address ≠ "" ∧ w.current = true ∧ machine.id = machineId ∧
        fresh.any (fun d => d.detectionId = some id) = true)) := by
    rw [queueEmail, Bool.eq_iff_iff]
    cases hcurrent : w.current with
    | false => simp
    | true =>
      by_cases ha : a = address
      · subst ha
        by_cases hempty : a = ""
        · simp [hempty]
        · simp [hempty]
      · by_cases hempty : a = ""
        · simp [ha, if_pos hempty]
        · simp [ha, hempty]
  rw [told, List.countP_filterMap, List.countP_congr fun a _ => by rw [hsent a]]
  by_cases hall : address ≠ "" ∧ w.current = true ∧ machine.id = machineId ∧
      fresh.any (fun d => d.detectionId = some id) = true
  · have hcount : (addresses.countP fun a => decide (a = address) && decide (address ≠ "" ∧ w.current = true ∧
        machine.id = machineId ∧ fresh.any (fun d => d.detectionId = some id) = true)) = addresses.count address :=
      List.countP_congr fun a _ => by simp [hall]
    rw [hcount, haddresses.count]
    simp only [hall, and_true, ne_eq, not_false_eq_true]
  · rw [if_neg fun h => hall h.2, List.countP_eq_zero]
    intro a _
    rw [decide_eq_false hall, Bool.and_false]
    exact Bool.false_ne_true

/-- The mails of one heartbeat to an address, about a detection. -/
lemma told_queue (w : World) (now : Time) (machine : MachineContext) (detections : List NewDetection) :
    told (queueThreatAlert cfg w now machine detections) address machineId id =
      if machine.id = machineId ∧ (recentDetections cfg now detections).any (fun d => d.detectionId = some id) ∧
        Hears w address machineId then 1 else 0 := by
  change told (if recentDetections cfg now detections = [] then [] else
    if recipients cfg w machine.id = [] then [] else if !w.enabled then [] else
      (recipients cfg w machine.id).filterMap fun a => queueEmail w ⟨a, machine, recentDetections cfg now detections⟩)
    address machineId id = _
  have hears : Hears w address machineId ↔
      address ∈ recipients cfg w machineId ∧ address ≠ "" ∧ w.enabled = true ∧ w.current = true := hears_iff cfg
  split
  · rename_i hfresh
    rw [if_neg (by simp [hfresh])]
    rfl
  split
  · rename_i hnone
    rw [if_neg]
    · rfl
    rintro ⟨rfl, -, h⟩
    have hmem := (hears.1 h).1
    rw [hnone] at hmem
    cases hmem
  split
  · rename_i hoff
    rw [if_neg]
    · rfl
    rintro ⟨-, -, h⟩
    rw [h.enabled] at hoff
    cases hoff
  · rename_i hon
    rw [told_recipients (nodup_recipients w machine.id)]
    refine if_congr ⟨?_, ?_⟩ rfl rfl
    · rintro ⟨hmem, haddress, hcurrent, rfl, hfresh⟩
      exact ⟨rfl, hfresh, hears.2 ⟨hmem, haddress, by simpa using hon, hcurrent⟩⟩
    · rintro ⟨rfl, hfresh, h⟩
      obtain ⟨hmem, haddress, -, hcurrent⟩ := hears.1 h
      exact ⟨hmem, haddress, hcurrent, rfl, hfresh⟩

end Beat

/-! ### A run of them -/

section Run

variable {cfg : Config} {id address : String} {machineId : Uuid}

/-- The table is that of the heartbeats. -/
lemma threats_run (cfg : Config) (beats : List Beat) :
    (run (step cfg) .start beats).threats = run Threats.heartbeat .empty (beats.map Beat.heartbeat) := by
  induction beats using List.reverseRecOn with
  | nil => rfl
  | append_singleton beats b ih =>
    rw [List.map_append, List.map_singleton, run_snoc, ← ih, run_append]
    rfl

/-- Nothing is stored of a detection that nobody brought. -/
lemma storedOf_eq_none (hid : id ≠ "") (events : List Heartbeat) :
    storedOf (run Threats.heartbeat .empty events) machineId id = none ↔ ¬Reported events machineId id := by
  rw [reported_iff hid, not_not, ← Option.map_eq_none_iff (f := Threat.mutable), row_of_run hid,
    Option.map_eq_none_iff]

/-- **What a heartbeat adds.** -/
lemma told_snoc (beats : List Beat) (b : Beat) :
    told (run (step cfg) .start (beats ++ [b])).queued address machineId id =
      told (run (step cfg) .start beats).queued address machineId id +
        told (queueThreatAlert cfg b.world b.now b.machine
          (upsertThreats (run Threats.heartbeat .empty (beats.map Beat.heartbeat)) b.heartbeat.machineId
            b.heartbeat.detections).2.newDetections) address machineId id := by
  rw [run_append, ← threats_run cfg]
  exact List.countP_append

open Classical in
lemma told_announced (hid : id ≠ "") (beats : List Beat) (b : Beat) :
    told (queueThreatAlert cfg b.world b.now b.machine
        (upsertThreats (run Threats.heartbeat .empty (beats.map Beat.heartbeat)) b.heartbeat.machineId
          b.heartbeat.detections).2.newDetections) address machineId id =
      if Announces cfg beats b address machineId id then 1 else 0 := by
  have hany (detections : List NewDetection) :
      (recentDetections cfg b.now detections).any (fun d => d.detectionId = some id) =
        (detections.filter (·.detectionId = some id)).any fun d => recent cfg b.now d.detectedAt := by
    rw [recentDetections, List.any_filter, List.any_filter]
    exact congrArg (detections.any ·) (funext fun d => Bool.and_comm _ _)
  rw [told_queue, hany, newDetections_filter hid _ b.heartbeat]
  refine if_congr ⟨?_, ?_⟩ rfl rfl
  · rintro ⟨rfl, hrecent, hears⟩
    split at hrecent
    · rename_i hnone
      cases hlast : lastOf b.heartbeat.detections id with
      | none =>
        rw [hlast] at hrecent
        cases hrecent
      | some r =>
        rw [hlast] at hrecent
        exact ⟨rfl, (storedOf_eq_none hid _).1 hnone, ⟨r, hlast, by simpa [asNew] using hrecent⟩, hears⟩
    · cases hrecent
  · rintro ⟨rfl, hfirst, ⟨r, hlast, hrecent⟩, hears⟩
    refine ⟨rfl, ?_, hears⟩
    have hnone : storedOf (run Threats.heartbeat .empty (beats.map Beat.heartbeat)) b.heartbeat.machineId id = none :=
      (storedOf_eq_none hid _).2 hfirst
    rw [if_pos hnone, hlast]
    simpa [asNew] using hrecent

/-- What is announced is reported from then on. -/
lemma Announces.reported {beats : List Beat} {b : Beat} (hid : id ≠ "") (h : Announces cfg beats b address machineId id)
    (after : List Beat) : Reported ((beats ++ b :: after).map Beat.heartbeat) machineId id := by
  obtain ⟨r, hlast, -⟩ := h.recent
  have hmem := List.mem_filter.1 (List.mem_of_getLast? hlast)
  exact ⟨hid, b.heartbeat, List.mem_map.2 ⟨b, by simp, rfl⟩, h.machine, r, hmem.1, of_decide_eq_true hmem.2⟩

open Classical in
/-- The mails that a run has queued: one, or none. -/
lemma told_run (hid : id ≠ "") (beats : List Beat) :
    told (run (step cfg) .start beats).queued address machineId id =
      if ∃ before b after, beats = before ++ b :: after ∧ Announces cfg before b address machineId id then 1
      else 0 := by
  induction beats using List.reverseRecOn with
  | nil => rw [if_neg (by simp)]; rfl
  | append_singleton beats b ih =>
    rw [told_snoc, told_announced hid, ih]
    by_cases hbefore : ∃ before b' after, beats = before ++ b' :: after ∧ Announces cfg before b' address machineId id
    · -- told already: it has been reported, and this heartbeat brings nothing new
      have hagain : ¬Announces cfg beats b address machineId id := by
        obtain ⟨before, b', after, rfl, h⟩ := hbefore
        exact fun hb => hb.first (h.reported hid after)
      rw [if_pos hbefore, if_neg hagain, if_pos]
      obtain ⟨before, b', after, rfl, h⟩ := hbefore
      exact ⟨before, b', after ++ [b], by simp, h⟩
    · rw [if_neg hbefore, Nat.zero_add]
      refine if_congr ⟨fun h => ⟨beats, b, [], rfl, h⟩, ?_⟩ rfl rfl
      rintro ⟨before, b', after, hsplit, h⟩
      rcases List.eq_nil_or_concat after with rfl | ⟨after, b'', rfl⟩
      · obtain ⟨rfl, hb⟩ := List.append_inj' hsplit rfl
        obtain rfl : b = b' := by simpa using hb
        exact h
      · rw [List.concat_eq_append, ← List.cons_append, ← List.append_assoc] at hsplit
        exact absurd ⟨before, b', after, (List.append_inj' hsplit rfl).1, h⟩ hbefore

/-- **An account is told of a detection once**: over every run of the heartbeats of any postes, whatever becomes of the
accounts, of their scopes, of the places and of the settings of mail, one mail at most is about a detection of a poste;
and there is one exactly when the first heartbeat that brings the detection finds it recent, mail on, and an account at
the address that asks for alerts at once and sees the poste. -/
theorem told_once (cfg : Config) (beats : List Beat) (address : String) (machineId : Uuid) (id : String)
    (hid : id ≠ "") :
    told (run (step cfg) .start beats).queued address machineId id ≤ 1 ∧
      (told (run (step cfg) .start beats).queued address machineId id = 1 ↔
        ∃ before b after, beats = before ++ b :: after ∧ Announces cfg before b address machineId id) := by
  rw [told_run hid]
  split
  · rename_i h
    exact ⟨Nat.le_refl 1, iff_of_true rfl h⟩
  · rename_i h
    exact ⟨Nat.zero_le 1, iff_of_false Nat.zero_ne_one h⟩

def plainConfig : Config where
  projectName := "Tia'i"
  consoleBaseUrl := ""
  threatAlertMaxAgeHours := 24
  notificationMaxItems := 20
  collate a b := compare a b
  stamp _ := ""
  uuidText _ := ""

/-- A console with one account, of no group. -/
def oneAccount (preference : EmailPreference) : World where
  accounts := ⟨[⟨1, "ops@example.org", none, true, preference⟩], [⟨1, "admins", none, some .admin⟩], [], [], [(1, 1)]⟩
  db := ⟨[], [], [], [], [], [], [], ⟨90, none, 14⟩⟩
  enabled := true
  current := true
  emails := List.nodup_singleton _

def beat (preference : EmailPreference) (status : String) : Beat :=
  ⟨⟨1, "uuid-1", some "PC-1", none, none, none⟩, [eicar status], 0, oneAccount preference⟩

/-- It is told by the first of two heartbeats, and not again. -/
theorem told_once_eicar :
    told (run (step plainConfig) .start [beat .immediate "active", beat .immediate "quarantined"]).queued
      "ops@example.org" 1 "DET-NEW" = 1 :=
  (told_once plainConfig _ _ _ _ (by decide)).2.2 ⟨[], beat .immediate "active", _, rfl,
    ⟨rfl, by decide, ⟨eicar "active", by decide, by decide⟩, by decide⟩⟩

end Run

end Tiai.ThreatAlert
