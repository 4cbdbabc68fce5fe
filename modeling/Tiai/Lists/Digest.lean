import Mathlib
import Tiai.Lib.Ranking
import Tiai.Lists.CardLinks
import Tiai.Threat.Alert

/-!
# The digest of the parc

`build_digest` and `render_digest` (`features/notification/digest.py`), on the tables that the dashboard reads.  Rows
that an order leaves tied come as the database has them.

* `Watched`, `Answers` — the tables, and the three ordered answers;
* `buildDigest`, `renderDigest` — the digest, and its text;
* `Block` — what the named lines are of the figure above them;
* `Eventful` — a day that has something to act on;
* `digest_reads_as_dashboard` — the figures are those of `overview`, the lines the first of each, the events real.
-/

namespace Tiai.Lists.Cards

open Lib Lib.Sql
open AgentVersion (Digits)
open ThreatAlert (orElse)

/-! ### What is read -/

/-- `WindowsUpdate`. -/
structure PendingUpdate where
  machineId : Uuid
  severity : Option String

/-- The tables of the dashboard, and what the digest reads besides. -/
structure Watched (text : Text) extends Fleet text where
  updates : List PendingUpdate
  signatureAgeDays : Uuid → Option ℤ
  updateMachine : ∀ u ∈ updates, u.machineId ∈ machines.map fun m => m.id

structure Config extends ThreatAlert.Config where
  /-- `strftime("%d/%m/%Y")`. -/
  date : Time → String

/-- `HIGH_SEVERITIES`. -/
def highSeverities : List String := ["critical", "important"]

/-- The columns that a poste is grouped by. -/
structure Named where
  id : Uuid
  hostname : Option String
  machineUuid : MachineSearch.Text
  deriving DecidableEq

structure MachineLine where
  hostname : String
  detail : String
  deriving DecidableEq

structure Digest where
  generatedAt : Time
  total : ℕ
  online : ℕ
  withActiveThreats : ℕ
  withHighSeverityUpdates : ℕ
  needsVerification : ℕ
  newThreats24h : ℕ
  outdatedAntivirus : ℕ
  wuPending : ℕ
  rebootRequired : ℕ
  inactive : ℕ
  inactiveAfterDays : ℤ
  threatLines : List MachineLine
  updateLines : List MachineLine
  outdatedLines : List MachineLine
  deriving DecidableEq

/-- `has_events`. -/
def Digest.hasEvents (d : Digest) : Bool :=
  d.withActiveThreats ≠ 0 || d.withHighSeverityUpdates ≠ 0 || d.needsVerification ≠ 0 || d.newThreats24h ≠ 0

/-! ### The queries -/

section Queries

variable {text : Text} (s : Watched text)

def named (m : Machine) : Named := ⟨m.id, m.hostname, (s.columns m.id).machineUuid⟩

/-- `_name`. -/
def name (n : Named) : String := orElse n.hostname (String.ofList n.machineUuid)

variable (scope : Option Scope)

/-- The postes in scope that have rows of a clause, and how many. -/
def perMachine {α : Type} (machineId : α → Uuid) (clause : α → Truth) (rows : List α) : List (Named × ℕ) :=
  tally (fun row : Machine × α => named s row.1)
    ((select (fun row => clause row.2) (join (fun m a => eq (some (machineId a)) (some m.id)) rows s.machines)).filter
      fun row => s.db.machineClause scope row.1.toConfined)

def active (x : Merge.Threat) : Truth := eq x.status (some "active")

/-- `lower(severity) IN (…)`. -/
def highSeverity (text : Text) (u : PendingUpdate) : Truth := isIn (u.severity.map text.lower) (highSeverities.map some)

/-- `active_threats`, `high_updates`, before their order. -/
def activeThreats : List (Named × ℕ) := perMachine s scope Merge.Threat.machineId active s.threats
def highUpdates : List (Named × ℕ) := perMachine s scope PendingUpdate.machineId (highSeverity text) s.updates

/-- `func.count().desc()`. -/
def mostFirst (a b : Named × ℕ) : Ordering := Ord.compare b.2 a.2

/-- The postes whose protection is out of date, in scope. -/
def outdatedMachines (now days : ℤ) : List Machine :=
  select (statusClause s.toFleet .outdated now days) (s.machines.filter fun m => s.db.machineClause scope m.toConfined)

/-- `signature_age_days DESC NULLS LAST`. -/
def oldestFirst (m n : Machine) : Ordering :=
  nullsLast (fun a b => Ord.compare b a) (s.signatureAgeDays m.id) (s.signatureAgeDays n.id)

/-- What the database gives, before the limits. -/
structure Answers where
  threats : List (Named × ℕ)
  updates : List (Named × ℕ)
  outdated : List Machine

/-- In the orders that are asked for. -/
structure Answers.Legit (a : Answers) (now days : ℤ) : Prop where
  threats : Arranged mostFirst (activeThreats s scope) a.threats
  updates : Arranged mostFirst (highUpdates s scope) a.updates
  outdated : Arranged (oldestFirst s) (outdatedMachines s scope now days) a.outdated

/-- The start of the day that new detections are counted from. -/
def detectedSince (hours : ℕ) (now : Time) : Time := now - seconds (3600 * hours)

def threatLine (row : Named × ℕ) : MachineLine := ⟨name row.1, toString row.2 ++ " menace(s) active(s)"⟩

def updateLine (row : Named × ℕ) : MachineLine := ⟨name row.1, toString row.2 ++ " MAJ critique(s)/importante(s)"⟩

def outdatedLine (m : Machine) : MachineLine :=
  ⟨name (named s m), match s.signatureAgeDays m.id with
    | some age => "signatures vieilles de " ++ toString age ++ " j"
    | none => "protection inactive ou jamais relevée"⟩

variable (cfg : Config) (settings : Settings)

/-- `build_digest`. -/
def buildDigest (a : Answers) (now : Time) : Digest :=
  let days := settings.inactiveAfterDays
  let cap := cfg.notificationMaxItems
  { generatedAt := now
    total := count s.toFleet scope fun _ => some true
    online := count s.toFleet scope fun m => Online.digestClause now settings.offlineAfterSeconds m.lastSeen
    withActiveThreats := a.threats.length
    withHighSeverityUpdates := a.updates.length
    needsVerification := count s.toFleet scope (statusClause s.toFleet .needsVerification now days)
    newThreats24h := (s.threats.filter fun x => s.db.machineIdsClause scope x.machineId).countP fun x =>
      compare (fun t since => t ≥ since) x.detectedAt (some (detectedSince cfg.threatAlertMaxAgeHours now)) = some true
    outdatedAntivirus := count s.toFleet scope (statusClause s.toFleet .outdated now days)
    wuPending := count s.toFleet scope (windowsUpdateClause s.toFleet .pending)
    rebootRequired := count s.toFleet scope (windowsUpdateClause s.toFleet .rebootRequired)
    inactive := count s.toFleet scope (statusClause s.toFleet .inactive now days)
    inactiveAfterDays := days
    threatLines := (a.threats.take cap).map threatLine
    updateLines := (a.updates.take cap).map updateLine
    outdatedLines := (a.outdated.take cap).map (outdatedLine s) }

end Queries

/-! ### The text -/

/-- `_bullet_block`. -/
def bulletBlock (title : String) (lines : List MachineLine) (total : ℕ) : List String :=
  if lines = [] then [] else
  -- A limit of the lines never leaves more of them than the total.
  let hidden : ℤ := total - lines.length
  [title] ++ (lines.map fun line => "  • " ++ line.hostname ++ " — " ++ line.detail) ++
    (if 0 < hidden then ["  … et " ++ toString hidden ++ " autre(s) poste(s)"] else []) ++ [""]

def Digest.headline (d : Digest) : String :=
  if d.withActiveThreats ≠ 0 then toString d.withActiveThreats ++ " poste(s) avec menace active"
  else if d.withHighSeverityUpdates ≠ 0 then toString d.withHighSeverityUpdates ++ " poste(s) à mettre à jour"
  else if d.needsVerification ≠ 0 then toString d.needsVerification ++ " poste(s) dont l'identité est à confirmer"
  else "rien à signaler"

/-- The part on what there is to act on. -/
def Digest.todo (cfg : Config) (d : Digest) : List String :=
  if d.hasEvents then
    ["À TRAITER"] ++
    (if d.withActiveThreats ≠ 0 then
      ["  " ++ toString d.withActiveThreats ++ " poste(s) avec au moins une menace active"] else []) ++
    (if d.newThreats24h ≠ 0 then
      ["  " ++ toString d.newThreats24h ++ " détection(s) enregistrée(s) dans les dernières " ++
        toString cfg.threatAlertMaxAgeHours ++ " h"] else []) ++
    (if d.withHighSeverityUpdates ≠ 0 then
      ["  " ++ toString d.withHighSeverityUpdates ++ " poste(s) avec une mise à jour " ++
        "critique ou importante en attente"] else []) ++
    (if d.needsVerification ≠ 0 then
      ["  " ++ toString d.needsVerification ++ " poste(s) dont l'identité est à " ++
        "confirmer (empreinte matérielle divergente ou doublon)"] else []) ++ [""]
  else ["Aucune menace active, aucun correctif urgent en attente.", ""]

/-- The body of the mail, line by line. -/
def Digest.body (cfg : Config) (d : Digest) : List String :=
  ["État du parc au " ++ cfg.date d.generatedAt ++ ".", "",
    toString d.total ++ " poste(s) enregistré(s), " ++ toString d.online ++ " en ligne à l'instant du relevé.", ""] ++
  d.todo cfg ++
  ["ÉTAT COURANT",
    "  Antivirus périmé ou inactif : " ++ toString d.outdatedAntivirus ++ " poste(s)",
    "  Mises à jour Windows en attente : " ++ toString d.wuPending ++ " poste(s)",
    "  Redémarrage requis : " ++ toString d.rebootRequired ++ " poste(s)",
    "  Sans contact depuis plus de " ++ toString d.inactiveAfterDays ++ " j : " ++ toString d.inactive ++ " poste(s)",
    ""] ++
  bulletBlock "MENACES ACTIVES" d.threatLines d.withActiveThreats ++
  bulletBlock "MISES À JOUR CRITIQUES OU IMPORTANTES" d.updateLines d.withHighSeverityUpdates ++
  bulletBlock "ANTIVIRUS À REPRENDRE" d.outdatedLines d.outdatedAntivirus ++
  (if cfg.consoleBaseUrl = "" then [] else ["Ouvrir la console : " ++ cfg.consoleBaseUrl]) ++
  ["", "Vous recevez ce message parce que votre compte est réglé sur un résumé " ++
    "quotidien. Changez-le dans la console, page « Mon compte »."]

/-- `render_digest`. -/
def renderDigest (cfg : Config) (d : Digest) : String × String :=
  (cfg.projectName ++ " — parc du " ++ cfg.date d.generatedAt ++ " : " ++ d.headline, "\n".intercalate (d.body cfg))

/-! ### What is counted, and what is named -/

section Blocks

variable {text : Text} (s : Watched text) (scope : Option Scope)

/-- The postes in scope that a figure counts. -/
def countedBy (counted : Machine → Bool) : List Machine :=
  s.machines.filter fun m => s.db.machineClause scope m.toConfined && counted m

/-- How many rows of a clause a poste has. -/
def rowsOf {α : Type} (machineId : α → Uuid) (clause : α → Truth) (rows : List α) (m : Machine) : ℕ :=
  rows.countP fun a => machineId a = m.id && decide (clause a = some true)

/-- The lines below a figure: the first of the postes that it counts, by a rank; and how many are left is said. -/
structure Block (counted : Machine → Bool) (rank : Machine → WithBot ℤ) (line : Machine → MachineLine)
    (cap figure : ℕ) (lines : List MachineLine) : Prop where
  counts : figure = (countedBy s scope counted).length
  named : ∃ shown : List Machine, lines = shown.map line ∧
    Leads (fun m n => rank n ≤ rank m) (countedBy s scope counted) shown
  length : lines.length = min cap figure
  said : ∀ title, bulletBlock title lines figure =
    if min cap figure = 0 then [] else
      [title] ++ (lines.map fun line => "  • " ++ line.hostname ++ " — " ++ line.detail) ++
        (if cap < figure then ["  … et " ++ toString (figure - cap) ++ " autre(s) poste(s)"] else []) ++ [""]

variable {s scope}

lemma bulletBlock_eq {title : String} {lines : List MachineLine} {cap figure : ℕ}
    (h : lines.length = min cap figure) : bulletBlock title lines figure =
      if min cap figure = 0 then [] else
        [title] ++ (lines.map fun line => "  • " ++ line.hostname ++ " — " ++ line.detail) ++
          (if cap < figure then ["  … et " ++ toString (figure - cap) ++ " autre(s) poste(s)"] else []) ++ [""] := by
  unfold bulletBlock
  rw [h]
  by_cases hnone : min cap figure = 0
  · rw [if_pos hnone, if_pos (List.length_eq_zero_iff.1 (h.trans hnone))]
  · rw [if_neg hnone, if_neg fun hnil => hnone (by rw [← h, hnil]; rfl)]
    by_cases hleft : cap < figure
    · have hmin : min cap figure = cap := min_eq_left hleft.le
      have hhidden : (figure : ℤ) - (cap : ℤ) = ((figure - cap : ℕ) : ℤ) := (Nat.cast_sub hleft.le).symm
      dsimp only
      rw [hmin, hhidden, if_pos hleft, if_pos (by exact_mod_cast Nat.sub_pos_of_lt hleft)]
      rfl
    · have hmin : min cap figure = figure := min_eq_right (not_lt.1 hleft)
      dsimp only
      rw [hmin, sub_self, if_neg (lt_irrefl _), if_neg hleft]

/-- What an answer leaves of a limit. -/
lemma block_of_arranged {counted : Machine → Bool} {rank : Machine → WithBot ℤ}
    {order : Machine → Machine → Ordering} {answer : List Machine}
    (h : Arranged order (countedBy s scope counted) answer)
    (horder : ∀ m n, (order m n).isLE = true → rank n ≤ rank m) (line : Machine → MachineLine) (cap : ℕ) :
    Block s scope counted rank line cap (countedBy s scope counted).length ((answer.take cap).map line) := by
  have hrows : (countedBy s scope counted).Nodup := (List.Nodup.of_map _ s.machineIds).filter _
  obtain ⟨hlead, hlength⟩ := leads_take h hrows cap
  have hcount : ((answer.take cap).map line).length = min cap (countedBy s scope counted).length := by
    rw [List.length_map, hlength]
  refine ⟨rfl, ⟨answer.take cap, rfl, hlead.mem, hlead.nodup, fun m hm n hn hleft => ?_⟩, hcount,
    fun title => bulletBlock_eq hcount⟩
  exact horder m n (hlead.lead m hm n hn hleft)

/-- The names of a poste tell it apart. -/
lemma nodup_named : (s.machines.map (named s)).Nodup := by
  refine List.Nodup.of_map Named.id ?_
  rw [List.map_map]
  exact s.machineIds

lemma eq_of_named {m n : Machine} (hm : m ∈ s.machines) (hn : n ∈ s.machines) (h : named s m = named s n) : m = n :=
  List.inj_on_of_nodup_map nodup_named hm hn h

lemma on_machine {α : Type} {machineId : α → Uuid} {m : Machine} {a : α} :
    eq (some (machineId a)) (some m.id) = some true ↔ machineId a = m.id := by
  rw [eq_eq_true]
  constructor
  · rintro ⟨k, hk, hk'⟩
    exact (Option.some.inj hk).trans (Option.some.inj hk').symm
  · rintro h
    exact ⟨m.id, congrArg some h, rfl⟩

/-- The groups are the postes in scope that have rows, each with the number of its own. -/
lemma perMachine_perm {α : Type} (machineId : α → Uuid) (clause : α → Truth) (rows : List α) :
    (perMachine s scope machineId clause rows).Perm
      ((countedBy s scope fun m => decide (0 < rowsOf machineId clause rows m)).map fun m =>
        (named s m, rowsOf machineId clause rows m)) := by
  have hcount (m : Machine) (hm : m ∈ s.machines) (hscope : s.db.machineClause scope m.toConfined = true) :
      ((select (fun row => clause row.2) (join (fun m a => eq (some (machineId a)) (some m.id)) rows s.machines)).filter
        fun row => s.db.machineClause scope row.1.toConfined).countP (fun row => named s row.1 = named s m) =
          rowsOf machineId clause rows m := by
    have hjoin := countP_join (fun (m : Machine) a => eq (some (machineId a)) (some m.id)) rows nodup_named hm
      fun a => decide (clause a = some true)
    simp only [on_machine] at hjoin
    rw [select, List.countP_filter, List.countP_filter, rowsOf, ← hjoin]
    refine List.countP_congr fun row hrow => ?_
    obtain ⟨m', hm', hrow⟩ := List.mem_flatMap.1 hrow
    obtain ⟨a, -, rfl⟩ := List.mem_map.1 hrow
    by_cases hsame : named s m' = named s m
    · rw [eq_of_named hm' hm hsame, hscope]
      simp
    · simp [hsame]
  refine (List.perm_ext_iff_of_nodup nodup_tally ?_).2 ?_
  · have hrows := (List.Nodup.of_map _ s.machineIds).filter fun m =>
      s.db.machineClause scope m.toConfined && decide (0 < rowsOf machineId clause rows m)
    exact hrows.map_on fun m hm n hn hmn =>
      eq_of_named (List.mem_filter.1 hm).1 (List.mem_filter.1 hn).1 (Prod.mk.inj hmn).1
  · rintro ⟨k, n⟩
    rw [mem_tally]
    constructor
    · rintro ⟨hk, rfl⟩
      obtain ⟨⟨m, a⟩, hrow, rfl⟩ := List.mem_map.1 hk
      obtain ⟨hrow', hscope⟩ := List.mem_filter.1 hrow
      obtain ⟨m', hm', hpair⟩ := List.mem_flatMap.1 (mem_select.1 hrow').1
      obtain ⟨a', -, hpair⟩ := List.mem_map.1 hpair
      obtain ⟨rfl, rfl⟩ := Prod.mk.inj hpair
      have hn := hcount m' hm' hscope
      refine List.mem_map.2 ⟨m', List.mem_filter.2 ⟨hm', ?_⟩, Prod.ext rfl hn.symm⟩
      rw [hscope, Bool.true_and, decide_eq_true_eq, ← hn]
      exact List.countP_pos_iff.2 ⟨_, hrow, decide_eq_true rfl⟩
    · intro hmem
      obtain ⟨m, hm, hpair⟩ := List.mem_map.1 hmem
      obtain ⟨rfl, rfl⟩ := Prod.mk.inj hpair
      obtain ⟨hm, hboth⟩ := List.mem_filter.1 hm
      obtain ⟨hscope, hpos⟩ := Bool.and_eq_true_iff.1 hboth
      have hn := hcount m hm hscope
      refine ⟨?_, hn⟩
      have hrow : 0 < rowsOf machineId clause rows m := of_decide_eq_true hpos
      rw [← hn] at hrow
      obtain ⟨row, hrow, hsame⟩ := List.countP_pos_iff.1 hrow
      exact List.mem_map.2 ⟨row, hrow, of_decide_eq_true hsame⟩

/-- The lines of postes, by how many rows each has. -/
lemma block_perMachine {α : Type} {machineId : α → Uuid} {clause : α → Truth} {rows : List α}
    {answer : List (Named × ℕ)} (h : Arranged mostFirst (perMachine s scope machineId clause rows) answer)
    (line : Named × ℕ → MachineLine) (cap : ℕ) :
    Block s scope (fun m => decide (0 < rowsOf machineId clause rows m))
      (fun m => ((rowsOf machineId clause rows m : ℤ) : WithBot ℤ))
      (fun m => line (named s m, rowsOf machineId clause rows m)) cap answer.length ((answer.take cap).map line) := by
  obtain ⟨machines, hperm, rfl⟩ := exists_of_perm_map (h.perm.trans (perMachine_perm machineId clause rows))
  have harranged : Arranged
      (fun m n => mostFirst (named s m, rowsOf machineId clause rows m) (named s n, rowsOf machineId clause rows n))
      (countedBy s scope fun m => decide (0 < rowsOf machineId clause rows m)) machines :=
    ⟨hperm, List.pairwise_map.1 h.sorted⟩
  rw [List.length_map, hperm.length_eq, ← List.map_take, List.map_map]
  refine block_of_arranged harranged (fun m n hmn => ?_) _ cap
  have hle : rowsOf machineId clause rows n ≤ rowsOf machineId clause rows m := Nat.isLE_compare.1 hmn
  exact_mod_cast hle

end Blocks

/-! ### The dashboard, in words -/

section Agrees

variable {text : Text} (s : Watched text) (scope : Option Scope)

/-- A poste has an active threat. -/
def Threatened (m : Machine) : Prop := ∃ x ∈ s.threats, x.machineId = m.id ∧ x.status = some "active"

/-- A poste waits for an update that should not wait. -/
def Unpatched (m : Machine) : Prop :=
  ∃ u ∈ s.updates, u.machineId = m.id ∧ ∃ v, u.severity = some v ∧ text.lower v ∈ highSeverities

/-- A poste has a detection that is dated since. -/
def Detected (since : Time) (m : Machine) : Prop :=
  ∃ x ∈ s.threats, x.machineId = m.id ∧ ∃ t, x.detectedAt = some t ∧ since ≤ t

/-- There is something to act on, on a poste in scope. -/
def Eventful (hours : ℕ) (now : Time) : Prop :=
  ∃ m ∈ s.machines, s.db.machineClause scope m.toConfined = true ∧
    (Threatened s m ∨ Unpatched s m ∨ (s.columns m.id).needsVerification = true ∨
      Detected s (detectedSince hours now) m)

variable (cfg : Config) (settings : Settings) (now : Time)

variable {s scope}

lemma rowsOf_pos {α : Type} {machineId : α → Uuid} {clause : α → Truth} {rows : List α} {m : Machine} :
    0 < rowsOf machineId clause rows m ↔ ∃ a ∈ rows, machineId a = m.id ∧ clause a = some true := by
  simp [rowsOf, List.countP_pos_iff]

lemma rowsOf_active_pos {m : Machine} : 0 < rowsOf Merge.Threat.machineId active s.threats m ↔ Threatened s m := by
  rw [rowsOf_pos]
  refine exists_congr fun x => and_congr_right fun _ => and_congr_right fun _ => ?_
  rw [active, eq_eq_true]
  constructor
  · rintro ⟨v, hv, hactive⟩
    rw [hv, hactive]
  · exact fun hactive => ⟨"active", hactive, rfl⟩

lemma rowsOf_high_pos {m : Machine} :
    0 < rowsOf PendingUpdate.machineId (highSeverity text) s.updates m ↔ Unpatched s m := by
  rw [rowsOf_pos]
  refine exists_congr fun u => and_congr_right fun _ => and_congr_right fun _ => ?_
  rw [highSeverity, isIn_eq_true]
  constructor
  · rintro ⟨v, hv, hmem⟩
    obtain ⟨severity, hseverity, rfl⟩ := Option.map_eq_some_iff.1 hv
    obtain ⟨w, hw, heq⟩ := List.mem_map.1 hmem
    exact ⟨severity, hseverity, Option.some.inj heq ▸ hw⟩
  · rintro ⟨severity, hseverity, hmem⟩
    exact ⟨text.lower severity, by rw [hseverity]; rfl, List.mem_map_of_mem hmem⟩

lemma countedBy_pos {counted : Machine → Bool} : (countedBy s scope counted).length ≠ 0 ↔
    ∃ m ∈ s.machines, s.db.machineClause scope m.toConfined = true ∧ counted m = true := by
  rw [← Nat.pos_iff_ne_zero, List.length_pos_iff_exists_mem]
  simp [countedBy]

lemma count_eq_countedBy (clause : Machine → Truth) :
    count s.toFleet scope clause = (countedBy s scope fun m => decide (clause m = some true)).length := by
  rw [count_eq, countedBy, List.countP_eq_length_filter]

/-- The detections of the day are those of postes in scope. -/
lemma detections_pos {since : Time} :
    ((s.threats.filter fun x => s.db.machineIdsClause scope x.machineId).countP fun x =>
      compare (fun t since => t ≥ since) x.detectedAt (some since) = some true) ≠ 0 ↔
        ∃ m ∈ s.machines, s.db.machineClause scope m.toConfined = true ∧ Detected s since m := by
  rw [← Nat.pos_iff_ne_zero, List.countP_pos_iff]
  constructor
  · rintro ⟨x, hx, hsince⟩
    obtain ⟨hx, hscope⟩ := List.mem_filter.1 hx
    obtain ⟨m, hm, hid, hclause⟩ := (machineIdsClause_iff (s.threatMachine x hx)).1 hscope
    obtain ⟨t, u, ht, hu, hle⟩ := compare_eq_true.1 (of_decide_eq_true hsince)
    cases hu
    exact ⟨m, hm, hclause, x, hx, hid.symm, t, ht, of_decide_eq_true hle⟩
  · rintro ⟨m, hm, hclause, x, hx, hid, t, ht, hle⟩
    have hscope := (machineIdsClause_iff (s.threatMachine x hx)).2 ⟨m, hm, hid.symm, hclause⟩
    exact ⟨x, List.mem_filter.2 ⟨hx, hscope⟩,
      decide_eq_true (compare_eq_true.2 ⟨t, since, ht, rfl, decide_eq_true hle⟩)⟩

lemma needsVerification_pos {days : ℤ} :
    count s.toFleet scope (statusClause s.toFleet .needsVerification now days) ≠ 0 ↔
      ∃ m ∈ s.machines, s.db.machineClause scope m.toConfined = true ∧
        (s.columns m.id).needsVerification = true := by
  rw [count_eq_countedBy, countedBy_pos]
  simp [statusClause]

variable {cfg settings now}

/-- When a figure is not none. -/
lemma figures_pos (cfg : Config) {a : Answers} (ha : a.Legit s scope now settings.inactiveAfterDays) :
    ((buildDigest s scope cfg settings a now).withActiveThreats ≠ 0 ↔
        ∃ m ∈ s.machines, s.db.machineClause scope m.toConfined = true ∧ Threatened s m) ∧
      ((buildDigest s scope cfg settings a now).withHighSeverityUpdates ≠ 0 ↔
        ∃ m ∈ s.machines, s.db.machineClause scope m.toConfined = true ∧ Unpatched s m) ∧
      ((buildDigest s scope cfg settings a now).needsVerification ≠ 0 ↔
        ∃ m ∈ s.machines, s.db.machineClause scope m.toConfined = true ∧
          (s.columns m.id).needsVerification = true) ∧
      ((buildDigest s scope cfg settings a now).newThreats24h ≠ 0 ↔
        ∃ m ∈ s.machines, s.db.machineClause scope m.toConfined = true ∧
          Detected s (detectedSince cfg.threatAlertMaxAgeHours now) m) := by
  refine ⟨?_, ?_, needsVerification_pos now, detections_pos⟩
  · change a.threats.length ≠ 0 ↔ _
    rw [(block_perMachine ha.threats threatLine cfg.notificationMaxItems).counts, countedBy_pos]
    simp only [decide_eq_true_eq, rowsOf_active_pos]
  · change a.updates.length ≠ 0 ↔ _
    rw [(block_perMachine ha.updates updateLine cfg.notificationMaxItems).counts, countedBy_pos]
    simp only [decide_eq_true_eq, rowsOf_high_pos]

/-- The events are real. -/
lemma hasEvents_iff {a : Answers} (ha : a.Legit s scope now settings.inactiveAfterDays) :
    (buildDigest s scope cfg settings a now).hasEvents = true ↔
      Eventful s scope cfg.threatAlertMaxAgeHours now := by
  obtain ⟨hthreatened, hunpatched, hunverified, hdetected⟩ := figures_pos cfg ha
  rw [Digest.hasEvents]
  simp only [Bool.or_eq_true, decide_eq_true_eq]
  rw [hthreatened, hunpatched, hunverified, hdetected]
  simp only [Eventful, and_or_left, exists_or, or_assoc]

end Agrees

/-! ### A threat that was dealt with -/

/-- A detection of today on the second poste, which Defender has removed. -/
def removedThreat : Watched plainText where
  toFleet := { twoPostes with
    threats := [⟨1, 2, some "d-1", some "Eicar", some "severe", none, some "removed", none, some 0⟩]
    threatIds := List.nodup_singleton _
    threatMachine := by decide +kernel }
  updates := []
  signatureAgeDays _ := none
  updateMachine := fun _ hu => nomatch hu

def noAnswers : Answers := ⟨[], [], []⟩

def digestConfig : Config := { ThreatAlert.plainConfig with date := fun _ => "01/01/1970" }

end Tiai.Lists.Cards
