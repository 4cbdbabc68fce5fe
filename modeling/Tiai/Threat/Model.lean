import Tiai.Lib.Runs
import Tiai.Lib.Upsert
import Tiai.Machine.Merge

/-!
# The detections of a poste

`features/threat/crud.py` and `features/threat/schemas.py`: what a heartbeat reports of Defender's history, and what
the table of threats becomes of it.  A heartbeat whose transaction fails stores nothing and is no part of a run.

* `ThreatReport`, `validated` — a detection as it is reported, bounded;
* `Table` — the stored detections, and the sequence of their identifiers;
* `insertOnConflict` — `INSERT … ON CONFLICT DO UPDATE … WHERE … RETURNING`, for one row;
* `upsertThreats` — a batch, deduplicated first;
* `heartbeat`, `results` — what heartbeats leave, and what they return.
-/

namespace Tiai.Threats

open Lib

/-! ### What is reported -/

/-- `ThreatReport`; `extra` is what `json.dumps` makes of the unknown fields, empty for none. -/
structure ThreatReport where
  detectionId : Option String
  threatName : Option String
  severity : Option String
  category : Option String
  status : Option String
  actionTaken : Option String
  detectedAt : Option Time
  extra : String
  deriving DecidableEq

/-- `DETECTION_TEXT_MAX`, `EXTRA_JSON_MAX`, `MAX_THREATS`. -/
def detectionTextMax : ℕ := 300
def extraJsonMax : ℕ := 4 * 1024
def maxThreats : ℕ := 1000

/-- `_bound_text` on the texts, and `_bound_extra`. -/
def ThreatReport.bound (r : ThreatReport) : ThreatReport where
  detectionId := boundText r.detectionId detectionTextMax
  threatName := boundText r.threatName detectionTextMax
  severity := boundText r.severity detectionTextMax
  category := boundText r.category detectionTextMax
  status := boundText r.status detectionTextMax
  actionTaken := boundText r.actionTaken detectionTextMax
  detectedAt := r.detectedAt
  extra := if extraJsonMax < r.extra.length then "" else r.extra

/-- The validators of `HeartbeatRequest.threats`: the excess is dropped first. -/
def validated (reports : List ThreatReport) : List ThreatReport := (reports.take maxThreats).map ThreatReport.bound

/-- `_MUTABLE`: the columns that Defender may revise. -/
structure Mutable where
  threatName : Option String
  severity : Option String
  category : Option String
  status : Option String
  actionTaken : Option String
  deriving DecidableEq

def ThreatReport.mutable (r : ThreatReport) : Mutable :=
  ⟨r.threatName, r.severity, r.category, r.status, r.actionTaken⟩

/-- `if r.detection_id`. -/
def ThreatReport.keyed (r : ThreatReport) : Bool := r.detectionId.any (· ≠ "")

/-- The dictionary of the batch: the last report of a detection, at the place of the first. -/
def deduped (reports : List ThreatReport) : List ThreatReport :=
  (reports.filter ThreatReport.keyed).foldl (upsert ThreatReport.detectionId) []

/-! ### What is stored -/

/-- `Threat`, with its raw report. -/
structure Threat extends Merge.Threat where
  raw : ThreatReport
  deriving DecidableEq

def Threat.mutable (x : Threat) : Mutable := ⟨x.threatName, x.severity, x.category, x.status, x.actionTaken⟩

/-- `uq_threats_machine_detection`. -/
def Threat.key (x : Threat) : Uuid × Option String := (x.machineId, x.detectionId)

structure Table where
  rows : List Threat
  nextId : ℕ

def Table.empty : Table := ⟨[], 1⟩

/-- The row that is proposed. -/
def proposed (machineId : Uuid) (id : ℕ) (r : ThreatReport) : Threat where
  id := id
  machineId := machineId
  detectionId := r.detectionId
  threatName := r.threatName
  severity := r.severity
  category := r.category
  status := r.status
  actionTaken := r.actionTaken
  detectedAt := r.detectedAt
  raw := r

/-- `coalesce(excluded.detected_at, stored.detected_at)`. -/
def coalescedDate (x : Threat) (r : ThreatReport) : Option Time := r.detectedAt.or x.detectedAt

/-- `DO UPDATE SET …`. -/
def updated (x : Threat) (r : ThreatReport) : Threat :=
  { x with
    threatName := r.threatName
    severity := r.severity
    category := r.category
    status := r.status
    actionTaken := r.actionTaken
    detectedAt := coalescedDate x r
    raw := r }

/-- `WHERE`: a column that may be revised, or the date, `IS DISTINCT FROM` what is stored. -/
def differs (x : Threat) (r : ThreatReport) : Bool := x.mutable ≠ r.mutable ∨ x.detectedAt ≠ coalescedDate x r

lemma differs_eq_false_iff {x : Threat} {r : ThreatReport} :
    differs x r = false ↔ x.mutable = r.mutable ∧ x.detectedAt = coalescedDate x r := by
  rw [differs, decide_eq_false_iff_not, not_or, not_not, not_not]

/-- A report with no date, or with the stored one, leaves the date. -/
lemma coalescedDate_eq {x : Threat} {r : ThreatReport} (h : r.detectedAt = none ∨ r.detectedAt = x.detectedAt) :
    coalescedDate x r = x.detectedAt := by
  unfold coalescedDate
  rcases h with hnone | hsome
  · rw [hnone, Option.none_or]
  · rw [hsome, Option.or_self]

/-- A row of `RETURNING`; `inserted` is `xmax = 0`. -/
structure Returned where
  row : Threat
  inserted : Bool
  deriving DecidableEq

/-- One row of the statement. -/
def insertOnConflict (machineId : Uuid) (t : Table) (r : ThreatReport) : Table × Option Returned :=
  match rowOf Threat.key t.rows (machineId, r.detectionId) with
  | none =>
    let x := proposed machineId t.nextId r
    (⟨t.rows ++ [x], t.nextId + 1⟩, some ⟨x, true⟩)
  | some x =>
    if differs x r then (⟨putRow Threat.key t.rows (updated x r), t.nextId + 1⟩, some ⟨updated x r, false⟩)
    else (⟨t.rows, t.nextId + 1⟩, none)

/-- The statement, row after row. -/
def insertRows (machineId : Uuid) : Table → List ThreatReport → Table × List Returned
  | t, [] => (t, [])
  | t, r :: rs =>
    let (t', returned) := insertOnConflict machineId t r
    let (t'', rest) := insertRows machineId t' rs
    (t'', returned.toList ++ rest)

structure NewDetection where
  detectionId : Option String
  threatName : Option String
  severity : Option String
  status : Option String
  detectedAt : Option Time
  deriving DecidableEq

structure UpsertResult where
  written : ℕ
  newDetections : List NewDetection
  deriving DecidableEq

def Returned.detection (w : Returned) : NewDetection :=
  ⟨w.row.detectionId, w.row.threatName, w.row.severity, w.row.status, w.row.detectedAt⟩

/-- What is made of the rows returned. -/
def resultOf (returned : List Returned) : UpsertResult :=
  ⟨returned.length, (returned.filter Returned.inserted).map Returned.detection⟩

/-- `upsert_threats`. -/
def upsertThreats (t : Table) (machineId : Uuid) (reports : List ThreatReport) : Table × UpsertResult :=
  let (t', returned) := insertRows machineId t (deduped reports)
  (t', resultOf returned)

/-! ### Runs -/

/-- A heartbeat: whose, and the detections that it reports. -/
structure Heartbeat where
  machineId : Uuid
  threats : List ThreatReport

/-- Its detections, as the request is validated. -/
def Heartbeat.detections (e : Heartbeat) : List ThreatReport := validated e.threats

def heartbeat (t : Table) (e : Heartbeat) : Table := (upsertThreats t e.machineId e.detections).1

/-- What the heartbeats of a run return, with the postes that sent them. -/
def results : Table → List Heartbeat → List (Uuid × UpsertResult)
  | _, [] => []
  | t, e :: es => (e.machineId, (upsertThreats t e.machineId e.detections).2) :: results (heartbeat t e) es

/-- A detection that Defender has handled since, reported twice. -/
def eicar (status : String) : ThreatReport :=
  ⟨some "DET-NEW", some "EICAR-Test-File", none, none, some status, none, none, ""⟩

example : (results .empty [⟨1, [eicar "active"]⟩, ⟨1, [eicar "quarantined"]⟩, ⟨1, [eicar "quarantined"]⟩]).map
    (fun r => (r.2.written, r.2.newDetections.length)) = [(1, 1), (1, 0), (0, 0)] := by decide

end Tiai.Threats
