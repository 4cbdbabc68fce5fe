import Mathlib
import Tiai.Inventory.Sets
import Tiai.Lib.Runs
import Tiai.Text

/-!
# The updates a poste is waiting for

`features/windows_update/schemas.py`, `replace_pending` (`features/windows_update/crud.py`), and the lines of
`heartbeat` (`api/routes/agent.py`) that call it.  A heartbeat whose transaction fails is no part of a run.

* `PendingUpdateReport`, `WUStateReport` — a block as it is reported, and what the validators leave of it;
* `replacePending`, `heartbeat` — what a heartbeat writes;
* `pendingRow` — of the blocks received, the row of an update: from the last, and of the stretch that leads up to it;
* `pending_replaced` — the rows and their count, after any run.
-/

namespace Tiai.WindowsUpdate

open Lib Inventory

/-! ### The block -/

/-- `UPDATE_ID_MAX`, `KB_MAX`, `TITLE_MAX`, `SEVERITY_MAX`, `CATEGORIES_MAX`, `MAX_PENDING_UPDATES`, `SIZE_MB_MAX`. -/
def updateIdMax : ℕ := 200
def kbMax : ℕ := 40
def titleMax : ℕ := 512
def severityMax : ℕ := 40
def categoriesMax : ℕ := 512
def maxPendingUpdates : ℕ := 500
def sizeMbMax : ℚ := 10 * 1024

/-- A `float`. -/
inductive Float64
  | finite (q : ℚ)
  | infinite (negative : Bool)
  | nan
deriving DecidableEq

structure PendingUpdateReport where
  updateId : String
  kb : Option String
  title : String
  severity : Option String
  type : String
  categories : List String
  isDownloaded : Bool
  sizeMb : Option Float64
deriving DecidableEq

/-- `… or None`. -/
def orNone (s : String) : Option String := if s = "" then none else some s

/-- `_normalize_severity`. -/
def normalizeSeverity (lower : String → String) (value : String) : Option String :=
  orNone (truncate severityMax (lower (strip value)))

/-- `_known_type`. -/
def knownType (lower : String → String) (value : String) : String :=
  if lower (strip value) = "driver" then "driver" else "software"

/-- `_sane_size`: a comparison with `nan` is false. -/
def saneSize : Float64 → Option Float64
  | .finite q => if q < 0 ∨ q > sizeMbMax then none else some (.finite q)
  | .infinite _ => none
  | .nan => some .nan

def PendingUpdateReport.bound (lower : String → String) (r : PendingUpdateReport) : PendingUpdateReport where
  updateId := truncate updateIdMax (strip r.updateId)
  kb := r.kb.bind fun kb => orNone (truncate kbMax (strip kb))
  title := truncate titleMax (strip r.title)
  severity := r.severity.bind (normalizeSeverity lower)
  type := knownType lower r.type
  categories := r.categories
  isDownloaded := r.isDownloaded
  sizeMb := r.sizeMb.bind saneSize

/-- `categories_text`. -/
def PendingUpdateReport.categoriesText (r : PendingUpdateReport) : Option String :=
  orNone (truncate categoriesMax (", ".intercalate ((r.categories.map strip).filter (· ≠ ""))))

/-- The columns of an update. -/
structure PendingUpdate where
  updateId : String
  kb : Option String
  title : String
  severity : Option String
  type : String
  categories : Option String
  isDownloaded : Bool
  sizeMb : Option Float64
deriving DecidableEq

def PendingUpdateReport.columns (r : PendingUpdateReport) : PendingUpdate where
  updateId := r.updateId
  kb := r.kb
  title := r.title
  severity := r.severity
  type := r.type
  categories := r.categoriesText
  isDownloaded := r.isDownloaded
  sizeMb := r.sizeMb

/-- A null list is an empty one. -/
structure WUStateReport where
  rebootRequired : Bool
  lastSearchTime : Option Time
  lastInstallTime : Option Time
  pending : Option (List PendingUpdateReport)

/-- The validators of `pending`: each entry is bounded, and the excess is dropped. -/
def WUStateReport.validated (lower : String → String) (wu : WUStateReport) : List PendingUpdateReport :=
  ((wu.pending.getD []).map (PendingUpdateReport.bound lower)).take maxPendingUpdates

/-! ### What a heartbeat writes -/

/-- The columns of a machine that the block sets. -/
structure Columns where
  wuRebootRequired : Option Bool := none
  wuLastSearch : Option Time := none
  wuLastInstall : Option Time := none
  wuPendingCount : Option ℕ := none
deriving DecidableEq

/-- `windows_updates`, with `uq_windows_updates_machine_update`. -/
abbrev Updates := Table PendingUpdate.updateId

structure Stored where
  machines : Uuid → Columns
  updates : Updates

theorem unique_none : (([] : List (Child PendingUpdate)).map (Child.identity PendingUpdate.updateId)).Nodup :=
  List.nodup_nil

def Stored.empty : Stored := ⟨fun _ => {}, ⟨[], unique_none⟩⟩

/-- `rows` of `replace_pending`: one for each report with an identifier, the last of each. -/
def pendingRows (machineId : Uuid) (now : Time) (reports : List PendingUpdateReport) : List (Child PendingUpdate) :=
  deduped PendingUpdate.updateId (· ≠ "") ((reports.map PendingUpdateReport.columns).map (stamped machineId now))

def replacePending (machineId : Uuid) (now : Time) (reports : List PendingUpdateReport) (t : Updates) : Updates × ℕ :=
  (replaceSet (· ≠ "") machineId ((reports.map PendingUpdateReport.columns).map (stamped machineId now)) t,
    (pendingRows machineId now reports).length)

/-- A heartbeat of a poste, with the instant it is handled and its block, if it has one. -/
structure Heartbeat where
  machineId : Uuid
  now : Time
  windowsUpdate : Option WUStateReport

def heartbeat (lower : String → String) (s : Stored) (h : Heartbeat) : Stored :=
  match h.windowsUpdate with
  | none => s
  | some wu =>
    let (updates, count) := replacePending h.machineId h.now (wu.validated lower) s.updates
    { machines := Function.update s.machines h.machineId
        ⟨some wu.rebootRequired, wu.lastSearchTime, wu.lastInstallTime, some count⟩
      updates := updates }

/-! ### What the blocks say -/

/-- A block that was received: when, and the updates it lists. -/
abbrev Block := Time × List PendingUpdate

/-- The blocks of a poste, in order. -/
def blocksOf (lower : String → String) (machineId : Uuid) (hs : List Heartbeat) : List Block :=
  (hs.filter (·.machineId = machineId)).filterMap fun h =>
    h.windowsUpdate.map fun wu => (h.now, (wu.validated lower).map PendingUpdateReport.columns)

/-- What a block says of an update: its last occurrence, and nothing of one that is not named. -/
def Block.entry (b : Block) (id : String) : Option PendingUpdate := lastReported PendingUpdate.updateId (· ≠ "") b.2 id

/-- The stretch of blocks, up to the last, that all list an update. -/
def stretch (blocks : List Block) (id : String) : List Block := blocks.rtakeWhile fun b => (b.entry id).isSome

/-- The row of an update: what the last block says of it, first seen at the start of the stretch. -/
def pendingRow (machineId : Uuid) (blocks : List Block) (id : String) : Option (Child PendingUpdate) := do
  let last ← blocks.getLast?
  let first ← (stretch blocks id).head?
  let data ← last.entry id
  return ⟨machineId, data, first.1, last.1⟩

variable {lower : String → String} {m : Uuid} {blocks : List Block} {id : String} {hs : List Heartbeat}
  {h : Heartbeat} {s : Stored}

/-- The stretch is empty when the last block does not list the update, and then there is no row. -/
lemma firstSeen_pendingRow : (pendingRow m blocks id).map Child.firstSeen = (stretch blocks id).head?.map Prod.fst := by
  induction blocks using List.reverseRecOn with
  | nil => rfl
  | append_singleton blocks b _ =>
    unfold pendingRow stretch
    rw [List.getLast?_concat]
    cases hentry : b.entry id with
    | none =>
      rw [List.rtakeWhile_concat_neg _ _ _ (by simp [hentry])]
      rfl
    | some d =>
      rw [List.rtakeWhile_concat_pos _ _ _ (by simp [hentry])]
      cases hfirst : (List.rtakeWhile (fun b => (Block.entry b id).isSome) blocks ++ [b]).head? with
      | none => simp at hfirst
      | some first => simp [hentry]

/-- One more block: the row is what it lists, since the row that was there or since now. -/
lemma pendingRow_concat (b : Block) : pendingRow m (blocks ++ [b]) id =
    (b.entry id).map fun d => ⟨m, d, ((pendingRow m blocks id).map Child.firstSeen).getD b.1, b.1⟩ := by
  rw [firstSeen_pendingRow, pendingRow, List.getLast?_concat]
  cases hentry : b.entry id with
  | none =>
    cases (stretch (blocks ++ [b]) id).head? <;> simp [hentry]
  | some d =>
    have hstretch : stretch (blocks ++ [b]) id = stretch blocks id ++ [b] :=
      List.rtakeWhile_concat_pos _ _ _ (by simp [hentry])
    rw [hstretch]
    cases hfirst : stretch blocks id with
    | nil => simp [hentry]
    | cons first rest => simp [hentry]

/-! ### A run -/

lemma blocksOf_concat : blocksOf lower m (hs ++ [h]) = blocksOf lower m hs ++ blocksOf lower m [h] := by
  rw [blocksOf, List.filter_append, List.filterMap_append, ← blocksOf, ← blocksOf]

lemma heartbeat_of_none (hnone : h.windowsUpdate = none) : heartbeat lower s h = s := by
  rw [heartbeat, hnone]

/-- The rows of one machine follow the blocks of that machine, and their count with them. -/
structure Follows (lower : String → String) (hs : List Heartbeat) (s : Stored) : Prop where
  row : ∀ m id, s.updates.get m id = pendingRow m (blocksOf lower m hs) id
  count : ∀ m, (s.machines m).wuPendingCount =
    if blocksOf lower m hs = [] then none else some (s.updates.rowsOf m).length

lemma follows_empty (lower : String → String) : Follows lower [] .empty := ⟨fun _ _ => rfl, fun _ => rfl⟩

/-- The block of a heartbeat. -/
def blockOf (lower : String → String) (h : Heartbeat) (wu : WUStateReport) : Block :=
  (h.now, (wu.validated lower).map PendingUpdateReport.columns)

lemma blocksOf_singleton (lower : String → String) (m : Uuid) (h : Heartbeat) : blocksOf lower m [h] =
    if h.machineId = m then (h.windowsUpdate.map (blockOf lower h)).toList else [] := by
  unfold blocksOf blockOf
  by_cases hm : h.machineId = m
  · cases hwu : h.windowsUpdate <;> simp [hm, hwu]
  · simp [hm]

lemma get_heartbeat {wu : WUStateReport} (hwu : h.windowsUpdate = some wu) (m : Uuid) (id : String) :
    (heartbeat lower s h).updates.get m id = replacedBy PendingUpdate.updateId (· ≠ "") h.machineId h.now
      (blockOf lower h wu).2 (s.updates.get m id) m id := by
  rw [heartbeat, hwu]
  exact get_replaceSet m id

lemma machines_heartbeat {wu : WUStateReport} (hwu : h.windowsUpdate = some wu) (m : Uuid) :
    (heartbeat lower s h).machines m = if m = h.machineId then ⟨some wu.rebootRequired, wu.lastSearchTime,
      wu.lastInstallTime, some (pendingRows h.machineId h.now (wu.validated lower)).length⟩ else s.machines m := by
  rw [heartbeat, hwu]
  exact Function.update_apply _ _ _ _

lemma length_rowsOf_heartbeat {wu : WUStateReport} (hwu : h.windowsUpdate = some wu) :
    ((heartbeat lower s h).updates.rowsOf h.machineId).length =
      (pendingRows h.machineId h.now (wu.validated lower)).length := by
  rw [heartbeat, hwu]
  exact length_rowsOf_replaceSet

lemma Follows.heartbeat (hf : Follows lower hs s) (h : Heartbeat) :
    Follows lower (hs ++ [h]) (WindowsUpdate.heartbeat lower s h) := by
  have hblocks : ∀ m, blocksOf lower m (hs ++ [h]) = blocksOf lower m hs ++
      if h.machineId = m then (h.windowsUpdate.map (blockOf lower h)).toList else [] := by
    intro m
    rw [blocksOf_concat, blocksOf_singleton]
  cases hwu : h.windowsUpdate with
  | none =>
    have hsame : ∀ m, blocksOf lower m (hs ++ [h]) = blocksOf lower m hs := by
      intro m
      rw [hblocks, hwu]
      split <;> exact List.append_nil _
    rw [heartbeat_of_none hwu]
    exact ⟨fun m id => by rw [hsame, hf.row], fun m => by rw [hsame, hf.count]⟩
  | some wu =>
    rw [hwu] at hblocks
    refine ⟨fun m id => ?_, fun m => ?_⟩
    · rw [hblocks, get_heartbeat hwu, replacedBy, hf.row]
      by_cases hm : m = h.machineId
      · rw [if_pos hm, if_pos hm.symm, hm]
        exact (pendingRow_concat (blockOf lower h wu)).symm
      · rw [if_neg hm, if_neg (Ne.symm hm), List.append_nil]
    · rw [hblocks, machines_heartbeat hwu]
      by_cases hm : m = h.machineId
      · rw [if_pos hm, if_pos hm.symm, hm, length_rowsOf_heartbeat hwu, if_neg (by simp)]
      · have hother : ∀ id, (WindowsUpdate.heartbeat lower s h).updates.get m id = s.updates.get m id := by
          intro id
          rw [get_heartbeat hwu, replacedBy, if_neg hm]
        rw [if_neg hm, if_neg (Ne.symm hm), List.append_nil, hf.count, length_rowsOf_congr hother]

lemma follows_run (lower : String → String) (hs : List Heartbeat) :
    Follows lower hs (run (heartbeat lower) .empty hs) := by
  induction hs using List.reverseRecOn with
  | nil => exact follows_empty lower
  | append_singleton hs h ih =>
    rw [run_append]
    exact ih.heartbeat h

/-- **A block replaces what was pending.**  After any run of heartbeats, of any postes: a poste has the rows that its
last block names, each as its last occurrence has it, first seen at the block that began the stretch of blocks that
all name it; the count is that of the rows, from the first block on; and a heartbeat without a block changes nothing. -/
theorem pending_replaced (lower : String → String) (hs : List Heartbeat) (m : Uuid) :
    (∀ id, (run (heartbeat lower) .empty hs).updates.get m id = pendingRow m (blocksOf lower m hs) id) ∧
      ((run (heartbeat lower) .empty hs).machines m).wuPendingCount = (if blocksOf lower m hs = [] then none
        else some ((run (heartbeat lower) .empty hs).updates.rowsOf m).length) ∧
      ∀ h : Heartbeat, h.windowsUpdate = none →
        run (heartbeat lower) .empty (hs ++ [h]) = run (heartbeat lower) .empty hs := by
  refine ⟨(follows_run lower hs).row m, (follows_run lower hs).count m, fun h hnone => ?_⟩
  rw [run_append]
  exact heartbeat_of_none hnone

end Tiai.WindowsUpdate
