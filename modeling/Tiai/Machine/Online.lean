import Tiai.Lib.Sql
import Tiai.Usage.Accounting

/-!
# Which postes are on

One threshold on `last_seen` is read in four places: `is_online` and `online_clause` (`features/machine/status.py`),
the count of the digest (`features/notification/digest.py`), and the test of `credit_for_gap`
(`features/usage/accounting.py`).  The column is not nullable.

* `isOnline`, `onlineClause`, `digestOnline`, `creditable` — the four;
* `creditForGap_eq` — the last is the test of the accounting;
* `online_agree` — where they agree.

`total_seconds()` is exact to the microsecond for gaps of two centuries.
-/

namespace Tiai.Online

open Lib Sql

/-! ### The four tests -/

/-- `timedelta(seconds=n)`, of a threshold as it is set. -/
def threshold (offlineAfterSeconds : ℤ) : ℤ := offlineAfterSeconds * 1000000

def isOnline (lastSeen now offlineAfterSeconds : ℤ) : Bool := now - lastSeen < threshold offlineAfterSeconds

def onlineClause (online : Bool) (now offlineAfterSeconds : ℤ) (lastSeen : ℤ) : Truth :=
  let cutoff := now - threshold offlineAfterSeconds
  if online then compare (fun x y => x ≥ y) (some lastSeen) (some cutoff)
  else compare (fun x y => x < y) (some lastSeen) (some cutoff)

/-- The clause of `online` in `build_digest`. -/
def digestClause (now offlineAfterSeconds : ℤ) (lastSeen : ℤ) : Truth :=
  let onlineSince := now - threshold offlineAfterSeconds
  compare (fun x y => x > y) (some lastSeen) (some onlineSince)

/-- `total` and `online` of `build_digest`, on the postes of its scope by their `last_seen`. -/
def digestCounts (now offlineAfterSeconds : ℤ) (fleet : List ℤ) : ℕ × ℕ :=
  (fleet.length, (select (digestClause now offlineAfterSeconds) fleet).length)

/-- The test of `credit_for_gap`. -/
def creditable (previous now offlineAfterSeconds : ℤ) : Bool :=
  let gap := now - previous
  !(gap ≤ 0 || gap ≥ threshold offlineAfterSeconds)

/-! ### Where they agree -/

variable {lastSeen now offlineAfterSeconds : ℤ}

/-- A gap is credited exactly when it passes the test. -/
lemma creditForGap_eq (previous now : ℤ) (offlineAfterSeconds : ℕ) :
    Usage.creditForGap previous now offlineAfterSeconds =
      if creditable previous now offlineAfterSeconds then
        Usage.splitLoop (Usage.turns previous now) previous now [] else some [] := by
  have hguard : creditable previous now offlineAfterSeconds = true ↔
      ¬ (now - previous ≤ 0 ∨ now - previous ≥ seconds offlineAfterSeconds) := by
    simp [creditable, threshold, seconds]
  unfold Usage.creditForGap
  dsimp only
  split
  · rename_i h
    rw [if_neg (fun hc => hguard.1 hc h)]
  · rename_i h
    rw [if_pos (hguard.2 h)]

lemma digestClause_eq_true :
    digestClause now offlineAfterSeconds lastSeen = some true ↔ isOnline lastSeen now offlineAfterSeconds = true := by
  simp only [digestClause, isOnline, Sql.compare, Option.bind_eq_bind, Option.bind_some, Option.pure_def,
    Option.some_inj, decide_eq_true_eq]
  omega

lemma creditable_eq_true : creditable lastSeen now offlineAfterSeconds = true ↔
    isOnline lastSeen now offlineAfterSeconds = true ∧ lastSeen < now := by
  simp only [creditable, isOnline, Bool.not_eq_true', Bool.or_eq_false_iff, decide_eq_false_iff_not,
    decide_eq_true_eq]
  omega

lemma onlineClause_eq_true (online : Bool) (h : now - lastSeen ≠ threshold offlineAfterSeconds) :
    onlineClause online now offlineAfterSeconds lastSeen = some true ↔
      isOnline lastSeen now offlineAfterSeconds = online := by
  cases online
  · simp only [onlineClause, isOnline, Sql.compare, Option.bind_eq_bind, Option.bind_some, Option.pure_def,
      Option.some_inj, decide_eq_true_eq, decide_eq_false_iff_not, Bool.false_eq_true, if_false]
    omega
  · simp only [onlineClause, isOnline, Sql.compare, Option.bind_eq_bind, Option.bind_some, Option.pure_def,
      Option.some_inj, decide_eq_true_eq, if_true]
    omega

/-- What the digest does not count as online is what is not. -/
lemma digest_offline (now offlineAfterSeconds : ℤ) (fleet : List ℤ) :
    (digestCounts now offlineAfterSeconds fleet).1 - (digestCounts now offlineAfterSeconds fleet).2 =
      (fleet.filter fun m => !isOnline m now offlineAfterSeconds).length := by
  have honline : select (digestClause now offlineAfterSeconds) fleet =
      fleet.filter fun m => isOnline m now offlineAfterSeconds := by
    refine List.filter_congr fun m _ => Bool.eq_iff_iff.2 ?_
    rw [decide_eq_true_eq]
    exact digestClause_eq_true
  rw [digestCounts, honline, List.length_eq_length_filter_add fun m => isOnline m now offlineAfterSeconds,
    Nat.add_sub_cancel_left]

/-- **One window, and what each reader makes of it.**  The digest counts exactly the postes that are online; a gap is
credited exactly when the poste is online and time has gone by; and the filter of the list shows those that are
online, or those that are not, unless the last heartbeat is as old as the threshold to the microsecond. -/
theorem online_agree (now offlineAfterSeconds : ℤ) :
    (∀ lastSeen, (digestClause now offlineAfterSeconds lastSeen = some true ↔
        isOnline lastSeen now offlineAfterSeconds = true) ∧
      (creditable lastSeen now offlineAfterSeconds = true ↔
        isOnline lastSeen now offlineAfterSeconds = true ∧ lastSeen < now) ∧
      (now - lastSeen ≠ threshold offlineAfterSeconds → ∀ online,
        (onlineClause online now offlineAfterSeconds lastSeen = some true ↔
          isOnline lastSeen now offlineAfterSeconds = online))) ∧
      ∀ fleet, (digestCounts now offlineAfterSeconds fleet).1 - (digestCounts now offlineAfterSeconds fleet).2 =
        (fleet.filter fun m => !isOnline m now offlineAfterSeconds).length :=
  ⟨fun _ => ⟨digestClause_eq_true, creditable_eq_true, fun h online => onlineClause_eq_true online h⟩,
    digest_offline now offlineAfterSeconds⟩

/-- A heartbeat that has just come: the poste is online, and nothing is credited. -/
theorem online_not_credited : isOnline 0 0 180 = true ∧ onlineClause true 0 180 0 = some true ∧
    digestClause 0 180 0 = some true ∧ creditable 0 0 180 = false ∧
    -- one that is as old as the threshold: only the filter of the list has it online
    isOnline 0 180000000 180 = false ∧ onlineClause true 180000000 180 0 = some true ∧
    digestClause 180000000 180 0 = some false ∧ creditable 0 180000000 180 = false := by
  decide

end Tiai.Online
