import Mathlib
import Tiai.Usage.Model

/-!
# Turning heartbeats into seconds on

`features/usage/accounting.py`, and the lines of `heartbeat` (`api/routes/agent.py`) that call it: the
gap since the previous heartbeat is credited, split on the hours it spans, and the instant that ends
it is the one the next gap starts at.

* `creditForGap_spec` — what one gap is worth: nothing, or pieces of it that add up to its whole
  seconds;
* `usage_accounted` — over every sequence of heartbeats, the hours hold the sum of the pieces, and no
  hour has ever been full.

An instant has no other zone than UTC here; as floats, the instants of `timestamp()` are exact to the
microsecond for two centuries.
-/

namespace Tiai.Usage

open Lib

/-- `_HOUR`. -/
def hour : ℤ := 3600 * 1000000

/-- `hour_start`. -/
def hourStart (instant : ℤ) : ℤ := instant / hour * hour

/-- `math.floor(instant.timestamp())`. -/
def epochSeconds (instant : ℤ) : ℤ := instant / 1000000

/-- The loop of `credit_for_gap`, for as many turns as `fuel`. -/
def splitLoop : ℕ → ℤ → ℤ → List (ℤ × ℤ) → Option (List (ℤ × ℤ))
  | 0, _, _, _ => none
  | fuel + 1, start, stop, credits =>
    if start < stop then
      let hour_ := hourStart start
      let pieceEnd := min stop (hour_ + hour)
      let seconds := epochSeconds pieceEnd - epochSeconds start
      splitLoop fuel pieceEnd stop (if seconds > 0 then credits ++ [(hour_, seconds)] else credits)
    else some credits

/-- Turns enough for every hour a gap spans. -/
def turns (start stop : ℤ) : ℕ := ((stop - hourStart start) / hour + 1).toNat + 1

/-- `credit_for_gap`; no answer is a loop that does not end. -/
def creditForGap (previous now : ℤ) (offlineAfterSeconds : ℕ) : Option (List (ℤ × ℤ)) :=
  let gap := now - previous
  if gap ≤ 0 ∨ gap ≥ seconds offlineAfterSeconds then some []
  else splitLoop (turns previous now) previous now []

/-! ### One gap -/

/-- The pieces a stretch of time is cut into: each is the part of one whole hour that lies in it, in
whole seconds, and together they are the stretch. -/
structure Split (start stop : ℤ) (credits : List (ℤ × ℤ)) : Prop where
  aligned : ∀ c ∈ credits, c.1 % hour = 0
  inside : ∀ c ∈ credits, c.1 < stop ∧ start < c.1 + hour ∧
    c.2 = epochSeconds (min stop (c.1 + hour)) - epochSeconds (max start c.1)
  positive : ∀ c ∈ credits, 0 < c.2
  increasing : (credits.map Prod.fst).Pairwise (· < ·)
  total : (credits.map Prod.snd).sum = epochSeconds stop - epochSeconds start

lemma hourStart_spec (t : ℤ) : hourStart t % hour = 0 ∧ hourStart t ≤ t ∧ t < hourStart t + hour := by
  unfold hourStart hour
  omega

lemma Split.refl (t : ℤ) : Split t t [] where
  aligned := by intro c hc; cases hc
  inside := by intro c hc; cases hc
  positive := by intro c hc; cases hc
  increasing := List.Pairwise.nil
  total := by simp

/-- The last piece: the stretch ends in the hour it starts in. -/
lemma Split.last {start stop : ℤ} (hlt : start < stop) (hend : stop ≤ hourStart start + hour) :
    Split start stop (if epochSeconds stop - epochSeconds start > 0 then
      [(hourStart start, epochSeconds stop - epochSeconds start)] else []) := by
  obtain ⟨hmod, hle, hlt'⟩ := hourStart_spec start
  split
  · rename_i hpos
    refine ⟨fun c hc => ?_, fun c hc => ?_, fun c hc => ?_, by simp, by simp⟩
    · obtain rfl := List.mem_singleton.mp hc
      exact hmod
    · obtain rfl := List.mem_singleton.mp hc
      dsimp only
      rw [Int.min_eq_left hend, Int.max_eq_left hle]
      exact ⟨by omega, hlt', rfl⟩
    · obtain rfl := List.mem_singleton.mp hc
      exact hpos
  · rename_i hpos
    have hsame : epochSeconds stop - epochSeconds start = 0 := by
      unfold epochSeconds at hpos ⊢
      omega
    refine ⟨fun c hc => ?_, fun c hc => ?_, fun c hc => ?_, List.Pairwise.nil, by simp [hsame]⟩
    all_goals cases hc

/-- A piece up to the end of its hour, before those of the hours that follow. -/
lemma Split.cons {start stop : ℤ} {credits : List (ℤ × ℤ)} (hend : hourStart start + hour ≤ stop)
    (h : Split (hourStart start + hour) stop credits) :
    Split start stop ((if epochSeconds (hourStart start + hour) - epochSeconds start > 0 then
      [(hourStart start, epochSeconds (hourStart start + hour) - epochSeconds start)] else []) ++
        credits) := by
  obtain ⟨hmod, hle, hlt⟩ := hourStart_spec start
  generalize hs : hourStart start = first at *
  -- the other pieces are of later hours
  have hlater : ∀ c ∈ credits, first + hour ≤ c.1 := by
    intro c hc
    have h1 := h.aligned c hc
    have h2 := (h.inside c hc).2.1
    unfold hour at *
    omega
  have hpiece : ∀ c ∈ (if epochSeconds (first + hour) - epochSeconds start > 0 then
      [(first, epochSeconds (first + hour) - epochSeconds start)] else [] : List (ℤ × ℤ)),
      c = (first, epochSeconds (first + hour) - epochSeconds start) ∧ 0 < c.2 := by
    intro c hc
    split at hc
    · rename_i hpos
      obtain rfl := List.mem_singleton.mp hc
      exact ⟨rfl, hpos⟩
    · cases hc
  refine ⟨fun c hc => ?_, fun c hc => ?_, fun c hc => ?_, ?_, ?_⟩
  · rcases List.mem_append.mp hc with hc | hc
    · rw [(hpiece c hc).1]
      exact hmod
    · exact h.aligned c hc
  · rcases List.mem_append.mp hc with hc | hc
    · rw [(hpiece c hc).1]
      dsimp only
      rw [Int.min_eq_right hend, Int.max_eq_left hle]
      exact ⟨by unfold hour at hend; omega, hlt, rfl⟩
    · obtain ⟨h1, h2, h3⟩ := h.inside c hc
      have := hlater c hc
      rw [Int.max_eq_right this] at h3
      rw [Int.max_eq_right (by omega)]
      exact ⟨h1, by omega, h3⟩
  · rcases List.mem_append.mp hc with hc | hc
    · exact (hpiece c hc).2
    · exact h.positive c hc
  · rw [List.map_append, List.pairwise_append]
    refine ⟨?_, h.increasing, ?_⟩
    · split
      · simp
      · exact List.Pairwise.nil
    · intro a ha b hb
      obtain ⟨c, hc, rfl⟩ := List.mem_map.mp ha
      obtain ⟨d, hd, rfl⟩ := List.mem_map.mp hb
      have := hlater d hd
      rw [(hpiece c hc).1]
      change first < d.1
      unfold hour at this
      omega
  · rw [List.map_append, List.sum_append, h.total]
    split
    · simp only [List.map_cons, List.map_nil, List.sum_cons, List.sum_nil]
      omega
    · rename_i hpos
      have : epochSeconds (first + hour) - epochSeconds start = 0 := by
        unfold epochSeconds at hpos ⊢
        omega
      simp
      omega

lemma splitLoop_done (fuel : ℕ) {start stop : ℤ} (h : ¬start < stop) (credits : List (ℤ × ℤ)) :
    splitLoop (fuel + 1) start stop credits = some credits := if_neg h

lemma append_piece (credits : List (ℤ × ℤ)) (piece : ℤ × ℤ) :
    (if piece.2 > 0 then credits ++ [piece] else credits) =
      credits ++ if piece.2 > 0 then [piece] else [] := by
  split <;> simp

/-- The loop ends, one turn for each hour and one more, and what it appends is a splitting. -/
lemma splitLoop_spec (n : ℕ) {start stop : ℤ} (credits : List (ℤ × ℤ)) (hle : start ≤ stop)
    (hn : stop - hourStart start ≤ n * hour) :
    ∃ pieces, splitLoop (n + 1) start stop credits = some (credits ++ pieces) ∧
      Split start stop pieces := by
  induction n generalizing start credits with
  | zero =>
    have := (hourStart_spec start).2.1
    obtain rfl : start = stop := by omega
    exact ⟨[], by rw [splitLoop_done 0 (by omega), List.append_nil], Split.refl start⟩
  | succ n ih =>
    by_cases hlt : start < stop
    · have hturn : splitLoop (n + 1 + 1) start stop credits =
          splitLoop (n + 1) (min stop (hourStart start + hour)) stop (credits ++
            if epochSeconds (min stop (hourStart start + hour)) - epochSeconds start > 0 then
              [(hourStart start,
                epochSeconds (min stop (hourStart start + hour)) - epochSeconds start)] else []) := by
        rw [splitLoop, if_pos hlt]
        exact congrArg (splitLoop (n + 1) (min stop (hourStart start + hour)) stop) (append_piece credits (hourStart start,
          epochSeconds (min stop (hourStart start + hour)) - epochSeconds start))
      rw [hturn]
      by_cases hend : stop ≤ hourStart start + hour
      · -- the last hour
        rw [Int.min_eq_left hend, splitLoop_done n (by omega)]
        exact ⟨_, rfl, Split.last hlt hend⟩
      · have hend : hourStart start + hour ≤ stop := by omega
        have hnext : hourStart (hourStart start + hour) = hourStart start + hour := by
          have := (hourStart_spec start).1
          generalize hourStart start = first at *
          unfold hourStart hour at *
          omega
        rw [Int.min_eq_right hend]
        obtain ⟨pieces, hp, hsplit⟩ := ih (credits ++
          if epochSeconds (hourStart start + hour) - epochSeconds start > 0 then
            [(hourStart start, epochSeconds (hourStart start + hour) - epochSeconds start)]
          else []) hend (by
            rw [hnext]
            push_cast at hn
            rw [Int.add_mul] at hn
            omega)
        exact ⟨_, hp.trans (by rw [List.append_assoc]), Split.cons hend hsplit⟩
    · obtain rfl : start = stop := by omega
      exact ⟨[], by rw [splitLoop_done _ hlt, List.append_nil], Split.refl start⟩

/-- A gap that says that the poste stayed on. -/
def Creditable (offlineAfterSeconds : ℕ) (previous now : ℤ) : Prop :=
  0 < now - previous ∧ now - previous < seconds offlineAfterSeconds

instance (offlineAfterSeconds : ℕ) (previous now : ℤ) :
    Decidable (Creditable offlineAfterSeconds previous now) := by
  unfold Creditable; infer_instance

/-- What a gap is worth. -/
structure Credited (offlineAfterSeconds : ℕ) (previous now : ℤ) (credits : List (ℤ × ℤ)) : Prop where
  split : Creditable offlineAfterSeconds previous now → Split previous now credits
  nothing : ¬Creditable offlineAfterSeconds previous now → credits = []

theorem creditForGap_spec (previous now : ℤ) (offlineAfterSeconds : ℕ) :
    ∃ credits, creditForGap previous now offlineAfterSeconds = some credits ∧
      Credited offlineAfterSeconds previous now credits := by
  unfold creditForGap
  dsimp only
  by_cases hgap : now - previous ≤ 0 ∨ now - previous ≥ seconds offlineAfterSeconds
  · rw [if_pos hgap]
    refine ⟨[], rfl, fun hc => ?_, fun _ => rfl⟩
    obtain ⟨hpos, hlt⟩ := hc
    omega
  · rw [if_neg hgap]
    have hle : previous ≤ now := by omega
    have hcover : now - hourStart previous ≤
        (((now - hourStart previous) / hour + 1).toNat : ℕ) * hour := by
      have hstart := (hourStart_spec previous).2.1
      have h0 : 0 ≤ now - hourStart previous := by omega
      generalize now - hourStart previous = d at h0 ⊢
      have hq : 0 ≤ d / hour + 1 := by
        unfold hour
        omega
      rw [Int.toNat_of_nonneg hq]
      unfold hour
      omega
    obtain ⟨pieces, hp, hsplit⟩ := splitLoop_spec _ [] hle hcover
    refine ⟨pieces, hp, fun _ => hsplit, fun hc => absurd ?_ hc⟩
    exact ⟨by omega, by omega⟩

/-! ### Heartbeats -/

/-- What a heartbeat of the poste reads and writes of it. -/
structure Poste where
  lastSeen : ℤ
  uptime : Uptime

/-- The end of `heartbeat`: the gap is credited, and the same instant ends it. -/
def heartbeat (offlineAfterSeconds : ℕ) (id : Uuid) (s : Poste) (seenAt : ℤ) : Option Poste := do
  let credits ← creditForGap s.lastSeen seenAt offlineAfterSeconds
  let uptime ← record s.uptime id credits
  some ⟨seenAt, uptime⟩

/-- The gaps between successive heartbeats. -/
def gaps : ℤ → List ℤ → List (ℤ × ℤ)
  | _, [] => []
  | previous, now :: nows => (previous, now) :: gaps now nows

/-- What a gap credits to an hour. -/
def creditedTo (offlineAfterSeconds : ℕ) (h : ℤ) (gap : ℤ × ℤ) : ℤ :=
  match creditForGap gap.1 gap.2 offlineAfterSeconds with
  | none => 0
  | some credits => Store.amount credits h

/-- The whole seconds of a gap, if it credits any. -/
def wholeSeconds (offlineAfterSeconds : ℕ) (gap : ℤ × ℤ) : ℤ :=
  if Creditable offlineAfterSeconds gap.1 gap.2 then epochSeconds gap.2 - epochSeconds gap.1 else 0

/-- What the table `t'` has become of `t` after these gaps of the poste: no hour holds more than an hour,
and holds all that was credited to it, the cap having cut nothing off; and all hours together hold the
whole seconds of the gaps. -/
structure Accounted (offlineAfterSeconds : ℕ) (id : Uuid) (t : Uptime) (gaps : List (ℤ × ℤ))
    (t' : Uptime) : Prop where
  full : ∀ h, t'.amount (id, h) ≤ secondsPerHour
  uncapped : ∀ h, t'.amount (id, h) = t.amount (id, h) +
    (gaps.map (creditedTo offlineAfterSeconds h)).sum
  total : t'.sumOver (fun key => key.1 = id) = t.sumOver (fun key => key.1 = id) +
    (gaps.map (wholeSeconds offlineAfterSeconds)).sum
  others : ∀ m h, m ≠ id → t'.get (m, h) = t.get (m, h)

/-- The seconds of an hour that have passed at an instant. -/
def elapsed (h t : ℤ) : ℤ := epochSeconds (max h (min t (h + hour))) - epochSeconds h

lemma elapsed_le {h : ℤ} (hmod : h % hour = 0) (t : ℤ) : elapsed h t ≤ secondsPerHour := by
  unfold elapsed epochSeconds secondsPerHour hour at *
  omega

lemma elapsed_mono (h : ℤ) {t t' : ℤ} (hle : t ≤ t') : elapsed h t ≤ elapsed h t' := by
  unfold elapsed epochSeconds
  omega

/-- A piece of an hour takes what has passed of it from its start to its end. -/
lemma elapsed_piece {h start stop : ℤ} (h1 : h < stop) (h2 : start < h + hour) :
    elapsed h stop = elapsed h start +
      (epochSeconds (min stop (h + hour)) - epochSeconds (max start h)) := by
  have hmax : max h (min stop (h + hour)) = min stop (h + hour) := by
    unfold hour at *
    omega
  have hmin : max h (min start (h + hour)) = max start h := by
    unfold hour at *
    omega
  unfold elapsed
  rw [hmax, hmin]
  omega

/-- The rows of a poste's credits, as a statement proposes them. -/
def proposed (id : Uuid) (credits : List (ℤ × ℤ)) : Store (Uuid × Time) ℤ :=
  credits.map fun credit => ((id, credit.1), credit.2)

lemma record_eq (t : Uptime) (id : Uuid) (credits : List (ℤ × ℤ)) :
    record t id credits = upsertAdding t (proposed id credits) := by
  cases credits with
  | nil => exact (if_pos ⟨List.nodup_nil, fun row hrow => by cases hrow⟩).symm
  | cons credit credits => rfl

lemma keys_proposed (id : Uuid) (credits : List (ℤ × ℤ)) :
    (proposed id credits).keys = (credits.map Prod.fst).map fun h => (id, h) := by
  simp [Store.keys, proposed]

lemma amount_proposed (id : Uuid) (credits : List (ℤ × ℤ)) (h : ℤ) :
    (proposed id credits).amount (id, h) = Store.amount credits h := by
  unfold Store.amount Store.get proposed
  rw [List.find?_map, Option.map_map]
  simp [Function.comp_def]

lemma sumOver_proposed (id : Uuid) (credits : List (ℤ × ℤ)) :
    (proposed id credits).sumOver (fun key => key.1 = id) = (credits.map Prod.snd).sum := by
  induction credits with
  | nil => rfl
  | cons credit credits ih =>
    have : proposed id (credit :: credits) = ((id, credit.1), credit.2) :: proposed id credits := rfl
    rw [this, Store.sumOver_cons, ih]
    simp

/-- Where a splitting has no piece of an hour, that hour gets nothing. -/
lemma amount_of_not_mem {credits : List (ℤ × ℤ)} {h : ℤ} (hh : h ∉ credits.map Prod.fst) :
    Store.amount credits h = 0 := by
  unfold Store.amount
  rw [Store.get_eq_none.mpr hh]
  rfl

lemma elapsed_nonneg (h t : ℤ) : 0 ≤ elapsed h t := by
  unfold elapsed epochSeconds
  omega

/-- An hour holds at most what has passed of it at the last heartbeat. -/
structure Sound (id : Uuid) (s : Poste) : Prop where
  wf : Wf s.uptime
  bound : ∀ h, h % hour = 0 → s.uptime.amount (id, h) ≤ elapsed h s.lastSeen

/-- A piece fits in what is left of its hour. -/
lemma Sound.piece {id : Uuid} {s : Poste} (hs : Sound id s) {now : ℤ} {credits : List (ℤ × ℤ)}
    (hsplit : Split s.lastSeen now credits) {c : ℤ × ℤ} (hc : c ∈ credits) :
    s.uptime.amount (id, c.1) + c.2 ≤ elapsed c.1 now ∧ InHour c.2 := by
  have hmod := hsplit.aligned c hc
  obtain ⟨h1, h2, h3⟩ := hsplit.inside c hc
  have hpiece := elapsed_piece h1 h2
  have hbound := hs.bound c.1 hmod
  have hpos := hsplit.positive c hc
  have hstart := elapsed_nonneg c.1 s.lastSeen
  have hfull := elapsed_le hmod now
  rw [← h3] at hpiece
  exact ⟨by omega, by omega, by omega⟩

lemma Split.nodup {start stop : ℤ} {credits : List (ℤ × ℤ)} (h : Split start stop credits)
    (id : Uuid) : (proposed id credits).keys.Nodup := by
  rw [keys_proposed]
  refine List.Pairwise.map _ (fun a b hab heq => ?_) h.increasing
  obtain ⟨-, rfl⟩ : True ∧ a = b := by simpa using heq
  omega

lemma mem_proposed {id : Uuid} {credits : List (ℤ × ℤ)} {row : (Uuid × Time) × ℤ}
    (h : row ∈ proposed id credits) : ∃ c ∈ credits, row = ((id, c.1), c.2) := by
  obtain ⟨c, hc, rfl⟩ := List.mem_map.mp h
  exact ⟨c, hc, rfl⟩

section Run

variable {offlineAfterSeconds : ℕ} {id : Uuid} {s : Poste}

lemma Accounted.refl (t : Uptime) (hfull : ∀ h, t.amount (id, h) ≤ secondsPerHour) :
    Accounted offlineAfterSeconds id t [] t :=
  ⟨hfull, by simp, by simp, fun _ _ _ => rfl⟩

lemma Accounted.trans {t t' t'' : Uptime} {gs gs' : List (ℤ × ℤ)}
    (h : Accounted offlineAfterSeconds id t gs t')
    (h' : Accounted offlineAfterSeconds id t' gs' t'') :
    Accounted offlineAfterSeconds id t (gs ++ gs') t'' where
  full := h'.full
  uncapped := by
    intro hr
    rw [h'.uncapped hr, h.uncapped hr, List.map_append, List.sum_append, Int.add_assoc]
  total := by rw [h'.total, h.total, List.map_append, List.sum_append, Int.add_assoc]
  others := fun m hr hm => (h'.others m hr hm).trans (h.others m hr hm)

lemma Split.amount_of_mem {start stop : ℤ} {credits : List (ℤ × ℤ)} (h : Split start stop credits) {c : ℤ × ℤ}
    (hc : c ∈ credits) : Store.amount credits c.1 = c.2 := by
  have hkeys : (Store.keys credits).Nodup := by
    refine h.increasing.imp fun {a b} hab heq => ?_
    omega
  exact Store.amount_of_mem hkeys hc

/-- **The cap cuts nothing off** the pieces of a gap: they are recorded as they are. -/
theorem Sound.record {now : ℤ} {credits : List (ℤ × ℤ)} (hs : Sound id s)
    (hsplit : Split s.lastSeen now credits) : ∃ t', record s.uptime id credits = some t' ∧ Wf t' ∧
      (∀ h, t'.amount (id, h) = s.uptime.amount (id, h) + Store.amount credits h) ∧
      t'.sumOver (fun key => key.1 = id) =
        s.uptime.sumOver (fun key => key.1 = id) + (credits.map Prod.snd).sum ∧
      ∀ m h, m ≠ id → t'.get (m, h) = s.uptime.get (m, h) := by
  have hin : ∀ row ∈ proposed id credits, InHour row.2 := by
    intro row hrow
    obtain ⟨c, hmem, rfl⟩ := mem_proposed hrow
    exact (hs.piece hsplit hmem).2
  have hroom : ∀ row ∈ proposed id credits, s.uptime.amount row.1 + row.2 ≤ secondsPerHour := by
    intro row hrow
    obtain ⟨c, hmem, rfl⟩ := mem_proposed hrow
    have := (hs.piece hsplit hmem).1
    have := elapsed_le (hsplit.aligned c hmem) now
    change s.uptime.amount (id, c.1) + c.2 ≤ secondsPerHour
    omega
  obtain ⟨t', ht', hwf, hget, hsum⟩ := upsertAdding_eq hs.wf (hsplit.nodup id) hin
  refine ⟨t', (record_eq s.uptime id credits).trans ht', hwf, ?_, ?_, ?_⟩
  · intro h
    have hg := hget (id, h)
    by_cases hk : (id, h) ∈ (proposed id credits).keys
    · rw [if_pos hk, amount_proposed] at hg
      obtain ⟨row, hrow, hkey⟩ := List.mem_map.mp hk
      have hr := hroom row hrow
      have hvalue : Store.amount credits h = row.2 := by
        rw [← amount_proposed id credits h, ← hkey]
        exact Store.amount_of_mem (hsplit.nodup id) hrow
      have hcapped : t'.amount (id, h) =
          min secondsPerHour (s.uptime.amount (id, h) + Store.amount credits h) := by
        rw [Store.amount, hg]
        rfl
      rw [hcapped, Int.min_eq_right]
      rw [hvalue, ← hkey]
      exact hr
    · rw [if_neg hk] at hg
      have hnot : h ∉ credits.map Prod.fst := by
        intro hmem
        rw [keys_proposed] at hk
        exact hk (List.mem_map_of_mem hmem)
      rw [amount_of_not_mem hnot, Int.add_zero]
      unfold Store.amount
      rw [hg]
  · rw [hsum _ hroom, sumOver_proposed]
  · intro m h hm
    have hk : (m, h) ∉ (proposed id credits).keys := by
      rw [keys_proposed]
      intro hmem
      obtain ⟨x, -, hx⟩ := List.mem_map.mp hmem
      exact hm (congrArg Prod.fst hx).symm
    exact (hget (m, h)).trans (if_neg hk)

/-- **One heartbeat.**  Its gap is credited without the cap cutting anything off. -/
theorem heartbeat_spec (offlineAfterSeconds : ℕ) (hs : Sound id s) {now : ℤ} (hle : s.lastSeen ≤ now) :
    ∃ s', heartbeat offlineAfterSeconds id s now = some s' ∧ s'.lastSeen = now ∧ Sound id s' ∧
      Accounted offlineAfterSeconds id s.uptime [(s.lastSeen, now)] s'.uptime := by
  obtain ⟨credits, hcredit, hspec⟩ := creditForGap_spec s.lastSeen now offlineAfterSeconds
  have hto : ∀ h, creditedTo offlineAfterSeconds h (s.lastSeen, now) = Store.amount credits h := by
    intro h
    unfold creditedTo
    rw [hcredit]
  by_cases hc : Creditable offlineAfterSeconds s.lastSeen now
  · have hsplit := hspec.split hc
    obtain ⟨t', hrecord, hwf, hamount, hsum, hothers⟩ := hs.record hsplit
    refine ⟨⟨now, t'⟩, ?_, rfl, ⟨hwf, ?_⟩, ?_, ?_, ?_, hothers⟩
    · simp only [heartbeat, hcredit, hrecord, Option.bind_eq_bind, Option.bind_some]
    · intro h hmod
      rw [hamount h]
      by_cases hmem : h ∈ credits.map Prod.fst
      · obtain ⟨c, hcm, rfl⟩ := List.mem_map.mp hmem
        rw [hsplit.amount_of_mem hcm]
        exact (hs.piece hsplit hcm).1
      · rw [amount_of_not_mem hmem]
        have := hs.bound h hmod
        have := elapsed_mono h hle
        change _ ≤ elapsed h now
        omega
    · intro h
      exact (hwf.amount (id, h)).2
    · intro h
      rw [hamount h, List.map_singleton, List.sum_singleton, hto h]
    · have hw : wholeSeconds offlineAfterSeconds (s.lastSeen, now) = (credits.map Prod.snd).sum := by
        unfold wholeSeconds
        rw [if_pos hc, hsplit.total]
      rw [hsum, List.map_singleton, List.sum_singleton, hw]
  · obtain rfl := hspec.nothing hc
    refine ⟨⟨now, s.uptime⟩, ?_, rfl, ⟨hs.wf, fun h hmod => ?_⟩, ?_, ?_, ?_, fun _ _ _ => rfl⟩
    · simp only [heartbeat, hcredit, record, List.map_nil, Option.bind_eq_bind, Option.bind_some]
    · exact Int.le_trans (hs.bound h hmod) (elapsed_mono h hle)
    · intro h
      exact (hs.wf.amount (id, h)).2
    · intro h
      rw [List.map_singleton, List.sum_singleton, hto h]
      exact (Int.add_zero _).symm
    · have hw : wholeSeconds offlineAfterSeconds (s.lastSeen, now) = 0 := if_neg hc
      rw [List.map_singleton, List.sum_singleton, hw, Int.add_zero]

/-- Heartbeat after heartbeat. -/
lemma heartbeats_spec {nows : List ℤ} (hs : Sound id s)
    (hsorted : (s.lastSeen :: nows).Pairwise (· ≤ ·)) :
    ∃ s', nows.foldlM (heartbeat offlineAfterSeconds id) s = some s' ∧
      Accounted offlineAfterSeconds id s.uptime (gaps s.lastSeen nows) s'.uptime := by
  induction nows generalizing s with
  | nil => exact ⟨s, rfl, Accounted.refl s.uptime fun h => (hs.wf.amount (id, h)).2⟩
  | cons now nows ih =>
    obtain ⟨hfirst, hrest⟩ := List.pairwise_cons.mp hsorted
    obtain ⟨s', hbeat, hlast, hs', hacc⟩ :=
      heartbeat_spec offlineAfterSeconds hs (hfirst now List.mem_cons_self)
    obtain ⟨s'', hrun, hacc'⟩ := ih hs' (by rw [hlast]; exact hrest)
    rw [hlast] at hacc'
    refine ⟨s'', ?_, hacc.trans hacc'⟩
    rw [List.foldlM_cons, hbeat]
    exact hrun

end Run

/-- **Usage accounting.**  For every gap, the loop ends and the gap is worth its pieces, or nothing; and
over every sequence of heartbeats of a poste at instants that never go back, from its first row on, the
database accepts every credit and holds exactly what was credited. -/
theorem usage_accounted (offlineAfterSeconds : ℕ) (id : Uuid) (t : Uptime) (first : ℤ)
    (nows : List ℤ) (hwf : Wf t) (hnew : ∀ row ∈ t, row.1.1 ≠ id)
    (hsorted : (first :: nows).Pairwise (· ≤ ·)) :
    (∀ previous now, ∃ credits, creditForGap previous now offlineAfterSeconds = some credits ∧
      Credited offlineAfterSeconds previous now credits) ∧
    ∃ s, nows.foldlM (heartbeat offlineAfterSeconds id) ⟨first, t⟩ = some s ∧
      Accounted offlineAfterSeconds id t (gaps first nows) s.uptime ∧
      t.sumOver (fun key => key.1 = id) = 0 ∧ ∀ h, t.amount (id, h) = 0 := by
  have hzero : ∀ h, t.amount (id, h) = 0 := by
    intro h
    unfold Store.amount
    rw [Store.get_eq_none.mpr]
    · rfl
    · intro hk
      obtain ⟨row, hrow, hkey⟩ := List.mem_map.mp hk
      exact hnew row hrow (congrArg Prod.fst hkey)
  have hs : Sound id ⟨first, t⟩ := by
    refine ⟨hwf, fun h _ => ?_⟩
    have := elapsed_nonneg h first
    rw [hzero h]
    exact this
  obtain ⟨s, hrun, hacc⟩ := heartbeats_spec hs hsorted
  refine ⟨fun previous now => creditForGap_spec previous now offlineAfterSeconds, s, hrun, hacc, ?_,
    hzero⟩
  exact Store.sumOver_eq_zero fun row hrow => by simpa using hnew row hrow

lemma Wf.nil : Wf [] := ⟨List.nodup_nil, fun row hrow => by cases hrow⟩

/-- Two gaps of a minute over the turn of an hour, then a hole. -/
theorem usage_accounted_turn :
    let nows : List ℤ := [3630800000, 3691100000, 8000000000]
    (∃ s, nows.foldlM (heartbeat 180 7) ⟨3570500000, []⟩ = some s ∧ s.uptime.amount (7, 0) = 30 ∧
      s.uptime.amount (7, 3600000000) = 91) ∧
    ∃ s, nows.foldlM (heartbeat 180 7) ⟨3570500000, []⟩ = some s ∧
      Accounted 180 7 [] (gaps 3570500000 nows) s.uptime := by
  intro nows
  obtain ⟨-, s, hrun, hacc, -, -⟩ := usage_accounted 180 7 [] 3570500000 nows Wf.nil
    (fun row hrow => by cases hrow) (by decide)
  exact ⟨⟨_, rfl, by decide, by decide⟩, s, hrun, hacc⟩

end Tiai.Usage
