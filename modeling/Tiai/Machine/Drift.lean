import Tiai.Lib.Detector
import Tiai.Machine.Heartbeat
import Tiai.Machine.Enroll

/-!
# Hardware drift, over the life of a row

A row meets heartbeats, re-enrollments and merges.  `is_suspicious_change` compares each report with
what the row stores, and `store_fingerprint` then stores the report: the row is a detector in the
sense of `Lib/Detector.lean`, once for the SMBIOS identity and once for the TPM key — except that a
value which is *not* an anchor (`""`, a firmware placeholder) also replaces the stored one.  A
heartbeat that carries such a value makes the row forget, silently; `KeepsAnchors` says when a step
does not, and under it no drift is missed.
-/

namespace Tiai.Drift

open Lib

/-- What happens to a row, with everything its handler takes from outside. -/
inductive Visit
  | heartbeat (payload : HeartbeatRequest) (now : Time) (token : Token)
  | reenroll (payload : EnrollRequest) (shared : Bool) (now : Time) (token : Token)
  | merge (source : Machine) (now : Time)

variable (srv : Server)

def step (m : Machine) : Visit → Machine
  | .heartbeat payload now token => (m.heartbeat srv payload now token).1
  | .reenroll payload shared now token => m.reenrolled srv payload.validate shared now token
  | .merge source now => m.absorb source now

/-- The fingerprint a visit reports, as its validators let it through. -/
def Visit.fingerprint : Visit → Fingerprint
  | .heartbeat payload _ _ => payload.validate.fingerprint.getD .empty
  | .reenroll payload _ _ _ => payload.validate.fingerprint.getD .empty
  | .merge _ _ => .empty

def Visit.isMerge : Visit → Bool
  | .merge _ _ => true
  | _ => false

/-- The SMBIOS identity a visit reports, when it reports one. -/
def Visit.smbios (e : Visit) : Option String := trustworthySmbiosUuid srv e.fingerprint.smbiosUuid

/-- The TPM key hash a visit reports, when it reports one. -/
def Visit.tpm (e : Visit) : Option String := presentTpmEkHash e.fingerprint.tpmEkHash

/-- Two visits report different anchors of one kind. -/
def Differ (e₁ e₂ : Visit) : Prop :=
  (∃ a b, e₁.smbios srv = some a ∧ e₂.smbios srv = some b ∧ a ≠ b) ∨
    ∃ a b, e₁.tpm = some a ∧ e₂.tpm = some b ∧ a ≠ b

/-- **The condition.**  The visit does not replace a stored anchor by a value that is none — a
re-enrollment may do so with the SMBIOS identity, which it then flags — unless the row is flagged
already. -/
def KeepsAnchors (m : Machine) (e : Visit) : Prop :=
  m.needsVerification = true ∨
    ((match e with
      | .heartbeat _ _ _ => (trustworthySmbiosUuid srv m.smbiosUuid).isSome →
          e.fingerprint.smbiosUuid.isSome → (e.smbios srv).isSome
      | _ => True) ∧
    ((presentTpmEkHash m.tpmEkHash).isSome → e.fingerprint.tpmEkHash.isSome → e.tpm.isSome))

/-! ### What one visit does to the fingerprint -/

section Step

variable {srv} {m : Machine} {e : Visit}

lemma reportFingerprint_getD (fp : Option Fingerprint) :
    m.reportFingerprint srv fp = m.reportFingerprint srv (some (fp.getD .empty)) := by
  cases fp with
  | some fp => rfl
  | none =>
    have : isSuspiciousChange srv m none none = false := by
      unfold isSuspiciousChange trustworthySmbiosUuid presentTpmEkHash bothAndDiffer
      cases m.smbiosUuid <;> cases m.tpmEkHash <;> grind
    simp [Machine.reportFingerprint, Fingerprint.empty, this, storeFingerprint]

/-- A visit that is no merge stores what it reports, and flags what it finds suspicious. -/
theorem step_fingerprint (srv : Server) (m : Machine) (h : e.isMerge = false) :
    (step srv m e).smbiosUuid = e.fingerprint.smbiosUuid.or m.smbiosUuid ∧
    (step srv m e).tpmEkHash = e.fingerprint.tpmEkHash.or m.tpmEkHash ∧
    (m.needsVerification = true → (step srv m e).needsVerification = true) ∧
    (isSuspiciousChange srv m e.fingerprint.smbiosUuid e.fingerprint.tpmEkHash = true →
      (step srv m e).needsVerification = true) := by
  cases e with
  | merge source now => cases h
  | reenroll p shared now token =>
    simp only [step, Visit.fingerprint, Machine.reenrolled, Machine.enrolled, resetRotation,
      storeFingerprint, suspiciousReenrollment]
    refine ⟨trivial, trivial, fun hf => ?_, fun hs => ?_⟩
    · simp [hf]
    · simp [hs]
  | heartbeat p now token =>
    obtain ⟨h, hrow⟩ := heartbeat_row srv m p now token
    rw [show step srv m (.heartbeat p now token) = { m.report srv p now with pendingTokenHash := h }
      from hrow]
    simp only [Visit.fingerprint, Machine.report]
    rw [reportFingerprint_getD]
    generalize p.validate.fingerprint.getD .empty = fp
    have attrs : isSuspiciousChange srv (m.reportAttributes p.validate) fp.smbiosUuid fp.tpmEkHash =
        isSuspiciousChange srv m fp.smbiosUuid fp.tpmEkHash := rfl
    simp only [Machine.reportFingerprint, attrs, storeFingerprint]
    split
    · rename_i hs
      simp [Machine.reportAttributes]
    · rename_i hs
      exact ⟨rfl, rfl, id, fun h => absurd h hs⟩

/-- A re-enrollment that no longer reports the stored SMBIOS identity is flagged. -/
lemma reenroll_missing {p : EnrollRequest} {shared : Bool} {now : Time} {token : Token}
    (hm : (trustworthySmbiosUuid srv m.smbiosUuid).isSome = true)
    (he : (Visit.reenroll p shared now token).smbios srv = none) :
    (step srv m (.reenroll p shared now token)).needsVerification = true := by
  have he : trustworthySmbiosUuid srv (p.validate.fingerprint.getD .empty).smbiosUuid = none := he
  simp [step, Machine.reenrolled, Machine.enrolled, resetRotation, suspiciousReenrollment, hm, he]

lemma bothAndDiffer_of_ne {α : Type} [DecidableEq α] {a b : α} (h : a ≠ b) :
    bothAndDiffer (some a) (some b) = true := by
  simpa [bothAndDiffer] using h

lemma smbios_suspicious {a b : String} (hm : trustworthySmbiosUuid srv m.smbiosUuid = some a)
    (he : e.smbios srv = some b) (hab : a ≠ b) :
    isSuspiciousChange srv m e.fingerprint.smbiosUuid e.fingerprint.tpmEkHash = true := by
  unfold isSuspiciousChange
  rw [hm, show trustworthySmbiosUuid srv e.fingerprint.smbiosUuid = some b from he,
    bothAndDiffer_of_ne hab, Bool.true_or]

lemma tpm_suspicious {a b : String} (hm : presentTpmEkHash m.tpmEkHash = some a)
    (he : e.tpm = some b) (hab : a ≠ b) :
    isSuspiciousChange srv m e.fingerprint.smbiosUuid e.fingerprint.tpmEkHash = true := by
  unfold isSuspiciousChange
  rw [hm, show presentTpmEkHash e.fingerprint.tpmEkHash = some b from he,
    bothAndDiffer_of_ne hab, Bool.or_true]

end Step

/-! ### The row as a detector -/

/-- The guard of the two detectors: no merge, and the condition above. -/
def Guard (m : Machine) (e : Visit) : Prop := e.isMerge = false ∧ KeepsAnchors srv m e

def Flagged (m : Machine) : Prop := m.needsVerification = true

theorem smbios_detector : Detector (step srv) (Guard srv)
    (fun m => trustworthySmbiosUuid srv m.smbiosUuid) Flagged (Visit.smbios srv) where
  sticky m e hG hf := (step_fingerprint srv m hG.1).2.2.1 hf
  detect m e a b hG hm he hab := (step_fingerprint srv m hG.1).2.2.2 (smbios_suspicious hm he hab)
  keep m e a hG ha := by
    obtain ⟨hmerge, hkeep⟩ := hG
    obtain ⟨hs, -, hsticky, -⟩ := step_fingerprint srv m hmerge
    cases hr : e.smbios srv with
    | some b =>
      -- the report is an anchor: it is what the row stores from now on
      right
      have hb : trustworthySmbiosUuid srv e.fingerprint.smbiosUuid = some b := hr
      cases hv : e.fingerprint.smbiosUuid with
      | none => rw [hv] at hb; cases hb
      | some v => rw [hs, hv, Option.some_or, ← hv, hb]; simpa [hr] using ha
    | none =>
      have hm : trustworthySmbiosUuid srv m.smbiosUuid = some a := by simpa [hr] using ha
      cases hv : e.fingerprint.smbiosUuid with
      | none => right; rw [hs, hv, Option.none_or, hm]
      | some v =>
        left
        rcases hkeep with hf | ⟨hkeep, -⟩
        · exact hsticky hf
        · cases e with
          | merge source now => cases hmerge
          | reenroll p shared now token => exact reenroll_missing (by simp [hm]) hr
          | heartbeat p now token =>
            have := hkeep (by simp [hm]) (by simp [hv])
            rw [hr] at this
            cases this

theorem tpm_detector : Detector (step srv) (Guard srv)
    (fun m => presentTpmEkHash m.tpmEkHash) Flagged Visit.tpm where
  sticky m e hG hf := (step_fingerprint srv m hG.1).2.2.1 hf
  detect m e a b hG hm he hab := (step_fingerprint srv m hG.1).2.2.2 (tpm_suspicious hm he hab)
  keep m e a hG ha := by
    obtain ⟨hmerge, hkeep⟩ := hG
    obtain ⟨-, ht, hsticky, -⟩ := step_fingerprint srv m hmerge
    cases hr : e.tpm with
    | some b =>
      right
      have hb : presentTpmEkHash e.fingerprint.tpmEkHash = some b := hr
      cases hv : e.fingerprint.tpmEkHash with
      | none => rw [hv] at hb; cases hb
      | some v => rw [ht, hv, Option.some_or, ← hv, hb]; simpa [hr] using ha
    | none =>
      have hm : presentTpmEkHash m.tpmEkHash = some a := by simpa [hr] using ha
      cases hv : e.fingerprint.tpmEkHash with
      | none => right; rw [ht, hv, Option.none_or, hm]
      | some v =>
        left
        rcases hkeep with hf | ⟨-, hkeep⟩
        · exact hsticky hf
        · have := hkeep (by simp [hm]) (by simp [hv])
          rw [hr] at this
          cases this

/-- **Drift detection is complete while no anchor is forgotten.**  Two reports of one row that carry
different anchors of a kind leave it flagged, from the later one on and until a merge, whatever is
reported before, between and after them. -/
theorem drift_detected (m : Machine) (e₁ e₂ : Visit) (between after : List Visit)
    (hdiff : Differ srv e₁ e₂) (hg : Guarded (step srv) (Guard srv) m (e₁ :: (between ++ e₂ :: after))) :
    (run (step srv) m (e₁ :: (between ++ e₂ :: after))).needsVerification = true := by
  rcases hdiff with ⟨a, b, h₁, h₂, hab⟩ | ⟨a, b, h₁, h₂, hab⟩
  · exact (smbios_detector srv).complete hab h₁ h₂ hg
  · exact (tpm_detector srv).complete hab h₁ h₂ hg

/-! ### The two sides of the condition -/

/-- A heartbeat that reports an SMBIOS UUID and nothing else. -/
def smbiosHeartbeat (smbiosUuid : Option String) : Visit :=
  .heartbeat { HeartbeatRequest.empty true with fingerprint := some ⟨none, smbiosUuid, none⟩ } 0 ""

/-- The reports of a swapped mainboard, with whatever is reported in between. -/
def swapped (between : Option String) : List Visit :=
  smbiosHeartbeat (some "4C4C4544-0031") ::
    ([smbiosHeartbeat between] ++ smbiosHeartbeat (some "4C4C4544-0032") :: [])

lemma swapped_differ : Differ Server.standard (smbiosHeartbeat (some "4C4C4544-0031"))
    (smbiosHeartbeat (some "4C4C4544-0032")) :=
  Or.inl ⟨"4c4c4544-0031", "4c4c4544-0032", by decide, by decide, by decide⟩

/-- An absent field in between forgets nothing. -/
theorem drift_detected_across_absent :
    Guarded (step .standard) (Guard .standard) (Machine.new 0 "pc" 0) (swapped none) ∧
      (run (step .standard) (Machine.new 0 "pc" 0) (swapped none)).needsVerification = true := by
  have hg : Guarded (step .standard) (Guard .standard) (Machine.new 0 "pc" 0) (swapped none) := by
    refine ⟨⟨rfl, Or.inr ⟨?_, ?_⟩⟩, ⟨rfl, Or.inr ⟨?_, ?_⟩⟩, ⟨rfl, Or.inr ⟨?_, ?_⟩⟩, trivial⟩ <;>
      simp only [smbiosHeartbeat] <;> decide
  exact ⟨hg, drift_detected .standard _ _ _ _ _ swapped_differ hg⟩

/-- Completeness with no condition on what is reported. -/
def DetectsEveryDrift : Prop :=
  ∀ (m : Machine) (e₁ e₂ : Visit) (between after : List Visit),
    (∀ e ∈ e₁ :: (between ++ e₂ :: after), e.isMerge = false) → Differ srv e₁ e₂ →
      (run (step srv) m (e₁ :: (between ++ e₂ :: after))).needsVerification = true

/-- One heartbeat with an empty SMBIOS UUID in between, and the swap goes unnoticed. -/
theorem drift_missed_across_empty : ¬ DetectsEveryDrift Server.standard := by
  intro h
  have hrun := h (Machine.new 0 "pc" 0) (smbiosHeartbeat (some "4C4C4544-0031"))
    (smbiosHeartbeat (some "4C4C4544-0032")) [smbiosHeartbeat (some "")] [] (by decide) swapped_differ
  exact absurd hrun (by decide)

end Tiai.Drift
