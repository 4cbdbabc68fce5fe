import Tiai.Machine.Model

/-!
# Identity fingerprint diffing

`features/machine/fingerprint.py`, and the two places that apply it: the fingerprint block of a
heartbeat and the re-enrollment of a known identity (`api/routes/agent.py`).
-/

namespace Tiai

/-- `INVALID_SMBIOS_UUIDS`. -/
def invalidSmbiosUuids : List String :=
  ["00000000-0000-0000-0000-000000000000",
   "ffffffff-ffff-ffff-ffff-ffffffffffff",
   "03000200-0400-0500-0006-000700080009"]

variable (srv : Server)

/-- `trustworthy_smbios_uuid`: the identity a SMBIOS UUID stands for, if it stands for one. -/
def trustworthySmbiosUuid (smbiosUuid : Option String) : Option String :=
  match smbiosUuid with
  | none => none
  | some s =>
    if s = "" then none
    else
      let normalized := srv.lower (strip s)
      if normalized = "" ∨ normalized ∈ invalidSmbiosUuids then none else some normalized

/-- A TPM key hash as Python's truth reads it: the empty string counts as no hash. -/
def presentTpmEkHash (tpmEkHash : Option String) : Option String :=
  match tpmEkHash with
  | none => none
  | some t => if t = "" then none else some t

/-- Two values that are both there, and differ. -/
def bothAndDiffer {α : Type} [DecidableEq α] (a b : Option α) : Bool :=
  match a, b with
  | some x, some y => x ≠ y
  | _, _ => false

/-- `is_suspicious_change`. -/
def isSuspiciousChange (m : Machine) (smbiosUuid tpmEkHash : Option String) : Bool :=
  bothAndDiffer (trustworthySmbiosUuid srv m.smbiosUuid) (trustworthySmbiosUuid srv smbiosUuid) ||
    bothAndDiffer (presentTpmEkHash m.tpmEkHash) (presentTpmEkHash tpmEkHash)

/-- `store_fingerprint`: what was reported replaces what was stored, `None` excepted. -/
def storeFingerprint (m : Machine) (fp : Fingerprint) : Machine :=
  { m with
    machineGuid := fp.machineGuid.or m.machineGuid
    smbiosUuid := fp.smbiosUuid.or m.smbiosUuid
    tpmEkHash := fp.tpmEkHash.or m.tpmEkHash }

/-- The fingerprint block of `heartbeat`. -/
def Machine.reportFingerprint (m : Machine) (fingerprint : Option Fingerprint) : Machine :=
  match fingerprint with
  | none => m
  | some fp =>
    storeFingerprint
      (if isSuspiciousChange srv m fp.smbiosUuid fp.tpmEkHash then { m with needsVerification := true }
        else m) fp

/-- What `enroll` finds suspicious in the fingerprint of a known machine: a changed anchor, or an
SMBIOS anchor that was there and is no longer reported. -/
def suspiciousReenrollment (m : Machine) (fp : Fingerprint) : Bool :=
  isSuspiciousChange srv m fp.smbiosUuid fp.tpmEkHash ||
    ((trustworthySmbiosUuid srv m.smbiosUuid).isSome &&
      (trustworthySmbiosUuid srv fp.smbiosUuid).isNone)

end Tiai
