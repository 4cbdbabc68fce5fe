import Tiai.Machine.Fingerprint
import Tiai.Machine.TokenRotation
import Tiai.Wol.Packet

/-!
# What a heartbeat does to its machine row

`heartbeat` (`api/routes/agent.py`) runs in one transaction on the row `get_current_machine` handed
it.  Here is the part that concerns the row alone: the validators of `HeartbeatRequest`, the
attributes (`Machine.report`), the fingerprint block, `last_seen`, and last of all the token offer
(`Machine.offer`).  The command queue between the two is in `Command/Server.lean`.  The successive
`utcnow()` calls of one request are one instant here.
-/

namespace Tiai

/-- `HeartbeatRequest`.  `location` is `none` when the field was absent — `location_reported` reads
that — and `some none` when it was null. -/
structure HeartbeatRequest where
  hostname : Option String
  domain : Option String
  location : Option (Option String)
  ipAddress : Option IpAddress
  macAddress : Option String
  ipPrefixLength : Option ℤ
  osVersion : Option String
  agentVersion : Option String
  fingerprint : Option Fingerprint
  supportsTokenRotation : Bool
  deriving DecidableEq, Repr

/-- The heartbeat of an agent that reports nothing. -/
def HeartbeatRequest.empty (supportsTokenRotation : Bool) : HeartbeatRequest :=
  ⟨none, none, none, none, none, none, none, none, none, supportsTokenRotation⟩

/-- `_bound_prefix`: a mask that can describe a network, or nothing. -/
def boundPrefix (value : Option ℤ) : Option ℤ := value.filter fun v => 1 ≤ v ∧ v ≤ 128

/-- The field validators. -/
def HeartbeatRequest.validate (p : HeartbeatRequest) : HeartbeatRequest where
  hostname := boundText p.hostname nameMax
  domain := boundText p.domain nameMax
  location := p.location.map cleanLocation
  ipAddress := p.ipAddress
  macAddress := Wol.normalizeMac p.macAddress
  ipPrefixLength := boundPrefix p.ipPrefixLength
  osVersion := boundText p.osVersion textMax
  agentVersion := boundText p.agentVersion textMax
  fingerprint := p.fingerprint.map Fingerprint.bound
  supportsTokenRotation := p.supportsTokenRotation

variable (srv : Server)

/-- The attributes: what is reported replaces what is stored, what is absent leaves it alone — and
`location` is replaced on presence, so that an empty one clears it. -/
def Machine.reportAttributes (m : Machine) (p : HeartbeatRequest) : Machine :=
  { m with
    hostname := p.hostname.or m.hostname
    domain := p.domain.or m.domain
    location := p.location.getD m.location
    ipAddress := p.ipAddress.or m.ipAddress
    macAddress := p.macAddress.or m.macAddress
    ipPrefixLength := (p.ipPrefixLength.map Int.toNat).or m.ipPrefixLength
    osVersion := p.osVersion.or m.osVersion
    agentVersion := p.agentVersion.or m.agentVersion }

/-- Everything a heartbeat writes on its row before it looks at the command queue. -/
def Machine.report (m : Machine) (p : HeartbeatRequest) (now : Time) : Machine :=
  { (m.reportAttributes p.validate).reportFingerprint srv p.validate.fingerprint with
    lastSeen := now
    updatedAt := now }

/-- The end of the route: a token, for an agent that can store one and whose own is due. -/
def Machine.offer (m : Machine) (supportsTokenRotation : Bool) (now : Time) (token : Token) :
    Machine × Option Token :=
  if supportsTokenRotation ∧ rotationDue m now srv.agentTokenRotateDays then
    (offerNewToken srv m token, some token)
  else (m, none)

/-- The row's part of a heartbeat: the row to commit, and `new_token`. -/
def Machine.heartbeat (m : Machine) (p : HeartbeatRequest) (now : Time) (token : Token) :
    Machine × Option Token :=
  (m.report srv p now).offer srv p.supportsTokenRotation now token

/-! ### What the row's part leaves alone -/

section Frame

variable (m : Machine) (p : HeartbeatRequest) (now : Time) (token : Token)

lemma reportFingerprint_frame (fp : Option Fingerprint) :
    m.reportFingerprint srv fp =
      { m with
        machineGuid := (m.reportFingerprint srv fp).machineGuid
        smbiosUuid := (m.reportFingerprint srv fp).smbiosUuid
        tpmEkHash := (m.reportFingerprint srv fp).tpmEkHash
        needsVerification := (m.reportFingerprint srv fp).needsVerification } := by
  unfold Machine.reportFingerprint
  cases fp with
  | none => rfl
  | some fp => dsimp only; split <;> rfl

@[simp] lemma report_id : (m.report srv p now).id = m.id := by
  simp only [Machine.report]; rw [reportFingerprint_frame]; rfl

@[simp] lemma report_tokenHash : (m.report srv p now).tokenHash = m.tokenHash := by
  simp only [Machine.report]; rw [reportFingerprint_frame]; rfl

@[simp] lemma report_pendingTokenHash :
    (m.report srv p now).pendingTokenHash = m.pendingTokenHash := by
  simp only [Machine.report]; rw [reportFingerprint_frame]; rfl

@[simp] lemma report_tokenRevoked : (m.report srv p now).tokenRevoked = m.tokenRevoked := by
  simp only [Machine.report]; rw [reportFingerprint_frame]; rfl

@[simp] lemma report_tokenIssuedAt : (m.report srv p now).tokenIssuedAt = m.tokenIssuedAt := by
  simp only [Machine.report]; rw [reportFingerprint_frame]; rfl

/-- **The offer, in full.**  Either nothing is offered and the row stays as it was, or a token is,
and its hash is all that changes. -/
theorem offer_cases (m : Machine) (supports : Bool) (now : Time) (token : Token) :
    (m.offer srv supports now token = (m, none) ∧
      ¬(supports = true ∧ rotationDue m now srv.agentTokenRotateDays = true)) ∨
    (m.offer srv supports now token =
      ({ m with pendingTokenHash := some (srv.hashToken token) }, some token) ∧
      supports = true ∧ rotationDue m now srv.agentTokenRotateDays = true) := by
  unfold Machine.offer
  split
  · rename_i h
    exact Or.inr ⟨rfl, h⟩
  · rename_i h
    exact Or.inl ⟨rfl, h⟩

/-- After the report, only the pending hash may still change. -/
theorem heartbeat_row : ∃ h, (m.heartbeat srv p now token).1 =
    { m.report srv p now with pendingTokenHash := h } := by
  unfold Machine.heartbeat
  rcases offer_cases srv (m.report srv p now) p.supportsTokenRotation now token with
    ⟨hr, -⟩ | ⟨hr, -⟩
  · exact ⟨(m.report srv p now).pendingTokenHash, by rw [hr]⟩
  · exact ⟨some (srv.hashToken token), by rw [hr]⟩

end Frame

end Tiai
