import Tiai.Machine.Fingerprint
import Tiai.Machine.TokenRotation

/-!
# Enrollment, and what an administrator does to a credential

`enroll` (`api/routes/agent.py`) past its rate limit and its secret, and `revoke_token`,
`allow_reenroll` (`api/routes/machines.py`) past their permission and scope.  The audit and security
logs are left out: nothing modelled reads them back.
-/

namespace Tiai

/-- `EnrollRequest`; `location` as in a heartbeat. -/
structure EnrollRequest where
  machineUuid : String
  hostname : Option String
  domain : Option String
  location : Option (Option String)
  osVersion : Option String
  agentVersion : Option String
  fingerprint : Option Fingerprint
  deriving DecidableEq, Repr

/-- The field validators that degrade a value; the one that refuses it is in `enroll`. -/
def EnrollRequest.validate (p : EnrollRequest) : EnrollRequest where
  machineUuid := p.machineUuid
  hostname := boundText p.hostname nameMax
  domain := boundText p.domain nameMax
  location := p.location.map cleanLocation
  osVersion := boundText p.osVersion textMax
  agentVersion := boundText p.agentVersion textMax
  fingerprint := p.fingerprint.map Fingerprint.bound

structure EnrollResponse where
  machineId : Uuid
  token : Token
  deriving DecidableEq, Repr

variable (srv : Server)

/-- Another identity carries the anchor the payload reports. -/
def sharesAnchor (machines : List Machine) (machineUuid : String) (fp : Fingerprint) : Bool :=
  match trustworthySmbiosUuid srv fp.smbiosUuid with
  | none => false
  | some anchor => machines.any fun m =>
      m.smbiosUuid.map srv.sqlLower = some anchor && m.machineUuid ≠ machineUuid

/-- The row an accepted enrollment commits. -/
def Machine.enrolled (m : Machine) (p : EnrollRequest) (suspicious : Bool) (now : Time)
    (token : Token) : Machine :=
  let stored := storeFingerprint m (p.fingerprint.getD .empty)
  resetRotation
    { stored with
      hostname := p.hostname
      domain := p.domain
      location := p.location.getD m.location
      osVersion := p.osVersion
      agentVersion := p.agentVersion
      needsVerification := if suspicious then true else m.needsVerification
      tokenHash := some (srv.hashToken token)
      tokenIssuedAt := now
      reenrollRequestedAt := none
      reenrollRequestedIp := none
      updatedAt := now }

/-- The enrollment of a known identity. -/
def Machine.reenrolled (m : Machine) (p : EnrollRequest) (shared : Bool) (now : Time)
    (token : Token) : Machine :=
  m.enrolled srv p (suspiciousReenrollment srv m (p.fingerprint.getD .empty) || shared) now token

/-- The row of a request held for approval. -/
def Machine.held (m : Machine) (ip : String) (now : Time) : Machine :=
  { m with reenrollRequestedAt := some now, reenrollRequestedIp := some ip }

/-- `enroll`: `id` is the `uuid4` a new row gets, `token` what `generate_token` drew. -/
def enroll (machines : List Machine) (body : EnrollRequest) (ip : String) (now : Time) (id : Uuid)
    (token : Token) : List Machine × Except AppError EnrollResponse :=
  if body.machineUuid.length > machineUuidMax then
    (machines, .error ⟨.requestValidationError, 422, "Request validation failed"⟩)
  else
    let p := body.validate
    let shared := sharesAnchor srv machines p.machineUuid (p.fingerprint.getD .empty)
    match machines.find? (fun m => m.machineUuid = p.machineUuid) with
    | none =>
      let m := (Machine.new id p.machineUuid now).enrolled srv p shared now token
      (machines ++ [m], .ok ⟨id, token⟩)
    | some m =>
      if m.tokenRevoked then
        (machines, .error ⟨.machineEnrollmentRevoked, 403,
          "Machine token was revoked; an administrator must allow re-enrollment from the console"⟩)
      else if m.tokenHash.isSome ∧ srv.reenrollRequiresApproval then
        (writeMachine machines (m.held ip now), .error ⟨.machineEnrollmentApprovalRequired, 403,
          "This machine is already enrolled; an administrator must approve the re-enrollment from " ++
            "the console"⟩)
      else
        (writeMachine machines (m.reenrolled srv p shared now token), .ok ⟨m.id, token⟩)

/-- **The four ends of an enrollment**: refused with nothing written, held for approval, or a token —
for a new row, or for a known one that is neither revoked nor, with approval on, enrolled. -/
theorem enroll_cases (machines : List Machine) (body : EnrollRequest) (ip : String) (now : Time)
    (id : Uuid) (token : Token) :
    (∃ e, enroll srv machines body ip now id token = (machines, .error e)) ∨
    (∃ m ∈ machines, ∃ e, enroll srv machines body ip now id token =
      (writeMachine machines (m.held ip now), .error e)) ∨
    (∃ shared, enroll srv machines body ip now id token =
      (machines ++ [(Machine.new id body.machineUuid now).enrolled srv body.validate shared now token],
        .ok ⟨id, token⟩)) ∨
    (∃ m ∈ machines, ∃ shared, m.tokenRevoked = false ∧
      (m.tokenHash.isSome = true → srv.reenrollRequiresApproval = false) ∧
      enroll srv machines body ip now id token =
        (writeMachine machines (m.reenrolled srv body.validate shared now token),
          .ok ⟨m.id, token⟩)) := by
  unfold enroll
  by_cases hlen : body.machineUuid.length > machineUuidMax
  · exact Or.inl ⟨_, if_pos hlen⟩
  · rw [if_neg hlen]
    dsimp only
    split
    · exact Or.inr (Or.inr (Or.inl ⟨_, rfl⟩))
    · rename_i m hm
      have hmem := List.mem_of_find?_eq_some hm
      by_cases hrev : m.tokenRevoked = true
      · exact Or.inl ⟨_, if_pos hrev⟩
      · rw [if_neg hrev]
        by_cases happ : m.tokenHash.isSome = true ∧ srv.reenrollRequiresApproval = true
        · exact Or.inr (Or.inl ⟨m, hmem, _, if_pos happ⟩)
        · refine Or.inr (Or.inr (Or.inr ⟨m, hmem, _, by simpa using hrev, ?_, if_neg happ⟩))
          intro hs
          simpa [hs] using happ

/-- `revoke_token`, on its row. -/
def revokeToken (m : Machine) (now : Time) : Machine :=
  { resetRotation { m with tokenRevoked := true } with updatedAt := now }

/-- `allow_reenroll`, on its row. -/
def allowReenroll (m : Machine) (now : Time) : Machine :=
  { resetRotation
      { m with
        tokenRevoked := false
        tokenHash := none
        reenrollRequestedAt := none
        reenrollRequestedIp := none } with
    updatedAt := now }

/-- What `merge_into` writes on the row it keeps. -/
def Machine.absorb (target source : Machine) (now : Time) : Machine :=
  { target with
    lastSeen := if source.lastSeen > target.lastSeen then source.lastSeen else target.lastSeen
    needsVerification := false
    updatedAt := now }

end Tiai
