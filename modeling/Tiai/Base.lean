import Mathlib.Data.Int.Basic

/-!
# What every part of the server shares

Identifiers, instants, the API's errors, and the deployment a server runs in: the settings the
modelled code reads, and the two library functions whose tables are not the repository's
(`str.lower`, and the SHA-256 of `security.hash_token`).
-/

namespace Tiai

/-- A `uuid.UUID`, as the number it is. -/
abbrev Uuid := ℕ

/-- A UTC instant, in microseconds — the resolution of Python's `datetime`. -/
abbrev Time := ℤ

/-- `timedelta(seconds=n)`. -/
def seconds (n : ℕ) : ℤ := n * 1000000

/-- `timedelta(minutes=n)`. -/
def minutes (n : ℕ) : ℤ := seconds (60 * n)

/-- `timedelta(days=n)`. -/
def days (n : ℕ) : ℤ := seconds (86400 * n)

/-- A token's clear value, and the hash the server stores of it. -/
abbrev Token := String
abbrev TokenHash := String

/-- `ErrorCode`: the codes the modelled routes answer with. -/
inductive ErrorCode
  | authCredentialsInvalid | authPermissionDenied | authAccountLocked | authPermissionEscalation
  | authScopeRestricted | authSessionInvalid | authSessionNotFound
  | authTokenInvalid | authTokenRevoked
  | passwordCurrentInvalid | passwordResetTokenInvalid
  | machineNotFound | machineMergeSelf
  | machineEnrollmentRevoked | machineEnrollmentApprovalRequired
  | userNotFound | userEmailTaken | userSelfForbidden | userLockout
  | groupNotFound | groupNameTaken | groupBuiltinProtected
  | groupPermissionUnknown | groupScopeUnknown
  | packageNotFound | packageInvalid | packageFileTooLarge | packageFileNameInvalid
  | packageSignatureInvalid | packageNotReady
  | buildingNotFound | buildingNameTaken | roomNotFound | roomNameTaken | roomPlacementLocked
  | interventionNotFound | checkNotFound | checkAlreadyOpen | checkClosed | maintenanceNotFound
  | requestValidationError | rateLimited | internalServerError
  deriving DecidableEq, Repr

/-- `ErrorCode.value`: the stable string the console maps to a message. -/
def ErrorCode.value : ErrorCode → String
  | authCredentialsInvalid => "auth.credentials.invalid"
  | authPermissionDenied => "auth.permission.denied"
  | authAccountLocked => "auth.account.locked"
  | authPermissionEscalation => "auth.permission.escalation"
  | authScopeRestricted => "auth.scope.restricted"
  | authSessionInvalid => "auth.session.invalid"
  | authSessionNotFound => "auth.session.not_found"
  | authTokenInvalid => "auth.token.invalid"
  | authTokenRevoked => "auth.token.revoked"
  | passwordCurrentInvalid => "password.current.invalid"
  | passwordResetTokenInvalid => "password.reset_token.invalid"
  | machineNotFound => "machine.not_found"
  | machineMergeSelf => "machine.merge.self"
  | machineEnrollmentRevoked => "machine.enrollment.revoked"
  | machineEnrollmentApprovalRequired => "machine.enrollment.approval_required"
  | userNotFound => "user.not_found"
  | userEmailTaken => "user.email.taken"
  | userSelfForbidden => "user.self.forbidden"
  | userLockout => "user.lockout"
  | groupNotFound => "group.not_found"
  | groupNameTaken => "group.name.taken"
  | groupBuiltinProtected => "group.builtin.protected"
  | groupPermissionUnknown => "group.permission.unknown"
  | groupScopeUnknown => "group.scope.unknown"
  | packageNotFound => "package.not_found"
  | packageInvalid => "package.invalid"
  | packageFileTooLarge => "package.file.too_large"
  | packageFileNameInvalid => "package.file.name_invalid"
  | packageSignatureInvalid => "package.signature.invalid"
  | packageNotReady => "package.not_ready"
  | buildingNotFound => "building.not_found"
  | buildingNameTaken => "building.name.taken"
  | roomNotFound => "room.not_found"
  | roomNameTaken => "room.name.taken"
  | roomPlacementLocked => "room.placement.locked"
  | interventionNotFound => "intervention.not_found"
  | checkNotFound => "check.not_found"
  | checkAlreadyOpen => "check.already_open"
  | checkClosed => "check.closed"
  | maintenanceNotFound => "maintenance.not_found"
  | requestValidationError => "request.validation_error"
  | rateLimited => "request.rate_limited"
  | internalServerError => "internal.server_error"

/-- `AppError`: what a route raises. -/
structure AppError where
  code : ErrorCode
  statusCode : ℕ
  message : String
  deriving DecidableEq, Repr

/-- What a server runs with. -/
structure Server where
  /-- `AGENT_TOKEN_ROTATE_DAYS`; `0` turns rotation off. -/
  agentTokenRotateDays : ℕ
  /-- `ENROLLMENT_REENROLL_REQUIRES_APPROVAL`. -/
  reenrollRequiresApproval : Bool
  /-- `WOL_RELAY_ENABLED`. -/
  wolRelayEnabled : Bool
  /-- `WOL_RELAY_SUBNET_GRACE_SECONDS`. -/
  wolRelaySubnetGraceSeconds : ℕ
  /-- `WOL_RELAY_TTL_MINUTES`. -/
  wolRelayTtlMinutes : ℕ
  /-- `OFFLINE_AFTER_SECONDS`. -/
  offlineAfterSeconds : ℕ
  /-- `security.hash_token`. -/
  hashToken : Token → TokenHash
  /-- Python's `str.lower`. -/
  lower : String → String
  /-- The database's `lower()`. -/
  sqlLower : String → String

/-- A server with the settings' defaults.  Its two text functions are the ASCII part of the real ones,
and its hash keeps tokens apart, which is all that is used of SHA-256. -/
def Server.standard : Server where
  agentTokenRotateDays := 30
  reenrollRequiresApproval := true
  wolRelayEnabled := false
  wolRelaySubnetGraceSeconds := 90
  wolRelayTtlMinutes := 10
  offlineAfterSeconds := 180
  hashToken t := "sha256:" ++ t
  lower s := String.ofList (s.toList.map Char.toLower)
  sqlLower s := String.ofList (s.toList.map Char.toLower)

end Tiai
