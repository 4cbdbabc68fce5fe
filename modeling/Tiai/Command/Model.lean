import Tiai.Base

/-!
# The command row

`features/command/models.py`: the closed catalogue of types, the statuses, and one row per target.
-/

namespace Tiai

/-- `CommandType`. -/
inductive CommandType
  | quickScan | fullScan | updateSignatures
  | gpoUpdate | flushDns | timeResync | certPulse | spoolerReset
  | sfcScan | dismRestoreHealth | dismComponentCleanup | chkdskScan
  | wuScan | wuInstall | wuInstallFull | wuReset | inventoryScan
  | reboot | shutdown | wakeOnLan
  | gpoReport | netConfig
  | packageInstall | packageUninstall
  deriving DecidableEq, Repr

def CommandType.value : CommandType → String
  | quickScan => "quick_scan"
  | fullScan => "full_scan"
  | updateSignatures => "update_signatures"
  | gpoUpdate => "gpo_update"
  | flushDns => "flush_dns"
  | timeResync => "time_resync"
  | certPulse => "cert_pulse"
  | spoolerReset => "spooler_reset"
  | sfcScan => "sfc_scan"
  | dismRestoreHealth => "dism_restore_health"
  | dismComponentCleanup => "dism_component_cleanup"
  | chkdskScan => "chkdsk_scan"
  | wuScan => "wu_scan"
  | wuInstall => "wu_install"
  | wuInstallFull => "wu_install_full"
  | wuReset => "wu_reset"
  | inventoryScan => "inventory_scan"
  | reboot => "reboot"
  | shutdown => "shutdown"
  | wakeOnLan => "wake_on_lan"
  | gpoReport => "gpo_report"
  | netConfig => "net_config"
  | packageInstall => "package_install"
  | packageUninstall => "package_uninstall"

/-- `PACKAGE_COMMAND_TYPES`. -/
def packageCommandTypes : List CommandType := [.packageInstall, .packageUninstall]

/-- `CommandStatus`. -/
inductive CommandStatus
  | pending | delivered | running | succeeded | failed | expired
  deriving DecidableEq, Repr

/-- `AGENT_REPORTABLE_STATUSES`. -/
def agentReportableStatuses : List CommandStatus := [.running, .succeeded, .failed]

/-- `TERMINAL_STATUSES`. -/
def terminalStatuses : List CommandStatus := [.succeeded, .failed, .expired]

/-- `Command`. -/
structure Command where
  id : Uuid
  machineId : Uuid
  type : CommandType
  status : CommandStatus
  createdBy : Option String
  createdAt : Time
  expiresAt : Time
  deliveredAt : Option Time
  startedAt : Option Time
  finishedAt : Option Time
  resultOutput : Option String
  error : Option String
  relayMachineId : Option Uuid
  packageId : Option Uuid
  deriving DecidableEq, Repr

/-- `Command(…)`, with the model's defaults. -/
def Command.new (id machineId : Uuid) (type : CommandType) (createdBy : Option String)
    (createdAt expiresAt : Time) (packageId : Option Uuid) : Command where
  id := id
  machineId := machineId
  type := type
  status := .pending
  createdBy := createdBy
  createdAt := createdAt
  expiresAt := expiresAt
  deliveredAt := none
  startedAt := none
  finishedAt := none
  resultOutput := none
  error := none
  relayMachineId := none
  packageId := packageId

def Command.terminal (c : Command) : Bool := c.status ∈ terminalStatuses

/-- `CommandResult`: what an agent posts. -/
structure CommandResult where
  status : CommandStatus
  output : Option String
  error : Option String
  deriving DecidableEq, Repr

/-- `RESULT_TEXT_MAX`. -/
def resultTextMax : ℕ := 64 * 1024

/-- `CommandResult._bound_text`. -/
def boundResultText (value : Option String) : Option String :=
  value.map fun v =>
    if v.length ≤ resultTextMax then v
    else String.ofList (v.toList.take resultTextMax) ++ "\n[…] sortie tronquée par le serveur"

/-- The validators; a status that is not the agent's to write is a 422. -/
def CommandResult.validate (r : CommandResult) : Option CommandResult :=
  if r.status ∈ agentReportableStatuses then
    some { r with output := boundResultText r.output, error := boundResultText r.error }
  else none

lemma validate_status {r r' : CommandResult} (h : r.validate = some r') :
    r'.status = .running ∨ r'.status = .succeeded ∨ r'.status = .failed := by
  unfold CommandResult.validate at h
  split at h
  · rename_i hr
    obtain rfl := Option.some.inj h
    simpa [agentReportableStatuses] using hr
  · cases h

/-- `CommandOut`: a command as a heartbeat's response carries it; the package by its identifier. -/
structure CommandOut where
  id : Uuid
  type : CommandType
  package : Option Uuid
  targetMac : Option String
  deriving DecidableEq, Repr

end Tiai
