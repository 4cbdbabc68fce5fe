import Tiai.Command.Model
import Tiai.Machine.Model

/-!
# The command queue

`features/command/crud.py`, and the part of `heartbeat` that hands a machine its own commands.  An
`UPDATE` over the table is a function of one row, applied to every row: `expireRow`, `deliverRow`.
-/

namespace Tiai

/-! ### Creation -/

/-- `machines_with_open_command`, asked of one machine. -/
def hasOpenCommand (commands : List Command) (machineId : Uuid) (type : CommandType)
    (packageId : Option Uuid) (now : Time) : Bool :=
  commands.any fun c =>
    c.machineId = machineId && c.type = type && !c.terminal && c.expiresAt > now &&
      (packageId.isNone || c.packageId = packageId)

/-- `create_for_machines`, with the `uuid4` of each new row taken from `nextId` on. -/
def createForMachines (commands : List Command) (nextId : Uuid) (machineIds : List Uuid)
    (type : CommandType) (createdBy : Option String) (now expiresAt : Time)
    (packageId : Option Uuid) : List Command :=
  let targets := machineIds.filter fun m => !hasOpenCommand commands m type packageId now
  targets.zipIdx.map fun (m, i) =>
    Command.new (nextId + i) m type createdBy now expiresAt packageId

/-! ### Expiry -/

/-- `mark_expired`, on one row. -/
def expireRow (now : Time) (machineId : Option Uuid) (c : Command) : Command :=
  if c.status = .pending ∧ c.expiresAt < now ∧ (∀ m ∈ machineId, c.machineId = m) then
    { c with status := .expired }
  else c

/-- `mark_expired`. -/
def markExpired (commands : List Command) (now : Time) (machineId : Option Uuid) : List Command :=
  commands.map (expireRow now machineId)

/-! ### Delivery -/

/-- The rows a heartbeat of `machineId` hands out. -/
def ownPending (machineId : Uuid) (now : Time) (c : Command) : Bool :=
  c.machineId = machineId && c.status = .pending && c.expiresAt > now && c.type ≠ .wakeOnLan

/-- The row's package is in `_package_deliveries`. -/
def hasDelivery (packages : List Uuid) (c : Command) : Bool := c.packageId.any (· ∈ packages)

/-- What the heartbeat makes of a row: delivered — or, for a deployment without its package, closed
at once. -/
def deliverRow (machineId : Uuid) (packages : List Uuid) (now : Time) (c : Command) : Command :=
  if ownPending machineId now c then
    let delivered := { c with status := .delivered, deliveredAt := some now }
    if c.type ∈ packageCommandTypes ∧ hasDelivery packages c = false then
      { delivered with
        status := .failed
        error := some "Paquet supprimé avant l'exécution"
        finishedAt := some now }
    else delivered
  else c

/-- What the response carries of a row. -/
def deliverOut (machineId : Uuid) (packages : List Uuid) (now : Time) (c : Command) :
    Option CommandOut :=
  if ownPending machineId now c ∧ (c.packageId.isNone ∨ hasDelivery packages c = true ∨
      c.type ∉ packageCommandTypes) then
    some ⟨c.id, c.type, c.packageId.filter (· ∈ packages), none⟩
  else none

end Tiai
