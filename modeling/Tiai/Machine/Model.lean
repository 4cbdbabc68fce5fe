import Mathlib.Data.List.Nodup
import Tiai.Base
import Tiai.Text

/-!
# The machine row

`features/machine/models.py`: the columns of `machines` that the modelled code reads or writes —
identity and fingerprint, the attributes an agent reports, and the per-machine credential.  The
inventory, Defender and Windows Update columns are left out: no modelled function reads them.
-/

namespace Tiai

/-- What a machine row's `ip_address` holds: `str(ip_address(value))` of the reported literal. -/
inductive IpAddress
  | v4 (address : BitVec 32)
  | v6 (literal : String)
  deriving DecidableEq, Repr

/-- `Machine`. -/
structure Machine where
  id : Uuid
  machineUuid : String
  machineGuid : Option String
  smbiosUuid : Option String
  tpmEkHash : Option String
  needsVerification : Bool
  hostname : Option String
  domain : Option String
  location : Option String
  osVersion : Option String
  agentVersion : Option String
  ipAddress : Option IpAddress
  macAddress : Option String
  ipPrefixLength : Option ℕ
  tokenHash : Option TokenHash
  tokenRevoked : Bool
  reenrollRequestedAt : Option Time
  reenrollRequestedIp : Option String
  tokenIssuedAt : Time
  pendingTokenHash : Option TokenHash
  firstSeen : Time
  lastSeen : Time
  createdAt : Time
  updatedAt : Time
  deriving DecidableEq, Repr

/-- `Machine(machine_uuid=…)`: a row with the model's defaults, built at `now` under a fresh
`uuid4`. -/
def Machine.new (id : Uuid) (machineUuid : String) (now : Time) : Machine where
  id := id
  machineUuid := machineUuid
  machineGuid := none
  smbiosUuid := none
  tpmEkHash := none
  needsVerification := false
  hostname := none
  domain := none
  location := none
  osVersion := none
  agentVersion := none
  ipAddress := none
  macAddress := none
  ipPrefixLength := none
  tokenHash := none
  tokenRevoked := false
  reenrollRequestedAt := none
  reenrollRequestedIp := none
  tokenIssuedAt := now
  pendingTokenHash := none
  firstSeen := now
  lastSeen := now
  createdAt := now
  updatedAt := now

/-- `bound_text`: cap a reported string, leave `None` alone. -/
def boundText (value : Option String) (limit : ℕ) : Option String := value.map (truncate limit)

/-- `NAME_MAX`, `TEXT_MAX`, `LOCATION_MAX`, `MACHINE_UUID_MAX`. -/
def nameMax : ℕ := 255
def textMax : ℕ := 200
def locationMax : ℕ := 120
def machineUuidMax : ℕ := 200

/-- `clean_location`: trimmed and bounded, the empty string read as no site. -/
def cleanLocation (value : Option String) : Option String :=
  match value with
  | none => none
  | some v =>
    let cleaned := truncate locationMax (strip v)
    if cleaned = "" then none else some cleaned

/-- `Fingerprint`: the components an agent reports. -/
structure Fingerprint where
  machineGuid : Option String
  smbiosUuid : Option String
  tpmEkHash : Option String
  deriving DecidableEq, Repr

/-- `Fingerprint()`: nothing reported. -/
def Fingerprint.empty : Fingerprint := ⟨none, none, none⟩

/-- `Fingerprint._bound`, on the three components. -/
def Fingerprint.bound (fp : Fingerprint) : Fingerprint where
  machineGuid := boundText fp.machineGuid textMax
  smbiosUuid := boundText fp.smbiosUuid textMax
  tpmEkHash := boundText fp.tpmEkHash textMax

/-- Replace the row that carries `m`'s identifier. -/
def writeMachine (machines : List Machine) (m : Machine) : List Machine :=
  machines.map fun x => if x.id = m.id then m else x

/-- `session.get(Machine, id)`. -/
def getMachine (machines : List Machine) (id : Uuid) : Option Machine :=
  machines.find? fun m => m.id = id

lemma getMachine_mem {machines : List Machine} {id : Uuid} {m : Machine}
    (h : getMachine machines id = some m) : m ∈ machines ∧ m.id = id := by
  refine ⟨List.mem_of_find?_eq_some h, ?_⟩
  simpa using List.find?_some h

lemma mem_writeMachine {machines : List Machine} {m x : Machine} (h : x ∈ writeMachine machines m) :
    x = m ∨ (x ∈ machines ∧ x.id ≠ m.id) := by
  obtain ⟨y, hy, rfl⟩ := List.mem_map.mp h
  by_cases hid : y.id = m.id
  · left; simp [hid]
  · right; simpa [hid] using hy

lemma mem_writeMachine_self {machines : List Machine} {m x : Machine} (hx : x ∈ machines)
    (hid : x.id = m.id) : m ∈ writeMachine machines m :=
  List.mem_map.mpr ⟨x, hx, by simp [hid]⟩

lemma mem_writeMachine_of_ne {machines : List Machine} {m x : Machine} (hx : x ∈ machines)
    (hid : x.id ≠ m.id) : x ∈ writeMachine machines m :=
  List.mem_map.mpr ⟨x, hx, by simp [hid]⟩

/-- Rows are told apart by their identifier, which is the table's primary key. -/
lemma eq_of_id_eq {machines : List Machine} (hids : (machines.map Machine.id).Nodup) {x y : Machine}
    (hx : x ∈ machines) (hy : y ∈ machines) (h : x.id = y.id) : x = y :=
  List.inj_on_of_nodup_map hids hx hy h

lemma writeMachine_of_mem {machines : List Machine} (hids : (machines.map Machine.id).Nodup)
    {m : Machine} (hm : m ∈ machines) : writeMachine machines m = machines := by
  unfold writeMachine
  conv_rhs => rw [← List.map_id machines]
  refine List.map_congr_left fun x hx => ?_
  by_cases hid : x.id = m.id
  · simp [eq_of_id_eq hids hx hm hid]
  · simp [hid]

@[simp] lemma map_id_writeMachine (machines : List Machine) (m : Machine) :
    (writeMachine machines m).map Machine.id = machines.map Machine.id := by
  unfold writeMachine
  rw [List.map_map]
  refine List.map_congr_left fun x _ => ?_
  by_cases hid : x.id = m.id <;> simp [hid]

end Tiai
