import Tiai.Command.Model
import Tiai.Machine.Heartbeat

/-!
# Relaying a wake through a poste that is on

`features/wol/relay.py`: who may relay for whom (`mayClaim`), how a wake is queued or refused
(`queueRelayedWake`), and the two passes of a heartbeat over the queued wakes — closing those of the
machine that called, and handing it those it may relay.  Python reads an empty string as no value:
`present`.
-/

namespace Tiai

/-- A text column as Python's truth reads it. -/
def present (value : Option String) : Option String := value.filter (· ≠ "")

/-! ### Eligibility -/

def sharesWire (relay target : Machine) : Bool :=
  if relay.id = target.id then false
  else if (present target.location).isSome then relay.location = target.location
  else if (present target.domain).isSome then relay.domain = target.domain
  else false

/-- `_network`: the network address and the prefix length. -/
def network (m : Machine) : Option (BitVec 32 × ℕ) :=
  match m.ipAddress, m.ipPrefixLength with
  | some (.v4 address), some p =>
    if p ≤ 32 then some ((address >>> (32 - p)) <<< (32 - p), p) else none
  | _, _ => none

def sameSubnet (relay target : Machine) : Bool :=
  (network relay).isSome && network relay = network target

variable (srv : Server)

def mayClaim (relay target : Machine) (queuedAt now : Time) : Bool :=
  if !sharesWire relay target then false
  else if sameSubnet relay target then true
  else now - queuedAt ≥ seconds srv.wolRelaySubnetGraceSeconds

/-- `peer_clause`, as the predicate it stands for. -/
def peerClause (target : Machine) : Option (Machine → Bool) :=
  if (present target.location).isSome then some fun m => m.location = target.location
  else if (present target.domain).isSome then some fun m => m.domain = target.domain
  else none

/-- The clause is `sharesWire` with the target fixed, but for the target itself. -/
lemma sharesWire_iff_peerClause {relay target : Machine} : sharesWire relay target = true ↔
    relay.id ≠ target.id ∧ ∃ p, peerClause target = some p ∧ p relay = true := by
  unfold sharesWire peerClause
  by_cases hid : relay.id = target.id
  · simp [hid]
  · by_cases hloc : (present target.location).isSome = true
    · simp [hid, hloc]
    · by_cases hdom : (present target.domain).isSome = true
      · simp [hid, hloc, hdom]
      · simp [hid, hloc, hdom]

/-! ### Queueing -/

/-- `WakeOutcome`. -/
structure WakeOutcome where
  ok : Bool
  detail : String
  deriving DecidableEq, Repr

def siteLabel (target : Machine) : String :=
  if (present target.location).isSome then
    "l'emplacement « " ++ target.location.getD "None" ++ " »"
  else "le domaine « " ++ target.domain.getD "None" ++ " »"

/-- `count_online_peers`. -/
def countOnlinePeers (machines : List Machine) (target : Machine) (now : Time) : ℕ :=
  match peerClause target with
  | none => 0
  | some peer => machines.countP fun m =>
      peer m && m.id ≠ target.id && m.lastSeen ≥ now - seconds srv.offlineAfterSeconds

/-- A wake no poste has acknowledged yet. -/
def Command.openWake (c : Command) : Bool :=
  c.type = .wakeOnLan && (c.status = .pending || c.status = .delivered)

/-- `open_wake_for`: the latest of them. -/
def openWakeFor (commands : List Command) (target : Machine) (now : Time) : Option Command :=
  (commands.filter fun c => c.machineId = target.id && c.openWake && c.expiresAt > now).foldl
    (fun best c => match best with
      | none => some c
      | some b => if c.createdAt > b.createdAt then some c else some b) none

/-- `f"{t:%H:%M}"`. -/
def hhmm (t : Time) : String :=
  let two (n : ℕ) := if n < 10 then "0" ++ toString n else toString n
  two ((t / 3600000000 % 24).toNat) ++ ":" ++ two ((t / 60000000 % 60).toNat)

/-- `_closed`: the row of a wake decided on the spot. -/
def closedWake (id machineId : Uuid) (createdBy : Option String) (now : Time)
    (outcome : WakeOutcome) : Command :=
  { Command.new id machineId .wakeOnLan createdBy now now none with
    status := if outcome.ok then .succeeded else .failed
    startedAt := some now
    finishedAt := some now
    resultOutput := if outcome.ok then some outcome.detail else none
    error := if outcome.ok then none else some outcome.detail }

/-- The row of a wake that waits for a relay. -/
def queuedWake (id machineId : Uuid) (createdBy : Option String) (now : Time) : Command :=
  Command.new id machineId .wakeOnLan createdBy now (now + minutes srv.wolRelayTtlMinutes) none

/-- `queue_relayed_wake`: the row it adds, if any, and what it answers. -/
def queueRelayedWake (machines : List Machine) (commands : List Command) (id : Uuid)
    (target : Machine) (createdBy : Option String) (now : Time) : Option Command × WakeOutcome :=
  let refuse (detail : String) : Option Command × WakeOutcome :=
    (some (closedWake id target.id createdBy now ⟨false, detail⟩), ⟨false, detail⟩)
  match Wol.normalizeMac target.macAddress with
  | none => refuse
      ("Aucune adresse MAC connue pour ce poste : son agent n'en a jamais " ++
        "remonté (agent antérieur à la fonction, ou carte réseau sans " ++
        "adresse exploitable). Un poste ne peut être réveillé qu'après au " ++
        "moins une remontée de son agent.")
  | some _ =>
    if (peerClause target).isNone then refuse
      ("Ce poste n'a ni emplacement ni domaine connu : le serveur ne peut " ++
        "désigner aucun poste voisin pour relayer le réveil. Renseigner " ++
        "l'emplacement dans la configuration de l'agent (location).")
    else
      match openWakeFor commands target now with
      | some already =>
        let state := if already.status = .delivered then "déjà transmis à un poste relais"
          else "déjà en attente d'un poste relais"
        (none, ⟨true, "Réveil " ++ state ++ " depuis " ++ hhmm already.createdAt ++
          " UTC ; rien de nouveau n'a été mis en file."⟩)
      | none =>
        let peers := countOnlinePeers srv machines target now
        if peers = 0 then refuse
          ("Aucun poste allumé sur " ++ siteLabel target ++ " pour relayer le réveil : le " ++
            "paquet magique doit partir d'un poste du même réseau que la " ++
            "cible, et aucun n'est en contact avec le serveur en ce moment.")
        else
          (some (queuedWake srv id target.id createdBy now),
            ⟨true, "Réveil confié aux postes de " ++ siteLabel target ++ " : " ++ toString peers ++
              " poste(s) allumé(s) peuvent relayer le paquet magique, le premier à contacter le " ++
              "serveur s'en charge (sous " ++ toString srv.wolRelayTtlMinutes ++
              " min, sinon le réveil expire).\nL'émission ne prouvera pas le réveil : le " ++
              "protocole n'accuse rien, et le poste ne réapparaîtra dans la console qu'à la " ++
              "remontée de son agent."⟩)

/-! ### The two passes of a heartbeat -/

/-- `close_wakes_for_awake_machine`, on one row. -/
def closeWakeRow (machineId : Uuid) (now : Time) (c : Command) : Command :=
  if c.machineId = machineId ∧ c.openWake = true then
    { c with
      status := .succeeded
      finishedAt := some now
      resultOutput := some
        ("Poste revenu en ligne : son agent a contacté le serveur — le seul " ++
          "accusé de réception qu'un réveil puisse avoir.") }
  else c

/-- The rows `claim_wakes` selects. -/
def wakeCandidate (relay : Machine) (now : Time) (c : Command) : Bool :=
  c.type = .wakeOnLan && c.status = .pending && c.relayMachineId.isNone && c.expiresAt > now &&
    c.machineId ≠ relay.id

/-- The address `claim_wakes` hands `relay` for a row, if it hands it that row. -/
def claimMac (machines : List Machine) (relay : Machine) (now : Time) (c : Command) :
    Option String :=
  if wakeCandidate relay now c then
    (getMachine machines c.machineId).bind fun target =>
      if mayClaim srv relay target c.createdAt now then Wol.normalizeMac target.macAddress else none
  else none

/-- `claim_wakes`, on one row. -/
def claimRow (machines : List Machine) (relay : Machine) (now : Time) (c : Command) : Command :=
  match claimMac srv machines relay now c with
  | none => c
  | some _ =>
    { c with relayMachineId := some relay.id, status := .delivered, deliveredAt := some now }

/-- What the response carries of a claimed row. -/
def claimOut (machines : List Machine) (relay : Machine) (now : Time) (c : Command) :
    Option CommandOut :=
  (claimMac srv machines relay now c).map fun mac => ⟨c.id, c.type, none, some mac⟩

/-- `relay_label`. -/
def relayLabel (relay : Machine) : String := (present relay.hostname).getD (toString relay.id)

section Claim

variable {srv} {machines : List Machine} {relay : Machine} {now : Time} {c : Command}

/-- What it takes to be handed a wake. -/
theorem claimMac_eq_some {mac : String} (h : claimMac srv machines relay now c = some mac) :
    wakeCandidate relay now c = true ∧
      ∃ target ∈ machines, target.id = c.machineId ∧
        mayClaim srv relay target c.createdAt now = true ∧
        Wol.normalizeMac target.macAddress = some mac := by
  unfold claimMac at h
  split at h
  · rename_i hcand
    obtain ⟨target, hget, hmac⟩ := Option.bind_eq_some_iff.mp h
    obtain ⟨hmem, hid⟩ := getMachine_mem hget
    split at hmac
    · rename_i hmay
      exact ⟨hcand, target, hmem, hid, hmay, hmac⟩
    · cases hmac
  · cases h

/-- The claim rule, with its three parts apart. -/
theorem mayClaim_iff {target : Machine} {queuedAt : Time} :
    mayClaim srv relay target queuedAt now = true ↔
      sharesWire relay target = true ∧ (sameSubnet relay target = true ∨
        now - queuedAt ≥ seconds srv.wolRelaySubnetGraceSeconds) := by
  unfold mayClaim
  by_cases hw : sharesWire relay target = true
  · by_cases hs : sameSubnet relay target = true
    · simp [hw, hs]
    · simp [hw, hs]
  · simp [hw]

end Claim

end Tiai
