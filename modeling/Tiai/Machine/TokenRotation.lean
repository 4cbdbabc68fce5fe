import Tiai.Machine.Model

/-!
# Renewing a machine's token

`features/machine/token_rotation.py`.  The three moves of the protocol — offer, re-offer, promotion —
and `machine_for_token`, which recognises the current token or the pending one and promotes the
latter on its first use.  `Machine.accepts` is what `get_current_machine` makes of the answer: a row
that is found and not revoked.
-/

namespace Tiai

variable (srv : Server)

def rotationDue (m : Machine) (now : Time) (rotateDays : ℕ) : Bool :=
  if rotateDays = 0 then false
  else if m.pendingTokenHash.isSome then true
  else decide (now - m.tokenIssuedAt ≥ days rotateDays)

/-- `offer_new_token`, with the token `generate_token` drew. -/
def offerNewToken (m : Machine) (token : Token) : Machine :=
  { m with pendingTokenHash := some (srv.hashToken token) }

def promotePending (m : Machine) (now : Time) : Machine :=
  { m with tokenHash := m.pendingTokenHash, pendingTokenHash := none, tokenIssuedAt := now }

def resetRotation (m : Machine) : Machine := { m with pendingTokenHash := none }

/-- The row the query of `machine_for_token` selects: one of its two hashes is the token's. -/
def Machine.knows (m : Machine) (token : Token) : Bool :=
  m.tokenHash = some (srv.hashToken token) || m.pendingTokenHash = some (srv.hashToken token)

/-- What `machine_for_token` does to the row it selected: a revoked row is returned untouched, and
so is one whose current token was presented; otherwise the pending token takes over. -/
def Machine.present (m : Machine) (token : Token) (now : Time) : Machine :=
  if m.tokenRevoked ∨ m.tokenHash = some (srv.hashToken token) then m else promotePending m now

/-- `machine_for_token`: the first matching row, and the table after the promotion it may commit. -/
def machineForToken (machines : List Machine) (token : Token) (now : Time) :
    List Machine × Option Machine :=
  match machines.find? (·.knows srv token) with
  | none => (machines, none)
  | some m => (writeMachine machines (m.present srv token now), some (m.present srv token now))

/-- `get_current_machine` past its header checks. -/
def getCurrentMachine (machines : List Machine) (token : Token) (now : Time) :
    List Machine × Except AppError Machine :=
  match machineForToken srv machines token now with
  | (ms, none) => (ms, .error ⟨.authTokenInvalid, 401, "Invalid token"⟩)
  | (ms, some m) =>
    if m.tokenRevoked then (ms, .error ⟨.authTokenRevoked, 401, "Token revoked"⟩) else (ms, .ok m)

/-- The row answers a request that carries this token. -/
def Machine.accepts (m : Machine) (token : Token) : Bool := m.knows srv token && !m.tokenRevoked

section API

variable {srv} {m : Machine} {t : Token} {now : Time}

lemma knows_iff : m.knows srv t = true ↔
    m.tokenHash = some (srv.hashToken t) ∨ m.pendingTokenHash = some (srv.hashToken t) := by
  simp [Machine.knows]

lemma accepts_iff : m.accepts srv t = true ↔
    (m.tokenHash = some (srv.hashToken t) ∨ m.pendingTokenHash = some (srv.hashToken t)) ∧
      m.tokenRevoked = false := by
  simp [Machine.accepts, Machine.knows]

@[simp] lemma present_id : (m.present srv t now).id = m.id := by
  unfold Machine.present; split <;> rfl

@[simp] lemma present_tokenRevoked : (m.present srv t now).tokenRevoked = m.tokenRevoked := by
  unfold Machine.present; split <;> rfl

/-- Whichever of its two tokens an unrevoked row is presented with, that token is current
afterwards. -/
lemma present_tokenHash (now : Time) (h : m.accepts srv t = true) :
    (m.present srv t now).tokenHash = some (srv.hashToken t) := by
  obtain ⟨hk, hr⟩ := accepts_iff.mp h
  unfold Machine.present
  split
  · rename_i hc
    simpa [hr] using hc
  · rename_i hc
    rw [hr] at hc
    have hcur : m.tokenHash ≠ some (srv.hashToken t) := fun he => hc (Or.inr he)
    exact hk.resolve_left hcur

/-- The token that was presented is what `get_current_machine` accepts the next request with. -/
lemma present_accepts (h : m.accepts srv t = true) : (m.present srv t now).accepts srv t = true := by
  rw [accepts_iff, present_tokenHash now h, present_tokenRevoked]
  exact ⟨Or.inl rfl, (accepts_iff.mp h).2⟩

/-- In a table where one row alone knows the token, the request is that row's. -/
lemma getCurrentMachine_of_accepts {machines : List Machine} (hm : m ∈ machines)
    (huniq : ∀ x ∈ machines, x.knows srv t = true → x = m) (h : m.accepts srv t = true) :
    getCurrentMachine srv machines t now =
      (writeMachine machines (m.present srv t now), .ok (m.present srv t now)) := by
  have hfind : machines.find? (·.knows srv t) = some m := by
    cases hf : machines.find? (·.knows srv t) with
    | none =>
      have := List.find?_eq_none.mp hf m hm
      simp [knows_iff.mpr (accepts_iff.mp h).1] at this
    | some x => rw [huniq x (List.mem_of_find?_eq_some hf) (by simpa using List.find?_some hf)]
  simp [getCurrentMachine, machineForToken, hfind, (accepts_iff.mp h).2]

/-- A token that only one row may know, and that this row does not accept, is refused; nothing is
written. -/
lemma getCurrentMachine_of_not_accepts (now : Time) {machines : List Machine}
    (hids : (machines.map Machine.id).Nodup) (huniq : ∀ x ∈ machines, x.knows srv t = true → x = m)
    (h : m.accepts srv t = false) :
    ∃ e, getCurrentMachine srv machines t now = (machines, .error e) := by
  unfold getCurrentMachine machineForToken
  cases hf : machines.find? (·.knows srv t) with
  | none => exact ⟨_, rfl⟩
  | some x =>
    have hx : x ∈ machines := List.mem_of_find?_eq_some hf
    have hk : x.knows srv t = true := by simpa using List.find?_some hf
    obtain rfl := huniq x hx hk
    have hr : x.tokenRevoked = true := by simpa [Machine.accepts, hk] using h
    have hp : x.present srv t now = x := by simp [Machine.present, hr]
    refine ⟨⟨.authTokenRevoked, 401, "Token revoked"⟩, ?_⟩
    simp [hp, hr, writeMachine_of_mem hids hx]

end API

end Tiai
