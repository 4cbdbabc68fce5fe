import Mathlib.Data.Finset.SDiff
import Tiai.User.Scope

/-!
# What an account may hand out

`features/user/permissions.py`: the catalogue of permissions, and the rule against escalation.
-/

namespace Tiai

/-- `Resource`. -/
inductive Resource
  | machine | threat | command | riskyCommand | room | intervention | check | maintenance | settings
  | user | audit | package
  deriving DecidableEq, Repr

def Resource.value : Resource → String
  | machine => "machine"
  | threat => "threat"
  | command => "command"
  | riskyCommand => "risky_command"
  | room => "room"
  | intervention => "intervention"
  | check => "check"
  | maintenance => "maintenance"
  | settings => "settings"
  | user => "user"
  | audit => "audit"
  | package => "package"

/-- `Action`. -/
inductive Action
  | read | write | execute
  deriving DecidableEq, Repr

def Action.value : Action → String
  | read => "read"
  | write => "write"
  | execute => "execute"

/-- `PERMISSION_CATALOGUE`. -/
def permissionCatalogue : List (Resource × Action) :=
  [(.machine, .read), (.machine, .write), (.threat, .read), (.command, .read), (.command, .execute),
    (.riskyCommand, .execute), (.room, .read), (.room, .write), (.intervention, .read),
    (.intervention, .write), (.check, .read), (.check, .write), (.maintenance, .read),
    (.maintenance, .write), (.settings, .read), (.settings, .write), (.user, .read), (.user, .write),
    (.audit, .read), (.package, .read), (.package, .write)]

/-- `permission_key`. -/
def permissionKey (resource : Resource) (action : Action) : String :=
  resource.value ++ ":" ++ action.value

/-- `ALL_PERMISSIONS`. -/
def allPermissions : Finset String :=
  (permissionCatalogue.map fun (r, a) => permissionKey r a).toFinset

/-- `has_permission`. -/
def hasPermission (permissions : Finset String) (resource : Resource) (action : Action) : Bool :=
  permissionKey resource action ∈ permissions

/-- `BuiltinGroup`. -/
inductive BuiltinGroup
  | admin | readonly | technician
  deriving DecidableEq, Repr

/-! ### No escalation -/

/-- `Authority`. -/
structure Authority where
  isAdmin : Bool
  permissions : Finset String
  scope : Option Scope
  deriving DecidableEq

/-- `Escalation`. -/
structure Escalation where
  missing : Finset String
  admin : Bool
  widerScope : Bool
  deriving DecidableEq

/-- `escalation`. -/
def escalation (actor target : Authority) : Option Escalation :=
  if actor.isAdmin then none
  else
    let missing := target.permissions \ actor.permissions
    let widerScope := scopeWider actor.scope target.scope
    if missing = ∅ ∧ target.isAdmin = false ∧ widerScope = false then none
    else some ⟨missing, target.isAdmin, widerScope⟩

/-- **What is let through** is the administrator's, or holds no permission and reaches no machine
that the actor does not. -/
theorem escalation_eq_none {actor target : Authority} (h : escalation actor target = none) :
    actor.isAdmin = true ∨ (target.permissions ⊆ actor.permissions ∧ target.isAdmin = false ∧
      ∀ places m, visible places target.scope m = true → visible places actor.scope m = true) := by
  unfold escalation at h
  split at h
  · rename_i hadmin
    exact Or.inl hadmin
  · dsimp only at h
    split at h
    · rename_i hnone
      obtain ⟨hmissing, hadmin, hwider⟩ := hnone
      exact Or.inr ⟨Finset.sdiff_eq_empty_iff_subset.mp hmissing, hadmin,
        fun places m hm => visible_of_not_wider hwider hm⟩
    · cases h

end Tiai
