import Tiai.Lib.Checked
import Tiai.User.Accounts

/-!
# The routes of users and groups

`api/routes/users.py` and `api/routes/groups.py`: the six requests that change who may do what, past
the request's own validation.  A session is the account it authenticated.  Passwords, sessions, the
audit log and the timestamps are left out; an unhandled exception is the server's 500.
-/

namespace Tiai

/-! ### Answers -/

/-- `AppError.details`. -/
inductive ErrorDetails
  | none
  | permission (resource : Resource) (action : Action)
  | escalation (action : String) (found : Escalation)
  | action (action : String)
  | group (id : Uuid)
  | permissions (unknown : Finset String)
  | places (buildings rooms : Finset Uuid)
  deriving DecidableEq

structure Refusal where
  error : AppError
  details : ErrorDetails
  deriving DecidableEq

/-- What the handler of unhandled exceptions answers. -/
def Refusal.unhandled : Refusal := ⟨⟨.internalServerError, 500, "Internal server error"⟩, .none⟩

/-- `if not …: raise`. -/
def ensure (ok : Bool) (refusal : Refusal) : Except Refusal Unit :=
  if ok then .ok () else .error refusal

/-! ### Payloads -/

/-- A field of a partial update: left out, null, or a value. -/
abbrev Field (α : Type) := Option (Option α)

structure UserCreate where
  email : String
  fullName : Option String
  groupIds : List Uuid

structure UserUpdate where
  email : Field String
  fullName : Field String
  groupIds : Field (List Uuid)
  isActive : Field Bool
  emailPreference : Field EmailPreference

structure ScopeBody where
  locations : List String
  buildings : List Uuid
  rooms : List Uuid

/-- `ScopeBody.to_scope`. -/
def ScopeBody.toScope (body : ScopeBody) : Option Scope :=
  let scope : Scope := ⟨((body.locations.map strip).filter (· ≠ "")).toFinset,
    body.buildings.toFinset, body.rooms.toFinset⟩
  if scope.isEmpty then none else some scope

structure GroupCreate where
  name : String
  description : Option String
  permissions : List String
  scope : Option ScopeBody

structure GroupUpdate where
  name : Field String
  description : Field String
  permissions : Field (List String)
  scope : Field ScopeBody

/-- The requests; a row that is created gets the `uuid4` drawn for it. -/
inductive Request
  | createUser (payload : UserCreate) (id : Uuid)
  | updateUser (userId : Uuid) (payload : UserUpdate)
  | deleteUser (userId : Uuid)
  | createGroup (payload : GroupCreate) (id : Uuid)
  | updateGroup (groupId : Uuid) (payload : GroupUpdate)
  | deleteGroup (groupId : Uuid)

/-! ### Checks -/

/-- `USER_WRITE`. -/
def userWrite : String := permissionKey .user .write

section Checks

variable (srv : Server) (t : Tables) (places : Places)

/-- `require_permission`. -/
def requirePermission (userId : Uuid) (resource : Resource) (action : Action) : Except Refusal Unit :=
  ensure (hasPermission (userPermissions t userId) resource action)
    ⟨⟨.authPermissionDenied, 403, "Missing permission: " ++ resource.value ++ ":" ++ action.value⟩,
      .permission resource action⟩

/-- `_require_user`. -/
def requireUser (userId : Uuid) : Except Refusal User :=
  match t.users.find? (·.id = userId) with
  | some user => .ok user
  | none => .error ⟨⟨.userNotFound, 404, "User not found"⟩, .none⟩

/-- `normalize_email`. -/
def normalizeEmail (email : String) : String := srv.lower (strip email)

/-- `get_by_email`. -/
def getByEmail (email : String) : Option User :=
  t.users.find? fun u => srv.sqlLower u.email = normalizeEmail srv email

/-- `_reject_email_taken`. -/
def rejectEmailTaken (email : String) (exclude : Option Uuid) : Except Refusal Unit :=
  ensure ((getByEmail srv t email).all fun u => some u.id = exclude)
    ⟨⟨.userEmailTaken, 409, "This email is already in use"⟩, .none⟩

/-- `_require_groups_exist`. -/
def requireGroupsExist (groupIds : List Uuid) : Except Refusal Unit :=
  match groupIds.dedup.find? (· ∉ t.groups.map Group.id) with
  | none => .ok ()
  | some id => .error ⟨⟨.groupNotFound, 404, "Group not found"⟩, .group id⟩

/-- `_reject_self`. -/
def rejectSelf (current target : User) (action : String) : Except Refusal Unit :=
  ensure (current.id ≠ target.id)
    ⟨⟨.userSelfForbidden, 400, "You cannot " ++ action ++ " your own account"⟩, .action action⟩

/-- `reject_escalation`. -/
def rejectEscalation (actor target : Authority) (action : String) : Except Refusal Unit :=
  match escalation actor target with
  | none => .ok ()
  | some found => .error ⟨⟨.authPermissionEscalation, 403,
      "You cannot grant or reach rights you do not hold yourself"⟩, .escalation action found⟩

/-- `reject_lockout`, on the rows the commit would leave. -/
def rejectLockout : Except Refusal Unit :=
  ensure (usersHolding t userWrite ≠ 0)
    ⟨⟨.userLockout, 409, "This would leave no active account able to manage accounts"⟩, .none⟩

/-- `_require_group`. -/
def requireGroup (groupId : Uuid) : Except Refusal Group :=
  match t.groups.find? (·.id = groupId) with
  | some group => .ok group
  | none => .error ⟨⟨.groupNotFound, 404, "Group not found"⟩, .none⟩

/-- `_reject_name_taken`. -/
def rejectNameTaken (name : String) (exclude : Option Uuid) : Except Refusal Unit :=
  ensure ((t.groups.find? (·.name = name)).all fun g => some g.id = exclude)
    ⟨⟨.groupNameTaken, 409, "A group with this name already exists"⟩, .none⟩

/-- `_validate_permissions`. -/
def validatePermissions (permissions : List String) : Except Refusal (Finset String) :=
  let unknown := permissions.toFinset \ allPermissions
  if unknown = ∅ then .ok permissions.toFinset
  else .error ⟨⟨.groupPermissionUnknown, 422, "Unknown permission"⟩, .permissions unknown⟩

/-- `_validate_scope`. -/
def validateScope (body : Option ScopeBody) : Except Refusal (Option Scope) :=
  match body.bind ScopeBody.toScope with
  | none => .ok none
  | some scope =>
    let buildings := scope.buildings \ (places.buildings.map Building.id).toFinset
    let rooms := scope.rooms \ (places.rooms.map Room.id).toFinset
    if buildings = ∅ ∧ rooms = ∅ then .ok (some scope)
    else .error ⟨⟨.groupScopeUnknown, 422, "Unknown building or room in scope"⟩,
      .places buildings rooms⟩

end Checks

/-! ### The routes -/

section Routes

variable (srv : Server) (t : Tables) (places : Places) (current : User)

/-- `create_user`. -/
def createUser (payload : UserCreate) (id : Uuid) : Except Refusal Tables := do
  rejectEmailTaken srv t payload.email none
  requireGroupsExist t payload.groupIds
  rejectEscalation (userAuthority t current.id) (groupsAuthority t payload.groupIds) "grant"
  ensure (id ∉ t.users.map User.id) .unhandled
  let user : User := ⟨id, normalizeEmail srv payload.email, payload.fullName, true, .digestDaily⟩
  return setUserGroups { t with users := t.users ++ [user] } id payload.groupIds

/-- The fields a `UserUpdate` sets on the row. -/
def User.apply (u : User) (payload : UserUpdate) : User :=
  { u with
    email := (payload.email.bind (·)).getD u.email
    fullName := payload.fullName.getD u.fullName
    isActive := (payload.isActive.bind (·)).getD u.isActive
    emailPreference := (payload.emailPreference.bind (·)).getD u.emailPreference }

/-- The checks of `update_user` on `group_ids`; `set(None)` fails. -/
def checkGroupChange (user : User) (payload : UserUpdate) : Except Refusal Unit :=
  match payload.groupIds with
  | none => .ok ()
  | some groupIds => do
    rejectSelf current user "change the groups of"
    match groupIds with
    | none => .error .unhandled
    | some groupIds =>
      requireGroupsExist t groupIds
      rejectEscalation (userAuthority t current.id) (groupsAuthority t groupIds) "grant"

/-- Its check on `email`; `normalize_email(None)` fails. -/
def checkEmailChange (user : User) (payload : UserUpdate) : Except Refusal Unit :=
  match payload.email with
  | none => .ok ()
  | some none => .error .unhandled
  | some (some email) =>
    if email ≠ user.email then rejectEmailTaken srv t email (some user.id) else .ok ()

/-- What `update_user` writes. -/
def writeUser (user : User) (payload : UserUpdate) : Tables :=
  let set : Tables :=
    { t with users := t.users.map fun u => if u.id = user.id then u.apply payload else u }
  match payload.groupIds with
  | some (some groupIds) => setUserGroups set user.id groupIds
  | _ => set

/-- `update_user`.  A null in a column that takes none fails when it is written. -/
def updateUser (userId : Uuid) (payload : UserUpdate) : Except Refusal Tables := do
  let user ← requireUser t userId
  rejectEscalation (userAuthority t current.id) (userAuthority t user.id) "edit"
  let deactivating := payload.isActive.any (· ≠ some true)
  ensure (!deactivating || current.id ≠ user.id)
    ⟨⟨.userSelfForbidden, 400, "You cannot deactivate your own account"⟩, .action "deactivate"⟩
  checkGroupChange t current user payload
  checkEmailChange srv t user payload
  ensure (payload.isActive ≠ some none && payload.emailPreference ≠ some none) .unhandled
  rejectLockout (writeUser t user payload)
  return writeUser t user payload

/-- What the deletion of a user cascades to. -/
def dropUser (userId : Uuid) : Tables :=
  { t with
    users := t.users.filter (·.id ≠ userId)
    memberships := t.memberships.filter (·.1 ≠ userId) }

/-- `delete_user`. -/
def deleteUser (userId : Uuid) : Except Refusal Tables := do
  let user ← requireUser t userId
  rejectSelf current user "delete"
  rejectEscalation (userAuthority t current.id) (userAuthority t user.id) "delete"
  rejectLockout (dropUser t user.id)
  return dropUser t user.id

/-- `create_group`. -/
def createGroup (payload : GroupCreate) (id : Uuid) : Except Refusal Tables := do
  rejectNameTaken t payload.name none
  let permissions ← validatePermissions payload.permissions
  let scope ← validateScope places payload.scope
  rejectEscalation (userAuthority t current.id) ⟨false, permissions, scope⟩ "grant"
  ensure (id ∉ t.groups.map Group.id) .unhandled
  let group : Group := ⟨id, payload.name, payload.description, none⟩
  return setGroupScope (setGroupPermissions { t with groups := t.groups ++ [group] } id permissions)
    id scope

/-- The fields a `GroupUpdate` sets on the row. -/
def Group.apply (g : Group) (payload : GroupUpdate) : Group :=
  { g with
    name := (payload.name.bind (·)).getD g.name
    description := payload.description.getD g.description }

/-- The check of `update_group` on `name`. -/
def checkNameChange (group : Group) (payload : GroupUpdate) : Except Refusal Unit :=
  match payload.name with
  | some (some name) =>
    if name ≠ group.name then rejectNameTaken t name (some group.id) else .ok ()
  | _ => .ok ()

/-- The permissions an update sets; `set(None)` fails. -/
def changedPermissions (payload : GroupUpdate) : Except Refusal (Option (Finset String)) :=
  match payload.permissions with
  | none => .ok none
  | some none => .error .unhandled
  | some (some permissions) => do
    let permissions ← validatePermissions permissions
    return some permissions

/-- The scope an update sets. -/
def changedScope (payload : GroupUpdate) : Except Refusal (Option (Option Scope)) :=
  match payload.scope with
  | none => .ok none
  | some body => do
    let scope ← validateScope places body
    return some scope

/-- What `update_group` checks before it grants. -/
def checkGrant (group : Group) (permissions : Option (Finset String))
    (scope : Option (Option Scope)) : Except Refusal Unit :=
  if permissions.isSome ∨ scope.isSome then
    rejectEscalation (userAuthority t current.id)
      ⟨false, permissions.getD (permissionsOfGroup t group.id),
        scope.getD (scopeOfGroup t group.id)⟩ "grant"
  else .ok ()

/-- What `update_group` writes. -/
def writeGroup (group : Group) (payload : GroupUpdate) (permissions : Option (Finset String))
    (scope : Option (Option Scope)) : Tables :=
  let set : Tables :=
    { t with groups := t.groups.map fun g => if g.id = group.id then g.apply payload else g }
  let granted := permissions.elim set (setGroupPermissions set group.id)
  scope.elim granted (setGroupScope granted group.id)

/-- `update_group`. -/
def updateGroup (groupId : Uuid) (payload : GroupUpdate) : Except Refusal Tables := do
  let group ← requireGroup t groupId
  rejectEscalation (userAuthority t current.id) (groupsAuthority t [group.id]) "edit"
  ensure (payload.permissions.isNone || !isAdminGroup group)
    ⟨⟨.groupBuiltinProtected, 400,
      "The administrators' permissions are implicit and cannot be edited"⟩, .none⟩
  checkNameChange t group payload
  let permissions ← changedPermissions payload
  ensure (payload.scope.isNone || !isAdminGroup group)
    ⟨⟨.groupBuiltinProtected, 400, "The administrators' group sees the whole parc"⟩, .none⟩
  let scope ← changedScope places payload
  checkGrant t current group permissions scope
  ensure (payload.name ≠ some none) .unhandled
  rejectLockout (writeGroup t group payload permissions scope)
  return writeGroup t group payload permissions scope

/-- What the deletion of a group cascades to. -/
def dropGroup (groupId : Uuid) : Tables :=
  { t with
    groups := t.groups.filter (·.id ≠ groupId)
    permissions := t.permissions.filter (·.1 ≠ groupId)
    scopes := t.scopes.filter (·.1 ≠ groupId)
    memberships := t.memberships.filter (·.2 ≠ groupId) }

/-- `delete_group`. -/
def deleteGroup (groupId : Uuid) : Except Refusal Tables := do
  let group ← requireGroup t groupId
  ensure group.builtinKey.isNone
    ⟨⟨.groupBuiltinProtected, 400, "Built-in groups cannot be deleted"⟩, .none⟩
  rejectEscalation (userAuthority t current.id) (groupsAuthority t [group.id]) "delete"
  rejectLockout (dropGroup t group.id)
  return dropGroup t group.id

/-- One request of the account `current`, from the routes' dependencies on. -/
def request (req : Request) : Except Refusal Tables := do
  requirePermission t current.id .user .read
  requirePermission t current.id .user .write
  match req with
  | .createUser payload id => createUser srv t current payload id
  | .updateUser userId payload => updateUser srv t current userId payload
  | .deleteUser userId => deleteUser t current userId
  | .createGroup payload id => createGroup t places current payload id
  | .updateGroup groupId payload => updateGroup t places current groupId payload
  | .deleteGroup groupId => deleteGroup t current groupId

end Routes

/-! ### What a successful request has been through -/

open Lib

section Specs

variable {srv : Server} {t t' : Tables} {places : Places} {current : User}

lemma ensure_ok {ok : Bool} {r : Refusal} {u : Unit} (h : ensure ok r = .ok u) : ok = true := by
  unfold ensure at h
  split at h
  · assumption
  · cases h

lemma rejectEscalation_ok {actor target : Authority} {action : String} {u : Unit}
    (h : rejectEscalation actor target action = .ok u) : escalation actor target = none := by
  unfold rejectEscalation at h
  cases he : escalation actor target with
  | none => rfl
  | some found => rw [he] at h; cases h

lemma requireGroupsExist_ok {groupIds : List Uuid} {u : Unit}
    (h : requireGroupsExist t groupIds = .ok u) :
    ∀ g ∈ groupIds, g ∈ t.groups.map Group.id := by
  unfold requireGroupsExist at h
  split at h
  · rename_i hnone
    intro g hg
    have := List.find?_eq_none.mp hnone g (List.mem_dedup.mpr hg)
    simpa using this
  · cases h

lemma requireGroup_ok {groupId : Uuid} {group : Group} (h : requireGroup t groupId = .ok group) :
    group ∈ t.groups ∧ group.id = groupId := by
  unfold requireGroup at h
  split at h
  · rename_i g hg
    cases h
    exact ⟨List.mem_of_find?_eq_some hg, by simpa using List.find?_some hg⟩
  · cases h

lemma validatePermissions_ok {permissions : List String} {granted : Finset String}
    (h : validatePermissions permissions = .ok granted) :
    granted = permissions.toFinset ∧ granted ⊆ allPermissions := by
  unfold validatePermissions at h
  dsimp only at h
  split at h
  · rename_i hnone
    cases h
    exact ⟨rfl, Finset.sdiff_eq_empty_iff_subset.mp hnone⟩
  · cases h

lemma validateScope_ok {body : Option ScopeBody} {scope : Option Scope}
    (h : validateScope places body = .ok scope) :
    scope = body.bind ScopeBody.toScope := by
  unfold validateScope at h
  split at h
  · rename_i hnone
    cases h
    exact hnone.symm
  · rename_i s hs
    dsimp only at h
    split at h
    · cases h
      exact hs.symm
    · cases h

lemma createUser_ok {payload : UserCreate} {id : Uuid}
    (h : createUser srv t current payload id = .ok t') :
    (∀ g ∈ payload.groupIds, g ∈ t.groups.map Group.id) ∧
      escalation (userAuthority t current.id) (groupsAuthority t payload.groupIds) = none ∧
      ∃ users, t' = setUserGroups { t with users := users } id payload.groupIds := by
  unfold createUser at h
  obtain ⟨-, -, h⟩ := bind_eq_ok h
  obtain ⟨_, hexist, h⟩ := bind_eq_ok h
  obtain ⟨_, hgrant, h⟩ := bind_eq_ok h
  obtain ⟨-, -, h⟩ := bind_eq_ok h
  cases h
  exact ⟨requireGroupsExist_ok hexist, rejectEscalation_ok hgrant, _, rfl⟩

lemma checkGroupChange_ok {user : User} {payload : UserUpdate} {u : Unit}
    (h : checkGroupChange t current user payload = .ok u) {groupIds : List Uuid}
    (hids : payload.groupIds = some (some groupIds)) :
    (∀ g ∈ groupIds, g ∈ t.groups.map Group.id) ∧
      escalation (userAuthority t current.id) (groupsAuthority t groupIds) = none := by
  unfold checkGroupChange at h
  rw [hids] at h
  obtain ⟨-, -, h⟩ := bind_eq_ok h
  obtain ⟨_, hexist, h⟩ := bind_eq_ok h
  exact ⟨requireGroupsExist_ok hexist, rejectEscalation_ok h⟩

lemma updateUser_ok {userId : Uuid} {payload : UserUpdate}
    (h : updateUser srv t current userId payload = .ok t') :
    ∃ user u, checkGroupChange t current user payload = .ok u ∧ t' = writeUser t user payload := by
  unfold updateUser at h
  obtain ⟨user, -, h⟩ := bind_eq_ok h
  obtain ⟨-, -, h⟩ := bind_eq_ok h
  obtain ⟨-, -, h⟩ := bind_eq_ok h
  obtain ⟨u, hgroups, h⟩ := bind_eq_ok h
  obtain ⟨-, -, h⟩ := bind_eq_ok h
  obtain ⟨-, -, h⟩ := bind_eq_ok h
  obtain ⟨-, -, h⟩ := bind_eq_ok h
  cases h
  exact ⟨user, u, hgroups, rfl⟩

lemma deleteUser_ok {userId : Uuid} (h : deleteUser t current userId = .ok t') :
    ∃ id, t' = dropUser t id := by
  unfold deleteUser at h
  obtain ⟨user, -, h⟩ := bind_eq_ok h
  obtain ⟨-, -, h⟩ := bind_eq_ok h
  obtain ⟨-, -, h⟩ := bind_eq_ok h
  obtain ⟨-, -, h⟩ := bind_eq_ok h
  cases h
  exact ⟨user.id, rfl⟩

lemma createGroup_ok {payload : GroupCreate} {id : Uuid}
    (h : createGroup t places current payload id = .ok t') :
    ∃ group permissions scope, group.id = id ∧ id ∉ t.groups.map Group.id ∧
      permissions ⊆ allPermissions ∧
      t' = setGroupScope (setGroupPermissions { t with groups := t.groups ++ [group] } id
        permissions) id scope := by
  unfold createGroup at h
  obtain ⟨-, -, h⟩ := bind_eq_ok h
  obtain ⟨permissions, hperms, h⟩ := bind_eq_ok h
  obtain ⟨scope, -, h⟩ := bind_eq_ok h
  obtain ⟨-, -, h⟩ := bind_eq_ok h
  obtain ⟨_, hfresh, h⟩ := bind_eq_ok h
  cases h
  exact ⟨_, permissions, scope, rfl, by simpa using ensure_ok hfresh,
    (validatePermissions_ok hperms).2, rfl⟩

/-- What `update_group` has been through. -/
structure GroupUpdated (t : Tables) (places : Places) (current : User) (groupId : Uuid)
    (payload : GroupUpdate) (group : Group) (permissions : Option (Finset String))
    (scope : Option (Option Scope)) : Prop where
  mem : group ∈ t.groups
  id_eq : group.id = groupId
  edit : escalation (userAuthority t current.id) (groupsAuthority t [groupId]) = none
  permissions_eq : permissions = payload.permissions.bind fun p => p.map List.toFinset
  catalogued : ∀ p ∈ permissions, p ⊆ allPermissions
  scope_eq : scope = payload.scope.map fun body => body.bind ScopeBody.toScope
  plain : permissions.isSome ∨ scope.isSome → isAdminGroup group = false
  grant : permissions.isSome ∨ scope.isSome → escalation (userAuthority t current.id)
    ⟨false, permissions.getD (permissionsOfGroup t groupId),
      scope.getD (scopeOfGroup t groupId)⟩ = none

lemma changedPermissions_ok {payload : GroupUpdate} {permissions : Option (Finset String)}
    (h : changedPermissions payload = .ok permissions) :
    permissions = (payload.permissions.bind fun p => p.map List.toFinset) ∧
      (permissions.isSome → payload.permissions.isNone = false) ∧
      ∀ p ∈ permissions, p ⊆ allPermissions := by
  unfold changedPermissions at h
  split at h
  · rename_i hnone
    cases h
    exact ⟨by rw [hnone]; rfl, nofun, nofun⟩
  · cases h
  · rename_i list hsome
    obtain ⟨granted, hgranted, h⟩ := bind_eq_ok h
    cases h
    obtain ⟨rfl, hsub⟩ := validatePermissions_ok hgranted
    refine ⟨by rw [hsome]; rfl, fun _ => by rw [hsome]; rfl, fun p hp => ?_⟩
    cases hp
    exact hsub

lemma changedScope_ok {payload : GroupUpdate} {scope : Option (Option Scope)}
    (h : changedScope places payload = .ok scope) :
    scope = (payload.scope.map fun body => body.bind ScopeBody.toScope) ∧
      (scope.isSome → payload.scope.isNone = false) := by
  unfold changedScope at h
  split at h
  · rename_i hnone
    cases h
    exact ⟨by rw [hnone]; rfl, nofun⟩
  · rename_i body hsome
    obtain ⟨s, hs, h⟩ := bind_eq_ok h
    cases h
    obtain rfl := validateScope_ok hs
    exact ⟨by rw [hsome]; rfl, fun _ => by rw [hsome]; rfl⟩

lemma updateGroup_ok {groupId : Uuid} {payload : GroupUpdate}
    (h : updateGroup t places current groupId payload = .ok t') :
    ∃ group permissions scope,
      GroupUpdated t places current groupId payload group permissions scope ∧
      t' = writeGroup t group payload permissions scope := by
  unfold updateGroup at h
  obtain ⟨group, hgroup, h⟩ := bind_eq_ok h
  obtain ⟨_, hedit, h⟩ := bind_eq_ok h
  obtain ⟨_, hpadmin, h⟩ := bind_eq_ok h
  obtain ⟨_, -, h⟩ := bind_eq_ok h
  obtain ⟨permissions, hpermissions, h⟩ := bind_eq_ok h
  obtain ⟨_, hsadmin, h⟩ := bind_eq_ok h
  obtain ⟨scope, hscope, h⟩ := bind_eq_ok h
  obtain ⟨_, hgrant, h⟩ := bind_eq_ok h
  obtain ⟨_, -, h⟩ := bind_eq_ok h
  obtain ⟨_, -, h⟩ := bind_eq_ok h
  cases h
  obtain ⟨hmem, rfl⟩ := requireGroup_ok hgroup
  obtain ⟨hpeq, hpgiven, hpcat⟩ := changedPermissions_ok hpermissions
  obtain ⟨hseq, hsgiven⟩ := changedScope_ok hscope
  refine ⟨group, permissions, scope, ⟨hmem, rfl, rejectEscalation_ok hedit, hpeq, hpcat, hseq,
    fun hchange => ?_, fun hchange => ?_⟩, rfl⟩
  · rcases hchange with hp | hs
    · have := ensure_ok hpadmin
      rw [hpgiven hp] at this
      simpa using this
    · have := ensure_ok hsadmin
      rw [hsgiven hs] at this
      simpa using this
  · unfold checkGrant at hgrant
    rw [if_pos hchange] at hgrant
    exact rejectEscalation_ok hgrant

lemma deleteGroup_ok {groupId : Uuid} (h : deleteGroup t current groupId = .ok t') :
    ∃ id, t' = dropGroup t id := by
  unfold deleteGroup at h
  obtain ⟨group, -, h⟩ := bind_eq_ok h
  obtain ⟨_, -, h⟩ := bind_eq_ok h
  obtain ⟨_, -, h⟩ := bind_eq_ok h
  obtain ⟨_, -, h⟩ := bind_eq_ok h
  cases h
  exact ⟨group.id, rfl⟩

end Specs

end Tiai
