import Tiai.Lib.Checked
import Tiai.Lib.Column
import Tiai.Lib.Runs
import Tiai.Lib.Store
import Tiai.User.Routes

/-!
# Who may manage accounts, when requests overlap

The four requests that `reject_lockout` guards, each a transaction of its own: it reads committed rows
and checks (`plan`), writes and counts who is left on the committed rows (`count`), and commits what it
wrote (`commit`).  Anything may commit in between.

* `Change` — what a request writes, column by column; `request_alone` — run alone, a transaction is the
  route;
* `holdsVia` — an active account holds a permission through one of its groups;
* `never_locked_out` — when every commit finds one of the accounts it counted still as it was counted.
-/

namespace Tiai.Lockout

open Lib

/-! ### What a request writes -/

/-- The requests that `reject_lockout` guards. -/
inductive Edit
  | updateUser (userId : Uuid) (payload : UserUpdate)
  | deleteUser (userId : Uuid)
  | updateGroup (groupId : Uuid) (payload : GroupUpdate)
  | deleteGroup (groupId : Uuid)

def Edit.request : Edit → Request
  | .updateUser userId payload => .updateUser userId payload
  | .deleteUser userId => .deleteUser userId
  | .updateGroup groupId payload => .updateGroup groupId payload
  | .deleteGroup groupId => .deleteGroup groupId

/-- What a request that passed its checks writes: the row it read, and what becomes of it. -/
inductive Change
  | updateUser (read : User) (payload : UserUpdate)
  | deleteUser (read : User)
  | updateGroup (read : Group) (payload : GroupUpdate) (permissions : Option (Finset String))
    (scope : Option (Option Scope))
  | deleteGroup (read : Group)

/-- The columns of a row that an update has changed. -/
def userWriteBack (read new current : User) : User where
  id := current.id
  email := writeBack read.email new.email current.email
  fullName := writeBack read.fullName new.fullName current.fullName
  isActive := writeBack read.isActive new.isActive current.isActive
  emailPreference := writeBack read.emailPreference new.emailPreference current.emailPreference

def groupWriteBack (read new current : Group) : Group where
  id := current.id
  name := writeBack read.name new.name current.name
  description := writeBack read.description new.description current.description
  builtinKey := current.builtinKey

/-- The tables after the write, from the rows committed by then. -/
def Change.apply (t : Tables) : Change → Tables
  | .updateUser read payload =>
    let set : Tables :=
      { t with users := t.users.map fun u =>
          if u.id = read.id then userWriteBack read (read.apply payload) u else u }
    match payload.groupIds with
    | some (some groupIds) => setUserGroups set read.id groupIds
    | _ => set
  | .deleteUser read => dropUser t read.id
  | .updateGroup read payload permissions scope =>
    let set : Tables :=
      { t with groups := t.groups.map fun g =>
          if g.id = read.id then groupWriteBack read (read.apply payload) g else g }
    let granted := permissions.elim set (setGroupPermissions set read.id)
    scope.elim granted (setGroupScope granted read.id)
  | .deleteGroup read => dropGroup t read.id

section Plan

variable (srv : Server) (t : Tables) (places : Places) (current : User)

/-- `update_user`, up to its writes. -/
def planUpdateUser (userId : Uuid) (payload : UserUpdate) : Except Refusal Change := do
  let user ← requireUser t userId
  rejectEscalation (userAuthority t current.id) (userAuthority t user.id) "edit"
  let deactivating := payload.isActive.any (· ≠ some true)
  ensure (!deactivating || current.id ≠ user.id)
    ⟨⟨.userSelfForbidden, 400, "You cannot deactivate your own account"⟩, .action "deactivate"⟩
  checkGroupChange t current user payload
  checkEmailChange srv t user payload
  ensure (payload.isActive ≠ some none && payload.emailPreference ≠ some none) .unhandled
  return .updateUser user payload

/-- `delete_user`, up to its writes. -/
def planDeleteUser (userId : Uuid) : Except Refusal Change := do
  let user ← requireUser t userId
  rejectSelf current user "delete"
  rejectEscalation (userAuthority t current.id) (userAuthority t user.id) "delete"
  return .deleteUser user

/-- `update_group`, up to its writes. -/
def planUpdateGroup (groupId : Uuid) (payload : GroupUpdate) : Except Refusal Change := do
  let group ← requireGroup t groupId
  rejectEscalation (userAuthority t current.id) (groupsAuthority t [group.id]) "edit"
  ensure (payload.permissions.isNone || !isAdminGroup group)
    ⟨⟨.groupBuiltinProtected, 400,
      "The administrators' permissions are implicit and cannot be edited"⟩, .none⟩
  checkNameChange t group payload
  let permissions ← changedPermissions payload
  ensure (payload.scope.isNone || !isAdminGroup group)
    ⟨⟨.groupBuiltinProtected, 400, "The administrators' group sees the whole parc"⟩, .none⟩
  let scope ← changedScope places payload
  checkGrant t current group permissions scope
  ensure (payload.name ≠ some none) .unhandled
  return .updateGroup group payload permissions scope

/-- `delete_group`, up to its writes. -/
def planDeleteGroup (groupId : Uuid) : Except Refusal Change := do
  let group ← requireGroup t groupId
  ensure group.builtinKey.isNone
    ⟨⟨.groupBuiltinProtected, 400, "Built-in groups cannot be deleted"⟩, .none⟩
  rejectEscalation (userAuthority t current.id) (groupsAuthority t [group.id]) "delete"
  return .deleteGroup group

/-- A guarded request, up to its writes. -/
def plan (edit : Edit) : Except Refusal Change := do
  requirePermission t current.id .user .read
  requirePermission t current.id .user .write
  match edit with
  | .updateUser userId payload => planUpdateUser srv t current userId payload
  | .deleteUser userId => planDeleteUser t current userId
  | .updateGroup groupId payload => planUpdateGroup t places current groupId payload
  | .deleteGroup groupId => planDeleteGroup t current groupId

end Plan

/-! ### Alone -/

section Alone

variable {srv : Server} {t : Tables} {places : Places} {current : User}

lemma writeBack_self {α : Type} [DecidableEq α] (read new : α) : writeBack read new read = new :=
  writeBack_eq_new fun h => h

lemma userWriteBack_self (read : User) (payload : UserUpdate) :
    userWriteBack read (read.apply payload) read = read.apply payload := by
  simp only [userWriteBack, writeBack_self]
  rfl

lemma groupWriteBack_self (read : Group) (payload : GroupUpdate) :
    groupWriteBack read (read.apply payload) read = read.apply payload := by
  simp only [groupWriteBack, writeBack_self]
  rfl

/-- On the rows it read, a change is what the route writes. -/
lemma apply_updateUser (hids : (t.users.map User.id).Nodup) {user : User} (hmem : user ∈ t.users)
    (payload : UserUpdate) :
    (Change.updateUser user payload).apply t = writeUser t user payload := by
  have hmap : (t.users.map fun u =>
      if u.id = user.id then userWriteBack user (user.apply payload) u else u) =
        t.users.map fun u => if u.id = user.id then u.apply payload else u := by
    refine List.map_congr_left fun u hu => ?_
    split
    · rename_i hid
      rw [List.inj_on_of_nodup_map hids hu hmem hid, userWriteBack_self]
    · rfl
  unfold Change.apply writeUser
  rcases hgroups : payload.groupIds with _ | _ | groupIds
  · simp only [hgroups, hmap]
  · simp only [hgroups, hmap]
  · simp only [hgroups, hmap]

lemma apply_updateGroup (hids : (t.groups.map Group.id).Nodup) {group : Group}
    (hmem : group ∈ t.groups) (payload : GroupUpdate) (permissions : Option (Finset String))
    (scope : Option (Option Scope)) :
    (Change.updateGroup group payload permissions scope).apply t =
      writeGroup t group payload permissions scope := by
  have hmap : (t.groups.map fun g =>
      if g.id = group.id then groupWriteBack group (group.apply payload) g else g) =
        t.groups.map fun g => if g.id = group.id then g.apply payload else g := by
    refine List.map_congr_left fun g hg => ?_
    split
    · rename_i hid
      rw [List.inj_on_of_nodup_map hids hg hmem hid, groupWriteBack_self]
    · rfl
  simp only [Change.apply, writeGroup, hmap]

lemma requireUser_ok {userId : Uuid} {user : User} (h : requireUser t userId = .ok user) :
    user ∈ t.users := by
  unfold requireUser at h
  split at h
  · rename_i u hu
    cases h
    exact List.mem_of_find?_eq_some hu
  · cases h

/-- **Run alone, a transaction is the route.** -/
theorem request_alone (husers : (t.users.map User.id).Nodup) (hgroups : (t.groups.map Group.id).Nodup)
    (edit : Edit) : request srv t places current edit.request = do
      let change ← plan srv t places current edit
      rejectLockout (change.apply t)
      return change.apply t := by
  unfold request plan
  simp only [bind_assoc]
  congr 1
  funext _
  congr 1
  funext _
  cases edit with
  | updateUser userId payload =>
    simp only [Edit.request, updateUser, planUpdateUser, bind_assoc]
    cases h : requireUser t userId with
    | error refusal => rfl
    | ok user =>
      have happly := apply_updateUser husers (requireUser_ok h) payload
      simp only [ok_bind, pure_bind, happly]
  | deleteUser userId =>
    simp only [Edit.request, deleteUser, planDeleteUser, bind_assoc, pure_bind]
    rfl
  | updateGroup groupId payload =>
    simp only [Edit.request, updateGroup, planUpdateGroup, bind_assoc]
    cases h : requireGroup t groupId with
    | error refusal => rfl
    | ok group =>
      have happly := apply_updateGroup hgroups (requireGroup_ok h).1 payload
      simp only [ok_bind, pure_bind, happly]
  | deleteGroup groupId =>
    simp only [Edit.request, deleteGroup, planDeleteGroup, bind_assoc, pure_bind]
    rfl

end Alone

/-! ### Overlapping requests -/

/-- A transaction: what it writes, and the rows it counted on, once it has counted. -/
structure Txn where
  change : Change
  counted : Option Tables

/-- The committed rows, and the transactions under way. -/
structure State where
  committed : Tables
  running : Store ℕ Txn

/-- One statement of one transaction.  Row locks are left out: they forbid some orders, and add none. -/
inductive Event
  | read (txn : ℕ) (current : User) (edit : Edit)
  | count (txn : ℕ)
  | commit (txn : ℕ)

variable (srv : Server) (places : Places)

def step (s : State) : Event → State
  | .read txn current edit =>
    match s.running.get txn, plan srv s.committed places current edit with
    | none, .ok change => { s with running := s.running.put txn ⟨change, none⟩ }
    | _, _ => s
  | .count txn =>
    match s.running.get txn with
    | some ⟨change, none⟩ =>
      match rejectLockout (change.apply s.committed) with
      | .ok _ => { s with running := s.running.put txn ⟨change, some s.committed⟩ }
      | .error _ => { s with running := s.running.drop (· = txn) }
    | _ => s
  | .commit txn =>
    match s.running.get txn with
    | some ⟨change, some _⟩ => ⟨change.apply s.committed, s.running.drop (· = txn)⟩
    | _ => s

def start (t : Tables) : State := ⟨t, []⟩

/-! ### Holding a permission -/

def active (t : Tables) (userId : Uuid) : Bool := t.users.any fun u => u.id = userId && u.isActive

/-- The group grants the permission. -/
def grants (t : Tables) (permission : String) (groupId : Uuid) : Bool :=
  t.groups.any fun g => g.id = groupId && (isAdminGroup g || permission ∈ t.stored groupId)

/-- The active account holds the permission through the group. -/
def holdsVia (t : Tables) (permission : String) (userId groupId : Uuid) : Bool :=
  active t userId && (userId, groupId) ∈ t.memberships && grants t permission groupId

/-- Nothing of what made the account count through the group was taken away since: its row, its
activation, the membership, the group's row, its being the administrators', its permission. -/
structure Kept (counted now : Tables) (permission : String) (userId groupId : Uuid) : Prop where
  user : userId ∈ counted.users.map User.id → userId ∈ now.users.map User.id
  active : active counted userId = true → active now userId = true
  member : (userId, groupId) ∈ counted.memberships → (userId, groupId) ∈ now.memberships
  group : groupId ∈ counted.groups.map Group.id → groupId ∈ now.groups.map Group.id
  admin : counted.adminId groupId = true → now.adminId groupId = true
  stored : permission ∈ counted.stored groupId → permission ∈ now.stored groupId

instance (counted now : Tables) (permission : String) (userId groupId : Uuid) :
    Decidable (Kept counted now permission userId groupId) :=
  decidable_of_iff
    ((userId ∈ counted.users.map User.id → userId ∈ now.users.map User.id) ∧
      (Lockout.active counted userId = true → Lockout.active now userId = true) ∧
      ((userId, groupId) ∈ counted.memberships → (userId, groupId) ∈ now.memberships) ∧
      (groupId ∈ counted.groups.map Group.id → groupId ∈ now.groups.map Group.id) ∧
      (counted.adminId groupId = true → now.adminId groupId = true) ∧
      (permission ∈ counted.stored groupId → permission ∈ now.stored groupId))
    ⟨fun ⟨h₁, h₂, h₃, h₄, h₅, h₆⟩ => ⟨h₁, h₂, h₃, h₄, h₅, h₆⟩,
      fun ⟨h₁, h₂, h₃, h₄, h₅, h₆⟩ => ⟨h₁, h₂, h₃, h₄, h₅, h₆⟩⟩

/-- **The condition.**  At its commit, a request finds one of the accounts it counted still as it was when
it counted. -/
def CountStands (s : State) : Event → Prop
  | .commit txn =>
    match s.running.get txn with
    | some ⟨change, some counted⟩ =>
      ∃ m ∈ (change.apply counted).memberships,
        holdsVia (change.apply counted) userWrite m.1 m.2 = true ∧
          Kept counted s.committed userWrite m.1 m.2
    | _ => True
  | _ => True

instance (s : State) (e : Event) : Decidable (CountStands s e) := by
  unfold CountStands
  split
  · split <;> infer_instance
  · infer_instance

/-! ### Counting -/

section Counting

variable {t counted now : Tables} {permission : String} {userId groupId : Uuid}

lemma active_iff : active t userId = true ↔ ∃ u ∈ t.users, u.id = userId ∧ u.isActive = true := by
  simp [active]

lemma grants_iff : grants t permission groupId = true ↔ ∃ g ∈ t.groups, g.id = groupId ∧
    (isAdminGroup g = true ∨ permission ∈ t.stored groupId) := by
  simp [grants]

lemma holdsVia_iff : holdsVia t permission userId groupId = true ↔ active t userId = true ∧
    (userId, groupId) ∈ t.memberships ∧ grants t permission groupId = true := by
  simp [holdsVia, and_assoc]

/-- The count is of those who hold it through some group. -/
lemma usersHolding_ne_zero : usersHolding t permission ≠ 0 ↔
    ∃ userId groupId, holdsVia t permission userId groupId = true := by
  rw [usersHolding, Nat.ne_zero_iff_zero_lt, List.length_pos_iff_exists_mem]
  constructor
  · rintro ⟨u, hu⟩
    obtain ⟨hmem, hholds⟩ := List.mem_filter.1 hu
    rw [Bool.and_eq_true] at hholds
    obtain ⟨g, hg, hgrants⟩ := List.any_eq_true.1 hholds.2
    refine ⟨u.id, g, holdsVia_iff.2 ⟨active_iff.2 ⟨u, hmem, rfl, hholds.1⟩, mem_userGroupIds.1 hg, ?_⟩⟩
    unfold grants
    exact hgrants
  · rintro ⟨userId, groupId, h⟩
    obtain ⟨hactive, hmember, hgrants⟩ := holdsVia_iff.1 h
    obtain ⟨u, hmem, rfl, hisActive⟩ := active_iff.1 hactive
    refine ⟨u, List.mem_filter.2 ⟨hmem, ?_⟩⟩
    rw [Bool.and_eq_true]
    exact ⟨hisActive, List.any_eq_true.2 ⟨groupId, mem_userGroupIds.2 hmember, hgrants⟩⟩

/-! ### What a change makes of an account that counts -/

/-- Each column of a row that is still there is what the change made it, or what it was. -/
lemma active_update {read new : User} (hnew : active
      { counted with users := counted.users.map fun u =>
          if u.id = read.id then userWriteBack read new u else u } userId = true)
    (huser : userId ∈ counted.users.map User.id → userId ∈ now.users.map User.id)
    (hactive : active counted userId = true → active now userId = true) :
    active { now with users := now.users.map fun u =>
      if u.id = read.id then userWriteBack read new u else u } userId = true := by
  obtain ⟨w, hw, hid, hwactive⟩ := active_iff.1 hnew
  obtain ⟨u, hu, rfl⟩ := List.mem_map.1 hw
  rw [active_iff]
  by_cases hread : u.id = read.id
  · rw [if_pos hread] at hid hwactive
    change u.id = userId at hid
    rcases writeBack_cases read.isActive new.isActive u.isActive with ⟨heq, hsame⟩ | ⟨hne, hset⟩
    · -- the flag was not written
      have hwas : u.isActive = true := hsame.symm.trans hwactive
      obtain ⟨v, hv, hvid, hvactive⟩ := active_iff.1 (hactive (active_iff.2 ⟨u, hu, hid, hwas⟩))
      refine ⟨_, List.mem_map_of_mem hv, ?_⟩
      rw [if_pos (by rw [hvid, ← hid, hread])]
      refine ⟨hvid, ?_⟩
      change writeBack read.isActive new.isActive v.isActive = true
      rw [heq, writeBack_of_eq, hvactive]
    · -- the flag was written
      have hon : new.isActive = true := hset.symm.trans hwactive
      obtain ⟨v, hv, hvid⟩ := List.mem_map.1 (huser (List.mem_map.2 ⟨u, hu, hid⟩))
      refine ⟨_, List.mem_map_of_mem hv, ?_⟩
      rw [if_pos (by rw [hvid, ← hid, hread])]
      refine ⟨hvid, ?_⟩
      change writeBack read.isActive new.isActive v.isActive = true
      rw [writeBack_of_ne hne, hon]
  · rw [if_neg hread] at hid hwactive
    obtain ⟨v, hv, hvid, hvactive⟩ := active_iff.1 (hactive (active_iff.2 ⟨u, hu, hid, hwactive⟩))
    refine ⟨_, List.mem_map_of_mem hv, ?_⟩
    rw [if_neg (by rw [hvid, ← hid]; exact hread)]
    exact ⟨hvid, hvactive⟩

lemma grants_stored_iff : grants t permission groupId = true ↔ groupId ∈ t.groups.map Group.id ∧
    (t.adminId groupId = true ∨ permission ∈ t.stored groupId) := by
  rw [grants_iff, Tables.adminId, List.any_eq_true, List.mem_map]
  constructor
  · rintro ⟨g, hg, hid, hadmin | hstored⟩
    · exact ⟨⟨g, hg, hid⟩, .inl ⟨g, hg, by simp [hid, hadmin]⟩⟩
    · exact ⟨⟨g, hg, hid⟩, .inr hstored⟩
  · rintro ⟨⟨g, hg, hid⟩, hadmin | hstored⟩
    · obtain ⟨g', hg', h⟩ := hadmin
      rw [Bool.and_eq_true, decide_eq_true_eq] at h
      exact ⟨g', hg', h.1, .inl h.2⟩
    · exact ⟨g, hg, hid, .inr hstored⟩

/-- Who counts in the tables a deletion leaves. -/
lemma holdsVia_dropUser {id : Uuid} : holdsVia (dropUser t id) permission userId groupId = true ↔
    userId ≠ id ∧ holdsVia t permission userId groupId = true := by
  have hstored : (dropUser t id).stored groupId = t.stored groupId := rfl
  rw [holdsVia_iff, holdsVia_iff, active_iff, active_iff, grants_iff, grants_iff, hstored]
  unfold dropUser
  simp only [List.mem_filter, decide_eq_true_eq]
  constructor
  · rintro ⟨⟨u, ⟨hu, hne⟩, rfl, hactive⟩, ⟨hmember, -⟩, hgrants⟩
    exact ⟨hne, ⟨u, hu, rfl, hactive⟩, hmember, hgrants⟩
  · rintro ⟨hne, ⟨u, hu, rfl, hactive⟩, hmember, hgrants⟩
    exact ⟨⟨u, ⟨hu, hne⟩, rfl, hactive⟩, ⟨hmember, hne⟩, hgrants⟩

lemma holdsVia_dropGroup {id : Uuid} : holdsVia (dropGroup t id) permission userId groupId = true ↔
    groupId ≠ id ∧ holdsVia t permission userId groupId = true := by
  rw [holdsVia_iff, holdsVia_iff, active_iff, active_iff, grants_iff, grants_iff, mem_stored,
    mem_stored]
  unfold dropGroup
  simp only [List.mem_filter, decide_eq_true_eq]
  constructor
  · rintro ⟨hactive, ⟨hmember, hne⟩, g, ⟨hg, -⟩, hid, hgrants⟩
    exact ⟨hne, hactive, hmember, g, hg, hid, hgrants.imp_right And.left⟩
  · rintro ⟨hne, hactive, hmember, g, hg, hid, hgrants⟩
    exact ⟨hactive, ⟨hmember, hne⟩, g, ⟨hg, by rw [hid]; exact hne⟩, hid,
      hgrants.imp_right fun h => ⟨h, hne⟩⟩

lemma Kept.grants (h : Kept counted now permission userId groupId)
    (hgrants : grants counted permission groupId = true) : grants now permission groupId = true := by
  obtain ⟨hgroup, hholds⟩ := grants_stored_iff.1 hgrants
  exact grants_stored_iff.2 ⟨h.group hgroup, hholds.imp h.admin h.stored⟩

/-- An update of an account replaces all its memberships, or none. -/
lemma member_updateUser {read : User} {payload : UserUpdate}
    (hnew : (userId, groupId) ∈ ((Change.updateUser read payload).apply counted).memberships)
    (hmember : (userId, groupId) ∈ counted.memberships → (userId, groupId) ∈ now.memberships) :
    (userId, groupId) ∈ ((Change.updateUser read payload).apply now).memberships := by
  unfold Change.apply at hnew ⊢
  dsimp only at hnew ⊢
  split at hnew
  · rename_i groupIds hids
    rw [← mem_userGroupIds, mem_setUserGroups] at hnew ⊢
    split at hnew
    · rename_i hu
      rwa [if_pos hu]
    · rename_i hu
      rw [if_neg hu]
      exact mem_userGroupIds.2 (hmember (mem_userGroupIds.1 hnew))
  · exact hmember hnew

lemma grants_updateGroup {read : Group} {payload : GroupUpdate}
    {permissions : Option (Finset String)} {scope : Option (Option Scope)} :
    grants ((Change.updateGroup read payload permissions scope).apply t) permission groupId = true ↔
      groupId ∈ t.groups.map Group.id ∧ (t.adminId groupId = true ∨
        permission ∈ if groupId = read.id then permissions.getD (t.stored groupId)
          else t.stored groupId) := by
  have hids : ((Change.updateGroup read payload permissions scope).apply t).groups.map Group.id =
      t.groups.map Group.id := by
    have hmap : (t.groups.map fun g =>
        if g.id = read.id then groupWriteBack read (read.apply payload) g else g).map Group.id =
          t.groups.map Group.id := by
      rw [List.map_map]
      refine List.map_congr_left fun g _ => ?_
      dsimp only [Function.comp_apply]
      split <;> rfl
    rw [← hmap]
    cases permissions <;> cases scope <;> rfl
  have hadmin : ((Change.updateGroup read payload permissions scope).apply t).adminId groupId =
      t.adminId groupId := by
    have hmap : (t.groups.map fun g =>
        if g.id = read.id then groupWriteBack read (read.apply payload) g else g).any
          (fun g => g.id = groupId && isAdminGroup g) = t.adminId groupId := by
      rw [List.any_map, Tables.adminId]
      congr 1
      funext g
      dsimp only [Function.comp_apply]
      split <;> rfl
    rw [← hmap]
    cases permissions <;> cases scope <;> rfl
  have hstored : ((Change.updateGroup read payload permissions scope).apply t).stored groupId =
      if groupId = read.id then permissions.getD (t.stored groupId) else t.stored groupId := by
    cases permissions with
    | none => cases scope <;> exact (ite_self _).symm
    | some granted =>
      rw [Option.getD_some, ← setGroupPermissions_stored]
      cases scope <;> rfl
  rw [grants_stored_iff, hids, hadmin, hstored]

/-- **What a request counted on stands after its commit**, if nothing of it was taken away before. -/
theorem holdsVia_apply {change : Change}
    (hcount : holdsVia (change.apply counted) permission userId groupId = true)
    (hkept : Kept counted now permission userId groupId) :
    holdsVia (change.apply now) permission userId groupId = true := by
  cases change with
  | deleteUser read =>
    obtain ⟨hne, h⟩ := holdsVia_dropUser.1 hcount
    obtain ⟨hactive, hmember, hgrants⟩ := holdsVia_iff.1 h
    exact holdsVia_dropUser.2 ⟨hne, holdsVia_iff.2
      ⟨hkept.active hactive, hkept.member hmember, hkept.grants hgrants⟩⟩
  | deleteGroup read =>
    obtain ⟨hne, h⟩ := holdsVia_dropGroup.1 hcount
    obtain ⟨hactive, hmember, hgrants⟩ := holdsVia_iff.1 h
    exact holdsVia_dropGroup.2 ⟨hne, holdsVia_iff.2
      ⟨hkept.active hactive, hkept.member hmember, hkept.grants hgrants⟩⟩
  | updateUser read payload =>
    obtain ⟨hactive, hmember, hgrants⟩ := holdsVia_iff.1 hcount
    have husers (t : Tables) : active ((Change.updateUser read payload).apply t) userId =
        active { t with users := t.users.map fun u =>
          if u.id = read.id then userWriteBack read (read.apply payload) u else u } userId := by
      unfold Change.apply
      dsimp only
      split <;> rfl
    have hgroups (t : Tables) : grants ((Change.updateUser read payload).apply t) permission groupId =
        grants t permission groupId := by
      unfold Change.apply
      dsimp only
      split <;> rfl
    rw [husers] at hactive
    rw [hgroups] at hgrants
    refine holdsVia_iff.2 ⟨?_, member_updateUser hmember hkept.member, ?_⟩
    · rw [husers]
      exact active_update hactive hkept.user hkept.active
    · rw [hgroups]
      exact hkept.grants hgrants
  | updateGroup read payload permissions scope =>
    obtain ⟨hactive, hmember, hgrants⟩ := holdsVia_iff.1 hcount
    have husers (t : Tables) :
        active ((Change.updateGroup read payload permissions scope).apply t) userId =
          active t userId ∧
        ((Change.updateGroup read payload permissions scope).apply t).memberships =
          t.memberships := by
      cases permissions <;> cases scope <;> exact ⟨rfl, rfl⟩
    rw [(husers counted).1] at hactive
    rw [(husers counted).2] at hmember
    obtain ⟨hgroup, hholds⟩ := grants_updateGroup.1 hgrants
    refine holdsVia_iff.2 ⟨?_, ?_, grants_updateGroup.2 ⟨hkept.group hgroup, ?_⟩⟩
    · rw [(husers now).1]
      exact hkept.active hactive
    · rw [(husers now).2]
      exact hkept.member hmember
    · refine hholds.imp hkept.admin fun hstored => ?_
      by_cases hread : groupId = read.id
      · rw [if_pos hread] at hstored ⊢
        cases permissions with
        | none => exact hkept.stored hstored
        | some granted => exact hstored
      · rw [if_neg hread] at hstored ⊢
        exact hkept.stored hstored

end Counting

/-! ### Runs -/

variable {srv places} {s : State} {e : Event}

theorem step_holding (h : usersHolding s.committed userWrite ≠ 0) (hstands : CountStands s e) :
    usersHolding (step srv places s e).committed userWrite ≠ 0 := by
  cases e with
  | read txn current edit =>
    simp only [step]
    split <;> exact h
  | count txn =>
    simp only [step]
    split
    · split <;> exact h
    · exact h
  | commit txn =>
    simp only [CountStands] at hstands
    simp only [step]
    split
    · rename_i change counted htxn
      rw [htxn] at hstands
      obtain ⟨m, -, hcount, hkept⟩ := hstands
      exact usersHolding_ne_zero.2 ⟨m.1, m.2, holdsVia_apply hcount hkept⟩
    · exact h

/-- **Somebody may always manage accounts**, in every run of overlapping requests whose commits find
one of the accounts they counted still as it was counted. -/
theorem never_locked_out (srv : Server) (places : Places) (t : Tables)
    (h : usersHolding t userWrite ≠ 0) (es : List Event)
    (hg : Guarded (step srv places) CountStands (start t) es) :
    usersHolding (run (step srv places) (start t) es).committed userWrite ≠ 0 :=
  hg.invariant (P := fun s : State => usersHolding s.committed userWrite ≠ 0)
    (fun _ _ hstands h => step_holding h hstands) h

/-! Two administrators. -/

def administrator (id : Uuid) : User := ⟨id, toString id, none, true, .digestDaily⟩

def twoAdministrators : Tables where
  users := [administrator 1, administrator 2]
  groups := [⟨0, "Administrators", none, some .admin⟩]
  permissions := []
  scopes := []
  memberships := [(1, 0), (2, 0)]

def deactivation : UserUpdate := ⟨none, none, none, some (some false), none⟩

/-- One deactivates the other. -/
theorem never_locked_out_one :
    usersHolding (run (step .standard ⟨[], [], []⟩) (start twoAdministrators)
      [.read 0 (administrator 1) (.updateUser 2 deactivation), .count 0, .commit 0]).committed
        userWrite ≠ 0 :=
  never_locked_out .standard ⟨[], [], []⟩ twoAdministrators (by decide +kernel) _ (by decide +kernel)

/-- **Each deactivates the other**, counts the other, and commits. -/
theorem locked_out :
    usersHolding twoAdministrators userWrite = 2 ∧
    usersHolding (run (step .standard ⟨[], [], []⟩) (start twoAdministrators)
      [.read 0 (administrator 1) (.updateUser 2 deactivation),
        .read 1 (administrator 2) (.updateUser 1 deactivation),
        .count 0, .count 1, .commit 0, .commit 1]).committed userWrite = 0 := by
  decide +kernel

end Tiai.Lockout
