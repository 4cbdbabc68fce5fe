import Mathlib.Data.Finset.Sort
import Mathlib.Data.Finset.Union
import Mathlib.Data.List.Dedup
import Mathlib.Data.String.Basic
import Tiai.User.Permissions

/-!
# Accounts and groups

`features/user/models.py` and the part of `features/user/crud.py` that reads and writes groups.

* `Tables`, `Tables.Wf` — the rows, and the schema's constraints;
* `userAuthority`, `groupsAuthority` — what an account holds, and what memberships grant;
* `userPermissions_eq`, `visible_userScope` — an account holds what its groups grant, one by one;
* `Tables.Agree` — a group that grants the same in two states.
-/

namespace Tiai

/-! ### The rows -/

/-- `EmailPreference`. -/
inductive EmailPreference
  | none | immediate | digestEvents | digestDaily
  deriving DecidableEq, Repr

/-- `User`. -/
structure User where
  id : Uuid
  email : String
  fullName : Option String
  isActive : Bool
  emailPreference : EmailPreference
  deriving DecidableEq, Repr

/-- `Group`. -/
structure Group where
  id : Uuid
  name : String
  description : Option String
  builtinKey : Option BuiltinGroup
  deriving DecidableEq, Repr

/-- `users`, `groups`, `group_permissions`, `group_scopes` and `user_groups`. -/
structure Tables where
  users : List User
  groups : List Group
  permissions : List (Uuid × String)
  scopes : List (Uuid × ScopeRow)
  memberships : List (Uuid × Uuid)
  deriving DecidableEq, Repr

/-- The primary and foreign keys, and the catalogue every group write is validated against. -/
structure Tables.Wf (t : Tables) : Prop where
  nodup : (t.groups.map Group.id).Nodup
  member : ∀ row ∈ t.memberships, row.2 ∈ t.groups.map Group.id
  catalogued : ∀ row ∈ t.permissions, row.2 ∈ allPermissions

/-! ### Reading -/

/-- `is_admin_group`. -/
def isAdminGroup (g : Group) : Bool := g.builtinKey = some .admin

variable (t : Tables)

/-- The group of that id is the administrators'. -/
def Tables.adminId (groupId : Uuid) : Bool :=
  t.groups.any fun g => g.id = groupId && isAdminGroup g

/-- The `permission` column of a group's rows. -/
def Tables.stored (groupId : Uuid) : Finset String :=
  ((t.permissions.filter (·.1 = groupId)).map Prod.snd).toFinset

/-- `permissions_of_groups`, of one of them. -/
def permissionsOfGroup (groupId : Uuid) : Finset String :=
  if t.adminId groupId then allPermissions else t.stored groupId

/-- `scopes_of_groups`, of one of them. -/
def scopeOfGroup (groupId : Uuid) : Option Scope :=
  let rows := (t.scopes.filter (·.1 = groupId)).map Prod.snd
  if t.adminId groupId = true ∨ rows = [] then none else some (.fromRows rows)

/-- `user_group_ids`. -/
def userGroupIds (userId : Uuid) : List Uuid := (t.memberships.filter (·.1 = userId)).map Prod.snd

/-- `is_admin`. -/
def isAdmin (userId : Uuid) : Bool := (userGroupIds t userId).any t.adminId

/-- `user_permissions`. -/
def userPermissions (userId : Uuid) : Finset String :=
  if isAdmin t userId then allPermissions
  else ((t.permissions.filter (·.1 ∈ userGroupIds t userId)).map Prod.snd).toFinset

/-- `user_scope`. -/
def userScope (userId : Uuid) : Option Scope :=
  if isAdmin t userId then none else scopeUnion ((userGroupIds t userId).map (scopeOfGroup t))

/-- `user_authority`, and `get_current_authority`. -/
def userAuthority (userId : Uuid) : Authority where
  isAdmin := isAdmin t userId
  permissions := userPermissions t userId
  scope := userScope t userId

/-- `groups_authority`. -/
def groupsAuthority (groupIds : List Uuid) : Authority :=
  let ids := groupIds.dedup
  if ids = [] then ⟨false, ∅, some .empty⟩
  else
    let admin := ids.any t.adminId
    ⟨admin, ids.toFinset.biUnion (permissionsOfGroup t),
      if admin then none else scopeUnion (ids.map (scopeOfGroup t))⟩

/-- `users_holding`. -/
def usersHolding (permission : String) : ℕ :=
  (t.users.filter fun u => u.isActive && (userGroupIds t u.id).any fun g =>
    t.groups.any fun group => group.id = g && (isAdminGroup group || permission ∈ t.stored g)).length

/-! ### Writing -/

/-- `set_user_groups`. -/
def setUserGroups (userId : Uuid) (groupIds : List Uuid) : Tables :=
  { t with memberships :=
      t.memberships.filter (·.1 ≠ userId) ++ groupIds.dedup.map fun g => (userId, g) }

/-- `set_group_permissions`. -/
def setGroupPermissions (groupId : Uuid) (permissions : Finset String) : Tables :=
  { t with permissions :=
      t.permissions.filter (·.1 ≠ groupId) ++ permissions.sort.map fun p => (groupId, p) }

/-- `Scope.rows`. -/
def Scope.rows (s : Scope) : List ScopeRow :=
  s.locations.sort.map .location ++ s.buildings.sort.map (fun b => .building (some b)) ++
    s.rooms.sort.map fun r => .room (some r)

/-- `set_group_scope`. -/
def setGroupScope (groupId : Uuid) (scope : Option Scope) : Tables :=
  { t with scopes :=
      t.scopes.filter (·.1 ≠ groupId) ++
        (scope.elim [] Scope.rows).map fun row => (groupId, row) }

/-! ### An account holds what its groups grant -/

section Holding

variable {t}

lemma mem_stored {groupId : Uuid} {p : String} :
    p ∈ t.stored groupId ↔ (groupId, p) ∈ t.permissions := by
  simp [Tables.stored]

lemma mem_userGroupIds {userId groupId : Uuid} :
    groupId ∈ userGroupIds t userId ↔ (userId, groupId) ∈ t.memberships := by
  simp [userGroupIds]

lemma permissionsOfGroup_subset (hwf : t.Wf) (groupId : Uuid) :
    permissionsOfGroup t groupId ⊆ allPermissions := by
  intro p hp
  unfold permissionsOfGroup at hp
  split at hp
  · exact hp
  · exact hwf.catalogued _ (mem_stored.mp hp)

/-- The effective permissions are those of each group. -/
theorem mem_userPermissions (hwf : t.Wf) {userId : Uuid} {p : String} :
    p ∈ userPermissions t userId ↔ ∃ g ∈ userGroupIds t userId, p ∈ permissionsOfGroup t g := by
  unfold userPermissions
  split
  · rename_i hadmin
    obtain ⟨g, hg, hgadmin⟩ := List.any_eq_true.mp hadmin
    constructor
    · intro hp
      exact ⟨g, hg, by rw [permissionsOfGroup, if_pos hgadmin]; exact hp⟩
    · rintro ⟨g', -, hp⟩
      exact permissionsOfGroup_subset hwf g' hp
  · rename_i hadmin
    have hplain : ∀ g ∈ userGroupIds t userId, t.adminId g = false := by
      intro g hg
      rw [← Bool.not_eq_true]
      exact fun h => hadmin (List.any_eq_true.mpr ⟨g, hg, h⟩)
    simp only [List.mem_toFinset, List.mem_map, List.mem_filter, decide_eq_true_eq]
    constructor
    · rintro ⟨⟨g, p⟩, ⟨hrow, hg⟩, rfl⟩
      refine ⟨g, hg, ?_⟩
      rw [permissionsOfGroup, hplain g hg]
      exact mem_stored.mpr hrow
    · rintro ⟨g, hg, hp⟩
      rw [permissionsOfGroup, hplain g hg] at hp
      exact ⟨(g, p), ⟨mem_stored.mp hp, hg⟩, rfl⟩

lemma scopeOfGroup_admin {groupId : Uuid} (h : t.adminId groupId = true) :
    scopeOfGroup t groupId = none := if_pos (Or.inl h)

/-- An account sees what one of its groups sees. -/
theorem visible_userScope {places : Places} {userId : Uuid} {m : Poste} :
    visible places (userScope t userId) m = true ↔
      ∃ g ∈ userGroupIds t userId, visible places (scopeOfGroup t g) m = true := by
  unfold userScope
  split
  · rename_i hadmin
    obtain ⟨g, hg, hgadmin⟩ := List.any_eq_true.mp hadmin
    refine ⟨fun _ => ⟨g, hg, ?_⟩, fun _ => rfl⟩
    rw [scopeOfGroup_admin hgadmin]
    rfl
  · rw [visible_scopeUnion]
    simp

lemma mem_groupsAuthority {groupIds : List Uuid} {p : String} :
    p ∈ (groupsAuthority t groupIds).permissions ↔
      ∃ g ∈ groupIds, p ∈ permissionsOfGroup t g := by
  unfold groupsAuthority
  dsimp only
  split
  · rename_i hnil
    obtain rfl := (List.dedup_eq_nil groupIds).mp hnil
    simp
  · simp

lemma visible_groupsAuthority {places : Places} {groupIds : List Uuid} {m : Poste} :
    visible places (groupsAuthority t groupIds).scope m = true ↔
      ∃ g ∈ groupIds, visible places (scopeOfGroup t g) m = true := by
  unfold groupsAuthority
  dsimp only
  split
  · rename_i hnil
    obtain rfl := (List.dedup_eq_nil groupIds).mp hnil
    simp [visible_empty]
  · dsimp only
    split
    · rename_i hadmin
      obtain ⟨g, hg, hgadmin⟩ := List.any_eq_true.mp hadmin
      refine ⟨fun _ => ⟨g, List.mem_dedup.mp hg, ?_⟩, fun _ => rfl⟩
      rw [scopeOfGroup_admin hgadmin]
      rfl
    · rw [visible_scopeUnion]
      simp

end Holding

/-! ### What the writes leave -/

section Writes

variable {t}

/-- A group grants the same in two states. -/
structure Tables.Agree (t t' : Tables) (groupId : Uuid) : Prop where
  permissions : permissionsOfGroup t' groupId = permissionsOfGroup t groupId
  scope : scopeOfGroup t' groupId = scopeOfGroup t groupId

lemma mem_setUserGroups {userId u g : Uuid} {groupIds : List Uuid} :
    g ∈ userGroupIds (setUserGroups t userId groupIds) u ↔
      if u = userId then g ∈ groupIds else g ∈ userGroupIds t u := by
  rw [mem_userGroupIds, mem_userGroupIds]
  unfold setUserGroups
  by_cases hu : u = userId
  · simp [hu]
  · simp [hu, Ne.symm hu]

lemma setGroupPermissions_stored (groupId g : Uuid) (permissions : Finset String) :
    (setGroupPermissions t groupId permissions).stored g =
      if g = groupId then permissions else t.stored g := by
  ext p
  rw [mem_stored]
  unfold setGroupPermissions
  by_cases hg : g = groupId
  · simp [hg]
  · simp [hg, Ne.symm hg, mem_stored]

lemma fromRows_rows (s : Scope) : Scope.fromRows s.rows = s := by
  obtain ⟨l, b, r⟩ := s
  unfold Scope.fromRows Scope.rows
  simp only [List.filterMap_append, List.filterMap_map, Scope.mk.injEq]
  refine ⟨?_, ?_, ?_⟩ <;> ext x <;> simp

lemma rows_eq_nil {s : Scope} (h : s.rows = []) : s.isEmpty = true := by
  obtain ⟨l, b, r⟩ := s
  unfold Scope.rows at h
  simp only [List.append_eq_nil_iff, List.map_eq_nil_iff] at h
  have hnil : ∀ {α : Type} [LinearOrder α] (f : Finset α), f.sort = [] → f = ∅ := by
    intro α _ f hf
    rw [← Finset.card_eq_zero, ← Finset.length_sort (· ≤ ·), hf]
    rfl
  simp [Scope.isEmpty, hnil l h.1.1, hnil b h.1.2, hnil r h.2]

lemma setGroupScope_rows (groupId g : Uuid) (scope : Option Scope) :
    ((setGroupScope t groupId scope).scopes.filter (·.1 = g)).map Prod.snd =
      if g = groupId then scope.elim [] Scope.rows
      else (t.scopes.filter (·.1 = g)).map Prod.snd := by
  unfold setGroupScope
  by_cases hg : g = groupId
  · subst hg
    simp [List.filter_append, List.filter_map, Function.comp_def, List.filter_filter]
  · have hne : groupId ≠ g := Ne.symm hg
    have hkeep : ∀ x : Uuid × ScopeRow, (decide (x.1 = g) && decide (x.1 ≠ groupId)) =
        decide (x.1 = g) := by
      intro x
      by_cases hx : x.1 = g
      · simp [hx, hg]
      · simp [hx]
    simp only [List.filter_append, List.filter_filter, hkeep, List.filter_map, hg, if_false]
    simp [Function.comp_def, hne]

end Writes

end Tiai
