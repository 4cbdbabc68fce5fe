import Tiai.User.Routes

/-!
# What a request writes, group by group

A request changes memberships, or what one group grants; every other group grants what it did.

* `agree_writeUser`, `agree_dropGroup`, `agree_createGroup`, `agree_writeGroup` — the groups a
  request leaves alone;
* `writeGroup_permissions`, `writeGroup_scope` — what `update_group` makes of its own;
* `request_wf` — the constraints are kept.
-/

namespace Tiai

open Lib

/-! ### What the writes leave alone -/

section Writes

variable {t : Tables}

lemma adminId_eq_false (hwf : t.Wf) {group : Group} (hmem : group ∈ t.groups)
    (hplain : isAdminGroup group = false) : t.adminId group.id = false := by
  rw [← Bool.not_eq_true, Tables.adminId, List.any_eq_true]
  rintro ⟨g, hg, h⟩
  simp only [Bool.and_eq_true, decide_eq_true_eq] at h
  rw [List.inj_on_of_nodup_map hwf.nodup hg hmem h.1, hplain] at h
  exact absurd h.2 Bool.false_ne_true

lemma agree_of_same {t' : Tables} {g : Uuid} (hadmin : t'.adminId g = t.adminId g)
    (hstored : t'.stored g = t.stored g)
    (hrows : t'.scopes.filter (·.1 = g) = t.scopes.filter (·.1 = g)) : t.Agree t' g where
  permissions := by rw [permissionsOfGroup, permissionsOfGroup, hadmin, hstored]
  scope := by rw [scopeOfGroup, scopeOfGroup, hadmin, hrows]

lemma agree_setUserGroups (users : List User) (userId : Uuid) (groupIds : List Uuid) (g : Uuid) :
    t.Agree (setUserGroups { t with users := users } userId groupIds) g :=
  agree_of_same rfl rfl rfl

lemma agree_writeUser (user : User) (payload : UserUpdate) (g : Uuid) :
    t.Agree (writeUser t user payload) g := by
  unfold writeUser
  dsimp only
  split <;> exact agree_of_same rfl rfl rfl

lemma mem_writeUser {user : User} {payload : UserUpdate} {u g : Uuid}
    (h : g ∈ userGroupIds (writeUser t user payload) u) :
    g ∈ userGroupIds t u ∨
      u = user.id ∧ ∃ groupIds, payload.groupIds = some (some groupIds) ∧ g ∈ groupIds := by
  unfold writeUser at h
  dsimp only at h
  split at h
  · rename_i groupIds hids
    rw [mem_setUserGroups] at h
    split at h
    · rename_i hu
      exact Or.inr ⟨hu, groupIds, hids, h⟩
    · exact Or.inl h
  · exact Or.inl h

lemma filter_ne_of_ne {α : Type} (rows : List (Uuid × α)) {g id : Uuid} (h : g ≠ id) :
    (rows.filter (·.1 ≠ id)).filter (·.1 = g) = rows.filter (·.1 = g) := by
  rw [List.filter_filter]
  refine List.filter_congr fun x _ => ?_
  by_cases hx : x.1 = g
  · simp [hx, h]
  · simp [hx]

lemma agree_dropGroup {g id : Uuid} (h : g ≠ id) : t.Agree (dropGroup t id) g := by
  refine agree_of_same ?_ ?_ (filter_ne_of_ne _ h)
  · have hany : ∀ groups : List Group,
        (groups.filter (·.id ≠ id)).any (fun x => x.id = g && isAdminGroup x) =
          groups.any fun x => x.id = g && isAdminGroup x := by
      intro groups
      rw [List.any_filter]
      congr 1
      funext x
      by_cases hx : x.id = g
      · simp [hx, h]
      · simp [hx]
    exact hany t.groups
  · have hrows := filter_ne_of_ne t.permissions h
    show ((((dropGroup t id).permissions.filter (·.1 = g)).map Prod.snd).toFinset) = _
    rw [show (dropGroup t id).permissions = t.permissions.filter (·.1 ≠ id) from rfl, hrows]
    rfl

/-! ### What `update_group` writes -/

lemma setGroupScope_other {groupId g : Uuid} (scope : Option Scope) (h : g ≠ groupId) :
    (setGroupScope t groupId scope).scopes.filter (·.1 = g) = t.scopes.filter (·.1 = g) := by
  unfold setGroupScope
  rw [List.filter_append, filter_ne_of_ne _ h, List.filter_map]
  have hnone : (fun row : ScopeRow => decide ((groupId, row).1 = g)) = fun _ => false := by
    funext row
    simpa using Ne.symm h
  rw [show ((fun x : Uuid × ScopeRow => decide (x.1 = g)) ∘ fun row => (groupId, row)) =
    fun _ => false from hnone, List.filter_false, List.map_nil, List.append_nil]

lemma agree_createGroup {group : Group} {permissions : Finset String} {scope : Option Scope} {g : Uuid}
    (h : g ≠ group.id) :
    t.Agree (setGroupScope (setGroupPermissions { t with groups := t.groups ++ [group] } group.id
      permissions) group.id scope) g := by
  refine agree_of_same ?_ ?_ (setGroupScope_other scope h)
  · show (t.groups ++ [group]).any _ = t.groups.any _
    simp [List.any_append, Ne.symm h]
  · show (setGroupPermissions { t with groups := t.groups ++ [group] } group.id permissions).stored g = _
    rw [setGroupPermissions_stored, if_neg h]
    rfl

section Update

variable (t) (group : Group) (payload : GroupUpdate) (permissions : Option (Finset String))
  (scope : Option (Option Scope))

lemma writeGroup_groups : (writeGroup t group payload permissions scope).groups =
    t.groups.map fun x => if x.id = group.id then x.apply payload else x := by
  unfold writeGroup
  cases permissions <;> cases scope <;> rfl

lemma writeGroup_adminId (g : Uuid) :
    (writeGroup t group payload permissions scope).adminId g = t.adminId g := by
  rw [Tables.adminId, writeGroup_groups, List.any_map]
  congr 1
  funext x
  dsimp only [Function.comp_apply]
  split <;> rfl

lemma writeGroup_memberships :
    (writeGroup t group payload permissions scope).memberships = t.memberships := by
  unfold writeGroup
  cases permissions <;> cases scope <;> rfl

lemma writeGroup_stored (g : Uuid) : (writeGroup t group payload permissions scope).stored g =
    if g = group.id then permissions.getD (t.stored g) else t.stored g := by
  have hset : (writeGroup t group payload permissions scope).stored g =
      (permissions.elim t (setGroupPermissions t group.id)).stored g := by
    unfold writeGroup
    cases permissions <;> cases scope <;> rfl
  rw [hset]
  cases permissions with
  | none => simp
  | some p =>
    show (setGroupPermissions t group.id p).stored g = _
    rw [setGroupPermissions_stored]
    rfl

lemma writeGroup_scopes (g : Uuid) :
    (writeGroup t group payload permissions scope).scopes.filter (·.1 = g) =
      (scope.elim t (setGroupScope t group.id)).scopes.filter (·.1 = g) := by
  unfold writeGroup
  cases permissions <;> cases scope <;> rfl

variable {t} {group}

lemma agree_writeGroup {g : Uuid} (h : g ≠ group.id) :
    t.Agree (writeGroup t group payload permissions scope) g := by
  refine agree_of_same (writeGroup_adminId ..) ?_ ?_
  · rw [writeGroup_stored, if_neg h]
  · rw [writeGroup_scopes]
    cases scope with
    | none => rfl
    | some s => exact setGroupScope_other s h

variable {permissions} {scope}

/-- The permissions of the group afterwards. -/
lemma writeGroup_permissions (hplain : permissions.isSome → t.adminId group.id = false) :
    permissionsOfGroup (writeGroup t group payload permissions scope) group.id =
      permissions.getD (permissionsOfGroup t group.id) := by
  rw [permissionsOfGroup, writeGroup_adminId, writeGroup_stored, if_pos rfl]
  cases permissions with
  | none => rfl
  | some p => rw [hplain rfl]; rfl

/-- Its scope. -/
lemma writeGroup_scope (hplain : scope.isSome → t.adminId group.id = false)
    (hgiven : ∀ s, scope = some (some s) → s.isEmpty = false) :
    scopeOfGroup (writeGroup t group payload permissions scope) group.id =
      scope.getD (scopeOfGroup t group.id) := by
  cases scope with
  | none =>
    rw [scopeOfGroup, writeGroup_adminId, writeGroup_scopes]
    rfl
  | some s =>
    have hrows := setGroupScope_rows (t := t) group.id group.id s
    rw [if_pos rfl] at hrows
    rw [scopeOfGroup, writeGroup_adminId, writeGroup_scopes, hplain rfl]
    show (if false = true ∨ ((setGroupScope t group.id s).scopes.filter
      (·.1 = group.id)).map Prod.snd = [] then none else _) = s
    rw [hrows]
    cases s with
    | none => simp
    | some s =>
      have hne : s.rows ≠ [] := by
        intro hnil
        have := rows_eq_nil hnil
        rw [hgiven s rfl] at this
        cases this
      simp [hne, hrows, fromRows_rows]

end Update

lemma toScope_isEmpty {body : ScopeBody} {s : Scope} (h : body.toScope = some s) :
    s.isEmpty = false := by
  unfold ScopeBody.toScope at h
  dsimp only at h
  split at h
  · cases h
  · rename_i hempty
    cases h
    simpa using hempty

end Writes

/-! ### The constraints -/

section Wf

variable {srv : Server} {t t' : Tables} {places : Places} {current : User}

lemma Tables.Wf.setUserGroups (hwf : t.Wf) (users : List User) (userId : Uuid) {groupIds : List Uuid}
    (hexist : ∀ g ∈ groupIds, g ∈ t.groups.map Group.id) :
    (Tiai.setUserGroups { t with users := users } userId groupIds).Wf where
  nodup := hwf.nodup
  member row hrow := by
    rcases List.mem_append.mp hrow with hrow | hrow
    · exact hwf.member row (List.mem_of_mem_filter hrow)
    · obtain ⟨g, hg, rfl⟩ := List.mem_map.mp hrow
      exact hexist g (List.mem_dedup.mp hg)
  catalogued := hwf.catalogued

lemma mem_setGroupPermissions {groupId : Uuid} {permissions : Finset String} {row : Uuid × String}
    (h : row ∈ (setGroupPermissions t groupId permissions).permissions) :
    row ∈ t.permissions ∨ row.2 ∈ permissions := by
  rcases List.mem_append.mp h with h | h
  · exact Or.inl (List.mem_of_mem_filter h)
  · obtain ⟨p, hp, rfl⟩ := List.mem_map.mp h
    exact Or.inr ((Finset.mem_sort _).mp hp)

lemma createUser_wf (hwf : t.Wf) {payload : UserCreate} {id : Uuid}
    (h : createUser srv t current payload id = .ok t') : t'.Wf := by
  obtain ⟨hexist, -, users, rfl⟩ := createUser_ok h
  exact hwf.setUserGroups users id hexist

lemma updateUser_wf (hwf : t.Wf) {userId : Uuid} {payload : UserUpdate}
    (h : updateUser srv t current userId payload = .ok t') : t'.Wf := by
  obtain ⟨user, u, hcheck, rfl⟩ := updateUser_ok h
  unfold writeUser
  dsimp only
  split
  · rename_i groupIds hids
    exact hwf.setUserGroups _ _ (checkGroupChange_ok hcheck hids).1
  · exact ⟨hwf.nodup, hwf.member, hwf.catalogued⟩

lemma createGroup_wf (hwf : t.Wf) {payload : GroupCreate} {id : Uuid}
    (h : createGroup t places current payload id = .ok t') : t'.Wf := by
  obtain ⟨group, permissions, scope, rfl, hfresh, hcat, rfl⟩ := createGroup_ok h
  constructor
  · show ((t.groups ++ [group]).map Group.id).Nodup
    rw [List.map_append]
    refine List.Nodup.append hwf.nodup (List.nodup_singleton _) ?_
    intro i hi hi'
    rw [List.map_singleton, List.mem_singleton] at hi'
    exact hfresh (hi' ▸ hi)
  · intro row hrow
    show row.2 ∈ (t.groups ++ [group]).map Group.id
    rw [List.map_append]
    exact List.mem_append_left _ (hwf.member row hrow)
  · intro row hrow
    rcases mem_setGroupPermissions hrow with hrow | hrow
    · exact hwf.catalogued row hrow
    · exact hcat hrow

lemma updateGroup_wf (hwf : t.Wf) {groupId : Uuid} {payload : GroupUpdate}
    (h : updateGroup t places current groupId payload = .ok t') : t'.Wf := by
  obtain ⟨group, permissions, scope, hup, rfl⟩ := updateGroup_ok h
  have hids : (writeGroup t group payload permissions scope).groups.map Group.id =
      t.groups.map Group.id := by
    rw [writeGroup_groups, List.map_map]
    refine List.map_congr_left fun x _ => ?_
    dsimp only [Function.comp_apply]
    split <;> rfl
  constructor
  · rw [hids]; exact hwf.nodup
  · intro row hrow
    rw [writeGroup_memberships] at hrow
    rw [hids]
    exact hwf.member row hrow
  · intro row hrow
    cases permissions with
    | none =>
      have hsame : (writeGroup t group payload none scope).permissions = t.permissions := by
        unfold writeGroup
        cases scope <;> rfl
      exact hwf.catalogued row (hsame ▸ hrow)
    | some p =>
      have hset : (writeGroup t group payload (some p) scope).permissions =
          (setGroupPermissions t group.id p).permissions := by
        unfold writeGroup
        cases scope <;> rfl
      rcases mem_setGroupPermissions (hset ▸ hrow) with hrow | hrow
      · exact hwf.catalogued row hrow
      · exact hup.catalogued p rfl hrow

lemma dropUser_wf (hwf : t.Wf) (id : Uuid) : (dropUser t id).Wf where
  nodup := hwf.nodup
  member row hrow := hwf.member row (List.mem_of_mem_filter hrow)
  catalogued := hwf.catalogued

lemma dropGroup_wf (hwf : t.Wf) (id : Uuid) : (dropGroup t id).Wf where
  nodup := hwf.nodup.sublist (List.filter_sublist.map _)
  member row hrow := by
    obtain ⟨hrow, hne⟩ := List.mem_filter.mp hrow
    obtain ⟨g, hg, hid⟩ := List.mem_map.mp (hwf.member row hrow)
    refine List.mem_map.mpr ⟨g, List.mem_filter.mpr ⟨hg, ?_⟩, hid⟩
    rw [hid]
    exact hne
  catalogued row hrow := hwf.catalogued row (List.mem_of_mem_filter hrow)

/-- **The constraints are kept** by every request. -/
theorem request_wf (hwf : t.Wf) {req : Request} (h : request srv t places current req = .ok t') :
    t'.Wf := by
  unfold request at h
  obtain ⟨_, -, h⟩ := bind_eq_ok h
  obtain ⟨_, -, h⟩ := bind_eq_ok h
  cases req with
  | createUser payload id => exact createUser_wf hwf h
  | updateUser userId payload => exact updateUser_wf hwf h
  | deleteUser userId =>
    obtain ⟨id, rfl⟩ := deleteUser_ok h
    exact dropUser_wf hwf id
  | createGroup payload id => exact createGroup_wf hwf h
  | updateGroup groupId payload => exact updateGroup_wf hwf h
  | deleteGroup groupId =>
    obtain ⟨id, rfl⟩ := deleteGroup_ok h
    exact dropGroup_wf hwf id

end Wf

end Tiai
