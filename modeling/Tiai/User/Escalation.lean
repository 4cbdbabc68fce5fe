import Mathlib.Data.Set.Prod
import Tiai.Lib.Rectangle
import Tiai.User.Writes

/-!
# No escalation, measured on machines

An account holds a permission on a machine.  A request of the routes gives an account nothing that
neither it nor the actor held — except through `update_group`, which looks at the group it changes
and not at what else its members are in.

* `authority` — what an account holds, as pairs;
* `Confined` — the members of the group an update changes carry none of the change out of the
  actor's reach through their other groups;
* `no_escalation_iff` — a successful request keeps to the rule exactly when it is `Confined`.
-/

namespace Tiai

open Lib

/-- The rows, and the proof that they keep the schema's constraints. -/
structure Accounts where
  tables : Tables
  wf : tables.Wf

def Accounts.request (srv : Server) (s : Accounts) (places : Places) (current : User)
    (req : Request) : Except Refusal Accounts :=
  match h : Tiai.request srv s.tables places current req with
  | .ok t => .ok ⟨t, request_wf s.wf h⟩
  | .error refusal => .error refusal

lemma Accounts.request_ok {srv : Server} {s s' : Accounts} {places : Places} {current : User}
    {req : Request} (h : s.request srv places current req = .ok s') :
    Tiai.request srv s.tables places current req = .ok s'.tables := by
  unfold Accounts.request at h
  split at h
  · rename_i t ht
    cases h
    exact ht
  · cases h

lemma Accounts.request_eq {srv : Server} {s : Accounts} {places : Places} {current : User}
    {req : Request} {t : Tables} (h : Tiai.request srv s.tables places current req = .ok t) :
    s.request srv places current req = .ok ⟨t, request_wf s.wf h⟩ := by
  unfold Accounts.request
  split
  · rename_i t' ht
    cases ht.symm.trans h
    rfl
  · rename_i refusal ht
    cases ht.symm.trans h

/-! ### Authority -/

section Authority

variable (places : Places) (t : Tables)

/-- The machines of a scope. -/
def reach (scope : Option Scope) : Set Poste := {m | m ∈ places.machines ∧ visible places scope m = true}

/-- A permission, and a machine it is held on. -/
def authority (userId : Uuid) : Set (String × Poste) :=
  (userPermissions t userId : Set String) ×ˢ reach places (userScope t userId)

/-- The other memberships of an account. -/
def otherGroups (userId groupId : Uuid) : List Uuid := (userGroupIds t userId).filter (· ≠ groupId)

/-- What the group grants after an update. -/
def GroupUpdate.permissionsAfter (payload : GroupUpdate) (groupId : Uuid) : Finset String :=
  (payload.permissions.bind fun p => p.map List.toFinset).getD (permissionsOfGroup t groupId)

def GroupUpdate.scopeAfter (payload : GroupUpdate) (groupId : Uuid) : Option Scope :=
  (payload.scope.map fun body => body.bind ScopeBody.toScope).getD (scopeOfGroup t groupId)

/-- **The condition**, on the members of the group an update changes.  If one gains a permission, its
other groups show it no machine that the actor does not see; if one gains a machine, its other groups
grant it no permission that the actor does not hold. -/
def Confined (actorId : Uuid) : Request → Prop
  | .updateGroup groupId payload => ∀ u, groupId ∈ userGroupIds t u →
      ((∃ p ∈ payload.permissionsAfter t groupId, p ∉ userPermissions t u) →
        reach places (groupsAuthority t (otherGroups t u groupId)).scope ⊆
          reach places (userScope t actorId)) ∧
      ((∃ m ∈ reach places (payload.scopeAfter t groupId), m ∉ reach places (userScope t u)) →
        (groupsAuthority t (otherGroups t u groupId)).permissions ⊆ userPermissions t actorId)
  | _ => True

/-- Nobody comes to hold what neither they nor the actor held. -/
def NoEscalation (t' : Tables) (actorId : Uuid) : Prop :=
  ∀ u, authority places t' u ⊆ authority places t u ∪ authority places t actorId

end Authority

/-! ### What one check establishes -/

section Check

variable {places : Places} {t t' : Tables}

/-- What `escalation` lets through is within the actor's own authority. -/
lemma escalation_within {actorId : Uuid} {target : Authority}
    (h : escalation (userAuthority t actorId) target = none)
    (hcat : target.permissions ⊆ allPermissions) :
    target.permissions ⊆ userPermissions t actorId ∧
      reach places target.scope ⊆ reach places (userScope t actorId) := by
  rcases escalation_eq_none h with hadmin | ⟨hperms, -, hscope⟩
  · have hadmin : isAdmin t actorId = true := hadmin
    constructor
    · rw [userPermissions, if_pos hadmin]
      exact hcat
    · rintro m ⟨hm, -⟩
      refine ⟨hm, ?_⟩
      rw [userScope, if_pos hadmin]
      rfl
  · exact ⟨hperms, fun m hm => ⟨hm.1, hscope places m hm.2⟩⟩

lemma groupsAuthority_within (places : Places) {actorId : Uuid} {groupIds : List Uuid} (hwf : t.Wf)
    (h : escalation (userAuthority t actorId) (groupsAuthority t groupIds) = none) :
    (groupsAuthority t groupIds).permissions ⊆ userPermissions t actorId ∧
      reach places (groupsAuthority t groupIds).scope ⊆ reach places (userScope t actorId) := by
  refine escalation_within h fun p hp => ?_
  obtain ⟨g, -, hp⟩ := mem_groupsAuthority.mp hp
  exact permissionsOfGroup_subset hwf g hp

/-- Memberships that are not new, of groups that grant the same. -/
lemma authority_subset (hwf : t.Wf) (hwf' : t'.Wf) {u : Uuid}
    (h : ∀ g ∈ userGroupIds t' u, g ∈ userGroupIds t u ∧ t.Agree t' g) :
    authority places t' u ⊆ authority places t u := by
  rintro ⟨p, m⟩ ⟨hp, hm, hvisible⟩
  obtain ⟨g, hg, hp⟩ := (mem_userPermissions hwf').mp hp
  obtain ⟨g', hg', hvisible⟩ := visible_userScope.mp hvisible
  refine ⟨(mem_userPermissions hwf).mpr ⟨g, (h g hg).1, ?_⟩, hm,
    visible_userScope.mpr ⟨g', (h g' hg').1, ?_⟩⟩
  · rwa [← (h g hg).2.permissions]
  · rwa [← (h g' hg').2.scope]

/-- Memberships that the actor may grant. -/
lemma authority_granted (hwf : t.Wf) (hwf' : t'.Wf) {u actorId : Uuid} {groupIds : List Uuid}
    (hgrant : escalation (userAuthority t actorId) (groupsAuthority t groupIds) = none)
    (h : ∀ g ∈ userGroupIds t' u, g ∈ groupIds ∧ t.Agree t' g) :
    authority places t' u ⊆ authority places t actorId := by
  obtain ⟨hperms, hreach⟩ := groupsAuthority_within places hwf hgrant
  rintro ⟨p, m⟩ ⟨hp, hm, hvisible⟩
  obtain ⟨g, hg, hp⟩ := (mem_userPermissions hwf').mp hp
  obtain ⟨g', hg', hvisible⟩ := visible_userScope.mp hvisible
  refine ⟨hperms (mem_groupsAuthority.mpr ⟨g, (h g hg).1, ?_⟩),
    hreach ⟨hm, visible_groupsAuthority.mpr ⟨g', (h g' hg').1, ?_⟩⟩⟩
  · rwa [← (h g hg).2.permissions]
  · rwa [← (h g' hg').2.scope]

end Check

/-! ### The routes that keep to the rule -/

section Kept

variable {srv : Server} {places : Places} {t t' : Tables} {current : User}

lemma createUser_kept (hwf : t.Wf) (hwf' : t'.Wf) {payload : UserCreate} {id : Uuid}
    (h : createUser srv t current payload id = .ok t') :
    NoEscalation places t t' current.id := by
  obtain ⟨-, hgrant, users, rfl⟩ := createUser_ok h
  intro u
  by_cases hu : u = id
  · refine (authority_granted hwf hwf' hgrant fun g hg => ?_).trans Set.subset_union_right
    rw [mem_setUserGroups, if_pos hu] at hg
    exact ⟨hg, agree_setUserGroups users id payload.groupIds g⟩
  · refine (authority_subset hwf hwf' fun g hg => ?_).trans Set.subset_union_left
    rw [mem_setUserGroups, if_neg hu] at hg
    exact ⟨hg, agree_setUserGroups users id payload.groupIds g⟩

lemma updateUser_kept (hwf : t.Wf) (hwf' : t'.Wf) {userId : Uuid} {payload : UserUpdate}
    (h : updateUser srv t current userId payload = .ok t') :
    NoEscalation places t t' current.id := by
  obtain ⟨user, _, hcheck, rfl⟩ := updateUser_ok h
  intro u
  by_cases hu : u = user.id ∧ ∃ groupIds, payload.groupIds = some (some groupIds)
  · obtain ⟨rfl, groupIds, hids⟩ := hu
    have hgrant := (checkGroupChange_ok hcheck hids).2
    refine (authority_granted hwf hwf' hgrant fun g hg => ?_).trans Set.subset_union_right
    refine ⟨?_, agree_writeUser user payload g⟩
    unfold writeUser at hg
    simp only [hids, mem_setUserGroups, if_true] at hg
    exact hg
  · refine (authority_subset hwf hwf' fun g hg => ?_).trans Set.subset_union_left
    refine ⟨?_, agree_writeUser user payload g⟩
    rcases mem_writeUser hg with hold | ⟨hid, groupIds, hids, -⟩
    · exact hold
    · exact absurd ⟨hid, groupIds, hids⟩ hu

lemma deleteUser_kept (hwf : t.Wf) (hwf' : t'.Wf) {userId : Uuid}
    (h : deleteUser t current userId = .ok t') : NoEscalation places t t' current.id := by
  obtain ⟨id, rfl⟩ := deleteUser_ok h
  intro u
  refine (authority_subset hwf hwf' fun g hg => ⟨?_, agree_of_same rfl rfl rfl⟩).trans
    Set.subset_union_left
  rw [mem_userGroupIds] at hg ⊢
  exact List.mem_of_mem_filter hg

lemma createGroup_kept (hwf : t.Wf) (hwf' : t'.Wf) {payload : GroupCreate} {id : Uuid}
    (h : createGroup t places current payload id = .ok t') :
    NoEscalation places t t' current.id := by
  obtain ⟨group, permissions, scope, rfl, hfresh, -, rfl⟩ := createGroup_ok h
  intro u
  refine (authority_subset hwf hwf' fun g hg => ⟨hg, agree_createGroup ?_⟩).trans
    Set.subset_union_left
  -- nobody is in a group that did not exist
  rintro rfl
  exact hfresh (hwf.member _ (mem_userGroupIds.mp hg))

lemma deleteGroup_kept (hwf : t.Wf) (hwf' : t'.Wf) {groupId : Uuid}
    (h : deleteGroup t current groupId = .ok t') : NoEscalation places t t' current.id := by
  obtain ⟨id, rfl⟩ := deleteGroup_ok h
  intro u
  refine (authority_subset hwf hwf' fun g hg => ?_).trans Set.subset_union_left
  obtain ⟨hg, hne⟩ := List.mem_filter.mp (mem_userGroupIds.mp hg)
  exact ⟨mem_userGroupIds.mpr hg, agree_dropGroup (by simpa using hne)⟩

end Kept

/-! ### `update_group` -/

section Update

variable {places : Places} {t : Tables} {current : User}

/-- A member holds what the group grants, and what its other groups do. -/
lemma userPermissions_split (hwf : t.Wf) {u g : Uuid} (hg : g ∈ userGroupIds t u) :
    (userPermissions t u : Set String) = (permissionsOfGroup t g : Set String) ∪
      (groupsAuthority t (otherGroups t u g)).permissions := by
  ext p
  simp only [Finset.mem_coe, Set.mem_union, mem_userPermissions hwf, mem_groupsAuthority]
  constructor
  · rintro ⟨g', hg', hp⟩
    by_cases he : g' = g
    · exact Or.inl (he ▸ hp)
    · exact Or.inr ⟨g', List.mem_filter.mpr ⟨hg', by simpa using he⟩, hp⟩
  · rintro (hp | ⟨g', hg', hp⟩)
    · exact ⟨g, hg, hp⟩
    · exact ⟨g', List.mem_of_mem_filter hg', hp⟩

lemma reach_split {u g : Uuid} (hg : g ∈ userGroupIds t u) :
    reach places (userScope t u) = reach places (scopeOfGroup t g) ∪
      reach places (groupsAuthority t (otherGroups t u g)).scope := by
  ext m
  simp only [reach, Set.mem_ofPred_eq, Set.mem_union, visible_userScope, visible_groupsAuthority]
  constructor
  · rintro ⟨hm, g', hg', hv⟩
    by_cases he : g' = g
    · exact Or.inl ⟨hm, he ▸ hv⟩
    · exact Or.inr ⟨hm, g', List.mem_filter.mpr ⟨hg', by simpa using he⟩, hv⟩
  · rintro (⟨hm, hv⟩ | ⟨hm, g', hg', hv⟩)
    · exact ⟨hm, g, hg, hv⟩
    · exact ⟨hm, g', List.mem_of_mem_filter hg', hv⟩

variable {groupId : Uuid} {payload : GroupUpdate} {t' : Tables}

/-- What a successful update makes of the tables. -/
structure UpdatedFrom (places : Places) (t : Tables) (actorId groupId : Uuid) (payload : GroupUpdate)
    (t' : Tables) : Prop where
  members : t'.memberships = t.memberships
  permissions : permissionsOfGroup t' groupId = payload.permissionsAfter t groupId
  scope : scopeOfGroup t' groupId = payload.scopeAfter t groupId
  others : ∀ g, g ≠ groupId → t.Agree t' g
  permissions_within : payload.permissionsAfter t groupId ⊆ userPermissions t actorId
  scope_within : reach places (payload.scopeAfter t groupId) ⊆ reach places (userScope t actorId)

lemma updateGroup_updated (hwf : t.Wf) (h : updateGroup t places current groupId payload = .ok t') :
    UpdatedFrom places t current.id groupId payload t' := by
  obtain ⟨group, permissions, scope, hup, rfl⟩ := updateGroup_ok h
  obtain ⟨hmem, rfl, hedit, hperms, hcat, hscope, hplain, hgrant⟩ := hup
  have hadmin : permissions.isSome ∨ scope.isSome → t.adminId group.id = false :=
    fun hc => adminId_eq_false hwf hmem (hplain hc)
  have hafter : payload.permissionsAfter t group.id =
      permissions.getD (permissionsOfGroup t group.id) := by rw [hperms]; rfl
  have hscopeAfter : payload.scopeAfter t group.id = scope.getD (scopeOfGroup t group.id) := by
    rw [hscope]; rfl
  have hwithin : payload.permissionsAfter t group.id ⊆ userPermissions t current.id ∧
      reach places (payload.scopeAfter t group.id) ⊆ reach places (userScope t current.id) := by
    rw [hafter, hscopeAfter]
    by_cases hc : permissions.isSome ∨ scope.isSome
    · refine escalation_within (hgrant hc) fun p hp => ?_
      cases hps : permissions with
      | none =>
        rw [hps] at hp
        exact permissionsOfGroup_subset hwf _ hp
      | some ps =>
        rw [hps] at hp
        exact hcat ps hps hp
    · -- nothing changes: the group was within reach to begin with
      have hp : permissions = none := by simpa using fun h => hc (Or.inl h)
      have hs : scope = none := by simpa using fun h => hc (Or.inr h)
      obtain ⟨hgp, hgs⟩ := groupsAuthority_within places hwf hedit
      rw [hp, hs]
      refine ⟨fun p hp => hgp (mem_groupsAuthority.mpr ⟨_, List.mem_singleton_self _, hp⟩),
        fun m hm => hgs ⟨hm.1, visible_groupsAuthority.mpr ⟨_, List.mem_singleton_self _, hm.2⟩⟩⟩
  refine ⟨writeGroup_memberships .., ?_, ?_, fun g hg => agree_writeGroup _ _ _ hg, hwithin.1,
    hwithin.2⟩
  · rw [hafter]
    exact writeGroup_permissions payload fun hp => hadmin (Or.inl hp)
  · rw [hscopeAfter]
    refine writeGroup_scope payload (fun hs => hadmin (Or.inr hs)) fun s hs => ?_
    rw [hs] at hscope
    obtain ⟨body, -, hbody⟩ := Option.map_eq_some_iff.mp hscope.symm
    obtain ⟨b, -, hb⟩ := Option.bind_eq_some_iff.mp hbody
    exact toScope_isEmpty hb

/-- One member: its authority grows as a rectangle does. -/
lemma UpdatedFrom.member_iff (hwf : t.Wf) (hwf' : t'.Wf) {actorId u : Uuid}
    (h : UpdatedFrom places t actorId groupId payload t') (hu : groupId ∈ userGroupIds t u) :
    authority places t' u ⊆ authority places t u ∪ authority places t actorId ↔
      ((∃ p ∈ payload.permissionsAfter t groupId, p ∉ userPermissions t u) →
        reach places (groupsAuthority t (otherGroups t u groupId)).scope ⊆
          reach places (userScope t actorId)) ∧
      ((∃ m ∈ reach places (payload.scopeAfter t groupId), m ∉ reach places (userScope t u)) →
        (groupsAuthority t (otherGroups t u groupId)).permissions ⊆
          userPermissions t actorId) := by
  have hids : userGroupIds t' u = userGroupIds t u := by
    rw [userGroupIds, h.members]
    rfl
  have hother : otherGroups t' u groupId = otherGroups t u groupId := by
    rw [otherGroups, hids]
    rfl
  have hne : ∀ g ∈ otherGroups t u groupId, g ≠ groupId := fun g hg => by
    simpa using (List.mem_filter.mp hg).2
  have hperms : (groupsAuthority t' (otherGroups t u groupId)).permissions =
      (groupsAuthority t (otherGroups t u groupId)).permissions := by
    ext p
    simp only [mem_groupsAuthority]
    exact exists_congr fun g => and_congr_right fun hg => by
      rw [(h.others g (hne g hg)).permissions]
  have hreach : reach places (groupsAuthority t' (otherGroups t u groupId)).scope =
      reach places (groupsAuthority t (otherGroups t u groupId)).scope := by
    ext m
    simp only [reach, Set.mem_ofPred_eq, visible_groupsAuthority]
    exact and_congr_right fun _ => exists_congr fun g => and_congr_right fun hg => by
      rw [(h.others g (hne g hg)).scope]
  have hafter : authority places t' u =
      ((payload.permissionsAfter t groupId : Set String) ∪
        (groupsAuthority t (otherGroups t u groupId)).permissions) ×ˢ
      (reach places (payload.scopeAfter t groupId) ∪
        reach places (groupsAuthority t (otherGroups t u groupId)).scope) := by
    rw [authority, userPermissions_split hwf' (hids ▸ hu), reach_split (hids ▸ hu), hother, hperms,
      hreach, h.permissions, h.scope]
  have hbefore : authority places t u =
      ((permissionsOfGroup t groupId : Set String) ∪
        (groupsAuthority t (otherGroups t u groupId)).permissions) ×ˢ
      (reach places (scopeOfGroup t groupId) ∪
        reach places (groupsAuthority t (otherGroups t u groupId)).scope) := by
    rw [authority, userPermissions_split hwf hu, reach_split hu]
  rw [hafter, hbefore, authority, prod_grown_subset_iff
    (Finset.coe_subset.mpr h.permissions_within) h.scope_within, ← userPermissions_split hwf hu,
    ← reach_split hu, Finset.coe_subset]
  exact Iff.rfl

lemma updateGroup_iff (hwf : t.Wf) (hwf' : t'.Wf)
    (h : updateGroup t places current groupId payload = .ok t') :
    NoEscalation places t t' current.id ↔
      Confined places t current.id (.updateGroup groupId payload) := by
  have hup := updateGroup_updated hwf h
  constructor
  · intro hno u hu
    exact (hup.member_iff hwf hwf' hu).mp (hno u)
  · intro hconf u
    by_cases hu : groupId ∈ userGroupIds t u
    · exact (hup.member_iff hwf hwf' hu).mpr (hconf u hu)
    · refine (authority_subset hwf hwf' fun g hg => ?_).trans Set.subset_union_left
      rw [userGroupIds, hup.members] at hg
      exact ⟨hg, hup.others g fun he => hu (he ▸ hg)⟩

end Update

/-- **No escalation**, exactly when it is confined: after a successful request every account holds
what it held, or what the actor holds. -/
theorem no_escalation_iff (srv : Server) (s s' : Accounts) (places : Places) (current : User)
    (req : Request) (h : s.request srv places current req = .ok s') :
    NoEscalation places s.tables s'.tables current.id ↔
      Confined places s.tables current.id req := by
  have hok := Accounts.request_ok h
  unfold request at hok
  obtain ⟨_, -, hok⟩ := bind_eq_ok hok
  obtain ⟨_, -, hok⟩ := bind_eq_ok hok
  cases req with
  | createUser payload id => exact iff_of_true (createUser_kept s.wf s'.wf hok) trivial
  | updateUser userId payload => exact iff_of_true (updateUser_kept s.wf s'.wf hok) trivial
  | deleteUser userId => exact iff_of_true (deleteUser_kept s.wf s'.wf hok) trivial
  | createGroup payload id => exact iff_of_true (createGroup_kept s.wf s'.wf hok) trivial
  | updateGroup groupId payload => exact updateGroup_iff s.wf s'.wf hok
  | deleteGroup groupId => exact iff_of_true (deleteGroup_kept s.wf s'.wf hok) trivial

/-- Group 10 manages the accounts of site A.  The technician is in group 11, of site A too, and, with
`readsAll`, in group 12, which reads the whole parc. -/
def siteTables (readsAll : Bool) : Tables where
  users := [⟨1, "chef@a.pf", none, true, .none⟩, ⟨2, "tech@a.pf", none, true, .none⟩]
  groups := [⟨10, "Gestion A", none, none⟩, ⟨11, "Techniciens A", none, none⟩,
    ⟨12, "Lecture seule", none, some .readonly⟩]
  permissions := [(10, "user:read"), (10, "user:write"), (10, "command:execute"),
    (12, "machine:read")]
  scopes := [(10, .location "A"), (11, .location "A")]
  memberships := [(1, 10), (2, 11)] ++ if readsAll then [(2, 12)] else []

def siteAccounts (readsAll : Bool) : Accounts where
  tables := siteTables readsAll
  wf := by cases readsAll <;> exact ⟨by decide, by decide, by decide⟩

def chef : User := ⟨1, "chef@a.pf", none, true, .none⟩

/-- One machine, of site B. -/
def siteB : Places := ⟨[⟨7, some "B", none⟩], [], []⟩

/-- The technicians get the commands. -/
def grantCommands : Request :=
  .updateGroup 11 ⟨none, none, some (some ["command:execute"]), none⟩

def commandsGranted (readsAll : Bool) : Tables :=
  { siteTables readsAll with
    permissions := (siteTables readsAll).permissions ++ [(11, "command:execute")] }

lemma grantCommands_ok (readsAll : Bool) :
    request .standard (siteTables readsAll) siteB chef grantCommands =
      .ok (commandsGranted readsAll) := by
  cases readsAll <;> decide +kernel

lemma grantCommands_accepted (readsAll : Bool) :
    (siteAccounts readsAll).request .standard siteB chef grantCommands =
      .ok ⟨commandsGranted readsAll, request_wf (siteAccounts readsAll).wf (grantCommands_ok readsAll)⟩ :=
  Accounts.request_eq (s := siteAccounts readsAll) (grantCommands_ok readsAll)

/-- A technician of site A only: the grant stays where the actor is. -/
theorem no_escalation_iff_one_site :
    NoEscalation siteB (siteTables false) (commandsGranted false) 1 := by
  refine (no_escalation_iff .standard (siteAccounts false) _ siteB chef grantCommands
    (grantCommands_accepted false)).mpr fun u hu => ?_
  have hother : otherGroups (siteTables false) u 11 = [] := by
    have hsingle : ∀ g ∈ userGroupIds (siteTables false) u, g = 11 := by
      intro g hg
      have hrow := mem_userGroupIds.mp hg
      have htech := mem_userGroupIds.mp hu
      simp only [siteTables, siteAccounts, List.cons_append, List.nil_append, List.mem_cons,
        Prod.mk.injEq] at hrow htech
      grind
    rw [otherGroups, List.filter_eq_nil_iff]
    intro g hg
    simpa using hsingle g hg
  show (_ → reach siteB (groupsAuthority (siteTables false) (otherGroups (siteTables false) u 11)).scope
    ⊆ _) ∧ (_ → (groupsAuthority (siteTables false) (otherGroups (siteTables false) u 11)).permissions
      ⊆ _)
  have hscope : (groupsAuthority (siteTables false) []).scope = some .empty := rfl
  rw [hother, hscope]
  refine ⟨?_, fun _ => Finset.empty_subset _⟩
  rintro - m ⟨-, hm⟩
  rw [visible_empty] at hm
  cases hm

/-- A technician who also reads the whole parc may now send commands to site B, which the actor does
not see. -/
theorem no_escalation_two_sites :
    ¬∀ (srv : Server) (s s' : Accounts) (places : Places) (current : User) (req : Request),
      s.request srv places current req = .ok s' →
        NoEscalation places s.tables s'.tables current.id := by
  intro h
  have hsub := h .standard (siteAccounts true) _ siteB chef grantCommands
    (grantCommands_accepted true) 2
  have hnew : (("command:execute", ⟨7, some "B", none⟩) : String × Poste) ∈
      authority siteB (commandsGranted true) 2 := ⟨by decide, by decide, by decide⟩
  rcases hsub hnew with ⟨hp, -⟩ | ⟨-, -, hm⟩
  · exact absurd hp (by decide)
  · exact absurd hm (by decide)

end Tiai
