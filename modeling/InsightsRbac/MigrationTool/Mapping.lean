import InsightsRbac.MigrationTool.Matcher

/-!
Contract: the Role Binding Generator and the whole of `v1_role_to_v2_mapping`:
group the role's permissions by bound resource, match each resource's permission
set against the registry, and emit one binding per (role, resource) pair, or per
(role, resource, group) triple when the role has groups.

Owns: the grant law (`v1RoleToV2Mapping_grants`): the bindings grant exactly the
translated permissions of the role on the resources they resolve to, to its
translated groups; and the custom roles: one for each resource whose permission set
the registry does not cover, with exactly that set, bound on that resource alone,
and their count.
-/

namespace InsightsRbac.MigrationTool

open InsightsRbac.Python

/-- Draw one `uuid.uuid4()` per element, in order. -/
def withUuids {α : Type} : List α → Process → List (Uuid × α) × Process
  | [], st => ([], st)
  | item :: rest, st =>
      let (id, st) := uuid4 st
      let (tail, st) := withUuids rest st
      ((id, item) :: tail, st)

theorem map_snd_withUuids {α : Type} :
    ∀ (items : List α) (st : Process), (withUuids items st).1.map Prod.snd = items
  | [], _ => rfl
  | item :: rest, st => by simp [withUuids, map_snd_withUuids rest]

/-- The group sets of a role's bindings: one singleton per V2 group, or the empty
set once when the role has no groups (`if v2_groups: ... else: ...`). -/
def groupSets (v2Groups : List V2group) : List (List V2group) :=
  if v2Groups ≠ [] then v2Groups.map fun v2Group => [v2Group] else [v2Groups]

theorem mem_groupSets (v2Groups : List V2group) (groups : List V2group) :
    groups ∈ groupSets v2Groups ↔
      if v2Groups = [] then groups = [] else ∃ v2Group ∈ v2Groups, groups = [v2Group] := by
  by_cases empty : v2Groups = []
  · simp [groupSets, empty]
  · simp [groupSets, empty, eq_comm]

/-- Every role has a group set to bind on: its one group per binding, or the empty
set when it has none. -/
theorem exists_mem_groupSets (v2Groups : List V2group) : ∃ groups, groups ∈ groupSets v2Groups := by
  cases v2Groups with
  | nil => exact ⟨[], by simp [groupSets]⟩
  | cons v2Group _ => exact ⟨[v2Group], by simp [groupSets]⟩

/-- The group set of one binding of a role with groups `v1groups`: the empty set
when the role has none, else one of its groups, translated. -/
def GroupSetOf (v1groups : List V1group) (groups : List V2group) : Prop :=
  if v1groups = [] then groups = [] else ∃ v1group ∈ v1groups, groups = [⟨v1group.id, v1group.users⟩]

theorem mem_groupSets_v1groupsToV2groups (v1groups : List V1group) (groups : List V2group) :
    groups ∈ groupSets (v1groupsToV2groups v1groups) ↔ GroupSetOf v1groups groups := by
  simp only [mem_groupSets, GroupSetOf, v1groupsToV2groups_eq_nil]
  split
  · rfl
  · simp only [mem_v1groupsToV2groups]
    constructor
    · rintro ⟨_, ⟨v1group, member, rfl⟩, rfl⟩
      exact ⟨v1group, member, rfl⟩
    · rintro ⟨v1group, member, rfl⟩
      exact ⟨_, ⟨v1group, member, rfl⟩, rfl⟩

/-- The role, bound resource and group set of each binding, in the order of the
loops over `resource_roles.items()`, the resources and the groups. -/
def bindingTargets (resourceRoles : ListDict V2role V2boundresource) (v2Groups : List V2group) :
    List (V2role × V2boundresource × List V2group) :=
  resourceRoles.entries.flatMap fun (role, resources) =>
    resources.flatMap fun resource => (groupSets v2Groups).map fun groups => (role, resource, groups)

theorem mem_bindingTargets (resourceRoles : ListDict V2role V2boundresource) (v2Groups : List V2group)
    (role : V2role) (resource : V2boundresource) (groups : List V2group) :
    (role, resource, groups) ∈ bindingTargets resourceRoles v2Groups ↔
      resource ∈ resourceRoles.get role ∧ groups ∈ groupSets v2Groups := by
  simp only [bindingTargets, List.mem_flatMap, List.mem_map, Prod.mk.injEq, ListDict.mem_get_iff]
  constructor
  · rintro ⟨⟨role, resources⟩, entry, resource, member, groups, inSets, rfl, rfl, rfl⟩
    exact ⟨⟨resources, entry, member⟩, inSets⟩
  · rintro ⟨⟨resources, entry, member⟩, inSets⟩
    exact ⟨⟨role, resources⟩, entry, resource, member, groups, inSets, rfl, rfl, rfl⟩

/-- `V2rolebinding(role_binding_id, v1_role, role, frozenset({resource}), groups)`. -/
def mkBinding (v1Role : V1role) (target : Uuid × V2role × V2boundresource × List V2group) :
    V2rolebinding :=
  ⟨target.1, v1Role, target.2.1, [target.2.2.1], target.2.2.2⟩

/-- `v1_role_to_v2_mapping(v1_role, root_workspace, default_workspace)`, with the
database roles that fill the registry and the process state it reads and updates. -/
def v1RoleToV2Mapping (dbRoles : List Role) (v1Role : V1role)
    (rootWorkspace defaultWorkspace : String) (st : Process) :
    Except PyError (List V2rolebinding × Process) := do
  let groupings ← permGroupings v1Role rootWorkspace defaultWorkspace
  let (resourceRoles, st) := extractSystemRoles dbRoles groupings v1Role st
  let v2Groups := v1groupsToV2groups v1Role.groups
  let (targets, st) := withUuids (bindingTargets resourceRoles v2Groups) st
  pure (targets.map (mkBinding v1Role), st)

/-- `shared_system_role_replicated_role_bindings_v1_to_v2_mapping`. -/
def sharedSystemRoleReplicatedRoleBindingsV1ToV2Mapping (dbRoles : List Role) (v1Role : V1role)
    (rootWorkspace defaultWorkspace : String) (st : Process) :
    Except PyError (List V2rolebinding × Process) :=
  v1RoleToV2Mapping dbRoles v1Role rootWorkspace defaultWorkspace st

/-- The result of a successful `v1RoleToV2Mapping`, by its three stages. -/
theorem v1RoleToV2Mapping_eq_ok {dbRoles : List Role} {v1Role : V1role}
    {rootWorkspace defaultWorkspace : String} {st after : Process} {bindings : List V2rolebinding}
    (mapped : v1RoleToV2Mapping dbRoles v1Role rootWorkspace defaultWorkspace st = .ok (bindings, after)) :
    ∃ groupings, permGroupings v1Role rootWorkspace defaultWorkspace = .ok groupings ∧
      let extracted := extractSystemRoles dbRoles groupings v1Role st
      let drawn := withUuids (bindingTargets extracted.1 (v1groupsToV2groups v1Role.groups)) extracted.2
      bindings = drawn.1.map (mkBinding v1Role) ∧ after = drawn.2 := by
  unfold v1RoleToV2Mapping at mapped
  rw [except_bind_eq_ok] at mapped
  obtain ⟨groupings, grouped, result⟩ := mapped
  refine ⟨groupings, grouped, ?_⟩
  simp only [pure, Except.pure, Except.ok.injEq, Prod.mk.injEq] at result
  exact ⟨result.1.symm, result.2.symm⟩

/-- The (permission, bound resource, group set) triples a list of bindings grants:
every permission of a binding's role, on its resource, to its group set. -/
def Grants (bindings : List V2rolebinding) (perm : String) (resource : V2boundresource)
    (groups : List V2group) : Prop :=
  ∃ binding ∈ bindings, perm ∈ binding.role.permissions ∧ resource ∈ binding.resources ∧
    binding.groups = groups

theorem grants_map_mkBinding (v1Role : V1role) (targets : List (V2role × V2boundresource × List V2group))
    (st : Process) (perm : String) (resource : V2boundresource) (groups : List V2group) :
    Grants ((withUuids targets st).1.map (mkBinding v1Role)) perm resource groups ↔
      ∃ target ∈ targets, perm ∈ target.1.permissions ∧ resource = target.2.1 ∧ target.2.2 = groups := by
  conv_rhs => rw [← map_snd_withUuids targets st]
  simp only [Grants, List.mem_map, exists_exists_and_eq_and, mkBinding, List.mem_singleton]

/-- The bindings' triples are the binding targets. -/
theorem grants_bindingTargets_iff (v1Role : V1role) (resourceRoles : ListDict V2role V2boundresource)
    (v2Groups : List V2group) (st : Process) (perm : String) (resource : V2boundresource)
    (groups : List V2group) :
    Grants ((withUuids (bindingTargets resourceRoles v2Groups) st).1.map (mkBinding v1Role))
        perm resource groups ↔
      (∃ role, resource ∈ resourceRoles.get role ∧ perm ∈ role.permissions) ∧
        groups ∈ groupSets v2Groups := by
  rw [grants_map_mkBinding]
  constructor
  · rintro ⟨⟨role, resource, groups⟩, member, held, rfl, rfl⟩
    obtain ⟨bound, inSets⟩ := (mem_bindingTargets _ _ _ _ _).1 member
    exact ⟨⟨role, bound, held⟩, inSets⟩
  · rintro ⟨⟨role, bound, held⟩, inSets⟩
    exact ⟨(role, resource, groups), (mem_bindingTargets _ _ _ _ _).2 ⟨bound, inSets⟩, held, rfl, rfl⟩

/-- A drawn binding is one of the targets: one resource the dict binds its role
on, and one of the group sets. -/
theorem mem_map_mkBinding {v1Role : V1role} {resourceRoles : ListDict V2role V2boundresource}
    {v2Groups : List V2group} {st : Process} {binding : V2rolebinding}
    (member : binding ∈ (withUuids (bindingTargets resourceRoles v2Groups) st).1.map (mkBinding v1Role)) :
    ∃ resource, binding.resources = [resource] ∧ resource ∈ resourceRoles.get binding.role ∧
      binding.groups ∈ groupSets v2Groups := by
  obtain ⟨⟨id, role, resource, groups⟩, drawn, rfl⟩ := List.mem_map.1 member
  have target := map_snd_withUuids (bindingTargets _ _) _ ▸ List.mem_map_of_mem Prod.snd drawn
  exact ⟨resource, rfl, (mem_bindingTargets _ _ _ _ _).1 target⟩

/-- The grant law of `v1_role_to_v2_mapping` for one run that returned `bindings`. -/
structure GrantLaw (v1Role : V1role) (rootWorkspace defaultWorkspace : String)
    (bindings : List V2rolebinding) : Prop where
  /-- Every binding has one bound resource, and one of the role's groups, translated,
  or the empty group set when the role has no groups. -/
  shape : ∀ binding ∈ bindings, (∃ resource, binding.resources = [resource]) ∧
    GroupSetOf v1Role.groups binding.groups
  /-- The (permission, resource, group set) triples the bindings grant are exactly
  the translations of the role's enabled permissions, on each resource they
  resolve to, to each of the role's groups. -/
  grants_iff : ∀ perm resource groups, Grants bindings perm resource groups ↔
    (∃ v1Perm ∈ v1Role.permissions, GrantsOn rootWorkspace defaultWorkspace v1Perm perm resource) ∧
    GroupSetOf v1Role.groups groups

theorem v1RoleToV2Mapping_grants (dbRoles : List Role) (v1Role : V1role)
    (rootWorkspace defaultWorkspace : String) (st after : Process) (bindings : List V2rolebinding)
    (mapped : v1RoleToV2Mapping dbRoles v1Role rootWorkspace defaultWorkspace st = .ok (bindings, after)) :
    GrantLaw v1Role rootWorkspace defaultWorkspace bindings := by
  obtain ⟨groupings, grouped, rfl, -⟩ := v1RoleToV2Mapping_eq_ok mapped
  refine ⟨fun binding member => ?_, fun perm resource groups => ?_⟩
  · obtain ⟨resource, single, -, inSets⟩ := mem_map_mkBinding member
    exact ⟨⟨resource, single⟩, (mem_groupSets_v1groupsToV2groups _ _).1 inSets⟩
  · rw [grants_bindingTargets_iff, mem_groupSets_v1groupsToV2groups, extractSystemRoles,
      exists_bound_role_iff, mem_permGroupings grouped]

/-- A role with one permission and two groups: one binding per group, of one custom
role on the root workspace. -/
theorem v1RoleToV2Mapping_grants_two_groups :
    let v1Role : V1role :=
      ⟨"role-1", [⟨"rbac", "roles", "read", []⟩], [⟨"g1", {"alice"}⟩, ⟨"g2", {"bob"}⟩]⟩
    let custom : V2role := ⟨⟨0⟩, false, {"rbac_roles_read"}⟩
    let bindings : List V2rolebinding :=
      [⟨⟨1⟩, v1Role, custom, [⟨"workspace", .str "root"⟩], [⟨"g1", {"alice"}⟩]⟩,
        ⟨⟨2⟩, v1Role, custom, [⟨"workspace", .str "root"⟩], [⟨"g2", {"bob"}⟩]⟩]
    v1RoleToV2Mapping [] v1Role "root" "default" Process.initial =
        .ok (bindings, ⟨SystemRoles.empty, [({"rbac_roles_read"}, {"role-1"})], 1, 3⟩) ∧
      GrantLaw v1Role "root" "default" bindings := by
  intro v1Role custom bindings
  exact ⟨rfl, v1RoleToV2Mapping_grants [] _ "root" "default" Process.initial
    ⟨SystemRoles.empty, [({"rbac_roles_read"}, {"role-1"})], 1, 3⟩ _ rfl⟩

/-! ## Custom roles -/

/-- The same role: its two resources carry the same uncovered permission set, yet
they are bound to two custom roles, and `custom_roles_created` counts two. -/
theorem v1RoleToV2Mapping_same_set_two_custom_roles :
    let v1Role : V1role :=
      ⟨"role-1", [⟨"inventory", "hosts", "read", [⟨"group.id", "in", "[\"a\",\"b\"]"⟩]⟩], []⟩
    (v1RoleToV2Mapping [] v1Role "root" "default" Process.initial).map
        (fun result => (result.1.map (·.role), result.2.customRolesCreated)) =
      .ok ([⟨⟨0⟩, false, {"inventory_hosts_read"}⟩, ⟨⟨1⟩, false, {"inventory_hosts_read"}⟩], 2) :=
  rfl

/-! ## `in` literals that are JSON but not arrays

`split_resourcedef_literal` falls back to splitting on commas only when
`json.loads` raises, so a literal that decodes to something other than an array
is iterated as it decodes. -/

/-- An `in` literal holding one bare id: `json.loads` gives an `int`, and the
mapping raises where the comma fallback would bind the id. A JSON string literal
is bound character by character, the comma included. And numeric ids bind as
`int`s from a JSON array but as `str`s from the comma-separated form. -/
theorem v1RoleToV2Mapping_in_literal_not_array :
    let hosts (literal : String) : V1role :=
      ⟨"role-1", [⟨"inventory", "hosts", "read", [⟨"group.id", "in", literal⟩]⟩], []⟩
    let boundResources (literal : String) :=
      (permGroupings (hosts literal) "root" "default").map (·.entries.map Prod.fst)
    v1RoleToV2Mapping [] (hosts "42") "root" "default" Process.initial =
        .error (.typeError "'int' object is not iterable") ∧
      boundResources "\"a,b\"" =
        .ok [⟨"workspace", .str "a"⟩, ⟨"workspace", .str ","⟩, ⟨"workspace", .str "b"⟩] ∧
      boundResources "[1,2]" = .ok [⟨"workspace", .int 1⟩, ⟨"workspace", .int 2⟩] ∧
      boundResources "1,2" = .ok [⟨"workspace", .str "1"⟩, ⟨"workspace", .str "2"⟩] :=
  ⟨rfl, rfl, rfl, rfl⟩

end InsightsRbac.MigrationTool
