import InsightsRbac.MigrationTool.Mapping

/-!
Contract: the registry side and the role side of the permission translation.
`set_system_roles` keys a system role by `inventory_to_workspace` of each cleaned
permission text; `v1_role_to_v2_mapping` drops the permissions of skipped apps and
translates the rest with `v1_perm_to_v2_perm`. Where the two agree on every
permission of a system role, a V1 role granting exactly those permissions with no
resource definitions is bound on the root workspace to the registered role alone.

Owns: that binding (`v1RoleToV2Mapping_system_role`), and the two ways the sides
part: a permission of a skipped app, which the registry keeps and the role side
drops, and an `inventory:groups` verb other than `read`, `write` and `*`.

Does not own: the database query behind `set_system_roles`; the roles it returns
are a list given to the registry.
-/

namespace InsightsRbac.MigrationTool

open InsightsRbac.Python

/-- A permission row granted as a V1 permission with no resource definitions. -/
def Permission.toV1permission (p : Permission) : V1permission :=
  ⟨p.application, p.resourceType, p.verb, []⟩

/-- The registry's v2 string for a permission, `inventory_to_workspace` of the
cleaned text, is the role side's `v1_perm_to_v2_perm`. -/
def Permission.TranslatedAlike (p : Permission) : Prop :=
  inventoryToWorkspace (cleanNameForV2SchemaCompatibility p.permission) = v1PermToV2Perm p.toV1permission

instance (p : Permission) : Decidable p.TranslatedAlike :=
  inferInstanceAs (Decidable (_ = _))

/-! ## The grouping of an unscoped role -/

/-- A role of enabled permissions without resource definitions is grouped under
the root workspace alone. -/
theorem permGroupings_entries_of_unscoped (v1Role : V1role) (rootWorkspace defaultWorkspace : String)
    (unscoped : ∀ v1Perm ∈ v1Role.permissions, isForEnabledApp v1Perm = true ∧ v1Perm.resourceDefs = [])
    (nonempty : v1Role.permissions ≠ []) :
    ∃ groupings, permGroupings v1Role rootWorkspace defaultWorkspace = .ok groupings ∧
      groupings.entries = [(⟨"workspace", .str rootWorkspace⟩, v1Role.permissions.map v1PermToV2Perm)] := by
  obtain ⟨first, rest, split⟩ := List.exists_cons_of_ne_nil nonempty
  refine ⟨_, foldlM_groupPermission_of_unscoped rootWorkspace defaultWorkspace _ _ unscoped, ?_⟩
  rw [split, List.foldl_cons, ← List.foldl_map, List.map_cons]
  exact ListDict.entries_foldl_addElement_of_single _ _ _ [v1PermToV2Perm first] rfl

/-- The roles bound on the one resource of a single-entry grouping are those the
matcher returns for its permissions. -/
theorem extractSystemRoles_of_single (dbRoles : List Role) (permGroupings : ListDict V2boundresource String)
    (v1Role : V1role) (st : Process) (resource : V2boundresource) (permissions : List String)
    (single : permGroupings.entries = [(resource, permissions)]) :
    let registry := SystemRoles.getSystemRoles dbRoles st.systemRoles
    let matched := matchResource registry v1Role.id permissions { st with systemRoles := registry }
    (extractSystemRoles dbRoles permGroupings v1Role st).1 =
      matched.1.foldl (fun acc role => acc.addElement role resource) ListDict.empty := by
  simp only [extractSystemRoles, single, extractWith]

/-! ## A system role granted as a V1 role -/

/-- A non-external system role with permissions, all of enabled apps and each
translated alike on both sides: a V1 role granting exactly its permissions with no
resource definitions is bound, on the root workspace only, to the role the
registry keys by its permission set. -/
theorem v1RoleToV2Mapping_system_role (dbRoles : List Role) (s : Role) (member : s ∈ dbRoles)
    (system : s.system = true) (internal : isTruthy s.externalRoleId = false) (nonempty : s.access ≠ [])
    (enabled : ∀ access ∈ s.access, isForEnabledApp access.permission.toV1permission = true)
    (alike : ∀ access ∈ s.access, access.permission.TranslatedAlike)
    (v1Role : V1role) (grants : v1Role.permissions = s.access.map (·.permission.toV1permission))
    (rootWorkspace defaultWorkspace : String) (st : Process)
    (registered : SystemRoles.getSystemRoles dbRoles st.systemRoles =
      SystemRoles.setSystemRoles dbRoles SystemRoles.empty) :
    ∃ bindings after,
      v1RoleToV2Mapping dbRoles v1Role rootWorkspace defaultWorkspace st = .ok (bindings, after) ∧
      bindings ≠ [] ∧
      ∀ binding ∈ bindings, binding.resources = [⟨"workspace", .str rootWorkspace⟩] ∧
        (SystemRoles.setSystemRoles dbRoles SystemRoles.empty).get (SystemRoles.systemRolePermissions s) =
          some binding.role := by
  let root : V2boundresource := ⟨"workspace", .str rootWorkspace⟩
  have unscoped : ∀ v1Perm ∈ v1Role.permissions, isForEnabledApp v1Perm = true ∧ v1Perm.resourceDefs = [] := by
    rw [grants]
    simpa [Permission.toV1permission] using enabled
  obtain ⟨groupings, grouped, single⟩ := permGroupings_entries_of_unscoped v1Role rootWorkspace
    defaultWorkspace unscoped (by simpa [grants] using nonempty)
  have key : (v1Role.permissions.map v1PermToV2Perm).toFinset = SystemRoles.systemRolePermissions s := by
    rw [grants, List.map_map, SystemRoles.systemRolePermissions]
    exact congrArg List.toFinset (List.map_congr_left fun access member => (alike access member).symm)
  obtain ⟨role, found⟩ := Option.isSome_iff_exists.1
    (SystemRoles.setSystemRoles_get_isSome dbRoles SystemRoles.empty s member system internal)
  have extracted := extractSystemRoles_of_single dbRoles groupings v1Role st root _ single
  simp only [registered, matchResource, key, found] at extracted
  let drawn := withUuids (bindingTargets (extractSystemRoles dbRoles groupings v1Role st).1
    (v1groupsToV2groups v1Role.groups)) (extractSystemRoles dbRoles groupings v1Role st).2
  refine ⟨drawn.1.map (mkBinding v1Role), drawn.2, by rw [v1RoleToV2Mapping, grouped]; rfl, ?_,
    fun binding drawn => ?_⟩
  · obtain ⟨groups, inSets⟩ := exists_mem_groupSets (v1groupsToV2groups v1Role.groups)
    have target := (mem_bindingTargets (extractSystemRoles dbRoles groupings v1Role st).1 _ role root
      groups).2 ⟨by simp [extracted, ListDict.get_addElement], inSets⟩
    rw [← map_snd_withUuids (bindingTargets _ _) (extractSystemRoles dbRoles groupings v1Role st).2] at target
    obtain ⟨_, member, -⟩ := List.mem_map.1 target
    exact List.ne_nil_of_mem (List.mem_map_of_mem _ member)
  · obtain ⟨resource, single, bound, -⟩ := mem_map_mkBinding drawn
    rw [extracted, List.foldl_cons, List.foldl_nil, ListDict.get_addElement] at bound
    split at bound
    · next same => exact ⟨by simpa [single] using bound, by rw [found, same]⟩
    · simp at bound

/-- The `rbac:roles:read` system role and the V1 role granting that permission. -/
theorem v1RoleToV2Mapping_system_role_roles_reader :
    let reader : Role := ⟨⟨5⟩, true, none, [⟨⟨"rbac", "roles", "read"⟩⟩]⟩
    ∃ bindings after,
      v1RoleToV2Mapping [reader] ⟨"role-1", [⟨"rbac", "roles", "read", []⟩], []⟩ "root" "default"
          Process.initial = .ok (bindings, after) ∧
      bindings ≠ [] ∧
      ∀ binding ∈ bindings, binding.resources = [⟨"workspace", .str "root"⟩] ∧
        (SystemRoles.setSystemRoles [reader] SystemRoles.empty).get
          (SystemRoles.systemRolePermissions reader) = some binding.role := by
  intro reader
  exact v1RoleToV2Mapping_system_role [reader] reader (List.mem_singleton_self _) rfl rfl
    (List.cons_ne_nil _ _) (by decide) (by decide) _ rfl "root" "default" Process.initial rfl

/-- The two sides part. A system role of the skipped app `approval` is
registered, but the V1 role granting its permission gets no binding; and the
registry keys `inventory:groups:execute` as `inventory_groups_execute` where the
role side makes `workspace_execute`, so the V1 role gets a custom role. -/
theorem v1RoleToV2Mapping_system_role_sides_part :
    (v1RoleToV2Mapping [⟨⟨5⟩, true, none, [⟨⟨"approval", "requests", "read"⟩⟩]⟩]
        ⟨"role-1", [⟨"approval", "requests", "read", []⟩], []⟩ "root" "default" Process.initial).map
        (·.1.length) = .ok 0 ∧
      (v1RoleToV2Mapping [⟨⟨6⟩, true, none, [⟨⟨"inventory", "groups", "execute"⟩⟩]⟩]
          ⟨"role-2", [⟨"inventory", "groups", "execute", []⟩], []⟩ "root" "default" Process.initial).map
          (·.1.map (·.role)) = .ok [⟨⟨0⟩, false, {"workspace_execute"}⟩] :=
  ⟨rfl, rfl⟩

end InsightsRbac.MigrationTool
