import InsightsRbac.MigrationTool.Models
import InsightsRbac.Python.Encoder

/-!
Contract: the Resource Binder of `sharedSystemRolesReplicatedRoleBindings.py`, the
first loop of `v1_role_to_v2_mapping` ("Group V2 permissions by target") and the
functions it calls: `is_for_enabled_app`, `v1_perm_to_v2_perm`,
`v1_attributefilter_resource_type_to_v2_resource_type`,
`split_resourcedef_literal`, and `inventory_to_workspace` and
`v1groups_to_v2groups`, which the registry and the bindings use.

Owns: the loop with every exception it lets escape (`JSONDecodeError` of a literal
under an operator other than `in`, `TypeError` of a non-iterable literal or an
unhashable id, `IndexError` of a resource type without a dot); `mem_permGroupings`,
which says which permissions each bound resource receives; and that an `in` literal
written by `json.dumps` binds exactly its ids, whatever characters they hold
(`resourceDefBoundResources_inventory_dumps`), the plain ids of `dumpsStrList`
among them.

Does not own: the matcher (`Matcher`) and the bindings (`Mapping`).
-/

namespace InsightsRbac.MigrationTool

open InsightsRbac.Python

/-- `inventory_to_workspace`: the registry's remapping of the three inventory
group permissions. -/
def inventoryToWorkspace (v2Perm : String) : String :=
  if v2Perm = "inventory_groups_read" then "workspace_read"
  else if v2Perm = "inventory_groups_write" then "workspace_write"
  else if v2Perm = "inventory_groups_all" then "workspace_all"
  else v2Perm

def skippedApps : List String := ["cost-management", "playbook-dispatcher", "approval"]

/-- `is_for_enabled_app`: the permission's app is not a skipped app. -/
def isForEnabledApp (perm : V1permission) : Bool := perm.app ∉ skippedApps

/-- `v1_perm_to_v2_perm`. -/
def v1PermToV2Perm (v1Permission : V1permission) : String :=
  if v1Permission.app = "inventory" ∧ v1Permission.resource = "groups" then
    cleanNameForV2SchemaCompatibility ("workspace_" ++ v1Permission.perm)
  else
    cleanNameForV2SchemaCompatibility
      (v1Permission.app ++ "_" ++ v1Permission.resource ++ "_" ++ v1Permission.perm)

/-- `v1_attributefilter_resource_type_to_v2_resource_type`: `app.type` becomes
`app/type`; without a dot, `parts[1]` raises `IndexError`. -/
def v1AttributefilterResourceTypeToV2ResourceType (resourceType : String) :
    Except PyError String :=
  match strSplitOnce resourceType '.' with
  | [app, resource] =>
      .ok (cleanNameForV2SchemaCompatibility app ++ "/" ++
        cleanNameForV2SchemaCompatibility resource)
  | _ => .error (.indexError "list index out of range")

/-- `split_resourcedef_literal`: under `in`, whatever `json.loads` returns, or the
comma-separated pieces when it raises `JSONDecodeError`; under any other operator,
the one decoded value in a list. -/
def splitResourcedefLiteral (resourceDef : V1resourcedef) : Except PyError JsonValue :=
  if resourceDef.op = "in" then
    match loads resourceDef.resourceId with
    | .ok value => .ok value
    | .error _ => .ok (.array ((strSplit resourceDef.resourceId ',').map .str))
  else
    match loads resourceDef.resourceId with
    | .ok value => .ok (.array [value])
    | .error e => .error (.jsonDecodeError e)

/-- `v1groups_to_v2groups`: one V2 group per distinct V1 group. -/
def v1groupsToV2groups (v1groups : List V1group) : List V2group :=
  (v1groups.map fun v1group => ⟨v1group.id, v1group.users⟩).dedup

theorem v1groupsToV2groups_eq_nil (v1groups : List V1group) : v1groupsToV2groups v1groups = [] ↔ v1groups = [] := by
  rw [v1groupsToV2groups, List.dedup_eq_nil, List.map_eq_nil_iff]

theorem mem_v1groupsToV2groups (v1groups : List V1group) (v2Group : V2group) :
    v2Group ∈ v1groupsToV2groups v1groups ↔ ∃ v1group ∈ v1groups, v2Group = ⟨v1group.id, v1group.users⟩ := by
  simp only [v1groupsToV2groups, List.mem_dedup, List.mem_map, eq_comm]

/-! ## Grouping permissions by bound resource -/

/-- The resource type a resource definition binds to: `workspace` for an
inventory permission, the converted attribute-filter type otherwise. -/
def resourceTypeFor (v1Perm : V1permission) (resourceDef : V1resourcedef) :
    Except PyError String :=
  if v1Perm.app = "inventory" then .ok "workspace"
  else v1AttributefilterResourceTypeToV2ResourceType resourceDef.resourceType

/-- One id of a split literal as it enters `V2boundresource`: a null workspace id
becomes the default workspace, then the id is hashed. -/
def boundResourceId (resourceType defaultWorkspace : String) (resourceId : JsonValue) :
    Except PyError ResourceId :=
  match resourceId with
  | .null => if resourceType = "workspace" then .ok (.str defaultWorkspace) else .ok .none
  | value => ResourceId.ofJsonValue value

/-- The bound resources of one resource definition, in the order of the loop. -/
def resourceDefBoundResources (v1Perm : V1permission) (defaultWorkspace : String)
    (resourceDef : V1resourcedef) : Except PyError (List V2boundresource) := do
  let resourceType ← resourceTypeFor v1Perm resourceDef
  let resourceIds ← (← splitResourcedefLiteral resourceDef).iterate
  resourceIds.mapM fun resourceId => do
    pure ⟨resourceType, ← boundResourceId resourceType defaultWorkspace resourceId⟩

/-- A resource definition whose literal splits into a list of string ids binds, on
an inventory permission, exactly those ids as workspaces, in order. -/
theorem resourceDefBoundResources_of_strs {v1Perm : V1permission} (inventory : v1Perm.app = "inventory")
    (defaultWorkspace : String) {resourceDef : V1resourcedef} {ids : List String}
    (split : splitResourcedefLiteral resourceDef = .ok (.array (ids.map .str))) :
    resourceDefBoundResources v1Perm defaultWorkspace resourceDef =
      .ok (ids.map fun id => ⟨"workspace", .str id⟩) := by
  simp only [resourceDefBoundResources, resourceTypeFor, inventory, if_true, split, bind, Except.bind,
    JsonValue.iterate]
  exact mapM_map_eq_ok fun id _ => rfl

/-- A literal `json.dumps` wrote splits into the value it was written from: under
`in` the comma fallback never runs. -/
theorem splitResourcedefLiteral_dumps (resourceType op : String) (value : PyValue) :
    splitResourcedefLiteral ⟨resourceType, op, dumps value⟩ =
      if op = "in" then .ok value.toJsonValue else .ok (.array [value.toJsonValue]) := by
  unfold splitResourcedefLiteral
  split <;> simp only [loads_dumps]

theorem splitResourcedefLiteral_in_dumps_strs (resourceType : String) (ids : List String) :
    splitResourcedefLiteral ⟨resourceType, "in", dumps (.list (ids.map .str))⟩ = .ok (.array (ids.map .str)) := by
  rw [splitResourcedefLiteral_dumps, if_pos rfl]
  simp only [PyValue.toJsonValue, toJsonItems_eq_map, List.map_map]
  rfl

/-- An `in` literal that `json.dumps` wrote for a list of plain ids binds, on an
inventory permission, exactly those ids as workspaces, in order. -/
theorem resourceDefBoundResources_in_dumps (v1Perm : V1permission) (inventory : v1Perm.app = "inventory")
    (defaultWorkspace resourceType : String) (ids : List PlainString) :
    resourceDefBoundResources v1Perm defaultWorkspace ⟨resourceType, "in", dumpsStrList ids⟩ =
      .ok (ids.map fun id => ⟨"workspace", .str id.value⟩) := by
  have bound := resourceDefBoundResources_of_strs inventory defaultWorkspace
    (splitResourcedefLiteral_in_dumps_strs resourceType (ids.map PlainString.value))
  simpa only [List.map_map, Function.comp_def, dumps_strList] using bound

/-- `group.id in ["a", "b"]` on `inventory:hosts:read` binds the workspaces `a` and `b`. -/
theorem resourceDefBoundResources_in_dumps_two_groups :
    let v1Perm : V1permission := ⟨"inventory", "hosts", "read", []⟩
    let ids : List PlainString := [⟨"a", by decide⟩, ⟨"b", by decide⟩]
    dumpsStrList ids = "[\"a\", \"b\"]" ∧ v1Perm.app = "inventory" ∧
      resourceDefBoundResources v1Perm "default" ⟨"group.id", "in", dumpsStrList ids⟩ =
        .ok [⟨"workspace", .str "a"⟩, ⟨"workspace", .str "b"⟩] := by
  intro v1Perm ids
  exact ⟨rfl, rfl, resourceDefBoundResources_in_dumps v1Perm rfl "default" "group.id" ids⟩

/-- The bound resources a V1 permission is granted on: the root workspace when it
has no resource definitions, else those of each definition in turn. -/
def v1PermBoundResources (v1Perm : V1permission) (rootWorkspace defaultWorkspace : String) :
    Except PyError (List V2boundresource) :=
  if v1Perm.resourceDefs.isEmpty then .ok [⟨"workspace", .str rootWorkspace⟩]
  else
    (v1Perm.resourceDefs.mapM (resourceDefBoundResources v1Perm defaultWorkspace)).map
      List.flatten

/-- One pass of the grouping loop: a permission of a skipped app adds nothing;
any other adds its v2 permission under each of its bound resources. -/
def groupPermission (rootWorkspace defaultWorkspace : String)
    (groupings : ListDict V2boundresource String) (v1Perm : V1permission) :
    Except PyError (ListDict V2boundresource String) :=
  if isForEnabledApp v1Perm then do
    let v2Perm := v1PermToV2Perm v1Perm
    let resources ← v1PermBoundResources v1Perm rootWorkspace defaultWorkspace
    pure (resources.foldl (fun acc resource => acc.addElement resource v2Perm) groupings)
  else pure groupings

/-- `perm_groupings`, the first loop of `v1_role_to_v2_mapping`. -/
def permGroupings (v1Role : V1role) (rootWorkspace defaultWorkspace : String) :
    Except PyError (ListDict V2boundresource String) :=
  v1Role.permissions.foldlM (groupPermission rootWorkspace defaultWorkspace) ListDict.empty

/-- The grouping loop over enabled permissions without resource definitions adds
each translation under the root workspace. -/
theorem foldlM_groupPermission_of_unscoped (rootWorkspace defaultWorkspace : String) :
    ∀ (perms : List V1permission) (start : ListDict V2boundresource String),
      (∀ v1Perm ∈ perms, isForEnabledApp v1Perm = true ∧ v1Perm.resourceDefs = []) →
      perms.foldlM (groupPermission rootWorkspace defaultWorkspace) start =
        .ok (perms.foldl (fun acc v1Perm =>
          acc.addElement ⟨"workspace", .str rootWorkspace⟩ (v1PermToV2Perm v1Perm)) start)
  | [], _, _ => rfl
  | v1Perm :: rest, start, unscoped => by
      obtain ⟨enabled, bare⟩ := unscoped v1Perm (List.mem_cons_self _ _)
      rw [List.foldlM_cons, List.foldl_cons, ← foldlM_groupPermission_of_unscoped _ defaultWorkspace
        rest _ fun p member => unscoped p (List.mem_cons_of_mem _ member)]
      simp [groupPermission, enabled, v1PermBoundResources, bare, bind, Except.bind, pure, Except.pure]

/-- A V1 permission grants the v2 permission `v2Perm` on `resource`. This is the
Resource Binder's specification, read off the spec: an enabled permission, its
translation, and one of the resources it resolves to. -/
def GrantsOn (rootWorkspace defaultWorkspace : String) (v1Perm : V1permission)
    (v2Perm : String) (resource : V2boundresource) : Prop :=
  isForEnabledApp v1Perm ∧ v1PermToV2Perm v1Perm = v2Perm ∧
    ∃ resources, v1PermBoundResources v1Perm rootWorkspace defaultWorkspace = .ok resources ∧
      resource ∈ resources

theorem mem_groupPermission {rootWorkspace defaultWorkspace : String}
    {groupings after : ListDict V2boundresource String} {v1Perm : V1permission}
    (grouped : groupPermission rootWorkspace defaultWorkspace groupings v1Perm = .ok after)
    (resource : V2boundresource) (v2Perm : String) :
    v2Perm ∈ after.get resource ↔
      v2Perm ∈ groupings.get resource ∨ GrantsOn rootWorkspace defaultWorkspace v1Perm v2Perm resource := by
  unfold groupPermission at grouped
  split at grouped
  · next enabled =>
      simp only [except_bind_eq_ok, pure, Except.pure, Except.ok.injEq] at grouped
      obtain ⟨resources, resolved, rfl⟩ := grouped
      rw [ListDict.mem_get_foldl_addElement]
      simp only [GrantsOn, enabled, resolved, Except.ok.injEq, true_and, exists_eq_left']
      tauto
  · next disabled =>
      cases grouped
      simp [GrantsOn, disabled]

/-- What the grouping loop computes: a bound resource receives exactly the
translations of the enabled permissions that resolve to it. -/
theorem mem_foldlM_groupPermission {rootWorkspace defaultWorkspace : String}
    {groupings : ListDict V2boundresource String} (resource : V2boundresource) (v2Perm : String) :
    ∀ {perms : List V1permission} {start : ListDict V2boundresource String},
      perms.foldlM (groupPermission rootWorkspace defaultWorkspace) start = .ok groupings →
      (v2Perm ∈ groupings.get resource ↔ v2Perm ∈ start.get resource ∨
        ∃ v1Perm ∈ perms, GrantsOn rootWorkspace defaultWorkspace v1Perm v2Perm resource)
  | [], start, folded => by
      cases folded
      simp
  | v1Perm :: rest, start, folded => by
      rw [List.foldlM_cons, except_bind_eq_ok] at folded
      obtain ⟨middle, step, folded⟩ := folded
      rw [mem_foldlM_groupPermission resource v2Perm folded, mem_groupPermission step]
      simp only [List.mem_cons, exists_eq_or_imp]
      tauto

theorem mem_permGroupings {v1Role : V1role} {rootWorkspace defaultWorkspace : String}
    {groupings : ListDict V2boundresource String}
    (grouped : permGroupings v1Role rootWorkspace defaultWorkspace = .ok groupings)
    (resource : V2boundresource) (v2Perm : String) :
    v2Perm ∈ groupings.get resource ↔
      ∃ v1Perm ∈ v1Role.permissions, GrantsOn rootWorkspace defaultWorkspace v1Perm v2Perm resource := by
  simpa using mem_foldlM_groupPermission resource v2Perm grouped

end InsightsRbac.MigrationTool
