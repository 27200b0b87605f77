import InsightsRbac.MigrationTool.Mapping

/-!
Contract: the module state of `sharedSystemRolesReplicatedRoleBindings.py` across
successive calls of `v1_role_to_v2_mapping`, as a migration makes them role after
role: `SystemRole.SYSTEM_ROLES`, `candidate_system_roles`,
`custom_roles_created` and the UUIDs drawn.

Owns: that the registry `get_system_roles` reads is the one the first call read,
and that no two bindings of a run share a UUID, each custom role being drawn
before the bindings that reference it; and that, under one registry, the rest of
the module state changes a mapping's result only in the UUIDs it draws
(`v1RoleToV2Mapping_same_up_to_uuids`).

Does not own: the order in which a migration visits roles, or the roles it
skips; the run takes any list of V1 roles.
-/

namespace InsightsRbac.MigrationTool

open InsightsRbac.Python

/-! ## One mapping

Every `uuid.uuid4()` of a mapping is new: custom roles draw theirs first, in the
loop over resources, then each binding draws one. -/

/-- `withUuids` draws consecutive UUIDs, from the next one on. -/
theorem withUuids_values {α : Type} :
    ∀ (items : List α) (st : Process),
      (withUuids items st).1.map (·.1.value) = List.range' st.nextUuid items.length ∧
        (withUuids items st).2.nextUuid = st.nextUuid + items.length
  | [], _ => ⟨rfl, rfl⟩
  | _ :: rest, st => by
      obtain ⟨values, next⟩ := withUuids_values rest (uuid4 st).2
      simp only [uuid4] at values next
      simp only [withUuids, uuid4, List.map_cons, values, next, List.length_cons, List.range'_succ,
        true_and]
      omega

theorem nextUuid_le_extractWith (registry : SystemRoles) (roleId : String) :
    ∀ (entries : List (V2boundresource × List String))
      (start : ListDict V2role V2boundresource × Process),
      start.2.nextUuid ≤ (extractWith registry roleId entries start).2.nextUuid
  | [], _ => le_rfl
  | (_, permissions) :: rest, (_, st) => by
      refine le_trans ?_ (nextUuid_le_extractWith registry roleId rest _)
      rcases matchResource_cases registry roleId permissions st with
        ⟨_, _, matched⟩ | ⟨_, _, matched⟩ | ⟨_, _, _, matched, drawn, _⟩
      all_goals simp only [matched]
      · exact le_rfl
      · exact le_rfl
      · omega

/-- The UUIDs a successful mapping draws are new: the next UUID only moves
forward, the bindings' ids are distinct and lie between the next UUID before the
call and the one after it, and a custom role a binding references was drawn
before the binding. -/
theorem v1RoleToV2Mapping_uuids_fresh (dbRoles : List Role) (v1Role : V1role)
    (rootWorkspace defaultWorkspace : String) (st after : Process) (bindings : List V2rolebinding)
    (mapped : v1RoleToV2Mapping dbRoles v1Role rootWorkspace defaultWorkspace st = .ok (bindings, after)) :
    st.nextUuid ≤ after.nextUuid ∧ (bindings.map (·.id)).Nodup ∧
      ∀ binding ∈ bindings, st.nextUuid ≤ binding.id.value ∧ binding.id.value < after.nextUuid ∧
        (binding.role.isSystem = false → binding.role.id.value < binding.id.value) := by
  obtain ⟨groupings, -, rfl, rfl⟩ := v1RoleToV2Mapping_eq_ok mapped
  set extracted := extractSystemRoles dbRoles groupings v1Role st
  set targets := bindingTargets extracted.1 (v1groupsToV2groups v1Role.groups)
  obtain ⟨values, next⟩ := withUuids_values targets extracted.2
  have drawnAfter : st.nextUuid ≤ extracted.2.nextUuid :=
    nextUuid_le_extractWith _ _ groupings.entries
      (ListDict.empty, { st with systemRoles := SystemRoles.getSystemRoles dbRoles st.systemRoles })
  have fresh : CustomRolesFresh extracted := customRolesFresh_extractWith _ _ _ _ fun _ _ => by simp
  have ids : ((withUuids targets extracted.2).1.map (mkBinding v1Role)).map (·.id.value) =
      List.range' extracted.2.nextUuid targets.length := by
    rw [List.map_map, ← values]
    rfl
  refine ⟨by omega, List.Nodup.of_map Uuid.value (by rw [List.map_map]; exact ids ▸ List.nodup_range' _ _),
    fun binding member => ?_⟩
  have range := List.mem_range'_1.1
    (ids ▸ List.mem_map_of_mem (fun binding : V2rolebinding => binding.id.value) member)
  obtain ⟨resource, -, bound, -⟩ := mem_map_mkBinding member
  refine ⟨by omega, by omega, fun custom => ?_⟩
  have drawn := (fresh binding.role custom).2 (List.ne_nil_of_mem bound)
  omega

theorem systemRoles_matchResource (registry : SystemRoles) (roleId : String) (permissions : List String)
    (st : Process) : (matchResource registry roleId permissions st).2.systemRoles = st.systemRoles := by
  unfold matchResource
  split
  · rfl
  · dsimp only
    split <;> rfl

theorem systemRoles_extractWith (registry : SystemRoles) (roleId : String) :
    ∀ (entries : List (V2boundresource × List String))
      (start : ListDict V2role V2boundresource × Process),
      (extractWith registry roleId entries start).2.systemRoles = start.2.systemRoles
  | [], _ => rfl
  | (_, permissions) :: rest, (_, st) => by
      rw [extractWith, systemRoles_extractWith registry roleId rest, systemRoles_matchResource]

theorem systemRoles_withUuids {α : Type} :
    ∀ (items : List α) (st : Process), (withUuids items st).2.systemRoles = st.systemRoles
  | [], _ => rfl
  | _ :: rest, st => by
      simp only [withUuids, systemRoles_withUuids rest]
      rfl

/-- A mapping leaves the registry it read. -/
theorem v1RoleToV2Mapping_systemRoles {dbRoles : List Role} {v1Role : V1role}
    {rootWorkspace defaultWorkspace : String} {st after : Process} {bindings : List V2rolebinding}
    (mapped : v1RoleToV2Mapping dbRoles v1Role rootWorkspace defaultWorkspace st = .ok (bindings, after)) :
    after.systemRoles = SystemRoles.getSystemRoles dbRoles st.systemRoles := by
  obtain ⟨groupings, -, -, rfl⟩ := v1RoleToV2Mapping_eq_ok mapped
  rw [systemRoles_withUuids, extractSystemRoles, systemRoles_extractWith]

/-- `get_system_roles` fills an empty registry once: reading it again changes
nothing. -/
theorem getSystemRoles_getSystemRoles (dbRoles : List Role) (registry : SystemRoles) :
    SystemRoles.getSystemRoles dbRoles (SystemRoles.getSystemRoles dbRoles registry) =
      SystemRoles.getSystemRoles dbRoles registry := by
  unfold SystemRoles.getSystemRoles
  by_cases empty : registry.roles.isEmpty
  · rw [if_pos empty]
    by_cases stillEmpty : (SystemRoles.setSystemRoles dbRoles registry).roles.isEmpty
    · have same : SystemRoles.setSystemRoles dbRoles registry = registry :=
        SystemRoles.ext ((List.isEmpty_iff.1 stillEmpty).trans (List.isEmpty_iff.1 empty).symm)
      rw [if_pos stillEmpty, same, same]
    · rw [if_neg stillEmpty]
  · rw [if_neg empty, if_neg empty]

/-! ## One mapping up to UUIDs

The spec compares the matcher's results "modulo freshly generated custom-role
ids". Two mappings of one V1 role, from process states whose registries agree,
draw different UUIDs for their custom roles and their bindings, and agree on
everything else. The two loops of `extract_system_roles` run side by side: their
dicts hold the same entries once custom roles forget their UUIDs, and in each,
every custom role was drawn before the next UUID, so the one a resource draws is
a new key on both sides. -/

/-- A role with its UUID forgotten when it is a custom one. -/
def V2role.withoutCustomUuid (role : V2role) : V2role :=
  if role.isSystem then role else { role with id := ⟨0⟩ }

/-- A binding with its UUID and its custom role's UUID forgotten: the role, the
resources and the groups. -/
def V2rolebinding.withoutUuids (binding : V2rolebinding) : V2role × List V2boundresource × List V2group :=
  (binding.role.withoutCustomUuid, binding.resources, binding.groups)

@[simp] theorem V2role.isSystem_withoutCustomUuid (role : V2role) :
    role.withoutCustomUuid.isSystem = role.isSystem := by
  unfold V2role.withoutCustomUuid
  split <;> rfl

/-- No other role forgets its UUID into a system role. -/
theorem V2role.eq_of_withoutCustomUuid_eq {role : V2role} (system : role.isSystem = true) (other : V2role)
    (same : other.withoutCustomUuid = role.withoutCustomUuid) : other = role := by
  have otherSystem : other.isSystem = true := by
    rw [← V2role.isSystem_withoutCustomUuid, same, V2role.isSystem_withoutCustomUuid, system]
  simpa [V2role.withoutCustomUuid, system, otherSystem] using same

/-- Each custom role a dict holds was drawn before the next UUID. -/
def CustomKeysDrawn (state : ListDict V2role V2boundresource × Process) : Prop :=
  ∀ role ∈ state.1.entries.map Prod.fst, role.isSystem = false → role.id.value < state.2.nextUuid

/-- Two states of the loop of `extract_system_roles` that differ only in the UUIDs
of their custom roles. -/
structure SameUpToUuids (left right : ListDict V2role V2boundresource × Process) : Prop where
  entries : left.1.entries.map (Prod.map V2role.withoutCustomUuid id) =
    right.1.entries.map (Prod.map V2role.withoutCustomUuid id)
  leftDrawn : CustomKeysDrawn left
  rightDrawn : CustomKeysDrawn right

theorem CustomKeysDrawn.addElement_system {d : ListDict V2role V2boundresource} {st : Process}
    (drawn : CustomKeysDrawn (d, st)) {role : V2role} (system : role.isSystem = true)
    (resource : V2boundresource) : CustomKeysDrawn (d.addElement role resource, st) :=
  fun k member custom =>
    drawn k (((ListDict.mem_keys_appendAt role k resource d.entries).1 member).resolve_left
      fun same => by rw [same, system] at custom; cases custom) custom

/-- The custom role drawn at the next UUID is a new key, and once the UUID is
drawn, every custom key is still below the next one. -/
theorem CustomKeysDrawn.addElement_drawn {d : ListDict V2role V2boundresource} {st after : Process}
    (drawn : CustomKeysDrawn (d, st)) (next : after.nextUuid = st.nextUuid + 1)
    (permissions : Finset String) (resource : V2boundresource) :
    (⟨⟨st.nextUuid⟩, false, permissions⟩ : V2role) ∉ d.entries.map Prod.fst ∧
      CustomKeysDrawn (d.addElement ⟨⟨st.nextUuid⟩, false, permissions⟩ resource, after) := by
  refine ⟨fun held => Nat.lt_irrefl _ (drawn _ held rfl), fun k member custom => ?_⟩
  rcases (ListDict.mem_keys_appendAt _ k resource d.entries).1 member with rfl | old
  · show st.nextUuid < after.nextUuid
    omega
  · have below : k.id.value < st.nextUuid := drawn k old custom
    show k.id.value < after.nextUuid
    omega

/-- A resource bound to the same system roles on both sides keeps them alike. -/
theorem sameUpToUuids_foldl_system (resource : V2boundresource) (leftSt rightSt : Process) :
    ∀ (roles : List V2role) (left right : ListDict V2role V2boundresource),
      (∀ role ∈ roles, role.isSystem = true) → SameUpToUuids (left, leftSt) (right, rightSt) →
      SameUpToUuids (roles.foldl (fun acc role => acc.addElement role resource) left, leftSt)
        (roles.foldl (fun acc role => acc.addElement role resource) right, rightSt)
  | [], _, _, _, same => same
  | role :: rest, left, right, system, same => by
      have roleSystem := system role (List.mem_cons_self _ _)
      refine sameUpToUuids_foldl_system resource leftSt rightSt rest _ _
        (fun r member => system r (List.mem_cons_of_mem _ member)) ⟨?_, ?_, ?_⟩
      · exact ListDict.map_appendAt_of_rigid _ role resource (V2role.eq_of_withoutCustomUuid_eq roleSystem)
          _ _ same.entries
      · exact same.leftDrawn.addElement_system roleSystem resource
      · exact same.rightDrawn.addElement_system roleSystem resource

/-- A resource bound on each side to the custom role it draws keeps them alike. -/
theorem sameUpToUuids_custom (resource : V2boundresource) (permissions : Finset String)
    {left right : ListDict V2role V2boundresource} {leftSt rightSt leftAfter rightAfter : Process}
    (same : SameUpToUuids (left, leftSt) (right, rightSt))
    (leftNext : leftAfter.nextUuid = leftSt.nextUuid + 1) (rightNext : rightAfter.nextUuid = rightSt.nextUuid + 1) :
    SameUpToUuids (left.addElement ⟨⟨leftSt.nextUuid⟩, false, permissions⟩ resource, leftAfter)
      (right.addElement ⟨⟨rightSt.nextUuid⟩, false, permissions⟩ resource, rightAfter) := by
  obtain ⟨leftNew, leftDrawn⟩ := same.leftDrawn.addElement_drawn leftNext permissions resource
  obtain ⟨rightNew, rightDrawn⟩ := same.rightDrawn.addElement_drawn rightNext permissions resource
  refine ⟨?_, leftDrawn, rightDrawn⟩
  show (ListDict.appendAt _ resource left.entries).map _ = (ListDict.appendAt _ resource right.entries).map _
  rw [ListDict.appendAt_of_not_mem _ _ _ leftNew, ListDict.appendAt_of_not_mem _ _ _ rightNew, List.map_append,
    List.map_append, same.entries]
  simp [V2role.withoutCustomUuid]

/-- One resource of the loop keeps two runs alike. -/
theorem sameUpToUuids_step (registry : SystemRoles) (roleId : String) (resource : V2boundresource)
    (permissions : List String) {left right : ListDict V2role V2boundresource} {leftSt rightSt : Process}
    (same : SameUpToUuids (left, leftSt) (right, rightSt)) :
    let matchedLeft := matchResource registry roleId permissions leftSt
    let matchedRight := matchResource registry roleId permissions rightSt
    SameUpToUuids (matchedLeft.1.foldl (fun acc role => acc.addElement role resource) left, matchedLeft.2)
      (matchedRight.1.foldl (fun acc role => acc.addElement role resource) right, matchedRight.2) := by
  intro matchedLeft matchedRight
  cases found : registry.get permissions.toFinset with
  | some role =>
    simp only [matchedLeft, matchedRight, matchResource_of_found found]
    exact sameUpToUuids_foldl_system resource leftSt rightSt [role] left right
      (by simpa using registry.all_system role ((registry.get_eq_some_iff _ role).1 found).1) same
  | none =>
    by_cases covers : registry.Covers permissions.toFinset
    · simp only [matchedLeft, matchedRight, matchResource_of_covers found covers]
      exact sameUpToUuids_foldl_system resource leftSt rightSt _ left right
        (fun role member => registry.all_system role
          ((greedyCover_from_empty registry permissions.toFinset).2.2.1 role member).1) same
    · obtain ⟨leftAfter, leftSame, leftNext⟩ := matchResource_of_uncovered found covers roleId leftSt
      obtain ⟨rightAfter, rightSame, rightNext⟩ := matchResource_of_uncovered found covers roleId rightSt
      simp only [matchedLeft, matchedRight, leftSame, rightSame, List.foldl_cons, List.foldl_nil]
      exact sameUpToUuids_custom resource _ same leftNext rightNext

/-- The whole loop keeps two runs alike. -/
theorem extractWith_sameUpToUuids (registry : SystemRoles) (roleId : String) :
    ∀ (entries : List (V2boundresource × List String)) (left right : ListDict V2role V2boundresource × Process),
      SameUpToUuids left right →
      SameUpToUuids (extractWith registry roleId entries left) (extractWith registry roleId entries right)
  | [], _, _, same => same
  | (resource, permissions) :: rest, (_, _), (_, _), same =>
      extractWith_sameUpToUuids registry roleId rest _ _ (sameUpToUuids_step registry roleId resource permissions same)

/-- `extract_system_roles` from two states whose registries agree. -/
theorem extractSystemRoles_sameUpToUuids (dbRoles : List Role) (permGroupings : ListDict V2boundresource String)
    (v1Role : V1role) {st st' : Process}
    (sameRegistry : SystemRoles.getSystemRoles dbRoles st.systemRoles =
      SystemRoles.getSystemRoles dbRoles st'.systemRoles) :
    SameUpToUuids (extractSystemRoles dbRoles permGroupings v1Role st)
      (extractSystemRoles dbRoles permGroupings v1Role st') := by
  unfold extractSystemRoles
  rw [sameRegistry]
  exact extractWith_sameUpToUuids _ _ _ _ _ ⟨rfl, fun _ absent => (nomatch absent), fun _ absent => (nomatch absent)⟩

/-- The binding targets of two dicts alike up to UUIDs are alike up to UUIDs. -/
theorem map_bindingTargets_of_entries {left right : ListDict V2role V2boundresource}
    (same : left.entries.map (Prod.map V2role.withoutCustomUuid id) =
      right.entries.map (Prod.map V2role.withoutCustomUuid id)) (v2Groups : List V2group) :
    (bindingTargets left v2Groups).map (Prod.map V2role.withoutCustomUuid id) =
      (bindingTargets right v2Groups).map (Prod.map V2role.withoutCustomUuid id) := by
  have erased : ∀ d : ListDict V2role V2boundresource,
      (bindingTargets d v2Groups).map (Prod.map V2role.withoutCustomUuid id) =
        (d.entries.map (Prod.map V2role.withoutCustomUuid id)).flatMap fun entry =>
          entry.2.flatMap fun resource => (groupSets v2Groups).map fun groups => (entry.1, resource, groups) := by
    intro d
    simp [bindingTargets, List.map_flatMap, List.flatMap_map, Function.comp_def]
  rw [erased, erased, same]

/-- The bindings made of targets, with their UUIDs forgotten. -/
theorem map_withoutUuids_withUuids (v1Role : V1role) (targets : List (V2role × V2boundresource × List V2group))
    (st : Process) :
    ((withUuids targets st).1.map (mkBinding v1Role)).map V2rolebinding.withoutUuids =
      (targets.map (Prod.map V2role.withoutCustomUuid id)).map fun target => (target.1, [target.2.1], target.2.2) := by
  conv_rhs => rw [← map_snd_withUuids targets st]
  simp [Function.comp_def, mkBinding, V2rolebinding.withoutUuids]

/-- `v1_role_to_v2_mapping` of one V1 role from two process states whose registries
agree: both raise the same exception, or both return bindings that agree once the
UUIDs of the bindings and of the custom roles are forgotten. -/
theorem v1RoleToV2Mapping_same_up_to_uuids (dbRoles : List Role) (v1Role : V1role)
    (rootWorkspace defaultWorkspace : String) (st st' : Process)
    (sameRegistry : SystemRoles.getSystemRoles dbRoles st.systemRoles =
      SystemRoles.getSystemRoles dbRoles st'.systemRoles) :
    (v1RoleToV2Mapping dbRoles v1Role rootWorkspace defaultWorkspace st).map
        (·.1.map V2rolebinding.withoutUuids) =
      (v1RoleToV2Mapping dbRoles v1Role rootWorkspace defaultWorkspace st').map
        (·.1.map V2rolebinding.withoutUuids) := by
  unfold v1RoleToV2Mapping
  cases permGroupings v1Role rootWorkspace defaultWorkspace with
  | error e => rfl
  | ok groupings =>
    simp only [bind, Except.bind, pure, Except.pure, Except.map]
    rw [map_withoutUuids_withUuids, map_withoutUuids_withUuids,
      map_bindingTargets_of_entries (extractSystemRoles_sameUpToUuids dbRoles groupings v1Role sameRegistry).entries]

/-- A role whose one permission the empty registry does not cover, mapped from the
initial state and from one where two UUIDs were drawn: the custom role and the
binding take other UUIDs, and nothing else differs. -/
theorem v1RoleToV2Mapping_same_up_to_uuids_redrawn :
    let readers : V1role := ⟨"role-1", [⟨"inventory", "hosts", "read", []⟩], []⟩
    let later : Process := { Process.initial with nextUuid := 2 }
    (v1RoleToV2Mapping [] readers "root" "default" Process.initial).map
        (·.1.map fun binding => (binding.id.value, binding.role.id.value)) = .ok [(1, 0)] ∧
      (v1RoleToV2Mapping [] readers "root" "default" later).map
        (·.1.map fun binding => (binding.id.value, binding.role.id.value)) = .ok [(3, 2)] ∧
      (v1RoleToV2Mapping [] readers "root" "default" Process.initial).map (·.1.map V2rolebinding.withoutUuids) =
        (v1RoleToV2Mapping [] readers "root" "default" later).map (·.1.map V2rolebinding.withoutUuids) := by
  intro readers later
  exact ⟨rfl, rfl, v1RoleToV2Mapping_same_up_to_uuids [] readers "root" "default" Process.initial later rfl⟩

/-! ## The module state over successive mappings -/

/-- `v1_role_to_v2_mapping` on each role in turn, each call from the module state
the previous one left; the bindings of all calls, in order. -/
def mapRoles (dbRoles : List Role) (rootWorkspace defaultWorkspace : String) :
    List V1role → Process → Except PyError (List V2rolebinding × Process)
  | [], st => .ok ([], st)
  | v1Role :: rest, st => do
      let (bindings, st) ← v1RoleToV2Mapping dbRoles v1Role rootWorkspace defaultWorkspace st
      let (later, st) ← mapRoles dbRoles rootWorkspace defaultWorkspace rest st
      pure (bindings ++ later, st)

/-- Over a run of mappings, every call reads the registry the first one read, the
next UUID only moves forward, no two bindings share a UUID, each binding's UUID
was drawn during the run, and a custom role a binding references was drawn before
the binding. -/
theorem mapRoles_uuids_fresh (dbRoles : List Role) (rootWorkspace defaultWorkspace : String) :
    ∀ (v1Roles : List V1role) (st after : Process) (bindings : List V2rolebinding),
      mapRoles dbRoles rootWorkspace defaultWorkspace v1Roles st = .ok (bindings, after) →
      SystemRoles.getSystemRoles dbRoles after.systemRoles = SystemRoles.getSystemRoles dbRoles st.systemRoles ∧
      st.nextUuid ≤ after.nextUuid ∧ (bindings.map (·.id)).Nodup ∧
      ∀ binding ∈ bindings, st.nextUuid ≤ binding.id.value ∧ binding.id.value < after.nextUuid ∧
        (binding.role.isSystem = false → binding.role.id.value < binding.id.value)
  | [], st, after, bindings, mapped => by
      cases mapped
      exact ⟨rfl, le_rfl, List.nodup_nil, fun _ absent => nomatch absent⟩
  | v1Role :: rest, st, after, bindings, mapped => by
      simp only [mapRoles, except_bind_eq_ok, pure, Except.pure, Except.ok.injEq] at mapped
      obtain ⟨⟨first, middle⟩, firstOk, ⟨later, last⟩, laterOk, rfl, rfl⟩ := mapped
      obtain ⟨advanced, firstNodup, firstFresh⟩ :=
        v1RoleToV2Mapping_uuids_fresh dbRoles v1Role rootWorkspace defaultWorkspace st middle first firstOk
      obtain ⟨registry, advancedLater, laterNodup, laterFresh⟩ :=
        mapRoles_uuids_fresh dbRoles rootWorkspace defaultWorkspace rest middle last later laterOk
      dsimp only
      refine ⟨?_, by omega, ?_, fun binding member => ?_⟩
      · rw [registry, v1RoleToV2Mapping_systemRoles firstOk, getSystemRoles_getSystemRoles]
      · rw [List.map_append, List.nodup_append]
        refine ⟨firstNodup, laterNodup, fun id early late => ?_⟩
        obtain ⟨b, bMember, rfl⟩ := List.mem_map.1 early
        obtain ⟨c, cMember, sameId⟩ := List.mem_map.1 late
        have drawnFirst := (firstFresh b bMember).2.1
        have drawnLater := (laterFresh c cMember).1
        rw [sameId] at drawnLater
        omega
      · rcases List.mem_append.1 member with early | late
        · obtain ⟨low, high, custom⟩ := firstFresh binding early
          exact ⟨low, by omega, custom⟩
        · obtain ⟨low, high, custom⟩ := laterFresh binding late
          exact ⟨by omega, high, custom⟩

/-- Two roles mapped in turn with an empty registry: the custom roles take UUIDs 0
and 2, their bindings 1 and 3. -/
theorem mapRoles_uuids_fresh_two_roles :
    let readers : V1role := ⟨"role-1", [⟨"inventory", "hosts", "read", []⟩], []⟩
    let writers : V1role := ⟨"role-2", [⟨"inventory", "hosts", "write", []⟩], []⟩
    ∃ bindings after, mapRoles [] "root" "default" [readers, writers] Process.initial = .ok (bindings, after) ∧
      bindings.map (·.id.value) = [1, 3] ∧
      SystemRoles.getSystemRoles [] after.systemRoles = SystemRoles.getSystemRoles [] Process.initial.systemRoles ∧
      Process.initial.nextUuid ≤ after.nextUuid ∧ (bindings.map (·.id)).Nodup ∧
      ∀ binding ∈ bindings, Process.initial.nextUuid ≤ binding.id.value ∧ binding.id.value < after.nextUuid ∧
        (binding.role.isSystem = false → binding.role.id.value < binding.id.value) := by
  intro readers writers
  exact ⟨_, _, rfl, rfl,
    mapRoles_uuids_fresh [] "root" "default" [readers, writers] Process.initial _ _ rfl⟩

end InsightsRbac.MigrationTool
