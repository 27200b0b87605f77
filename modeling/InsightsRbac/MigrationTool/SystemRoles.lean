import InsightsRbac.MigrationTool.Translation

/-!
Contract: the registry of system roles (`SystemRole.SYSTEM_ROLES`, filled by
`set_system_roles` through `add_system_role`, read through `get_system_roles`) and
the rest of the process-wide state of the migration module: the diagnostic
`candidate_system_roles`, the counter `custom_roles_created`, and the draws of
`uuid.uuid4()`.

Owns: the registry as a list of roles in insertion order whose permission sets
are distinct, since `add_system_role` keys the dict by `frozenset(role.permissions)`;
lookup by key (`get_eq_some_iff`); the effect of one registration
(`get_addSystemRole`); and that a non-external system role of the database is
registered under its translated permission set (`setSystemRoles_get_isSome`).

Does not own: the database queries themselves; `Role.objects.filter(system=True)`
is a list of roles given to the functions that read it.
-/

namespace InsightsRbac.MigrationTool

open InsightsRbac.Python

/-- A row of the permission table; `permission` is its `app:resource:verb` text. -/
structure Permission where
  application : String
  resourceType : String
  verb : String
deriving DecidableEq, Repr

def Permission.permission (p : Permission) : String :=
  p.application ++ ":" ++ p.resourceType ++ ":" ++ p.verb

structure Access where
  permission : Permission
deriving DecidableEq, Repr

/-- A role of the database, with the fields `set_system_roles` reads. -/
structure Role where
  uuid : Uuid
  system : Bool
  /-- `role.external_role_id()`. -/
  externalRoleId : Option String
  access : List Access
deriving DecidableEq, Repr

/-- Python truthiness of an optional string. -/
def isTruthy : Option String → Bool
  | none => false
  | some text => !text.isEmpty

/-- `SystemRole.SYSTEM_ROLES` in insertion order. Every role in it was built by
`set_system_roles` with `is_system=True`. -/
@[ext]
structure SystemRoles where
  roles : List V2role
  keys_nodup : (roles.map V2role.permissions).Nodup
  all_system : ∀ role ∈ roles, role.isSystem = true

namespace SystemRoles

def empty : SystemRoles := ⟨[], List.nodup_nil, fun _ absent => nomatch absent⟩

/-- `system_roles.get(key)`. -/
def get (registry : SystemRoles) (key : Finset String) : Option V2role :=
  registry.roles.find? (·.permissions = key)

theorem get_eq_some_iff (registry : SystemRoles) (key : Finset String) (role : V2role) :
    registry.get key = some role ↔ role ∈ registry.roles ∧ role.permissions = key :=
  find?_key_eq_some_iff V2role.permissions key role registry.keys_nodup

/-- Dict assignment: the role replaces the one under its key in place, or is
appended when the key is new. -/
def replaceOrAppend (role : V2role) : List V2role → List V2role
  | [] => [role]
  | r :: rest =>
      if r.permissions = role.permissions then role :: rest else r :: replaceOrAppend role rest

theorem map_permissions_replaceOrAppend (role : V2role) (roles : List V2role)
    (present : role.permissions ∈ roles.map V2role.permissions) :
    (replaceOrAppend role roles).map V2role.permissions = roles.map V2role.permissions := by
  induction roles with
  | nil => simp at present
  | cons r rest inductionHypothesis =>
      unfold replaceOrAppend
      split
      · next same => simp [same]
      · next differ =>
          simp only [List.map_cons, List.mem_cons] at present ⊢
          rw [inductionHypothesis (present.resolve_left (Ne.symm differ))]

theorem map_permissions_replaceOrAppend_of_not_mem (role : V2role) (roles : List V2role)
    (absent : role.permissions ∉ roles.map V2role.permissions) :
    replaceOrAppend role roles = roles ++ [role] := by
  induction roles with
  | nil => rfl
  | cons r rest inductionHypothesis =>
      simp only [List.map_cons, List.mem_cons, not_or] at absent
      simp [replaceOrAppend, Ne.symm absent.1, inductionHypothesis absent.2]

theorem replaceOrAppend_keys_nodup (role : V2role) (roles : List V2role)
    (nodup : (roles.map V2role.permissions).Nodup) :
    ((replaceOrAppend role roles).map V2role.permissions).Nodup := by
  by_cases present : role.permissions ∈ roles.map V2role.permissions
  · rwa [map_permissions_replaceOrAppend role roles present]
  · rw [map_permissions_replaceOrAppend_of_not_mem role roles present, List.map_append,
      List.nodup_append]
    simpa [nodup] using present

theorem find?_replaceOrAppend (role : V2role) (key : Finset String) :
    ∀ roles : List V2role, (replaceOrAppend role roles).find? (·.permissions = key) =
      if role.permissions = key then some role else roles.find? (·.permissions = key)
  | [] => by by_cases same : role.permissions = key <;> simp [replaceOrAppend, same]
  | r :: rest => by
      unfold replaceOrAppend
      split
      · next replaced => by_cases same : role.permissions = key <;> simp [same, replaced]
      · next differ =>
          rw [List.find?_cons, find?_replaceOrAppend role key rest]
          by_cases same : role.permissions = key
          · simp [same, show r.permissions ≠ key from same ▸ differ]
          · simp [same, List.find?_cons]

theorem mem_replaceOrAppend (role r : V2role) :
    ∀ roles : List V2role, r ∈ replaceOrAppend role roles → r = role ∨ r ∈ roles
  | [], member => by simpa [replaceOrAppend] using member
  | head :: rest, member => by
      unfold replaceOrAppend at member
      split at member
      · simp only [List.mem_cons] at member ⊢
        tauto
      · simp only [List.mem_cons] at member ⊢
        rcases member with same | later
        · exact .inr (.inl same)
        · rcases mem_replaceOrAppend role r rest later with fresh | old
          · exact .inl fresh
          · exact .inr (.inr old)

/-- `add_system_role`: `system_roles[frozenset(role.permissions)] = role`. -/
def addSystemRole (registry : SystemRoles) (role : V2role) (system : role.isSystem = true) :
    SystemRoles :=
  ⟨replaceOrAppend role registry.roles,
    replaceOrAppend_keys_nodup role registry.roles registry.keys_nodup,
    fun r member => (mem_replaceOrAppend role r registry.roles member).elim
      (fun same => same ▸ system) (registry.all_system r)⟩

theorem get_addSystemRole (registry : SystemRoles) (role : V2role) (system : role.isSystem = true)
    (key : Finset String) :
    (registry.addSystemRole role system).get key =
      if role.permissions = key then some role else registry.get key :=
  find?_replaceOrAppend role key registry.roles

/-- The permission set `set_system_roles` registers for a database role: each
access's permission text, cleaned, then passed through `inventory_to_workspace`. -/
def systemRolePermissions (role : Role) : Finset String :=
  (role.access.map fun access =>
    inventoryToWorkspace (cleanNameForV2SchemaCompatibility access.permission.permission)).toFinset

/-- One role of `set_system_roles`: roles with an external role id are skipped. -/
def registerRole (registry : SystemRoles) (role : Role) : SystemRoles :=
  if isTruthy role.externalRoleId then registry
  else registry.addSystemRole ⟨role.uuid, true, systemRolePermissions role⟩ rfl

/-- `SystemRole.set_system_roles` over the database roles. -/
def setSystemRoles (dbRoles : List Role) (registry : SystemRoles) : SystemRoles :=
  (dbRoles.filter (·.system)).foldl registerRole registry

/-- `SystemRole.get_system_roles`: fill the registry when it is empty. -/
def getSystemRoles (dbRoles : List Role) (registry : SystemRoles) : SystemRoles :=
  if registry.roles.isEmpty then setSystemRoles dbRoles registry else registry

theorem get_registerRole_isSome (registry : SystemRoles) (role : Role) (key : Finset String)
    (registered : (registry.get key).isSome) : ((registry.registerRole role).get key).isSome := by
  unfold registerRole
  split
  · exact registered
  · rw [get_addSystemRole]
    split <;> simp_all

theorem get_foldl_registerRole_isSome (key : Finset String) :
    ∀ (roles : List Role) (registry : SystemRoles), (registry.get key).isSome →
      ((roles.foldl registerRole registry).get key).isSome
  | [], _, registered => registered
  | role :: rest, registry, registered =>
      get_foldl_registerRole_isSome key rest _ (get_registerRole_isSome registry role key registered)

/-- Every non-external system role of the database ends up registered under its
translated permission set, whatever later roles do: a later role with the same
set replaces the value, never the key. -/
theorem setSystemRoles_get_isSome (dbRoles : List Role) (registry : SystemRoles) (role : Role)
    (member : role ∈ dbRoles) (system : role.system = true)
    (internal : isTruthy role.externalRoleId = false) :
    ((setSystemRoles dbRoles registry).get (systemRolePermissions role)).isSome := by
  unfold setSystemRoles
  obtain ⟨before, after, split⟩ := List.append_of_mem (List.mem_filter.2 ⟨member, system⟩)
  rw [split, List.foldl_append, List.foldl_cons]
  apply get_foldl_registerRole_isSome
  simp [registerRole, internal, get_addSystemRole]

/-- After registering `roles` in order, a key maps to the role built from the last
non-external one with that permission set, and otherwise to what it mapped to
before. -/
theorem get_foldl_registerRole (registry : SystemRoles) (key : Finset String) (roles : List Role) :
    (roles.foldl registerRole registry).get key =
      match roles.reverse.find? fun r => !isTruthy r.externalRoleId && systemRolePermissions r = key with
      | some r => some ⟨r.uuid, true, key⟩
      | none => registry.get key := by
  induction roles using List.reverseRecOn with
  | nil => rfl
  | append_singleton rest r inductionHypothesis =>
    rw [List.foldl_append, List.foldl_cons, List.foldl_nil, List.reverse_append, List.reverse_singleton,
      List.singleton_append, List.find?_cons, registerRole]
    by_cases external : isTruthy r.externalRoleId
    · simpa [external] using inductionHypothesis
    · rw [if_neg external, get_addSystemRole]
      by_cases same : systemRolePermissions r = key
      · simp [external, same]
      · simpa [external, same] using inductionHypothesis

/-- `set_system_roles` from an empty registry: a key maps to the role built from
the last non-external system role of the database with that permission set, and
the registry has no other keys. -/
theorem setSystemRoles_get (dbRoles : List Role) (key : Finset String) :
    (setSystemRoles dbRoles empty).get key =
      ((dbRoles.filter (·.system)).reverse.find? fun r =>
        !isTruthy r.externalRoleId && systemRolePermissions r = key).map fun r => ⟨r.uuid, true, key⟩ := by
  rw [setSystemRoles, get_foldl_registerRole]
  split
  · next r found => rw [found]; rfl
  · next absent => rw [absent]; rfl

end SystemRoles

/-- The process-wide state of the migration module. -/
structure Process where
  /-- `SystemRole.SYSTEM_ROLES`. -/
  systemRoles : SystemRoles
  /-- `candidate_system_roles`: candidate permission sets with the ids of the V1
  roles they came from. -/
  candidateSystemRoles : List (Finset String × Finset String)
  /-- `custom_roles_created`. -/
  customRolesCreated : Nat
  /-- The next `uuid.uuid4()`; draws never repeat. -/
  nextUuid : Nat

/-- The state at import: an empty registry, no candidates, no custom roles. -/
def Process.initial : Process := ⟨SystemRoles.empty, [], 0, 0⟩

/-- `uuid.uuid4()`. -/
def uuid4 (st : Process) : Uuid × Process :=
  (⟨st.nextUuid⟩, { st with nextUuid := st.nextUuid + 1 })

end InsightsRbac.MigrationTool
