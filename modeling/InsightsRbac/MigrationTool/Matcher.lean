import Mathlib.Data.Finset.Card
import InsightsRbac.MigrationTool.SystemRoles

/-!
Contract: the System Role Matcher, `extract_system_roles`. For each bound resource
with permission list `P` it binds the registered role keyed by `set(P)`, else the
roles a first-fit greedy pass over the registry accepts when their union is
`set(P)`, else one freshly minted custom role, recording the leftovers in the
process-wide diagnostics.

Owns: the loop invariant of the greedy pass (`greedyCover_granted`: `granted` is the
union of the registry sets inside `set(P)`, also across the early `break`), what
each accepted role adds (`EachAddsNew`), and the roles bound on each resource.

Does not own: the bindings (`Mapping`).
-/

namespace InsightsRbac.MigrationTool

open InsightsRbac.Python

/-! ## Unions of permission sets -/

/-- The union of the permission sets of `roles`. -/
def permissionUnion (roles : List V2role) : Finset String :=
  roles.foldr (fun role acc => role.permissions ∪ acc) ∅

@[simp] theorem mem_permissionUnion (roles : List V2role) (perm : String) :
    perm ∈ permissionUnion roles ↔ ∃ role ∈ roles, perm ∈ role.permissions := by
  induction roles with
  | nil => simp [permissionUnion]
  | cons role rest inductionHypothesis =>
      simp [permissionUnion, ← inductionHypothesis]

/-- The roles whose sets lie inside `permset` hold nothing outside it. -/
theorem permissionUnion_filter_subset (permset : Finset String) (roles : List V2role) :
    permissionUnion (roles.filter (·.permissions ⊆ permset)) ⊆ permset := by
  intro perm member
  simp only [mem_permissionUnion, List.mem_filter, decide_eq_true_eq] at member
  obtain ⟨role, ⟨_, inside⟩, held⟩ := member
  exact inside held

/-- The union of the registered permission sets that lie inside `permset`. -/
def SystemRoles.coverUnion (registry : SystemRoles) (permset : Finset String) : Finset String :=
  permissionUnion (registry.roles.filter (·.permissions ⊆ permset))

/-- `permset` is the union of some subfamily of the registry's sets. -/
def SystemRoles.Covers (registry : SystemRoles) (permset : Finset String) : Prop :=
  ∃ family : List V2role, (∀ role ∈ family, role ∈ registry.roles) ∧ permissionUnion family = permset

theorem coverUnion_subset (registry : SystemRoles) (permset : Finset String) :
    registry.coverUnion permset ⊆ permset :=
  permissionUnion_filter_subset permset registry.roles

/-- A permission set is a union of registry sets exactly when the registry sets
inside it already cover it. -/
theorem covers_iff_coverUnion_eq (registry : SystemRoles) (permset : Finset String) :
    registry.Covers permset ↔ registry.coverUnion permset = permset := by
  constructor
  · rintro ⟨family, inRegistry, union⟩
    refine Finset.Subset.antisymm (coverUnion_subset registry permset) ?_
    intro perm member
    rw [← union, mem_permissionUnion] at member
    obtain ⟨role, inFamily, held⟩ := member
    have inside : role.permissions ⊆ permset :=
      union ▸ fun p held => (mem_permissionUnion family p).2 ⟨role, inFamily, held⟩
    simp only [SystemRoles.coverUnion, mem_permissionUnion, List.mem_filter, decide_eq_true_eq]
    exact ⟨role, ⟨inRegistry role inFamily, inside⟩, held⟩
  · intro union
    exact ⟨_, fun role member => (List.mem_filter.1 member).1, union⟩

theorem permissionUnion_append_singleton (roles : List V2role) (role : V2role) :
    permissionUnion (roles ++ [role]) = permissionUnion roles ∪ role.permissions := by
  ext perm
  simp [or_comm]

theorem permissionUnion_filter_cons (permset : Finset String) (role : V2role) (rest : List V2role) :
    permissionUnion ((role :: rest).filter (·.permissions ⊆ permset)) =
      (if role.permissions ⊆ permset then role.permissions else ∅) ∪
        permissionUnion (rest.filter (·.permissions ⊆ permset)) := by
  by_cases inside : role.permissions ⊆ permset <;> simp [List.filter_cons, inside, permissionUnion]

/-! ## The greedy pass -/

/-- One iteration of the loop over `system_roles.items()` on `(granted,
matched_roles)`: the role is accepted when its set lies inside `permset` and not
inside `granted`. -/
def acceptStep (permset : Finset String) (state : Finset String × List V2role) (sysrole : V2role) :
    Finset String × List V2role :=
  if sysrole.permissions ⊆ permset ∧ ¬sysrole.permissions ⊆ state.1 then
    (state.1 ∪ sysrole.permissions, state.2 ++ [sysrole])
  else state

/-- The greedy loop of `extract_system_roles`: one `acceptStep` per registered
role, breaking once `granted` is `permset`. -/
def greedyCover (permset : Finset String) :
    List V2role → Finset String × List V2role → Finset String × List V2role
  | [], state => state
  | sysrole :: rest, state =>
      let state := acceptStep permset state sysrole
      if permset = state.1 then state else greedyCover permset rest state

theorem acceptStep_granted (permset : Finset String) (state : Finset String × List V2role)
    (sysrole : V2role) :
    (acceptStep permset state sysrole).1 =
      state.1 ∪ (if sysrole.permissions ⊆ permset then sysrole.permissions else ∅) := by
  unfold acceptStep
  by_cases inside : sysrole.permissions ⊆ permset <;>
    by_cases held : sysrole.permissions ⊆ state.1 <;> simp [inside, held]

/-- Each role of the list adds a permission that `granted` and the roles before it
do not hold. -/
def EachAddsNew : Finset String → List V2role → Prop
  | _, [] => True
  | granted, role :: rest => ¬role.permissions ⊆ granted ∧ EachAddsNew (granted ∪ role.permissions) rest

theorem eachAddsNew_append (granted : Finset String) (role : V2role) :
    ∀ matched : List V2role, EachAddsNew granted matched →
      ¬role.permissions ⊆ granted ∪ permissionUnion matched →
      EachAddsNew granted (matched ++ [role])
  | [], _, fresh => by simpa [EachAddsNew, permissionUnion] using fresh
  | head :: rest, ⟨headNew, restNew⟩, fresh => by
      refine ⟨headNew, eachAddsNew_append _ role rest restNew ?_⟩
      simpa [permissionUnion, Finset.union_assoc] using fresh

/-- Roles that each add a new permission hold at least one permission apiece. -/
theorem card_add_length_le_of_eachAddsNew :
    ∀ (granted : Finset String) (matched : List V2role), EachAddsNew granted matched →
      granted.card + matched.length ≤ (granted ∪ permissionUnion matched).card
  | _, [], _ => by simp [permissionUnion]
  | granted, role :: rest, ⟨fresh, restNew⟩ => by
      have grows : granted.card < (granted ∪ role.permissions).card :=
        Finset.card_lt_card (Finset.ssubset_iff_subset_ne.2
          ⟨Finset.subset_union_left, fun same => fresh (same ▸ Finset.subset_union_right)⟩)
      have later := card_add_length_le_of_eachAddsNew _ rest restNew
      simp only [permissionUnion, List.foldr_cons, List.length_cons] at later ⊢
      rw [← Finset.union_assoc]
      omega

/-- What the loop keeps true of `(granted, matched_roles)`: `granted` lies inside
`permset`, is the union of the matched roles, and each matched role added a
permission. -/
structure GreedyInvariant (permset : Finset String) (state : Finset String × List V2role) : Prop where
  inside : state.1 ⊆ permset
  union : state.1 = permissionUnion state.2
  fresh : EachAddsNew ∅ state.2

theorem greedyInvariant_start (permset : Finset String) : GreedyInvariant permset (∅, []) :=
  ⟨Finset.empty_subset _, rfl, trivial⟩

theorem acceptStep_invariant {permset : Finset String} {state : Finset String × List V2role}
    (invariant : GreedyInvariant permset state) (sysrole : V2role) :
    GreedyInvariant permset (acceptStep permset state sysrole) := by
  unfold acceptStep
  split
  · next accepted =>
      refine ⟨Finset.union_subset invariant.inside accepted.1, ?_, ?_⟩
      · rw [permissionUnion_append_singleton, ← invariant.union]
      · apply eachAddsNew_append _ _ _ invariant.fresh
        simpa [← invariant.union] using accepted.2
  · exact invariant

/-- A step matches no role but the one it is given, and that one only when its set
lies inside `permset`. -/
theorem acceptStep_matched (permset : Finset String) (state : Finset String × List V2role)
    (sysrole : V2role) :
    ∀ role ∈ (acceptStep permset state sysrole).2,
      role ∈ state.2 ∨ (role = sysrole ∧ sysrole.permissions ⊆ permset) := by
  unfold acceptStep
  split
  · next accepted => simp [accepted.1]
  · exact fun role member => .inl member

/-- The loop invariant across the whole pass: it ends with `granted` equal to the
starting `granted` together with every remaining registry set inside `permset`,
also when it breaks early, and every matched role was matched before or is a
remaining registry role inside `permset`. -/
theorem greedyCover_spec (permset : Finset String) :
    ∀ (roles : List V2role) (state : Finset String × List V2role), GreedyInvariant permset state →
      GreedyInvariant permset (greedyCover permset roles state) ∧
        (greedyCover permset roles state).1 =
          state.1 ∪ permissionUnion (roles.filter (·.permissions ⊆ permset)) ∧
        ∀ role ∈ (greedyCover permset roles state).2,
          role ∈ state.2 ∨ (role ∈ roles ∧ role.permissions ⊆ permset)
  | [], state, invariant => by simp [greedyCover, permissionUnion, invariant]
  | sysrole :: rest, state, invariant => by
      have stepInvariant := acceptStep_invariant invariant sysrole
      have stepMatched := acceptStep_matched permset state sysrole
      rw [permissionUnion_filter_cons, ← Finset.union_assoc, ← acceptStep_granted]
      unfold greedyCover
      dsimp only
      split
      · next full =>
          refine ⟨stepInvariant, ?_, fun role member => ?_⟩
          · rw [← full, Finset.union_eq_left.2 (permissionUnion_filter_subset permset rest)]
          · rcases stepMatched role member with old | ⟨rfl, inside⟩
            · exact .inl old
            · exact .inr ⟨List.mem_cons_self _ _, inside⟩
      · obtain ⟨restInvariant, restGranted, restMatched⟩ :=
          greedyCover_spec permset rest _ stepInvariant
        refine ⟨restInvariant, restGranted, fun role member => ?_⟩
        rcases restMatched role member with old | ⟨later, inside⟩
        · rcases stepMatched role old with older | ⟨rfl, inside⟩
          · exact .inl older
          · exact .inr ⟨List.mem_cons_self _ _, inside⟩
        · exact .inr ⟨List.mem_cons_of_mem _ later, inside⟩

/-- The greedy pass from the empty start: `granted` is the union of the registry
sets inside `permset`, and the matched roles are registry roles inside it, each
adding a permission, at most one per permission. -/
theorem greedyCover_from_empty (registry : SystemRoles) (permset : Finset String) :
    (greedyCover permset registry.roles (∅, [])).1 = registry.coverUnion permset ∧
      (greedyCover permset registry.roles (∅, [])).1 =
        permissionUnion (greedyCover permset registry.roles (∅, [])).2 ∧
      (∀ role ∈ (greedyCover permset registry.roles (∅, [])).2,
        role ∈ registry.roles ∧ role.permissions ⊆ permset) ∧
      EachAddsNew ∅ (greedyCover permset registry.roles (∅, [])).2 ∧
      (greedyCover permset registry.roles (∅, [])).2.length ≤ permset.card := by
  obtain ⟨invariant, granted, matched⟩ :=
    greedyCover_spec permset registry.roles (∅, []) (greedyInvariant_start permset)
  have count := card_add_length_le_of_eachAddsNew ∅ _ invariant.fresh
  rw [Finset.empty_union, ← invariant.union] at count
  refine ⟨by simpa using granted, invariant.union, fun role member => ?_, invariant.fresh, ?_⟩
  · simpa using matched role member
  · simpa using count.trans (Finset.card_le_card invariant.inside)

/-! ## Diagnostics of uncovered resources -/

/-- The application of a v2 permission as the code guesses it,
`perm.split("_", 1)[0]`. -/
def permApp (perm : String) : String := ⟨perm.toList.takeWhile (· ≠ '_')⟩

/-- `candidate_system_roles[candidate].add(role_id)`, or a new entry `{role_id}`. -/
def addCandidate (roleId : String) (candidate : Finset String) :
    List (Finset String × Finset String) → List (Finset String × Finset String)
  | [] => [(candidate, {roleId})]
  | (existing, roleIds) :: rest =>
      if existing = candidate then (existing, insert roleId roleIds) :: rest
      else (existing, roleIds) :: addCandidate roleId candidate rest

/-- The bookkeeping of an uncovered resource: for each application of a leftover
permission, the resource's permissions of that application form a candidate
system role, recorded with the V1 role's id. Python walks the set `leftovers` in
hash order; the model walks `permissions`, which changes only the order in which
new candidates enter the dict. -/
def trackCandidates (roleId : String) (permissions : List String) (leftovers : Finset String)
    (candidates : List (Finset String × Finset String)) : List (Finset String × Finset String) :=
  let apps := ((permissions.filter (· ∈ leftovers)).map permApp).eraseDups
  apps.foldl (fun candidates app =>
    addCandidate roleId (permissions.filter (permApp · = app)).toFinset candidates) candidates

/-! ## One resource -/

/-- The body of the loop of `extract_system_roles` for one resource: the roles it
binds there, and the process state after it. -/
def matchResource (systemRoles : SystemRoles) (roleId : String) (permissions : List String)
    (st : Process) : List V2role × Process :=
  match systemRoles.get permissions.toFinset with
  | some role => ([role], st)
  | none =>
      let permset := permissions.toFinset
      let cover := greedyCover permset systemRoles.roles (∅, [])
      if permset = cover.1 then (cover.2, st)
      else
        let st := { st with
          candidateSystemRoles :=
            trackCandidates roleId permissions (permset \ cover.1) st.candidateSystemRoles }
        let (id, st) := uuid4 st
        ([⟨id, false, permissions.toFinset⟩], { st with customRolesCreated := st.customRolesCreated + 1 })

/-- The three outcomes of `matchResource`: the role keyed by the permission set;
the roles of a greedy pass that covers the set; or one custom role with the whole
set, drawn from the next UUID, when the registry does not cover it. -/
theorem matchResource_cases (registry : SystemRoles) (roleId : String) (permissions : List String)
    (st : Process) :
    (∃ role, registry.get permissions.toFinset = some role ∧
        matchResource registry roleId permissions st = ([role], st)) ∨
      (registry.get permissions.toFinset = none ∧ registry.Covers permissions.toFinset ∧
        matchResource registry roleId permissions st =
          ((greedyCover permissions.toFinset registry.roles (∅, [])).2, st)) ∨
      (registry.get permissions.toFinset = none ∧ ¬registry.Covers permissions.toFinset ∧
        ∃ after : Process, matchResource registry roleId permissions st =
            ([⟨⟨st.nextUuid⟩, false, permissions.toFinset⟩], after) ∧
          after.nextUuid = st.nextUuid + 1 ∧
          after.customRolesCreated = st.customRolesCreated + 1) := by
  have granted := (greedyCover_from_empty registry permissions.toFinset).1
  unfold matchResource
  split
  · next role found => exact .inl ⟨role, found, rfl⟩
  · next absent =>
      by_cases covered : permissions.toFinset = (greedyCover permissions.toFinset registry.roles (∅, [])).1
      · refine .inr (.inl ⟨absent, ?_, ?_⟩)
        · rw [covers_iff_coverUnion_eq, ← granted, ← covered]
        · dsimp only
          rw [if_pos covered]
      · refine .inr (.inr ⟨absent, ?_, ?_⟩)
        · rw [covers_iff_coverUnion_eq, ← granted]
          exact Ne.symm covered
        · dsimp only
          rw [if_neg covered]
          exact ⟨_, rfl, rfl, rfl⟩

instance (registry : SystemRoles) (permset : Finset String) : Decidable (registry.Covers permset) :=
  decidable_of_iff _ (covers_iff_coverUnion_eq registry permset).symm

/-! Which branch runs depends on the registry and the permissions only, so each
branch gives the result from every process state. -/

theorem matchResource_of_found {registry : SystemRoles} {permissions : List String} {role : V2role}
    (found : registry.get permissions.toFinset = some role) (roleId : String) (st : Process) :
    matchResource registry roleId permissions st = ([role], st) := by
  rw [matchResource, found]

theorem matchResource_of_covers {registry : SystemRoles} {permissions : List String}
    (absent : registry.get permissions.toFinset = none) (covers : registry.Covers permissions.toFinset)
    (roleId : String) (st : Process) :
    matchResource registry roleId permissions st = ((greedyCover permissions.toFinset registry.roles (∅, [])).2, st) := by
  rcases matchResource_cases registry roleId permissions st with ⟨_, found, -⟩ | ⟨-, -, matched⟩ | ⟨-, uncovered, -⟩
  · rw [absent] at found
    cases found
  · exact matched
  · exact absurd covers uncovered

theorem matchResource_of_uncovered {registry : SystemRoles} {permissions : List String}
    (absent : registry.get permissions.toFinset = none) (uncovered : ¬registry.Covers permissions.toFinset)
    (roleId : String) (st : Process) :
    ∃ after : Process, matchResource registry roleId permissions st =
        ([⟨⟨st.nextUuid⟩, false, permissions.toFinset⟩], after) ∧ after.nextUuid = st.nextUuid + 1 := by
  rcases matchResource_cases registry roleId permissions st with
    ⟨_, found, -⟩ | ⟨-, covers, -⟩ | ⟨-, -, after, matched, drawn, -⟩
  · rw [absent] at found
    cases found
  · exact absurd covers uncovered
  · exact ⟨after, matched, drawn⟩

/-- Whatever the branch, the roles bound on a resource together grant exactly the
resource's permission set. -/
theorem permissionUnion_matchResource (registry : SystemRoles) (roleId : String)
    (permissions : List String) (st : Process) :
    permissionUnion (matchResource registry roleId permissions st).1 = permissions.toFinset := by
  rcases matchResource_cases registry roleId permissions st with
    ⟨role, found, matched⟩ | ⟨_, covered, matched⟩ | ⟨_, _, after, matched, _, _⟩
  · rw [matched]
    simp [permissionUnion, ((registry.get_eq_some_iff _ role).1 found).2]
  · obtain ⟨granted, union, _⟩ := greedyCover_from_empty registry permissions.toFinset
    rw [matched, ← union, granted, ← covers_iff_coverUnion_eq]
    exact covered
  · rw [matched]
    simp [permissionUnion]

/-! ## All resources -/

/-- The loop of `extract_system_roles` over `perm_groupings.items()`, with the
registry it read before the loop. -/
def extractWith (systemRoles : SystemRoles) (roleId : String) :
    List (V2boundresource × List String) → ListDict V2role V2boundresource × Process →
      ListDict V2role V2boundresource × Process
  | [], result => result
  | (resource, permissions) :: rest, (resourceRoles, st) =>
      let matched := matchResource systemRoles roleId permissions st
      extractWith systemRoles roleId rest
        (matched.1.foldl (fun acc role => acc.addElement role resource) resourceRoles, matched.2)

/-- `extract_system_roles(perm_groupings, v1_role)`, reading the registry through
`get_system_roles` first. -/
def extractSystemRoles (dbRoles : List Role) (permGroupings : ListDict V2boundresource String)
    (v1Role : V1role) (st : Process) : ListDict V2role V2boundresource × Process :=
  let st := { st with systemRoles := SystemRoles.getSystemRoles dbRoles st.systemRoles }
  extractWith st.systemRoles v1Role.id permGroupings.entries (ListDict.empty, st)

/-- A resource the loop does not visit keeps the roles it had. -/
theorem extractWith_get_of_not_mem (registry : SystemRoles) (roleId : String)
    (resource : V2boundresource) (role : V2role) :
    ∀ (entries : List (V2boundresource × List String)) (start : ListDict V2role V2boundresource × Process),
      resource ∉ entries.map Prod.fst →
      (resource ∈ (extractWith registry roleId entries start).1.get role ↔ resource ∈ start.1.get role)
  | [], _, _ => Iff.rfl
  | (other, permissions) :: rest, (resourceRoles, st), absent => by
      simp only [List.map_cons, List.mem_cons, not_or] at absent
      rw [extractWith, extractWith_get_of_not_mem registry roleId resource role rest _ absent.2,
        ListDict.mem_get_foldl_addElement]
      simp [absent.1]

/-- The roles bound on a visited resource are the ones its `matchResource` returned,
at the process state the loop had reached there. -/
theorem extractWith_get_of_mem (registry : SystemRoles) (roleId : String)
    (resource : V2boundresource) (permissions : List String) :
    ∀ (entries : List (V2boundresource × List String)) (start : ListDict V2role V2boundresource × Process),
      (entries.map Prod.fst).Nodup → (resource, permissions) ∈ entries →
      (∀ role, resource ∉ start.1.get role) →
      ∃ st : Process, ∀ role, resource ∈ (extractWith registry roleId entries start).1.get role ↔
        role ∈ (matchResource registry roleId permissions st).1
  | [], _, _, absent, _ => absurd absent (List.not_mem_nil _)
  | (other, otherPermissions) :: rest, (resourceRoles, st), nodup, member, fresh => by
      rw [List.map_cons, List.nodup_cons] at nodup
      rcases List.mem_cons.1 member with same | later
      · obtain ⟨rfl, rfl⟩ := Prod.mk.inj same
        refine ⟨st, fun role => ?_⟩
        rw [extractWith, extractWith_get_of_not_mem registry roleId resource role rest _ nodup.1,
          ListDict.mem_get_foldl_addElement]
        simp [fresh role]
      · have visitedLater : resource ∈ rest.map Prod.fst := List.mem_map.2 ⟨_, later, rfl⟩
        have differ : resource ≠ other := fun same => nodup.1 (same ▸ visitedLater)
        rw [extractWith]
        apply extractWith_get_of_mem registry roleId resource permissions rest _ nodup.2 later
        intro role
        rw [ListDict.mem_get_foldl_addElement]
        simp [fresh role, differ]

/-- The roles a grouping's resource receives grant exactly its grouped permissions. -/
theorem exists_bound_role_iff (registry : SystemRoles) (roleId : String)
    (permGroupings : ListDict V2boundresource String) (st : Process)
    (resource : V2boundresource) (perm : String) :
    (∃ role, resource ∈ (extractWith registry roleId permGroupings.entries (ListDict.empty, st)).1.get role ∧
        perm ∈ role.permissions) ↔ perm ∈ permGroupings.get resource := by
  by_cases visited : resource ∈ permGroupings.entries.map Prod.fst
  · obtain ⟨⟨_, permissions⟩, member, rfl⟩ := List.mem_map.1 visited
    obtain ⟨reached, bound⟩ := extractWith_get_of_mem registry roleId _ permissions
      permGroupings.entries (ListDict.empty, st) permGroupings.keys_nodup member (by simp)
    simp only [bound, ListDict.get_eq_of_mem member]
    rw [← List.mem_toFinset, ← permissionUnion_matchResource registry roleId permissions reached,
      mem_permissionUnion]
  · have unbound := extractWith_get_of_not_mem registry roleId resource
    simp only [unbound _ _ _ visited, ListDict.get_empty, List.not_mem_nil, false_and, exists_false,
      false_iff]
    rw [ListDict.mem_get_iff]
    rintro ⟨values, member, _⟩
    exact visited (List.mem_map_of_mem Prod.fst member)

/-- A registered role alone covers its key. -/
theorem SystemRoles.covers_of_get_eq_some {registry : SystemRoles} {key : Finset String}
    {role : V2role} (found : registry.get key = some role) : registry.Covers key := by
  obtain ⟨member, permissions⟩ := (registry.get_eq_some_iff key role).1 found
  exact ⟨[role], by simpa using member, by simp [permissionUnion, permissions]⟩

/-- Every custom role of the dict is bound on at most one resource, and its id was
drawn before the next UUID. -/
def CustomRolesFresh (state : ListDict V2role V2boundresource × Process) : Prop :=
  ∀ role : V2role, role.isSystem = false →
    (state.1.get role).length ≤ 1 ∧ (state.1.get role ≠ [] → role.id.value < state.2.nextUuid)

/-- One resource keeps the custom roles fresh: a registered role is a system role,
and a minted one takes the next UUID, which no role in the dict holds. -/
theorem customRolesFresh_step {registry : SystemRoles} {roleId : String}
    {resource : V2boundresource} {permissions : List String}
    {resourceRoles : ListDict V2role V2boundresource} {st : Process}
    (fresh : CustomRolesFresh (resourceRoles, st)) :
    let matched := matchResource registry roleId permissions st
    CustomRolesFresh (matched.1.foldl (fun acc role => acc.addElement role resource) resourceRoles,
      matched.2) := by
  intro matched role custom
  have unbound : ∀ roles : List V2role, (∀ r ∈ roles, r ∈ registry.roles) →
      (roles.foldl (fun acc role => acc.addElement role resource) resourceRoles).get role =
        resourceRoles.get role := fun roles registered =>
    ListDict.get_foldl_addElement_of_not_mem _ _ _ _ fun member => by
      simpa [custom] using registry.all_system role (registered role member)
  rcases matchResource_cases registry roleId permissions st with
    ⟨system, found, same⟩ | ⟨_, _, same⟩ | ⟨_, _, after, same, drawn, _⟩
  · simp only [matched, same]
    rw [unbound [system] (by simpa using ((registry.get_eq_some_iff _ system).1 found).1)]
    exact fresh role custom
  · simp only [matched, same]
    rw [unbound _ fun r member =>
      ((greedyCover_from_empty registry permissions.toFinset).2.2.1 r member).1]
    exact fresh role custom
  · simp only [matched, same, List.foldl_cons, List.foldl_nil, ListDict.get_addElement, drawn]
    split
    · next minted =>
      subst minted
      have empty : resourceRoles.get ⟨⟨st.nextUuid⟩, false, permissions.toFinset⟩ = [] := by
        by_contra held
        exact Nat.lt_irrefl _ ((fresh _ custom).2 held)
      simp [empty]
    · exact ⟨(fresh role custom).1, fun held => Nat.lt_succ_of_lt ((fresh role custom).2 held)⟩

theorem customRolesFresh_extractWith (registry : SystemRoles) (roleId : String) :
    ∀ (entries : List (V2boundresource × List String))
      (start : ListDict V2role V2boundresource × Process), CustomRolesFresh start →
      CustomRolesFresh (extractWith registry roleId entries start)
  | [], _, fresh => fresh
  | (_, _) :: rest, (_, _), fresh =>
      customRolesFresh_extractWith registry roleId rest _ (customRolesFresh_step fresh)

end InsightsRbac.MigrationTool
