import InsightsRbac.MigrationTool.Migration

/-!
Contract: `candidate_system_roles`, the diagnostic dict that `extract_system_roles`
fills for the resources the registry does not cover, over a run of
`v1_role_to_v2_mapping` calls.

Owns: the dict's account of a run. Its keys stay distinct, and each candidate keeps
the V1 role ids it had and gains exactly the ids of the run's roles that
contributed it (`mapRoles_candidates`). And that the dict is write-only: no
binding, UUID, counter or registry of a run depends on what it held
(`mapRoles_ignores_candidates`).

Does not own: the order in which new candidates enter the dict, which the model
takes from the resource's permissions and Python from the hash order of the
leftover set.
-/

namespace InsightsRbac.MigrationTool

open InsightsRbac.Python

/-! ## The dict -/

/-- `candidate_system_roles.get(candidate, set())`. -/
def candidateIds (candidates : List (Finset String × Finset String)) (candidate : Finset String) :
    Finset String :=
  (candidates.lookup candidate).getD ∅

@[simp] theorem candidateIds_nil (key : Finset String) : candidateIds [] key = ∅ := rfl

@[simp] theorem candidateIds_cons (existing roleIds key : Finset String)
    (rest : List (Finset String × Finset String)) :
    candidateIds ((existing, roleIds) :: rest) key = if key = existing then roleIds else candidateIds rest key := by
  by_cases same : key = existing
  · simp [candidateIds, List.lookup_cons, same]
  · simp [candidateIds, List.lookup_cons, beq_eq_false_iff_ne.2 same, same]

theorem mem_candidateIds_addCandidate (roleId id : String) (candidate key : Finset String) :
    ∀ candidates : List (Finset String × Finset String),
      id ∈ candidateIds (addCandidate roleId candidate candidates) key ↔
        id ∈ candidateIds candidates key ∨ (key = candidate ∧ id = roleId)
  | [] => by by_cases same : key = candidate <;> simp [addCandidate, same]
  | (existing, roleIds) :: rest => by
      by_cases found : existing = candidate
      · subst found
        by_cases same : key = existing <;> simp [addCandidate, same, or_comm]
      · by_cases same : key = existing
        · subst same
          simp [addCandidate, found]
        · simp [addCandidate, found, same, mem_candidateIds_addCandidate roleId id candidate key rest]

theorem keys_addCandidate (roleId : String) (candidate : Finset String) :
    ∀ candidates : List (Finset String × Finset String),
      (addCandidate roleId candidate candidates).map Prod.fst =
        if candidate ∈ candidates.map Prod.fst then candidates.map Prod.fst
        else candidates.map Prod.fst ++ [candidate]
  | [] => rfl
  | (existing, roleIds) :: rest => by
      by_cases found : existing = candidate
      · simp [addCandidate, found]
      · rw [addCandidate, if_neg found, List.map_cons, keys_addCandidate roleId candidate rest]
        by_cases later : candidate ∈ rest.map Prod.fst <;> simp [later, Ne.symm found]

/-- A new candidate enters at the end, so the keys stay distinct. -/
theorem nodup_addCandidate (roleId : String) (candidate : Finset String)
    {candidates : List (Finset String × Finset String)} (nodup : (candidates.map Prod.fst).Nodup) :
    ((addCandidate roleId candidate candidates).map Prod.fst).Nodup := by
  rw [keys_addCandidate]
  split
  · exact nodup
  · next absent => exact nodup.append (List.nodup_singleton _) (by simpa using absent)

/-! ## One uncovered resource -/

theorem mem_eraseDups_loop {α : Type} [BEq α] [LawfulBEq α] (a : α) :
    ∀ seen pending : List α, a ∈ List.eraseDups.loop pending seen ↔ a ∈ pending ∨ a ∈ seen
  | seen, [] => by simp [List.eraseDups.loop]
  | seen, x :: rest => by
      unfold List.eraseDups.loop
      cases kept : seen.elem x
      · simp only [mem_eraseDups_loop a (x :: seen) rest, List.mem_cons, or_assoc]
        exact or_left_comm
      · have old : x ∈ seen := List.elem_iff.1 kept
        simp only [mem_eraseDups_loop a seen rest, List.mem_cons]
        constructor
        · exact fun kept => kept.imp_left Or.inr
        · rintro ((rfl | later) | earlier)
          · exact .inr old
          · exact .inl later
          · exact .inr earlier

theorem mem_eraseDups {α : Type} [BEq α] [LawfulBEq α] (a : α) (as : List α) :
    a ∈ as.eraseDups ↔ a ∈ as := by
  simp [List.eraseDups, mem_eraseDups_loop]

theorem mem_candidateIds_foldl_addCandidate (roleId id : String) (select : String → Finset String)
    (key : Finset String) :
    ∀ (apps : List String) (candidates : List (Finset String × Finset String)),
      id ∈ candidateIds (apps.foldl (fun candidates app => addCandidate roleId (select app) candidates)
          candidates) key ↔
        id ∈ candidateIds candidates key ∨ ((∃ app ∈ apps, key = select app) ∧ id = roleId)
  | [], _ => by simp
  | app :: rest, candidates => by
      rw [List.foldl_cons, mem_candidateIds_foldl_addCandidate roleId id select key rest,
        mem_candidateIds_addCandidate, List.exists_mem_cons_iff]
      simp only [or_and_right, or_assoc]

theorem nodup_foldl_addCandidate (roleId : String) (select : String → Finset String) :
    ∀ (apps : List String) (candidates : List (Finset String × Finset String)),
      (candidates.map Prod.fst).Nodup →
      ((apps.foldl (fun candidates app => addCandidate roleId (select app) candidates)
          candidates).map Prod.fst).Nodup
  | [], _, nodup => nodup
  | _ :: rest, _, nodup => nodup_foldl_addCandidate roleId select rest _ (nodup_addCandidate _ _ nodup)

/-- The ids `trackCandidates` records: the V1 role's, under the set of the
resource's permissions of each application that has a leftover permission. -/
theorem mem_candidateIds_trackCandidates (roleId id : String) (permissions : List String)
    (leftovers key : Finset String) (candidates : List (Finset String × Finset String)) :
    id ∈ candidateIds (trackCandidates roleId permissions leftovers candidates) key ↔
      id ∈ candidateIds candidates key ∨
        ((∃ perm ∈ permissions, perm ∈ leftovers ∧
            key = (permissions.filter (permApp · = permApp perm)).toFinset) ∧ id = roleId) := by
  rw [trackCandidates, mem_candidateIds_foldl_addCandidate]
  simp only [mem_eraseDups, List.mem_map, List.mem_filter, decide_eq_true_eq]
  constructor
  · rintro (old | ⟨⟨app, ⟨perm, ⟨member, leftover⟩, rfl⟩, rfl⟩, rfl⟩)
    · exact .inl old
    · exact .inr ⟨⟨perm, member, leftover, rfl⟩, rfl⟩
  · rintro (old | ⟨⟨perm, member, leftover, rfl⟩, rfl⟩)
    · exact .inl old
    · exact .inr ⟨⟨permApp perm, ⟨perm, ⟨member, leftover⟩, rfl⟩, rfl⟩, rfl⟩

/-- The spec's account of the candidates a resource contributes: when the registry
does not cover its permission set, each application with a permission left
uncovered contributes the set of the resource's permissions of that application. -/
def Contributes (registry : SystemRoles) (permissions : List String) (candidate : Finset String) : Prop :=
  ¬registry.Covers permissions.toFinset ∧
    ∃ perm ∈ permissions, perm ∉ registry.coverUnion permissions.toFinset ∧
      candidate = (permissions.filter (permApp · = permApp perm)).toFinset

instance (registry : SystemRoles) (permissions : List String) (candidate : Finset String) :
    Decidable (Contributes registry permissions candidate) :=
  inferInstanceAs (Decidable (_ ∧ _))

/-- What one resource does to the dict: nothing when the registry covers it, and
otherwise `trackCandidates` with the permissions the greedy pass left. -/
theorem candidateSystemRoles_matchResource (registry : SystemRoles) (roleId : String)
    (permissions : List String) (st : Process) :
    (matchResource registry roleId permissions st).2.candidateSystemRoles =
      if registry.Covers permissions.toFinset then st.candidateSystemRoles
      else trackCandidates roleId permissions
        (permissions.toFinset \ registry.coverUnion permissions.toFinset) st.candidateSystemRoles := by
  have granted := (greedyCover_from_empty registry permissions.toFinset).1
  cases found : registry.get permissions.toFinset with
  | some role => rw [matchResource_of_found found, if_pos (SystemRoles.covers_of_get_eq_some found)]
  | none =>
    by_cases covered : registry.Covers permissions.toFinset
    · rw [matchResource_of_covers found covered, if_pos covered]
    · have differs : permissions.toFinset ≠ (greedyCover permissions.toFinset registry.roles (∅, [])).1 := by
        rw [granted]
        exact fun same => covered ((covers_iff_coverUnion_eq _ _).2 same.symm)
      rw [if_neg covered, matchResource, found]
      dsimp only
      rw [if_neg differs, granted]
      rfl

theorem mem_candidateIds_matchResource (registry : SystemRoles) (roleId id : String)
    (permissions : List String) (st : Process) (key : Finset String) :
    id ∈ candidateIds (matchResource registry roleId permissions st).2.candidateSystemRoles key ↔
      id ∈ candidateIds st.candidateSystemRoles key ∨ (Contributes registry permissions key ∧ id = roleId) := by
  rw [candidateSystemRoles_matchResource]
  by_cases covered : registry.Covers permissions.toFinset
  · simp [covered, Contributes]
  · rw [if_neg covered, mem_candidateIds_trackCandidates]
    simp only [Contributes, covered, not_false_eq_true, true_and, Finset.mem_sdiff, List.mem_toFinset]
    constructor
    · rintro (old | ⟨⟨perm, member, ⟨-, left⟩, same⟩, rfl⟩)
      · exact .inl old
      · exact .inr ⟨⟨perm, member, left, same⟩, rfl⟩
    · rintro (old | ⟨⟨perm, member, left, same⟩, rfl⟩)
      · exact .inl old
      · exact .inr ⟨⟨perm, member, ⟨member, left⟩, same⟩, rfl⟩

theorem nodup_matchResource (registry : SystemRoles) (roleId : String) (permissions : List String)
    {st : Process} (nodup : (st.candidateSystemRoles.map Prod.fst).Nodup) :
    ((matchResource registry roleId permissions st).2.candidateSystemRoles.map Prod.fst).Nodup := by
  rw [candidateSystemRoles_matchResource]
  split
  · exact nodup
  · exact nodup_foldl_addCandidate _ _ _ _ nodup

/-! ## One mapping -/

theorem mem_candidateIds_extractWith (registry : SystemRoles) (roleId id : String) (key : Finset String) :
    ∀ (entries : List (V2boundresource × List String)) (start : ListDict V2role V2boundresource × Process),
      id ∈ candidateIds (extractWith registry roleId entries start).2.candidateSystemRoles key ↔
        id ∈ candidateIds start.2.candidateSystemRoles key ∨
          ((∃ entry ∈ entries, Contributes registry entry.2 key) ∧ id = roleId)
  | [], _ => by simp [extractWith]
  | (resource, permissions) :: rest, (resourceRoles, st) => by
      rw [extractWith, mem_candidateIds_extractWith registry roleId id key rest,
        mem_candidateIds_matchResource, List.exists_mem_cons_iff]
      simp only [or_and_right, or_assoc]

theorem nodup_extractWith (registry : SystemRoles) (roleId : String) :
    ∀ (entries : List (V2boundresource × List String)) (start : ListDict V2role V2boundresource × Process),
      (start.2.candidateSystemRoles.map Prod.fst).Nodup →
      ((extractWith registry roleId entries start).2.candidateSystemRoles.map Prod.fst).Nodup
  | [], _, nodup => nodup
  | (_, permissions) :: rest, (_, _), nodup => by
      rw [extractWith]
      exact nodup_extractWith registry roleId rest _ (nodup_matchResource _ _ _ nodup)

theorem candidateSystemRoles_withUuids {α : Type} :
    ∀ (items : List α) (st : Process),
      (withUuids items st).2.candidateSystemRoles = st.candidateSystemRoles
  | [], _ => rfl
  | _ :: rest, st => by
      simp only [withUuids, candidateSystemRoles_withUuids rest]
      rfl

/-- Whether mapping `v1Role` records its id under `candidate`: some resource its
permissions are grouped under contributes the candidate. -/
def RoleContributes (registry : SystemRoles) (rootWorkspace defaultWorkspace : String) (v1Role : V1role)
    (candidate : Finset String) : Prop :=
  ∃ groupings ∈ (permGroupings v1Role rootWorkspace defaultWorkspace).toOption,
    ∃ entry ∈ groupings.entries, Contributes registry entry.2 candidate

instance (registry : SystemRoles) (rootWorkspace defaultWorkspace : String) (v1Role : V1role)
    (candidate : Finset String) :
    Decidable (RoleContributes registry rootWorkspace defaultWorkspace v1Role candidate) :=
  inferInstanceAs (Decidable (∃ groupings ∈ _, _))

/-- One mapping keeps the dict's keys distinct and adds the V1 role's id under
each candidate one of its bound resources contributes. -/
theorem candidateIds_v1RoleToV2Mapping {dbRoles : List Role} {v1Role : V1role}
    {rootWorkspace defaultWorkspace : String} {st after : Process} {bindings : List V2rolebinding}
    (mapped : v1RoleToV2Mapping dbRoles v1Role rootWorkspace defaultWorkspace st = .ok (bindings, after)) :
    ((st.candidateSystemRoles.map Prod.fst).Nodup → (after.candidateSystemRoles.map Prod.fst).Nodup) ∧
      ∀ candidate id, id ∈ candidateIds after.candidateSystemRoles candidate ↔
        id ∈ candidateIds st.candidateSystemRoles candidate ∨
          (v1Role.id = id ∧ RoleContributes (SystemRoles.getSystemRoles dbRoles st.systemRoles)
            rootWorkspace defaultWorkspace v1Role candidate) := by
  obtain ⟨groupings, grouped, -, rfl⟩ := v1RoleToV2Mapping_eq_ok mapped
  refine ⟨fun nodup => ?_, fun candidate id => ?_⟩
  · rw [candidateSystemRoles_withUuids]
    exact nodup_extractWith _ _ _ _ nodup
  · rw [candidateSystemRoles_withUuids, extractSystemRoles, mem_candidateIds_extractWith]
    simp only [RoleContributes, grouped, Except.toOption, Option.mem_def, Option.some.injEq,
      exists_eq_left']
    exact or_congr_right (and_comm.trans (and_congr_left' eq_comm))

/-! ## A run -/

/-- Over a run of mappings `candidate_system_roles` stays a dict, and each
candidate keeps the V1 role ids it had and gains the ids of the run's roles that
contributed it, and no others. -/
theorem mapRoles_candidates (dbRoles : List Role) (rootWorkspace defaultWorkspace : String) :
    ∀ (v1Roles : List V1role) (st after : Process) (bindings : List V2rolebinding),
      mapRoles dbRoles rootWorkspace defaultWorkspace v1Roles st = .ok (bindings, after) →
      ((st.candidateSystemRoles.map Prod.fst).Nodup → (after.candidateSystemRoles.map Prod.fst).Nodup) ∧
      ∀ candidate id, id ∈ candidateIds after.candidateSystemRoles candidate ↔
        id ∈ candidateIds st.candidateSystemRoles candidate ∨
          ∃ v1Role ∈ v1Roles, v1Role.id = id ∧ RoleContributes
            (SystemRoles.getSystemRoles dbRoles st.systemRoles) rootWorkspace defaultWorkspace v1Role candidate
  | [], st, after, bindings, mapped => by
      cases mapped
      exact ⟨id, fun _ _ => by simp⟩
  | v1Role :: rest, st, after, bindings, mapped => by
      simp only [mapRoles, except_bind_eq_ok, pure, Except.pure, Except.ok.injEq] at mapped
      obtain ⟨⟨first, middle⟩, firstOk, ⟨later, last⟩, laterOk, rfl, rfl⟩ := mapped
      obtain ⟨firstKeyed, firstIds⟩ := candidateIds_v1RoleToV2Mapping firstOk
      obtain ⟨laterKeyed, laterIds⟩ :=
        mapRoles_candidates dbRoles rootWorkspace defaultWorkspace rest middle last later laterOk
      have registry : SystemRoles.getSystemRoles dbRoles middle.systemRoles =
          SystemRoles.getSystemRoles dbRoles st.systemRoles := by
        rw [v1RoleToV2Mapping_systemRoles firstOk, getSystemRoles_getSystemRoles]
      refine ⟨laterKeyed ∘ firstKeyed, fun candidate id => ?_⟩
      rw [laterIds, registry, firstIds, List.exists_mem_cons_iff]
      exact or_assoc

/-- Two roles granting `inventory:hosts:read`, mapped in turn with an empty
registry: both ids are recorded under the one candidate `{inventory_hosts_read}`. -/
theorem mapRoles_candidates_two_readers :
    let first : V1role := ⟨"role-1", [⟨"inventory", "hosts", "read", []⟩], []⟩
    let second : V1role := ⟨"role-2", [⟨"inventory", "hosts", "read", []⟩], []⟩
    ∃ bindings after, mapRoles [] "root" "default" [first, second] Process.initial = .ok (bindings, after) ∧
      after.candidateSystemRoles.map Prod.fst = [{"inventory_hosts_read"}] ∧
      candidateIds after.candidateSystemRoles {"inventory_hosts_read"} = {"role-1", "role-2"} ∧
      ((Process.initial.candidateSystemRoles.map Prod.fst).Nodup → (after.candidateSystemRoles.map Prod.fst).Nodup) ∧
      ∀ candidate id, id ∈ candidateIds after.candidateSystemRoles candidate ↔
        id ∈ candidateIds Process.initial.candidateSystemRoles candidate ∨
          ∃ v1Role ∈ [first, second], v1Role.id = id ∧ RoleContributes
            (SystemRoles.getSystemRoles [] Process.initial.systemRoles) "root" "default" v1Role candidate := by
  intro first second
  exact ⟨_, _, rfl, by decide, by decide,
    mapRoles_candidates [] "root" "default" [first, second] Process.initial _ _ rfl⟩

/-! ## The dict is never read -/

/-- The process state without `candidate_system_roles`. -/
def Process.withoutCandidates (st : Process) : Process := { st with candidateSystemRoles := [] }

theorem Process.withoutCandidates_eq_iff {st st' : Process} :
    st.withoutCandidates = st'.withoutCandidates ↔
      st.systemRoles = st'.systemRoles ∧ st.customRolesCreated = st'.customRolesCreated ∧
        st.nextUuid = st'.nextUuid := by
  cases st
  cases st'
  simp [Process.withoutCandidates]

section Unread

variable {st st' : Process}

theorem matchResource_withoutCandidates (registry : SystemRoles) (roleId : String) (permissions : List String)
    (same : st.withoutCandidates = st'.withoutCandidates) :
    (matchResource registry roleId permissions st).1 = (matchResource registry roleId permissions st').1 ∧
      (matchResource registry roleId permissions st).2.withoutCandidates =
        (matchResource registry roleId permissions st').2.withoutCandidates := by
  obtain ⟨registries, counts, uuids⟩ := Process.withoutCandidates_eq_iff.1 same
  unfold matchResource
  split
  · exact ⟨rfl, same⟩
  · dsimp only
    split
    · exact ⟨rfl, same⟩
    · simp only [uuid4, uuids, true_and]
      exact Process.withoutCandidates_eq_iff.2 ⟨registries, by rw [counts], rfl⟩

theorem extractWith_withoutCandidates (registry : SystemRoles) (roleId : String) :
    ∀ (entries : List (V2boundresource × List String)) (resourceRoles : ListDict V2role V2boundresource)
      {st st' : Process}, st.withoutCandidates = st'.withoutCandidates →
      (extractWith registry roleId entries (resourceRoles, st)).1 =
          (extractWith registry roleId entries (resourceRoles, st')).1 ∧
        (extractWith registry roleId entries (resourceRoles, st)).2.withoutCandidates =
          (extractWith registry roleId entries (resourceRoles, st')).2.withoutCandidates
  | [], _, _, _, same => ⟨rfl, same⟩
  | (_, permissions) :: rest, _, st, st', same => by
      obtain ⟨roles, next⟩ := matchResource_withoutCandidates registry roleId permissions same
      rw [extractWith, extractWith, roles]
      exact extractWith_withoutCandidates registry roleId rest _ next

theorem withUuids_withoutCandidates {α : Type} :
    ∀ (items : List α) {st st' : Process}, st.withoutCandidates = st'.withoutCandidates →
      (withUuids items st).1 = (withUuids items st').1 ∧
        (withUuids items st).2.withoutCandidates = (withUuids items st').2.withoutCandidates
  | [], _, _, same => ⟨rfl, same⟩
  | _ :: rest, st, st', same => by
      obtain ⟨registries, counts, uuids⟩ := Process.withoutCandidates_eq_iff.1 same
      have drawn : (uuid4 st).2.withoutCandidates = (uuid4 st').2.withoutCandidates :=
        Process.withoutCandidates_eq_iff.2 ⟨registries, counts, by simp [uuid4, uuids]⟩
      obtain ⟨ids, next⟩ := withUuids_withoutCandidates rest drawn
      simp only [withUuids, uuid4, uuids] at ids next ⊢
      exact ⟨by rw [ids], next⟩

/-- Two `Except` computations that agree under `f`, continued by steps that agree
under `g` from results that agree under `f`, agree under `g`. -/
theorem except_map_bind_congr {ε α β γ δ : Type} {x x' : Except ε α} {f : α → γ}
    {k k' : α → Except ε β} {g : β → δ} (first : x.map f = x'.map f)
    (rest : ∀ a a', f a = f a' → (k a).map g = (k' a').map g) :
    (x >>= k).map g = (x' >>= k').map g := by
  cases x <;> cases x' <;> simp only [Except.map, Except.error.injEq, Except.ok.injEq, reduceCtorEq] at first
  · simp [bind, Except.bind, Except.map, first]
  · exact rest _ _ first

theorem extractSystemRoles_withoutCandidates (dbRoles : List Role) (groupings : ListDict V2boundresource String)
    (v1Role : V1role) (same : st.withoutCandidates = st'.withoutCandidates) :
    (extractSystemRoles dbRoles groupings v1Role st).1 = (extractSystemRoles dbRoles groupings v1Role st').1 ∧
      (extractSystemRoles dbRoles groupings v1Role st).2.withoutCandidates =
        (extractSystemRoles dbRoles groupings v1Role st').2.withoutCandidates := by
  obtain ⟨registries, counts, uuids⟩ := Process.withoutCandidates_eq_iff.1 same
  unfold extractSystemRoles
  rw [registries]
  exact extractWith_withoutCandidates _ _ _ _ (Process.withoutCandidates_eq_iff.2 ⟨rfl, counts, uuids⟩)

theorem v1RoleToV2Mapping_withoutCandidates (dbRoles : List Role) (v1Role : V1role)
    (rootWorkspace defaultWorkspace : String) (same : st.withoutCandidates = st'.withoutCandidates) :
    (v1RoleToV2Mapping dbRoles v1Role rootWorkspace defaultWorkspace st).map
        (fun result => (result.1, result.2.withoutCandidates)) =
      (v1RoleToV2Mapping dbRoles v1Role rootWorkspace defaultWorkspace st').map
        (fun result => (result.1, result.2.withoutCandidates)) := by
  unfold v1RoleToV2Mapping
  cases permGroupings v1Role rootWorkspace defaultWorkspace with
  | error e => simp only [bind, Except.bind, Except.map]
  | ok groupings =>
    obtain ⟨roles, next⟩ := extractSystemRoles_withoutCandidates dbRoles groupings v1Role same
    obtain ⟨drawn, after⟩ := withUuids_withoutCandidates
      (bindingTargets (extractSystemRoles dbRoles groupings v1Role st').1 (v1groupsToV2groups v1Role.groups)) next
    simp only [bind, Except.bind, pure, Except.pure, Except.map, roles, drawn, after]

theorem mapRoles_withoutCandidates (dbRoles : List Role) (rootWorkspace defaultWorkspace : String) :
    ∀ (v1Roles : List V1role) {st st' : Process}, st.withoutCandidates = st'.withoutCandidates →
      (mapRoles dbRoles rootWorkspace defaultWorkspace v1Roles st).map
          (fun result => (result.1, result.2.withoutCandidates)) =
        (mapRoles dbRoles rootWorkspace defaultWorkspace v1Roles st').map
          (fun result => (result.1, result.2.withoutCandidates))
  | [], _, _, same => by simp [mapRoles, Except.map, same]
  | v1Role :: rest, _, _, same => by
      refine except_map_bind_congr (v1RoleToV2Mapping_withoutCandidates dbRoles v1Role _ _ same)
        fun first first' sameFirst => ?_
      obtain ⟨bindings, middle⟩ := first
      obtain ⟨bindings', middle'⟩ := first'
      obtain ⟨rfl, sameMiddle⟩ := Prod.mk.inj sameFirst
      refine except_map_bind_congr (mapRoles_withoutCandidates dbRoles rootWorkspace defaultWorkspace rest
        sameMiddle) fun later later' sameLater => ?_
      obtain ⟨laterBindings, last⟩ := later
      obtain ⟨laterBindings', last'⟩ := later'
      obtain ⟨rfl, sameLast⟩ := Prod.mk.inj sameLater
      simp [pure, Except.pure, Except.map, sameLast]

end Unread

/-- Whatever `candidate_system_roles` holds when a run starts, the run returns the
same bindings and leaves the same registry, counter and next UUID: nothing the
migration produces reads the dict. -/
theorem mapRoles_ignores_candidates (dbRoles : List Role) (rootWorkspace defaultWorkspace : String)
    (v1Roles : List V1role) (st : Process) (candidates : List (Finset String × Finset String)) :
    (mapRoles dbRoles rootWorkspace defaultWorkspace v1Roles { st with candidateSystemRoles := candidates }).map
        (fun result => (result.1, result.2.withoutCandidates)) =
      (mapRoles dbRoles rootWorkspace defaultWorkspace v1Roles st).map
        (fun result => (result.1, result.2.withoutCandidates)) :=
  mapRoles_withoutCandidates dbRoles rootWorkspace defaultWorkspace v1Roles rfl

end InsightsRbac.MigrationTool
