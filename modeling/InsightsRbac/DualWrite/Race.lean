import InsightsRbac.DualWrite.Requests

/-!
Contract: two role API requests for one role that race, the case the spec's
concurrency section leaves to the caller's locking. Each request builds its
`RelationApiDualWriteHandler` for the role as it was and loads before either one
generates.

Owns: what such a race leaves (`racingRequests_outcome`). With no `BindingMapping`
yet, the second request's create violates the role's unique constraint and raises.
With one, both requests publish and the row keeps the second request's mappings,
but the second event removes only the relations loaded before the race. So the
relation store keeps what the first request added outside them, which a handler
loading afterwards does not account for.

Does not own: races in which a handler loads after the other has written. Their
outcome depends on what `migrate_role` makes of a mapping written for another
state of the role, which is outside src.
-/

namespace InsightsRbac.DualWrite

open InsightsRbac.MigrationTool InsightsRbac.Python

variable {Relationship Mappings Json : Type}

namespace RelationApiDualWriteHandler

variable (env : Env Relationship Mappings Json)

/-- Two requests for one role that race: each builds its handler for the role's
state `before` and loads it from `db` before either writes. Then the first
generates for `first`, and the second, on the database the first left, for
`second`. -/
def racingRequests (orgId eventType : String) (before first second : Role) (db : Db Mappings Json) :
    Outcome Relationship Mappings Json (Option (ReplicationEvent Json)) ×
      Outcome Relationship Mappings Json (Option (ReplicationEvent Json)) :=
  let loadedFirst := (loadRelationsFromCurrentStateOfRole env Faults.none (init before orgId eventType) db).handler
  let loadedSecond := (loadRelationsFromCurrentStateOfRole env Faults.none (init before orgId eventType) db).handler
  let outFirst := generateReplicationEventToOutbox env Faults.none first loadedFirst db
  (outFirst, generateReplicationEventToOutbox env Faults.none second loadedSecond outFirst.db)

/-! ## One generate without faults -/

/-- With replication on, `relationship_to_json` total and no database fault, a
generate whose mapping write succeeds publishes one event. The event adds the
relations the generate computed and removes the handler's current relations. -/
theorem generateReplicationEventToOutbox_published (enabled : env.replicationEnabled = true)
    (total : env.Total) (role : Role) (h : RelationApiDualWriteHandler Relationship Mappings)
    (db : Db Mappings Json) {relations : List Relationship} {mappings : Mappings} {dbW : Db Mappings Json}
    (migrated : env.migrateRole role h.bindingMapping h.orgId = .ok (relations, mappings))
    (written : (persistMapping Faults.none h.bindingMapping role mappings db).2 = .ok dbW) :
    ∃ event, relations.mapM env.relationshipToJson = .ok event.relationsToAdd ∧
      h.currentRoleRelations.mapM env.relationshipToJson = .ok event.relationsToRemove ∧
      (generateReplicationEventToOutbox env Faults.none role h db).db.bindingMappings = dbW.bindingMappings ∧
      ∃ row : OutboxRow Json, row.payload = event ∧
        (generateReplicationEventToOutbox env Faults.none role h db).db.outboxLog =
          dbW.outboxLog ++ [.inserted row, .deleted row] := by
  let generated := { h with
    role := role
    roleRelations := relations
    bindingMapping := (persistMapping Faults.none h.bindingMapping role mappings db).1 }
  obtain ⟨event, added, removed, kept, logged⟩ :=
    saveReplicationEventToOutbox_of_total env enabled total generated dbW
  have same : generateReplicationEventToOutbox env Faults.none role h db =
      saveReplicationEventToOutbox env Faults.none generated dbW := by
    simp [generateReplicationEventToOutbox, generateRelationsAndMappingsForRole, enabled, migrated, written,
      generated]
  rw [same]
  exact ⟨event, added, removed, kept, outboxRow generated event dbW, rfl, logged⟩

/-- A new handler for `role` loads the relations that `migrate_role` returned
together with the mappings the role's row now holds. -/
theorem loadedRelations_of_row (enabled : env.replicationEnabled = true) (total : env.Total)
    (reproducible : env.Reproducible) (role : Role) (orgId eventType : String) (db : Db Mappings Json)
    {current : Option (BindingMapping Mappings)} {relations : List Relationship} {mappings : Mappings}
    {row : BindingMapping Mappings} (migrated : env.migrateRole role current orgId = .ok (relations, mappings))
    (found : db.bindingMappingOf role = some row) (holds : row.mappings = mappings) :
    loadedRelations env role orgId eventType db = relations := by
  obtain ⟨loaded, handler, withRow, -⟩ := load_of_total env enabled total role orgId eventType db
  obtain ⟨_, again⟩ := withRow row found
  rw [reproducible role current orgId relations mappings migrated row holds] at again
  rw [loadedRelations, handler]
  exact (Prod.mk.inj (Except.ok.inj again)).1.symm

/-! ## The race -/

/-- A race of two requests for one role, both loading before either generates.
Without a `BindingMapping` for the role, the first request creates it and the
second raises on the unique constraint, writing nothing. With one, both publish:
the store, replayed from the loaded relations, ends with what a handler loads
for the second state together with every relation the first added that was not
loaded. -/
theorem racingRequests_outcome [DecidableEq Json] (enabled : env.replicationEnabled = true)
    (total : env.Total) (reproducible : env.Reproducible) (orgId eventType : String)
    (before first second : Role) (sameFirst : first.uuid = before.uuid) (sameSecond : second.uuid = before.uuid)
    (db : Db Mappings Json) (current : List Json)
    (loaded : (loadedRelations env before orgId eventType db).mapM env.relationshipToJson = .ok current) :
    let raced := racingRequests env orgId eventType before first second db
    ∃ added, (loadedRelations env first orgId eventType raced.1.db).mapM env.relationshipToJson = .ok added ∧
      (db.bindingMappingOf before = none →
        raced.2.result = .error ⟨.database "duplicate key value violates unique constraint"⟩ ∧
        raced.2.db = raced.1.db ∧
        replay current.toFinset (emittedPayloads (Db.changesSince db raced.2.db)) = added.toFinset) ∧
      (db.bindingMappingOf before ≠ none →
        ∃ latest, (loadedRelations env second orgId eventType raced.2.db).mapM env.relationshipToJson =
            .ok latest ∧
          replay current.toFinset (emittedPayloads (Db.changesSince db raced.2.db)) =
            latest.toFinset ∪ (added.toFinset \ current.toFinset)) := by
  obtain ⟨currentRelations, handler, -, withoutRow⟩ := load_of_total env enabled total before orgId eventType db
  have loadedIs : loadedRelations env before orgId eventType db = currentRelations := by
    rw [loadedRelations, handler]
  rw [loadedIs] at loaded
  intro raced
  simp only [raced, racingRequests, handler]
  obtain ⟨relationsFirst, mappingsFirst, migratedFirst⟩ := total.1 first (db.bindingMappingOf before) orgId
  cases found : db.bindingMappingOf before with
  | none =>
    have empty : current = [] := by
      rw [withoutRow found] at loaded
      exact (Except.ok.inj loaded).symm
    have absent : db.bindingMappings.any (·.role = first.uuid) = false := by
      rw [List.any_eq_false]
      intro r member same
      exact (List.find?_eq_none.1 found) r member (by simpa [sameFirst] using same)
    obtain ⟨dbA, created, rowsA, -, logA⟩ := Db.createBindingMapping_of_absent mappingsFirst absent
    rw [found] at migratedFirst
    set loadedHandler : RelationApiDualWriteHandler Relationship Mappings :=
      { (init before orgId eventType : RelationApiDualWriteHandler Relationship Mappings) with
        bindingMapping := none, currentRoleRelations := currentRelations }
    have writtenFirst : (persistMapping Faults.none loadedHandler.bindingMapping first mappingsFirst db).2 =
        .ok dbA := by
      show (persistMapping Faults.none none first mappingsFirst db).2 = .ok dbA
      rw [persistMapping, created]
    obtain ⟨eventA, addedA, -, keptA, rowA, payloadA, loggedA⟩ :=
      generateReplicationEventToOutbox_published env enabled total first loadedHandler db migratedFirst writtenFirst
    set outFirst := generateReplicationEventToOutbox env Faults.none first loadedHandler db
    have rowFirst : outFirst.db.bindingMappingOf first = some ⟨db.nextId, first.uuid, mappingsFirst⟩ := by
      rw [Db.bindingMappingOf, keptA, rowsA, List.find?_append,
        List.find?_eq_none.2 fun r member => by simpa using List.any_eq_false.1 absent r member]
      simp
    refine ⟨eventA.relationsToAdd, ?_, fun _ => ?_, fun present => absurd rfl present⟩
    · rw [loadedRelations_of_row env enabled total reproducible first orgId eventType _ migratedFirst rowFirst rfl]
      exact addedA
    · obtain ⟨relationsSecond, mappingsSecond, migratedSecond⟩ := total.1 second none orgId
      have taken : outFirst.db.bindingMappings.any (·.role = second.uuid) = true :=
        List.any_eq_true.2 ⟨_, List.mem_of_find?_eq_some rowFirst, by simp [sameFirst, sameSecond]⟩
      have refused : generateReplicationEventToOutbox env Faults.none second loadedHandler outFirst.db =
          ⟨.error ⟨.database "duplicate key value violates unique constraint"⟩,
            { loadedHandler with role := second, roleRelations := relationsSecond }, outFirst.db⟩ := by
        simp [generateReplicationEventToOutbox, generateRelationsAndMappingsForRole, enabled, loadedHandler, init,
          migratedSecond, persistMapping, Db.createBindingMapping, Faults.none, taken]
      rw [refused]
      refine ⟨rfl, rfl, ?_⟩
      rw [Db.changesSince_of_append (loggedA.trans (by rw [logA])), empty]
      simp [emittedPayloads, OutboxChange.insertedPayload, replay, applyEvent, payloadA]
  | some row =>
    have isRole : row.role = before.uuid := by simpa using List.find?_some found
    have stored : db.bindingMappings.any
        (·.id = ({ row with mappings := mappingsFirst } : BindingMapping Mappings).id) :=
      List.any_eq_true.2 ⟨row, List.mem_of_find?_eq_some found, by simp⟩
    obtain ⟨dbA, savedA, rowsA, -, logA⟩ := Db.saveBindingMapping_of_present stored
    rw [found] at migratedFirst
    set loadedHandler : RelationApiDualWriteHandler Relationship Mappings :=
      { (init before orgId eventType : RelationApiDualWriteHandler Relationship Mappings) with
        bindingMapping := some row, currentRoleRelations := currentRelations }
    obtain ⟨eventA, addedA, removedA, keptA, rowA, payloadA, loggedA⟩ :=
      generateReplicationEventToOutbox_published env enabled total first loadedHandler db migratedFirst savedA
    set outFirst := generateReplicationEventToOutbox env Faults.none first loadedHandler db
    have foundFirst : outFirst.db.bindingMappings.find? (·.role = before.uuid) =
        some { row with mappings := mappingsFirst } := by
      rw [keptA, rowsA]
      exact find?_map_saved before.uuid row { row with mappings := mappingsFirst } rfl isRole _ found
    obtain ⟨relationsSecond, mappingsSecond, migratedSecond⟩ := total.1 second (some row) orgId
    have storedFirst : outFirst.db.bindingMappings.any
        (·.id = ({ row with mappings := mappingsSecond } : BindingMapping Mappings).id) :=
      List.any_eq_true.2 ⟨_, List.mem_of_find?_eq_some foundFirst, by simp⟩
    obtain ⟨dbB, savedB, rowsB, -, logB⟩ := Db.saveBindingMapping_of_present storedFirst
    obtain ⟨eventB, addedB, removedB, keptB, rowB, payloadB, loggedB⟩ :=
      generateReplicationEventToOutbox_published env enabled total second loadedHandler outFirst.db
        migratedSecond savedB
    refine ⟨eventA.relationsToAdd, ?_, fun absent => (nomatch absent), fun _ => ⟨eventB.relationsToAdd, ?_, ?_⟩⟩
    · rw [loadedRelations_of_row env enabled total reproducible first orgId eventType _ migratedFirst
        (by rw [Db.bindingMappingOf, sameFirst]; exact foundFirst) rfl]
      exact addedA
    · have foundSecond : (generateReplicationEventToOutbox env Faults.none second loadedHandler outFirst.db).db.bindingMappingOf
          second = some { row with mappings := mappingsSecond } := by
        rw [Db.bindingMappingOf, keptB, rowsB, sameSecond]
        exact find?_map_saved before.uuid { row with mappings := mappingsFirst } { row with mappings := mappingsSecond }
          rfl isRole _ foundFirst
      rw [loadedRelations_of_row env enabled total reproducible second orgId eventType _ migratedSecond foundSecond rfl]
      exact addedB
    · have removesFirst : eventA.relationsToRemove = current := Except.ok.inj (removedA.symm.trans loaded)
      have removesSecond : eventB.relationsToRemove = current := Except.ok.inj (removedB.symm.trans loaded)
      rw [Db.changesSince_of_append (loggedB.trans (by rw [logB, loggedA, logA, List.append_assoc]))]
      have replayed := replay_concat current.toFinset [eventA] eventB
        (fun e member => by rw [List.mem_singleton.1 member, removesFirst]) (by rw [removesSecond])
      simp only [emittedPayloads, List.cons_append, List.nil_append, List.filterMap_cons, List.filterMap_nil,
        OutboxChange.insertedPayload, payloadA, payloadB]
      rw [show [eventA, eventB] = [eventA] ++ [eventB] from rfl, replayed]
      ext relation
      simp only [publishedRelations, Finset.mem_union, Finset.mem_sdiff, List.mem_toFinset, List.flatMap_append,
        List.flatMap_cons, List.flatMap_nil, List.append_nil, List.mem_append]
      constructor
      · rintro (second | ⟨first | second, outside⟩)
        · exact .inl second
        · exact .inr ⟨first, outside⟩
        · exact .inl second
      · rintro (second | ⟨first, outside⟩)
        · exact .inl second
        · exact .inr ⟨.inl first, outside⟩

/-- A role with a `BindingMapping` and no permissions. One request grants it
`rbac:roles:read` and a racing one `rbac:roles:write`; both publish, and the store
keeps the read relation beside the write one that a handler loads afterwards. -/
theorem racingRequests_outcome_lost_grant :
    let env : Env String Unit String :=
      ⟨true, fun role _ _ => .ok (role.access.map (·.permission.permission), ()), .ok⟩
    let before : Role := ⟨⟨1⟩, false, none, []⟩
    let first : Role := { before with access := [⟨⟨"rbac", "roles", "read"⟩⟩] }
    let second : Role := { before with access := [⟨⟨"rbac", "roles", "write"⟩⟩] }
    let db : Db Unit String := ⟨[⟨0, ⟨1⟩, ()⟩], [], [], 1, fun _ absent => nomatch absent⟩
    let raced := racingRequests env "org" "update" before first second db
    replay ∅ (emittedPayloads (Db.changesSince db raced.2.db)) = {"rbac:roles:read", "rbac:roles:write"} ∧
      env.replicationEnabled = true ∧ env.Total ∧ env.Reproducible ∧ first.uuid = before.uuid ∧
      second.uuid = before.uuid ∧
      (loadedRelations env before "org" "update" db).mapM env.relationshipToJson = .ok [] ∧
      ∃ added, (loadedRelations env first "org" "update" raced.1.db).mapM env.relationshipToJson = .ok added ∧
        (db.bindingMappingOf before = none →
          raced.2.result = .error ⟨.database "duplicate key value violates unique constraint"⟩ ∧
          raced.2.db = raced.1.db ∧
          replay ([] : List String).toFinset (emittedPayloads (Db.changesSince db raced.2.db)) = added.toFinset) ∧
        (db.bindingMappingOf before ≠ none →
          ∃ latest, (loadedRelations env second "org" "update" raced.2.db).mapM env.relationshipToJson =
              .ok latest ∧
            replay ([] : List String).toFinset (emittedPayloads (Db.changesSince db raced.2.db)) =
              latest.toFinset ∪ (added.toFinset \ ([] : List String).toFinset)) := by
  intro env before first second db raced
  have total : env.Total := ⟨fun _ _ _ => ⟨_, _, rfl⟩, fun relation => ⟨relation, rfl⟩⟩
  have reproducible : env.Reproducible := fun _ _ _ _ _ migrated _ _ => migrated
  exact ⟨by decide, rfl, total, reproducible, rfl, rfl, rfl,
    racingRequests_outcome env rfl total reproducible "org" "update" before first second rfl rfl db [] rfl⟩

end RelationApiDualWriteHandler

end InsightsRbac.DualWrite
