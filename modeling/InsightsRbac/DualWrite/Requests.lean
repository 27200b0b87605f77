import InsightsRbac.DualWrite.Replication

/-!
Contract: how the role API uses the handler. Each request builds a new
`RelationApiDualWriteHandler` for the role's state before the change, loads the
current relations, and generates the event for the state after it. Over any
number of such requests the relation store downstream of the outbox holds exactly
the relations a new handler would load for the latest state.

Owns: that result (`requests_replay`) and the one-request law it is built from, under
three premises about what this file does not model: replication is enabled,
`migrate_role` and `relationship_to_json` never raise, and `migrate_role` run again
with the binding mapping it produced returns the same relations. The last is
what storing the `BindingMapping` is for.

Does not own: database faults (every operation of a request succeeds here), or
requests that reuse one handler, which `Replication` covers.
-/

namespace InsightsRbac.DualWrite

open InsightsRbac.MigrationTool InsightsRbac.Python

variable {Relationship Mappings Json : Type}

/-! ## What the requests assume -/

/-- `migrate_role` and `relationship_to_json` never raise. -/
def Env.Total (env : Env Relationship Mappings Json) : Prop :=
  (∀ role current orgId, ∃ relations mappings, env.migrateRole role current orgId = .ok (relations, mappings)) ∧
    ∀ relation, ∃ json, env.relationshipToJson relation = .ok json

/-- `migrate_role`, run again on a role with the mappings it returned, returns the
same relations and mappings. -/
def Env.Reproducible (env : Env Relationship Mappings Json) : Prop :=
  ∀ role current orgId relations mappings, env.migrateRole role current orgId = .ok (relations, mappings) →
    ∀ row : BindingMapping Mappings, row.mappings = mappings →
      env.migrateRole role (some row) orgId = .ok (relations, mappings)

/-! ## One request -/

namespace RelationApiDualWriteHandler

variable (env : Env Relationship Mappings Json)

/-- The first row of a role, after `save(force_update=True)` wrote `saved` under the
key of that row, is `saved`. -/
theorem find?_map_saved (uuid : Uuid) (row saved : BindingMapping Mappings) (same : saved.role = row.role)
    (isRole : row.role = uuid) :
    ∀ rows : List (BindingMapping Mappings), rows.find? (·.role = uuid) = some row →
      (rows.map fun r => if r.id = row.id then saved else r).find? (·.role = uuid) = some saved
  | [], found => nomatch found
  | r :: rest, found => by
      rw [List.find?_cons] at found
      rw [List.map_cons, List.find?_cons]
      by_cases first : r.role = uuid
      · simp only [first, decide_True] at found
        cases found
        simp [same, isRole]
      · simp only [first, decide_False] at found
        by_cases replaced : r.id = row.id
        · simp [replaced, same, isRole]
        · simp only [replaced, if_false, first, decide_False]
          exact find?_map_saved uuid row saved same isRole rest found

/-- Without database faults, the mapping write of a handler that loaded the row of
`before` succeeds for a role `after` of the same UUID, leaves the outbox alone, and
leaves a row of `after` holding the new mappings first. -/
theorem persistMapping_of_loaded (before after : Role) (sameRole : after.uuid = before.uuid)
    (mappings : Mappings) (db : Db Mappings Json) :
    ∃ dbW, (persistMapping Faults.none (db.bindingMappingOf before) after mappings db).2 = .ok dbW ∧
      dbW.outbox = db.outbox ∧ dbW.outboxLog = db.outboxLog ∧
      ∃ row, dbW.bindingMappingOf after = some row ∧ row.mappings = mappings := by
  cases found : db.bindingMappingOf before with
  | none =>
    have absent : db.bindingMappings.any (·.role = after.uuid) = false := by
      rw [List.any_eq_false]
      intro r member same
      exact (List.find?_eq_none.1 found) r member (by simpa [sameRole] using same)
    obtain ⟨dbC, created, rows, outbox, log⟩ := Db.createBindingMapping_of_absent mappings absent
    refine ⟨dbC, by rw [persistMapping, created], outbox, log, ⟨db.nextId, after.uuid, mappings⟩, ?_, rfl⟩
    rw [Db.bindingMappingOf, rows, List.find?_append,
      List.find?_eq_none.2 fun r member => by simpa using List.any_eq_false.1 absent r member]
    simp
  | some row =>
    have isRole : row.role = before.uuid := by simpa using List.find?_some found
    have present : db.bindingMappings.any (·.id = ({ row with mappings := mappings } : BindingMapping Mappings).id) :=
      List.any_eq_true.2 ⟨row, List.mem_of_find?_eq_some found, by simp⟩
    obtain ⟨dbS, saved, rows, outbox, log⟩ := Db.saveBindingMapping_of_present present
    refine ⟨dbS, by rw [persistMapping]; exact saved, outbox, log, { row with mappings := mappings }, ?_, rfl⟩
    rw [Db.bindingMappingOf, rows, sameRole]
    exact find?_map_saved before.uuid row { row with mappings := mappings } rfl isRole _ found

theorem load_of_total (enabled : env.replicationEnabled = true) (total : env.Total) (role : Role)
    (orgId eventType : String) (db : Db Mappings Json) :
    ∃ current, (loadRelationsFromCurrentStateOfRole env Faults.none (init role orgId eventType) db).handler =
        { (init role orgId eventType : RelationApiDualWriteHandler Relationship Mappings) with
          bindingMapping := db.bindingMappingOf role, currentRoleRelations := current } ∧
      (∀ row, db.bindingMappingOf role = some row →
        ∃ mappings, env.migrateRole role (some row) orgId = .ok (current, mappings)) ∧
      (db.bindingMappingOf role = none → current = []) := by
  cases found : db.bindingMappingOf role with
  | none =>
    refine ⟨[], ?_, fun _ absent => (nomatch absent), fun _ => rfl⟩
    simp [loadRelationsFromCurrentStateOfRole, enabled, init, found, Faults.none]
  | some row =>
    obtain ⟨relations, mappings, migrated⟩ := total.1 role (some row) orgId
    refine ⟨relations, ?_, fun r same => ⟨mappings, Option.some.inj same ▸ migrated⟩, fun absent => (nomatch absent)⟩
    simp [loadRelationsFromCurrentStateOfRole, enabled, init, found, Faults.none, migrated]

/-- With `relationship_to_json` total and no database fault, saving publishes the
handler's event: its row is inserted and deleted, and the binding mappings stay. -/
theorem saveReplicationEventToOutbox_of_total (enabled : env.replicationEnabled = true) (total : env.Total)
    (h : RelationApiDualWriteHandler Relationship Mappings) (db : Db Mappings Json) :
    ∃ event, h.roleRelations.mapM env.relationshipToJson = .ok event.relationsToAdd ∧
      h.currentRoleRelations.mapM env.relationshipToJson = .ok event.relationsToRemove ∧
      (saveReplicationEventToOutbox env Faults.none h db).db.bindingMappings = db.bindingMappings ∧
      (saveReplicationEventToOutbox env Faults.none h db).db.outboxLog =
        db.outboxLog ++ [.inserted (outboxRow h event db), .deleted (outboxRow h event db)] := by
  obtain ⟨adds, added⟩ := exists_mapM_eq_ok total.2 h.roleRelations
  obtain ⟨removes, removed⟩ := exists_mapM_eq_ok total.2 h.currentRoleRelations
  have built : buildReplicationEvent env h = .ok ⟨adds, removes⟩ :=
    (buildReplicationEvent_eq_ok env).2 ⟨added, removed⟩
  refine ⟨⟨adds, removes⟩, added, removed, ?_⟩
  simp [saveReplicationEventToOutbox, enabled, built, saveReplicationEvent, Db.createOutbox, Db.deleteOutbox,
    Faults.none, outboxRow]

/-- The relations a new handler for `role` holds as current after loading. -/
def loadedRelations (role : Role) (orgId eventType : String) (db : Db Mappings Json) : List Relationship :=
  (loadRelationsFromCurrentStateOfRole env Faults.none (init role orgId eventType) db).handler.currentRoleRelations

/-- One request of the role API: a new handler built for the role's state `before`
loads, then generates for the state `after`, and no database operation fails. -/
def request (orgId eventType : String) (before after : Role) (db : Db Mappings Json) : Db Mappings Json :=
  (loadAndRun env Faults.none before orgId eventType [.generate after Faults.none] db).2

/-- A request publishes one event: it removes what the handler loaded for `before`
and adds what a new handler loads for `after` once the request is done. -/
theorem request_event (enabled : env.replicationEnabled = true) (total : env.Total)
    (reproducible : env.Reproducible) (orgId eventType : String) (before after : Role)
    (sameRole : after.uuid = before.uuid) (db : Db Mappings Json) :
    ∃ row, (request env orgId eventType before after db).outboxLog = db.outboxLog ++ [.inserted row, .deleted row] ∧
      (loadedRelations env before orgId eventType db).mapM env.relationshipToJson = .ok row.payload.relationsToRemove ∧
      (loadedRelations env after orgId eventType (request env orgId eventType before after db)).mapM
        env.relationshipToJson = .ok row.payload.relationsToAdd := by
  obtain ⟨current, loaded, -, -⟩ := load_of_total env enabled total before orgId eventType db
  obtain ⟨latest, mappings, migrated⟩ := total.1 after (db.bindingMappingOf before) orgId
  obtain ⟨dbW, written, -, logW, row, rowOf, rowMappings⟩ := persistMapping_of_loaded before after sameRole mappings db
  let generated : RelationApiDualWriteHandler Relationship Mappings :=
    ⟨latest, current, after, (persistMapping Faults.none (db.bindingMappingOf before) after mappings db).1,
      orgId, eventType⟩
  obtain ⟨event, added, removed, mappingsKept, logged⟩ :=
    saveReplicationEventToOutbox_of_total env enabled total generated dbW
  have requested : request env orgId eventType before after db =
      (saveReplicationEventToOutbox env Faults.none generated dbW).db := by
    simp only [request, loadAndRun, List.foldl_cons, List.foldl_nil, step, loadRelationsFromCurrentStateOfRole_db, loaded]
    simp [generateReplicationEventToOutbox, generateRelationsAndMappingsForRole, enabled, init, migrated, written,
      generated]
  refine ⟨outboxRow generated event dbW, by rw [requested, logged, logW], ?_, ?_⟩
  · rw [loadedRelations, loaded]
    exact removed
  · obtain ⟨current', loadedAfter, withRow, -⟩ :=
      load_of_total env enabled total after orgId eventType (request env orgId eventType before after db)
    have rowAfter : (request env orgId eventType before after db).bindingMappingOf after = some row := by
      rw [requested, Db.bindingMappingOf, mappingsKept]
      exact rowOf
    obtain ⟨_, again⟩ := withRow row rowAfter
    rw [reproducible after _ orgId latest mappings migrated row rowMappings, Except.ok.injEq, Prod.mk.injEq] at again
    rw [loadedRelations, loadedAfter]
    dsimp only
    rw [← again.1]
    exact added

/-! ## Any number of requests -/

/-- Requests for the role's successive states, each from the database the previous
one left. -/
def requests (orgId eventType : String) : Role → List Role → Db Mappings Json → Db Mappings Json
  | _, [], db => db
  | before, after :: later, db => requests orgId eventType after later (request env orgId eventType before after db)

theorem requests_outboxLog (enabled : env.replicationEnabled = true) (total : env.Total)
    (reproducible : env.Reproducible) (orgId eventType : String) :
    ∀ (later : List Role) (before : Role) (db : Db Mappings Json), (∀ r ∈ later, r.uuid = before.uuid) →
      ∃ changes, (requests env orgId eventType before later db).outboxLog = db.outboxLog ++ changes
  | [], _, _, _ => ⟨[], by simp [requests]⟩
  | after :: later, before, db, sameRole => by
      have same := sameRole after (List.mem_cons_self _ _)
      obtain ⟨row, logged, -, -⟩ := request_event env enabled total reproducible orgId eventType before after same db
      obtain ⟨changes, grown⟩ := requests_outboxLog enabled total reproducible orgId eventType later after
        (request env orgId eventType before after db)
        fun r member => (sameRole r (List.mem_cons_of_mem _ member)).trans same.symm
      exact ⟨_, by rw [requests, grown, logged, List.append_assoc]⟩

/-- With one handler per request, the store downstream tracks the role: from the
serialisation of what a handler loads for the first state, replaying the events of
any number of requests leaves exactly that of what a handler loads for the latest. -/
theorem requests_replay [DecidableEq Json] (enabled : env.replicationEnabled = true) (total : env.Total)
    (reproducible : env.Reproducible) (orgId eventType : String) :
    ∀ (later : List Role) (before : Role) (db : Db Mappings Json) (current : List Json),
      (∀ r ∈ later, r.uuid = before.uuid) →
      (loadedRelations env before orgId eventType db).mapM env.relationshipToJson = .ok current →
      ∃ latest, (loadedRelations env (later.getLastD before) orgId eventType
          (requests env orgId eventType before later db)).mapM env.relationshipToJson = .ok latest ∧
        replay current.toFinset
          (emittedPayloads (Db.changesSince db (requests env orgId eventType before later db))) = latest.toFinset
  | [], before, db, current, _, loaded => ⟨current, loaded, by simp [requests, Db.changesSince, emittedPayloads, replay]⟩
  | after :: later, before, db, current, sameRole, loaded => by
      have same := sameRole after (List.mem_cons_self _ _)
      have sameLater : ∀ r ∈ later, r.uuid = after.uuid :=
        fun r member => (sameRole r (List.mem_cons_of_mem _ member)).trans same.symm
      obtain ⟨row, logged, removes, adds⟩ := request_event env enabled total reproducible orgId eventType before after same db
      obtain ⟨latest, loadedLatest, replayed⟩ :=
        requests_replay enabled total reproducible orgId eventType later after _ _ sameLater adds
      obtain ⟨changes, grown⟩ := requests_outboxLog env enabled total reproducible orgId eventType later after
        (request env orgId eventType before after db) sameLater
      have removed : row.payload.relationsToRemove = current := Except.ok.inj (removes.symm.trans loaded)
      have applied : applyEvent current.toFinset row.payload = row.payload.relationsToAdd.toFinset := by
        rw [applyEvent, removed, Finset.sdiff_self, Finset.empty_union]
      refine ⟨latest, by rw [List.getLastD_cons, requests]; exact loadedLatest, ?_⟩
      rw [requests, Db.changesSince_of_append (by rw [grown, logged, List.append_assoc]), ← replayed,
        Db.changesSince_of_append grown]
      simp only [emittedPayloads, List.cons_append, List.filterMap_cons, OutboxChange.insertedPayload, replay,
        List.foldl_cons, applied, List.nil_append]

/-- The run of `loadAndRun_revoked_relation_survives`, made the way the API makes it:
a role is created without permissions, granted `rbac:roles:read` in one request
and revoked it in the next, each with its own handler. The store ends empty. -/
theorem requests_replay_grant_then_revoke :
    let env : Env String Unit String :=
      ⟨true, fun role _ _ => .ok (role.access.map (·.permission.permission), ()), .ok⟩
    let created : Role := ⟨⟨1⟩, false, none, []⟩
    let granted : Role := { created with access := [⟨⟨"rbac", "roles", "read"⟩⟩] }
    let db : Db Unit String := Db.empty
    let after := requests env "org" "update" created [granted, created] db
    env.replicationEnabled = true ∧ env.Total ∧ env.Reproducible ∧
      (∀ r ∈ [granted, created], r.uuid = created.uuid) ∧
      (loadedRelations env created "org" "update" db).mapM env.relationshipToJson = .ok [] ∧
      replay ∅ (emittedPayloads (Db.changesSince db after)) = ∅ ∧
      ∃ latest, (loadedRelations env ([granted, created].getLastD created) "org" "update" after).mapM
          env.relationshipToJson = .ok latest ∧
        replay ([] : List String).toFinset (emittedPayloads (Db.changesSince db after)) = latest.toFinset := by
  intro env created granted db after
  have total : env.Total := ⟨fun _ _ _ => ⟨_, _, rfl⟩, fun relation => ⟨relation, rfl⟩⟩
  have reproducible : env.Reproducible := fun _ _ _ _ _ migrated _ _ => migrated
  have sameRole : ∀ r ∈ [granted, created], r.uuid = created.uuid := by decide
  exact ⟨rfl, total, reproducible, sameRole, rfl, by decide,
    requests_replay env rfl total reproducible "org" "update" [granted, created] created db [] sameRole rfl⟩

end RelationApiDualWriteHandler

end InsightsRbac.DualWrite
