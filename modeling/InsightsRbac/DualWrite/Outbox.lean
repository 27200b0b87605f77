import InsightsRbac.DualWrite.Handler

/-!
Contract: what one `generate_replication_event_to_outbox(role)` call writes. The
event it publishes adds the serialisation of every relation `migrate_role` yields
for the role now and removes that of every relation the handler holds as current,
with no difference taken between the two lists; and the call ends in one of five
states of the database, one for each place a failure can stop it.

Owns: the payload law and the end states, from every handler and database.

Does not own: a transaction around the call. The handler opens none, so the
mapping write and the outbox write are separate effects; a caller's transaction
is outside this file.
-/

namespace InsightsRbac.DualWrite

open InsightsRbac.MigrationTool

variable {Relationship Mappings Json : Type}

namespace RelationApiDualWriteHandler

variable (env : Env Relationship Mappings Json) (faults : Faults)

/-! ## The event's payload -/

theorem outboxLog_ne_append_inserted {db : Db Mappings Json} {row : OutboxRow Json}
    {later : List (OutboxChange Json)} : db.outboxLog ≠ db.outboxLog ++ .inserted row :: later := by
  simp

/-- The row an end of `save_replication_event_to_outbox` inserted, if any, carries
the serialisation of the handler's relations to add and to remove. -/
theorem SaveEnd.inserted_payload {h : RelationApiDualWriteHandler Relationship Mappings}
    {db db' : Db Mappings Json} {result : Except DualWriteException (Option (ReplicationEvent Json))}
    (saved : SaveEnd env h db result db') {row : OutboxRow Json} {later : List (OutboxChange Json)}
    (emitted : db'.outboxLog = db.outboxLog ++ .inserted row :: later) :
    h.roleRelations.mapM env.relationshipToJson = .ok row.payload.relationsToAdd ∧
      h.currentRoleRelations.mapM env.relationshipToJson = .ok row.payload.relationsToRemove := by
  cases saved with
  | disabled => exact absurd emitted outboxLog_ne_append_inserted
  | failed _ _ _ _ log => exact absurd (log ▸ emitted) outboxLog_ne_append_inserted
  | leftBehind event _ _ built _ _ log | published event _ built _ _ log =>
    rw [log, List.append_cancel_left_eq, List.cons.injEq, OutboxChange.inserted.injEq] at emitted
    rw [← emitted.1]
    exact (buildReplicationEvent_eq_ok env).1 built

/-- A row that `generate_replication_event_to_outbox(role)` inserts adds every
relation `migrate_role` yields for the role and removes every relation the
handler held as current, each serialised: the lists are not differences, and a
relation kept by the role is in both. -/
theorem generateReplicationEventToOutbox_payload (role : Role)
    (h : RelationApiDualWriteHandler Relationship Mappings) (db : Db Mappings Json)
    (row : OutboxRow Json) (later : List (OutboxChange Json))
    (emitted : (generateReplicationEventToOutbox env faults role h db).db.outboxLog =
      db.outboxLog ++ .inserted row :: later) :
    ∃ relations mappings, env.migrateRole role h.bindingMapping h.orgId = .ok (relations, mappings) ∧
      relations.mapM env.relationshipToJson = .ok row.payload.relationsToAdd ∧
      h.currentRoleRelations.mapM env.relationshipToJson = .ok row.payload.relationsToRemove := by
  obtain ⟨current, ⟨-, -, unchanged⟩ | ⟨-, -, unchanged⟩ |
      ⟨relations, mappings, dbW, -, migrated, written, generated, saved⟩⟩ :=
    generateReplicationEventToOutbox_cases env faults role h db
  · exact absurd (unchanged ▸ emitted) outboxLog_ne_append_inserted
  · exact absurd (unchanged ▸ emitted) outboxLog_ne_append_inserted
  rw [← (persistMapping_outbox faults written).2] at emitted
  obtain ⟨added, removed⟩ := saved.inserted_payload env emitted
  exact ⟨relations, mappings, migrated, generated ▸ added, current ▸ removed⟩

/-- A role whose one relation `r` is kept: the event the generate after loading
inserts adds and removes `r`. -/
theorem generateReplicationEventToOutbox_payload_kept_relation :
    let env : Env String Unit String := ⟨true, fun _ _ _ => .ok (["r"], ()), .ok⟩
    let role : Role := ⟨⟨1⟩, false, none, []⟩
    let db : Db Unit String := ⟨[⟨0, ⟨1⟩, ()⟩], [], [], 1, fun _ absent => nomatch absent⟩
    let loaded := loadRelationsFromCurrentStateOfRole env Faults.none (init role "org" "update") db
    let row : OutboxRow String := ⟨1, "Role", ⟨1⟩, "update", ⟨["r"], ["r"]⟩⟩
    (generateReplicationEventToOutbox env Faults.none role loaded.handler loaded.db).db.outboxLog =
        loaded.db.outboxLog ++ [.inserted row, .deleted row] ∧
      ∃ relations mappings,
        env.migrateRole role loaded.handler.bindingMapping loaded.handler.orgId = .ok (relations, mappings) ∧
        relations.mapM env.relationshipToJson = .ok row.payload.relationsToAdd ∧
        loaded.handler.currentRoleRelations.mapM env.relationshipToJson = .ok row.payload.relationsToRemove := by
  intro env role db loaded row
  exact ⟨rfl, generateReplicationEventToOutbox_payload env Faults.none role loaded.handler loaded.db row
    [.deleted row] rfl⟩

/-- A role whose relations did not change between load and generate: the event
adds and removes the same relation. -/
theorem generateReplicationEventToOutbox_unchanged_relations :
    let env : Env String Unit String := ⟨true, fun _ _ _ => .ok (["r"], ()), .ok⟩
    let role : Role := ⟨⟨1⟩, false, none, []⟩
    let db : Db Unit String := ⟨[⟨0, ⟨1⟩, ()⟩], [], [], 1, fun _ absent => nomatch absent⟩
    let loaded := loadRelationsFromCurrentStateOfRole env Faults.none (init role "org" "update") db
    let out := generateReplicationEventToOutbox env Faults.none role loaded.handler loaded.db
    loaded.handler.currentRoleRelations = ["r"] ∧ out.handler.roleRelations = ["r"] ∧
      out.result = .ok (some ⟨["r"], ["r"]⟩) :=
  ⟨rfl, rfl, rfl⟩

/-! ## End states of one call -/

/-- The mapping write of `_generate_relations_and_mappings_for_role(role)` took
effect from `db` and left the binding mappings `bindingMappings`. -/
def MappingWritten (role : Role) (h : RelationApiDualWriteHandler Relationship Mappings)
    (db : Db Mappings Json) (bindingMappings : List (BindingMapping Mappings)) : Prop :=
  ∃ relations mappings dbW, env.migrateRole role h.bindingMapping h.orgId = .ok (relations, mappings) ∧
    (persistMapping faults h.bindingMapping role mappings db).2 = .ok dbW ∧
    dbW.bindingMappings = bindingMappings

/-- Every way `generate_replication_event_to_outbox(role)` can end, as its result
and the database it leaves. -/
inductive GenerateEnd (role : Role) (h : RelationApiDualWriteHandler Relationship Mappings)
    (db : Db Mappings Json) :
    Except DualWriteException (Option (ReplicationEvent Json)) → Db Mappings Json → Prop
  /-- Replication is disabled: `None`, and nothing is written. -/
  | disabled (off : env.replicationEnabled = false) : GenerateEnd role h db (.ok none) db
  /-- The mapping is written and the event's row inserted and deleted. -/
  | completed (event : ReplicationEvent Json) (db' : Db Mappings Json) (row : OutboxRow Json)
      (written : MappingWritten env faults role h db db'.bindingMappings) (payload : row.payload = event)
      (outbox : db'.outbox = db.outbox)
      (log : db'.outboxLog = db.outboxLog ++ [.inserted row, .deleted row]) :
      GenerateEnd role h db (.ok (some event)) db'
  /-- `migrate_role` or the mapping write raised: nothing is written. -/
  | untouched (e : DualWriteException) : GenerateEnd role h db (.error e) db
  /-- `relationship_to_json` or the outbox insert raised after the mapping write. -/
  | mappingOnly (e : DualWriteException) (db' : Db Mappings Json)
      (written : MappingWritten env faults role h db db'.bindingMappings)
      (outbox : db'.outbox = db.outbox) (log : db'.outboxLog = db.outboxLog) :
      GenerateEnd role h db (.error e) db'
  /-- The outbox delete raised: the mapping is written and the event's row stays. -/
  | rowLeftBehind (e : DualWriteException) (db' : Db Mappings Json) (row : OutboxRow Json)
      (written : MappingWritten env faults role h db db'.bindingMappings)
      (outbox : db'.outbox = db.outbox ++ [row]) (log : db'.outboxLog = db.outboxLog ++ [.inserted row]) :
      GenerateEnd role h db (.error e) db'

/-- `generate_replication_event_to_outbox(role)` ends in one of the states of
`GenerateEnd`, whatever fails: it completes, or raises with nothing written, with
only the mapping written, or with the mapping written and the event's row left in
the outbox. -/
theorem generateReplicationEventToOutbox_ends (role : Role)
    (h : RelationApiDualWriteHandler Relationship Mappings) (db : Db Mappings Json) :
    GenerateEnd env faults role h db (generateReplicationEventToOutbox env faults role h db).result
      (generateReplicationEventToOutbox env faults role h db).db := by
  obtain ⟨-, ⟨off, result, unchanged⟩ | ⟨e, result, unchanged⟩ |
      ⟨relations, mappings, dbW, enabled, migrated, written, -, saved⟩⟩ :=
    generateReplicationEventToOutbox_cases env faults role h db
  · rw [result, unchanged]
    exact .disabled off
  · rw [result, unchanged]
    exact .untouched e
  have mapped : MappingWritten env faults role h db dbW.bindingMappings :=
    ⟨relations, mappings, dbW, migrated, written, rfl⟩
  obtain ⟨outboxW, logW⟩ := persistMapping_outbox faults written
  generalize (generateReplicationEventToOutbox env faults role h db).result = result at saved ⊢
  generalize (generateReplicationEventToOutbox env faults role h db).db = db' at saved ⊢
  cases saved with
  | disabled off => exact absurd enabled (by simp [off])
  | failed e _ mappings outbox log =>
    exact .mappingOnly e _ (mappings ▸ mapped) (outbox.trans outboxW) (log.trans logW)
  | leftBehind event e _ _ mappings outbox log =>
    exact .rowLeftBehind e _ _ (mappings ▸ mapped) (outboxW ▸ outbox) (logW ▸ log)
  | published event _ _ mappings outbox log =>
    exact .completed event _ _ (mappings ▸ mapped) rfl (outbox.trans outboxW) (logW ▸ log)

/-- `relationship_to_json` raises after a first mapping write: the call raises
with the role's `BindingMapping` created and no event in the outbox log. -/
theorem generateReplicationEventToOutbox_mapping_without_event :
    let env : Env String Unit String := ⟨true, fun _ _ _ => .ok (["r"], ()), fun _ => .error "boom"⟩
    let role : Role := ⟨⟨1⟩, false, none, []⟩
    let out := generateReplicationEventToOutbox env Faults.none role (init role "org" "update") Db.empty
    out.result = .error ⟨.relationshipToJson "boom"⟩ ∧
      out.db.bindingMappings = [⟨0, ⟨1⟩, ()⟩] ∧ out.db.outboxLog = [] :=
  ⟨rfl, rfl, rfl⟩

end RelationApiDualWriteHandler

end InsightsRbac.DualWrite
