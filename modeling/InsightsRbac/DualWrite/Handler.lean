import InsightsRbac.MigrationTool.SystemRoles

/-!
Contract: `RelationApiDualWriteHandler` of
`management/role/relation_api_dual_write_handler.py`, method by method, over an
explicit database: the `BindingMapping` rows, the outbox table, and the outbox's
change log, which is what the change-data-capture reader sees.

Owns: each method with its `replication_enabled` guard, its exception path
(`DualWriteException` wraps whatever a step raised, and undoes nothing: the
handler's attributes and the rows a call already wrote stay as the step left
them), and the database effects of `BindingMapping.objects.create`, `save(force_update=True)`,
`Outbox.objects.create` and `delete`.

Does not own: `migrate_role` and `relationship_to_json` (`migration_tool`, not in
src), which are parameters of the environment and may raise; the database's own
faults, which a `Faults` record injects per call; logging.
-/

namespace InsightsRbac.DualWrite

open InsightsRbac.MigrationTool InsightsRbac.Python

/-- What raised inside a handler call. -/
inductive Failure where
  | migrateRole (msg : String)
  | relationshipToJson (msg : String)
  | database (msg : String)
deriving DecidableEq, Repr

/-- `DualWriteException(e)`. -/
structure DualWriteException where
  cause : Failure
deriving DecidableEq, Repr

/-- A `BindingMapping` row: its primary key, its role and its mappings. -/
structure BindingMapping (Mappings : Type) where
  id : Nat
  role : Uuid
  mappings : Mappings
deriving DecidableEq, Repr

/-- The payload `{"relations_to_add": [...], "relations_to_remove": [...]}`. -/
structure ReplicationEvent (Json : Type) where
  relationsToAdd : List Json
  relationsToRemove : List Json
deriving DecidableEq, Repr

/-- An `Outbox` row. -/
structure OutboxRow (Json : Type) where
  id : Nat
  aggregatetype : String
  aggregateid : Uuid
  eventType : String
  payload : ReplicationEvent Json
deriving DecidableEq, Repr

/-- One change of the outbox table in the database's log. -/
inductive OutboxChange (Json : Type) where
  | inserted (row : OutboxRow Json)
  | deleted (row : OutboxRow Json)
deriving DecidableEq, Repr

/-- The database as the handler touches it. Keys come from one sequence, so every
outbox row's key lies below the next one. -/
structure Db (Mappings Json : Type) where
  bindingMappings : List (BindingMapping Mappings)
  outbox : List (OutboxRow Json)
  outboxLog : List (OutboxChange Json)
  /-- The next primary key the database assigns. -/
  nextId : Nat
  outbox_ids_lt : ∀ row ∈ outbox, row.id < nextId

/-- Which database operations of one call fail. -/
structure Faults where
  readMapping : Bool
  writeMapping : Bool
  createOutbox : Bool
  deleteOutbox : Bool
deriving DecidableEq, Repr

def Faults.none : Faults := ⟨false, false, false, false⟩

/-- What the handler depends on outside this file: the feature flag
`REPLICATION_TO_RELATION_ENABLED`, `migrate_role(role, write_relationships=False,
default_workspace, current_mapping)` and `relationship_to_json`. -/
structure Env (Relationship Mappings Json : Type) where
  replicationEnabled : Bool
  migrateRole : Role → Option (BindingMapping Mappings) → String →
    Except String (List Relationship × Mappings)
  relationshipToJson : Relationship → Except String Json

/-- The handler's attributes. -/
structure RelationApiDualWriteHandler (Relationship Mappings : Type) where
  roleRelations : List Relationship
  currentRoleRelations : List Relationship
  role : Role
  bindingMapping : Option (BindingMapping Mappings)
  orgId : String
  eventType : String

variable {Relationship Mappings Json : Type}

/-- A call's result, with the handler and the database as the call left them. -/
structure Outcome (Relationship Mappings Json α : Type) where
  result : Except DualWriteException α
  handler : RelationApiDualWriteHandler Relationship Mappings
  db : Db Mappings Json

/-! ## Database operations -/

namespace Db

/-- A database with no rows. -/
def empty : Db Mappings Json := ⟨[], [], [], 0, fun _ absent => nomatch absent⟩

/-- `role.binding_mapping`: the row of the role, `none` for `DoesNotExist`. -/
def bindingMappingOf (db : Db Mappings Json) (role : Role) : Option (BindingMapping Mappings) :=
  db.bindingMappings.find? (·.role = role.uuid)

/-- `BindingMapping.objects.create(role=role, mappings=mappings)`; the role is
unique, so a second row for it violates the constraint. -/
def createBindingMapping (faults : Faults) (db : Db Mappings Json) (role : Role)
    (mappings : Mappings) : Except Failure (BindingMapping Mappings × Db Mappings Json) :=
  if faults.writeMapping then .error (.database "database error")
  else if db.bindingMappings.any (·.role = role.uuid) then
    .error (.database "duplicate key value violates unique constraint")
  else
    let row : BindingMapping Mappings := ⟨db.nextId, role.uuid, mappings⟩
    .ok (row, { db with
      bindingMappings := db.bindingMappings ++ [row]
      nextId := db.nextId + 1
      outbox_ids_lt := fun r member => Nat.lt_succ_of_lt (db.outbox_ids_lt r member) })

/-- `binding_mapping.save(force_update=True)`: overwrite the row with its key. -/
def saveBindingMapping (faults : Faults) (db : Db Mappings Json) (row : BindingMapping Mappings) :
    Except Failure (Db Mappings Json) :=
  if faults.writeMapping then .error (.database "database error")
  else if db.bindingMappings.any (·.id = row.id) then
    .ok { db with bindingMappings := db.bindingMappings.map fun r => if r.id = row.id then row else r }
  else .error (.database "Forced update did not affect any rows.")

/-- `Outbox.objects.create(...)`. -/
def createOutbox (faults : Faults) (db : Db Mappings Json) (aggregateid : Uuid) (eventType : String)
    (payload : ReplicationEvent Json) : Except Failure (OutboxRow Json × Db Mappings Json) :=
  if faults.createOutbox then .error (.database "database error")
  else
    let row : OutboxRow Json := ⟨db.nextId, "Role", aggregateid, eventType, payload⟩
    .ok (row, { db with
      outbox := db.outbox ++ [row]
      outboxLog := db.outboxLog ++ [.inserted row]
      nextId := db.nextId + 1
      outbox_ids_lt := fun r member => by
        rcases List.mem_append.1 member with old | fresh
        · exact Nat.lt_succ_of_lt (db.outbox_ids_lt r old)
        · rw [List.mem_singleton.1 fresh]
          exact Nat.lt_succ_self _ })

/-- `outbox_record.delete()`. -/
def deleteOutbox (faults : Faults) (db : Db Mappings Json) (row : OutboxRow Json) :
    Except Failure (Db Mappings Json) :=
  if faults.deleteOutbox then .error (.database "database error")
  else
    .ok { db with
      outbox := db.outbox.filter fun r => r.id ≠ row.id
      outboxLog := db.outboxLog ++ [.deleted row]
      outbox_ids_lt := fun r member => db.outbox_ids_lt r (List.mem_filter.1 member).1 }

/-- A row under the next key, appended to the outbox table and then deleted by its
key, leaves the table as it was: every key already in it lies below. -/
theorem filter_outbox_append_fresh (db : Db Mappings Json) (row : OutboxRow Json)
    (fresh : row.id = db.nextId) : (db.outbox ++ [row]).filter (fun r => r.id ≠ row.id) = db.outbox := by
  rw [List.filter_append, List.filter_eq_self.2 fun r member => by
    simpa [fresh] using Nat.ne_of_lt (db.outbox_ids_lt r member)]
  simp

/-- Inserting an outbox row and deleting it leaves the table as it was. -/
theorem deleteOutbox_createOutbox_outbox {faults : Faults} {db inserted cleared : Db Mappings Json}
    {aggregateid : Uuid} {eventType : String} {payload : ReplicationEvent Json} {row : OutboxRow Json}
    (created : db.createOutbox faults aggregateid eventType payload = .ok (row, inserted))
    (deleted : inserted.deleteOutbox faults row = .ok cleared) : cleared.outbox = db.outbox := by
  unfold createOutbox at created
  unfold deleteOutbox at deleted
  split at created
  · cases created
  split at deleted
  · cases deleted
  cases created
  cases deleted
  exact filter_outbox_append_fresh db _ rfl

theorem createBindingMapping_outbox {faults : Faults} {db db' : Db Mappings Json} {role : Role}
    {mappings : Mappings} {row : BindingMapping Mappings}
    (created : db.createBindingMapping faults role mappings = .ok (row, db')) :
    db'.outbox = db.outbox ∧ db'.outboxLog = db.outboxLog := by
  unfold createBindingMapping at created
  split at created
  · cases created
  split at created
  · cases created
  cases created
  exact ⟨rfl, rfl⟩

/-- With no fault injected, a role without a row gets one under the next key. -/
theorem createBindingMapping_of_absent {db : Db Mappings Json} {role : Role} (mappings : Mappings)
    (absent : db.bindingMappings.any (·.role = role.uuid) = false) :
    ∃ db', db.createBindingMapping Faults.none role mappings = .ok (⟨db.nextId, role.uuid, mappings⟩, db') ∧
      db'.bindingMappings = db.bindingMappings ++ [⟨db.nextId, role.uuid, mappings⟩] ∧
      db'.outbox = db.outbox ∧ db'.outboxLog = db.outboxLog := by
  unfold createBindingMapping
  rw [if_neg (by decide), if_neg (by simp [absent])]
  exact ⟨_, rfl, rfl, rfl, rfl⟩

theorem saveBindingMapping_outbox {faults : Faults} {db db' : Db Mappings Json}
    {row : BindingMapping Mappings} (saved : db.saveBindingMapping faults row = .ok db') :
    db'.outbox = db.outbox ∧ db'.outboxLog = db.outboxLog := by
  unfold saveBindingMapping at saved
  split at saved
  · cases saved
  split at saved
  · cases saved
    exact ⟨rfl, rfl⟩
  · cases saved

/-- With no fault injected, a row whose key is stored is overwritten. -/
theorem saveBindingMapping_of_present {db : Db Mappings Json} {row : BindingMapping Mappings}
    (present : db.bindingMappings.any (·.id = row.id) = true) :
    ∃ db', db.saveBindingMapping Faults.none row = .ok db' ∧
      db'.bindingMappings = db.bindingMappings.map (fun r => if r.id = row.id then row else r) ∧
      db'.outbox = db.outbox ∧ db'.outboxLog = db.outboxLog := by
  unfold saveBindingMapping
  rw [if_neg (by decide), if_pos present]
  exact ⟨_, rfl, rfl, rfl, rfl⟩

end Db

/-! ## The handler's methods -/

namespace RelationApiDualWriteHandler

variable (env : Env Relationship Mappings Json) (faults : Faults)

/-- `__init__(role, event_type)`, with `role.tenant.org_id` read as `orgId`. When
replication is disabled the constructor sets nothing; no method reads the
attributes then. -/
def init (role : Role) (orgId eventType : String) : RelationApiDualWriteHandler Relationship Mappings :=
  ⟨[], [], role, none, orgId, eventType⟩

/-- `get_current_role_relations`. -/
def getCurrentRoleRelations (h : RelationApiDualWriteHandler Relationship Mappings) :
    List Relationship :=
  h.currentRoleRelations

/-- `load_relations_from_current_state_of_role`. A missing `BindingMapping` is the
logged warning and leaves the current relations empty. -/
def loadRelationsFromCurrentStateOfRole (h : RelationApiDualWriteHandler Relationship Mappings)
    (db : Db Mappings Json) : Outcome Relationship Mappings Json Unit :=
  if !env.replicationEnabled then ⟨.ok (), h, db⟩
  else if faults.readMapping then ⟨.error ⟨.database "database error"⟩, h, db⟩
  else
    match db.bindingMappingOf h.role with
    | none => ⟨.ok (), h, db⟩
    | some bindingMapping =>
        let h := { h with bindingMapping := some bindingMapping }
        match env.migrateRole h.role h.bindingMapping h.orgId with
        | .error msg => ⟨.error ⟨.migrateRole msg⟩, h, db⟩
        | .ok (relations, _) => ⟨.ok (), { h with currentRoleRelations := relations }, db⟩

/-- The mapping write of `_generate_relations_and_mappings_for_role`: create the
row when the handler holds none, else set the mappings on the row it holds and
save it. Returns the handler's `binding_mapping` afterwards (set on the object
before `save`, so also when `save` raises) and the database write. -/
def persistMapping (bindingMapping : Option (BindingMapping Mappings)) (role : Role)
    (mappings : Mappings) (db : Db Mappings Json) :
    Option (BindingMapping Mappings) × Except Failure (Db Mappings Json) :=
  match bindingMapping with
  | none =>
      match db.createBindingMapping faults role mappings with
      | .error failure => (none, .error failure)
      | .ok (row, db) => (some row, .ok db)
  | some row =>
      let row := { row with mappings := mappings }
      (some row, db.saveBindingMapping faults row)

/-- `_generate_relations_and_mappings_for_role`. -/
def generateRelationsAndMappingsForRole (h : RelationApiDualWriteHandler Relationship Mappings)
    (db : Db Mappings Json) : Outcome Relationship Mappings Json (List Relationship) :=
  if !env.replicationEnabled then ⟨.ok [], h, db⟩
  else
    match env.migrateRole h.role h.bindingMapping h.orgId with
    | .error msg => ⟨.error ⟨.migrateRole msg⟩, h, db⟩
    | .ok (relations, mappings) =>
        let written := persistMapping faults h.bindingMapping h.role mappings db
        let h := { h with roleRelations := relations, bindingMapping := written.1 }
        match written.2 with
        | .error failure => ⟨.error ⟨failure⟩, h, db⟩
        | .ok db => ⟨.ok relations, h, db⟩

/-- `_build_replication_event`: every relation of `role_relations` to add, then
every relation of `current_role_relations` to remove. Its `replication_enabled`
guard repeats its only caller's. -/
def buildReplicationEvent (h : RelationApiDualWriteHandler Relationship Mappings) :
    Except String (ReplicationEvent Json) := do
  let relationsToAdd ← h.roleRelations.mapM env.relationshipToJson
  let relationsToRemove ← h.currentRoleRelations.mapM env.relationshipToJson
  pure ⟨relationsToAdd, relationsToRemove⟩

/-- `_save_replication_event`: insert the outbox row, then delete it. Its
`replication_enabled` guard repeats its only caller's. -/
def saveReplicationEvent (h : RelationApiDualWriteHandler Relationship Mappings)
    (event : ReplicationEvent Json) (db : Db Mappings Json) :
    Except Failure Unit × Db Mappings Json :=
  match db.createOutbox faults h.role.uuid h.eventType event with
  | .error failure => (.error failure, db)
  | .ok (row, db) =>
      match db.deleteOutbox faults row with
      | .error failure => (.error failure, db)
      | .ok db => (.ok (), db)

/-- `save_replication_event_to_outbox`; `none` is the `{}` it returns when
replication is disabled. -/
def saveReplicationEventToOutbox (h : RelationApiDualWriteHandler Relationship Mappings)
    (db : Db Mappings Json) : Outcome Relationship Mappings Json (Option (ReplicationEvent Json)) :=
  if !env.replicationEnabled then ⟨.ok none, h, db⟩
  else
    match buildReplicationEvent env h with
    | .error msg => ⟨.error ⟨.relationshipToJson msg⟩, h, db⟩
    | .ok event =>
        let saved := saveReplicationEvent faults h event db
        match saved.1 with
        | .error failure => ⟨.error ⟨failure⟩, h, saved.2⟩
        | .ok () => ⟨.ok (some event), h, saved.2⟩

/-- `generate_replication_event_to_outbox(role)`; `none` is the `None` it returns
when replication is disabled. -/
def generateReplicationEventToOutbox (role : Role) (h : RelationApiDualWriteHandler Relationship Mappings)
    (db : Db Mappings Json) : Outcome Relationship Mappings Json (Option (ReplicationEvent Json)) :=
  if !env.replicationEnabled then ⟨.ok none, h, db⟩
  else
    let generated := generateRelationsAndMappingsForRole env faults { h with role := role } db
    match generated.result with
    | .error e => ⟨.error e, generated.handler, generated.db⟩
    | .ok _ => saveReplicationEventToOutbox env faults generated.handler generated.db

/-! ## What each method can do

One lemma per method states every way it can end; the results about a call and
about a run cite these and never unfold a method. -/

/-- Loading reads the database and writes nothing. -/
theorem loadRelationsFromCurrentStateOfRole_db (h : RelationApiDualWriteHandler Relationship Mappings)
    (db : Db Mappings Json) : (loadRelationsFromCurrentStateOfRole env faults h db).db = db := by
  unfold loadRelationsFromCurrentStateOfRole
  split
  · rfl
  split
  · rfl
  split
  · rfl
  dsimp only
  split <;> rfl

theorem persistMapping_outbox {bindingMapping : Option (BindingMapping Mappings)} {role : Role}
    {mappings : Mappings} {db dbW : Db Mappings Json}
    (written : (persistMapping faults bindingMapping role mappings db).2 = .ok dbW) :
    dbW.outbox = db.outbox ∧ dbW.outboxLog = db.outboxLog := by
  unfold persistMapping at written
  split at written
  · split at written
    · cases written
    · next created => exact Except.ok.inj written ▸ Db.createBindingMapping_outbox created
  · exact Db.saveBindingMapping_outbox written

/-- `_generate_relations_and_mappings_for_role` returns `[]` when replication is
disabled, raises when `migrate_role` does, and otherwise sets `role_relations`
and `binding_mapping` before the mapping write, whose failure it raises. -/
theorem generateRelationsAndMappingsForRole_cases (h : RelationApiDualWriteHandler Relationship Mappings)
    (db : Db Mappings Json) :
    let out := generateRelationsAndMappingsForRole env faults h db
    (env.replicationEnabled = false ∧ out = ⟨.ok [], h, db⟩) ∨
    (∃ msg, env.replicationEnabled = true ∧ env.migrateRole h.role h.bindingMapping h.orgId = .error msg ∧
      out = ⟨.error ⟨.migrateRole msg⟩, h, db⟩) ∨
    (∃ relations mappings, env.replicationEnabled = true ∧
      env.migrateRole h.role h.bindingMapping h.orgId = .ok (relations, mappings) ∧
      let written := persistMapping faults h.bindingMapping h.role mappings db
      let h' := { h with roleRelations := relations, bindingMapping := written.1 }
      ((∃ failure, written.2 = .error failure ∧ out = ⟨.error ⟨failure⟩, h', db⟩) ∨
        (∃ dbW, written.2 = .ok dbW ∧ out = ⟨.ok relations, h', dbW⟩))) := by
  unfold generateRelationsAndMappingsForRole
  by_cases disabled : env.replicationEnabled = false
  · rw [if_pos (by simp [disabled])]
    exact .inl ⟨disabled, rfl⟩
  have enabled : env.replicationEnabled = true := by simpa using disabled
  rw [if_neg (by simp [enabled])]
  split
  · next msg migrated => exact .inr (.inl ⟨msg, enabled, migrated, rfl⟩)
  · next relations mappings migrated =>
    refine .inr (.inr ⟨relations, mappings, enabled, migrated, ?_⟩)
    dsimp only
    split
    · next failure written => exact .inl ⟨failure, written, rfl⟩
    · next dbW written => exact .inr ⟨dbW, written, rfl⟩

/-- The outbox row `_save_replication_event` writes into `db`. -/
def outboxRow (h : RelationApiDualWriteHandler Relationship Mappings) (event : ReplicationEvent Json)
    (db : Db Mappings Json) : OutboxRow Json :=
  ⟨db.nextId, "Role", h.role.uuid, h.eventType, event⟩

/-- `_save_replication_event` leaves the outbox as it was (the insert raised),
with the event's row in it (the delete raised), or as it was after inserting and
deleting the row. -/
theorem saveReplicationEvent_spec (h : RelationApiDualWriteHandler Relationship Mappings)
    (event : ReplicationEvent Json) (db : Db Mappings Json) :
    let saved := saveReplicationEvent faults h event db
    let row := outboxRow h event db
    saved.2.bindingMappings = db.bindingMappings ∧
      ((saved.1.isOk = false ∧ saved.2.outbox = db.outbox ∧ saved.2.outboxLog = db.outboxLog) ∨
        (saved.1.isOk = false ∧ saved.2.outbox = db.outbox ++ [row] ∧
          saved.2.outboxLog = db.outboxLog ++ [.inserted row]) ∨
        (saved.1 = .ok () ∧ saved.2.outbox = db.outbox ∧
          saved.2.outboxLog = db.outboxLog ++ [.inserted row, .deleted row])) := by
  unfold saveReplicationEvent Db.createOutbox Db.deleteOutbox
  by_cases createFails : faults.createOutbox
  · simp [createFails, Except.isOk, Except.toBool]
  by_cases deleteFails : faults.deleteOutbox
  · simp [createFails, deleteFails, Except.isOk, Except.toBool, outboxRow]
  simpa [createFails, deleteFails, outboxRow] using Db.filter_outbox_append_fresh db (outboxRow h event db) rfl

theorem buildReplicationEvent_eq_ok {h : RelationApiDualWriteHandler Relationship Mappings}
    {event : ReplicationEvent Json} :
    buildReplicationEvent env h = .ok event ↔
      h.roleRelations.mapM env.relationshipToJson = .ok event.relationsToAdd ∧
        h.currentRoleRelations.mapM env.relationshipToJson = .ok event.relationsToRemove := by
  unfold buildReplicationEvent
  simp only [except_bind_eq_ok, pure, Except.pure, Except.ok.injEq]
  constructor
  · rintro ⟨adds, added, removes, removed, rfl⟩
    exact ⟨added, removed⟩
  · rintro ⟨added, removed⟩
    exact ⟨_, added, _, removed, rfl⟩

/-- Every way `save_replication_event_to_outbox` can end, as its result and the
database it leaves. It never touches the binding mappings. -/
inductive SaveEnd (h : RelationApiDualWriteHandler Relationship Mappings) (db : Db Mappings Json) :
    Except DualWriteException (Option (ReplicationEvent Json)) → Db Mappings Json → Prop
  /-- Replication is disabled: `{}`, and nothing is written. -/
  | disabled (off : env.replicationEnabled = false) : SaveEnd h db (.ok none) db
  /-- `relationship_to_json` or the outbox insert raised: nothing is written. -/
  | failed (e : DualWriteException) (db' : Db Mappings Json)
      (mappings : db'.bindingMappings = db.bindingMappings) (outbox : db'.outbox = db.outbox)
      (log : db'.outboxLog = db.outboxLog) : SaveEnd h db (.error e) db'
  /-- The outbox delete raised: the event's row stays in the table. -/
  | leftBehind (event : ReplicationEvent Json) (e : DualWriteException) (db' : Db Mappings Json)
      (built : buildReplicationEvent env h = .ok event)
      (mappings : db'.bindingMappings = db.bindingMappings)
      (outbox : db'.outbox = db.outbox ++ [outboxRow h event db])
      (log : db'.outboxLog = db.outboxLog ++ [.inserted (outboxRow h event db)]) :
      SaveEnd h db (.error e) db'
  /-- The event's row was inserted and deleted, and the event is returned. -/
  | published (event : ReplicationEvent Json) (db' : Db Mappings Json)
      (built : buildReplicationEvent env h = .ok event)
      (mappings : db'.bindingMappings = db.bindingMappings) (outbox : db'.outbox = db.outbox)
      (log : db'.outboxLog =
        db.outboxLog ++ [.inserted (outboxRow h event db), .deleted (outboxRow h event db)]) :
      SaveEnd h db (.ok (some event)) db'

theorem saveReplicationEventToOutbox_end (h : RelationApiDualWriteHandler Relationship Mappings)
    (db : Db Mappings Json) :
    let out := saveReplicationEventToOutbox env faults h db
    out.handler = h ∧ SaveEnd env h db out.result out.db := by
  unfold saveReplicationEventToOutbox
  split
  · next disabled => exact ⟨rfl, .disabled (by simpa using disabled)⟩
  split
  · exact ⟨rfl, .failed _ db rfl rfl rfl⟩
  next event built =>
  obtain ⟨mappings, ⟨notOk, outbox, log⟩ | ⟨notOk, outbox, log⟩ | ⟨saved, outbox, log⟩⟩ :=
    saveReplicationEvent_spec faults h event db
  all_goals dsimp only
  · split
    · exact ⟨rfl, .failed _ _ mappings outbox log⟩
    · next ok => simp [ok, Except.isOk, Except.toBool] at notOk
  · split
    · exact ⟨rfl, .leftBehind event _ _ built mappings outbox log⟩
    · next ok => simp [ok, Except.isOk, Except.toBool] at notOk
  · rw [saved]
    exact ⟨rfl, .published event _ built mappings outbox log⟩

/-- `generate_replication_event_to_outbox(role)` returns `None` when replication is
disabled; raises leaving the database as it was when `migrate_role` or the mapping
write raised; and otherwise, with the mapping written, ends as
`save_replication_event_to_outbox` does on the handler that now holds the new
relations. It never changes the handler's current relations. -/
theorem generateReplicationEventToOutbox_cases (role : Role)
    (h : RelationApiDualWriteHandler Relationship Mappings) (db : Db Mappings Json) :
    let out := generateReplicationEventToOutbox env faults role h db
    out.handler.currentRoleRelations = h.currentRoleRelations ∧
    ((env.replicationEnabled = false ∧ out.result = .ok none ∧ out.db = db) ∨
      (∃ e, out.result = .error e ∧ out.db = db) ∨
      (∃ relations mappings dbW, env.replicationEnabled = true ∧
        env.migrateRole role h.bindingMapping h.orgId = .ok (relations, mappings) ∧
        (persistMapping faults h.bindingMapping role mappings db).2 = .ok dbW ∧
        out.handler.roleRelations = relations ∧ SaveEnd env out.handler dbW out.result out.db)) := by
  unfold generateReplicationEventToOutbox
  by_cases disabled : env.replicationEnabled = false
  · rw [if_pos (by simp [disabled])]
    exact ⟨rfl, .inl ⟨disabled, rfl, rfl⟩⟩
  have enabled : env.replicationEnabled = true := by simpa using disabled
  rw [if_neg (by simp [enabled])]
  obtain ⟨off, -⟩ | ⟨msg, -, migrated, generated⟩ |
      ⟨relations, mappings, -, migrated, ⟨failure, -, generated⟩ | ⟨dbW, written, generated⟩⟩ :=
    generateRelationsAndMappingsForRole_cases env faults { h with role := role } db
  · exact absurd off (by simp [enabled])
  · rw [generated]
    exact ⟨rfl, .inr (.inl ⟨_, rfl, rfl⟩)⟩
  · rw [generated]
    exact ⟨rfl, .inr (.inl ⟨_, rfl, rfl⟩)⟩
  · rw [generated]
    let generatedHandler := { h with
      role := role
      roleRelations := relations
      bindingMapping := (persistMapping faults h.bindingMapping role mappings db).1 }
    obtain ⟨same, saved⟩ := saveReplicationEventToOutbox_end env faults generatedHandler dbW
    dsimp only
    rw [same]
    exact ⟨rfl, .inr (.inr ⟨relations, mappings, dbW, enabled, migrated, written, rfl, saved⟩)⟩

end RelationApiDualWriteHandler

end InsightsRbac.DualWrite
