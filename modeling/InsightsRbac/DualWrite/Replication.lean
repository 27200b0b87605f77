import Mathlib.Data.Finset.Basic
import InsightsRbac.DualWrite.Outbox

/-!
Contract: a run of one `RelationApiDualWriteHandler` (load, then any calls of
`generate_replication_event_to_outbox` and `save_replication_event_to_outbox`)
against the relation store downstream of the outbox. The change-data-capture
reader publishes the payload of every inserted outbox row, in order, and the
store applies each: it removes `relations_to_remove`, then adds
`relations_to_add`.

Owns: what one call appends to the outbox log (`Emission`), that a run never
refreshes the handler's current relations, and the store after each emission:
the relations the handler computed last, together with every relation the run
published that was not among the loaded ones.

Does not own: the relations API itself, which is not in src; its store is the
set of serialised relations.
-/

namespace InsightsRbac.DualWrite

open InsightsRbac.MigrationTool

variable {Relationship Mappings Json : Type}

/-! ## What the outbox publishes -/

/-- The payload the change-data-capture reader publishes for a change of the
outbox table: an inserted row's, and nothing for a deletion. -/
def OutboxChange.insertedPayload : OutboxChange Json → Option (ReplicationEvent Json)
  | .inserted row => some row.payload
  | .deleted _ => none

/-- The events published from a stretch of the outbox log, in order. -/
def emittedPayloads (log : List (OutboxChange Json)) : List (ReplicationEvent Json) :=
  log.filterMap OutboxChange.insertedPayload

/-- The changes of the outbox log written since `before`. -/
def Db.changesSince (before after : Db Mappings Json) : List (OutboxChange Json) :=
  after.outboxLog.drop before.outboxLog.length

theorem Db.changesSince_of_append {before after : Db Mappings Json} {changes : List (OutboxChange Json)}
    (grown : after.outboxLog = before.outboxLog ++ changes) : Db.changesSince before after = changes := by
  simp [Db.changesSince, grown]

namespace RelationApiDualWriteHandler

variable (env : Env Relationship Mappings Json)

/-- What one handler call appends to the outbox log: nothing, or one row whose
payload adds the serialisation of the handler's `role_relations` and removes that
of its `current_role_relations`, then the row's deletion unless that failed. -/
inductive Emission (h : RelationApiDualWriteHandler Relationship Mappings) :
    List (OutboxChange Json) → Prop
  | silent : Emission h []
  | published (row : OutboxRow Json) (later : List (OutboxChange Json))
      (added : h.roleRelations.mapM env.relationshipToJson = .ok row.payload.relationsToAdd)
      (removed : h.currentRoleRelations.mapM env.relationshipToJson = .ok row.payload.relationsToRemove)
      (deleted : later = [] ∨ later = [.deleted row]) :
      Emission h (.inserted row :: later)

theorem Emission.payloads {h : RelationApiDualWriteHandler Relationship Mappings}
    {emitted : List (OutboxChange Json)} (emission : Emission env h emitted) :
    ∀ event ∈ emittedPayloads emitted,
      h.roleRelations.mapM env.relationshipToJson = .ok event.relationsToAdd ∧
        h.currentRoleRelations.mapM env.relationshipToJson = .ok event.relationsToRemove := by
  cases emission with
  | silent => simp [emittedPayloads]
  | published row later added removed deleted =>
    rcases deleted with rfl | rfl <;>
      simpa [emittedPayloads, OutboxChange.insertedPayload] using ⟨added, removed⟩

theorem SaveEnd.emission {h : RelationApiDualWriteHandler Relationship Mappings}
    {db db' : Db Mappings Json} {result : Except DualWriteException (Option (ReplicationEvent Json))}
    (saved : SaveEnd env h db result db') :
    ∃ emitted, db'.outboxLog = db.outboxLog ++ emitted ∧ Emission env h emitted := by
  cases saved with
  | disabled => exact ⟨[], by simp, .silent⟩
  | failed _ _ _ _ log => exact ⟨[], by simpa using log, .silent⟩
  | leftBehind event _ _ built _ _ log | published event _ built _ _ log =>
    obtain ⟨added, removed⟩ := (buildReplicationEvent_eq_ok env).1 built
    first
      | exact ⟨_, log, .published _ [] added removed (.inl rfl)⟩
      | exact ⟨_, log, .published _ _ added removed (.inr rfl)⟩

/-! ## Runs of calls -/

/-- A call on the handler after loading: `generate_replication_event_to_outbox(role)`
or `save_replication_event_to_outbox()`, each with the database faults it meets. -/
inductive Call where
  | generate (role : Role) (faults : Faults)
  | save (faults : Faults)
deriving DecidableEq, Repr

/-- One call from the handler and database `state`. A call that raised leaves both
as it left them, and the next call starts from there. -/
def step (state : RelationApiDualWriteHandler Relationship Mappings × Db Mappings Json) :
    Call → RelationApiDualWriteHandler Relationship Mappings × Db Mappings Json
  | .generate role faults =>
      let out := generateReplicationEventToOutbox env faults role state.1 state.2
      (out.handler, out.db)
  | .save faults =>
      let out := saveReplicationEventToOutbox env faults state.1 state.2
      (out.handler, out.db)

/-- `load_relations_from_current_state_of_role` on a new handler for `role`, then
the calls in order. -/
def loadAndRun (loadFaults : Faults) (role : Role) (orgId eventType : String) (calls : List Call)
    (db : Db Mappings Json) : RelationApiDualWriteHandler Relationship Mappings × Db Mappings Json :=
  let loaded := loadRelationsFromCurrentStateOfRole env loadFaults (init role orgId eventType) db
  calls.foldl (step env) (loaded.handler, loaded.db)

/-- A call keeps the handler's current relations and appends one emission of the
handler it leaves. -/
theorem step_emission (state : RelationApiDualWriteHandler Relationship Mappings × Db Mappings Json)
    (call : Call) :
    (step env state call).1.currentRoleRelations = state.1.currentRoleRelations ∧
      ∃ emitted, (step env state call).2.outboxLog = state.2.outboxLog ++ emitted ∧
        Emission env (step env state call).1 emitted := by
  obtain ⟨h, db⟩ := state
  cases call with
  | generate role faults =>
    obtain ⟨current, ⟨-, -, unchanged⟩ | ⟨-, -, unchanged⟩ |
        ⟨relations, mappings, dbW, -, -, written, -, saved⟩⟩ :=
      generateReplicationEventToOutbox_cases env faults role h db
    · exact ⟨current, [], by simp [step, unchanged], .silent⟩
    · exact ⟨current, [], by simp [step, unchanged], .silent⟩
    obtain ⟨emitted, grown, emission⟩ := SaveEnd.emission env saved
    rw [(persistMapping_outbox faults written).2] at grown
    exact ⟨current, emitted, grown, emission⟩
  | save faults =>
    obtain ⟨same, saved⟩ := saveReplicationEventToOutbox_end env faults h db
    obtain ⟨emitted, grown, emission⟩ := SaveEnd.emission env saved
    refine ⟨congrArg _ same, emitted, grown, ?_⟩
    show Emission env (saveReplicationEventToOutbox env faults h db).handler emitted
    rw [same]
    exact emission

/-- Along a run the current relations never change, and every published event
removes their serialisation. -/
theorem foldl_step_removes (calls : List Call)
    (state : RelationApiDualWriteHandler Relationship Mappings × Db Mappings Json) :
    (calls.foldl (step env) state).1.currentRoleRelations = state.1.currentRoleRelations ∧
      ∃ changes, (calls.foldl (step env) state).2.outboxLog = state.2.outboxLog ++ changes ∧
        ∀ event ∈ emittedPayloads changes,
          state.1.currentRoleRelations.mapM env.relationshipToJson = .ok event.relationsToRemove := by
  induction calls generalizing state with
  | nil => exact ⟨rfl, [], by simp, by simp [emittedPayloads]⟩
  | cons call calls inductionHypothesis =>
    obtain ⟨current, emitted, grown, emission⟩ := step_emission env state call
    obtain ⟨kept, changes, grownAfter, removes⟩ := inductionHypothesis (step env state call)
    rw [current] at kept removes
    refine ⟨kept, emitted ++ changes, by rw [List.foldl_cons, grownAfter, grown, List.append_assoc], ?_⟩
    intro event member
    rw [emittedPayloads, List.filterMap_append, List.mem_append] at member
    rcases member with early | late
    · exact current ▸ (emission.payloads env event early).2
    · exact removes event late

/-! ## Runs whose deletes succeed -/

/-- The database faults a call meets. -/
def Call.faults : Call → Faults
  | .generate _ faults => faults
  | .save faults => faults

theorem saveReplicationEvent_outbox {faults : Faults} (deletes : faults.deleteOutbox = false)
    (h : RelationApiDualWriteHandler Relationship Mappings) (event : ReplicationEvent Json)
    (db : Db Mappings Json) : (saveReplicationEvent faults h event db).2.outbox = db.outbox := by
  unfold saveReplicationEvent
  split
  · rfl
  · next row inserted created =>
    split
    · next deleted => simp [Db.deleteOutbox, deletes] at deleted
    · next cleared deleted => exact Db.deleteOutbox_createOutbox_outbox created deleted

theorem saveReplicationEventToOutbox_outbox {faults : Faults} (deletes : faults.deleteOutbox = false)
    (h : RelationApiDualWriteHandler Relationship Mappings) (db : Db Mappings Json) :
    (saveReplicationEventToOutbox env faults h db).db.outbox = db.outbox := by
  unfold saveReplicationEventToOutbox
  split
  · rfl
  split
  · rfl
  dsimp only
  split <;> exact saveReplicationEvent_outbox deletes h _ db

theorem generateReplicationEventToOutbox_outbox {faults : Faults} (deletes : faults.deleteOutbox = false)
    (role : Role) (h : RelationApiDualWriteHandler Relationship Mappings) (db : Db Mappings Json) :
    (generateReplicationEventToOutbox env faults role h db).db.outbox = db.outbox := by
  have generated : (generateRelationsAndMappingsForRole env faults { h with role := role } db).db.outbox =
      db.outbox := by
    obtain ⟨-, out⟩ | ⟨_, -, -, out⟩ | ⟨_, _, -, -, ⟨_, -, out⟩ | ⟨dbW, written, out⟩⟩ :=
      generateRelationsAndMappingsForRole_cases env faults { h with role := role } db
    any_goals rw [out]
    exact (persistMapping_outbox faults written).1
  unfold generateReplicationEventToOutbox
  split
  · rfl
  dsimp only
  split
  · exact generated
  · exact (saveReplicationEventToOutbox_outbox env deletes _ _).trans generated

/-- A run whose outbox deletes all succeed leaves the outbox table as it found it:
a row stays in the table only when its delete failed. -/
theorem foldl_step_outbox_of_deletes (calls : List Call)
    (deletes : ∀ call ∈ calls, call.faults.deleteOutbox = false)
    (state : RelationApiDualWriteHandler Relationship Mappings × Db Mappings Json) :
    (calls.foldl (step env) state).2.outbox = state.2.outbox := by
  induction calls generalizing state with
  | nil => rfl
  | cons call calls inductionHypothesis =>
    have stepped : (step env state call).2.outbox = state.2.outbox := by
      have deletesHere := deletes call (List.mem_cons_self _ _)
      cases call with
      | generate role faults => exact generateReplicationEventToOutbox_outbox env deletesHere role _ _
      | save faults => exact saveReplicationEventToOutbox_outbox env deletesHere _ _
    rw [List.foldl_cons, inductionHypothesis (fun c member => deletes c (List.mem_cons_of_mem _ member)),
      stepped]

/-- A generate and a save without database faults, from a database with no rows. -/
theorem foldl_step_outbox_of_deletes_generate_save :
    let env : Env String Unit String := ⟨true, fun _ _ _ => .ok (["r"], ()), .ok⟩
    let role : Role := ⟨⟨1⟩, false, none, []⟩
    let calls := [Call.generate role Faults.none, .save Faults.none]
    (∀ call ∈ calls, call.faults.deleteOutbox = false) ∧
      (calls.foldl (step env) (init role "org" "update", Db.empty)).2.outbox = [] := by
  intro env role calls
  have deletes : ∀ call ∈ calls, call.faults.deleteOutbox = false := by decide
  exact ⟨deletes, foldl_step_outbox_of_deletes env calls deletes (init role "org" "update", Db.empty)⟩

/-! ## The relation store downstream -/

section Store

variable [DecidableEq Json]

/-- The store applies an event: remove `relations_to_remove`, then add
`relations_to_add`. -/
def applyEvent (store : Finset Json) (event : ReplicationEvent Json) : Finset Json :=
  store \ event.relationsToRemove.toFinset ∪ event.relationsToAdd.toFinset

def replay (store : Finset Json) (events : List (ReplicationEvent Json)) : Finset Json :=
  events.foldl applyEvent store

/-- Every relation some event adds. -/
def publishedRelations (events : List (ReplicationEvent Json)) : Finset Json :=
  (events.flatMap ReplicationEvent.relationsToAdd).toFinset

/-- Outside the removed set `current`, replaying events that all remove `current`
leaves the start together with everything published. -/
theorem replay_sdiff (current : Finset Json) (events : List (ReplicationEvent Json))
    (removes : ∀ event ∈ events, event.relationsToRemove.toFinset = current) (store : Finset Json) :
    replay store events \ current = (store ∪ publishedRelations events) \ current := by
  induction events generalizing store with
  | nil => simp [replay, publishedRelations]
  | cons event events inductionHypothesis =>
    have removesHead := removes event (List.mem_cons_self _ _)
    rw [replay, List.foldl_cons, ← replay,
      inductionHypothesis (fun e member => removes e (List.mem_cons_of_mem _ member))]
    ext relation
    simp only [applyEvent, publishedRelations, removesHead, Finset.mem_sdiff, Finset.mem_union,
      List.mem_toFinset, List.flatMap_cons, List.mem_append]
    tauto

/-- After one more event that removes `current` too, the store holds what that
event adds and, outside `current`, everything published. -/
theorem replay_concat (current : Finset Json) (events : List (ReplicationEvent Json))
    (event : ReplicationEvent Json) (removes : ∀ e ∈ events, e.relationsToRemove.toFinset = current)
    (removesLast : event.relationsToRemove.toFinset = current) :
    replay current (events ++ [event]) =
      event.relationsToAdd.toFinset ∪ (publishedRelations (events ++ [event]) \ current) := by
  have replayed := replay_sdiff current events removes current
  rw [replay, List.foldl_append, List.foldl_cons, List.foldl_nil, ← replay]
  ext relation
  have inReplay := congrArg (relation ∈ ·) replayed
  simp only [applyEvent, publishedRelations, removesLast, Finset.mem_sdiff, Finset.mem_union,
    List.mem_toFinset, List.flatMap_append, List.flatMap_cons, List.flatMap_nil, List.append_nil,
    List.mem_append, eq_iff_iff] at inReplay ⊢
  tauto

/-- Replayed from the loaded relations, the store after an emission holds the
relations the handler computed last and every relation the run published that
was not among the loaded ones. -/
theorem loadAndRun_replay (loadFaults : Faults) (role : Role) (orgId eventType : String)
    (calls : List Call) (last : Call) (db : Db Mappings Json) (row : OutboxRow Json)
    (later : List (OutboxChange Json))
    (emitted : Db.changesSince (loadAndRun env loadFaults role orgId eventType calls db).2
      (loadAndRun env loadFaults role orgId eventType (calls ++ [last]) db).2 = .inserted row :: later) :
    let loaded := loadRelationsFromCurrentStateOfRole env loadFaults (init role orgId eventType) db
    let after := loadAndRun env loadFaults role orgId eventType (calls ++ [last]) db
    let events := emittedPayloads (Db.changesSince db after.2)
    ∃ current latest, loaded.handler.currentRoleRelations.mapM env.relationshipToJson = .ok current ∧
      after.1.roleRelations.mapM env.relationshipToJson = .ok latest ∧
      replay current.toFinset events = latest.toFinset ∪ (publishedRelations events \ current.toFinset) := by
  intro loaded after events
  obtain ⟨keptRun, changes, grown, removes⟩ := foldl_step_removes env calls (loaded.handler, loaded.db)
  have grownRun : (loadAndRun env loadFaults role orgId eventType calls db).2.outboxLog =
      db.outboxLog ++ changes := by
    calc _ = loaded.db.outboxLog ++ changes := grown
      _ = db.outboxLog ++ changes := by
        rw [loadRelationsFromCurrentStateOfRole_db env loadFaults (init role orgId eventType) db]
  have split : after = step env (loadAndRun env loadFaults role orgId eventType calls db) last :=
    List.foldl_concat _ _ _ _
  obtain ⟨kept, emittedLast, grownLast, emission⟩ :=
    step_emission env (loadAndRun env loadFaults role orgId eventType calls db) last
  rw [← split] at kept grownLast emission
  rw [Db.changesSince_of_append grownLast] at emitted
  subst emitted
  cases emission with
  | published _ _ added removed deleted =>
  have loadedRemoves : loaded.handler.currentRoleRelations.mapM env.relationshipToJson =
      .ok row.payload.relationsToRemove := by
    rw [← kept.trans keptRun]
    exact removed
  have earlierRemove : ∀ event ∈ emittedPayloads changes,
      event.relationsToRemove.toFinset = row.payload.relationsToRemove.toFinset := fun event member => by
    rw [Except.ok.inj ((removes event member).symm.trans loadedRemoves)]
  have eventsEq : events = emittedPayloads changes ++ [row.payload] := by
    have grownAll : after.2.outboxLog = db.outboxLog ++ (changes ++ .inserted row :: later) := by
      rw [grownLast, grownRun, List.append_assoc]
    show emittedPayloads (Db.changesSince db after.2) = _
    rw [Db.changesSince_of_append grownAll, emittedPayloads, List.filterMap_append]
    rcases deleted with rfl | rfl <;> rfl
  refine ⟨_, _, loadedRemoves, added, ?_⟩
  rw [eventsEq]
  exact replay_concat _ _ _ earlierRemove rfl

/-- A role granted `rbac:roles:read` and then revoked it, with each relation
standing for one permission of the role: after the second generate the store
matches the theorem. -/
theorem loadAndRun_replay_after_revocation :
    let env : Env String Unit String :=
      ⟨true, fun role _ _ => .ok (role.access.map (·.permission.permission), ()), .ok⟩
    let granted : Role := ⟨⟨1⟩, false, none, [⟨⟨"rbac", "roles", "read"⟩⟩]⟩
    let revoked : Role := { granted with access := [] }
    let row : OutboxRow String := ⟨2, "Role", ⟨1⟩, "update", ⟨[], []⟩⟩
    let loaded := loadRelationsFromCurrentStateOfRole env Faults.none (init granted "org" "update") Db.empty
    let after := loadAndRun env Faults.none granted "org" "update"
      [.generate granted Faults.none, .generate revoked Faults.none] Db.empty
    let events := emittedPayloads (Db.changesSince Db.empty after.2)
    Db.changesSince (loadAndRun env Faults.none granted "org" "update" [.generate granted Faults.none]
      Db.empty).2 after.2 = [.inserted row, .deleted row] ∧
    ∃ current latest, loaded.handler.currentRoleRelations.mapM env.relationshipToJson = .ok current ∧
      after.1.roleRelations.mapM env.relationshipToJson = .ok latest ∧
      replay current.toFinset events = latest.toFinset ∪ (publishedRelations events \ current.toFinset) := by
  intro env granted revoked row loaded after events
  have emitted : Db.changesSince (loadAndRun env Faults.none granted "org" "update"
      [.generate granted Faults.none] Db.empty).2 after.2 = [.inserted row, .deleted row] := rfl
  exact ⟨emitted, loadAndRun_replay env Faults.none granted "org" "update" [.generate granted Faults.none]
    (.generate revoked Faults.none) Db.empty row [.deleted row] emitted⟩

/-- The same run: the handler computed no relation last, yet the store still holds
the revoked one, which the first generate published and no later event removes. -/
theorem loadAndRun_revoked_relation_survives :
    let env : Env String Unit String :=
      ⟨true, fun role _ _ => .ok (role.access.map (·.permission.permission), ()), .ok⟩
    let granted : Role := ⟨⟨1⟩, false, none, [⟨⟨"rbac", "roles", "read"⟩⟩]⟩
    let revoked : Role := { granted with access := [] }
    let after := loadAndRun env Faults.none granted "org" "update"
      [.generate granted Faults.none, .generate revoked Faults.none] Db.empty
    after.1.roleRelations = [] ∧
      replay ∅ (emittedPayloads (Db.changesSince Db.empty after.2)) = {"rbac:roles:read"} :=
  ⟨rfl, by decide⟩

end Store

end RelationApiDualWriteHandler

end InsightsRbac.DualWrite
