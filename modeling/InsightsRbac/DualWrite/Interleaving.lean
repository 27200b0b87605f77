import InsightsRbac.DualWrite.Requests

/-!
Contract: requests for different roles, each with its own
`RelationApiDualWriteHandler`, interleaved on one database. The spec's concurrency
model says "Cross-role operations are fully independent and parallelizable"; the
handlers share the `BindingMapping` table, the outbox and the sequence of primary
keys.

Owns: the keys of the `BindingMapping` table (`Db.WellKeyed`), what a handler
holds of its role's row (`Owns`), the frame of each method (the rows and events of
other roles stay as they were), and `interleave_independent`: under any
interleaving of two handlers for different roles, each role's handler, stored
mappings and published events are those of its own operations run alone, up to
primary keys.

Does not own: two requests for one role, which the spec leaves to the caller to
serialize; `migrate_role`, assumed to read a row's role and mappings but not its
primary key.
-/

namespace InsightsRbac.DualWrite

open InsightsRbac.MigrationTool

variable {Relationship Mappings Json : Type}

/-! ## Keys of the `BindingMapping` table -/

/-- The table as the database keeps it: one row per primary key, every key below
the next one the database assigns. -/
structure Db.WellKeyed (db : Db Mappings Json) : Prop where
  ids_nodup : (db.bindingMappings.map (·.id)).Nodup
  ids_lt : ∀ row ∈ db.bindingMappings, row.id < db.nextId

/-- The row `role.binding_mapping` reads for the role with UUID `role`. -/
def Db.rowOf (role : Uuid) (db : Db Mappings Json) : Option (BindingMapping Mappings) :=
  db.bindingMappings.find? (·.role = role)

/-- A row with its primary key forgotten. -/
def BindingMapping.withoutId (row : BindingMapping Mappings) : BindingMapping Mappings :=
  { row with id := 0 }

/-- The handler with the primary key of its row forgotten. -/
def RelationApiDualWriteHandler.withoutRowId (h : RelationApiDualWriteHandler Relationship Mappings) :
    RelationApiDualWriteHandler Relationship Mappings :=
  { h with bindingMapping := h.bindingMapping.map BindingMapping.withoutId }

/-- The events the outbox log publishes for the role with UUID `role`: the event
type and payload of each row inserted for it. -/
def eventsOf (role : Uuid) (log : List (OutboxChange Json)) : List (String × ReplicationEvent Json) :=
  log.filterMap fun change =>
    match change with
    | .inserted row => if row.aggregateid = role then some (row.eventType, row.payload) else none
    | .deleted _ => none

theorem eventsOf_append (role : Uuid) (log changes : List (OutboxChange Json)) :
    eventsOf role (log ++ changes) = eventsOf role log ++ eventsOf role changes :=
  List.filterMap_append _ _ _

/-- `migrate_role` reads the row it is given for its role and mappings, not for
its primary key. -/
def Env.IgnoresRowId (env : Env Relationship Mappings Json) : Prop :=
  ∀ role row row' orgId, row.map BindingMapping.withoutId = row'.map BindingMapping.withoutId →
    env.migrateRole role row orgId = env.migrateRole role row' orgId

theorem Db.rowOf_role {role : Uuid} {db : Db Mappings Json} {row : BindingMapping Mappings}
    (found : db.rowOf role = some row) : row.role = role := by
  simpa using List.find?_some found

/-- A search that a map changes nowhere it matters finds the same element. -/
theorem find?_map_of_fixed {α : Type} (p : α → Bool) (f : α → α) :
    ∀ (l : List α), (∀ x ∈ l, f x = x ∨ (p x = false ∧ p (f x) = false)) → (l.map f).find? p = l.find? p
  | [], _ => rfl
  | x :: rest, fixed => by
      have later := find?_map_of_fixed p f rest fun y member => fixed y (List.mem_cons_of_mem _ member)
      rw [List.map_cons, List.find?_cons, List.find?_cons, later]
      rcases fixed x (List.mem_cons_self _ _) with same | ⟨skipped, skippedAfter⟩
      · rw [same]
      · rw [skipped, skippedAfter]

/-! ## The table's two writes

`BindingMapping.objects.create` adds the row of a role that has none;
`save(force_update=True)` overwrites the row under a key. Neither touches the row
of another role, and both keep the keys. -/

section Writes

variable {faults : Faults} {db db' : Db Mappings Json}

theorem Db.createBindingMapping_eq_ok {role : Role} {mappings : Mappings} {row : BindingMapping Mappings}
    (created : db.createBindingMapping faults role mappings = .ok (row, db')) :
    db.rowOf role.uuid = none ∧ row = ⟨db.nextId, role.uuid, mappings⟩ ∧
      db'.bindingMappings = db.bindingMappings ++ [row] ∧ db'.nextId = db.nextId + 1 ∧
      db'.outboxLog = db.outboxLog := by
  unfold Db.createBindingMapping at created
  split at created
  · cases created
  split at created
  · cases created
  next absent =>
  cases created
  refine ⟨List.find?_eq_none.2 fun r member same => absent ?_, rfl, rfl, rfl, rfl⟩
  exact List.any_eq_true.2 ⟨r, member, same⟩

theorem Db.saveBindingMapping_eq_ok {row : BindingMapping Mappings}
    (saved : db.saveBindingMapping faults row = .ok db') :
    db'.bindingMappings = db.bindingMappings.map (fun r => if r.id = row.id then row else r) ∧
      db'.nextId = db.nextId ∧ db'.outboxLog = db.outboxLog := by
  unfold Db.saveBindingMapping at saved
  split at saved
  · cases saved
  split at saved
  · cases saved
    exact ⟨rfl, rfl, rfl⟩
  · cases saved

theorem Db.WellKeyed.createBindingMapping (keyed : db.WellKeyed) {role : Role} {mappings : Mappings}
    {row : BindingMapping Mappings} (created : db.createBindingMapping faults role mappings = .ok (row, db')) :
    db'.WellKeyed := by
  obtain ⟨-, rfl, rows, next, -⟩ := Db.createBindingMapping_eq_ok created
  refine ⟨?_, fun r member => ?_⟩
  · rw [rows, List.map_append, List.nodup_append]
    exact ⟨keyed.ids_nodup, List.nodup_singleton _, fun id old fresh => by
      obtain ⟨r, member, rfl⟩ := List.mem_map.1 old
      have := keyed.ids_lt r member
      simp only [List.map_cons, List.map_nil, List.mem_singleton] at fresh
      omega⟩
  · rw [rows, List.mem_append, List.mem_singleton] at member
    rcases member with old | rfl
    · have := keyed.ids_lt r old
      omega
    · show db.nextId < db'.nextId
      omega

/-- Saving overwrites rows under their own key, so it keeps the keys. -/
theorem Db.WellKeyed.saveBindingMapping (keyed : db.WellKeyed) {row : BindingMapping Mappings}
    (saved : db.saveBindingMapping faults row = .ok db') : db'.WellKeyed := by
  obtain ⟨rows, next, -⟩ := Db.saveBindingMapping_eq_ok saved
  have ids : db'.bindingMappings.map (·.id) = db.bindingMappings.map (·.id) := by
    rw [rows, List.map_map]
    exact List.map_congr_left fun r _ => by by_cases same : r.id = row.id <;> simp [same]
  refine ⟨ids ▸ keyed.ids_nodup, fun r member => ?_⟩
  rw [next]
  have key : r.id ∈ db.bindingMappings.map (·.id) := ids ▸ List.mem_map_of_mem _ member
  obtain ⟨r', old, same⟩ := List.mem_map.1 key
  exact same ▸ keyed.ids_lt r' old

/-- A stored row is the only row under its key. -/
theorem Db.WellKeyed.eq_of_id_eq (keyed : db.WellKeyed) {r r' : BindingMapping Mappings}
    (member : r ∈ db.bindingMappings) (member' : r' ∈ db.bindingMappings) (same : r.id = r'.id) : r = r' :=
  List.inj_on_of_nodup_map keyed.ids_nodup member member' same

/-- After a create, the created role reads the new row and every other role reads
what it read. -/
theorem Db.rowOf_createBindingMapping {role : Role} {mappings : Mappings} {row : BindingMapping Mappings}
    (created : db.createBindingMapping faults role mappings = .ok (row, db')) (other : Uuid) :
    db'.rowOf other = if other = role.uuid then some row else db.rowOf other := by
  obtain ⟨absent, rfl, rows, -, -⟩ := Db.createBindingMapping_eq_ok created
  unfold Db.rowOf at absent ⊢
  rw [rows, List.find?_append]
  split
  · next same => simp [same, absent]
  · next differs => simp [Ne.symm differs]

/-- After a save under the key of a role's row, that role reads the saved row and
every other role reads what it read. -/
theorem Db.rowOf_saveBindingMapping (keyed : db.WellKeyed) {row stored : BindingMapping Mappings}
    (found : db.rowOf row.role = some stored) (sameId : stored.id = row.id)
    (saved : db.saveBindingMapping faults row = .ok db') (other : Uuid) :
    db'.rowOf other = if other = row.role then some row else db.rowOf other := by
  obtain ⟨rows, -, -⟩ := Db.saveBindingMapping_eq_ok saved
  have storedRole := Db.rowOf_role found
  unfold Db.rowOf at found ⊢
  rw [rows]
  split
  · next same =>
    subst same
    rw [← sameId]
    exact RelationApiDualWriteHandler.find?_map_saved _ stored row storedRole.symm storedRole _ found
  · next differs =>
    refine find?_map_of_fixed _ _ _ fun r member => ?_
    by_cases replaced : r.id = row.id
    · have : r = stored := keyed.eq_of_id_eq member (List.mem_of_find?_eq_some found) (replaced.trans sameId.symm)
      subst this
      right
      simp [replaced, storedRole, Ne.symm differs]
    · left
      simp [replaced]

end Writes

theorem Db.rowOf_of_bindingMappings {db db' : Db Mappings Json}
    (same : db'.bindingMappings = db.bindingMappings) (role : Uuid) : db'.rowOf role = db.rowOf role := by
  rw [Db.rowOf, Db.rowOf, same]

theorem Db.any_role_eq_isSome (db : Db Mappings Json) (role : Uuid) :
    db.bindingMappings.any (·.role = role) = (db.rowOf role).isSome := by
  unfold Db.rowOf
  cases found : db.bindingMappings.find? (·.role = role) with
  | none =>
    rw [Option.isSome_none, List.any_eq_false]
    exact fun r member => List.find?_eq_none.1 found r member
  | some r =>
    rw [Option.isSome_some, List.any_eq_true]
    exact ⟨r, List.mem_of_find?_eq_some found, by simpa using List.find?_some found⟩

theorem Db.WellKeyed.of_bindingMappings {db db' : Db Mappings Json} (keyed : db.WellKeyed)
    (same : db'.bindingMappings = db.bindingMappings) (grown : db.nextId ≤ db'.nextId) : db'.WellKeyed :=
  ⟨same ▸ keyed.ids_nodup, fun r member => lt_of_lt_of_le (keyed.ids_lt r (same ▸ member)) grown⟩

theorem Db.changesSince_of_outboxLog {db₁ db₂ : Db Mappings Json} (same : db₁.outboxLog = db₂.outboxLog)
    (db : Db Mappings Json) : Db.changesSince db₁ db = Db.changesSince db₂ db := by
  rw [Db.changesSince, Db.changesSince, same]

/-! ## What a handler holds of its role's row -/

/-- A handler working for the role with UUID `role` in `db`: the row it holds, if
any, is of that role and has the key of the role's row in the table. -/
def HoldsRow (role : Uuid) (held : Option (BindingMapping Mappings)) (db : Db Mappings Json) : Prop :=
  ∀ r, held = some r → r.role = role ∧ ∃ stored, db.rowOf role = some stored ∧ stored.id = r.id

/-- A handler for the role with UUID `role`, holding that role's row. -/
structure Owns (role : Uuid) (h : RelationApiDualWriteHandler Relationship Mappings) (db : Db Mappings Json) :
    Prop where
  uuid : h.role.uuid = role
  row : HoldsRow role h.bindingMapping db

theorem Db.WellKeyed.empty : (Db.empty : Db Mappings Json).WellKeyed :=
  ⟨List.nodup_nil, fun _ absent => nomatch absent⟩

/-- A handler just built holds no row. -/
theorem Owns.init (role : Role) (orgId eventType : String) (db : Db Mappings Json) :
    Owns role.uuid (RelationApiDualWriteHandler.init role orgId eventType : RelationApiDualWriteHandler Relationship Mappings)
      db :=
  ⟨rfl, fun _ absent => nomatch absent⟩

theorem HoldsRow.of_rowOf {role : Uuid} {held : Option (BindingMapping Mappings)} {db db' : Db Mappings Json}
    (holds : HoldsRow role held db) (same : db'.rowOf role = db.rowOf role) : HoldsRow role held db' :=
  fun r isHeld => same ▸ holds r isHeld

theorem RelationApiDualWriteHandler.withoutRowId_eq_iff {h h' : RelationApiDualWriteHandler Relationship Mappings} :
    h.withoutRowId = h'.withoutRowId ↔
      h.roleRelations = h'.roleRelations ∧ h.currentRoleRelations = h'.currentRoleRelations ∧ h.role = h'.role ∧
        h.bindingMapping.map BindingMapping.withoutId = h'.bindingMapping.map BindingMapping.withoutId ∧
        h.orgId = h'.orgId ∧ h.eventType = h'.eventType := by
  cases h
  cases h'
  simp [RelationApiDualWriteHandler.withoutRowId]

/-! ## The mapping write -/

namespace RelationApiDualWriteHandler

section Persist

variable {faults : Faults} {role : Role} {mappings : Mappings}

/-- A mapping write that succeeds leaves the keys, the log and the other roles'
rows, and the role reads the row the handler now holds. -/
theorem persistMapping_ok {held : Option (BindingMapping Mappings)} {db db' : Db Mappings Json}
    (keyed : db.WellKeyed) (holds : HoldsRow role.uuid held db)
    (written : (persistMapping faults held role mappings db).2 = .ok db') :
    db'.WellKeyed ∧ db'.outboxLog = db.outboxLog ∧
      db'.rowOf role.uuid = (persistMapping faults held role mappings db).1 ∧
      ∀ other, other ≠ role.uuid → db'.rowOf other = db.rowOf other := by
  unfold persistMapping at written ⊢
  split at written
  · split at written
    · cases written
    · next row dbC created =>
      cases written
      obtain ⟨-, -, -, -, log⟩ := Db.createBindingMapping_eq_ok created
      refine ⟨keyed.createBindingMapping created, log, ?_, fun other differs => ?_⟩
      · simp [Db.rowOf_createBindingMapping created]
      · simp [Db.rowOf_createBindingMapping created, differs]
  · next row =>
    obtain ⟨isRole, stored, found, sameId⟩ := holds row rfl
    have found' : db.rowOf ({ row with mappings := mappings } : BindingMapping Mappings).role = some stored := by
      simpa [isRole] using found
    obtain ⟨-, -, log⟩ := Db.saveBindingMapping_eq_ok written
    refine ⟨keyed.saveBindingMapping written, log, ?_, fun other differs => ?_⟩
    · simp [Db.rowOf_saveBindingMapping keyed found' sameId written, isRole]
    · simp [Db.rowOf_saveBindingMapping keyed found' sameId written, isRole, differs]

variable (faults mappings)

/-- The row a handler holds after the mapping write is its role's, with the key of
the role's row: in the table the write left, or in the one a failed write kept. -/
theorem persistMapping_holds {held : Option (BindingMapping Mappings)} {db : Db Mappings Json}
    (keyed : db.WellKeyed) (holds : HoldsRow role.uuid held db) :
    HoldsRow role.uuid (persistMapping faults held role mappings db).1
      (((persistMapping faults held role mappings db).2.toOption).getD db) := by
  cases written : (persistMapping faults held role mappings db).2 with
  | ok db' =>
    obtain ⟨-, -, rowNow, -⟩ := persistMapping_ok keyed holds written
    intro r isHeld
    refine ⟨?_, r, rowNow.trans isHeld, rfl⟩
    exact Db.rowOf_role (rowNow.trans isHeld)
  | error failure =>
    show HoldsRow role.uuid (persistMapping faults held role mappings db).1 db
    cases held with
    | none =>
      cases created : db.createBindingMapping faults role mappings with
      | error f =>
        intro r isHeld
        simp [persistMapping, created] at isHeld
      | ok result => simp [persistMapping, created] at written
    | some row =>
      intro r isHeld
      simp only [persistMapping, Option.some.injEq] at isHeld
      subst isHeld
      obtain ⟨isRole, stored, found, sameId⟩ := holds row rfl
      exact ⟨isRole, stored, found, sameId⟩

/-- Two mapping writes for one role, from states that agree up to primary keys,
end alike: the same failure or success, and rows alike. -/
theorem persistMapping_lockstep {heldJ heldS : Option (BindingMapping Mappings)} {dbJ dbS : Db Mappings Json}
    (holdsJ : HoldsRow role.uuid heldJ dbJ) (holdsS : HoldsRow role.uuid heldS dbS)
    (sameHeld : heldJ.map BindingMapping.withoutId = heldS.map BindingMapping.withoutId)
    (sameRow : (dbJ.rowOf role.uuid).map BindingMapping.withoutId =
      (dbS.rowOf role.uuid).map BindingMapping.withoutId) :
    (persistMapping faults heldJ role mappings dbJ).1.map BindingMapping.withoutId =
        (persistMapping faults heldS role mappings dbS).1.map BindingMapping.withoutId ∧
      (persistMapping faults heldJ role mappings dbJ).2.map (fun _ => ()) =
        (persistMapping faults heldS role mappings dbS).2.map (fun _ => ()) := by
  cases heldJ with
  | none =>
    cases heldS with
    | some _ => cases sameHeld
    | none =>
      have present : dbJ.bindingMappings.any (·.role = role.uuid) = dbS.bindingMappings.any (·.role = role.uuid) := by
        rw [Db.any_role_eq_isSome, Db.any_role_eq_isSome]
        simpa using congrArg Option.isSome sameRow
      simp only [persistMapping, Db.createBindingMapping, present]
      by_cases fails : faults.writeMapping <;> by_cases taken : dbS.bindingMappings.any (·.role = role.uuid) <;>
        simp [fails, taken, BindingMapping.withoutId, Except.map]
  | some rowJ =>
    cases heldS with
    | none => cases sameHeld
    | some rowS =>
      obtain ⟨roleJ, storedJ, foundJ, idJ⟩ := holdsJ rowJ rfl
      obtain ⟨roleS, storedS, foundS, idS⟩ := holdsS rowS rfl
      have presentJ : dbJ.bindingMappings.any (·.id = rowJ.id) = true :=
        List.any_eq_true.2 ⟨storedJ, List.mem_of_find?_eq_some foundJ, by simp [idJ]⟩
      have presentS : dbS.bindingMappings.any (·.id = rowS.id) = true :=
        List.any_eq_true.2 ⟨storedS, List.mem_of_find?_eq_some foundS, by simp [idS]⟩
      simp only [persistMapping, Db.saveBindingMapping, presentJ, presentS]
      by_cases fails : faults.writeMapping <;> simp [fails, BindingMapping.withoutId, Except.map, roleJ, roleS]

end Persist

/-! ## Each method, alone and side by side

For each method: what it keeps of the keys and of the handler's hold on its row,
that it leaves the other roles' rows and events, and that two runs of it from
states agreeing up to primary keys end agreeing. -/

section Methods

variable (env : Env Relationship Mappings Json) (faults : Faults)

theorem loadRelationsFromCurrentStateOfRole_owns {role : Uuid} {h : RelationApiDualWriteHandler Relationship Mappings}
    {db : Db Mappings Json} (owns : Owns role h db) :
    Owns role (loadRelationsFromCurrentStateOfRole env faults h db).handler db := by
  unfold loadRelationsFromCurrentStateOfRole
  split
  · exact owns
  split
  · exact owns
  split
  · exact owns
  next row found =>
  have found' : db.rowOf role = some row := owns.uuid ▸ found
  have holds : HoldsRow role (some row) db := fun r held => by
    cases held
    exact ⟨Db.rowOf_role found', row, found', rfl⟩
  dsimp only
  split
  · exact ⟨owns.uuid, holds⟩
  · exact ⟨owns.uuid, holds⟩

theorem loadRelationsFromCurrentStateOfRole_lockstep (ignores : env.IgnoresRowId) {role : Uuid}
    {hJ hS : RelationApiDualWriteHandler Relationship Mappings} {dbJ dbS : Db Mappings Json}
    (uuid : hJ.role.uuid = role) (same : hJ.withoutRowId = hS.withoutRowId)
    (sameRow : (dbJ.rowOf role).map BindingMapping.withoutId = (dbS.rowOf role).map BindingMapping.withoutId) :
    (loadRelationsFromCurrentStateOfRole env faults hJ dbJ).result =
        (loadRelationsFromCurrentStateOfRole env faults hS dbS).result ∧
      (loadRelationsFromCurrentStateOfRole env faults hJ dbJ).handler.withoutRowId =
        (loadRelationsFromCurrentStateOfRole env faults hS dbS).handler.withoutRowId := by
  obtain ⟨relations, currents, roles, -, orgIds, eventTypes⟩ := withoutRowId_eq_iff.1 same
  have foundJ : dbJ.bindingMappingOf hJ.role = dbJ.rowOf role := by rw [← uuid]; rfl
  have foundS : dbS.bindingMappingOf hS.role = dbS.rowOf role := by rw [← roles, ← uuid]; rfl
  unfold loadRelationsFromCurrentStateOfRole
  by_cases off : env.replicationEnabled = false
  · simp [off, same]
  by_cases fault : faults.readMapping
  · simp [off, fault, same]
  simp only [off, fault, foundJ, foundS, Bool.not_eq_true', if_false]
  cases rowJ : dbJ.rowOf role with
  | none =>
    cases rowS : dbS.rowOf role with
    | none => exact ⟨rfl, same⟩
    | some _ => rw [rowJ, rowS] at sameRow; cases sameRow
  | some storedJ =>
    cases rowS : dbS.rowOf role with
    | none => rw [rowJ, rowS] at sameRow; cases sameRow
    | some storedS =>
      rw [rowJ, rowS] at sameRow
      have migrated : env.migrateRole hJ.role (some storedJ) hJ.orgId =
          env.migrateRole hS.role (some storedS) hS.orgId := by
        rw [roles, orgIds]
        exact ignores _ _ _ _ sameRow
      dsimp only
      rw [migrated]
      cases env.migrateRole hS.role (some storedS) hS.orgId with
      | error msg => exact ⟨rfl, withoutRowId_eq_iff.2 ⟨relations, currents, roles, sameRow, orgIds, eventTypes⟩⟩
      | ok result => exact ⟨rfl, withoutRowId_eq_iff.2 ⟨relations, rfl, roles, sameRow, orgIds, eventTypes⟩⟩

/-- `_generate_relations_and_mappings_for_role` keeps the keys and the handler's
hold on its row, writes no outbox change, and leaves the other roles' rows. -/
theorem generateRelationsAndMappingsForRole_keeps {role : Uuid}
    {h : RelationApiDualWriteHandler Relationship Mappings} {db : Db Mappings Json}
    (keyed : db.WellKeyed) (owns : Owns role h db) :
    let out := generateRelationsAndMappingsForRole env faults h db
    out.db.WellKeyed ∧ Owns role out.handler out.db ∧ out.db.outboxLog = db.outboxLog ∧
      ∀ other, other ≠ role → out.db.rowOf other = db.rowOf other := by
  dsimp only
  have holds : HoldsRow h.role.uuid h.bindingMapping db := owns.uuid ▸ owns.row
  obtain ⟨-, same⟩ | ⟨_, -, -, same⟩ | ⟨relations, mappings, -, -, ⟨failure, written, same⟩ | ⟨dbW, written, same⟩⟩ :=
    generateRelationsAndMappingsForRole_cases env faults h db
  · rw [same]
    exact ⟨keyed, owns, rfl, fun _ _ => rfl⟩
  · rw [same]
    exact ⟨keyed, owns, rfl, fun _ _ => rfl⟩
  · have kept := persistMapping_holds faults mappings keyed holds
    rw [written] at kept
    rw [same]
    exact ⟨keyed, ⟨owns.uuid, owns.uuid ▸ kept⟩, rfl, fun _ _ => rfl⟩
  · have kept := persistMapping_holds faults mappings keyed holds
    obtain ⟨keyedW, log, -, others⟩ := persistMapping_ok keyed holds written
    rw [written] at kept
    rw [same]
    exact ⟨keyedW, ⟨owns.uuid, owns.uuid ▸ kept⟩, log, fun other differs => others other (owns.uuid ▸ differs)⟩

theorem generateRelationsAndMappingsForRole_lockstep (ignores : env.IgnoresRowId) {owner : Uuid}
    {hJ hS : RelationApiDualWriteHandler Relationship Mappings} {dbJ dbS : Db Mappings Json}
    (keyedJ : dbJ.WellKeyed) (keyedS : dbS.WellKeyed) (ownsJ : Owns owner hJ dbJ) (ownsS : Owns owner hS dbS)
    (same : hJ.withoutRowId = hS.withoutRowId)
    (sameRow : (dbJ.rowOf owner).map BindingMapping.withoutId = (dbS.rowOf owner).map BindingMapping.withoutId) :
    let outJ := generateRelationsAndMappingsForRole env faults hJ dbJ
    let outS := generateRelationsAndMappingsForRole env faults hS dbS
    outJ.result = outS.result ∧ outJ.handler.withoutRowId = outS.handler.withoutRowId ∧
      (outJ.db.rowOf owner).map BindingMapping.withoutId = (outS.db.rowOf owner).map BindingMapping.withoutId := by
  obtain ⟨relations, currents, roles, rows, orgIds, eventTypes⟩ := withoutRowId_eq_iff.1 same
  have migrated : env.migrateRole hJ.role hJ.bindingMapping hJ.orgId =
      env.migrateRole hS.role hS.bindingMapping hS.orgId := by
    rw [roles, orgIds]
    exact ignores _ _ _ _ rows
  have holdsJ : HoldsRow hJ.role.uuid hJ.bindingMapping dbJ := ownsJ.uuid ▸ ownsJ.row
  have holdsS : HoldsRow hJ.role.uuid hS.bindingMapping dbS := ownsJ.uuid ▸ ownsS.row
  have sameRow' := ownsJ.uuid ▸ sameRow
  unfold generateRelationsAndMappingsForRole
  by_cases off : env.replicationEnabled = false
  · simp [off, same, sameRow]
  simp only [off, Bool.not_eq_true', if_false, migrated]
  cases env.migrateRole hS.role hS.bindingMapping hS.orgId with
  | error msg => exact ⟨rfl, same, sameRow⟩
  | ok result =>
    obtain ⟨relations', mappings⟩ := result
    obtain ⟨heldSame, writtenSame⟩ :=
      persistMapping_lockstep faults mappings holdsJ holdsS rows sameRow'
    dsimp only
    rw [← roles]
    cases writtenJ : (persistMapping faults hJ.bindingMapping hJ.role mappings dbJ).2 with
    | error failure =>
      cases writtenS : (persistMapping faults hS.bindingMapping hJ.role mappings dbS).2 with
      | ok _ => rw [writtenJ, writtenS] at writtenSame; cases writtenSame
      | error failure' =>
        rw [writtenJ, writtenS] at writtenSame
        cases writtenSame
        exact ⟨rfl, withoutRowId_eq_iff.2 ⟨rfl, currents, rfl, heldSame, orgIds, eventTypes⟩, sameRow⟩
    | ok dbWJ =>
      cases writtenS : (persistMapping faults hS.bindingMapping hJ.role mappings dbS).2 with
      | error _ => rw [writtenJ, writtenS] at writtenSame; cases writtenSame
      | ok dbWS =>
        obtain ⟨-, -, rowJ, -⟩ := persistMapping_ok keyedJ holdsJ writtenJ
        obtain ⟨-, -, rowS, -⟩ := persistMapping_ok keyedS holdsS writtenS
        refine ⟨rfl, withoutRowId_eq_iff.2 ⟨rfl, currents, rfl, heldSame, orgIds, eventTypes⟩, ?_⟩
        show (dbWJ.rowOf owner).map _ = (dbWS.rowOf owner).map _
        rw [← ownsJ.uuid, rowJ, rowS, heldSame]

/-- `save_replication_event_to_outbox` keeps the handler and the table, only adds
to the log, and publishes nothing for another role. -/
theorem saveReplicationEventToOutbox_keeps (h : RelationApiDualWriteHandler Relationship Mappings)
    (db : Db Mappings Json) :
    let out := saveReplicationEventToOutbox env faults h db
    out.handler = h ∧ out.db.bindingMappings = db.bindingMappings ∧ db.nextId ≤ out.db.nextId ∧
      out.db.outboxLog = db.outboxLog ++ Db.changesSince db out.db ∧
      ∀ other, other ≠ h.role.uuid → eventsOf other (Db.changesSince db out.db) = [] := by
  unfold saveReplicationEventToOutbox saveReplicationEvent Db.createOutbox Db.deleteOutbox
  by_cases off : env.replicationEnabled = false
  · simp [off, Db.changesSince, eventsOf]
  cases built : buildReplicationEvent env h with
  | error msg => simp [off, built, Db.changesSince, eventsOf]
  | ok event =>
    by_cases creates : faults.createOutbox <;> by_cases deletes : faults.deleteOutbox <;>
      simp [off, built, creates, deletes, Db.changesSince, eventsOf]
    all_goals exact fun _ differs same => differs same.symm

/-- Two saves by handlers alike up to primary keys end alike and publish the same
events, whatever the databases. -/
theorem saveReplicationEventToOutbox_lockstep {hJ hS : RelationApiDualWriteHandler Relationship Mappings}
    (same : hJ.withoutRowId = hS.withoutRowId) (dbJ dbS : Db Mappings Json) (owner : Uuid) :
    let outJ := saveReplicationEventToOutbox env faults hJ dbJ
    let outS := saveReplicationEventToOutbox env faults hS dbS
    outJ.result = outS.result ∧
      eventsOf owner (Db.changesSince dbJ outJ.db) = eventsOf owner (Db.changesSince dbS outS.db) := by
  obtain ⟨relations, currents, roles, -, -, eventTypes⟩ := withoutRowId_eq_iff.1 same
  have built : buildReplicationEvent env hJ = buildReplicationEvent env hS := by
    simp only [buildReplicationEvent, relations, currents]
  unfold saveReplicationEventToOutbox saveReplicationEvent Db.createOutbox Db.deleteOutbox
  rw [built]
  by_cases off : env.replicationEnabled = false
  · simp [off, Db.changesSince, eventsOf]
  cases buildReplicationEvent env hS with
  | error msg => simp [off, Db.changesSince, eventsOf]
  | ok event =>
    by_cases creates : faults.createOutbox <;> by_cases deletes : faults.deleteOutbox <;>
      simp [off, creates, deletes, Db.changesSince, eventsOf, roles, eventTypes, List.filterMap_cons]

/-- `generate_replication_event_to_outbox(role)` for a role of the handler's UUID
keeps the keys and the handler's hold on its row, only adds to the log, and leaves
the other roles' rows and events. -/
theorem generateReplicationEventToOutbox_keeps (role : Role) {owner : Uuid} (isFor : role.uuid = owner)
    {h : RelationApiDualWriteHandler Relationship Mappings} {db : Db Mappings Json}
    (keyed : db.WellKeyed) (owns : Owns owner h db) :
    let out := generateReplicationEventToOutbox env faults role h db
    out.db.WellKeyed ∧ Owns owner out.handler out.db ∧
      out.db.outboxLog = db.outboxLog ++ Db.changesSince db out.db ∧
      ∀ other, other ≠ owner → out.db.rowOf other = db.rowOf other ∧ eventsOf other (Db.changesSince db out.db) = [] := by
  dsimp only
  unfold generateReplicationEventToOutbox
  by_cases off : env.replicationEnabled = false
  · simp [off, keyed, owns, Db.changesSince, eventsOf]
  rw [if_neg (by simpa using off)]
  obtain ⟨keyedG, ownsG, logG, othersG⟩ :=
    generateRelationsAndMappingsForRole_keeps env faults keyed (⟨isFor, owns.row⟩ : Owns owner { h with role := role } db)
  dsimp only
  split
  · refine ⟨keyedG, ownsG, by simp [Db.changesSince, logG], fun other differs => ⟨othersG other differs, ?_⟩⟩
    simp [Db.changesSince, logG, eventsOf]
  · obtain ⟨handlerS, tableS, grownS, logS, eventsS⟩ :=
      saveReplicationEventToOutbox_keeps env faults
        (generateRelationsAndMappingsForRole env faults { h with role := role } db).handler
        (generateRelationsAndMappingsForRole env faults { h with role := role } db).db
    rw [Db.changesSince_of_outboxLog logG.symm, handlerS]
    refine ⟨keyedG.of_bindingMappings tableS grownS,
      ⟨ownsG.uuid, ownsG.row.of_rowOf (Db.rowOf_of_bindingMappings tableS owner)⟩, by rw [← logG]; exact logS,
      fun other differs => ⟨by rw [Db.rowOf_of_bindingMappings tableS, othersG other differs], eventsS other ?_⟩⟩
    rw [ownsG.uuid]
    exact differs

/-- Two generates for one role, by handlers alike up to primary keys on tables
alike for the role, end alike and publish the same events. -/
theorem generateReplicationEventToOutbox_lockstep (ignores : env.IgnoresRowId) (role : Role) {owner : Uuid}
    (isFor : role.uuid = owner) {hJ hS : RelationApiDualWriteHandler Relationship Mappings}
    {dbJ dbS : Db Mappings Json} (keyedJ : dbJ.WellKeyed) (keyedS : dbS.WellKeyed)
    (ownsJ : Owns owner hJ dbJ) (ownsS : Owns owner hS dbS) (same : hJ.withoutRowId = hS.withoutRowId)
    (sameRow : (dbJ.rowOf owner).map BindingMapping.withoutId = (dbS.rowOf owner).map BindingMapping.withoutId) :
    let outJ := generateReplicationEventToOutbox env faults role hJ dbJ
    let outS := generateReplicationEventToOutbox env faults role hS dbS
    outJ.result = outS.result ∧ outJ.handler.withoutRowId = outS.handler.withoutRowId ∧
      (outJ.db.rowOf owner).map BindingMapping.withoutId = (outS.db.rowOf owner).map BindingMapping.withoutId ∧
      eventsOf owner (Db.changesSince dbJ outJ.db) = eventsOf owner (Db.changesSince dbS outS.db) := by
  obtain ⟨relations, currents, -, rows, orgIds, eventTypes⟩ := withoutRowId_eq_iff.1 same
  have sameRole : ({ hJ with role := role } : RelationApiDualWriteHandler Relationship Mappings).withoutRowId =
      ({ hS with role := role } : RelationApiDualWriteHandler Relationship Mappings).withoutRowId :=
    withoutRowId_eq_iff.2 ⟨relations, currents, rfl, rows, orgIds, eventTypes⟩
  obtain ⟨results, handlers, rowsG⟩ := generateRelationsAndMappingsForRole_lockstep env faults ignores keyedJ keyedS
    (⟨isFor, ownsJ.row⟩ : Owns owner { hJ with role := role } dbJ)
    (⟨isFor, ownsS.row⟩ : Owns owner { hS with role := role } dbS) sameRole sameRow
  obtain ⟨-, -, logJ, -⟩ := generateRelationsAndMappingsForRole_keeps env faults keyedJ
    (⟨isFor, ownsJ.row⟩ : Owns owner { hJ with role := role } dbJ)
  obtain ⟨-, -, logS, -⟩ := generateRelationsAndMappingsForRole_keeps env faults keyedS
    (⟨isFor, ownsS.row⟩ : Owns owner { hS with role := role } dbS)
  dsimp only
  unfold generateReplicationEventToOutbox
  by_cases off : env.replicationEnabled = false
  · simp [off, same, sameRow, Db.changesSince, eventsOf]
  rw [if_neg (by simpa using off), if_neg (by simpa using off)]
  dsimp only
  rw [results]
  split
  · exact ⟨rfl, handlers, rowsG, by simp [Db.changesSince, logJ, logS, eventsOf]⟩
  · obtain ⟨resultsS, eventsS⟩ := saveReplicationEventToOutbox_lockstep env faults handlers
      (generateRelationsAndMappingsForRole env faults { hJ with role := role } dbJ).db
      (generateRelationsAndMappingsForRole env faults { hS with role := role } dbS).db owner
    obtain ⟨handlerJ, tableJ, -⟩ := saveReplicationEventToOutbox_keeps env faults
      (generateRelationsAndMappingsForRole env faults { hJ with role := role } dbJ).handler
      (generateRelationsAndMappingsForRole env faults { hJ with role := role } dbJ).db
    obtain ⟨handlerS, tableS, -⟩ := saveReplicationEventToOutbox_keeps env faults
      (generateRelationsAndMappingsForRole env faults { hS with role := role } dbS).handler
      (generateRelationsAndMappingsForRole env faults { hS with role := role } dbS).db
    refine ⟨resultsS, by rw [handlerJ, handlerS]; exact handlers, ?_, ?_⟩
    · rw [Db.rowOf_of_bindingMappings tableJ, Db.rowOf_of_bindingMappings tableS]
      exact rowsG
    · rw [Db.changesSince_of_outboxLog logJ.symm, Db.changesSince_of_outboxLog logS.symm]
      exact eventsS

end Methods

end RelationApiDualWriteHandler

/-! ## Two requests on one database -/

/-- One operation of a request's handler: loading its role's current state, or
one call. -/
inductive Op where
  | load (faults : Faults)
  | call (call : RelationApiDualWriteHandler.Call)

namespace Op

variable (env : Env Relationship Mappings Json)

/-- An operation on a handler and the database. -/
def run (state : RelationApiDualWriteHandler Relationship Mappings × Db Mappings Json) :
    Op → RelationApiDualWriteHandler Relationship Mappings × Db Mappings Json
  | .load faults =>
      let out := RelationApiDualWriteHandler.loadRelationsFromCurrentStateOfRole env faults state.1 state.2
      (out.handler, out.db)
  | .call c => RelationApiDualWriteHandler.step env state c

/-- An operation of a request for the role with UUID `owner`: a generate call
passes a role of that UUID. -/
def isFor (owner : Uuid) : Op → Bool
  | .call (.generate role _) => role.uuid = owner
  | _ => true

/-- What a run shows the role with UUID `owner`: its handler and its row without
primary keys, and the events published for it. -/
def view (owner : Uuid) (state : RelationApiDualWriteHandler Relationship Mappings × Db Mappings Json) :
    RelationApiDualWriteHandler Relationship Mappings × Option (BindingMapping Mappings) ×
      List (String × ReplicationEvent Json) :=
  (state.1.withoutRowId, (state.2.rowOf owner).map BindingMapping.withoutId, eventsOf owner state.2.outboxLog)

open RelationApiDualWriteHandler in
/-- An operation of a handler for `owner` keeps the keys and the handler's hold on
its row, only adds to the log, and leaves the other roles' rows and events. -/
theorem run_keeps (op : Op) {owner : Uuid} (forOwner : op.isFor owner = true)
    {h : RelationApiDualWriteHandler Relationship Mappings} {db : Db Mappings Json}
    (keyed : db.WellKeyed) (owns : Owns owner h db) :
    (op.run env (h, db)).2.WellKeyed ∧ Owns owner (op.run env (h, db)).1 (op.run env (h, db)).2 ∧
      (op.run env (h, db)).2.outboxLog = db.outboxLog ++ Db.changesSince db (op.run env (h, db)).2 ∧
      ∀ other, other ≠ owner → (op.run env (h, db)).2.rowOf other = db.rowOf other ∧
        eventsOf other (Db.changesSince db (op.run env (h, db)).2) = [] := by
  cases op with
  | load faults =>
    have unchanged : (Op.run env (h, db) (.load faults)).2 = db := loadRelationsFromCurrentStateOfRole_db env faults h db
    rw [unchanged]
    exact ⟨keyed, loadRelationsFromCurrentStateOfRole_owns env faults owns, by simp [Db.changesSince],
      fun _ _ => ⟨rfl, by simp [Db.changesSince, eventsOf]⟩⟩
  | call c =>
    cases c with
    | generate role faults =>
      exact generateReplicationEventToOutbox_keeps env faults role (by simpa [isFor] using forOwner) keyed owns
    | save faults =>
      obtain ⟨handler, table, grown, log, events⟩ := saveReplicationEventToOutbox_keeps env faults h db
      simp only [run, step]
      rw [handler]
      exact ⟨keyed.of_bindingMappings table grown, ⟨owns.uuid, owns.row.of_rowOf (Db.rowOf_of_bindingMappings table owner)⟩,
        log, fun other differs => ⟨Db.rowOf_of_bindingMappings table other, events other (owns.uuid ▸ differs)⟩⟩

open RelationApiDualWriteHandler in
/-- Two runs of one operation from states that show its role the same, show it
the same after. -/
theorem run_view (ignores : env.IgnoresRowId) (op : Op) {owner : Uuid} (forOwner : op.isFor owner = true)
    {hJ hS : RelationApiDualWriteHandler Relationship Mappings} {dbJ dbS : Db Mappings Json}
    (keyedJ : dbJ.WellKeyed) (keyedS : dbS.WellKeyed) (ownsJ : Owns owner hJ dbJ) (ownsS : Owns owner hS dbS)
    (same : view owner (hJ, dbJ) = view owner (hS, dbS)) :
    view owner (op.run env (hJ, dbJ)) = view owner (op.run env (hS, dbS)) := by
  simp only [view, Prod.mk.injEq] at same ⊢
  obtain ⟨handlers, rows, events⟩ := same
  obtain ⟨-, -, logJ, -⟩ := run_keeps env op forOwner keyedJ ownsJ
  obtain ⟨-, -, logS, -⟩ := run_keeps env op forOwner keyedS ownsS
  rw [logJ, logS, eventsOf_append, eventsOf_append, events]
  suffices (op.run env (hJ, dbJ)).1.withoutRowId = (op.run env (hS, dbS)).1.withoutRowId ∧
      ((op.run env (hJ, dbJ)).2.rowOf owner).map BindingMapping.withoutId =
        ((op.run env (hS, dbS)).2.rowOf owner).map BindingMapping.withoutId ∧
      eventsOf owner (Db.changesSince dbJ (op.run env (hJ, dbJ)).2) =
        eventsOf owner (Db.changesSince dbS (op.run env (hS, dbS)).2) by
    obtain ⟨handlers', rows', events'⟩ := this
    exact ⟨handlers', rows', by rw [events']⟩
  cases op with
  | load faults =>
    obtain ⟨-, loaded⟩ := loadRelationsFromCurrentStateOfRole_lockstep env faults ignores ownsJ.uuid handlers rows
    simp only [run, loadRelationsFromCurrentStateOfRole_db]
    exact ⟨loaded, rows, by simp [Db.changesSince, eventsOf]⟩
  | call c =>
    cases c with
    | generate role faults =>
      obtain ⟨-, generated⟩ := generateReplicationEventToOutbox_lockstep env faults ignores role
        (by simpa [isFor] using forOwner) keyedJ keyedS ownsJ ownsS handlers rows
      exact generated
    | save faults =>
      obtain ⟨handlerJ, tableJ, -⟩ := saveReplicationEventToOutbox_keeps env faults hJ dbJ
      obtain ⟨handlerS, tableS, -⟩ := saveReplicationEventToOutbox_keeps env faults hS dbS
      obtain ⟨-, saved⟩ := saveReplicationEventToOutbox_lockstep env faults handlers dbJ dbS owner
      simp only [run, step]
      rw [handlerJ, handlerS, Db.rowOf_of_bindingMappings tableJ, Db.rowOf_of_bindingMappings tableS]
      exact ⟨handlers, rows, saved⟩

/-- An operation of a handler for `owner` shows another role nothing new. -/
theorem run_view_other (op : Op) {owner other : Uuid} (forOwner : op.isFor owner = true) (differs : other ≠ owner)
    {h : RelationApiDualWriteHandler Relationship Mappings} {db : Db Mappings Json}
    (keyed : db.WellKeyed) (owns : Owns owner h db) (h' : RelationApiDualWriteHandler Relationship Mappings) :
    view other (h', (op.run env (h, db)).2) = view other (h', db) := by
  obtain ⟨-, -, log, others⟩ := run_keeps env op forOwner keyed owns
  obtain ⟨row, events⟩ := others other differs
  simp only [view, row, log, eventsOf_append, events, List.append_nil]

end Op

/-- The two requests. -/
inductive Side where
  | first
  | second
deriving DecidableEq, Repr

variable (env : Env Relationship Mappings Json)

/-- The handlers of both requests and the database after `schedule`: each step
runs one operation on its side's handler. -/
def interleave :
    (Side → RelationApiDualWriteHandler Relationship Mappings) × Db Mappings Json → List (Side × Op) →
      (Side → RelationApiDualWriteHandler Relationship Mappings) × Db Mappings Json
  | state, [] => state
  | (handlers, db), (side, op) :: rest =>
      let out := op.run env (handlers side, db)
      interleave (Function.update handlers side out.1, out.2) rest

/-- The operations of one side, in the schedule's order. -/
def opsOf (side : Side) (schedule : List (Side × Op)) : List Op :=
  schedule.filterMap fun step => if step.1 = side then some step.2 else none

theorem Side.owner_ne {owner : Side → Uuid} (distinct : owner .first ≠ owner .second) {side side' : Side}
    (differs : side ≠ side') : owner side ≠ owner side' := by
  cases side <;> cases side'
  · exact absurd rfl differs
  · exact distinct
  · exact Ne.symm distinct
  · exact absurd rfl differs

/-- Along any schedule, the interleaved run shows a side what its own operations
run alone show it, from states that showed it the same. -/
theorem interleave_view (ignores : env.IgnoresRowId) (owner : Side → Uuid) (distinct : owner .first ≠ owner .second)
    (side : Side) :
    ∀ (schedule : List (Side × Op)) (handlers : Side → RelationApiDualWriteHandler Relationship Mappings)
      (db : Db Mappings Json) (alone : RelationApiDualWriteHandler Relationship Mappings × Db Mappings Json),
      (∀ step ∈ schedule, step.2.isFor (owner step.1) = true) →
      db.WellKeyed → (∀ s, Owns (owner s) (handlers s) db) → alone.2.WellKeyed → Owns (owner side) alone.1 alone.2 →
      Op.view (owner side) (handlers side, db) = Op.view (owner side) alone →
      Op.view (owner side) ((interleave env (handlers, db) schedule).1 side, (interleave env (handlers, db) schedule).2) =
        Op.view (owner side) ((opsOf side schedule).foldl (Op.run env) alone)
  | [], _, _, _, _, _, _, _, _, same => same
  | (s, op) :: rest, handlers, db, alone, isFor, keyed, owns, aloneKeyed, aloneOwns, same => by
      have opFor : op.isFor (owner s) = true := isFor (s, op) (List.mem_cons_self _ _)
      have restFor := fun step member => isFor step (List.mem_cons_of_mem _ member)
      obtain ⟨keyed', owns', -, others⟩ := Op.run_keeps env op opFor keyed (owns s)
      have ownsAfter : ∀ t, Owns (owner t) (Function.update handlers s (op.run env (handlers s, db)).1 t)
          (op.run env (handlers s, db)).2 := by
        intro t
        by_cases here : t = s
        · subst here
          simpa using owns'
        · rw [Function.update_noteq here]
          exact ⟨(owns t).uuid, (owns t).row.of_rowOf (others (owner t) (Side.owner_ne distinct here)).1⟩
      simp only [interleave, opsOf, List.filterMap_cons]
      by_cases here : s = side
      · subst here
        obtain ⟨aloneKeyed', aloneOwns', -⟩ := Op.run_keeps env op opFor aloneKeyed aloneOwns
        simp only [if_true, List.foldl_cons]
        refine interleave_view ignores owner distinct s rest _ _ _ restFor keyed' ownsAfter aloneKeyed' aloneOwns' ?_
        rw [Function.update_same]
        exact Op.run_view env ignores op opFor keyed aloneKeyed (owns s) aloneOwns same
      · simp only [here, if_false]
        refine interleave_view ignores owner distinct side rest _ _ _ restFor keyed' ownsAfter aloneKeyed aloneOwns ?_
        rw [Function.update_noteq (Ne.symm here),
          Op.run_view_other env op opFor (Side.owner_ne distinct (Ne.symm here)) keyed (owns s)]
        exact same

/-- Requests for two different roles, each with its own handler, interleaved
step by step on one database in any order: each role's handler, its row of the
`BindingMapping` table and the events the outbox log publishes for it are, up to
primary keys, those of its own operations run alone on the database it started
from. The premises: the table's keys are as the database keeps them, each handler
holds only its role's row, each operation is for its side's role, and
`migrate_role` does not read primary keys. -/
theorem interleave_independent (ignores : env.IgnoresRowId) (owner : Side → Uuid)
    (distinct : owner .first ≠ owner .second) (handlers : Side → RelationApiDualWriteHandler Relationship Mappings)
    (db : Db Mappings Json) (keyed : db.WellKeyed) (owns : ∀ side, Owns (owner side) (handlers side) db)
    (schedule : List (Side × Op)) (isFor : ∀ step ∈ schedule, step.2.isFor (owner step.1) = true) (side : Side) :
    let joint := interleave env (handlers, db) schedule
    let alone := (opsOf side schedule).foldl (Op.run env) (handlers side, db)
    (joint.1 side).withoutRowId = alone.1.withoutRowId ∧
      (joint.2.rowOf (owner side)).map BindingMapping.withoutId =
        (alone.2.rowOf (owner side)).map BindingMapping.withoutId ∧
      eventsOf (owner side) joint.2.outboxLog = eventsOf (owner side) alone.2.outboxLog := by
  have viewed := interleave_view env ignores owner distinct side schedule handlers db (handlers side, db) isFor keyed owns
    keyed (owns side) rfl
  simpa only [Op.view, Prod.mk.injEq] using viewed

/-- Requests for the roles with UUIDs 1 and 2 whose loads and generates
interleave: the first role's handler, row and events are those of its request
alone, and its one event adds its one relation. -/
theorem interleave_independent_two_requests :
    let env : Env String Unit String :=
      ⟨true, fun role _ _ => .ok (role.access.map (·.permission.permission), ()), .ok⟩
    let reader : Role := ⟨⟨1⟩, false, none, [⟨⟨"rbac", "roles", "read"⟩⟩]⟩
    let writer : Role := ⟨⟨2⟩, false, none, [⟨⟨"rbac", "roles", "write"⟩⟩]⟩
    let owner : Side → Uuid := fun side => match side with
      | .first => ⟨1⟩
      | .second => ⟨2⟩
    let handlers : Side → RelationApiDualWriteHandler String Unit := fun side => match side with
      | .first => RelationApiDualWriteHandler.init reader "org" "update"
      | .second => RelationApiDualWriteHandler.init writer "org" "update"
    let schedule : List (Side × Op) := [(.first, .load Faults.none), (.second, .load Faults.none),
      (.second, .call (.generate writer Faults.none)), (.first, .call (.generate reader Faults.none))]
    let joint := interleave env (handlers, Db.empty) schedule
    let alone := (opsOf .first schedule).foldl (Op.run env) (handlers .first, Db.empty)
    eventsOf ⟨1⟩ joint.2.outboxLog = [("update", ⟨["rbac:roles:read"], []⟩)] ∧
      ((joint.1 .first).withoutRowId = alone.1.withoutRowId ∧
        (joint.2.rowOf (owner .first)).map BindingMapping.withoutId =
          (alone.2.rowOf (owner .first)).map BindingMapping.withoutId ∧
        eventsOf (owner .first) joint.2.outboxLog = eventsOf (owner .first) alone.2.outboxLog) := by
  intro env reader writer owner handlers schedule joint alone
  refine ⟨by decide, interleave_independent env (fun _ _ _ _ _ => rfl) owner (by decide) handlers Db.empty Db.WellKeyed.empty
    (fun side => ?_) schedule (by decide) .first⟩
  cases side
  · exact Owns.init reader "org" "update" Db.empty
  · exact Owns.init writer "org" "update" Db.empty

end InsightsRbac.DualWrite
