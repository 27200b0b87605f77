import Mathlib.Data.List.Nodup

/-!
Contract: the tenant lifecycle of `api/models.py`: `Tenant.save` with its two
schema guards, on a table whose `schema_name` is unique; the `post_save` hook
`schema_handler`; and `Tenant.create_schema(check_if_exists=True)`, which the hook
runs once the row is committed, with `migrate_schemas` and each seeder able to
raise. Each save runs in a transaction of its own, and the connection is switched
between saves as requests come in.

Owns: what one step can do (`Step.run_cases`), and from it `Provisioned`, the
invariant every run keeps from a database holding only the public schema, whatever
the calls raise: the schemas are the public one and those the run created, each
once; the provisioning of each schema is a prefix of `CREATE SCHEMA`,
`migrate_schemas` and the three seeders; no two rows share a key or a schema name;
and every row whose name `_check_schema_name` accepts has its schema. When nothing
raises, every created schema is provisioned whole (`Complete`). And the frame of a
run: a schema that exists is provisioned no further, so one that a failure left
half provisioned stays so.

Does not own: `_check_schema_name` (`tenant_schemas`, not in src), a parameter
here; what `migrate_schemas` and the seeders (`seed_permissions`, `seed_roles`,
`seed_group`, not in src) write, which the model records as one log entry per call
that returns; where a call that raises leaves the connection, which the model
leaves where `create_schema` found it (the runs switch it freely); `__str__` and
`User`.
-/

namespace InsightsRbac.Api

/-- What the tenant code reads outside this file: `get_public_schema_name()`, and
the names `_check_schema_name` accepts (it raises on the others). -/
structure Env where
  publicSchema : String
  checkSchemaName : String → Bool

/-- A `Tenant` instance: its primary key, `None` until it is first saved, and its
schema name. -/
structure Tenant where
  pk : Option Nat
  schemaName : String
deriving DecidableEq, Repr

/-- A step of provisioning a schema: `CREATE SCHEMA`, then the calls
`create_schema` makes on it. -/
inductive Provision where
  | created
  | migrated
  | seededPermissions
  | seededRoles
  | seededGroup
deriving DecidableEq, Repr

/-- The whole provisioning of a schema, in the order `create_schema` runs it. -/
def Provision.all : List Provision := [.created, .migrated, .seededPermissions, .seededRoles, .seededGroup]

/-- The database as the tenant code touches it, and the connection's schema. -/
structure Db where
  /-- The tenant rows: primary key and schema name. -/
  tenants : List (Nat × String)
  /-- The next key of the primary key sequence. -/
  nextPk : Nat
  /-- The schemas that exist. -/
  schemas : List String
  /-- Each provisioning step that took effect, with its schema, in order. -/
  log : List (String × Provision)
  /-- `connection.schema_name`. -/
  currentSchema : String
deriving DecidableEq, Repr

/-- Which calls of one commit hook raise. -/
structure Faults where
  migrate : Bool
  seedPermissions : Bool
  seedRoles : Bool
  seedGroup : Bool
deriving DecidableEq, Repr

def Faults.none : Faults := ⟨false, false, false, false⟩

/-- What a save raises. -/
inductive TenantError where
  /-- `Exception(msg)`, raised by the guards of `Tenant.save`. -/
  | exception (msg : String)
  /-- A row write that would give two rows one key or one schema name. -/
  | integrityError (msg : String)
  /-- `_check_schema_name` rejected the name. -/
  | invalidSchemaName (name : String)
  /-- `CREATE SCHEMA` of a schema that exists. -/
  | duplicateSchema (name : String)
  /-- What `migrate_schemas` or a seeder raised. -/
  | raisedBy (call : Provision)
deriving DecidableEq, Repr

namespace Db

/-- A database holding only the public schema, with the connection on it. -/
def initial (env : Env) : Db := ⟨[], 1, [env.publicSchema], [], env.publicSchema⟩

/-- The provisioning steps the log records for one schema, in order. -/
def eventsOf (db : Db) (name : String) : List Provision :=
  (db.log.filter (·.1 = name)).map Prod.snd

/-- The schemas the log records as created, in order. -/
def createdSchemas (db : Db) : List String :=
  (db.log.filter (·.2 = .created)).map Prod.fst

/-- `Model.save`, which `Tenant.save` calls past `TenantMixin`, on a table whose
`schema_name` is unique. A new instance is inserted under the sequence's next key,
which the insert draws even when it fails; an instance with a key updates its row,
or is inserted under that key when there is none. A key or a schema name that
another row has raises `IntegrityError`, and the row write is rolled back. -/
def saveRow (db : Db) (tenant : Tenant) : Except TenantError Tenant × Db :=
  match tenant.pk with
  | none =>
      if db.tenants.any fun row => row.1 = db.nextPk ∨ row.2 = tenant.schemaName then
        (.error (.integrityError "duplicate key value violates unique constraint"),
          { db with nextPk := db.nextPk + 1 })
      else
        (.ok ⟨some db.nextPk, tenant.schemaName⟩,
          { db with tenants := db.tenants ++ [(db.nextPk, tenant.schemaName)], nextPk := db.nextPk + 1 })
  | some pk =>
      if db.tenants.any fun row => row.1 ≠ pk ∧ row.2 = tenant.schemaName then
        (.error (.integrityError "duplicate key value violates unique constraint"), db)
      else if db.tenants.any (·.1 = pk) then
        (.ok tenant, { db with
          tenants := db.tenants.map fun row => if row.1 = pk then (pk, tenant.schemaName) else row })
      else (.ok tenant, { db with tenants := db.tenants ++ [(pk, tenant.schemaName)] })

end Db

/-- The calls `create_schema` makes after `CREATE SCHEMA`, with whether each raises:
`migrate_schemas` when `sync_schema`, then `seed_permissions`, `seed_roles` and
`seed_group`. -/
def Faults.calls (faults : Faults) (syncSchema : Bool) : List (Provision × Bool) :=
  (if syncSchema then [(.migrated, faults.migrate)] else []) ++
    [(.seededPermissions, faults.seedPermissions), (.seededRoles, faults.seedRoles),
      (.seededGroup, faults.seedGroup)]

/-- The calls in turn: each that returns is recorded in the log; the first that
raises stops the rest, and its exception escapes. -/
def provision (name : String) : List (Provision × Bool) → Db → Except TenantError Unit × Db
  | [], db => (.ok (), db)
  | (call, raises) :: rest, db =>
      if raises then (.error (.raisedBy call), db)
      else provision name rest { db with log := db.log ++ [(name, call)] }

namespace Tenant

variable (env : Env)

/-- `Tenant.save()`: a new tenant only from the public schema, an existing one only
from its own schema or the public schema; then the row. -/
def save (tenant : Tenant) (db : Db) : Except TenantError Tenant × Db :=
  if tenant.pk = none ∧ db.currentSchema ≠ env.publicSchema then
    (.error (.exception
      ("Can't create tenant outside the public schema. Current schema is " ++ db.currentSchema ++ ".")), db)
  else if tenant.pk ≠ none ∧ db.currentSchema ∉ [tenant.schemaName, env.publicSchema] then
    (.error (.exception
      ("Can't update tenant outside it's own schema or the public schema. Current schema is " ++
        db.currentSchema ++ ".")), db)
  else db.saveRow tenant

/-- `Tenant.create_schema(check_if_exists, sync_schema)`: `False` when asked to
check and the schema exists; otherwise `CREATE SCHEMA`, which takes effect at once,
then the calls in turn, and the connection set back to the public schema; the
method falls off its end: `None`, never `True`. -/
def createSchema (faults : Faults) (tenant : Tenant) (checkIfExists syncSchema : Bool) (db : Db) :
    Except TenantError (Option Bool) × Db :=
  if env.checkSchemaName tenant.schemaName = false then (.error (.invalidSchemaName tenant.schemaName), db)
  else if checkIfExists ∧ tenant.schemaName ∈ db.schemas then (.ok (some false), db)
  else if tenant.schemaName ∈ db.schemas then (.error (.duplicateSchema tenant.schemaName), db)
  else
    let created := { db with
      schemas := db.schemas ++ [tenant.schemaName], log := db.log ++ [(tenant.schemaName, .created)] }
    match provision tenant.schemaName (faults.calls syncSchema) created with
    | (.error e, db) => (.error e, db)
    | (.ok (), db) => (.ok none, { db with currentSchema := env.publicSchema })

end Tenant

variable (env : Env)

/-- Whatever it is given, `create_schema` never returns `True`, though its docstring
says it does when it created the schema. -/
theorem createSchema_ne_true (faults : Faults) (tenant : Tenant) (checkIfExists syncSchema : Bool) (db : Db) :
    (tenant.createSchema env faults checkIfExists syncSchema db).1 ≠ .ok (some true) := by
  unfold Tenant.createSchema
  split_ifs
  · nofun
  · nofun
  · nofun
  · dsimp only
    split <;> nofun

/-- `schema_handler`, the `post_save` hook: `create_schema(check_if_exists=True)`
once the transaction commits. -/
def schemaHandler (faults : Faults) (tenant : Tenant) (db : Db) : Except TenantError (Option Bool) × Db :=
  tenant.createSchema env faults true true db

/-- `tenant.save()` in a transaction of its own: the save, then at commit the hook,
whose exception surfaces after the row is committed. -/
def saveAndCommit (faults : Faults) (tenant : Tenant) (db : Db) : Except TenantError Tenant × Db :=
  match tenant.save env db with
  | (.error e, db) => (.error e, db)
  | (.ok saved, db) =>
      match schemaHandler env faults saved db with
      | (.error e, db) => (.error e, db)
      | (.ok _, db) => (.ok saved, db)

/-- One step of a run: a save, with the calls of its hook that raise, or a request
switching the connection to a schema. -/
inductive Step where
  | save (tenant : Tenant) (faults : Faults)
  | setSchema (schemaName : String)
deriving DecidableEq, Repr

/-- The calls that raise in a step. -/
def Step.faults : Step → Faults
  | .save _ faults => faults
  | .setSchema _ => Faults.none

/-- The database after one step. -/
def Step.run : Step → Db → Db
  | .save tenant faults, db => (saveAndCommit env faults tenant db).2
  | .setSchema schemaName, db => { db with currentSchema := schemaName }

/-- The database after a run of steps. -/
def runSteps : List Step → Db → Db
  | [], db => db
  | step :: rest, db => runSteps rest (step.run env db)

/-! ## The provisioning log -/

/-- The calls of a hook that return before the first that raises. -/
def Faults.completed (faults : Faults) : List Provision :=
  ((faults.calls true).takeWhile fun call => !call.2).map Prod.fst

theorem Faults.completed_prefix (faults : Faults) : faults.completed <+: Provision.all.tail := by
  have whole : (faults.calls true).map Prod.fst = Provision.all.tail := rfl
  rw [← whole]
  exact (List.takeWhile_prefix _).map _

theorem provision_eq (name : String) :
    ∀ (calls : List (Provision × Bool)) (db : Db), (provision name calls db).2 =
      { db with log := db.log ++ ((calls.takeWhile fun call => !call.2).map Prod.fst).map (name, ·) }
  | [], db => by simp [provision]
  | (call, raises) :: rest, db => by
      cases raises
      · simp [provision, provision_eq name rest, List.append_assoc]
      · simp [provision]

/-- A schema created with the steps `done` after `CREATE SCHEMA`. -/
def Db.create (db : Db) (name : String) (done : List Provision) (current : String) : Db :=
  { db with
    schemas := db.schemas ++ [name], log := db.log ++ (.created :: done).map (name, ·), currentSchema := current }

theorem Db.eventsOf_create (db : Db) (name name' : String) (done : List Provision) (current : String) :
    (db.create name done current).eventsOf name' =
      db.eventsOf name' ++ if name = name' then .created :: done else [] := by
  by_cases same : name = name'
  · subst same
    simp [Db.eventsOf, Db.create, List.filter_map, Function.comp_def]
  · simp [Db.eventsOf, Db.create, List.filter_map, Function.comp_def, same]

theorem Db.createdSchemas_create (db : Db) (name : String) {done : List Provision}
    (later : done <+: Provision.all.tail) (current : String) :
    (db.create name done current).createdSchemas = db.createdSchemas ++ [name] := by
  have notCreated : ∀ call ∈ done, call ≠ .created := fun call member => by
    have listed := later.subset member
    simp only [Provision.all, List.tail_cons, List.mem_cons, List.mem_singleton, List.not_mem_nil,
      or_false] at listed
    rcases listed with rfl | rfl | rfl | rfl <;> nofun
  simp [Db.createdSchemas, Db.create, List.filter_map, Function.comp_def]
  exact notCreated

/-! ## One step -/

/-- No two rows share a key or a schema name. -/
def RowsUnique (rows : List (Nat × String)) : Prop :=
  rows.Pairwise fun a b => a.1 ≠ b.1 ∧ a.2 ≠ b.2

theorem RowsUnique.append {rows : List (Nat × String)} (unique : RowsUnique rows) {row : Nat × String}
    (fresh : ∀ old ∈ rows, old.1 ≠ row.1 ∧ old.2 ≠ row.2) : RowsUnique (rows ++ [row]) :=
  List.pairwise_append.2 ⟨unique, List.pairwise_singleton _ _, fun old member _ new =>
    List.mem_singleton.1 new ▸ fresh old member⟩

/-- Renaming the row with key `pk` keeps the rows unique when no other row has the
new name. -/
theorem RowsUnique.rename {rows : List (Nat × String)} (unique : RowsUnique rows) (pk : Nat) (name : String)
    (fresh : ∀ old ∈ rows, old.1 ≠ pk → old.2 ≠ name) :
    RowsUnique (rows.map fun row => if row.1 = pk then (pk, name) else row) := by
  refine List.pairwise_map.2 (unique.imp_of_mem fun {a b} memberA memberB differ => ?_)
  by_cases keyA : a.1 = pk <;> by_cases keyB : b.1 = pk <;> simp only [keyA, keyB, if_true, if_false]
  · exact absurd (keyA.trans keyB.symm) differ.1
  · exact ⟨keyA ▸ differ.1, (fresh b memberB keyB).symm⟩
  · exact ⟨keyB ▸ differ.1, fresh a memberA keyA⟩
  · exact differ

/-- What a row write does: it changes the rows and the sequence alone, keeps the rows
unique, and every row it leaves is an old one or carries the name it saved. -/
theorem saveRow_spec (db : Db) (tenant : Tenant) :
    ∃ rows next, (db.saveRow tenant).2 = { db with tenants := rows, nextPk := next } ∧
      (RowsUnique db.tenants → RowsUnique rows) ∧
      ∀ row ∈ rows, row ∈ db.tenants ∨ ∃ saved, (db.saveRow tenant).1 = .ok saved ∧ saved.schemaName = row.2 := by
  have appended : ∀ (pk : Nat) (saved : Tenant), saved.schemaName = tenant.schemaName →
      ∀ row ∈ db.tenants ++ [(pk, tenant.schemaName)],
        row ∈ db.tenants ∨ ∃ found, (.ok saved : Except TenantError Tenant) = .ok found ∧ found.schemaName = row.2 :=
    fun _ saved named row member => (List.mem_append.1 member).imp_right fun last => by
      rw [List.mem_singleton.1 last]
      exact ⟨saved, rfl, named⟩
  unfold Db.saveRow
  split
  · split
    · exact ⟨db.tenants, _, rfl, id, fun row member => .inl member⟩
    · next taken =>
      simp only [List.any_eq_true, decide_eq_true_eq, not_exists, not_and, not_or] at taken
      exact ⟨_, _, rfl, fun unique => unique.append fun old member => taken old member,
        appended _ ⟨some db.nextPk, tenant.schemaName⟩ rfl⟩
  · next pk _ =>
    split
    · exact ⟨db.tenants, _, rfl, id, fun row member => .inl member⟩
    · next taken =>
      simp only [List.any_eq_true, decide_eq_true_eq, not_exists, not_and] at taken
      split
      · refine ⟨_, _, rfl, fun unique => unique.rename pk tenant.schemaName fun old member other =>
          taken old member other, fun row member => ?_⟩
        obtain ⟨old, kept, rfl⟩ := List.mem_map.1 member
        split
        exacts [.inr ⟨tenant, rfl, rfl⟩, .inl kept]
      · next absent =>
        simp only [List.any_eq_true, decide_eq_true_eq, not_exists, not_and] at absent
        exact ⟨_, _, rfl, fun unique => unique.append fun old member =>
          ⟨absent old member, taken old member (absent old member)⟩, appended _ tenant rfl⟩

/-- `Tenant.save` writes as the row write does, or, refused by a guard, not at all. -/
theorem save_spec (tenant : Tenant) (db : Db) :
    ∃ rows next, (tenant.save env db).2 = { db with tenants := rows, nextPk := next } ∧
      (RowsUnique db.tenants → RowsUnique rows) ∧
      ∀ row ∈ rows, row ∈ db.tenants ∨ ∃ saved, (tenant.save env db).1 = .ok saved ∧ saved.schemaName = row.2 := by
  unfold Tenant.save
  split
  · exact ⟨db.tenants, db.nextPk, rfl, id, fun row member => .inl member⟩
  split
  · exact ⟨db.tenants, db.nextPk, rfl, id, fun row member => .inl member⟩
  exact saveRow_spec db tenant

/-- What the commit hook does to the database: nothing when the name is rejected or
the schema exists; otherwise it creates the schema and records the calls that
returned before the first that raised. -/
theorem schemaHandler_cases (faults : Faults) (tenant : Tenant) (db : Db) :
    (env.checkSchemaName tenant.schemaName = false ∨ tenant.schemaName ∈ db.schemas) ∧
        (schemaHandler env faults tenant db).2 = db ∨
      tenant.schemaName ∉ db.schemas ∧ ∃ current,
        (schemaHandler env faults tenant db).2 = db.create tenant.schemaName faults.completed current := by
  unfold schemaHandler Tenant.createSchema
  split
  · next rejected => exact .inl ⟨.inl rejected, rfl⟩
  split
  · next found => exact .inl ⟨.inr found.2, rfl⟩
  split
  · next unchecked found => exact absurd ⟨rfl, found⟩ unchecked
  next absent =>
  have provisioned := provision_eq tenant.schemaName (faults.calls true)
    { db with schemas := db.schemas ++ [tenant.schemaName], log := db.log ++ [(tenant.schemaName, .created)] }
  refine .inr ⟨absent, ?_⟩
  dsimp only
  split
  · next e db' ran =>
    rw [ran] at provisioned
    subst provisioned
    exact ⟨db.currentSchema, by simp [Db.create, Faults.completed, List.append_assoc]⟩
  · next db' ran =>
    rw [ran] at provisioned
    subst provisioned
    exact ⟨env.publicSchema, by simp [Db.create, Faults.completed, List.append_assoc]⟩

theorem saveAndCommit_db (faults : Faults) (tenant : Tenant) (db : Db) :
    (∀ saved, (tenant.save env db).1 ≠ .ok saved) ∧
        (saveAndCommit env faults tenant db).2 = (tenant.save env db).2 ∨
      ∃ saved, (tenant.save env db).1 = .ok saved ∧
        (saveAndCommit env faults tenant db).2 = (schemaHandler env faults saved (tenant.save env db).2).2 := by
  unfold saveAndCommit
  split
  · next e db' same => exact .inl ⟨fun saved => by rw [same]; nofun, by rw [same]⟩
  · next saved db' same =>
    refine .inr ⟨saved, by rw [same], ?_⟩
    rw [same]
    split <;> next _ _ handled => rw [handled]

/-- What one step can do: write the rows and the sequence, move the connection, and
create one schema that did not exist, recording the calls of its hook that returned.
A row it adds has its schema or a rejected name, or is the schema it creates. -/
theorem Step.run_cases (step : Step) (db : Db) :
    ∃ rows next, (RowsUnique db.tenants → RowsUnique rows) ∧
      (((∃ current, step.run env db = { db with tenants := rows, nextPk := next, currentSchema := current }) ∧
          ∀ row ∈ rows, row ∈ db.tenants ∨ (env.checkSchemaName row.2 = true → row.2 ∈ db.schemas)) ∨
        ∃ name current, name ∉ db.schemas ∧
          step.run env db = { db with tenants := rows, nextPk := next }.create name step.faults.completed current ∧
          ∀ row ∈ rows, row ∈ db.tenants ∨ row.2 = name) := by
  cases step with
  | setSchema schemaName =>
    exact ⟨db.tenants, db.nextPk, id, .inl ⟨⟨schemaName, rfl⟩, fun row member => .inl member⟩⟩
  | save tenant faults =>
    obtain ⟨rows, next, written, unique, rowsFrom⟩ := save_spec env tenant db
    refine ⟨rows, next, unique, ?_⟩
    rcases saveAndCommit_db env faults tenant db with ⟨refused, same⟩ | ⟨saved, ok, same⟩
    · refine .inl ⟨⟨db.currentSchema, by rw [Step.run, same, written]⟩, fun row member => ?_⟩
      rcases rowsFrom row member with old | ⟨saved, ok, -⟩
      · exact .inl old
      · exact absurd ok (refused saved)
    · have named : ∀ row ∈ rows, row ∈ db.tenants ∨ row.2 = saved.schemaName := fun row member =>
        (rowsFrom row member).imp_right fun ⟨found, okFound, name⟩ => by
          rw [ok] at okFound
          cases okFound
          exact name.symm
      rw [written] at same
      rcases schemaHandler_cases env faults saved { db with tenants := rows, nextPk := next } with
        ⟨rejectedOrFound, unchanged⟩ | ⟨absent, current, created⟩
      · refine .inl ⟨⟨db.currentSchema, by rw [Step.run, same, unchanged]⟩, fun row member => ?_⟩
        rcases named row member with old | renamed
        · exact .inl old
        · refine .inr fun accepted => ?_
          rw [renamed] at accepted ⊢
          exact rejectedOrFound.resolve_left (by rw [accepted]; nofun)
      · exact .inr ⟨saved.schemaName, current, absent, by rw [Step.run, same, created]; rfl, named⟩

/-! ## The invariants over runs -/

/-- What every run from `Db.initial` keeps, whatever its calls raise. -/
structure Provisioned (db : Db) : Prop where
  schemas_eq : db.schemas = env.publicSchema :: db.createdSchemas
  schemas_nodup : db.schemas.Nodup
  eventsOf_prefix : ∀ name, db.eventsOf name <+: Provision.all
  eventsOf_of_not_mem : ∀ name ∉ db.schemas, db.eventsOf name = []
  rows_unique : RowsUnique db.tenants
  tenants_have_schemas : ∀ row ∈ db.tenants, env.checkSchemaName row.2 = true → row.2 ∈ db.schemas

theorem Provisioned.initial : Provisioned env (Db.initial env) :=
  ⟨rfl, List.nodup_singleton _, fun _ => List.nil_prefix, fun _ _ => rfl, List.Pairwise.nil,
    fun _ absent => nomatch absent⟩

/-- Every schema the log records as created was provisioned whole. -/
def Complete (db : Db) : Prop := ∀ name ∈ db.createdSchemas, db.eventsOf name = Provision.all

variable {env}

/-- Creating a schema that does not exist, with new rows that have their schemas
then, keeps the invariant. -/
theorem Provisioned.create {db : Db} (provisioned : Provisioned env db) {name : String}
    (absent : name ∉ db.schemas) (faults : Faults) (current : String) {rows : List (Nat × String)} (next : Nat)
    (unique : RowsUnique rows) (rowsFrom : ∀ row ∈ rows, row ∈ db.tenants ∨ row.2 = name) :
    Provisioned env ({ db with tenants := rows, nextPk := next }.create name faults.completed current) := by
  have fresh : ({ db with tenants := rows, nextPk := next } : Db).eventsOf name = [] :=
    provisioned.eventsOf_of_not_mem name absent
  refine ⟨?_, ?_, fun name' => ?_, fun name' outside => ?_, unique, fun row member accepted => ?_⟩
  · rw [Db.createdSchemas_create _ _ faults.completed_prefix]
    exact congrArg (· ++ [name]) provisioned.schemas_eq
  · exact provisioned.schemas_nodup.append (List.nodup_singleton _) (List.disjoint_singleton.2 absent)
  · rw [Db.eventsOf_create]
    split
    · next same =>
      rw [← same, fresh, List.nil_append]
      exact List.cons_prefix_cons.2 ⟨rfl, faults.completed_prefix⟩
    · rw [List.append_nil]
      exact provisioned.eventsOf_prefix name'
  · have outside' : name' ∉ db.schemas ∧ ¬name' = name := by simpa [Db.create] using outside
    rw [Db.eventsOf_create, if_neg (Ne.symm outside'.2), List.append_nil]
    exact provisioned.eventsOf_of_not_mem name' outside'.1
  · rcases rowsFrom row member with old | new
    · exact List.mem_append_left _ (provisioned.tenants_have_schemas row old accepted)
    · exact List.mem_append_right _ (List.mem_singleton.2 new)

theorem Provisioned.step {db : Db} (provisioned : Provisioned env db) (step : Step) :
    Provisioned env (step.run env db) := by
  obtain ⟨rows, next, unique, ⟨⟨current, same⟩, rowsHave⟩ | ⟨name, current, absent, same, rowsFrom⟩⟩ :=
    Step.run_cases env step db
  · rw [same]
    refine ⟨provisioned.schemas_eq, provisioned.schemas_nodup, provisioned.eventsOf_prefix,
      provisioned.eventsOf_of_not_mem, unique provisioned.rows_unique, fun row member accepted => ?_⟩
    rcases rowsHave row member with old | has
    · exact provisioned.tenants_have_schemas row old accepted
    · exact has accepted
  · rw [same]
    exact provisioned.create absent step.faults current next (unique provisioned.rows_unique) rowsFrom

/-- A step whose calls all return keeps every created schema whole. -/
theorem Complete.step {db : Db} (provisioned : Provisioned env db) (complete : Complete db) (step : Step)
    (faultFree : step.faults = Faults.none) : Complete (step.run env db) := by
  obtain ⟨rows, next, -, ⟨⟨current, same⟩, -⟩ | ⟨name, current, absent, same, -⟩⟩ := Step.run_cases env step db
  · rw [same]
    exact complete
  · rw [same, faultFree]
    intro name' created
    rw [Db.createdSchemas_create _ _ Faults.none.completed_prefix] at created
    rw [Db.eventsOf_create]
    rcases List.mem_append.1 created with old | new
    · have other : name ≠ name' := fun same =>
        absent (same ▸ provisioned.schemas_eq ▸ List.mem_cons_of_mem _ old)
      rw [if_neg other, List.append_nil]
      exact complete name' old
    · rw [List.mem_singleton.1 new, if_pos rfl]
      rw [show ({ db with tenants := rows, nextPk := next } : Db).eventsOf name = [] from
        provisioned.eventsOf_of_not_mem name absent]
      rfl

theorem Step.run_eventsOf_of_mem (step : Step) {db : Db} {name : String} (present : name ∈ db.schemas) :
    (step.run env db).eventsOf name = db.eventsOf name ∧ name ∈ (step.run env db).schemas := by
  obtain ⟨rows, next, -, ⟨⟨current, same⟩, -⟩ | ⟨created, current, absent, same, -⟩⟩ :=
    Step.run_cases env step db
  · rw [same]
    exact ⟨rfl, present⟩
  · rw [same, Db.eventsOf_create, if_neg fun (renamed : created = name) => absent (renamed ▸ present),
      List.append_nil]
    exact ⟨rfl, List.mem_append_left _ present⟩

/-- Once a schema exists, no step of any run provisions it further: every later
commit hook finds it and returns `False`, so a schema whose `migrate_schemas` or
seeder raised stays as the failure left it. -/
theorem runSteps_eventsOf_of_mem (env : Env) : ∀ (steps : List Step) {db : Db} {name : String},
    name ∈ db.schemas → (runSteps env steps db).eventsOf name = db.eventsOf name
  | [], _, _, _ => rfl
  | step :: rest, _, _, present =>
      let stepped := Step.run_eventsOf_of_mem step present
      (runSteps_eventsOf_of_mem env rest stepped.2).trans stepped.1

/-- Tenant `acme` is saved while `migrate_schemas` raises: its schema is created and
never migrated, however often tenants are saved after. -/
theorem runSteps_eventsOf_of_mem_failed_migration :
    let env : Env := ⟨"public", fun _ => true⟩
    let failed := runSteps env [.save ⟨none, "acme"⟩ ⟨true, false, false, false⟩] (Db.initial env)
    "acme" ∈ failed.schemas ∧ failed.eventsOf "acme" = [.created] ∧
      (runSteps env [.save ⟨some 1, "acme"⟩ Faults.none, .save ⟨none, "beta"⟩ Faults.none] failed).eventsOf
        "acme" = [.created] := by
  intro env failed
  exact ⟨by decide, rfl, (runSteps_eventsOf_of_mem env _ (by decide)).trans rfl⟩

end InsightsRbac.Api
