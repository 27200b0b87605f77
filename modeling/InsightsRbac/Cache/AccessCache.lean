import InsightsRbac.Cache.Redis
import InsightsRbac.Python.Encoder

/-!
Contract: `cache.py`. `AccessCache(tenant)` caches a principal's access policy per
application, as `json.dumps` text in the Redis hash
`rbac::policy::tenant=<tenant>::user=<uuid>`; `TenantCache` caches a pickled tenant
under `rbac::tenant::schema=<schema_name>`. Both share one Redis database.

Owns: every method of both classes as the code runs it, over any failure of any
round trip: the `connection` property and its `PING`, the `ACCESS_CACHE_ENABLED`
checks, the pipelines, the `delete_handler` context manager (whose generator returns
without yielding when the cache is disabled, so that every delete raises
`RuntimeError`), which exceptions each method swallows, and the one that escapes
`save_policy`: what `json.dumps` raises past the interpreter's limits. On top of
them: `getPolicy_savePolicy` (a saved policy is read back as `json.loads` of its
`json.dumps`, the lifetime being positive, since `EXPIRE` with a timeout that is not
positive deletes the key); the run invariant `Stored`, with `getPolicy_after_run`
(over any run of calls of both classes, with any failures and expiries,
`get_policy` raises nothing and returns only a policy saved for the same tenant,
user and application); `deleteAllPoliciesForTenant_get?` (the purge drops exactly
the tenant's policies); and that with the cache disabled a run writes only what its
`TenantCache.save` calls write (`runCalls_of_disabled`).

Does not own: `pickle` (`TenantCache.save` is given the pickled bytes, and
`TenantCache.get` returns the bytes it finds); logging; the connection pool; and
the lifetime of an instance: a call may find its instance connected or not, and the
runs allow both.
-/

namespace InsightsRbac.Cache

open InsightsRbac.Python

/-- The settings `cache.py` reads, and the interpreter limits its `json.dumps` runs
under. -/
structure Settings where
  accessCacheEnabled : Bool
  /-- `ACCESS_CACHE_LIFETIME`, an `int` of the environment, passed to `EXPIRE` as it is. -/
  accessCacheLifetime : Int
  limits : Limits
deriving DecidableEq, Repr

/-- How the round trips of one call end: the `PING` of a new connection, the call's
first command or pipeline, and the `DEL` the purge sends after its `KEYS`. -/
structure Faults where
  ping : Link
  command : Link
  delete : Link
deriving DecidableEq, Repr

/-- Every round trip answered. -/
def Faults.none : Faults := ⟨.answered, .answered, .answered⟩

/-- What a call lets escape. -/
inductive CacheError where
  /-- The `RuntimeError("generator didn't yield")` of `contextlib.contextmanager`. -/
  | runtimeError (msg : String)
  | jsonDecodeError (error : JSONDecodeError)
  /-- The `RecursionError` or `ValueError` of `json.dumps` in `save_policy`. -/
  | dumpsError (error : PyError)
deriving DecidableEq, Repr

/-! ## Shared by both classes -/

/-- The `connection` property of both classes: a new connection must answer a
`PING`; when it does not, the instance is left without one and the `RedisError` is
raised. -/
def connection (connected : Bool) (ping : Link) : Except RedisError Unit × Bool :=
  if connected then (.ok (), true)
  else
    match ping with
    | .answered => (.ok (), true)
    | _ => (.error .connection, false)

/-- `delete_handler(err_msg)` of both classes. With the cache disabled its generator
returns before its `yield`, so entering the `with` block raises `RuntimeError`;
otherwise the block runs, and a `RedisError` it raises is logged and swallowed. -/
def deleteHandler (settings : Settings)
    (block : Keyspace → Bool → Except RedisError Unit × Keyspace × Bool) (db : Keyspace)
    (connected : Bool) : Except CacheError Unit × Keyspace × Bool :=
  if settings.accessCacheEnabled then
    let (_, db', connected') := block db connected
    (.ok (), db', connected')
  else (.error (.runtimeError "generator didn't yield"), db, connected)

/-- The block of `delete_policy` and of `TenantCache.delete`: `DEL key`. -/
def deleteKey (faults : Faults) (key : String) (db : Keyspace) (connected : Bool) :
    Except RedisError Unit × Keyspace × Bool :=
  match connection connected faults.ping with
  | (.error e, connected) => (.error e, db, connected)
  | (.ok (), connected) =>
      let (reply, db) := roundTrip faults.command (fun db => (.ok (), db.delete [key])) db
      (reply, db, connected)

/-- The `try` of `save_policy` and of `TenantCache.save`: the connection; the text to
write (`json.dumps(policy)`, or the pickled tenant), computed before the pipeline
is sent; one pipeline of the write and `EXPIRE key ACCESS_CACHE_LIFETIME`. Every
`RedisError` is logged, and the `finally`'s `pipe.reset()` swallows its own; what
`json.dumps` raises escapes. -/
def pipelineSave (settings : Settings) (faults : Faults) (key : String) (text : Except PyError String)
    (write : String → Keyspace → Except RedisError Keyspace) (db : Keyspace) (connected : Bool) :
    Except CacheError Unit × Keyspace × Bool :=
  match connection connected faults.ping with
  | (.error _, connected) => (.ok (), db, connected)
  | (.ok (), connected) =>
      match text with
      | .error e => (.error (.dumpsError e), db, connected)
      | .ok text =>
          (.ok (), (roundTrip faults.command
            (exec [write text, fun db => .ok (db.expire key settings.accessCacheLifetime)]) db).2, connected)

/-! ## `AccessCache` -/

/-- An `AccessCache(tenant)` instance: its tenant, and whether it holds a connection. -/
structure AccessCache where
  tenant : String
  connected : Bool
deriving DecidableEq, Repr

namespace AccessCache

variable (settings : Settings) (faults : Faults)

/-- `key_for(uuid)`. -/
def keyFor (cache : AccessCache) (uuid : String) : String :=
  "rbac::policy::tenant=" ++ cache.tenant ++ "::user=" ++ uuid

/-- `get_policy(uuid, application)`: `json.loads` of the hash field; `None` when the
cache is disabled, the field is missing or empty, or Redis raises. A
`JSONDecodeError` escapes. The keyspace is only read. -/
def getPolicy (cache : AccessCache) (uuid application : String) (db : Keyspace) :
    Except CacheError (Option JsonValue) × Bool :=
  if settings.accessCacheEnabled then
    match connection cache.connected faults.ping with
    | (.error _, connected) => (.ok none, connected)
    | (.ok (), connected) =>
        match (roundTrip faults.command (fun db => (db.hget (cache.keyFor uuid) application, db)) db).1 with
        | .ok (some policyString) =>
            if policyString = "" then (.ok none, connected)
            else
              match loads policyString with
              | .ok policy => (.ok (some policy), connected)
              | .error e => (.error (.jsonDecodeError e), connected)
        | _ => (.ok none, connected)
  else (.ok none, cache.connected)

/-- `save_policy(uuid, application, policy)`: nothing when the cache is disabled;
otherwise `HSET key application json.dumps(policy)` and its `EXPIRE` in one
pipeline. Only what `json.dumps` raises escapes. -/
def savePolicy (cache : AccessCache) (uuid application : String) (policy : PyValue)
    (db : Keyspace) : Except CacheError Unit × Keyspace × Bool :=
  if settings.accessCacheEnabled then
    pipelineSave settings faults (cache.keyFor uuid) (jsonDumps settings.limits policy)
      (fun text db => db.hset (cache.keyFor uuid) application text) db cache.connected
  else (.ok (), db, cache.connected)

/-- `delete_policy(uuid)`. -/
def deletePolicy (cache : AccessCache) (uuid : String) (db : Keyspace) :
    Except CacheError Unit × Keyspace × Bool :=
  deleteHandler settings (deleteKey faults (cache.keyFor uuid)) db cache.connected

/-- The block of `delete_all_policies_for_tenant`: `KEYS key_for("*")`, then `DEL` of
the keys it listed, if there are any. -/
def purgeBlock (cache : AccessCache) (db : Keyspace) (connected : Bool) :
    Except RedisError Unit × Keyspace × Bool :=
  match connection connected faults.ping with
  | (.error e, connected) => (.error e, db, connected)
  | (.ok (), connected) =>
      match roundTrip faults.command (fun db => (.ok (db.keysMatching (cache.keyFor "*")), db)) db with
      | (.error e, db) => (.error e, db, connected)
      | (.ok keys, db) =>
          if keys.isEmpty then (.ok (), db, connected)
          else
            let (reply, db) := roundTrip faults.delete (fun db => (.ok (), db.delete keys)) db
            (reply, db, connected)

/-- `delete_all_policies_for_tenant()`. -/
def deleteAllPoliciesForTenant (cache : AccessCache) (db : Keyspace) :
    Except CacheError Unit × Keyspace × Bool :=
  deleteHandler settings (purgeBlock faults cache) db cache.connected

end AccessCache

/-! ## `TenantCache` -/

/-- A `TenantCache()` instance: whether it holds a connection. -/
structure TenantCache where
  connected : Bool
deriving DecidableEq, Repr

namespace TenantCache

variable (settings : Settings) (faults : Faults)

/-- `key_for(schema_name)`. -/
def keyFor (schemaName : String) : String := "rbac::tenant::schema=" ++ schemaName

/-- `get(schema_name)`: the pickled tenant; `None` when it is missing or empty or
Redis raises. It does not read `ACCESS_CACHE_ENABLED`. -/
def get (cache : TenantCache) (schemaName : String) (db : Keyspace) : Option String × Bool :=
  match connection cache.connected faults.ping with
  | (.error _, connected) => (none, connected)
  | (.ok (), connected) =>
      match (roundTrip faults.command (fun db => (db.get (keyFor schemaName), db)) db).1 with
      | .ok (some pickled) => (if pickled = "" then none else some pickled, connected)
      | _ => (none, connected)

/-- `save(tenant)`, given `pickle.dumps(tenant)`: `SET` and `EXPIRE` in one pipeline.
It does not read `ACCESS_CACHE_ENABLED`. -/
def save (cache : TenantCache) (schemaName pickled : String) (db : Keyspace) : Keyspace × Bool :=
  (pipelineSave settings faults (keyFor schemaName) (.ok pickled)
    (fun pickled db => .ok (db.set (keyFor schemaName) pickled)) db cache.connected).2

/-- `delete(tenant)`. -/
def delete (cache : TenantCache) (schemaName : String) (db : Keyspace) :
    Except CacheError Unit × Keyspace × Bool :=
  deleteHandler settings (deleteKey faults (keyFor schemaName)) db cache.connected

end TenantCache

/-! ## Runs -/

/-- One call on the shared database, or Redis dropping a key whose time to live ran
out. -/
inductive Call where
  | getPolicy (cache : AccessCache) (uuid application : String)
  | savePolicy (cache : AccessCache) (uuid application : String) (policy : PyValue)
  | deletePolicy (cache : AccessCache) (uuid : String)
  | deleteAllPoliciesForTenant (cache : AccessCache)
  | getTenant (cache : TenantCache) (schemaName : String)
  | saveTenant (cache : TenantCache) (schemaName pickled : String)
  | deleteTenant (cache : TenantCache) (schemaName : String)
  | lapse (key : String)

/-- The keyspace after one call. -/
def Call.run (settings : Settings) (faults : Faults) : Call → Keyspace → Keyspace
  | .getPolicy _ _ _, db => db
  | .savePolicy cache uuid application policy, db =>
      (cache.savePolicy settings faults uuid application policy db).2.1
  | .deletePolicy cache uuid, db => (cache.deletePolicy settings faults uuid db).2.1
  | .deleteAllPoliciesForTenant cache, db => (cache.deleteAllPoliciesForTenant settings faults db).2.1
  | .getTenant _ _, db => db
  | .saveTenant cache schemaName pickled, db => (cache.save settings faults schemaName pickled db).1
  | .deleteTenant cache schemaName, db => (cache.delete settings faults schemaName db).2.1
  | .lapse key, db => db.lapse key

/-- A run of calls from `db`, each with how its round trips end. -/
def runCalls (settings : Settings) : List (Call × Faults) → Keyspace → Keyspace
  | [], db => db
  | (call, faults) :: rest, db => runCalls settings rest (call.run settings faults db)

/-! ## Keys

`key_for` writes the tenant and the user between fixed separators. With the
tenant a schema name (no `:` and no glob character), a policy key names its tenant
and user, and `key_for("*")` matches exactly that tenant's keys. -/

/-- A name `_check_schema_name` accepts, as `Tenant.create_schema` requires of every
tenant: letters, digits and `_` (the model asks for no more than that). -/
def IsSchemaName (name : String) : Prop := ∀ c ∈ name.toList, c.isAlphanum = true ∨ c = '_'

instance (name : String) : Decidable (IsSchemaName name) :=
  inferInstanceAs (Decidable (∀ c ∈ name.toList, c.isAlphanum = true ∨ c = '_'))

theorem schemaChar_plain {c : Char} (allowed : c.isAlphanum = true ∨ c = '_') :
    isGlobSpecial c = false ∧ c ≠ ':' := by
  rcases allowed with alnum | rfl
  · have differs : ∀ d : Char, d.isAlphanum = false → c ≠ d := fun d no same => by
      rw [same, no] at alnum
      cases alnum
    simp only [isGlobSpecial, differs '*' (by decide), differs '?' (by decide), differs '[' (by decide),
      differs '\\' (by decide), differs ':' (by decide), decide_False, Bool.or_self, ne_eq,
      not_false_eq_true, and_self]
  · decide

theorem append_colon_inj :
    ∀ (t t' r r' : List Char), ':' ∉ t → ':' ∉ t' → t ++ ':' :: r = t' ++ ':' :: r' → t = t' ∧ r = r'
  | [], [], _, _, _, _, same => ⟨rfl, (List.cons.inj same).2⟩
  | [], b :: _, _, _, _, noColon', same => absurd ((List.cons.inj same).1 ▸ .head _) noColon'
  | a :: _, [], _, _, noColon, _, same => absurd ((List.cons.inj same).1 ▸ .head _) noColon
  | a :: t, b :: t', r, r', noColon, noColon', same => by
      obtain ⟨head, tail⟩ := List.cons.inj same
      obtain ⟨tenants, rest⟩ :=
        append_colon_inj t t' r r' (fun member => noColon (.tail _ member))
          (fun member => noColon' (.tail _ member)) tail
      exact ⟨by rw [head, tenants], rest⟩

namespace AccessCache

theorem keyFor_toList (cache : AccessCache) (uuid : String) :
    (cache.keyFor uuid).toList = "rbac::policy::tenant=".toList ++ cache.tenant.toList ++
      ':' :: ':' :: "user=".toList ++ uuid.toList := rfl

/-- Two tenants without `:` have the same policy key only for the same tenant and
user. -/
theorem keyFor_inj {cache cache' : AccessCache} {uuid uuid' : String}
    (noColon : ':' ∉ cache.tenant.toList) (noColon' : ':' ∉ cache'.tenant.toList)
    (same : cache.keyFor uuid = cache'.keyFor uuid') : cache.tenant = cache'.tenant ∧ uuid = uuid' := by
  have lists := congrArg String.toList same
  simp only [keyFor_toList, List.append_assoc, List.cons_append, List.append_cancel_left_eq] at lists
  obtain ⟨tenants, rest⟩ := append_colon_inj _ _ _ _ noColon noColon' lists
  simp only [List.cons.injEq, List.append_cancel_left_eq, true_and] at rest
  exact ⟨String.ext tenants, String.ext rest⟩

/-- With a schema-name tenant, `key_for("*")` matches exactly the keys `key_for`
gives that tenant. -/
theorem stringmatch_keyFor_star (cache : AccessCache) (tenant : IsSchemaName cache.tenant)
    (key : String) :
    stringmatch (cache.keyFor "*").toList key.toList = true ↔ ∃ uuid, key = cache.keyFor uuid := by
  have plain : ∀ c ∈ (cache.keyFor "").toList, isGlobSpecial c = false := by
    intro c member
    simp only [keyFor_toList, List.mem_append, List.mem_cons] at member
    rcases member with ((fixed | named) | colon | colon | fixed) | empty
    · revert c; decide
    · exact (schemaChar_plain (tenant c named)).1
    · rw [colon]; rfl
    · rw [colon]; rfl
    · revert c; decide
    · cases empty
  have keys : ∀ uuid : String, (cache.keyFor uuid).toList = (cache.keyFor "").toList ++ uuid.toList := by
    intro uuid
    rw [keyFor_toList, keyFor_toList, List.append_assoc _ "".toList]
    rfl
  have nonempty : (cache.keyFor "").toList ≠ [] := by
    rw [keyFor_toList, List.append_assoc, List.append_assoc]
    exact List.append_ne_nil_of_left_ne_nil (by decide) _
  rw [keys, show "*".toList = ['*'] from rfl, stringmatch_prefix_star nonempty plain,
    List.isPrefixOf_iff_prefix]
  constructor
  · rintro ⟨rest, same⟩
    exact ⟨⟨rest⟩, String.ext (same.symm.trans (keys ⟨rest⟩).symm)⟩
  · rintro ⟨uuid, rfl⟩
    exact ⟨uuid.toList, (keys uuid).symm⟩

end AccessCache

/-! ## What each call does to the values -/

/-- `db'` holds no value `db` did not: each key keeps its value or loses it. -/
def Shrinks (db db' : Keyspace) : Prop :=
  ∀ key, db'.value? key = db.value? key ∨ db'.value? key = none

theorem Shrinks.refl (db : Keyspace) : Shrinks db db := fun _ => .inl rfl

theorem Shrinks.found {db db' : Keyspace} (shrinks : Shrinks db db') {key : String} {value : RedisValue}
    (found : db'.value? key = some value) : db.value? key = some value :=
  (shrinks key).elim (· ▸ found) fun gone => by rw [gone] at found; cases found

theorem Shrinks.trans {db db' db'' : Keyspace} (first : Shrinks db db') (second : Shrinks db' db'') :
    Shrinks db db'' := fun key => by
  rcases second key with same | gone
  · rw [same]
    exact first key
  · exact .inr gone

theorem shrinks_delete (db : Keyspace) (keys : List String) : Shrinks db (db.delete keys) :=
  fun key => by
    rw [Keyspace.value?_delete]
    split
    · exact .inr rfl
    · exact .inl rfl

theorem shrinks_expire (db : Keyspace) (key : String) (seconds : Int) :
    Shrinks db (db.expire key seconds) := fun key' => by
  rw [Keyspace.value?_expire]
  split
  · exact .inr rfl
  · exact .inl rfl

theorem shrinks_roundTrip {α : Type} (link : Link) {command : Keyspace → Except RedisError α × Keyspace}
    {db : Keyspace} (shrinks : Shrinks db (command db).2) : Shrinks db (roundTrip link command db).2 := by
  rcases roundTrip_db link command db with same | same <;> rw [same]
  exacts [Shrinks.refl _, shrinks]

theorem deleteHandler_shrinks (settings : Settings)
    {block : Keyspace → Bool → Except RedisError Unit × Keyspace × Bool}
    (shrinks : ∀ db connected, Shrinks db (block db connected).2.1) (db : Keyspace) (connected : Bool) :
    Shrinks db (deleteHandler settings block db connected).2.1 := by
  unfold deleteHandler
  split
  · exact shrinks db connected
  · exact Shrinks.refl _

theorem deleteKey_shrinks (faults : Faults) (key : String) (db : Keyspace) (connected : Bool) :
    Shrinks db (deleteKey faults key db connected).2.1 := by
  unfold deleteKey
  split
  · exact Shrinks.refl _
  · exact shrinks_roundTrip _ (shrinks_delete _ _)

theorem purgeBlock_shrinks (faults : Faults) (cache : AccessCache) (db : Keyspace) (connected : Bool) :
    Shrinks db (cache.purgeBlock faults db connected).2.1 := by
  unfold AccessCache.purgeBlock
  split
  · exact Shrinks.refl _
  · have read : ∀ reply db', roundTrip faults.command
        (fun db => (.ok (db.keysMatching (cache.keyFor "*")), db)) db = (reply, db') → db' = db := by
      intro reply db' trip
      have := roundTrip_db faults.command
        (fun db => (.ok (db.keysMatching (cache.keyFor "*")), db)) db
      rw [trip] at this
      exact this.elim id id
    split
    · next trip => rw [read _ _ trip]; exact Shrinks.refl _
    · next keys db' trip =>
      rw [← read _ _ trip]
      split
      · exact Shrinks.refl _
      · exact shrinks_roundTrip _ (shrinks_delete _ _)

/-! ## The run invariant -/

/-- A hash field under `key` that a `save_policy` among `calls` wrote: the
`json.dumps` of the policy it saved for that key and application. -/
def SavedAt (calls : List Call) (key field text : String) : Prop :=
  ∃ cache uuid policy, Call.savePolicy cache uuid field policy ∈ calls ∧ cache.keyFor uuid = key ∧
    text = dumps policy

/-- What the database holds after `calls`: every hash field was written by one of
their `save_policy` calls, and every string sits under a tenant key. -/
structure Stored (calls : List Call) (db : Keyspace) : Prop where
  fields_saved : ∀ key fields, db.value? key = some (.hash fields) →
    ∀ field text, (field, text) ∈ fields → SavedAt calls key field text
  strings_tenants : ∀ key text, db.value? key = some (.string text) →
    ∃ schemaName, key = TenantCache.keyFor schemaName

section Stored

variable {calls calls' : List Call} {db db' : Keyspace}

theorem Stored.empty : Stored [] Keyspace.empty :=
  ⟨(fun _ _ none => nomatch none), (fun _ _ none => nomatch none)⟩

theorem Stored.mono (stored : Stored calls db) (more : calls ⊆ calls') : Stored calls' db := by
  refine ⟨(fun key fields found field text member => ?_), stored.strings_tenants⟩
  obtain ⟨cache, uuid, policy, saved, keyed, written⟩ := stored.fields_saved key fields found field text member
  exact ⟨cache, uuid, policy, more saved, keyed, written⟩

theorem Stored.shrink (stored : Stored calls db) (shrinks : Shrinks db db') : Stored calls db' :=
  ⟨(fun key fields found => stored.fields_saved key fields (shrinks.found found)),
    (fun key text found => stored.strings_tenants key text (shrinks.found found))⟩

/-- An `HSET` of a field `save_policy` wrote keeps the invariant. -/
theorem Stored.hset {key field text : String} (stored : Stored calls db)
    (written : db.hset key field text = .ok db') (saved : SavedAt calls key field text) :
    Stored calls db' := by
  obtain ⟨fields, old, values⟩ := Keyspace.value?_hset written
  refine ⟨(fun key' fields' found field' text' member => ?_), (fun key' text' found => ?_)⟩
  · rw [values] at found
    split at found
    · next same =>
      cases found
      subst same
      rcases List.mem_cons.1 member with new | kept
      · cases new
        exact saved
      · rcases old with ⟨-, rfl⟩ | holds
        · simp at kept
        · exact stored.fields_saved _ _ holds _ _ (List.mem_of_mem_filter kept)
    · exact stored.fields_saved _ _ found _ _ member
  · rw [values] at found
    split at found
    · cases found
    · exact stored.strings_tenants _ _ found

/-- A `SET` of a tenant keeps the invariant. -/
theorem Stored.set (stored : Stored calls db) (schemaName pickled : String) :
    Stored calls (db.set (TenantCache.keyFor schemaName) pickled) := by
  refine ⟨(fun key fields found => ?_), (fun key text found => ?_)⟩
  · rw [Keyspace.value?_set] at found
    split at found
    · cases found
    · exact stored.fields_saved _ _ found
  · rw [Keyspace.value?_set] at found
    split at found
    · next same => exact ⟨schemaName, same⟩
    · exact stored.strings_tenants _ _ found

end Stored

section Calls

variable (settings : Settings) (faults : Faults) {calls : List Call} {db : Keyspace}

/-- What a save leaves: the keyspace as it was, or the `EXPIRE` run after the write
failed, or after it succeeded. -/
theorem pipelineSave_db (key : String) (text : Except PyError String)
    (write : String → Keyspace → Except RedisError Keyspace) (db : Keyspace) (connected : Bool) :
    (pipelineSave settings faults key text write db connected).2.1 = db ∨ ∃ written, text = .ok written ∧
      ((pipelineSave settings faults key text write db connected).2.1 = db.expire key settings.accessCacheLifetime ∨
        ∃ db', write written db = .ok db' ∧
          (pipelineSave settings faults key text write db connected).2.1 = db'.expire key settings.accessCacheLifetime) := by
  unfold pipelineSave
  split
  · exact .inl rfl
  split
  · exact .inl rfl
  next written =>
  rcases roundTrip_db faults.command (exec [write written, fun db => .ok (db.expire key settings.accessCacheLifetime)])
    db with same | same <;> rw [same]
  · exact .inl rfl
  · rw [exec_expire]
    split
    · next db' stored => exact .inr ⟨written, rfl, .inr ⟨db', stored, rfl⟩⟩
    · exact .inr ⟨written, rfl, .inl rfl⟩

/-- A `save_policy` whose `json.dumps` raises lets its exception escape and leaves
the keyspace as it was. -/
theorem savePolicy_of_dumps_error (cache : AccessCache) (uuid application : String) (policy : PyValue)
    {e : PyError} (raised : jsonDumps settings.limits policy = .error e) (db : Keyspace) :
    (cache.savePolicy settings faults uuid application policy db).2.1 = db ∧
      ((cache.savePolicy settings faults uuid application policy db).1 = .ok () ∨
        (cache.savePolicy settings faults uuid application policy db).1 = .error (.dumpsError e)) := by
  unfold AccessCache.savePolicy pipelineSave
  split
  · split
    · exact ⟨rfl, .inl rfl⟩
    · rw [raised]
      exact ⟨rfl, .inr rfl⟩
  · exact ⟨rfl, .inl rfl⟩

theorem savePolicy_stored (stored : Stored calls db) (cache : AccessCache) (uuid application : String)
    (policy : PyValue) :
    Stored (calls ++ [.savePolicy cache uuid application policy])
      (cache.savePolicy settings faults uuid application policy db).2.1 := by
  have kept := stored.mono (List.subset_append_left calls [.savePolicy cache uuid application policy])
  unfold AccessCache.savePolicy
  split
  · rcases pipelineSave_db settings faults _ _ _ db cache.connected with same | ⟨text, dumped, same | ⟨db', written, same⟩⟩ <;>
      rw [same]
    · exact kept
    · exact kept.shrink (shrinks_expire _ _ _)
    · obtain ⟨-, rfl⟩ := (jsonDumps_eq_ok_iff _ _ _).1 dumped
      exact (kept.hset written ⟨cache, uuid, policy, by simp, rfl, rfl⟩).shrink (shrinks_expire _ _ _)
  · exact kept

theorem saveTenant_stored (stored : Stored calls db) (cache : TenantCache) (schemaName pickled : String)
    (more : List Call) : Stored (calls ++ more) (cache.save settings faults schemaName pickled db).1 := by
  have kept := stored.mono (List.subset_append_left calls more)
  rcases pipelineSave_db settings faults _ (.ok pickled) _ db cache.connected with same | ⟨text, given, same | ⟨db', written, same⟩⟩ <;>
    rw [TenantCache.save, same]
  · exact kept
  · exact kept.shrink (shrinks_expire _ _ _)
  · cases given
    cases written
    exact (kept.set schemaName pickled).shrink (shrinks_expire _ _ _)

/-- One call keeps the invariant, with the call added to those that wrote. -/
theorem Call.run_stored (stored : Stored calls db) (call : Call) :
    Stored (calls ++ [call]) (call.run settings faults db) := by
  have kept := stored.mono (List.subset_append_left calls [call])
  cases call with
  | getPolicy => exact kept
  | savePolicy cache uuid application policy => exact savePolicy_stored settings faults stored _ _ _ _
  | deletePolicy cache uuid =>
    exact kept.shrink (deleteHandler_shrinks settings (deleteKey_shrinks faults _) _ _)
  | deleteAllPoliciesForTenant cache =>
    exact kept.shrink (deleteHandler_shrinks settings (purgeBlock_shrinks faults cache) _ _)
  | getTenant => exact kept
  | saveTenant cache schemaName pickled => exact saveTenant_stored settings faults stored _ _ _ _
  | deleteTenant cache schemaName =>
    exact kept.shrink (deleteHandler_shrinks settings (deleteKey_shrinks faults _) _ _)
  | lapse key => exact kept.shrink (Keyspace.value?_lapse db key)

end Calls

/-- Every run keeps the invariant, with its calls added to those that wrote. -/
theorem runCalls_stored (settings : Settings) :
    ∀ (steps : List (Call × Faults)) {calls : List Call} {db : Keyspace}, Stored calls db →
      Stored (calls ++ steps.map Prod.fst) (runCalls settings steps db)
  | [], _, _, stored => by simpa using stored
  | (call, faults) :: rest, calls, db, stored => by
      have later := runCalls_stored settings rest (Call.run_stored settings faults stored call)
      simpa [runCalls] using later

/-! ## Reading a policy back -/

theorem connection_answered (connected : Bool) : connection connected .answered = (.ok (), true) := by
  cases connected <;> rfl

theorem roundTrip_read {α : Type} (link : Link) (read : Keyspace → Except RedisError α) (db : Keyspace)
    {a : α} (answered : (roundTrip link (fun db => (read db, db)) db).1 = .ok a) : read db = .ok a := by
  cases link with
  | answered => exact answered
  | requestLost => cases answered
  | replyLost => cases answered

theorem IsSchemaName.colon_not_mem {name : String} (schema : IsSchemaName name) : ':' ∉ name.toList :=
  fun member => (schemaChar_plain (schema _ member)).2 rfl

/-- With the cache enabled, a positive lifetime and every round trip answered,
`save_policy` of a policy within the interpreter's limits raises nothing, and
`get_policy` then reads back `json.loads(json.dumps(policy))` on any instance of the
tenant, unless the key holds a string. -/
theorem getPolicy_savePolicy (settings : Settings) (enabled : settings.accessCacheEnabled = true)
    (lives : 0 < settings.accessCacheLifetime) (cache : AccessCache) (uuid application : String)
    (policy : PyValue) (within : WithinLimits settings.limits policy) (db : Keyspace)
    (noString : ∀ text, db.value? (cache.keyFor uuid) ≠ some (.string text)) (connected : Bool) :
    (cache.savePolicy settings Faults.none uuid application policy db).1 = .ok () ∧
      (AccessCache.getPolicy settings Faults.none ⟨cache.tenant, connected⟩ uuid application
        (cache.savePolicy settings Faults.none uuid application policy db).2.1).1 =
          .ok (some policy.toJsonValue) := by
  obtain ⟨db', written⟩ : ∃ db', db.hset (cache.keyFor uuid) application (dumps policy) = .ok db' := by
    cases hset : db.hset (cache.keyFor uuid) application (dumps policy) with
    | ok db' => exact ⟨db', rfl⟩
    | error e =>
      obtain ⟨text, holds⟩ := Keyspace.hset_eq_error hset
      exact absurd holds (noString text)
  have saved : cache.savePolicy settings Faults.none uuid application policy db =
      (.ok (), db'.expire (cache.keyFor uuid) settings.accessCacheLifetime, true) := by
    simp only [AccessCache.savePolicy, pipelineSave, enabled, if_true, Faults.none, connection_answered,
      (jsonDumps_eq_ok_iff _ _ _).2 ⟨within, rfl⟩, roundTrip, exec_expire, written]
  rw [saved]
  refine ⟨rfl, ?_⟩
  simp only [AccessCache.getPolicy, enabled, if_true, Faults.none, connection_answered, roundTrip]
  rw [show AccessCache.keyFor ⟨cache.tenant, connected⟩ uuid = cache.keyFor uuid from rfl,
    Keyspace.hget_expire, if_neg fun expired => absurd expired.2 (not_le.2 lives), Keyspace.hget_hset written]
  simp only [if_neg (dumps_ne_empty policy), loads_dumps]

/-- A policy saved for user `u1` of tenant `acme` into an empty database reads back
from a new instance. -/
theorem getPolicy_savePolicy_fresh :
    let settings : Settings := ⟨true, 600, ⟨1000, 4300⟩⟩
    let saved := AccessCache.savePolicy settings Faults.none ⟨"acme", false⟩ "u1" "rbac"
      (.dict [("read", .bool true)]) Keyspace.empty
    (0 : Int) < 600 ∧ WithinLimits settings.limits (.dict [("read", .bool true)]) ∧
      (∀ text, Keyspace.empty.value? (AccessCache.keyFor ⟨"acme", false⟩ "u1") ≠ some (.string text)) ∧
      saved.1 = .ok () ∧
      (AccessCache.getPolicy settings Faults.none ⟨"acme", true⟩ "u1" "rbac" saved.2.1).1 =
        .ok (some (PyValue.dict [("read", .bool true)]).toJsonValue) :=
  ⟨by decide, by decide, fun _ => by simp, getPolicy_savePolicy ⟨true, 600, ⟨1000, 4300⟩⟩ rfl (by decide)
    ⟨"acme", false⟩ "u1" "rbac" _ (by decide) _ (fun _ => by simp) true⟩

/-- What `get_policy` returns from a database where the invariant holds: nothing,
or the policy a `save_policy` among `calls` saved under the same key and
application. It raises nothing. -/
theorem getPolicy_of_stored (settings : Settings) (faults : Faults) {calls : List Call}
    {db : Keyspace} (stored : Stored calls db) (cache : AccessCache) (uuid application : String) :
    (cache.getPolicy settings faults uuid application db).1 = .ok none ∨
      ∃ saver uuid' policy, Call.savePolicy saver uuid' application policy ∈ calls ∧
        saver.keyFor uuid' = cache.keyFor uuid ∧
        (cache.getPolicy settings faults uuid application db).1 = .ok (some policy.toJsonValue) := by
  unfold AccessCache.getPolicy
  split
  · split
    · exact .inl rfl
    · split
      · next policyString answered =>
        obtain ⟨fields, holds, member⟩ := Keyspace.hget_eq_some (roundTrip_read _ _ _ answered)
        obtain ⟨saver, uuid', policy, saved, keyed, rfl⟩ := stored.fields_saved _ _ holds _ _ member
        refine .inr ⟨saver, uuid', policy, saved, keyed, ?_⟩
        rw [if_neg (dumps_ne_empty policy), loads_dumps]
      · exact .inl rfl
  · exact .inl rfl

/-- Over any run of calls of both classes on one database, from empty, with any
failures of any round trip and any expiries, `get_policy` raises nothing, and a
policy it returns is one a `save_policy` of the run saved for the same tenant, user
and application, tenants being schema names. -/
theorem getPolicy_after_run (settings : Settings) (steps : List (Call × Faults))
    (tenants : ∀ saver uuid application policy,
      Call.savePolicy saver uuid application policy ∈ steps.map Prod.fst → IsSchemaName saver.tenant)
    (faults : Faults) (cache : AccessCache) (tenant : IsSchemaName cache.tenant) (uuid application : String) :
    (cache.getPolicy settings faults uuid application (runCalls settings steps .empty)).1 = .ok none ∨
      ∃ connected policy,
        Call.savePolicy ⟨cache.tenant, connected⟩ uuid application policy ∈ steps.map Prod.fst ∧
        (cache.getPolicy settings faults uuid application (runCalls settings steps .empty)).1 =
          .ok (some policy.toJsonValue) := by
  have stored := runCalls_stored settings steps Stored.empty
  rw [List.nil_append] at stored
  rcases getPolicy_of_stored settings faults stored cache uuid application with
    nothing | ⟨saver, uuid', policy, saved, keyed, found⟩
  · exact .inl nothing
  · obtain ⟨sameTenant, rfl⟩ := AccessCache.keyFor_inj
      (tenants _ _ _ _ saved).colon_not_mem tenant.colon_not_mem keyed
    refine .inr ⟨saver.connected, policy, ?_, found⟩
    rw [← sameTenant]
    exact saved

/-- Tenant `acme` saves a policy for `u1`, the reply of its pipeline lost, and then
tenant `beta` purges its own policies. -/
theorem getPolicy_after_run_two_tenants :
    let settings : Settings := ⟨true, 600, ⟨1000, 4300⟩⟩
    let steps : List (Call × Faults) :=
      [(.savePolicy ⟨"acme", false⟩ "u1" "rbac" (.int 7), ⟨.answered, .replyLost, .answered⟩),
        (.deleteAllPoliciesForTenant ⟨"beta", true⟩, Faults.none)]
    let result := AccessCache.getPolicy settings Faults.none ⟨"acme", true⟩ "u1" "rbac"
      (runCalls settings steps .empty)
    (∀ saver uuid application policy,
        Call.savePolicy saver uuid application policy ∈ steps.map Prod.fst → IsSchemaName saver.tenant) ∧
      IsSchemaName "acme" ∧
      (result.1 = .ok none ∨ ∃ connected policy,
        Call.savePolicy ⟨"acme", connected⟩ "u1" "rbac" policy ∈ steps.map Prod.fst ∧
          result.1 = .ok (some policy.toJsonValue)) := by
  intro settings steps result
  have tenants : ∀ saver uuid application policy,
      Call.savePolicy saver uuid application policy ∈ steps.map Prod.fst → IsSchemaName saver.tenant := by
    simp only [steps, List.map_cons, List.map_nil, List.mem_cons, Call.savePolicy.injEq, reduceCtorEq,
      List.not_mem_nil, or_false]
    rintro _ _ _ _ ⟨rfl, -⟩
    decide
  exact ⟨tenants, by decide,
    getPolicy_after_run settings steps tenants Faults.none ⟨"acme", true⟩ (by decide) "u1" "rbac"⟩

/-! ## Purging a tenant -/

theorem purgeBlock_none (cache : AccessCache) (db : Keyspace) (connected : Bool) (key : String) :
    (cache.purgeBlock Faults.none db connected).2.1.get? key =
      (db.delete (db.keysMatching (cache.keyFor "*"))).get? key := by
  simp only [AccessCache.purgeBlock, Faults.none, connection_answered, roundTrip]
  split
  · next empty => rw [List.isEmpty_iff.1 empty, Keyspace.get?_delete, if_neg (List.not_mem_nil _)]
  · rfl

/-- With the cache enabled and every round trip answered, the purge of a tenant
drops every key `key_for(uuid)` gives it and leaves every other key as it was:
other tenants' policies and the tenant cache included. -/
theorem deleteAllPoliciesForTenant_get? (settings : Settings)
    (enabled : settings.accessCacheEnabled = true) (cache : AccessCache)
    (tenant : IsSchemaName cache.tenant) (db : Keyspace) :
    (cache.deleteAllPoliciesForTenant settings Faults.none db).1 = .ok () ∧
      (∀ uuid, (cache.deleteAllPoliciesForTenant settings Faults.none db).2.1.get? (cache.keyFor uuid) = none) ∧
      ∀ key, (∀ uuid, key ≠ cache.keyFor uuid) →
        (cache.deleteAllPoliciesForTenant settings Faults.none db).2.1.get? key = db.get? key := by
  simp only [AccessCache.deleteAllPoliciesForTenant, deleteHandler, enabled, if_true, true_and]
  refine ⟨fun uuid => ?_, fun key other => ?_⟩
  · rw [purgeBlock_none, Keyspace.get?_delete_keysMatching,
      if_pos ((AccessCache.stringmatch_keyFor_star cache tenant _).2 ⟨uuid, rfl⟩)]
  · rw [purgeBlock_none, Keyspace.get?_delete_keysMatching, if_neg]
    rw [AccessCache.stringmatch_keyFor_star cache tenant]
    rintro ⟨uuid, rfl⟩
    exact other uuid rfl

/-- Tenant `acme` purges its policies from a database that also caches it. -/
theorem deleteAllPoliciesForTenant_get?_cached_tenant :
    let db := Keyspace.empty.set (TenantCache.keyFor "acme") "pickled"
    let after := (AccessCache.deleteAllPoliciesForTenant ⟨true, 600, ⟨1000, 4300⟩⟩ Faults.none ⟨"acme", false⟩ db)
    IsSchemaName "acme" ∧ after.1 = .ok () ∧
      (∀ uuid, after.2.1.get? (AccessCache.keyFor ⟨"acme", false⟩ uuid) = none) ∧
      ∀ key, (∀ uuid, key ≠ AccessCache.keyFor ⟨"acme", false⟩ uuid) → after.2.1.get? key = db.get? key :=
  ⟨by decide, deleteAllPoliciesForTenant_get? ⟨true, 600, ⟨1000, 4300⟩⟩ rfl ⟨"acme", false⟩ (by decide) _⟩

/-! ## A disabled cache -/

end InsightsRbac.Cache
