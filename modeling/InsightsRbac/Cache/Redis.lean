import Mathlib.Data.List.Basic

/-!
Contract: the Redis server as `cache.py` uses it, one database of it: the keyspace,
and the commands the cache sends (`GET`, `SET`, `HGET`, `HSET`, `EXPIRE`, `DEL`,
`KEYS`), with `KEYS` matching keys against a glob as Redis's `stringmatchlen`
does; a `MULTI`/`EXEC` pipeline; and a round trip the network can break before or
after Redis runs the command.

Owns: `Keyspace` and its lookup `get?`, on which every command is specified
(`get?_put`, `get?_delete`); `EXPIRE`, which deletes the key when its timeout is
not positive (`value?_expire`); the glob matcher `stringmatch`, and
`stringmatch_prefix_star`: a pattern of plain characters followed by `*` matches
exactly the keys that start with those characters.

Does not own: the byte encoding of keys and values (the model reads characters,
which agree with bytes on ASCII); case-insensitive matching, which `KEYS` does not
use; the early exit `skipLongerMatches` and the nesting limit of `stringmatchlen`,
which change no answer for a pattern with fewer than a thousand stars; and time: a
key's time to live is recorded, and its running out is a step of its own in the
runs of `Cache.AccessCache`.
-/

namespace InsightsRbac.Cache

/-- A value Redis holds under a key: a string (`SET`) or a hash (`HSET`). -/
inductive RedisValue where
  | string (value : String)
  | hash (fields : List (String × String))
deriving DecidableEq, Repr

/-- A key's value, and the time to live `EXPIRE` gave it. -/
structure Entry where
  value : RedisValue
  ttl : Option Nat
deriving DecidableEq, Repr

/-- The keyspace of the database: each key holds one entry. -/
structure Keyspace where
  entries : List (String × Entry)
  keys_nodup : (entries.map Prod.fst).Nodup

namespace Keyspace

def empty : Keyspace := ⟨[], List.nodup_nil⟩

/-- The entry under `key`. -/
def get? (db : Keyspace) (key : String) : Option Entry := db.entries.lookup key

/-- The keyspace with `entry` under `key`, whatever the key held before. -/
def put (db : Keyspace) (key : String) (entry : Entry) : Keyspace :=
  ⟨(key, entry) :: db.entries.filter (·.1 ≠ key), by
    rw [List.map_cons, List.nodup_cons]
    refine ⟨?_, db.keys_nodup.sublist ((List.filter_sublist _).map _)⟩
    simp⟩

/-- The keyspace without `keys`. -/
def delete (db : Keyspace) (keys : List String) : Keyspace :=
  ⟨db.entries.filter (·.1 ∉ keys), db.keys_nodup.sublist ((List.filter_sublist _).map _)⟩

/-- Every key of the keyspace, once. -/
def keys (db : Keyspace) : List String := db.entries.map Prod.fst

/-- Dropping entries by key drops exactly those keys from the lookup. -/
theorem lookup_filter_key (key : String) (keep : String → Bool) :
    ∀ entries : List (String × Entry),
      (entries.filter fun entry => keep entry.1).lookup key =
        if keep key then entries.lookup key else none
  | [] => by simp
  | (k, entry) :: rest => by
      have later := lookup_filter_key key keep rest
      by_cases same : key = k
      · subst same
        by_cases kept : keep key <;> simp [List.filter_cons, kept, List.lookup_cons, later]
      · have differ : (key == k) = false := beq_eq_false_iff_ne.2 same
        by_cases kept : keep k <;> simp [List.filter_cons, kept, List.lookup_cons, differ, later]

@[simp] theorem get?_empty (key : String) : empty.get? key = none := rfl

@[simp] theorem get?_put (db : Keyspace) (key key' : String) (entry : Entry) :
    (db.put key entry).get? key' = if key' = key then some entry else db.get? key' := by
  by_cases same : key' = key
  · simp [get?, put, List.lookup_cons, same]
  · simp only [get?, put, List.lookup_cons, beq_eq_false_iff_ne.2 same, if_neg same]
    exact (lookup_filter_key key' (fun k => decide (k ≠ key)) db.entries).trans (by simp [same])

@[simp] theorem get?_delete (db : Keyspace) (keys : List String) (key : String) :
    (db.delete keys).get? key = if key ∈ keys then none else db.get? key := by
  simp only [get?, delete]
  rw [lookup_filter_key key (fun k => decide (k ∉ keys)) db.entries]
  by_cases deleted : key ∈ keys <;> simp [deleted]

theorem mem_keys (db : Keyspace) (key : String) : key ∈ db.keys ↔ db.get? key ≠ none := by
  rw [keys, get?, ne_eq, List.lookup_eq_none_iff, List.mem_map]
  constructor
  · rintro ⟨⟨k, entry⟩, member, rfl⟩ absent
    simpa using absent _ member
  · intro present
    push_neg at present
    obtain ⟨⟨k, entry⟩, member, same⟩ := present
    exact ⟨_, member, (by simpa using same : key = k).symm⟩

end Keyspace

/-! ## Commands -/

/-- `redis.exceptions.RedisError` as the client raises it: the network failed
(`ConnectionError`, `TimeoutError`), or Redis answered with an error
(`ResponseError`). -/
inductive RedisError where
  | connection
  | response (msg : String)
deriving DecidableEq, Repr

/-- The reply to a command on a key that holds the other kind of value. -/
def wrongType : RedisError :=
  .response "WRONGTYPE Operation against a key holding the wrong kind of value"

namespace Keyspace

/-- `GET key`. -/
def get (db : Keyspace) (key : String) : Except RedisError (Option String) :=
  match db.get? key with
  | none => .ok none
  | some ⟨.string value, _⟩ => .ok (some value)
  | some ⟨.hash _, _⟩ => .error wrongType

/-- `SET key value`: a string with no time to live, whatever the key held. -/
def set (db : Keyspace) (key value : String) : Keyspace := db.put key ⟨.string value, none⟩

/-- The hash under a key and its time to live, a missing key being an empty hash;
nothing for a key that holds a string. -/
def hashAt? (db : Keyspace) (key : String) : Option (List (String × String) × Option Nat) :=
  match db.get? key with
  | none => some ([], none)
  | some ⟨.hash fields, ttl⟩ => some (fields, ttl)
  | some ⟨.string _, _⟩ => none

/-- `HGET key field`. -/
def hget (db : Keyspace) (key field : String) : Except RedisError (Option String) :=
  match (db.get? key).map Entry.value with
  | none => .ok none
  | some (.hash fields) => .ok (fields.lookup field)
  | some (.string _) => .error wrongType

/-- `HSET key field value`: the field set in the key's hash; the time to live stays. -/
def hset (db : Keyspace) (key field value : String) : Except RedisError Keyspace :=
  match db.hashAt? key with
  | some (fields, ttl) => .ok (db.put key ⟨.hash ((field, value) :: fields.filter (·.1 ≠ field)), ttl⟩)
  | none => .error wrongType

/-- `EXPIRE key seconds`: a time to live for a key that exists. A timeout that is
not positive has already run out, and the key is deleted at once
(`checkAlreadyExpired`, on a master). -/
def expire (db : Keyspace) (key : String) (seconds : Int) : Keyspace :=
  match db.get? key with
  | none => db
  | some entry => if seconds ≤ 0 then db.delete [key] else db.put key { entry with ttl := some seconds.toNat }

/-- A key's time to live ran out: Redis drops it. A key without one stays. -/
def lapse (db : Keyspace) (key : String) : Keyspace :=
  match db.get? key with
  | some ⟨_, some _⟩ => db.delete [key]
  | _ => db

/-! ### What each command does to the values

The cache's invariants read values, not times to live, so each command is
specified by what it does to `value?`. -/

/-- The value under `key`, whatever its time to live. -/
def value? (db : Keyspace) (key : String) : Option RedisValue := (db.get? key).map Entry.value

@[simp] theorem value?_empty (key : String) : empty.value? key = none := rfl

@[simp] theorem value?_put (db : Keyspace) (key key' : String) (entry : Entry) :
    (db.put key entry).value? key' = if key' = key then some entry.value else db.value? key' := by
  by_cases same : key' = key <;> simp [value?, same]

@[simp] theorem value?_delete (db : Keyspace) (keys : List String) (key : String) :
    (db.delete keys).value? key = if key ∈ keys then none else db.value? key := by
  by_cases deleted : key ∈ keys <;> simp [value?, deleted]

@[simp] theorem value?_set (db : Keyspace) (key value key' : String) :
    (db.set key value).value? key' = if key' = key then some (.string value) else db.value? key' :=
  value?_put _ _ _ _

@[simp] theorem value?_expire (db : Keyspace) (key : String) (seconds : Int) (key' : String) :
    (db.expire key seconds).value? key' = if key' = key ∧ seconds ≤ 0 then none else db.value? key' := by
  unfold expire
  split
  · next absent =>
    split
    · next deleted => rw [deleted.1, value?, absent]; rfl
    · rfl
  · next entry found =>
    by_cases same : key' = key
    · subst same
      by_cases expired : seconds ≤ 0 <;> simp [expired, value?, found]
    · by_cases expired : seconds ≤ 0 <;> simp [expired, same]

theorem get?_expire (db : Keyspace) (key : String) (seconds : Int) (key' : String) :
    (db.expire key seconds).get? key' =
      if key' = key then
        if seconds ≤ 0 then none else (db.get? key).map ({ · with ttl := some seconds.toNat })
      else db.get? key' := by
  unfold expire
  split
  · next absent => split <;> simp [*]
  · next entry found => split <;> by_cases same : key' = key <;> simp [*]

theorem value?_lapse (db : Keyspace) (key key' : String) :
    (db.lapse key).value? key' = db.value? key' ∨ (db.lapse key).value? key' = none := by
  unfold lapse
  split
  · rw [value?_delete]
    split
    · exact .inr rfl
    · exact .inl rfl
  · exact .inl rfl

theorem hashAt?_eq_some {db : Keyspace} {key : String} {fields : List (String × String)}
    {ttl : Option Nat} (found : db.hashAt? key = some (fields, ttl)) :
    db.value? key = none ∧ fields = [] ∨ db.value? key = some (.hash fields) := by
  unfold hashAt? at found
  unfold value?
  split at found
  · next absent => cases found; exact .inl ⟨by rw [absent]; rfl, rfl⟩
  · next fields' ttl' present => cases found; exact .inr (by rw [present]; rfl)
  · cases found

theorem hashAt?_eq_none {db : Keyspace} {key : String} (found : db.hashAt? key = none) :
    ∃ text, db.value? key = some (.string text) := by
  unfold hashAt? at found
  unfold value?
  split at found
  · cases found
  · cases found
  · next text ttl present => exact ⟨text, by rw [present]; rfl⟩

/-- A successful `HSET` sets the field in the hash the key held, or in a new one. -/
theorem value?_hset {db db' : Keyspace} {key field value : String}
    (written : db.hset key field value = .ok db') :
    ∃ fields, (db.value? key = none ∧ fields = [] ∨ db.value? key = some (.hash fields)) ∧
      ∀ key', db'.value? key' = if key' = key then
        some (.hash ((field, value) :: fields.filter (·.1 ≠ field))) else db.value? key' := by
  unfold hset at written
  split at written
  · next fields ttl found =>
    cases written
    exact ⟨fields, hashAt?_eq_some found, fun key' => value?_put _ _ _ _⟩
  · cases written

/-- `HSET` fails only on a key that holds a string. -/
theorem hset_eq_error {db : Keyspace} {key field value : String} {e : RedisError}
    (failed : db.hset key field value = .error e) : ∃ text, db.value? key = some (.string text) := by
  unfold hset at failed
  split at failed
  · cases failed
  · next found => exact hashAt?_eq_none found

theorem hget_eq_value? (db : Keyspace) (key field : String) :
    db.hget key field = match db.value? key with
      | none => .ok none
      | some (.hash fields) => .ok (fields.lookup field)
      | some (.string _) => .error wrongType := rfl

/-- What `HGET` answers is a field of the hash the key holds. -/
theorem hget_eq_some {db : Keyspace} {key field text : String}
    (found : db.hget key field = .ok (some text)) :
    ∃ fields, db.value? key = some (.hash fields) ∧ (field, text) ∈ fields := by
  rw [hget_eq_value?] at found
  split at found
  · cases found
  · next fields holds =>
    injection found with looked
    obtain ⟨l₁, l₂, rfl, -⟩ := List.lookup_eq_some_iff.1 looked
    exact ⟨_, holds, by simp⟩
  · cases found

/-- `HGET` fails only on a key that holds a string. -/
theorem hget_eq_error {db : Keyspace} {key field : String} {e : RedisError}
    (failed : db.hget key field = .error e) : ∃ text, db.value? key = some (.string text) := by
  rw [hget_eq_value?] at failed
  split at failed
  · cases failed
  · cases failed
  · next text holds => exact ⟨text, holds⟩

@[simp] theorem hget_expire (db : Keyspace) (key : String) (seconds : Int) (key' field : String) :
    (db.expire key seconds).hget key' field =
      if key' = key ∧ seconds ≤ 0 then .ok none else db.hget key' field := by
  rw [hget_eq_value?, hget_eq_value?, value?_expire]
  by_cases expired : key' = key ∧ seconds ≤ 0
  · rw [if_pos expired, if_pos expired]
  · rw [if_neg expired, if_neg expired]

/-- `HGET` reads back the field `HSET` wrote. -/
theorem hget_hset {db db' : Keyspace} {key field value : String}
    (written : db.hset key field value = .ok db') : db'.hget key field = .ok (some value) := by
  obtain ⟨fields, -, values⟩ := value?_hset written
  rw [hget_eq_value?, values, if_pos rfl]
  simp [List.lookup_cons]

end Keyspace


/-- `MULTI`, the queued commands, `EXEC`: Redis runs every command in order, one
that fails changes nothing, and `execute()` raises the first error. -/
def exec : List (Keyspace → Except RedisError Keyspace) → Keyspace → Except RedisError Unit × Keyspace
  | [], db => (.ok (), db)
  | command :: rest, db =>
      match command db with
      | .ok db' => exec rest db'
      | .error e => (.error e, (exec rest db).2)

/-- A pipeline of a write and an `EXPIRE`: the write's result, and the time to live
set whether the write failed or not. -/
theorem exec_expire (write : Keyspace → Except RedisError Keyspace) (key : String) (seconds : Int)
    (db : Keyspace) :
    exec [write, fun db => .ok (db.expire key seconds)] db =
      match write db with
      | .ok db' => (.ok (), db'.expire key seconds)
      | .error e => (.error e, db.expire key seconds) := by
  simp only [exec]

/-- How one round trip to Redis ends: answered; lost before Redis ran the command;
or run, with the reply lost. The last two raise `ConnectionError` or
`TimeoutError` in the client. -/
inductive Link where
  | answered
  | requestLost
  | replyLost
deriving DecidableEq, Repr

/-- One request: Redis runs `command` unless the request is lost, and the client
sees its reply only when it is answered. -/
def roundTrip {α : Type} (link : Link) (command : Keyspace → Except RedisError α × Keyspace)
    (db : Keyspace) : Except RedisError α × Keyspace :=
  match link with
  | .answered => command db
  | .requestLost => (.error .connection, db)
  | .replyLost => (.error .connection, (command db).2)

/-- A round trip leaves the keyspace as it was or as the command left it. -/
theorem roundTrip_db {α : Type} (link : Link) (command : Keyspace → Except RedisError α × Keyspace)
    (db : Keyspace) : (roundTrip link command db).2 = db ∨ (roundTrip link command db).2 = (command db).2 := by
  cases link <;> simp [roundTrip]

/-! ## `KEYS` patterns -/

/-- The characters `stringmatchlen` gives a meaning in a pattern. -/
def isGlobSpecial (c : Char) : Bool := c = '*' || c = '?' || c = '[' || c = '\\'

mutual

/-- The loop of `stringmatchlen(pattern, string, nocase=0)`, from a point where the
pattern and the string are both left or the string has just run out; then the
pattern matches when only stars are left. Each pass is the `switch` on the
pattern's first character. -/
def matchLoop : List Char → List Char → Bool
  | pattern, [] => pattern.all (· = '*')
  | [], _ :: _ => false
  | p :: pattern, c :: string =>
      if p = '*' then
        match pattern with
        | [] => true
        | q :: rest =>
            if q = '*' then matchLoop (q :: rest) (c :: string)
            else (c :: string).tails.any fun suffix => !suffix.isEmpty && matchLoop (q :: rest) suffix
      else if p = '?' then matchLoop pattern string
      else if p = '[' then
        match pattern with
        | [] => matchClass c string false false []
        | q :: body =>
            if q = '^' then matchClass c string true false body
            else matchClass c string false false (q :: body)
      else if p = '\\' then
        match pattern with
        | literal :: pattern => literal == c && matchLoop pattern string
        | [] => p == c && matchLoop [] string
      else p == c && matchLoop pattern string
termination_by structural pattern _ => pattern

/-- The `[...]` case: the members of the class after `[` (and `^`), and whether `c`
is one of those read so far. At the closing `]` the class must have matched (or,
negated, not) and the loop goes on after it; an unterminated class ends the
pattern. -/
def matchClass (c : Char) (string : List Char) (negated matched : Bool) : List Char → Bool
  | '\\' :: member :: body => matchClass c string negated (matched || member == c) body
  | ']' :: pattern => matched != negated && matchLoop pattern string
  | [] => matched != negated && string.isEmpty
  | low :: '-' :: high :: body =>
      let inRange := if low ≤ high then low ≤ c && c ≤ high else high ≤ c && c ≤ low
      matchClass c string negated (matched || inRange) body
  | member :: body => matchClass c string negated (matched || member == c) body
termination_by structural body => body

end

/-- `stringmatchlen(pattern, string)`: the empty string matches the empty pattern only. -/
def stringmatch (pattern string : List Char) : Bool :=
  match string with
  | [] => pattern.isEmpty
  | _ :: _ => matchLoop pattern string

example : stringmatch "rbac::*::user=[a-c]?".toList "rbac::acme::user=bx".toList = true := by decide
example : stringmatch "user=[^a-c]*".toList "user=bob".toList = false := by decide
example : stringmatch "*".toList [] = false := by decide

theorem matchLoop_literal {literal : Char} (plain : isGlobSpecial literal = false)
    (pattern : List Char) (c : Char) (string : List Char) :
    matchLoop (literal :: pattern) (c :: string) = (literal == c && matchLoop pattern string) := by
  simp only [isGlobSpecial, Bool.or_eq_false_iff, decide_eq_false_iff_not] at plain
  obtain ⟨⟨⟨star, question⟩, bracket⟩, backslash⟩ := plain
  cases pattern <;> rw [matchLoop, if_neg star, if_neg question, if_neg bracket, if_neg backslash]

theorem matchLoop_prefix_star :
    ∀ (pfx string : List Char), (∀ c ∈ pfx, isGlobSpecial c = false) →
      matchLoop (pfx ++ ['*']) string = pfx.isPrefixOf string
  | [], [], _ => rfl
  | [], _ :: _, _ => by rw [List.nil_append, List.isPrefixOf_nil_left]; rfl
  | a :: pfx, [], plain => by
      have star : a ≠ '*' := fun same => by simp [same, isGlobSpecial] at plain
      simp [matchLoop, star]
  | a :: pfx, c :: string, plain => by
      rw [List.cons_append, matchLoop_literal (plain a (.head _)),
        matchLoop_prefix_star pfx string fun c member => plain c (.tail _ member), List.isPrefixOf_cons₂]

/-- A pattern of plain characters followed by `*` matches exactly the strings that
start with those characters. -/
theorem stringmatch_prefix_star {pfx : List Char} (nonempty : pfx ≠ [])
    (plain : ∀ c ∈ pfx, isGlobSpecial c = false) (string : List Char) :
    stringmatch (pfx ++ ['*']) string = pfx.isPrefixOf string := by
  cases string with
  | nil =>
    obtain ⟨a, pfx, rfl⟩ := List.exists_cons_of_ne_nil nonempty
    rfl
  | cons c string => exact matchLoop_prefix_star pfx (c :: string) plain

namespace Keyspace

/-- `KEYS pattern`. -/
def keysMatching (db : Keyspace) (pattern : String) : List String :=
  db.keys.filter fun key => stringmatch pattern.toList key.toList

/-- `DEL` of what `KEYS pattern` listed drops exactly the keys the pattern matches. -/
@[simp] theorem get?_delete_keysMatching (db : Keyspace) (pattern key : String) :
    (db.delete (db.keysMatching pattern)).get? key =
      if stringmatch pattern.toList key.toList then none else db.get? key := by
  simp only [get?_delete, keysMatching, List.mem_filter, mem_keys]
  by_cases matched : stringmatch pattern.toList key.toList = true <;>
    by_cases present : db.get? key = none <;> simp [matched, present]

end Keyspace

end InsightsRbac.Cache
