import Mathlib.Data.Finset.Basic
import InsightsRbac.Python.Builtins

/-!
Contract: the data model of the V1 to V2 migration (`migration_tool/models.py` and
`migration_tool/ingest.py`, which src imports but does not contain), as
`sharedSystemRolesReplicatedRoleBindings.py` reads it.

Owns: the V1 and V2 records with the fields the translation reads; `frozenset`
fields of permissions and users as `Finset`, the other `frozenset`s as lists in an
iteration order; the `dict`s of lists that `add_element` builds, which carry the
distinctness of their keys; and `cleanNameForV2SchemaCompatibility`.

Does not own: Python's cross-type equality of dict keys (`True == 1 == 1.0`);
resource ids compare structurally here.
-/

namespace InsightsRbac.MigrationTool

open InsightsRbac.Python

/-- A UUID. `str` of a UUID is injective, so where the code keeps `str(uuid)`
the model keeps the UUID. -/
structure Uuid where
  value : Nat
deriving DecidableEq, Repr

structure V1resourcedef where
  resourceType : String
  op : String
  resourceId : String
deriving DecidableEq, Repr

structure V1permission where
  app : String
  resource : String
  perm : String
  resourceDefs : List V1resourcedef
deriving DecidableEq, Repr

structure V1group where
  id : String
  users : Finset String
deriving DecidableEq

structure V1role where
  id : String
  permissions : List V1permission
  groups : List V1group

/-- A resource id once the translation has it: a hashable Python value of a kind
`json.loads` returns, or a `str`. -/
inductive ResourceId where
  | none
  | bool (value : Bool)
  | int (value : Int)
  | float (literal : String)
  | str (value : String)
deriving DecidableEq, Repr

/-- `hash(V2boundresource(resource_type, value))` succeeds exactly for the
hashable values; a list or a dict raises `TypeError`. -/
def ResourceId.ofJsonValue : JsonValue → Except PyError ResourceId
  | .null => .ok .none
  | .bool value => .ok (.bool value)
  | .int value => .ok (.int value)
  | .float literal => .ok (.float literal)
  | .str value => .ok (.str value)
  | .array _ => .error (.typeError "unhashable type: 'list'")
  | .object _ => .error (.typeError "unhashable type: 'dict'")

structure V2boundresource where
  resourceType : String
  resourceId : ResourceId
deriving DecidableEq, Repr

structure V2role where
  id : Uuid
  isSystem : Bool
  permissions : Finset String
deriving DecidableEq

structure V2group where
  id : String
  users : Finset String
deriving DecidableEq

structure V2rolebinding where
  id : Uuid
  originalRole : V1role
  role : V2role
  resources : List V2boundresource
  groups : List V2group

/-! ## Dicts of lists -/

/-- In a list whose keys are distinct, the element found for a key is the one
element with that key. -/
theorem find?_key_eq_some_iff {α κ : Type} [DecidableEq κ] (key : α → κ) (k : κ) (x : α) :
    ∀ {l : List α}, (l.map key).Nodup → (l.find? (key · = k) = some x ↔ x ∈ l ∧ key x = k)
  | [], _ => by simp
  | head :: rest, nodup => by
      rw [List.map_cons, List.nodup_cons] at nodup
      by_cases atHead : key head = k
      · have notLater : x ∈ rest → key x ≠ k :=
          fun member same => nodup.1 (atHead ▸ same ▸ List.mem_map_of_mem key member)
        simp only [List.find?_cons, atHead, decide_True, Option.some.injEq, List.mem_cons]
        constructor
        · rintro rfl
          exact ⟨.inl rfl, atHead⟩
        · rintro ⟨rfl | member, same⟩
          · rfl
          · exact absurd same (notLater member)
      · simp only [List.find?_cons, atHead, decide_False, find?_key_eq_some_iff key k x nodup.2,
          List.mem_cons]
        constructor
        · exact fun found => ⟨.inr found.1, found.2⟩
        · rintro ⟨rfl | member, same⟩
          · exact absurd same atHead
          · exact ⟨member, same⟩

/-- A Python `dict` whose values are lists, as `add_element` builds it: entries in
insertion order, each key once. -/
structure ListDict (κ ν : Type) where
  entries : List (κ × List ν)
  keys_nodup : (entries.map Prod.fst).Nodup

namespace ListDict

variable {κ ν : Type} [DecidableEq κ]

def empty : ListDict κ ν := ⟨[], List.nodup_nil⟩

/-- Append `value` to the list under `key`, or add `key` at the end with `[value]`. -/
def appendAt (key : κ) (value : ν) : List (κ × List ν) → List (κ × List ν)
  | [] => [(key, [value])]
  | (k, values) :: rest =>
      if k = key then (k, values ++ [value]) :: rest else (k, values) :: appendAt key value rest

theorem mem_keys_appendAt (key k : κ) (value : ν) (entries : List (κ × List ν)) :
    k ∈ (appendAt key value entries).map Prod.fst ↔ k = key ∨ k ∈ entries.map Prod.fst := by
  induction entries with
  | nil => simp [appendAt]
  | cons entry rest inductionHypothesis =>
      unfold appendAt
      split <;> simp_all [or_left_comm]

theorem appendAt_keys_nodup (key : κ) (value : ν) (entries : List (κ × List ν))
    (nodup : (entries.map Prod.fst).Nodup) : ((appendAt key value entries).map Prod.fst).Nodup := by
  induction entries with
  | nil => simp [appendAt]
  | cons entry rest inductionHypothesis =>
      rw [List.map_cons, List.nodup_cons] at nodup
      unfold appendAt
      split
      · simpa using nodup
      · simp only [List.map_cons, List.nodup_cons, mem_keys_appendAt]
        exact ⟨by tauto, inductionHypothesis nodup.2⟩

/-- Modelled from the spec: `add_element` of `migration_tool/ingest.py`, not in
src, accumulates `value` under `key` ("Accumulate the permission under the
resulting BoundResource"). -/
def addElement (d : ListDict κ ν) (key : κ) (value : ν) : ListDict κ ν :=
  ⟨appendAt key value d.entries, appendAt_keys_nodup key value d.entries d.keys_nodup⟩

/-- The list under `key`, empty when the key is absent. -/
def get (d : ListDict κ ν) (key : κ) : List ν :=
  ((d.entries.find? (·.1 = key)).map Prod.snd).getD []

@[simp] theorem get_empty (key : κ) : (empty : ListDict κ ν).get key = [] := rfl

private theorem getD_find_appendAt (key k : κ) (value : ν) (entries : List (κ × List ν)) :
    (((appendAt key value entries).find? (·.1 = k)).map Prod.snd).getD [] =
      if k = key then (((entries.find? (·.1 = k)).map Prod.snd).getD []) ++ [value]
      else ((entries.find? (·.1 = k)).map Prod.snd).getD [] := by
  induction entries with
  | nil =>
      by_cases same : k = key
      · simp [appendAt, same]
      · simp [appendAt, same, Ne.symm same]
  | cons entry rest inductionHypothesis =>
      obtain ⟨k', values⟩ := entry
      unfold appendAt
      by_cases atKey : k' = key
      · subst atKey
        by_cases same : k' = k
        · simp [same]
        · simp [same, Ne.symm same]
      · by_cases same : k' = k
        · subst same
          simp [atKey, Ne.symm atKey]
        · simp [atKey, same, inductionHypothesis]

theorem get_addElement (d : ListDict κ ν) (key k : κ) (value : ν) :
    (d.addElement key value).get k = if k = key then d.get k ++ [value] else d.get k :=
  getD_find_appendAt key k value d.entries

theorem get_eq_of_mem {d : ListDict κ ν} {k : κ} {values : List ν} (member : (k, values) ∈ d.entries) :
    d.get k = values := by
  unfold get
  rw [(find?_key_eq_some_iff Prod.fst k (k, values) d.keys_nodup).2 ⟨member, rfl⟩]
  rfl

/-- Reading a dict through `get` and through its `items()` agree, because each
key has one entry. -/
theorem mem_get_iff (d : ListDict κ ν) (k : κ) (v : ν) :
    v ∈ d.get k ↔ ∃ values, (k, values) ∈ d.entries ∧ v ∈ values := by
  obtain ⟨entries, nodup⟩ := d
  unfold get
  simp only
  induction entries with
  | nil => simp
  | cons entry rest inductionHypothesis =>
      obtain ⟨k', values⟩ := entry
      rw [List.map_cons, List.nodup_cons] at nodup
      by_cases same : k' = k
      · subst same
        have absent : ∀ vs, (k', vs) ∉ rest :=
          fun vs member => nodup.1 (List.mem_map.2 ⟨_, member, rfl⟩)
        simp [absent]
      · simp [same, inductionHypothesis nodup.2, Ne.symm same]

/-- Adding one value under each of `keys`, in order. -/
theorem mem_get_foldl_addElement (d : ListDict κ ν) (keys : List κ) (value v : ν) (k : κ) :
    v ∈ (keys.foldl (fun acc key => acc.addElement key value) d).get k ↔
      v ∈ d.get k ∨ (k ∈ keys ∧ v = value) := by
  induction keys generalizing d with
  | nil => simp
  | cons key rest inductionHypothesis =>
      rw [List.foldl_cons, inductionHypothesis, get_addElement]
      by_cases same : k = key
      · subst same
        simp only [if_pos, List.mem_append, List.mem_singleton, List.mem_cons]
        tauto
      · simp [same]

/-- Adding values under one key to a dict that holds only that key. -/
theorem entries_foldl_addElement_of_single (k : κ) :
    ∀ (values : List ν) (d : ListDict κ ν) (held : List ν), d.entries = [(k, held)] →
      (values.foldl (fun acc v => acc.addElement k v) d).entries = [(k, held ++ values)]
  | [], _, _, single => by simpa using single
  | v :: rest, d, held, single => by
      rw [List.foldl_cons, entries_foldl_addElement_of_single k rest _ (held ++ [v])]
      · simp
      · simp [addElement, single, appendAt]

theorem get_foldl_addElement_of_not_mem (d : ListDict κ ν) (keys : List κ) (value : ν) (k : κ)
    (absent : k ∉ keys) : (keys.foldl (fun acc key => acc.addElement key value) d).get k = d.get k := by
  induction keys generalizing d with
  | nil => rfl
  | cons key rest inductionHypothesis =>
      rw [List.mem_cons, not_or] at absent
      rw [List.foldl_cons, inductionHypothesis _ absent.2, get_addElement, if_neg absent.1]

/-- A new key goes at the end. -/
theorem appendAt_of_not_mem (key : κ) (value : ν) :
    ∀ entries : List (κ × List ν), key ∉ entries.map Prod.fst →
      appendAt key value entries = entries ++ [(key, [value])]
  | [], _ => rfl
  | (k, values) :: rest, absent => by
      rw [List.map_cons, List.mem_cons, not_or] at absent
      rw [appendAt, if_neg (Ne.symm absent.1), appendAt_of_not_mem key value rest absent.2, List.cons_append]

/-- Two entry lists that a map `f` of the keys makes equal stay so when a value is
added under a key that `f` sends nowhere else. -/
theorem map_appendAt_of_rigid {κ' : Type} (f : κ → κ') (key : κ) (value : ν)
    (rigid : ∀ k, f k = f key → k = key) :
    ∀ left right : List (κ × List ν), left.map (Prod.map f id) = right.map (Prod.map f id) →
      (appendAt key value left).map (Prod.map f id) = (appendAt key value right).map (Prod.map f id)
  | [], [], _ => rfl
  | (k, values) :: left, (k', values') :: right, same => by
      simp only [List.map_cons, List.cons.injEq, Prod.map, id, Prod.mk.injEq] at same
      obtain ⟨⟨sameKey, rfl⟩, rest⟩ := same
      have atKey : k = key ↔ k' = key :=
        ⟨fun atLeft => rigid k' (sameKey ▸ atLeft ▸ rfl), fun atRight => rigid k (sameKey ▸ atRight ▸ rfl)⟩
      by_cases found : k = key
      · simp [appendAt, found, atKey.1 found, rest]
      · simp [appendAt, found, mt atKey.2 found, sameKey, map_appendAt_of_rigid f key value rigid left right rest]

end ListDict

/-! ## Names -/

/-- One character of `cleanNameForV2SchemaCompatibility`. -/
def cleanChar (c : Char) : List Char :=
  if c = ':' then ['_'] else if c = '*' then ['a', 'l', 'l'] else [c.toLower]

/-- Modelled from the spec: `cleanNameForV2SchemaCompatibility`, of
`migration_tool/models.py`, not in src. A permission is "canonicalized
(lowercased, disallowed characters replaced)"; the characters the spec names are
the separator `:`, which becomes `_` (`{app}_{resource}_{verb}`), and the wildcard
`*`, which becomes `all` (`groups_all`). Lowercasing is ASCII here. -/
def cleanNameForV2SchemaCompatibility (name : String) : String :=
  ⟨name.toList.flatMap cleanChar⟩

end InsightsRbac.MigrationTool
