import InsightsRbac.Python.Json

/-!
Contract: the Python built-ins that the migration tool applies to resource
definitions, at the values it gives them: `str.split` with a one-character
separator (with and without `maxsplit=1`), iteration over what `json.loads`
returned, and the exceptions these raise.

Does not own: `str.split()` without a separator, or multi-character separators.
-/

namespace InsightsRbac.Python

/-- The exceptions that the modelled code lets escape. -/
inductive PyError where
  | jsonDecodeError (error : JSONDecodeError)
  | typeError (msg : String)
  | indexError (msg : String)
  | recursionError (msg : String)
  | valueError (msg : String)
deriving DecidableEq, Repr

/-- The one bind lemma for `Except`: a successful bind is a successful first step
and a successful continuation. -/
theorem except_bind_eq_ok {ε α β : Type} {x : Except ε α} {f : α → Except ε β} {y : β} :
    x >>= f = .ok y ↔ ∃ a, x = .ok a ∧ f a = .ok y := by
  cases x <;> simp [bind, Except.bind]

/-- A `mapM` whose function succeeds on every input returns the list of results. -/
theorem mapM_map_eq_ok {ε α β γ : Type} {f : β → Except ε γ} {h : α → β} {g : α → γ} :
    ∀ {xs : List α}, (∀ x ∈ xs, f (h x) = .ok (g x)) → (xs.map h).mapM f = .ok (xs.map g)
  | [], _ => rfl
  | x :: rest, succeeds => by
      rw [List.map_cons, List.mapM_cons, succeeds x (List.mem_cons_self _ _),
        mapM_map_eq_ok fun y member => succeeds y (List.mem_cons_of_mem _ member)]
      rfl

/-- A `mapM` whose function never raises succeeds. -/
theorem exists_mapM_eq_ok {ε α β : Type} {f : α → Except ε β} (total : ∀ x, ∃ y, f x = .ok y) :
    ∀ xs : List α, ∃ ys, xs.mapM f = .ok ys
  | [] => ⟨[], rfl⟩
  | x :: rest => by
      obtain ⟨y, head⟩ := total x
      obtain ⟨ys, tail⟩ := exists_mapM_eq_ok total rest
      exact ⟨y :: ys, by rw [List.mapM_cons, head, tail]; rfl⟩

/-- The pieces of `s.split(sep)`, split into the first one and the rest. -/
def splitChars (sep : Char) : List Char → List Char × List (List Char)
  | [] => ([], [])
  | c :: rest =>
      let (first, others) := splitChars sep rest
      if c = sep then ([], first :: others) else (c :: first, others)

/-- `s.split(sep)` for a one-character separator. -/
def strSplit (s : String) (sep : Char) : List String :=
  let (first, others) := splitChars sep s.toList
  (first :: others).map String.mk

/-- The pieces of `splitChars` are those of the library's `List.splitOn`. -/
theorem splitChars_eq_splitOn (sep : Char) :
    ∀ cs : List Char, (splitChars sep cs).1 :: (splitChars sep cs).2 = cs.splitOn sep
  | [] => rfl
  | c :: rest => by
      have pieces := splitChars_eq_splitOn sep rest
      rw [List.splitOn, List.splitOnP_cons, ← List.splitOn, ← pieces]
      by_cases atSep : c = sep <;> simp [splitChars, atSep]

theorem not_mem_splitChars (sep : Char) :
    ∀ cs : List Char, ∀ piece ∈ (splitChars sep cs).1 :: (splitChars sep cs).2, sep ∉ piece
  | [] => by simp [splitChars]
  | c :: rest => by
      have clean := not_mem_splitChars sep rest
      by_cases atSep : c = sep
      · simpa [splitChars, atSep] using clean
      · simp only [splitChars, if_neg atSep, List.mem_cons, forall_eq_or_imp, not_or] at clean ⊢
        exact ⟨⟨Ne.symm atSep, clean.1⟩, clean.2⟩

/-- `s.split(sep)` cuts `s` exactly at its separators: joining the pieces with
`sep` gives `s` back, and no piece holds `sep`. -/
theorem strSplit_intercalate (s : String) (sep : Char) :
    [sep].intercalate ((strSplit s sep).map String.toList) = s.toList ∧
      ∀ piece ∈ strSplit s sep, sep ∉ piece.toList := by
  have pieces : (strSplit s sep).map String.toList = s.toList.splitOn sep := by
    rw [← splitChars_eq_splitOn]
    simp [strSplit, Function.comp_def, String.toList]
  refine ⟨by rw [pieces, List.intercalate_splitOn], fun piece member => ?_⟩
  exact not_mem_splitChars sep s.toList piece.toList (by
    rw [splitChars_eq_splitOn, ← pieces]
    exact List.mem_map_of_mem _ member)

/-- `s.split(sep, 1)` for a one-character separator. -/
def strSplitOnce (s : String) (sep : Char) : List String :=
  match s.toList.span (· ≠ sep) with
  | (before, []) => [String.mk before]
  | (before, _ :: after) => [String.mk before, String.mk after]

/-- `iter(value)` for a value `json.loads` returned: a list yields its items, a
`str` its characters, a dict its keys once each in first-insertion order; `None`,
booleans and numbers are not iterable. -/
def JsonValue.iterate : JsonValue → Except PyError (List JsonValue)
  | .array items => .ok items
  | .str s => .ok (s.toList.map fun c => .str c.toString)
  | .object members => .ok ((members.map Prod.fst).eraseDups.map .str)
  | .null => .error (.typeError "'NoneType' object is not iterable")
  | .bool _ => .error (.typeError "'bool' object is not iterable")
  | .int _ => .error (.typeError "'int' object is not iterable")
  | .float _ => .error (.typeError "'float' object is not iterable")

end InsightsRbac.Python
