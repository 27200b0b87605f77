import InsightsRbac.Python.Builtins
import Mathlib.Tactic.IntervalCases

/-!
Contract: `json.dumps(obj)` under its defaults, as CPython's C encoder writes it
(`c_make_encoder` with `c_encode_basestring_ascii`), on the values the access cache
stores: `None`, booleans, ints, strings, lists, and dicts with `str` keys; and the
interpreter limits it runs under.

Owns: the encoder (`encode`, `dumps`) with the escapes of `ascii_escape_unichar`
(the short escapes, `\uXXXX` in lowercase hex, and a surrogate pair above the BMP);
`jsonDumps`, which raises `RecursionError` when lists and dicts nest deeper than the
recursive calls left and `ValueError` for an int longer than
`sys.get_int_max_str_digits()`, the first the encoder meets; the round trip
`loads_dumps`: `json.loads` reads back what the encoder wrote, for every such value,
whatever its strings hold, and `loads_jsonDumps`: `json.dumps` succeeds exactly
within the limits (`encodeFault_eq_none`), and then its text reads back. For the
`in` literals of the migration, `dumpsStrList` writes a list of ids made of plain
characters, and `dumps_strList` shows that it is the encoder's output.

Does not own: floats (`float.__repr__`), whose value the scanner keeps as text;
dict keys other than `str`, which `json.dumps` converts to strings; circular
references and objects it cannot serialise, on which it raises; the options
(`indent`, `sort_keys`, `separators`), which no caller sets; and the limits of
`json.loads`, whose reads the model takes as unbounded.
-/

namespace InsightsRbac.Python

/-- A Python value `json.dumps` is given: `None`, a `bool`, an `int`, a `str`, a
`list`, or a `dict` with `str` keys in insertion order. -/
inductive PyValue where
  | none
  | bool (value : Bool)
  | int (value : Int)
  | str (value : String)
  | list (items : List PyValue)
  | dict (members : List (String × PyValue))
deriving Repr

mutual

/-- What `json.loads` returns for the text `json.dumps` writes: a list becomes an
array and a dict an object, its members in order. -/
def PyValue.toJsonValue : PyValue → JsonValue
  | .none => .null
  | .bool value => .bool value
  | .int value => .int value
  | .str value => .str value
  | .list items => .array (toJsonItems items)
  | .dict members => .object (toJsonMembers members)

def toJsonItems : List PyValue → List JsonValue
  | [] => []
  | item :: rest => item.toJsonValue :: toJsonItems rest

def toJsonMembers : List (String × PyValue) → List (String × JsonValue)
  | [] => []
  | (key, value) :: rest => (key, value.toJsonValue) :: toJsonMembers rest

end

theorem toJsonItems_eq_map : ∀ items : List PyValue, toJsonItems items = items.map PyValue.toJsonValue
  | [] => rfl
  | item :: rest => congrArg (item.toJsonValue :: ·) (toJsonItems_eq_map rest)

/-! ## Strings -/

/-- `Py_hexdigits`. -/
def pyHexdigits : List Char := "0123456789abcdef".toList

/-- `\u` and the four `Py_hexdigits` of a UTF-16 code unit, from `(c >> 12) & 0xf`
down to `c & 0xf`. -/
def unicodeEscape (code : Nat) : List Char :=
  ['\\', 'u', pyHexdigits.getD (code / 0x1000 % 16) '0', pyHexdigits.getD (code / 0x100 % 16) '0',
    pyHexdigits.getD (code / 0x10 % 16) '0', pyHexdigits.getD (code % 16) '0']

/-- `Py_UNICODE_HIGH_SURROGATE`. -/
def highSurrogate (code : Nat) : Nat := 0xd800 - 0x10000 / 0x400 + code / 0x400

/-- `Py_UNICODE_LOW_SURROGATE`. -/
def lowSurrogate (code : Nat) : Nat := 0xdc00 + code % 0x400

/-- `ascii_escape_unichar`: the escape of a character that is not `S_CHAR`. -/
def asciiEscapeUnichar (c : Char) : List Char :=
  match c with
  | '\\' => ['\\', '\\']
  | '"' => ['\\', '"']
  | '\x08' => ['\\', 'b']
  | '\x0c' => ['\\', 'f']
  | '\n' => ['\\', 'n']
  | '\r' => ['\\', 'r']
  | '\t' => ['\\', 't']
  | c =>
      if 0x10000 ≤ c.toNat then
        unicodeEscape (highSurrogate c.toNat) ++ unicodeEscape (lowSurrogate c.toNat)
      else unicodeEscape c.toNat

/-- A character `json.dumps` writes as itself under its default
`ensure_ascii=True` (`S_CHAR`): printable ASCII other than the quote and the
backslash. -/
def isPlainChar (c : Char) : Bool :=
  ' ' ≤ c && c ≤ '~' && c ≠ '"' && c ≠ '\\'

/-- One character of `ascii_escape_unicode`: itself when it is `S_CHAR`
(`isPlainChar`), its escape otherwise. -/
def asciiEscapeChar (c : Char) : List Char :=
  if isPlainChar c then [c] else asciiEscapeUnichar c

/-- `ascii_escape_unicode`: the string between quotes, escaped. -/
def asciiEscapeUnicode (s : String) : List Char :=
  '"' :: s.toList.flatMap asciiEscapeChar ++ ['"']

/-! ## Values -/

/-- `int.__repr__`: the decimal digits of the magnitude, after `-` for a negative int. -/
def intRepr (n : Int) : List Char :=
  if n < 0 then '-' :: Nat.toDigits 10 n.natAbs else Nat.toDigits 10 n.natAbs

mutual

/-- `encoder_listencode_obj` with the separators `json.dumps` passes: `", "` between
items and `": "` after a key. An empty list or dict is `[]` or `{}`. -/
def encode : PyValue → List Char
  | .none => "null".toList
  | .bool true => "true".toList
  | .bool false => "false".toList
  | .int value => intRepr value
  | .str value => asciiEscapeUnicode value
  | .list items => '[' :: encodeItems items ++ [']']
  | .dict members => '\x7b' :: encodeMembers members ++ ['\x7d']

/-- The items `encoder_listencode_list` writes between the brackets. -/
def encodeItems : List PyValue → List Char
  | [] => []
  | item :: rest => encode item ++ encodeLaterItems rest

/-- The items after the first, each after the item separator. -/
def encodeLaterItems : List PyValue → List Char
  | [] => []
  | item :: rest => ',' :: ' ' :: encode item ++ encodeLaterItems rest

/-- The members `encoder_listencode_dict` writes between the braces: the key's
string, the key separator, the value. -/
def encodeMembers : List (String × PyValue) → List Char
  | [] => []
  | (key, value) :: rest =>
      asciiEscapeUnicode key ++ ':' :: ' ' :: encode value ++ encodeLaterMembers rest

/-- The members after the first, each after the item separator. -/
def encodeLaterMembers : List (String × PyValue) → List Char
  | [] => []
  | (key, value) :: rest =>
      ',' :: ' ' :: asciiEscapeUnicode key ++ ':' :: ' ' :: encode value ++ encodeLaterMembers rest

end

/-- `json.dumps(obj)`. -/
def dumps (value : PyValue) : String := ⟨encode value⟩

example : dumps (.dict [("a\n", .list [.int (-12), .none]), ("é😀", .bool true)]) =
    "\x7b\"a\\n\": [-12, null], \"\\u00e9\\ud83d\\ude00\": true\x7d" := by decide

/-! ## The interpreter's limits

The C encoder enters a recursive call (`_Py_EnterRecursiveCall(" while encoding a
JSON object")`) for each list and dict, before looking at its items, and writes an
int with `int.__repr__`. The first raises `RecursionError` once the calls left where
`json.dumps` was called are spent; the second raises `ValueError` for an int with
more decimal digits than `sys.get_int_max_str_digits()`. The encoder stops at the
first of them in the order it writes the value, and its partial text is dropped. -/

/-- The limits `json.dumps` runs under. -/
structure Limits where
  /-- The recursive calls `Py_EnterRecursiveCall` still admits where `json.dumps`
  is called: the recursion limit less the depth of the caller's stack. -/
  recursionBudget : Nat
  /-- `sys.get_int_max_str_digits()`: 4300 by default, `0` for no limit. -/
  intMaxStrDigits : Nat
deriving DecidableEq, Repr

/-- The limit the encoder met. -/
inductive EncodeFault where
  /-- `Py_EnterRecursiveCall` found no call left. -/
  | recursion
  /-- `int.__repr__` found more digits than the limit. -/
  | intRepr
deriving DecidableEq, Repr

/-- The exception each limit raises: `_Py_CheckRecursiveCall`'s, and
`_MAX_STR_DIGITS_ERROR_FMT_TO_STR`. -/
def EncodeFault.toPyError (limits : Limits) : EncodeFault → PyError
  | .recursion => .recursionError "maximum recursion depth exceeded while encoding a JSON object"
  | .intRepr =>
      .valueError ("Exceeds the limit (" ++ toString limits.intMaxStrDigits ++
        " digits) for integer string conversion; use sys.set_int_max_str_digits() to increase the limit")

/-- `long_to_decimal_string`: a positive limit below the number of decimal digits of
the magnitude raises. -/
def intReprFault (limits : Limits) (n : Int) : Option EncodeFault :=
  if 0 < limits.intMaxStrDigits ∧ limits.intMaxStrDigits < (Nat.toDigits 10 n.natAbs).length then
    some .intRepr
  else none

mutual

/-- Where `encoder_listencode_obj` stops on a value with `budget` recursive calls
left, if it does: a list or a dict enters a call before its items and members,
which are encoded in order. -/
def encodeFault (limits : Limits) (budget : Nat) : PyValue → Option EncodeFault
  | .int value => intReprFault limits value
  | .list items =>
      match budget with
      | 0 => some .recursion
      | budget + 1 => itemsFault limits budget items
  | .dict members =>
      match budget with
      | 0 => some .recursion
      | budget + 1 => membersFault limits budget members
  | _ => none

/-- `encoder_listencode_list`: the first item that stops the encoder. -/
def itemsFault (limits : Limits) (budget : Nat) : List PyValue → Option EncodeFault
  | [] => none
  | item :: rest => (encodeFault limits budget item).or (itemsFault limits budget rest)

/-- `encoder_listencode_dict`: the first value that stops the encoder; its `str`
keys are written without raising. -/
def membersFault (limits : Limits) (budget : Nat) : List (String × PyValue) → Option EncodeFault
  | [] => none
  | (_, value) :: rest => (encodeFault limits budget value).or (membersFault limits budget rest)

end

/-- `json.dumps(obj)` under the interpreter's limits: the text, or the exception of
the first limit the encoder met. -/
def jsonDumps (limits : Limits) (value : PyValue) : Except PyError String :=
  match encodeFault limits limits.recursionBudget value with
  | some fault => .error (fault.toPyError limits)
  | none => .ok (dumps value)

mutual

/-- How deeply lists and dicts nest in a value: `0` for a scalar, one more than its
deepest item for a list or a dict. -/
def PyValue.depth : PyValue → Nat
  | .list items => itemsDepth items + 1
  | .dict members => membersDepth members + 1
  | _ => 0

def itemsDepth : List PyValue → Nat
  | [] => 0
  | item :: rest => max item.depth (itemsDepth rest)

def membersDepth : List (String × PyValue) → Nat
  | [] => 0
  | (_, value) :: rest => max value.depth (membersDepth rest)

end

mutual

/-- The ints a value holds, at any depth. -/
def PyValue.ints : PyValue → List Int
  | .int value => [value]
  | .list items => itemsInts items
  | .dict members => membersInts members
  | _ => []

def itemsInts : List PyValue → List Int
  | [] => []
  | item :: rest => item.ints ++ itemsInts rest

def membersInts : List (String × PyValue) → List Int
  | [] => []
  | (_, value) :: rest => value.ints ++ membersInts rest

end

/-- An int `int.__repr__` writes under the digit limit. -/
def Limits.ReprFits (limits : Limits) (n : Int) : Prop :=
  limits.intMaxStrDigits = 0 ∨ (Nat.toDigits 10 n.natAbs).length ≤ limits.intMaxStrDigits

instance (limits : Limits) (n : Int) : Decidable (limits.ReprFits n) :=
  inferInstanceAs (Decidable (_ ∨ _))

/-- A value `json.dumps` writes without meeting a limit: lists and dicts nested no
deeper than the recursive calls left, and every int within the digit limit. -/
def WithinLimits (limits : Limits) (value : PyValue) : Prop :=
  value.depth ≤ limits.recursionBudget ∧ ∀ n ∈ value.ints, limits.ReprFits n

instance (limits : Limits) (value : PyValue) : Decidable (WithinLimits limits value) :=
  inferInstanceAs (Decidable (_ ∧ _))

theorem intReprFault_eq_none (limits : Limits) (n : Int) :
    intReprFault limits n = none ↔ limits.ReprFits n := by
  unfold intReprFault Limits.ReprFits
  split <;> simp only [reduceCtorEq, true_iff, false_iff] <;> omega

section Faults

variable (limits : Limits)

mutual

/-- The encoder meets no limit exactly when the value nests no deeper than the calls
left and holds no int beyond the digit limit. -/
theorem encodeFault_eq_none : ∀ (value : PyValue) (budget : Nat),
    encodeFault limits budget value = none ↔ value.depth ≤ budget ∧ ∀ n ∈ value.ints, limits.ReprFits n
  | .none, _ | .bool _, _ | .str _, _ => by simp [encodeFault, PyValue.depth, PyValue.ints]
  | .int value, _ => by simp [encodeFault, PyValue.depth, PyValue.ints, intReprFault_eq_none]
  | .list _, 0 | .dict _, 0 => by simp [encodeFault, PyValue.depth]
  | .list items, budget + 1 => by
      simp only [encodeFault, PyValue.depth, PyValue.ints, itemsFault_eq_none items budget,
        Nat.add_le_add_iff_right]
  | .dict members, budget + 1 => by
      simp only [encodeFault, PyValue.depth, PyValue.ints, membersFault_eq_none members budget,
        Nat.add_le_add_iff_right]

theorem itemsFault_eq_none : ∀ (items : List PyValue) (budget : Nat),
    itemsFault limits budget items = none ↔ itemsDepth items ≤ budget ∧ ∀ n ∈ itemsInts items, limits.ReprFits n
  | [], _ => by simp [itemsFault, itemsDepth, itemsInts]
  | item :: rest, budget => by
      simp only [itemsFault, itemsDepth, itemsInts, Option.or_eq_none, encodeFault_eq_none item budget,
        itemsFault_eq_none rest budget, max_le_iff, List.mem_append, or_imp, forall_and]
      tauto

theorem membersFault_eq_none : ∀ (members : List (String × PyValue)) (budget : Nat),
    membersFault limits budget members = none ↔
      membersDepth members ≤ budget ∧ ∀ n ∈ membersInts members, limits.ReprFits n
  | [], _ => by simp [membersFault, membersDepth, membersInts]
  | (_, value) :: rest, budget => by
      simp only [membersFault, membersDepth, membersInts, Option.or_eq_none,
        encodeFault_eq_none value budget, membersFault_eq_none rest budget, max_le_iff, List.mem_append,
        or_imp, forall_and]
      tauto

end

/-- `json.dumps` returns text exactly within the limits, and it is the encoder's. -/
theorem jsonDumps_eq_ok_iff (value : PyValue) (text : String) :
    jsonDumps limits value = .ok text ↔ WithinLimits limits value ∧ text = dumps value := by
  rw [WithinLimits, ← encodeFault_eq_none]
  unfold jsonDumps
  cases encodeFault limits limits.recursionBudget value <;> simp [eq_comm]

end Faults

/-! ## Reading back a string

`scanstring_unicode` undoes each escape `ascii_escape_unichar` writes: a short
escape, a `\uXXXX` escape of a BMP character, and a surrogate pair, which the
scanner joins, for a character above the BMP. -/

theorem hexDigit_pyHexdigits : ∀ d < 16, hexDigit (pyHexdigits.getD d '0') = some d := by
  decide

theorem hexQuad_pyHexdigits {code : Nat} (small : code < 0x10000) :
    hexQuad (pyHexdigits.getD (code / 0x1000 % 16) '0') (pyHexdigits.getD (code / 0x100 % 16) '0')
      (pyHexdigits.getD (code / 0x10 % 16) '0') (pyHexdigits.getD (code % 16) '0') = some code := by
  simp only [hexQuad, hexDigit_pyHexdigits _ (Nat.mod_lt _ (by decide : 0 < 16))]
  exact congrArg some (by omega)

theorem codePointChar_toNat (c : Char) : codePointChar c.toNat = c := by
  have valid : c.toNat.isValidChar := c.valid
  have same := Char.ofNat_toNat c
  unfold Char.ofNat at same
  rw [dif_pos valid] at same
  rwa [codePointChar, dif_pos valid]

theorem scanString_shortEscape (quote : Nat) (decoded : List Char) {c e : Char}
    (escaped : escapedChar c = some e) (notU : c ≠ 'u') (tail : List Char) :
    scanString quote decoded ('\\' :: c :: tail) = scanString quote (e :: decoded) tail := by
  rw [scanString.eq_9 _ _ _ _ (fun _ _ _ _ _ same _ => notU same) notU, escaped]

/-- A `\uXXXX` escape of a code unit that opens no surrogate pair is read back as
its character. -/
theorem scanString_unicodeEscape (quote : Nat) (decoded : List Char) {code : Nat}
    (small : code < 0x10000) (notHigh : isHighSurrogate code = false) {tail : List Char}
    (nonempty : tail ≠ []) :
    scanString quote decoded (unicodeEscape code ++ tail) =
      scanString quote (codePointChar code :: decoded) tail := by
  have quad := hexQuad_pyHexdigits small
  simp only [unicodeEscape, List.cons_append, List.nil_append]
  by_cases pair : ∃ e f g h after, tail = '\\' :: 'u' :: e :: f :: g :: h :: after
  · obtain ⟨e, f, g, h, after, rfl⟩ := pair
    rw [scanString.eq_6 _ _ _ _ _ _ _ _ _ _ _ _ quad, notHigh, Bool.false_and, if_neg Bool.false_ne_true]
  · exact scanString.eq_7 _ _ _ _ _ _ _ _ nonempty (fun e f g h after same => pair ⟨e, f, g, h, after, same⟩)
      quad

/-- The surrogate pair of a character above the BMP is read back as that character. -/
theorem scanString_surrogatePair (quote : Nat) (decoded : List Char) {c : Char}
    (above : 0x10000 ≤ c.toNat) {tail : List Char} (nonempty : tail ≠ []) :
    scanString quote decoded
        (unicodeEscape (highSurrogate c.toNat) ++ unicodeEscape (lowSurrogate c.toNat) ++ tail) =
      scanString quote (c :: decoded) tail := by
  have valid : c.toNat < 0x110000 := by
    have : c.toNat.isValidChar := c.valid
    simp only [Nat.isValidChar] at this
    omega
  have high := hexQuad_pyHexdigits (show highSurrogate c.toNat < 0x10000 by unfold highSurrogate; omega)
  have low := hexQuad_pyHexdigits (show lowSurrogate c.toNat < 0x10000 by unfold lowSurrogate; omega)
  have joined : joinSurrogates (highSurrogate c.toNat) (lowSurrogate c.toNat) = c.toNat := by
    unfold joinSurrogates highSurrogate lowSurrogate
    omega
  have opens : (isHighSurrogate (highSurrogate c.toNat) && decide (0 < tail.length)) = true := by
    have := List.length_pos.2 nonempty
    simp only [isHighSurrogate, highSurrogate, Bool.and_eq_true, decide_eq_true_eq]
    omega
  have closes : isLowSurrogate (lowSurrogate c.toNat) = true := by
    simp only [isLowSurrogate, lowSurrogate, Bool.and_eq_true, decide_eq_true_eq]
    omega
  simp only [unicodeEscape, List.cons_append, List.nil_append]
  rw [scanString.eq_6 _ _ _ _ _ _ _ _ _ _ _ _ high, if_pos opens, low]
  dsimp only
  rw [if_pos closes, joined, codePointChar_toNat]

theorem scanString_asciiEscapeUnichar (quote : Nat) (decoded : List Char) (c : Char)
    {tail : List Char} (nonempty : tail ≠ []) :
    scanString quote decoded (asciiEscapeUnichar c ++ tail) = scanString quote (c :: decoded) tail := by
  unfold asciiEscapeUnichar
  split
  any_goals exact scanString_shortEscape _ _ (by rfl) (by decide) _
  split
  · next above => rw [scanString_surrogatePair _ _ above nonempty]
  · next below =>
    have valid : c.toNat.isValidChar := c.valid
    simp only [Nat.isValidChar] at valid
    rw [scanString_unicodeEscape _ _ (by omega) _ nonempty, codePointChar_toNat]
    simp only [isHighSurrogate, Bool.and_eq_false_iff, decide_eq_false_iff_not]
    omega

theorem isPlainChar_scans {c : Char} (plain : isPlainChar c = true) :
    ¬c.toNat ≤ 31 ∧ c ≠ '"' ∧ c ≠ '\\' := by
  simp only [isPlainChar, Bool.and_eq_true, decide_eq_true_eq] at plain
  obtain ⟨⟨⟨printable, -⟩, quote⟩, backslash⟩ := plain
  have : 32 ≤ c.toNat := printable
  exact ⟨by omega, quote, backslash⟩

theorem scanString_plainChar (quote : Nat) (decoded : List Char) {c : Char}
    (plain : isPlainChar c = true) (tail : List Char) :
    scanString quote decoded (c :: tail) = scanString quote (c :: decoded) tail := by
  obtain ⟨printable, quoteNe, backslashNe⟩ := isPlainChar_scans plain
  rw [scanString.eq_10 _ _ _ _ quoteNe (fun same _ => backslashNe same)
    (fun _ _ _ _ _ same _ => backslashNe same) (fun _ same _ => backslashNe same)
    (fun _ _ same _ => backslashNe same), if_neg printable]

/-- The body `ascii_escape_unicode` writes is read back as the string it was
written from. -/
theorem scanString_escaped (quote : Nat) :
    ∀ (cs decoded rest : List Char),
      scanString quote decoded (cs.flatMap asciiEscapeChar ++ '"' :: rest) =
        .ok (⟨decoded.reverse ++ cs⟩, rest)
  | [], decoded, rest => by rw [List.flatMap_nil, List.nil_append, scanString.eq_2, List.append_nil]
  | c :: cs, decoded, rest => by
      rw [List.flatMap_cons, List.append_assoc, asciiEscapeChar]
      split
      · next plain =>
        rw [List.singleton_append, scanString_plainChar _ _ plain, scanString_escaped quote cs]
        simp
      · rw [scanString_asciiEscapeUnichar _ _ _ (by simp), scanString_escaped quote cs]
        simp

theorem scanString_escapedString (quote : Nat) (s : String) (rest : List Char) :
    scanString quote [] (s.toList.flatMap asciiEscapeChar ++ '"' :: rest) = .ok (s, rest) :=
  scanString_escaped quote s.toList [] rest

theorem asciiEscapeUnicode_append (s : String) (rest : List Char) :
    asciiEscapeUnicode s ++ rest = '"' :: (s.toList.flatMap asciiEscapeChar ++ '"' :: rest) := by
  simp [asciiEscapeUnicode]

theorem scanOnce_asciiEscapeUnicode (fuel : Nat) (s : String) (rest : List Char) :
    scanOnce (fuel + 1) (asciiEscapeUnicode s ++ rest) = .ok (.str s, rest) := by
  rw [asciiEscapeUnicode_append, ← Nat.succ_eq_add_one, scanOnce.eq_3, scanString_escapedString]
  rfl

/-! ## Reading back an int

`Nat.toDigits` writes the most significant digit first, a nonzero one unless the
int is `0`, so `_match_number_unicode` takes the whole run as the integer part,
and what `json.dumps` writes after a value (`Delimited`) starts neither a fraction
nor an exponent. -/

/-- What may follow a value `json.dumps` wrote: the end of the text, or the `,`,
`]` or `}` after it. -/
def Delimited (rest : List Char) : Prop :=
  ∀ c after, rest = c :: after → c = ',' ∨ c = ']' ∨ c = '\x7d'

theorem digitChar_facts : ∀ d < 10, (Nat.digitChar d).isDigit = true ∧
    (Nat.digitChar d).toNat - '0'.toNat = d ∧ isWhitespace (Nat.digitChar d) = false ∧
    Nat.digitChar d ≠ '"' ∧ Nat.digitChar d ≠ '\x7b' ∧ Nat.digitChar d ≠ '[' ∧
    Nat.digitChar d ≠ ']' ∧ Nat.digitChar d ≠ '\x7d' ∧ Nat.digitChar d ≠ '\uFEFF' := by
  decide

/-- What the number scanner's leaves do on a decimal digit. -/
theorem digitChar_scans : ∀ d < 10, ∀ tail : List Char,
    minusPart (Nat.digitChar d :: tail) = (false, Nat.digitChar d :: tail) ∧
    matchLiteral (Nat.digitChar d :: tail) = none ∧
    matchLiteral ('-' :: Nat.digitChar d :: tail) = none ∧
    (0 < d → integerPart (Nat.digitChar d :: tail) =
      some (Nat.digitChar d :: (tail.span Char.isDigit).1, (tail.span Char.isDigit).2)) := by
  intro d small tail
  interval_cases d <;> exact ⟨rfl, rfl, rfl, fun positive => by first | rfl | omega⟩

theorem toDigitsCore_succ (fuel n : Nat) (ds : List Char) :
    Nat.toDigitsCore 10 (fuel + 1) n ds =
      if n / 10 = 0 then Nat.digitChar (n % 10) :: ds
      else Nat.toDigitsCore 10 fuel (n / 10) (Nat.digitChar (n % 10) :: ds) := rfl

theorem toDigitsCore_append : ∀ (fuel n : Nat) (ds : List Char),
    Nat.toDigitsCore 10 fuel n ds = Nat.toDigitsCore 10 fuel n [] ++ ds
  | 0, _, _ => rfl
  | fuel + 1, n, ds => by
      rw [toDigitsCore_succ, toDigitsCore_succ]
      split
      · rfl
      · rw [toDigitsCore_append fuel _ (_ :: ds), toDigitsCore_append fuel _ [_]]
        simp

theorem digitsValue_append_digitChar (cs : List Char) {d : Nat} (small : d < 10) :
    digitsValue (cs ++ [Nat.digitChar d]) = digitsValue cs * 10 + d := by
  simp only [digitsValue, List.foldl_append, List.foldl_cons, List.foldl_nil,
    (digitChar_facts d small).2.1]

/-- `Nat.toDigitsCore` with enough fuel: a leading digit, nonzero for a nonzero
number, then more digits, whose value is the number. -/
theorem toDigitsCore_spec : ∀ (fuel n : Nat), n < fuel →
    ∃ d < 10, ∃ more, Nat.toDigitsCore 10 fuel n [] = Nat.digitChar d :: more ∧
      (0 < n → 0 < d) ∧ (∀ c ∈ more, c.isDigit = true) ∧
      digitsValue (Nat.toDigitsCore 10 fuel n []) = n
  | 0, _, short => absurd short (Nat.not_lt_zero _)
  | fuel + 1, n, short => by
      rw [toDigitsCore_succ]
      split
      · next last =>
        refine ⟨n % 10, Nat.mod_lt _ (by decide), [], rfl, fun _ => by omega, nofun, ?_⟩
        rw [← List.nil_append [_], digitsValue_append_digitChar _ (Nat.mod_lt _ (by decide))]
        simp only [digitsValue, List.foldl_nil]
        omega
      · next notLast =>
        obtain ⟨d, small, more, leading, positive, digits, value⟩ :=
          toDigitsCore_spec fuel (n / 10) (by omega)
        refine ⟨d, small, more ++ [Nat.digitChar (n % 10)], ?_, fun _ => positive (by omega), ?_, ?_⟩
        · rw [toDigitsCore_append, leading]
          rfl
        · simp only [List.mem_append, List.mem_singleton]
          rintro c (member | rfl)
          exacts [digits c member, (digitChar_facts _ (Nat.mod_lt _ (by decide))).1]
        · rw [toDigitsCore_append, digitsValue_append_digitChar _ (Nat.mod_lt _ (by decide)), value]
          omega

theorem toDigits_spec (m : Nat) :
    ∃ d < 10, ∃ more, Nat.toDigits 10 m = Nat.digitChar d :: more ∧
      (0 < m → 0 < d) ∧ (∀ c ∈ more, c.isDigit = true) ∧ digitsValue (Nat.toDigits 10 m) = m :=
  toDigitsCore_spec (m + 1) m (Nat.lt_succ_self m)

theorem span_isDigit_of_delimited {rest : List Char} (delimited : Delimited rest) :
    ∀ ds : List Char, (∀ c ∈ ds, c.isDigit = true) → (ds ++ rest).span Char.isDigit = (ds, rest)
  | [], _ => by
      rw [List.span_eq_take_drop, List.nil_append]
      cases rest with
      | nil => rfl
      | cons c after => rcases delimited c after rfl with rfl | rfl | rfl <;> rfl
  | c :: ds, digits => by
      have later := span_isDigit_of_delimited delimited ds fun c member => digits c (.tail _ member)
      rw [List.span_eq_take_drop] at later ⊢
      simp only [Prod.mk.injEq] at later
      rw [List.cons_append, List.takeWhile_cons_of_pos (digits c (.head _)),
        List.dropWhile_cons_of_pos (digits c (.head _)), later.1, later.2]

theorem fractionPart_of_delimited {rest : List Char} (delimited : Delimited rest) :
    fractionPart rest = ([], rest) := by
  cases rest with
  | nil => rfl
  | cons c after => rcases delimited c after rfl with rfl | rfl | rfl <;> rfl

theorem exponentPart_of_delimited {rest : List Char} (delimited : Delimited rest) :
    exponentPart rest = ([], rest) := by
  cases rest with
  | nil => rfl
  | cons c after => rcases delimited c after rfl with rfl | rfl | rfl <;> rfl

theorem integerPart_toDigits (m : Nat) {rest : List Char} (delimited : Delimited rest) :
    integerPart (Nat.toDigits 10 m ++ rest) = some (Nat.toDigits 10 m, rest) := by
  rcases Nat.eq_zero_or_pos m with rfl | positive
  · rfl
  · obtain ⟨d, small, more, leading, leadingPositive, digits, -⟩ := toDigits_spec m
    rw [leading, List.cons_append, (digitChar_scans d small _).2.2.2 (leadingPositive positive),
      span_isDigit_of_delimited delimited more digits]

/-- `_match_number_unicode` reads `int.__repr__` back as the int. -/
theorem matchNumber_intRepr (n : Int) {rest : List Char} (delimited : Delimited rest) :
    matchNumber (intRepr n ++ rest) = some (.int n, rest) := by
  obtain ⟨d, small, more, leading, -, -, value⟩ := toDigits_spec n.natAbs
  have sign : minusPart (intRepr n ++ rest) = (decide (n < 0), Nat.toDigits 10 n.natAbs ++ rest) := by
    unfold intRepr
    split
    · next negative => rw [decide_eq_true negative]; rfl
    · next nonnegative =>
      rw [decide_eq_false nonnegative, leading, List.cons_append]
      exact (digitChar_scans d small _).1
  unfold matchNumber
  rw [sign]
  dsimp only
  rw [integerPart_toDigits _ delimited, Option.map_some']
  dsimp only
  rw [fractionPart_of_delimited delimited, exponentPart_of_delimited delimited, value]
  simp only [List.isEmpty_nil, Bool.and_self, if_true, decide_eq_true_eq]
  congr
  split <;> omega

/-- A value that opens with none of `"`, `{` and `[` is a constant or a number. -/
theorem scanOnce_constant_or_number (fuel : Nat) {c : Char} (tail : List Char) (quote : c ≠ '"')
    (brace : c ≠ '\x7b') (bracket : c ≠ '[') :
    scanOnce (fuel + 1) (c :: tail) =
      match matchLiteral (c :: tail) with
      | some result => .ok result
      | none =>
          match matchNumber (c :: tail) with
          | some result => .ok result
          | none => .error (.stopIteration (c :: tail).length) :=
  scanOnce.eq_6 _ _ (List.cons_ne_nil _ _) (fun _ same => quote (List.cons.inj same).1)
    (fun _ same => brace (List.cons.inj same).1) (fun _ same => bracket (List.cons.inj same).1)

theorem scanOnce_intRepr (fuel : Nat) (n : Int) {rest : List Char} (delimited : Delimited rest) :
    scanOnce (fuel + 1) (intRepr n ++ rest) = .ok (.int n, rest) := by
  obtain ⟨d, small, more, leading, -⟩ := toDigits_spec n.natAbs
  obtain ⟨-, -, -, quote, brace, bracket, -⟩ := digitChar_facts d small
  obtain ⟨-, constant, negativeConstant, -⟩ := digitChar_scans d small (more ++ rest)
  have number := matchNumber_intRepr n delimited
  unfold intRepr at number ⊢
  by_cases negative : n < 0
  · rw [if_pos negative, leading, List.cons_append, List.cons_append] at number ⊢
    rw [scanOnce_constant_or_number _ _ (by decide) (by decide) (by decide), negativeConstant, number]
  · rw [if_neg negative, leading, List.cons_append] at number ⊢
    rw [scanOnce_constant_or_number _ _ quote brace bracket, constant, number]

theorem isPrefixOf_append_self (lit rest : List Char) : lit.isPrefixOf (lit ++ rest) = true :=
  List.isPrefixOf_iff_prefix.2 (List.prefix_append _ _)

/-- The constants `json.dumps` writes are read back as themselves. -/
theorem matchLiteral_constants (rest : List Char) :
    matchLiteral ("null".toList ++ rest) = some (.null, rest) ∧
    matchLiteral ("true".toList ++ rest) = some (.bool true, rest) ∧
    matchLiteral ("false".toList ++ rest) = some (.bool false, rest) := by
  have skipTrue : "null".toList.isPrefixOf ("true".toList ++ rest) = false := rfl
  have skipFalse : "null".toList.isPrefixOf ("false".toList ++ rest) = false ∧
      "true".toList.isPrefixOf ("false".toList ++ rest) = false := ⟨rfl, rfl⟩
  simp only [matchLiteral, literals, List.findSome?_cons, isPrefixOf_append_self, skipTrue,
    skipFalse, if_true, Bool.false_eq_true, if_false, List.drop_left, and_self]

theorem scanOnce_of_matchLiteral (fuel : Nat) {c : Char} {tail rest : List Char} {value : JsonValue}
    (quote : c ≠ '"') (brace : c ≠ '\x7b') (bracket : c ≠ '[')
    (matched : matchLiteral (c :: tail) = some (value, rest)) :
    scanOnce (fuel + 1) (c :: tail) = .ok (value, rest) := by
  rw [scanOnce_constant_or_number _ _ quote brace bracket, matched]

/-! ## Reading back a value -/

/-- What `json.dumps` writes opens with a character that is not whitespace, closes
no array or object, and is no byte-order mark. -/
theorem encode_head (value : PyValue) : ∃ c tail, encode value = c :: tail ∧
    isWhitespace c = false ∧ c ≠ ']' ∧ c ≠ '\x7d' ∧ c ≠ '\uFEFF' := by
  cases value with
  | int n =>
    obtain ⟨d, small, more, leading, -⟩ := toDigits_spec n.natAbs
    obtain ⟨-, -, whitespace, -, -, -, close, brace, bom⟩ := digitChar_facts d small
    unfold encode intRepr
    split
    · exact ⟨_, _, rfl, by decide, by decide, by decide, by decide⟩
    · exact ⟨_, _, leading, whitespace, close, brace, bom⟩
  | bool b => cases b <;> exact ⟨_, _, rfl, by decide, by decide, by decide, by decide⟩
  | _ => exact ⟨_, _, rfl, by decide, by decide, by decide, by decide⟩

theorem skipWhitespace_encode (value : PyValue) (rest : List Char) :
    skipWhitespace (encode value ++ rest) = encode value ++ rest := by
  obtain ⟨c, tail, opens, whitespace, -⟩ := encode_head value
  rw [opens, List.cons_append, skipWhitespace, if_neg (ne_true_of_eq_false whitespace)]

theorem scanOnce_items (fuel : Nat) (item : PyValue) (tail : List Char) :
    scanOnce (fuel + 1) ('[' :: (encode item ++ tail)) = parseArrayItems fuel (encode item ++ tail) [] := by
  obtain ⟨c, more, opens, -, close, -⟩ := encode_head item
  rw [← Nat.succ_eq_add_one, scanOnce.eq_5, skipWhitespace_encode, opens, List.cons_append]
  split
  · next same => exact absurd (List.cons.inj same).1 close
  · rfl

theorem scanOnce_members (fuel : Nat) (tail : List Char) :
    scanOnce (fuel + 1) ('\x7b' :: '"' :: tail) = parseObjectMembers fuel ('"' :: tail) [] :=
  rfl

theorem delimited_encodeLaterItems (more : List PyValue) (rest : List Char) :
    Delimited (encodeLaterItems more ++ ']' :: rest) := by
  cases more <;> rintro c after ⟨⟩ <;> decide

theorem delimited_encodeLaterMembers (more : List (String × PyValue)) (rest : List Char) :
    Delimited (encodeLaterMembers more ++ '\x7d' :: rest) := by
  cases more <;> rintro c after ⟨⟩ <;> decide

mutual

/-- `scan_once_unicode` reads back every value `json.dumps` wrote, followed by what
`json.dumps` writes after a value, with a step of fuel per character. -/
theorem scanOnce_encode : ∀ (value : PyValue) (fuel : Nat) (rest : List Char),
    (encode value).length < fuel → Delimited rest →
      scanOnce fuel (encode value ++ rest) = .ok (value.toJsonValue, rest)
  | _, 0, _, short, _ => absurd short (Nat.not_lt_zero _)
  | .none, fuel + 1, rest, _, _ =>
      scanOnce_of_matchLiteral fuel (by decide) (by decide) (by decide) (matchLiteral_constants rest).1
  | .bool true, fuel + 1, rest, _, _ =>
      scanOnce_of_matchLiteral fuel (by decide) (by decide) (by decide) (matchLiteral_constants rest).2.1
  | .bool false, fuel + 1, rest, _, _ =>
      scanOnce_of_matchLiteral fuel (by decide) (by decide) (by decide) (matchLiteral_constants rest).2.2
  | .int value, fuel + 1, _, _, delimited => scanOnce_intRepr fuel value delimited
  | .str value, fuel + 1, rest, _, _ => scanOnce_asciiEscapeUnicode fuel value rest
  | .list [], _ + 1, _, _, _ => rfl
  | .list (item :: more), fuel + 1, rest, short, _ => by
      have items := parseArrayItems_encodeItems (item :: more) fuel rest [] (List.cons_ne_nil _ _)
        (by simp only [encode, List.length_cons, List.length_append] at short; omega)
      simp only [encode, encodeItems, List.cons_append, List.append_assoc, List.nil_append] at items ⊢
      rw [scanOnce_items, items]
      rfl
  | .dict [], _ + 1, _, _, _ => rfl
  | .dict ((key, value) :: more), fuel + 1, rest, short, _ => by
      have members := parseObjectMembers_encodeMembers ((key, value) :: more) fuel rest []
        (List.cons_ne_nil _ _) (by simp only [encode, List.length_cons, List.length_append] at short; omega)
      simp only [encode, encodeMembers, List.cons_append, List.append_assoc, List.nil_append,
        asciiEscapeUnicode_append] at members ⊢
      rw [scanOnce_members, members]
      rfl

/-- The loop of `_parse_array_unicode` reads back the items `json.dumps` wrote. -/
theorem parseArrayItems_encodeItems : ∀ (items : List PyValue) (fuel : Nat) (rest : List Char)
    (acc : List JsonValue), items ≠ [] → (encodeItems items).length + 1 < fuel →
      parseArrayItems fuel (encodeItems items ++ ']' :: rest) acc =
        .ok (.array (acc ++ toJsonItems items), rest)
  | [], _, _, _, nonempty, _ => absurd rfl nonempty
  | _ :: _, 0, _, _, _, short => absurd short (Nat.not_lt_zero _)
  | item :: more, fuel + 1, rest, acc, _, short => by
      have scanned := scanOnce_encode item fuel (encodeLaterItems more ++ ']' :: rest)
        (by simp only [encodeItems, List.length_append] at short; omega)
        (delimited_encodeLaterItems more rest)
      rw [encodeItems, List.append_assoc, ← Nat.succ_eq_add_one, parseArrayItems.eq_2, scanned]
      cases more with
      | nil => rfl
      | cons next more =>
        have later := parseArrayItems_encodeItems (next :: more) fuel rest (acc ++ [item.toJsonValue])
          (List.cons_ne_nil _ _)
          (by simp only [encodeItems, encodeLaterItems, List.length_append, List.length_cons] at short ⊢
              omega)
        rw [encodeItems, List.append_assoc] at later
        simp only [encodeLaterItems, List.cons_append, List.append_assoc]
        rw [skipWhitespace, if_neg (by decide)]
        show parseArrayItems fuel (skipWhitespace (' ' :: _)) _ = _
        rw [skipWhitespace, if_pos (by decide), skipWhitespace_encode, later, List.append_assoc]
        rfl

/-- The loop of `_parse_object_unicode` reads back the members `json.dumps` wrote. -/
theorem parseObjectMembers_encodeMembers : ∀ (members : List (String × PyValue)) (fuel : Nat)
    (rest : List Char) (acc : List (String × JsonValue)), members ≠ [] →
      (encodeMembers members).length + 1 < fuel →
      parseObjectMembers fuel (encodeMembers members ++ '\x7d' :: rest) acc =
        .ok (.object (acc ++ toJsonMembers members), rest)
  | [], _, _, _, nonempty, _ => absurd rfl nonempty
  | _ :: _, 0, _, _, _, short => absurd short (Nat.not_lt_zero _)
  | (key, value) :: more, fuel + 1, rest, acc, _, short => by
      have scanned := scanOnce_encode value fuel (encodeLaterMembers more ++ '\x7d' :: rest)
        (by simp only [encodeMembers, List.length_append, List.length_cons] at short; omega)
        (delimited_encodeLaterMembers more rest)
      simp only [encodeMembers, List.cons_append, List.append_assoc, asciiEscapeUnicode_append]
      rw [← Nat.succ_eq_add_one, parseObjectMembers.eq_2, scanString_escapedString]
      dsimp only
      rw [skipWhitespace, if_neg (by decide)]
      simp only []
      rw [skipWhitespace, if_pos (by decide), skipWhitespace_encode, scanned]
      cases more with
      | nil => rfl
      | cons next more =>
        obtain ⟨nextKey, nextValue⟩ := next
        have later := parseObjectMembers_encodeMembers ((nextKey, nextValue) :: more) fuel rest
          (acc ++ [(key, value.toJsonValue)]) (List.cons_ne_nil _ _)
          (by simp only [encodeMembers, encodeLaterMembers, List.length_append, List.length_cons] at short ⊢
              omega)
        simp only [encodeMembers, List.cons_append, List.append_assoc, asciiEscapeUnicode_append] at later
        simp only [encodeLaterMembers, List.cons_append, List.append_assoc, asciiEscapeUnicode_append]
        rw [skipWhitespace, if_neg (by decide)]
        show parseObjectMembers fuel (skipWhitespace (' ' :: _)) _ = _
        rw [skipWhitespace, if_pos (by decide), skipWhitespace, if_neg (by decide), later]
        simp [toJsonMembers]

end

/-- `json.loads` returns the value its scan of the whole document found when the
document does not start with a byte-order mark and only whitespace follows the
value. -/
theorem loads_eq_ok_of_scanOnce {s : String} {value : JsonValue} {after : List Char}
    (noBom : s.toList.head? ≠ some '\uFEFF')
    (scanned : scanOnce (2 * s.toList.length + 1) (skipWhitespace s.toList) = .ok (value, after))
    (trailing : skipWhitespace after = []) : loads s = .ok value := by
  unfold loads
  split
  · next bom =>
    rw [bom] at noBom
    exact absurd rfl noBom
  · rw [scanned]
    dsimp only
    rw [trailing]

theorem dumps_ne_empty (value : PyValue) : dumps value ≠ "" := fun empty => by
  obtain ⟨c, tail, opens, -⟩ := encode_head value
  have same := congrArg String.toList empty
  rw [show (dumps value).toList = encode value from rfl, opens] at same
  cases same

/-- `json.loads` reads back what `json.dumps` wrote, for every value. -/
theorem loads_dumps (value : PyValue) : loads (dumps value) = .ok value.toJsonValue := by
  obtain ⟨c, tail, opens, -, -, -, bom⟩ := encode_head value
  have scanned := scanOnce_encode value (2 * (encode value).length + 1) [] (by omega)
    fun _ _ same => nomatch same
  have skipped := skipWhitespace_encode value []
  rw [List.append_nil] at scanned skipped
  refine loads_eq_ok_of_scanOnce ?_ ?_ (rfl : skipWhitespace [] = [])
  · show (encode value).head? ≠ some '\uFEFF'
    rw [opens]
    exact fun same => bom (Option.some.inj same)
  · show scanOnce (2 * (encode value).length + 1) (skipWhitespace (encode value)) = _
    rw [skipped, scanned]

/-- A string `json.dumps` writes between quotes as it is. -/
structure PlainString where
  value : String
  plain : ∀ c ∈ value.toList, isPlainChar c = true

/-- `json.dumps(s)` of a plain string. -/
def dumpsStr (s : PlainString) : List Char :=
  '"' :: s.value.toList ++ ['"']

/-- One later item of a list as `json.dumps` writes it: the default item
separator `", "`, then the item. -/
def dumpsLaterStr (s : PlainString) : List Char :=
  ',' :: ' ' :: dumpsStr s

/-- `json.dumps(ids)` of a list of plain strings, as `_iterencode_list` writes it:
`[`, the first item, each later item after its separator, then `]`. -/
def dumpsStrList : List PlainString → String
  | [] => "[]"
  | id :: more => ⟨'[' :: dumpsStr id ++ more.flatMap dumpsLaterStr ++ [']']⟩


theorem flatMap_asciiEscapeChar_of_plain :
    ∀ cs : List Char, (∀ c ∈ cs, isPlainChar c = true) → cs.flatMap asciiEscapeChar = cs
  | [], _ => rfl
  | c :: cs, plain => by
      rw [List.flatMap_cons, asciiEscapeChar, if_pos (plain c (.head _)),
        flatMap_asciiEscapeChar_of_plain cs fun c member => plain c (.tail _ member)]
      rfl

theorem asciiEscapeUnicode_plain (s : PlainString) : asciiEscapeUnicode s.value = dumpsStr s := by
  rw [asciiEscapeUnicode, flatMap_asciiEscapeChar_of_plain _ s.plain]
  rfl

theorem encodeLaterItems_plain :
    ∀ more : List PlainString,
      encodeLaterItems (more.map fun id => .str id.value) = more.flatMap dumpsLaterStr
  | [] => rfl
  | id :: more => by
      rw [List.map_cons, encodeLaterItems, encode, asciiEscapeUnicode_plain, encodeLaterItems_plain more,
        List.flatMap_cons]
      rfl

/-- `dumpsStrList` writes what the encoder writes for a list of plain ids. -/
theorem dumps_strList (ids : List PlainString) :
    dumps (.list (ids.map fun id => .str id.value)) = dumpsStrList ids := by
  cases ids with
  | nil => rfl
  | cons id more =>
    rw [List.map_cons, dumps, encode, encodeItems, encode, asciiEscapeUnicode_plain,
      encodeLaterItems_plain]
    simp [dumpsStrList]

end InsightsRbac.Python
