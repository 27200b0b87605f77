import Mathlib.Data.List.Basic

/-!
Contract: `json.loads` on a `str`, as CPython's C scanner (`_json.c`, `strict=True`)
runs it. `split_resourcedef_literal` calls it on every resource-definition literal,
and whether it raises `JSONDecodeError` decides between the JSON path and the
comma-separated fallback.

Owns: the decoded value, every error path of the scanner (its message and position),
the leading-BOM check and the "Extra data" check of `JSONDecoder.decode`.

Does not own: Python's recursion limit on nesting, the digit limit of `int()`, the
value of a float (a float is kept as its literal text), lone surrogates (a `\u`
escape of a lone surrogate decodes to U+FFFD, since a Lean `Char` cannot hold one),
or the trailing-comma messages Python 3.13 added (a trailing comma fails here with
"Expecting value", as before).

The scanner reads a `List Char` and returns what is left of it. Nesting recurses on
an explicit fuel; `loads` gives `2 * length + 1`, and `loads_fuel_suffices` shows
that no run at that fuel stops for want of it.
-/

namespace InsightsRbac.Python

/-- A value `json.loads` returns. An object keeps its members as written. -/
inductive JsonValue where
  | null
  | bool (value : Bool)
  | int (value : Int)
  | float (literal : String)
  | str (value : String)
  | array (items : List JsonValue)
  | object (members : List (String × JsonValue))
deriving Repr, Inhabited

/-- `json.JSONDecodeError(msg, doc, pos)`, without the document. -/
structure JSONDecodeError where
  msg : String
  pos : Nat
deriving DecidableEq, Repr

/-- Why the scanner stopped. Positions are the length of the input left at the
failing character; `loads` turns them into offsets. -/
inductive ScanError where
  /-- `raise_stop_iteration(idx)`: no value starts here ("Expecting value"). -/
  | stopIteration (remaining : Nat)
  | decodeError (msg : String) (remaining : Nat)
  | outOfFuel
deriving DecidableEq, Repr

/-- The `JSONDecodeError` that `raw_decode` raises for a scanner error in a
document of `total` characters. -/
def ScanError.toDecodeError (total : Nat) : ScanError → JSONDecodeError
  | .stopIteration remaining => ⟨"Expecting value", total - remaining⟩
  | .decodeError msg remaining => ⟨msg, total - remaining⟩
  | .outOfFuel => ⟨"Expecting value", total⟩

/-! ## Leaves -/

/-- `IS_WHITESPACE`: the four JSON whitespace characters. -/
def isWhitespace (c : Char) : Bool :=
  c = ' ' || c = '\t' || c = '\n' || c = '\r'

def skipWhitespace : List Char → List Char
  | [] => []
  | c :: rest => if isWhitespace c then skipWhitespace rest else c :: rest

theorem skipWhitespace_length_le (cs : List Char) :
    (skipWhitespace cs).length ≤ cs.length := by
  induction cs with
  | nil => exact le_refl _
  | cons c rest inductionHypothesis =>
      unfold skipWhitespace
      split
      · exact Nat.le_succ_of_le inductionHypothesis
      · exact le_refl _

theorem skipWhitespace_cons_length_lt {cs after : List Char} {c : Char}
    (skipped : skipWhitespace cs = c :: after) : after.length < cs.length := by
  have := skipWhitespace_length_le cs
  rw [skipped, List.length_cons] at this
  omega

/-- The one-character escapes of `scanstring_unicode`. -/
def escapedChar : Char → Option Char
  | '"' => some '"'
  | '\\' => some '\\'
  | '/' => some '/'
  | 'b' => some '\x08'
  | 'f' => some '\x0c'
  | 'n' => some '\n'
  | 'r' => some '\r'
  | 't' => some '\t'
  | _ => none

def hexDigit (c : Char) : Option Nat :=
  if '0' ≤ c ∧ c ≤ '9' then some (c.toNat - '0'.toNat)
  else if 'a' ≤ c ∧ c ≤ 'f' then some (c.toNat - 'a'.toNat + 10)
  else if 'A' ≤ c ∧ c ≤ 'F' then some (c.toNat - 'A'.toNat + 10)
  else none

/-- The value of four hex digits of a `\uXXXX` escape. -/
def hexQuad (a b c d : Char) : Option Nat := do
  let a ← hexDigit a
  let b ← hexDigit b
  let c ← hexDigit c
  let d ← hexDigit d
  pure (((a * 16 + b) * 16 + c) * 16 + d)

def isHighSurrogate (code : Nat) : Bool := 0xd800 ≤ code && code ≤ 0xdbff

def isLowSurrogate (code : Nat) : Bool := 0xdc00 ≤ code && code ≤ 0xdfff

/-- `Py_UNICODE_JOIN_SURROGATES`. -/
def joinSurrogates (high low : Nat) : Nat :=
  0x10000 + (high - 0xd800) * 0x400 + (low - 0xdc00)

/-- The character of a decoded code point; a lone surrogate becomes U+FFFD. -/
def codePointChar (code : Nat) : Char :=
  if h : code.isValidChar then Char.ofNatAux code h else '\uFFFD'

/-- `scanstring_unicode(pystr, end, strict=1)`: the characters after an opening
quote up to the closing one, decoded in reverse into `decoded`. `quote` is the
length of the input from the opening quote on, where "Unterminated string" points. -/
def scanString (quote : Nat) : List Char → List Char → Except ScanError (String × List Char)
  | _, [] => .error (.decodeError "Unterminated string starting at" quote)
  | decoded, '"' :: rest => .ok (String.mk decoded.reverse, rest)
  | _, ['\\'] => .error (.decodeError "Unterminated string starting at" quote)
  | decoded, '\\' :: 'u' :: a :: b :: c :: d :: rest =>
      match rest, hexQuad a b c d with
      | [], _ => .error (.decodeError "Invalid \\uXXXX escape" 5)
      | _, none => .error (.decodeError "Invalid \\uXXXX escape" (rest.length + 5))
      | '\\' :: 'u' :: e :: f :: g :: h :: after, some high =>
          if isHighSurrogate high && 0 < after.length then
            match hexQuad e f g h with
            | none => .error (.decodeError "Invalid \\uXXXX escape" (after.length + 5))
            | some low =>
                if isLowSurrogate low then
                  scanString quote (codePointChar (joinSurrogates high low) :: decoded) after
                else
                  scanString quote (codePointChar high :: decoded)
                    ('\\' :: 'u' :: e :: f :: g :: h :: after)
          else
            scanString quote (codePointChar high :: decoded)
              ('\\' :: 'u' :: e :: f :: g :: h :: after)
      | rest, some code => scanString quote (codePointChar code :: decoded) rest
  | _, '\\' :: 'u' :: short => .error (.decodeError "Invalid \\uXXXX escape" (short.length + 1))
  | decoded, '\\' :: c :: rest =>
      match escapedChar c with
      | some e => scanString quote (e :: decoded) rest
      | none => .error (.decodeError "Invalid \\escape" (rest.length + 2))
  | decoded, c :: rest =>
      if c.toNat ≤ 0x1f then .error (.decodeError "Invalid control character at" (rest.length + 1))
      else scanString quote (c :: decoded) rest

/-- A string scan that ends consumes at least its closing quote. -/
theorem scanString_length_lt (quote : Nat) (decoded cs : List Char) :
    ∀ {s : String} {after : List Char}, scanString quote decoded cs = .ok (s, after) →
      after.length < cs.length := by
  induction decoded, cs using scanString.induct quote <;> intro s after scanned <;>
    unfold scanString at scanned <;> simp [*] at scanned
  all_goals first
    | (obtain ⟨-, rfl⟩ := scanned; simp)
    | (rename_i inductionHypothesis
       have shorter := inductionHypothesis scanned
       simp only [List.length_cons] at shorter ⊢
       omega)

/-- A string scan fails only with a decode error. -/
theorem scanString_ne_outOfFuel (quote : Nat) (decoded cs : List Char) :
    scanString quote decoded cs ≠ .error .outOfFuel := by
  induction decoded, cs using scanString.induct quote <;> unfold scanString <;> simp [*]

/-- The value of a run of decimal digits. -/
def digitsValue (digits : List Char) : Nat :=
  digits.foldl (fun value c => value * 10 + (c.toNat - '0'.toNat)) 0

/-- `[.][0-9]+` after the integer part, or nothing. -/
def fractionPart : List Char → List Char × List Char
  | '.' :: d :: rest =>
      if d.isDigit then
        let (more, after) := rest.span Char.isDigit
        ('.' :: d :: more, after)
      else ([], '.' :: d :: rest)
  | cs => ([], cs)

/-- An optional `+` or `-`. -/
def signPart : List Char → List Char × List Char
  | '+' :: after => (['+'], after)
  | '-' :: after => (['-'], after)
  | cs => ([], cs)

/-- `[eE][-+]?[0-9]+` after the fraction, or nothing (the scanner backtracks to
the `e` when no digit follows). -/
def exponentPart : List Char → List Char × List Char
  | e :: rest =>
      if e = 'e' ∨ e = 'E' then
        let signed := signPart rest
        match signed.2.span Char.isDigit with
        | ([], _) => ([], e :: rest)
        | (digits, after) => (e :: signed.1 ++ digits, after)
      else ([], e :: rest)
  | [] => ([], [])

/-- `-?(0|[1-9][0-9]*)`, or nothing when no integer digit starts here. -/
def integerPart : List Char → Option (List Char × List Char)
  | '0' :: rest => some (['0'], rest)
  | c :: rest =>
      if '1' ≤ c ∧ c ≤ '9' then
        let (more, after) := rest.span Char.isDigit
        some (c :: more, after)
      else none
  | [] => none

/-- An optional leading `-`. -/
def minusPart : List Char → Bool × List Char
  | '-' :: rest => (true, rest)
  | cs => (false, cs)

/-- `_match_number_unicode`: an `int` when the number has neither fraction nor
exponent, a `float` otherwise. -/
def matchNumber (cs : List Char) : Option (JsonValue × List Char) :=
  let (negative, afterSign) := minusPart cs
  (integerPart afterSign).map fun (digits, afterInteger) =>
    let (fraction, afterFraction) := fractionPart afterInteger
    let (exponent, afterExponent) := exponentPart afterFraction
    if fraction.isEmpty && exponent.isEmpty then
      let magnitude : Int := digitsValue digits
      (.int (if negative then -magnitude else magnitude), afterExponent)
    else
      let sign := if negative then ['-'] else []
      (.float (String.mk (sign ++ digits ++ fraction ++ exponent)), afterExponent)

theorem signPart_length_le (cs : List Char) : (signPart cs).2.length ≤ cs.length := by
  unfold signPart
  split <;> simp

theorem minusPart_length_le (cs : List Char) : (minusPart cs).2.length ≤ cs.length := by
  unfold minusPart
  split <;> simp

theorem fractionPart_length_le (cs : List Char) : (fractionPart cs).2.length ≤ cs.length := by
  unfold fractionPart
  split
  · split
    · simp only [List.span_eq_take_drop, List.length_cons]
      have := (List.dropWhile_suffix Char.isDigit : List.dropWhile _ ‹List Char› <:+ _).length_le
      omega
    · exact le_refl _
  · exact le_refl _

theorem exponentPart_length_le (cs : List Char) : (exponentPart cs).2.length ≤ cs.length := by
  unfold exponentPart
  split
  · next e rest =>
    split
    · have signed := signPart_length_le rest
      dsimp only
      split
      · exact le_refl _
      · next spanned =>
        simp only [List.span_eq_take_drop, Prod.mk.injEq] at spanned
        rw [← spanned.2, List.length_cons]
        have := (List.dropWhile_suffix Char.isDigit : List.dropWhile _ (signPart rest).2 <:+ _).length_le
        dsimp only
        omega
    · exact le_refl _
  · exact le_refl _

theorem integerPart_length_lt {cs digits after : List Char} (parsed : integerPart cs = some (digits, after)) :
    after.length < cs.length := by
  unfold integerPart at parsed
  split at parsed
  · cases parsed
    simp
  · split at parsed
    · simp only [List.span_eq_take_drop, Option.some.injEq, Prod.mk.injEq] at parsed
      obtain ⟨-, rfl⟩ := parsed
      have := (List.dropWhile_suffix Char.isDigit : List.dropWhile _ ‹List Char› <:+ _).length_le
      simp only [List.length_cons]
      omega
    · cases parsed
  · cases parsed

/-- A number that matches consumes its first digit at least. -/
theorem matchNumber_length_lt {cs : List Char} {value : JsonValue} {after : List Char}
    (matched : matchNumber cs = some (value, after)) : after.length < cs.length := by
  unfold matchNumber at matched
  simp only [Option.map_eq_some'] at matched
  obtain ⟨⟨digits, afterInteger⟩, parsed, built⟩ := matched
  have integer := integerPart_length_lt parsed
  have fraction := fractionPart_length_le afterInteger
  have exponent := exponentPart_length_le (fractionPart afterInteger).2
  have sign := minusPart_length_le cs
  dsimp only at built
  split at built <;> (cases built; omega)

/-- The constants `scan_once_unicode` recognises by their first characters, in
the order of its `switch`. -/
def literals : List (List Char × JsonValue) :=
  [("null".toList, .null), ("true".toList, .bool true), ("false".toList, .bool false),
    ("NaN".toList, .float "NaN"), ("Infinity".toList, .float "Infinity"),
    ("-Infinity".toList, .float "-Infinity")]

/-- The first constant the input starts with, and what follows it. -/
def matchLiteral (cs : List Char) : Option (JsonValue × List Char) :=
  literals.findSome? fun literal =>
    if literal.1.isPrefixOf cs then some (literal.2, cs.drop literal.1.length) else none

theorem matchLiteral_length_lt {cs : List Char} {value : JsonValue} {after : List Char}
    (matched : matchLiteral cs = some (value, after)) : after.length < cs.length := by
  obtain ⟨literal, member, found⟩ := List.exists_of_findSome?_eq_some matched
  split at found
  · next isPrefix =>
    cases found
    have nonempty : 0 < literal.1.length := by
      simp only [literals, List.mem_cons, List.mem_singleton, List.not_mem_nil, or_false] at member
      rcases member with rfl | rfl | rfl | rfl | rfl | rfl <;> decide
    have within := (List.isPrefixOf_iff_prefix.1 isPrefix).length_le
    simp only [List.length_drop]
    omega
  · cases found

/-! ## Values, arrays and objects -/

mutual

/-- `scan_once_unicode`: one JSON value at the start of the input. -/
def scanOnce : Nat → List Char → Except ScanError (JsonValue × List Char)
  | 0, _ => .error .outOfFuel
  | fuel + 1, cs =>
      match cs with
      | [] => .error (.stopIteration 0)
      | '"' :: rest =>
          (scanString (rest.length + 1) [] rest).map fun (value, after) => (.str value, after)
      | '\x7b' :: rest =>
          match skipWhitespace rest with
          | '\x7d' :: after => .ok (.object [], after)
          | members => parseObjectMembers fuel members []
      | '[' :: rest =>
          match skipWhitespace rest with
          | ']' :: after => .ok (.array [], after)
          | items => parseArrayItems fuel items []
      | cs =>
          match matchLiteral cs with
          | some result => .ok result
          | none =>
              match matchNumber cs with
              | some result => .ok result
              | none => .error (.stopIteration cs.length)

/-- The loop of `_parse_array_unicode` after the first item's position. -/
def parseArrayItems : Nat → List Char → List JsonValue → Except ScanError (JsonValue × List Char)
  | 0, _, _ => .error .outOfFuel
  | fuel + 1, cs, items =>
      match scanOnce fuel cs with
      | .error e => .error e
      | .ok (item, afterItem) =>
          match skipWhitespace afterItem with
          | ']' :: after => .ok (.array (items ++ [item]), after)
          | ',' :: after => parseArrayItems fuel (skipWhitespace after) (items ++ [item])
          | other => .error (.decodeError "Expecting ',' delimiter" other.length)

/-- The loop of `_parse_object_unicode` after the first member's position. -/
def parseObjectMembers : Nat → List Char → List (String × JsonValue) →
    Except ScanError (JsonValue × List Char)
  | 0, _, _ => .error .outOfFuel
  | fuel + 1, cs, members =>
      match cs with
      | '"' :: rest =>
          match scanString (rest.length + 1) [] rest with
          | .error e => .error e
          | .ok (key, afterKey) =>
              match skipWhitespace afterKey with
              | ':' :: afterColon =>
                  match scanOnce fuel (skipWhitespace afterColon) with
                  | .error e => .error e
                  | .ok (value, afterValue) =>
                      match skipWhitespace afterValue with
                      | '\x7d' :: after => .ok (.object (members ++ [(key, value)]), after)
                      | ',' :: after =>
                          parseObjectMembers fuel (skipWhitespace after) (members ++ [(key, value)])
                      | other => .error (.decodeError "Expecting ',' delimiter" other.length)
              | other => .error (.decodeError "Expecting ':' delimiter" other.length)
      | other => .error (.decodeError "Expecting property name enclosed in double quotes" other.length)

end

/-- `json.loads(s)` for a `str`: the BOM check, `raw_decode` after leading
whitespace, then "Extra data" unless only whitespace follows the value. -/
def loads (s : String) : Except JSONDecodeError JsonValue :=
  match s.toList with
  | '\uFEFF' :: _ => .error ⟨"Unexpected UTF-8 BOM (decode using utf-8-sig)", 0⟩
  | doc =>
      match scanOnce (2 * doc.length + 1) (skipWhitespace doc) with
      | .error e => .error (e.toDecodeError doc.length)
      | .ok (value, after) =>
          match skipWhitespace after with
          | [] => .ok value
          | extra => .error ⟨"Extra data", doc.length - extra.length⟩

/-! ## Fuel

Every successful scan consumes input, so a nested value at depth `d` leaves at
least `d` characters behind it; `2 * length + 1` steps are enough for any input.
Each scanner's lemma at `fuel + 1` rests on what the scanners it calls do at
`fuel`; an induction on the fuel assembles the three. -/

section Progress

variable {fuel : Nat}

/-- A value scan consumes input when the array and object scans one step below do. -/
theorem scanOnce_succ_length_lt
    (arrays : ∀ cs items value after, parseArrayItems fuel cs items = .ok (value, after) →
      after.length < cs.length)
    (objects : ∀ cs members value after, parseObjectMembers fuel cs members = .ok (value, after) →
      after.length < cs.length)
    {cs : List Char} {value : JsonValue} {after : List Char}
    (ok : scanOnce (fuel + 1) cs = .ok (value, after)) : after.length < cs.length := by
  rw [scanOnce.eq_def] at ok
  dsimp only at ok
  split at ok
  · cases ok
  · next rest =>
    cases string : scanString (rest.length + 1) [] rest with
    | error e => rw [string] at ok; cases ok
    | ok result =>
      rw [string] at ok
      cases ok
      exact Nat.lt_succ_of_lt (scanString_length_lt _ _ _ string)
  · next rest =>
    split at ok
    · next skipped =>
      cases ok
      exact Nat.lt_succ_of_lt (skipWhitespace_cons_length_lt skipped)
    · exact Nat.lt_succ_of_lt ((objects _ _ _ _ ok).trans_le (skipWhitespace_length_le rest))
  · next rest =>
    split at ok
    · next skipped =>
      cases ok
      exact Nat.lt_succ_of_lt (skipWhitespace_cons_length_lt skipped)
    · exact Nat.lt_succ_of_lt ((arrays _ _ _ _ ok).trans_le (skipWhitespace_length_le rest))
  · split at ok
    · next literal => cases ok; exact matchLiteral_length_lt literal
    · split at ok
      · next number => cases ok; exact matchNumber_length_lt number
      · cases ok

/-- The rest of an array is consumed when its items and the rest after them are. -/
theorem parseArrayItems_succ_length_lt
    (scanned : ∀ cs value after, scanOnce fuel cs = .ok (value, after) → after.length < cs.length)
    (arrays : ∀ cs items value after, parseArrayItems fuel cs items = .ok (value, after) →
      after.length < cs.length)
    {cs : List Char} {items : List JsonValue} {value : JsonValue} {after : List Char}
    (ok : parseArrayItems (fuel + 1) cs items = .ok (value, after)) : after.length < cs.length := by
  rw [parseArrayItems.eq_def] at ok
  dsimp only at ok
  split at ok
  · cases ok
  · next item afterItem scannedItem =>
    have first := scanned _ _ _ scannedItem
    split at ok
    · next closed =>
      cases ok
      have := skipWhitespace_cons_length_lt closed
      omega
    · next rest comma =>
      have := skipWhitespace_cons_length_lt comma
      have := skipWhitespace_length_le rest
      have := arrays _ _ _ _ ok
      omega
    · cases ok

/-- The rest of an object is consumed when its values and the rest after them are. -/
theorem parseObjectMembers_succ_length_lt
    (scanned : ∀ cs value after, scanOnce fuel cs = .ok (value, after) → after.length < cs.length)
    (objects : ∀ cs members value after, parseObjectMembers fuel cs members = .ok (value, after) →
      after.length < cs.length)
    {cs : List Char} {members : List (String × JsonValue)} {value : JsonValue} {after : List Char}
    (ok : parseObjectMembers (fuel + 1) cs members = .ok (value, after)) :
    after.length < cs.length := by
  rw [parseObjectMembers.eq_def] at ok
  dsimp only at ok
  split at ok
  · next rest =>
    split at ok
    · cases ok
    · next key afterKey scannedKey =>
      have keyShorter := scanString_length_lt _ _ _ scannedKey
      split at ok
      · next afterColon colon =>
        have := skipWhitespace_cons_length_lt colon
        have := skipWhitespace_length_le afterColon
        split at ok
        · cases ok
        · next member afterValue scannedValue =>
          have := scanned _ _ _ scannedValue
          split at ok
          · next closed =>
            cases ok
            have := skipWhitespace_cons_length_lt closed
            simp only [List.length_cons]
            omega
          · next rest' comma =>
            have := skipWhitespace_cons_length_lt comma
            have := skipWhitespace_length_le rest'
            have := objects _ _ _ _ ok
            simp only [List.length_cons]
            omega
          · cases ok
      · cases ok
  · cases ok

end Progress

/-- A successful scan of a value, of the rest of an array, or of the rest of an
object consumes input. -/
theorem scan_length_lt (fuel : Nat) :
    (∀ cs value after, scanOnce fuel cs = .ok (value, after) → after.length < cs.length) ∧
    (∀ cs items value after, parseArrayItems fuel cs items = .ok (value, after) →
      after.length < cs.length) ∧
    (∀ cs members value after, parseObjectMembers fuel cs members = .ok (value, after) →
      after.length < cs.length) := by
  induction fuel with
  | zero => exact ⟨fun _ _ _ ok => (nomatch ok), fun _ _ _ _ ok => (nomatch ok),
      fun _ _ _ _ ok => (nomatch ok)⟩
  | succ fuel inductionHypothesis =>
    obtain ⟨scanned, arrays, objects⟩ := inductionHypothesis
    exact ⟨fun _ _ _ => scanOnce_succ_length_lt arrays objects,
      fun _ _ _ _ => parseArrayItems_succ_length_lt scanned arrays,
      fun _ _ _ _ => parseObjectMembers_succ_length_lt scanned objects⟩

section Sufficiency

variable {fuel : Nat}

/-- A value scan does not run out when the array and object scans one step below
have two steps per character. -/
theorem scanOnce_succ_ne_outOfFuel
    (arrays : ∀ cs items, 2 * cs.length + 2 ≤ fuel → parseArrayItems fuel cs items ≠ .error .outOfFuel)
    (objects : ∀ cs members, 2 * cs.length + 2 ≤ fuel →
      parseObjectMembers fuel cs members ≠ .error .outOfFuel)
    {cs : List Char} (enough : 2 * cs.length + 1 ≤ fuel + 1) :
    scanOnce (fuel + 1) cs ≠ .error .outOfFuel := by
  rw [scanOnce.eq_def]
  dsimp only
  split
  · simp
  · next rest =>
    have := scanString_ne_outOfFuel (rest.length + 1) [] rest
    revert this
    cases scanString (rest.length + 1) [] rest <;> simp [Except.map]
  · next rest =>
    have := skipWhitespace_length_le rest
    simp only [List.length_cons] at enough
    split
    · simp
    · exact objects _ _ (by omega)
  · next rest =>
    have := skipWhitespace_length_le rest
    simp only [List.length_cons] at enough
    split
    · simp
    · exact arrays _ _ (by omega)
  · split
    · simp
    · split <;> simp

/-- The rest of an array does not run out when the scans one step below have
two steps per character. -/
theorem parseArrayItems_succ_ne_outOfFuel
    (scanned : ∀ cs, 2 * cs.length + 1 ≤ fuel → scanOnce fuel cs ≠ .error .outOfFuel)
    (arrays : ∀ cs items, 2 * cs.length + 2 ≤ fuel → parseArrayItems fuel cs items ≠ .error .outOfFuel)
    {cs : List Char} {items : List JsonValue} (enough : 2 * cs.length + 2 ≤ fuel + 1) :
    parseArrayItems (fuel + 1) cs items ≠ .error .outOfFuel := by
  rw [parseArrayItems.eq_def]
  dsimp only
  split
  · next e failed =>
    intro same
    cases same
    exact scanned cs (by omega) failed
  · next item afterItem scannedItem =>
    have first := (scan_length_lt fuel).1 _ _ _ scannedItem
    split
    · simp
    · next rest comma =>
      have := skipWhitespace_cons_length_lt comma
      have := skipWhitespace_length_le rest
      exact arrays _ _ (by omega)
    · simp

/-- The rest of an object does not run out when the scans one step below have
two steps per character. -/
theorem parseObjectMembers_succ_ne_outOfFuel
    (scanned : ∀ cs, 2 * cs.length + 1 ≤ fuel → scanOnce fuel cs ≠ .error .outOfFuel)
    (objects : ∀ cs members, 2 * cs.length + 2 ≤ fuel →
      parseObjectMembers fuel cs members ≠ .error .outOfFuel)
    {cs : List Char} {members : List (String × JsonValue)} (enough : 2 * cs.length + 2 ≤ fuel + 1) :
    parseObjectMembers (fuel + 1) cs members ≠ .error .outOfFuel := by
  rw [parseObjectMembers.eq_def]
  dsimp only
  split
  · next rest =>
    simp only [List.length_cons] at enough
    split
    · next e failed =>
      intro same
      cases same
      exact scanString_ne_outOfFuel _ _ _ failed
    · next key afterKey scannedKey =>
      have keyShorter := scanString_length_lt _ _ _ scannedKey
      split
      · next afterColon colon =>
        have := skipWhitespace_cons_length_lt colon
        have := skipWhitespace_length_le afterColon
        split
        · next e failed =>
          intro same
          cases same
          exact scanned _ (by omega) failed
        · next member afterValue scannedValue =>
          have := (scan_length_lt fuel).1 _ _ _ scannedValue
          split
          · simp
          · next rest' comma =>
            have := skipWhitespace_cons_length_lt comma
            have := skipWhitespace_length_le rest'
            exact objects _ _ (by omega)
          · simp
      · simp
  · simp

end Sufficiency

/-- With two steps per character, no scan stops for want of fuel. -/
theorem scan_ne_outOfFuel (fuel : Nat) :
    (∀ cs, 2 * cs.length + 1 ≤ fuel → scanOnce fuel cs ≠ .error .outOfFuel) ∧
    (∀ cs items, 2 * cs.length + 2 ≤ fuel → parseArrayItems fuel cs items ≠ .error .outOfFuel) ∧
    (∀ cs members, 2 * cs.length + 2 ≤ fuel →
      parseObjectMembers fuel cs members ≠ .error .outOfFuel) := by
  induction fuel with
  | zero => exact ⟨fun _ low => by omega, fun _ _ low => by omega, fun _ _ low => by omega⟩
  | succ fuel inductionHypothesis =>
    obtain ⟨scanned, arrays, objects⟩ := inductionHypothesis
    exact ⟨fun _ => scanOnce_succ_ne_outOfFuel arrays objects,
      fun _ _ => parseArrayItems_succ_ne_outOfFuel scanned arrays,
      fun _ _ => parseObjectMembers_succ_ne_outOfFuel scanned objects⟩

/-- The fuel `loads` gives the scanner is always enough: its result is the one
of the unbounded scanner of `_json.c`. -/
theorem loads_fuel_suffices (s : String) :
    scanOnce (2 * s.toList.length + 1) (skipWhitespace s.toList) ≠ .error .outOfFuel :=
  (scan_ne_outOfFuel _).1 _ (by have := skipWhitespace_length_le s.toList; omega)

end InsightsRbac.Python
