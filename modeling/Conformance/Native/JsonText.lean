import Conformance.Native.Python

/-!
# JSON text

`json.dumps` in its compact form, with `separators=(",", ":")` and
`ensure_ascii=False`, and `json.loads`. How a float is written and read is a field of
`FloatText`. What is read is a `PyJson`: beside the values that are written it can hold a
lone surrogate, `NaN` and the infinities.
-/

namespace Conformance

/-- A float. -/
inductive PyFloat where
  | finite (q : Rat)
  | nan
  | infinity
  | negInfinity
  deriving DecidableEq, Repr

/-- `float.__repr__` of a finite float and the reading of a number with a fraction or an
    exponent. -/
structure FloatText where
  repr : Rat → List Char
  ofText : List Char → PyFloat

/-- The digits that an `int` may have where it is converted from or to text. -/
def maxIntDigits : Nat := 4300

/-! ## Writing -/

/-- The hexadecimal digit of a number below sixteen. -/
def lowerHexDigit (n : Nat) : Char := if n < 10 then Char.ofNat (48 + n) else Char.ofNat (87 + n)

/-- `ESCAPE_DCT`, for a character that `ESCAPE` matches, and the character itself
    otherwise. -/
def escapeChar (c : Char) : List Char :=
  if c = '"' then ['\\', '"']
  else if c = '\\' then ['\\', '\\']
  else if c = '\n' then ['\\', 'n']
  else if c = '\r' then ['\\', 'r']
  else if c = '\t' then ['\\', 't']
  else if c.toNat = 0x08 then ['\\', 'b']
  else if c.toNat = 0x0c then ['\\', 'f']
  else if c.toNat < 0x20 then
    ['\\', 'u', '0', '0', lowerHexDigit (c.toNat / 16), lowerHexDigit (c.toNat % 16)]
  else [c]

/-- A string with its quotes. -/
def dumpString (text : String) : List Char := '"' :: (text.toList.flatMap escapeChar ++ ['"'])

/-- `int.__repr__`. -/
def dumpInt (n : Int) : Except PyError (List Char) :=
  let digits := Nat.toDigits 10 n.natAbs
  if digits.length > maxIntDigits then .error (.valueError ("Exceeds the limit (4300 digits) " ++
    "for integer string conversion; use sys.set_int_max_str_digits() to increase the limit"))
  else .ok (if n < 0 then '-' :: digits else digits)

mutual

/-- Whether an `int` with too many digits stands in a value. -/
def hasLongInt : Json → Bool
  | .null | .bool _ | .float _ | .str _ => false
  | .int n => (Nat.toDigits 10 n.natAbs).length > maxIntDigits
  | .arr items => itemsHaveLongInt items
  | .obj fields => fieldsHaveLongInt fields

/-- Whether one stands in a list. -/
def itemsHaveLongInt : List Json → Bool
  | [] => false
  | item :: rest => hasLongInt item || itemsHaveLongInt rest

/-- Whether one stands in a dictionary. -/
def fieldsHaveLongInt : List (String × Json) → Bool
  | [] => false
  | (_, value) :: rest => hasLongInt value || fieldsHaveLongInt rest

end

/-- No item of an array without a long integer has one. -/
theorem hasLongInt_of_mem {items : List Json} {item : Json} (h : hasLongInt (.arr items) = false)
    (hitem : item ∈ items) : hasLongInt item = false := by
  rw [hasLongInt] at h
  induction items with
  | nil => cases hitem
  | cons head rest ih =>
    rw [itemsHaveLongInt, Bool.or_eq_false_iff] at h
    rcases List.mem_cons.mp hitem with rfl | hitem
    · exact h.1
    · exact ih h.2 hitem

/-- No member of an object without a long integer has one. -/
theorem hasLongInt_of_lookup {fields : JsonObject} {key : String} {value : Json}
    (h : hasLongInt (.obj fields) = false) (hvalue : fields.lookup key = some value) :
    hasLongInt value = false := by
  rw [hasLongInt] at h
  induction fields with
  | nil => cases hvalue
  | cons head rest ih =>
    obtain ⟨name, field⟩ := head
    rw [fieldsHaveLongInt, Bool.or_eq_false_iff] at h
    rw [List.lookup_cons] at hvalue
    split at hvalue
    · exact Option.some.inj hvalue ▸ h.1
    · exact ih h.2 hvalue

/-- `repr(value)`, where `repr` writes what can be written. -/
def reprText (repr : Json → String) (value : Json) : Except PyError String :=
  if hasLongInt value then .error (.valueError ("Exceeds the limit (4300 digits) " ++
    "for integer string conversion; use sys.set_int_max_str_digits() to increase the limit"))
  else .ok (repr value)

section Writing

variable (floats : FloatText)

mutual

/-- `json.dumps`. -/
def jsonDumps : Json → Except PyError (List Char)
  | .null => .ok ['n', 'u', 'l', 'l']
  | .bool true => .ok ['t', 'r', 'u', 'e']
  | .bool false => .ok ['f', 'a', 'l', 's', 'e']
  | .int n => dumpInt n
  | .float q => .ok (floats.repr q)
  | .str s => .ok (dumpString s)
  | .arr [] => .ok ['[', ']']
  | .arr (item :: rest) => do
    let first ← jsonDumps item
    let others ← dumpItems rest
    return '[' :: (first ++ (others ++ [']']))
  | .obj [] => .ok ['\x7b', '\x7d']
  | .obj ((key, value) :: rest) => do
    let first ← jsonDumps value
    let others ← dumpFields rest
    return '\x7b' :: (dumpString key ++ ':' :: (first ++ (others ++ ['\x7d'])))

/-- The items after the first, each with a comma in front. -/
def dumpItems : List Json → Except PyError (List Char)
  | [] => .ok []
  | item :: rest => do
    let first ← jsonDumps item
    let others ← dumpItems rest
    return ',' :: (first ++ others)

/-- The members after the first, each with a comma in front. -/
def dumpFields : List (String × Json) → Except PyError (List Char)
  | [] => .ok []
  | (key, value) :: rest => do
    let first ← jsonDumps value
    let others ← dumpFields rest
    return ',' :: (dumpString key ++ ':' :: (first ++ others))

end

end Writing

/-! ## What is read -/

/-- A code point: a scalar value, or a surrogate that stands alone. -/
inductive CodePoint where
  | scalar (c : Char)
  | surrogate (offset : Fin 0x800)
  deriving DecidableEq, Repr

namespace CodePoint

/-- `chr`. -/
def ofNat (n : Nat) : CodePoint :=
  if h : 0xd800 ≤ n ∧ n < 0xe000 then .surrogate ⟨n - 0xd800, by omega⟩ else .scalar (Char.ofNat n)

/-- `str.isspace` of one code point. -/
def isSpace : CodePoint → Bool
  | .scalar c => Conformance.isSpace c
  | .surrogate _ => false

/-- Whether a code point is in ASCII. -/
def isAscii : CodePoint → Bool
  | .scalar c => decide (c.toNat < 128)
  | .surrogate _ => false

/-- A code point in a text of scalar values, where a surrogate is written as its escape. -/
def text : CodePoint → List Char
  | .scalar c => [c]
  | .surrogate offset => '\\' :: 'u' :: Nat.toDigits 16 (0xd800 + offset.val)

end CodePoint

/-- A string, which may hold lone surrogates. -/
abbrev PyStr := List CodePoint

/-- The test `in` over lists of strings. -/
instance lawfulBEqPyStr : LawfulBEq PyStr := inferInstance

namespace PyStr

/-- A string of scalar values. -/
def ofString (text : String) : PyStr := text.toList.map .scalar

/-- `str.strip()` without arguments. -/
def strip (s : PyStr) : PyStr := (s.dropWhile CodePoint.isSpace).rdropWhile CodePoint.isSpace

/-- A string in a text of scalar values. -/
def text (s : PyStr) : String := String.ofList (s.flatMap CodePoint.text)

end PyStr

/-- A value that `json.loads` returns. -/
inductive PyJson where
  | null
  | bool (b : Bool)
  | int (n : Int)
  | float (x : PyFloat)
  | str (s : PyStr)
  | arr (items : List PyJson)
  | obj (fields : List (PyStr × PyJson))
  deriving Repr, Inhabited

/-- An object that `json.loads` returns. -/
abbrev PyObject := List (PyStr × PyJson)

/-- `fields[key] = value`. -/
def setMember (fields : PyObject) (key : PyStr) (value : PyJson) : PyObject :=
  if key ∈ fields.map Prod.fst then
    fields.map fun field => if field.1 = key then (key, value) else field
  else fields ++ [(key, value)]

mutual

/-- A value that can be written, as one that is read. -/
def Json.toPy : Json → PyJson
  | .null => .null
  | .bool b => .bool b
  | .int n => .int n
  | .float q => .float (.finite q)
  | .str s => .str (.ofString s)
  | .arr items => .arr (itemsToPy items)
  | .obj fields => .obj (fieldsToPy fields)

/-- `Json.toPy` of every item. -/
def itemsToPy : List Json → List PyJson
  | [] => []
  | item :: rest => item.toPy :: itemsToPy rest

/-- `Json.toPy` of every member. -/
def fieldsToPy : List (String × Json) → PyObject
  | [] => []
  | (key, value) :: rest => (.ofString key, value.toPy) :: fieldsToPy rest

end

/-! ## Reading -/

/-- `WHITESPACE`. -/
def isJsonSpace (c : Char) : Bool := c == ' ' || c == '\t' || c == '\n' || c == '\r'

/-- What follows the white space. -/
def skipSpace (cs : List Char) : List Char := cs.dropWhile isJsonSpace

/-- The value of a hexadecimal digit. -/
def hexValue? (c : Char) : Option Nat :=
  if '0' ≤ c ∧ c ≤ '9' then some (c.toNat - 48)
  else if 'a' ≤ c ∧ c ≤ 'f' then some (c.toNat - 87)
  else if 'A' ≤ c ∧ c ≤ 'F' then some (c.toNat - 55)
  else none

/-- `_decode_uXXXX`. -/
def hexFour? (a b c d : Char) : Option Nat := do
  let a ← hexValue? a
  let b ← hexValue? b
  let c ← hexValue? c
  let d ← hexValue? d
  return ((a * 16 + b) * 16 + c) * 16 + d

/-- `BACKSLASH`. -/
def unescape? (c : Char) : Option Char :=
  if c = '"' then some '"'
  else if c = '\\' then some '\\'
  else if c = '/' then some '/'
  else if c = 'b' then some (Char.ofNat 0x08)
  else if c = 'f' then some (Char.ofNat 0x0c)
  else if c = 'n' then some '\n'
  else if c = 'r' then some '\r'
  else if c = 't' then some '\t'
  else none

/-- A code point in front of a string that was read. -/
def consPoint (point : CodePoint) (scanned : Option (PyStr × List Char)) :
    Option (PyStr × List Char) :=
  scanned.map fun scanned => (point :: scanned.1, scanned.2)

/-- `scanstring`, after the opening quote: the string and what follows it. A high surrogate is
    joined with a low one behind it, and stands alone in front of anything else. -/
def scanString : List Char → Option (PyStr × List Char)
  | [] => none
  | '"' :: rest => some ([], rest)
  | '\\' :: 'u' :: a :: b :: c :: d :: rest =>
    match hexFour? a b c d with
    | none => none
    | some n =>
      if 0xd800 ≤ n ∧ n < 0xdc00 then
        match rest with
        | '\\' :: 'u' :: e :: f :: g :: h :: after =>
          match hexFour? e f g h with
          | none => none
          | some m =>
            if 0xdc00 ≤ m ∧ m < 0xe000 then
              consPoint (.scalar (Char.ofNat (0x10000 + (n - 0xd800) * 0x400 + (m - 0xdc00))))
                (scanString after)
            else consPoint (.ofNat n) (scanString ('\\' :: 'u' :: e :: f :: g :: h :: after))
        | rest => consPoint (.ofNat n) (scanString rest)
      else consPoint (.ofNat n) (scanString rest)
  | '\\' :: e :: rest =>
    match unescape? e with
    | none => none
    | some c => consPoint (.scalar c) (scanString rest)
  | c :: rest => if c.toNat < 0x20 then none else consPoint (.scalar c) (scanString rest)

/-- The digits of `0|[1-9][0-9]*`. -/
def integerPart (cs : List Char) : List Char :=
  match cs with
  | '0' :: _ => ['0']
  | _ => cs.takeWhile Char.isDigit

/-- `(\.[0-9]+)?`. -/
def fractionPart (cs : List Char) : List Char :=
  match cs with
  | '.' :: rest =>
    let digits := rest.takeWhile Char.isDigit
    if digits = [] then [] else '.' :: digits
  | _ => []

/-- `([eE][-+]?[0-9]+)?`. -/
def exponentPart (cs : List Char) : List Char :=
  match cs with
  | e :: rest =>
    if e = 'e' ∨ e = 'E' then
      let sign := if rest.head? = some '-' ∨ rest.head? = some '+' then rest.take 1 else []
      let digits := (rest.drop sign.length).takeWhile Char.isDigit
      if digits = [] then [] else e :: (sign ++ digits)
    else []
  | [] => []

/-- `NUMBER_RE` with its conversion. -/
def scanNumber (floats : FloatText) (cs : List Char) : Option (PyJson × List Char) :=
  let sign := if cs.head? = some '-' then ['-'] else []
  let afterSign := cs.drop sign.length
  let digits := integerPart afterSign
  let afterDigits := afterSign.drop digits.length
  let fraction := fractionPart afterDigits
  let afterFraction := afterDigits.drop fraction.length
  let exponent := exponentPart afterFraction
  if digits = [] then none
  else if fraction = [] ∧ exponent = [] then
    if digits.length > maxIntDigits then none
    else
      let value : Int := Nat.ofDigitChars 10 digits 0
      some (.int (if sign = [] then value else -value), afterDigits)
  else
    some (.float (floats.ofText (sign ++ digits ++ fraction ++ exponent)),
      afterFraction.drop exponent.length)

section Reading

variable (floats : FloatText)

mutual

/-- `scan_once`; `fuel` bounds the nesting and the length. -/
def scanOnce (fuel : Nat) (cs : List Char) : Option (PyJson × List Char) :=
  match fuel, cs with
  | 0, _ => none
  | _, [] => none
  | fuel + 1, c :: rest =>
    if c = '"' then (scanString rest).map fun scanned => (.str scanned.1, scanned.2)
    else if c = '\x7b' then
      match skipSpace rest with
      | '\x7d' :: rest => some (.obj [], rest)
      | rest => scanFields fuel [] rest
    else if c = '[' then
      match skipSpace rest with
      | ']' :: rest => some (.arr [], rest)
      | rest => scanItems fuel [] rest
    else if c = 'n' then
      if rest.take 3 = ['u', 'l', 'l'] then some (.null, rest.drop 3) else none
    else if c = 't' then
      if rest.take 3 = ['r', 'u', 'e'] then some (.bool true, rest.drop 3) else none
    else if c = 'f' then
      if rest.take 4 = ['a', 'l', 's', 'e'] then some (.bool false, rest.drop 4) else none
    else if c = 'N' then
      if rest.take 2 = ['a', 'N'] then some (.float .nan, rest.drop 2) else none
    else if c = 'I' then
      if rest.take 7 = ['n', 'f', 'i', 'n', 'i', 't', 'y'] then
        some (.float .infinity, rest.drop 7)
      else none
    else if c = '-' ∧ rest.take 8 = ['I', 'n', 'f', 'i', 'n', 'i', 't', 'y'] then
      some (.float .negInfinity, rest.drop 8)
    else scanNumber floats (c :: rest)

/-- `JSONArray`, from an item on. -/
def scanItems (fuel : Nat) (items : List PyJson) (cs : List Char) : Option (PyJson × List Char) :=
  match fuel with
  | 0 => none
  | fuel + 1 =>
    match scanOnce fuel cs with
    | none => none
    | some (item, rest) =>
      match skipSpace rest with
      | ']' :: rest => some (.arr (items ++ [item]), rest)
      | ',' :: rest => scanItems fuel (items ++ [item]) (skipSpace rest)
      | _ => none

/-- `JSONObject`, from a key on: a later member replaces an earlier one. -/
def scanFields (fuel : Nat) (fields : PyObject) (cs : List Char) : Option (PyJson × List Char) :=
  match fuel, cs with
  | fuel + 1, '"' :: rest =>
    match scanString rest with
    | none => none
    | some (key, rest) =>
      match skipSpace rest with
      | ':' :: rest =>
        match scanOnce fuel (skipSpace rest) with
        | none => none
        | some (value, rest) =>
          let fields := setMember fields key value
          match skipSpace rest with
          | '\x7d' :: rest => some (.obj fields, rest)
          | ',' :: rest => scanFields fuel fields (skipSpace rest)
          | _ => none
      | _ => none
  | _, _ => none

end

/-- `json.loads` of a text that is not nested beyond the interpreter's recursion limit; `none` is a
    `ValueError`. -/
def jsonLoads (text : String) : Option PyJson :=
  match scanOnce floats (text.toList.length + 1) (skipSpace text.toList) with
  | some (value, rest) => if skipSpace rest = [] then some value else none
  | none => none

end Reading

end Conformance
