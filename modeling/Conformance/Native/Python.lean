import Conformance.ForStd.Dict
import Conformance.ForStd.List
import Mathlib.Algebra.GroupWithZero.Nat
import Mathlib.Data.List.DropRight
import Mathlib.Data.List.Sort
import Mathlib.Data.List.Dedup
import Mathlib.Data.String.Basic
import Mathlib.Data.Rat.Defs

/-!
# Python values

The pieces of the language and of its standard library that the modelled
functions use: decoded JSON values and their `==`, `str.strip`, `sorted` on
strings, and the exceptions the modelled functions raise.
-/

namespace Conformance

/-- The exceptions raised by the modelled functions, with their messages.
    `CatalogueError`, `HttpsUrlValidationError`, `ManifestError`,
    `CertificationValidationError`, `StructuredResultGateError` and
    `DcrExecutionError` are subclasses of `ValueError`; `valueError` is a
    `ValueError` that is none of them. -/
inductive PyError where
  | catalogueError (message : String)
  | httpsUrlValidationError (message : String)
  | manifestError (message : String)
  | certificationValidationError (message : String)
  | structuredResultGateError (message : String)
  | dcrExecutionError (message : String)
  | jsonHttpClientError (message : String)
  | responseSignatureValidationError (message : String)
  | jwtSigningError (message : String)
  | joseError (message : String)
  | schemaValidationConfigurationError (message : String)
  | valueError (message : String)
  | typeError (message : String)
  | keyError (key : String)
  | recursionError
  deriving DecidableEq, Repr

/-- Whether an exception is a `CatalogueError`. -/
def PyError.IsCatalogueError : PyError → Prop
  | .catalogueError _ => True
  | _ => False

/-- A decoded JSON value (`conformance.json_types.JsonValue`). Integers and
    floats are different Python types, so they are different constructors;
    an object keeps its keys in document order. -/
inductive Json where
  | null
  | bool (b : Bool)
  | int (n : Int)
  | float (q : Rat)
  | str (s : String)
  | arr (items : List Json)
  | obj (fields : List (String × Json))
  deriving Repr, Inhabited

namespace Json

/-- The number a value compares as: `True` and `False` are `1` and `0`. -/
def number? : Json → Option Rat
  | .bool b => some (if b then 1 else 0)
  | .int n => some n
  | .float q => some q
  | _ => none

mutual

/-- Python's `==` on decoded JSON: numbers compare by value across `bool`, `int`
    and `float`, lists element by element, dictionaries regardless of order. -/
def pyEq : Json → Json → Bool
  | .null, .null => true
  | .str a, .str b => a == b
  | .arr xs, .arr ys => pyEqItems xs ys
  | .obj xs, .obj ys => xs.length == ys.length && pyEqFields xs ys
  | a, b =>
    match a.number?, b.number? with
    | some p, some q => p == q
    | _, _ => false

/-- `==` on two lists. -/
def pyEqItems : List Json → List Json → Bool
  | [], [] => true
  | x :: xs, y :: ys => pyEq x y && pyEqItems xs ys
  | _, _ => false

/-- Every entry of the first dictionary has an equal entry in the second. -/
def pyEqFields : List (String × Json) → List (String × Json) → Bool
  | [], _ => true
  | (k, v) :: xs, ys =>
    (match ys.lookup k with
      | some w => pyEq v w
      | none => false) && pyEqFields xs ys

end

/-- Induction on a JSON value, with the hypothesis for every item and every member. -/
theorem induction {P : Json → Prop} (null : P .null) (bool : ∀ b, P (.bool b))
    (int : ∀ n, P (.int n)) (float : ∀ q, P (.float q)) (str : ∀ s, P (.str s))
    (arr : ∀ items, (∀ item ∈ items, P item) → P (.arr items))
    (obj : ∀ fields : List (String × Json), (∀ field ∈ fields, P field.2) → P (.obj fields))
    (value : Json) : P value := by
  refine @Json.rec P (fun items => ∀ item ∈ items, P item)
    (fun fields => ∀ field ∈ fields, P field.2) (fun field => P field.2)
    null bool int float str arr obj ?_ ?_ ?_ ?_ ?_ value
  · intro item hitem
    cases hitem
  · intro head tail hhead htail item hitem
    rcases List.mem_cons.mp hitem with rfl | hitem
    · exact hhead
    · exact htail item hitem
  · intro field hfield
    cases hfield
  · intro head tail hhead htail field hfield
    rcases List.mem_cons.mp hfield with rfl | hfield
    · exact hhead
    · exact htail field hfield
  · intro _ _ hvalue
    exact hvalue

/-- Only the text itself equals a text. -/
theorem pyEq_str_iff {value : Json} {text : String} :
    value.pyEq (.str text) = true ↔ value = .str text := by
  cases value <;> simp [pyEq, number?]

end Json

/-- A decoded JSON object. -/
abbrev JsonObject := List (String × Json)

/-- `fields.get(key)`, with `None` for an absent key. -/
def getField (fields : JsonObject) (key : String) : Json := (fields.lookup key).getD .null

/-- `value if isinstance(value, list) else []`, of `fields.get(key, [])`. -/
def listField (fields : JsonObject) (key : String) : List Json :=
  match fields.lookup key with
  | some (.arr items) => items
  | _ => []

/-- `fields[key] = value`: in place when the key is present, at the end otherwise. -/
def setField (fields : JsonObject) (key : String) (value : Json) : JsonObject :=
  if key ∈ fields.map Prod.fst then
    fields.map fun field => if field.1 = key then (key, value) else field
  else fields ++ [(key, value)]

/-- `str.isspace` of one character. -/
def isSpace (c : Char) : Bool :=
  let n := c.toNat
  (0x09 ≤ n && n ≤ 0x0d) || (0x1c ≤ n && n ≤ 0x20) || n == 0x85 || n == 0xa0 || n == 0x1680 ||
    (0x2000 ≤ n && n ≤ 0x200a) || n == 0x2028 || n == 0x2029 || n == 0x202f || n == 0x205f ||
    n == 0x3000

/-- `str.strip()` without arguments. -/
def strip (s : String) : String :=
  String.ofList ((s.toList.dropWhile isSpace).rdropWhile isSpace)

/-- The zeros of the decimal digits of Unicode 16; the nine digits of each follow it. -/
def decimalZeros : List Nat :=
  [0x30, 0x660, 0x6f0, 0x7c0, 0x966, 0x9e6, 0xa66, 0xae6, 0xb66, 0xbe6, 0xc66, 0xce6, 0xd66,
    0xde6, 0xe50, 0xed0, 0xf20, 0x1040, 0x1090, 0x17e0, 0x1810, 0x1946, 0x19d0, 0x1a80, 0x1a90,
    0x1b50, 0x1bb0, 0x1c40, 0x1c50, 0xa620, 0xa8d0, 0xa900, 0xa9d0, 0xa9f0, 0xaa50, 0xabf0,
    0xff10, 0x104a0, 0x10d30, 0x10d40, 0x11066, 0x110f0, 0x11136, 0x111d0, 0x112f0, 0x11450,
    0x114d0, 0x11650, 0x116c0, 0x116d0, 0x116da, 0x11730, 0x118e0, 0x11950, 0x11bf0, 0x11c50,
    0x11d50, 0x11da0, 0x11f50, 0x16130, 0x16a60, 0x16ac0, 0x16b50, 0x16d70, 0x1ccf0, 0x1d7ce,
    0x1d7d8, 0x1d7e2, 0x1d7ec, 0x1d7f6, 0x1e140, 0x1e2f0, 0x1e4f0, 0x1e5f1, 0x1e950, 0x1fbf0]

/-- The value of a decimal digit. -/
def decimalDigit? (c : Char) : Option Nat :=
  (decimalZeros.find? fun zero => zero ≤ c.toNat && c.toNat < zero + 10).map (c.toNat - ·)

/-- `int` of a text for which `str.isdecimal` holds. A text of more than 4300 digits raises
    a `ValueError`. -/
def decimalValue? (text : String) : Option Nat := do
  let digits ← text.toList.mapM decimalDigit?
  if digits ≠ [] ∧ digits.length ≤ 4300 then
    some (digits.foldl (fun n digit => 10 * n + digit) 0)
  else none

/-- The test `in` over pairs of strings. -/
instance lawfulBEqStringPair : LawfulBEq (String × String) := inferInstance

/-- The test `in` over lists of characters. -/
instance lawfulBEqChars : LawfulBEq (List Char) := inferInstance

/-- `sorted` on strings: code-point order. -/
def sorted (xs : List String) : List String := xs.insertionSort (· ≤ ·)

/-- `==` on two string-valued mappings, which ignores their iteration order. -/
def mappingEq (m₁ m₂ : Dict String String) : Bool :=
  m₁.size == m₂.size && m₁.entries.all fun e => m₂.get? e.1 == some e.2

/-- Characters dropped from the left stay dropped after the right is trimmed. -/
private theorem dropWhile_rdropWhile_dropWhile (q : Char → Bool) (cs : List Char) :
    ((cs.dropWhile q).rdropWhile q).dropWhile q = (cs.dropWhile q).rdropWhile q := by
  obtain ⟨rest, hrest⟩ := List.rdropWhile_prefix q (cs.dropWhile q)
  cases htrimmed : (cs.dropWhile q).rdropWhile q with
  | nil => rfl
  | cons c tail =>
    have hhead := List.head?_dropWhile_not q cs
    rw [← hrest, htrimmed, List.cons_append, List.head?_cons] at hhead
    exact List.dropWhile_cons_of_neg (by simpa using hhead)

@[simp] theorem strip_strip (s : String) : strip (strip s) = strip s := by
  unfold strip
  rw [String.toList_ofList, dropWhile_rdropWhile_dropWhile, List.rdropWhile_idempotent]

/-- A text that neither starts nor ends with white space is stripped. -/
theorem strip_ofList_eq_self {cs : List Char} (hne : cs ≠ [])
    (hhead : isSpace (cs.head hne) = false) (hlast : isSpace (cs.getLast hne) = false) :
    strip (String.ofList cs) = String.ofList cs := by
  have hdrop : cs.dropWhile isSpace = cs := by
    cases cs with
    | nil => rfl
    | cons c rest => exact List.dropWhile_cons_of_neg (by simpa using hhead)
  have hrdrop : cs.rdropWhile isSpace = cs :=
    List.rdropWhile_eq_self_iff.mpr fun _ => by simpa using hlast
  rw [strip, String.toList_ofList, hdrop, hrdrop]

@[simp] theorem mem_sorted {xs : List String} {x : String} : x ∈ sorted xs ↔ x ∈ xs :=
  List.mem_insertionSort _

theorem sorted_nodup {xs : List String} (h : xs.Nodup) : (sorted xs).Nodup :=
  (List.perm_insertionSort _ xs).nodup_iff.mpr h

end Conformance
