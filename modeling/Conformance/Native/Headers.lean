import Conformance.Native.Python

/-!
# Frozen headers

`conformance/headers.py`: the case-insensitive mapping that carries the header fields of a
request or a response. Its two fields are built in one pass over the pairs, and lookup,
membership, iteration and length each read one of them. `lower` stands for `str.lower`.
-/

namespace Conformance

/-- `FrozenHeaders`: the pairs as they are iterated over, and the values by lower-cased name. -/
structure FrozenHeaders where
  items : List (String × String)
  lookup : Dict String String
  deriving DecidableEq

namespace FrozenHeaders

variable (lower : String → String)

/-- The body of the loop of `__init__`. -/
def addHeader (normalized : Dict String (String × String)) (header : String × String) :
    Dict String (String × String) :=
  let lowerName := lower header.1
  match normalized.get? lowerName with
  | some (originalName, _) => normalized.set lowerName (originalName, header.2)
  | none => normalized.set lowerName header

/-- The local `normalized` of `__init__`, after the loop. -/
def normalize (headers : List (String × String)) : Dict String (String × String) :=
  headers.foldl (addHeader lower) .empty

/-- `__init__` on the pairs of `_iter_header_items`. -/
def ofPairs (headers : List (String × String)) : FrozenHeaders :=
  let normalized := normalize lower headers
  { items := normalized.values, lookup := normalized.mapValues Prod.snd }

/-- `__getitem__` of a string. -/
def getitem (headers : FrozenHeaders) (key : String) : Except PyError String :=
  match headers.lookup.get? (lower key) with
  | some value => .ok value
  | none => .error (.keyError (lower key))

/-- `__iter__`. -/
def iter (headers : FrozenHeaders) : List String := headers.items.map Prod.fst

/-- `__len__`. -/
def len (headers : FrozenHeaders) : Nat := headers.items.length

/-- `__contains__` of a string. -/
def contains (headers : FrozenHeaders) (key : String) : Bool := headers.lookup.contains (lower key)

/-- `Mapping.items`, which looks every name up again. -/
def mappingItems (headers : FrozenHeaders) : Except PyError (List (String × String)) :=
  headers.iter.mapM fun name => do
    let value ← headers.getitem lower name
    return (name, value)

end FrozenHeaders

/-- What headers are made from: nothing, a mapping or pairs. -/
inductive HeaderSource where
  | absent
  | dict (headers : Dict String String)
  | frozen (headers : FrozenHeaders)
  | pairs (headers : List (String × String))

/-- `_iter_header_items`. -/
def iterHeaderItems (lower : String → String) :
    HeaderSource → Except PyError (List (String × String))
  | .absent => .ok []
  | .dict headers => .ok headers.entries
  | .frozen headers => headers.mappingItems lower
  | .pairs headers => .ok headers

/-- `freeze_headers`. -/
def freezeHeaders (lower : String → String) (headers : HeaderSource) :
    Except PyError FrozenHeaders := do
  let headerItems ← iterHeaderItems lower headers
  return .ofPairs lower headerItems

end Conformance
