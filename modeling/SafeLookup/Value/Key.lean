import SafeLookup.Number.Quantity
import SafeLookup.Value.Basic
/-!
# Keys

Which values can be keys, and when two keys are the same. Numbers are compared by what they
denote, so `1`, `1.0` and `true` are one key; texts and octets by their content; tuples item by
item; progressions term by term; the markers with themselves. Two objects are never the same key,
since each is a new one.

A table keeps its keys in the order in which they came. A value that is entered under a key that is
already there replaces the value and leaves the key and its place.
-/

namespace SafeLookup

namespace Value

/-- The real and the imaginary part of a number. -/
def number? (v : Value) : Option (Quantity × Quantity) :=
  match v.core with
  | bool b => some (.finite (if b then 1 else 0), .finite 0)
  | int n => some (.finite n, .finite 0)
  | float t => some (Quantity.read t.toList, .finite 0)
  | complex t => some (Quantity.readComplex t.toList)
  | _ => none

/-- The content of a value that is a run of octets. -/
def octets? (v : Value) : Option (List UInt8) :=
  match v.core with
  | bytes os | buffer os | window os => some os
  | _ => none

/-- The terms that decide whether two progressions are the same: how many there are, the first if
there is one, and the step if there is a second. -/
def progression (start stop step : Int) : Nat × Option Int × Option Int :=
  let n := rangeLength start stop step
  (n, if 0 < n then some start else none, if 1 < n then some step else none)

/-- Whether two values without items are the same key. -/
def sameLeaf (a b : Value) : Bool :=
  match a.number?, b.number? with
  | some (re, im), some (re', im') => re.agrees re' && im.agrees im'
  | some _, none | none, some _ => false
  | none, none =>
    match a.octets?, b.octets? with
    | some xs, some ys => xs == ys
    | some _, none | none, some _ => false
    | none, none =>
      match a.core, b.core with
      | null, null | unset, unset | notFound, notFound | closed, closed => true
      | text s, text t => s == t
      | range i j k, range i' j' k' => progression i j k == progression i' j' k'
      | _, _ => false

mutual

/-- Whether two values are the same key. -/
def sameKey : Value → Value → Bool
  | derived base _ _, b => sameKey base b
  | run .tuple xs, b =>
    match b.core with
    | run .tuple ys => sameKeys xs ys
    | _ => false
  | a, b => sameLeaf a b

/-- Whether two runs of values are the same, key by key. -/
def sameKeys : List Value → List Value → Bool
  | [], [] => true
  | x :: xs, y :: ys => sameKey x y && sameKeys xs ys
  | _, _ => false

end

/-! ### Names of kinds -/

/-- The name of a value's kind. -/
def kindName : Value → String
  | null => "NoneType"
  | unset => "_FallbackMissing"
  | notFound => "_PathMissing"
  | bool _ => "bool"
  | int _ => "int"
  | float _ => "float"
  | complex _ => "complex"
  | text _ => "str"
  | bytes _ => "bytes"
  | buffer _ => "bytearray"
  | window _ => "memoryview"
  | run .list _ => "list"
  | run .tuple _ => "tuple"
  | run .queue _ => "deque"
  | range .. => "range"
  | set _ => "set"
  | table .plain _ => "dict"
  | table .ordered _ => "OrderedDict"
  | table .readOnly _ => "mappingproxy"
  | table .defaulting _ => "defaultdict"
  | layers _ => "ChainMap"
  | mapping .. => "Mapping"
  | sequence .. => "Sequence"
  | closed | object .plain _ | namespaced _ | guarded _ | sealed _ => "object"
  | object .function _ => "function"
  | object .module _ => "module"
  | object .type _ => "type"
  | derived base _ _ => base.kindName

/-- The full name of a value's kind, which for some collections tells where they belong. -/
def kindLabel (v : Value) : String :=
  match v.core with
  | run .queue _ | table .ordered _ | table .defaulting _ => "collections." ++ v.kindName
  | _ => v.kindName

mutual

/-- The kind that keeps a value from being a key, if one does: containers that can be changed, also
inside a tuple. -/
def unhashable? : Value → Option String
  | run .tuple items => firstUnhashable? items
  | v@(run _ _) | v@(buffer _) | v@(set _) | v@(table _ _) | v@(layers _) | v@(mapping _ _ _) =>
    some v.kindLabel
  | derived base _ _ => base.unhashable?
  | _ => none

/-- The kind that keeps the first of some values from being a key. -/
def firstUnhashable? : List Value → Option String
  | [] => none
  | v :: rest =>
    match v.unhashable? with
    | some kind => some kind
    | none => firstUnhashable? rest

end

/-! ### Tables -/

/-- Enters a value under a key. -/
def put (key value : Value) : List (Value × Value) → List (Value × Value)
  | [] => [(key, value)]
  | (k, v) :: rest =>
    if k.sameKey key then (k, value) :: rest else (k, v) :: put key value rest

/-- The entries of a table that is filled from pairs, one after another. -/
def entriesOf (pairs : List (Value × Value)) : List (Value × Value) :=
  pairs.foldl (fun entries pair => put pair.1 pair.2 entries) []

/-- Tables in front of each other. There is always one, if only an empty one. -/
def layersOf (tables : List (List (Value × Value))) : Value :=
  layers (if tables.isEmpty then [[]] else tables)

/-- A set of values: of those that are the same key, the first stays. -/
def setOf (items : List Value) : Value :=
  set ((entriesOf (items.map fun v => (v, v))).map Prod.fst)

end Value

/-! ### Segments -/

/-- One step of a path. Paths consist of names; a caller may hand over any other value, which is
then looked up as a key. -/
inductive Segment where
  | name (text : String)
  | other (value : Value)
  deriving Repr, Inhabited, BEq

namespace Segment

/-- The kind that keeps a step from being a key, if one does. -/
def unhashable? : Segment → Option String
  | name _ => none
  | other v => v.unhashable?

/-- Whether a step can be a key. -/
def isHashable (s : Segment) : Bool := s.unhashable?.isNone

/-- The kind of a step that cannot be looked for among names: one that cannot be a key. Sets are an
exception: they are looked for by their content, and no name has the content of a set. -/
def incomparable? : Segment → Option String
  | name _ => none
  | other v =>
    match v.core with
    | .set _ => none
    | _ => v.unhashable?

/-- A value as a step of a path: a text is a name. -/
def ofValue (v : Value) : Segment :=
  match v.text? with
  | some s => name s
  | none => other v

/-- Whether a step names a key. -/
def names (s : Segment) (key : Value) : Bool :=
  match s with
  | name t => key.text? == some t
  | other v => key.sameKey v

/-- The value that a step names among entries. -/
def find? (s : Segment) (entries : List (Value × Value)) : Option Value :=
  (entries.find? fun entry => s.names entry.1).map Prod.snd

end Segment

end SafeLookup
