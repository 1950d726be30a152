import SafeLookup.Path.Basic
import SafeLookup.Value.Key
/-!
# What a value holds

Three measures of what is inside a value.

A setting may hold any value; what matters is whether the value counts as true (`truth`). False are
the empty values: `null`, `unset`, the number zero, and texts, octets and containers without
content. A custom sequence is asked for its length: it is empty when it reports zero, and what it
raises instead is raised. Everything else counts as true.

A list of segments or of paths may come as any value that has elements (`elements`): a text has its
characters, octets their numbers, a container its items, a mapping its keys. Everything else has
none and cannot stand for a list.

No walk makes more steps into a value than it is deep (`depth`). Scalars and sets have the depth
zero, unless attributes were added to them, and a member is never as deep as the container that
holds it. So a walk ends after at most as many steps as its root is deep, however many segments
there are.
-/

namespace SafeLookup

namespace Value

/-! ### What counts as true -/

/-- Whether a value counts as true, or what came of asking. -/
def truth (v : Value) : Except Raised Bool :=
  match v.core with
  | null | unset => .ok false
  | bool b => .ok b
  | int n => .ok (n != 0)
  | float t => .ok (!(Quantity.read t.toList).isZero)
  | complex t =>
    let (re, im) := Quantity.readComplex t.toList
    .ok (!(re.isZero && im.isZero))
  | text s => .ok (!s.isEmpty)
  | bytes os | buffer os | window os => .ok (!os.isEmpty)
  | run _ items | set items => .ok (!items.isEmpty)
  | range start stop step => .ok (rangeLength start stop step != 0)
  | table _ entries | mapping entries _ _ => .ok (!entries.isEmpty)
  | layers ls => .ok (ls.any fun entries => !entries.isEmpty)
  | sequence items length _ => (length.ofCount items.length).map (· != 0)
  | _ => .ok true

/-- Whether a value is a mapping without entries. -/
def isEmptyMapping (v : Value) : Bool :=
  match v.core with
  | table _ entries | mapping entries _ _ => entries.isEmpty
  | layers ls => ls.all fun entries => entries.isEmpty
  | _ => false

end Value

/-! ### Elements -/

/-- What leaves a lookup without an answer: an interruption, a fault of something other than the
containers on the way, a segment that cannot be a key, a value without elements in the place of a
list, or a list whose items end the iteration from within. -/
inductive Escape where
  | interrupt (name : String)
  | fault (fault : Fault)
  | unhashable (kind : String)
  | notIterable (kind : String)
  | brokenIteration
  deriving DecidableEq, Repr, Inhabited

namespace Escape

/-- What escapes when an operation that nothing guards raises. -/
def ofRaised : Raised → Escape
  | .fault f => .fault f
  | .interrupt name => .interrupt name

/-- The message of an escape; what a value raised on its own account has a message of its own. -/
def message? : Escape → Option String
  | fault .tooManyDigits => some Path.tooLongMessage
  | fault .negativeLength => some "__len__() should return >= 0"
  | fault .excessiveLength => some "cannot fit 'int' into an index-sized integer"
  | interrupt _ | fault _ => none
  | unhashable kind => some ("unhashable type: '" ++ kind ++ "'")
  | notIterable kind => some ("'" ++ kind ++ "' object is not iterable")
  | brokenIteration => some "generator raised StopIteration"

end Escape

namespace Value

/-- The terms of a progression. -/
def rangeItems (start stop step : Int) : List Value :=
  (List.range (rangeLength start stop step)).map fun i : Nat => int (start + step * i)

/-- The keys of tables in front of each other: those of the last one first, then the keys that
each earlier one adds. -/
def layerKeys (ls : List (List (Value × Value))) : List Value :=
  (entriesOf (ls.reverse.flatten.map fun entry => (entry.1, null))).map Prod.fst

/-- The elements of a value, in order. -/
def elements (v : Value) : Except Escape (List Value) :=
  match v.core with
  | text s => .ok (s.toList.map fun c => text c.toString)
  | bytes os | buffer os | window os => .ok (os.map fun b => int b.toNat)
  | run _ items | set items => .ok items
  | range start stop step => .ok (rangeItems start stop step)
  | table _ entries | mapping entries _ _ => .ok (entries.map Prod.fst)
  | layers ls => .ok (layerKeys ls)
  | sequence items _ none => .ok items
  | sequence _ _ (some (.fault .positionOutOfRange)) => .ok []
  | sequence _ _ (some (.fault .exhausted)) => .error .brokenIteration
  | sequence _ _ (some raised) => .error (.ofRaised raised)
  | _ => .error (.notIterable v.kindLabel)

/-! ### Depth -/

mutual

/-- A number that the steps into a value never exceed. -/
def depth : Value → Nat
  | run _ items | sequence items _ _ => depthOfAll items + 1
  | window _ | range .. => 1
  | table _ entries | mapping entries _ _ => depthOfEntries entries + 1
  | layers ls => depthOfLayers ls + 1
  | object _ attributes => depthOfAttributes attributes + 1
  | namespaced names => depth names
  | derived base attributes _ => max (depth base) (depthOfAttributes attributes + 1)
  | _ => 0

/-- The depth of the deepest of some values. -/
def depthOfAll : List Value → Nat
  | [] => 0
  | v :: rest => max (depth v) (depthOfAll rest)

/-- The depth of the deepest value under some keys. -/
def depthOfEntries : List (Value × Value) → Nat
  | [] => 0
  | (_, v) :: rest => max (depth v) (depthOfEntries rest)

/-- The depth of the deepest value in some tables. -/
def depthOfLayers : List (List (Value × Value)) → Nat
  | [] => 0
  | entries :: rest => max (depthOfEntries entries) (depthOfLayers rest)

/-- The depth of the deepest of some attributes. -/
def depthOfAttributes : List (String × Value) → Nat
  | [] => 0
  | (_, v) :: rest => max (depth v) (depthOfAttributes rest)

end

/-- A progression cut to at most `count` terms; any other value as it is. -/
def cutTo (count : Nat) (v : Value) : Value :=
  match v.core with
  | range start stop step =>
    if count < rangeLength start stop step then range start (start + step * count) step else v
  | _ => v

end Value

end SafeLookup
