import SafeLookup.Lookup
/-!
# Walking a path

A walk starts at a root and makes one step for each segment. Before a step it looks at the segment
and then at the value: a reserved name stops the walk whatever the value is, and `null` and `unset`
have no members. Only then is the container asked. The first step that fails ends the walk with a
miss; a walk that makes all its steps hits the value it arrives at, `null` included, unless that
value is `unset`.

A walk without steps asks whether there is a value at all: it hits the root unless the root is
`null` or `unset`, and its miss leaves no record.
-/

namespace SafeLookup

namespace Segment

/-- Whether a step is a reserved name. -/
def isReserved : Segment → Bool
  | name s => Path.isReserved s
  | other _ => false

end Segment

namespace Value

/-- The lookup without a path: the value itself unless it is nullish. -/
def coalesce (v : Value) : Lookup := .ended (if v.isNullish then .miss else .hit v)

/-- The end of a walk that has made all its `steps` steps. -/
def arrive (v : Value) (steps : Nat) : Lookup :=
  match v with
  | unset => .missed .unset (steps - 1) none
  | _ => .ended (.hit v)

/-- What keeps a walk from asking a value for a step: the step itself, or a value without
members. -/
def refuse? (v : Value) (index : Nat) (s : Segment) : Option Lookup :=
  match s.incomparable? with
  | some kind => some (.ended (.escaped (.unhashable kind)))
  | none =>
    if s.isReserved then some (.missed .reserved index (some s))
    else if v.isNullish then some (.missed .notTraversable index (some s))
    else none

/-- The walk from a value on, where `index` steps have been made. -/
def walkFrom (attributes : Admission) (v : Value) (index : Nat) : List Segment → Lookup
  | [] => v.arrive index
  | s :: rest =>
    match v.refuse? index s with
    | some refused => refused
    | none =>
      let probe := v.member attributes s
      let asked := probe.ledger.map fun access => (index, access)
      match probe.reply with
      | .found member => (walkFrom attributes member (index + 1) rest).after [] asked
      | .absent => (Lookup.missed .notFound index (some s)).after [] asked
      | .closed => (Lookup.missed .notTraversable index (some s)).after [] asked
      | .raised (.fault f) => (Lookup.missed (.container f) index (some s)).after [] asked
      | .raised (.interrupt name) =>
        (Lookup.ended (.escaped (.interrupt name))).after [] asked

/-- The walk from a root along segments, where `attributes` admits the attributes of objects. -/
def walk (attributes : Admission) (root : Value) : List Segment → Lookup
  | [] => root.coalesce
  | s :: rest => walkFrom attributes root 0 (s :: rest)

/-- The walk along names. -/
def walkNames (attributes : Admission) (root : Value) (names : List String) : Lookup :=
  root.walk attributes (names.map .name)

/-- The lookup of a path, which may be any value: no path at all coalesces, a text is a path, and
nothing is found under anything else. -/
def lookup (attributes : Admission) (root path : Value) : Lookup :=
  match path.core with
  | null => root.coalesce
  | text p => root.walkNames attributes (Path.segments p)
  | _ => .ended .miss

/-- The first of some paths that hits. The mark of an absent member is no hit, even as the root. -/
def firstPresent (attributes : Admission) (root : Value) : List Value → Lookup
  | [] => .ended .miss
  | path :: rest =>
    let tried := root.lookup attributes path
    match tried.ending with
    | .hit .notFound | .miss =>
      (firstPresent attributes root rest).after tried.records tried.ledger
    | _ => tried

/-! ### Lists that come as values -/

/-- The walk along the elements of a value. No walk makes more steps than its root is deep, so the
rest of a longer progression is left alone. -/
def walkAlong (attributes : Admission) (root segments : Value) : Lookup :=
  match (segments.cutTo (root.depth + 1)).elements with
  | .ok items => root.walk attributes (items.map .ofValue)
  | .error e => .ended (.escaped e)

/-- The first of the paths among the elements of a value that hits. -/
def firstAmong (attributes : Admission) (root paths : Value) : Lookup :=
  match paths.elements with
  | .ok items => root.firstPresent attributes items
  | .error e => .ended (.escaped e)

end Value

end SafeLookup
