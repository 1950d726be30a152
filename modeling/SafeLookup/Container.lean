import SafeLookup.Value.Key
/-!
# Containers by what they answer

A walk knows a container only by the questions that it can put to it. A mapping is asked whether it
has a key and what stands under it; a sequence is asked for its length and for the item at a
position; an object is asked for its namespace, which is a mapping or nothing that helps. Each
question is answered or raised.

`Value.shape` says which questions a value takes.
-/

namespace SafeLookup

/-- A mapping, by its answers. -/
structure MappingView where
  /-- Whether a step names a key. -/
  contains : Segment → Except Raised Bool
  /-- What stands under the key that a step names. -/
  read : Segment → Except Raised Value

/-- A sequence, by its answers. -/
structure SequenceView where
  length : Except Raised Nat
  read : Nat → Except Raised Value

/-- The questions that a value takes. A scalar takes none. The namespace of an object is a mapping,
or `none` where there is nothing to look into. -/
inductive Shape where
  | mapping (view : MappingView)
  | sequence (view : SequenceView)
  | scalar
  | object (names : Except Raised (Option MappingView))

namespace MappingView

/-- The answers of entries: what is found there is a member. Reading a missing key raises, and so
does every question about a step that cannot be a key. -/
def ofFind (find? : Segment → Option Value) : MappingView where
  contains s := if s.isHashable then .ok (find? s).isSome else .error (.fault .wrongType)
  read s :=
    if s.isHashable then
      match find? s with
      | some v => .ok v
      | none => .error (.fault .missingKey)
    else .error (.fault .wrongType)

/-- The answers of a table. -/
def ofEntries (entries : List (Value × Value)) : MappingView := ofFind fun s => s.find? entries

/-- The answers of tables in front of each other. -/
def ofLayers (layers : List (List (Value × Value))) : MappingView :=
  ofFind fun s => layers.findSome? fun entries => s.find? entries

/-- The answers of a namespace with the given attributes. -/
def ofAttributes (attributes : List (String × Value)) : MappingView :=
  ofEntries (attributes.map fun (name, v) => (.text name, v))

/-- Reading a custom mapping: it raises what makes it unreadable, or answers from its entries. -/
def readCustom (entries : List (Value × Value)) (unreadable : Option Raised) (s : Segment) :
    Except Raised Value :=
  match unreadable with
  | some raised => .error raised
  | none => (ofEntries entries).read s

/-- Membership by reading: what can be read is a member, and a missing key is none. -/
def containsByReading (read : Segment → Except Raised Value) (s : Segment) : Except Raised Bool :=
  match read s with
  | .ok _ => .ok true
  | .error (.fault .missingKey) => .ok false
  | .error raised => .error raised

/-- The answers of a custom mapping. -/
def custom (entries : List (Value × Value)) (membership : Membership)
    (unreadable : Option Raised) : MappingView where
  contains s :=
    match membership with
    | .byReading => containsByReading (readCustom entries unreadable) s
    | .always answer => .ok answer
    | .raises raised => .error raised
  read := readCustom entries unreadable

end MappingView

namespace SequenceView

/-- The answers of stored items. -/
def ofItems (items : List Value) : SequenceView where
  length := .ok items.length
  read i :=
    match items[i]? with
    | some v => .ok v
    | none => .error (.fault .positionOutOfRange)

/-- The answers of a progression, which is read without being written out. -/
def ofRange (start stop step : Int) : SequenceView where
  length := Length.reported (Value.rangeLength start stop step)
  read i :=
    if i < Value.rangeLength start stop step then .ok (.int (start + step * i))
    else .error (.fault .positionOutOfRange)

/-- The answers of a custom sequence. -/
def custom (items : List Value) (length : Length) (unreadable : Option Raised) : SequenceView where
  length := length.ofCount items.length
  read i :=
    match unreadable with
    | some raised => .error raised
    | none => (ofItems items).read i

end SequenceView

namespace Value

/-- The answers of a value as a mapping, if it is one. -/
def mappingView? (v : Value) : Option MappingView :=
  match v.core with
  | table _ entries => some (.ofEntries entries)
  | layers ls => some (.ofLayers ls)
  | mapping entries membership unreadable => some (.custom entries membership unreadable)
  | _ => none

/-- The answers of a value as a sequence, if it is one. Texts and plain octets are scalars. -/
def sequenceView? (v : Value) : Option SequenceView :=
  match v.core with
  | run _ items => some (.ofItems items)
  | range start stop step => some (.ofRange start stop step)
  | window os => some (.ofItems (os.map fun b => int b.toNat))
  | sequence items length unreadable => some (.custom items length unreadable)
  | _ => none

/-- Whether a value is a number, a text or octets. -/
def isScalar (v : Value) : Bool :=
  match v.core with
  | bool _ | int _ | float _ | complex _ | text _ | bytes _ | buffer _ => true
  | _ => false

/-- The namespace of an object, with the attributes that were added to it in front. One that cannot
be read because the object has none, or that is no mapping, helps nobody; any other failure to read
it is raised. An object of a derived kind has a namespace even where its core has none. -/
def names (v : Value) : Except Raised (Option MappingView) :=
  match v.core with
  | object _ attributes => .ok (some (.ofAttributes (v.added ++ attributes)))
  | namespaced ns => .ok ns.mappingView?
  | guarded (.fault .wrongType) | guarded (.fault .missingAttribute) => .ok none
  | guarded raised => .error raised
  | _ => .ok (if v.isDerived then some (.ofAttributes v.added) else none)

/-- The questions that a value takes. -/
def shape (v : Value) : Shape :=
  match v.mappingView?, v.sequenceView? with
  | some view, _ => .mapping view
  | none, some view => .sequence view
  | none, none => if v.isScalar then .scalar else .object v.names

end Value

end SafeLookup
