import SafeLookup.Path.Basic
import SafeLookup.Value.Contents
/-!
# Parsed paths

A parsed path is a path together with its segments. It never changes. Parsed paths come from paths,
where the segments are those of the text, or from fields, where anything of the right kind is taken
as it is.
-/

namespace SafeLookup

/-- What is wrong with a field. -/
inductive FieldProblem where
  | missing
  | notText
  | notTextOctets
  | notSequence
  | brokenIteration
  | unknown
  | frozen
  deriving DecidableEq, Repr, Inhabited

/-- A problem, the field that has it, and the position inside the field if it is an item's. An
iteration that breaks is noted one position behind the item that it would have brought. -/
structure FieldError where
  problem : FieldProblem
  field : String
  item : Option Nat := none
  deriving DecidableEq, Repr, Inhabited

/-- A path and its segments. -/
structure ParsedPath where
  raw : String
  segments : List String
  deriving DecidableEq, Repr, Inhabited

namespace ParsedPath

/-- A path with the segments that it names. -/
def ofPath (path : String) : ParsedPath := ⟨path, Path.segments path⟩

/-- Whether a reserved name is among the segments. -/
def hasReserved (p : ParsedPath) : Bool := p.segments.any Path.isReserved

/-- The canonical path of the segments. -/
def render (p : ParsedPath) : String := Path.render p.segments

/-! ### Fields -/

/-- A text from a value: octets are taken as the text that they encode. -/
def textOf (v : Value) : Except FieldProblem String :=
  match v.core with
  | .text s => .ok s
  | .bytes os | .buffer os =>
    match String.fromUTF8? ⟨os.toArray⟩ with
    | some s => .ok s
    | none => .error .notTextOctets
  | _ => .error .notText

/-- The items of a value that may stand for a list of segments: any value with elements, texts,
octets and mappings excepted. A list that cannot be iterated breaks at its first item. -/
def itemsOf (field : String) (v : Value) : Except FieldError (List Value) :=
  match v.core with
  | .run _ items | .set items => .ok items
  | .range .. | .window _ | .sequence .. =>
    v.elements.mapError fun _ => ⟨.brokenIteration, field, some 1⟩
  | _ => .error ⟨.notSequence, field, none⟩

/-- The texts among items, with the problems of the others, each with its position. -/
def textsFrom (field : String) (position : Nat) : List Value → List FieldError × List String
  | [] => ([], [])
  | v :: rest =>
    let (errors, texts) := textsFrom field (position + 1) rest
    match textOf v with
    | .ok s => (errors, s :: texts)
    | .error problem => (⟨problem, field, some position⟩ :: errors, texts)

/-- The field with the path. -/
def rawField (fields : List (String × Value)) : List FieldError × String :=
  match fields.lookup "raw" with
  | none => ([⟨.missing, "raw", none⟩], "")
  | some v =>
    match textOf v with
    | .ok s => ([], s)
    | .error problem => ([⟨problem, "raw", none⟩], "")

/-- The field with the segments. -/
def segmentsField (fields : List (String × Value)) : List FieldError × List String :=
  match fields.lookup "segments" with
  | none => ([⟨.missing, "segments", none⟩], [])
  | some v =>
    match itemsOf "segments" v with
    | .ok items => textsFrom "segments" 0 items
    | .error e => ([e], [])

/-- The fields that a parsed path does not have. -/
def unknownFields (fields : List (String × Value)) : List FieldError :=
  (fields.filter fun field => field.1 != "raw" && field.1 != "segments").map fun field =>
    ⟨.unknown, field.1, none⟩

/-- The parsed path with given fields, or everything that is wrong with them. -/
def ofFields (fields : List (String × Value)) : Except (List FieldError) ParsedPath :=
  let (rawErrors, raw) := rawField fields
  let (segmentErrors, segments) := segmentsField fields
  let errors := rawErrors ++ segmentErrors ++ unknownFields fields
  if errors.isEmpty then .ok ⟨raw, segments⟩ else .error errors

/-- Why the assignment of a field is refused. A name with a leading underscore is that of no field,
and assigning it has no effect. -/
def assignError? (field : String) : Option FieldError :=
  if field.toList.head? = some '_' then none else some ⟨.frozen, field, none⟩

end ParsedPath

end SafeLookup
