import SafeLookup.Walk
/-!
# Accessors

An accessor is a root together with the segments of a walk that has not been made yet. It grows by
one segment at a time and never changes: every step makes a new accessor. Segments that come from
an accessor reach the walk as they are, so a key may hold dots and brackets.

A step is refused where no segment could stand for it: a key has to be a text that is not empty, an
index a whole number that is not negative and has a text. The text is that of its digits, which may
be too long to be written, unless the number is of a derived kind with a text of its own. Names with
a leading underscore are not steps when they are asked for as attributes.
-/

namespace SafeLookup

/-- A root, and the segments of a walk from it. -/
structure Accessor where
  root : Value
  segments : List String := []
  deriving Repr, Inhabited, BEq

/-- The ways to change a part of an accessor, none of which is admitted. -/
inductive Change where
  | assign
  | delete
  deriving DecidableEq, Repr

/-- Why an accessor refuses. -/
inductive AccessorError where
  | keyNotText (kind : String)
  | emptyKey
  | indexNotInteger (kind : String)
  | negativeIndex
  | tooManyDigits
  | hiddenName (name : String)
  | immutable (change : Change) (part : String)
  | unhashable (kind : String)
  deriving DecidableEq, Repr

namespace AccessorError

/-- The message of a refusal. -/
def message : AccessorError → String
  | keyNotText kind => "accessor keys must be strings, got " ++ kind
  | emptyKey => "accessor keys cannot be empty"
  | indexNotInteger kind => "accessor indices must be integers, got " ++ kind
  | negativeIndex => "negative indices are not supported"
  | tooManyDigits => Path.tooLongMessage
  | hiddenName name => name
  | immutable .assign part => "cannot assign to field " ++ Text.quote part
  | immutable .delete part => "cannot delete field " ++ Text.quote part
  | unhashable kind => "unhashable type: '" ++ kind ++ "'"

end AccessorError

namespace Accessor

/-- The accessor with one more segment. -/
def push (a : Accessor) (segment : String) : Accessor := ⟨a.root, a.segments ++ [segment]⟩

/-- A step by a key. -/
def key (a : Accessor) (v : Value) : Except AccessorError Accessor :=
  match v.text? with
  | none => .error (.keyNotText v.kindName)
  | some s => if s.isEmpty then .error .emptyKey else .ok (a.push s)

/-- A step by a position, which is written as its text. -/
def index (a : Accessor) (v : Value) : Except AccessorError Accessor :=
  match v.core with
  | .int n =>
    if n < 0 then .error .negativeIndex
    else
      match v.ownText? with
      | some text => .ok (a.push text)
      | none =>
        if Path.isTooLong n.toNat then .error .tooManyDigits else .ok (a.push (toString n.toNat))
  | _ => .error (.indexNotInteger v.kindName)

/-- A step by a key or a position: a text is a key. -/
def item (a : Accessor) (v : Value) : Except AccessorError Accessor :=
  if v.text?.isSome then a.key v else a.index v

/-- A step by an attribute that is no part of the accessor itself. -/
def named (a : Accessor) (name : String) : Except AccessorError Accessor :=
  if name.toList.head? = some '_' then .error (.hiddenName name) else a.key (.text name)

/-- The canonical path of the segments. -/
def path (a : Accessor) : String := Path.render a.segments

/-- The walk that the accessor stands for. -/
def lookup (attributes : Admission) (a : Accessor) : Lookup :=
  a.root.walkNames attributes a.segments

/-- The text of an accessor. -/
def display (a : Accessor) : String :=
  "Accessor(root=" ++ a.root.display ++ ", segments=" ++
    Value.inTuple (a.segments.map Text.quote) ++ ")"

/-- The text of an accessor, if its root can be written. -/
def written (a : Accessor) : Except AccessorError String :=
  if a.root.isWritable then .ok a.display else .error .tooManyDigits

/-- The kind that keeps an accessor from being a key, if one does: that of its root. -/
def unhashable? (a : Accessor) : Option AccessorError := a.root.unhashable?.map .unhashable

/-! ### Steps -/

/-- A step that makes a new accessor. -/
inductive Step where
  | key (v : Value)
  | index (v : Value)
  | item (v : Value)
  | named (name : String)
  deriving Repr

/-- Makes a step. -/
def perform (a : Accessor) : Step → Except AccessorError Accessor
  | .key v => a.key v
  | .index v => a.index v
  | .item v => a.item v
  | .named name => a.named name

/-! ### Attributes -/

/-- What an attribute of an accessor is: one of its parts, one of its operations, or the accessor
with one more segment. -/
inductive Attribute where
  | root (value : Value)
  | segments (names : List String)
  | path (path : String)
  | operation
  | extended (accessor : Accessor)
  deriving Repr

/-- The attribute of a name. The names of the accessor's own parts and operations are not steps. -/
def attr (a : Accessor) (name : String) : Except AccessorError Attribute :=
  match name with
  | "root" => .ok (.root a.root)
  | "segments" => .ok (.segments a.segments)
  | "path" => .ok (.path a.path)
  | "get" | "key" | "index" => .ok .operation
  | _ => (a.named name).map .extended

end Accessor

end SafeLookup
