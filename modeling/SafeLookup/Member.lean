import SafeLookup.Container
import SafeLookup.Path.Basic
/-!
# The own member that a step names

`Value.member` looks up one step in one value and answers with a `Reply`. Only what the container
itself holds counts: an entry of a mapping, the item at a position of a sequence, an attribute in
the namespace of an object. Attributes are looked at only if the caller admits it.

The lookup returns a ledger beside the reply: the questions that it put to the container, in order.
The ledger shows what was not asked as well: a key that is not there is never read, and the
namespace of an object stays closed where attributes are not admitted.
-/

namespace SafeLookup

/-- Whether the attributes of objects are admitted as members, or what came of asking for it. -/
abbrev Admission := Except Raised Bool

/-- A question to a container. -/
inductive Access where
  | contains (segment : Segment)
  | read (segment : Segment)
  | length
  | item (position : Nat)
  | names
  deriving Repr

/-- The answer to a step: the member, or why there is none. A value is closed when it takes no
questions. -/
inductive Reply where
  | found (member : Value)
  | absent
  | closed
  | raised (raised : Raised)
  deriving Repr

/-- A reply, and the questions that led to it. -/
structure Probe where
  reply : Reply
  ledger : List Access
  deriving Repr

namespace Reply

/-- The reply that a member stands for: data that holds one of the marks of a lookup is taken for
what the mark says. -/
def ofMember : Value → Reply
  | .notFound => absent
  | .closed => closed
  | v => found v

end Reply

namespace Probe

/-- Reads a member, where `asked` are the questions so far. -/
def ofRead (asked : List Access) : Except Raised Value → Probe
  | .ok v => ⟨.ofMember v, asked⟩
  | .error raised => ⟨.raised raised, asked⟩

end Probe

namespace MappingView

/-- A step into a mapping: its key is read only if the mapping claims to have it. -/
def member (view : MappingView) (s : Segment) : Probe :=
  match view.contains s with
  | .error raised => ⟨.raised raised, [.contains s]⟩
  | .ok false => ⟨.absent, [.contains s]⟩
  | .ok true => .ofRead [.contains s, .read s] (view.read s)

end MappingView

namespace SequenceView

/-- A step into a sequence at a position: it is read only below the reported length. -/
def memberAt (view : SequenceView) (i : Nat) : Probe :=
  match view.length with
  | .error raised => ⟨.raised raised, [.length]⟩
  | .ok n =>
    if i < n then .ofRead [.length, .item i] (view.read i)
    else ⟨.absent, [.length]⟩

/-- A step into a sequence by a name: a name that spells no position names no item, and a spelling
with too many digits is refused. -/
def memberNamed (view : SequenceView) (name : String) : Probe :=
  if !Path.isIndex name then ⟨.absent, []⟩
  else if Path.maxDigits < name.length then ⟨.raised (.fault .tooManyDigits), []⟩
  else view.memberAt (Path.position name)

/-- The reply of a sequence to a step that is no text. Only texts and octets can be tested for
digits at all, and octets that are digits cannot be compared with a text. -/
def replyToOther (v : Value) : Reply :=
  match v.core with
  | .bytes os =>
    if !os.isEmpty && os.all fun b => 48 ≤ b && b ≤ 57 then .raised (.fault .wrongType)
    else .absent
  | _ => .raised (.fault .missingAttribute)

/-- A step into a sequence. -/
def member (view : SequenceView) : Segment → Probe
  | .name s => view.memberNamed s
  | .other v => ⟨replyToOther v, []⟩

end SequenceView

namespace Shape

/-- A step into the namespace of an object. -/
def memberOfNames (s : Segment) : Except Raised (Option MappingView) → Probe
  | .error raised => ⟨.raised raised, [.names]⟩
  | .ok none => ⟨.closed, [.names]⟩
  | .ok (some view) =>
    let probe := view.member s
    ⟨probe.reply, .names :: probe.ledger⟩

/-- A step into a value of a shape, where `attributes` admits the attributes of objects. Whether it
does is asked for every value that is neither a mapping nor a sequence. -/
def member (attributes : Admission) (s : Segment) : Shape → Probe
  | mapping view => view.member s
  | sequence view => view.member s
  | scalar =>
    match attributes with
    | .error raised => ⟨.raised raised, []⟩
    | .ok _ => ⟨.closed, []⟩
  | object names =>
    match attributes with
    | .error raised => ⟨.raised raised, []⟩
    | .ok false => ⟨.closed, []⟩
    | .ok true => memberOfNames s names

end Shape

namespace Value

/-- The own member of a value that a step names. -/
def member (attributes : Admission) (v : Value) (s : Segment) : Probe :=
  v.shape.member attributes s

end Value

end SafeLookup
