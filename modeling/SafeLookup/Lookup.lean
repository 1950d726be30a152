import SafeLookup.Member
import SafeLookup.Value.Contents
import SafeLookup.Value.Display
/-!
# What a lookup ends with

A lookup hits a value, misses, or is left by an escape. The fallback is no part of it: a caller
chooses one afterwards, and only a miss makes use of it.

A miss may leave a record: the reason, the index of the step that failed and the step itself. Beside
the records a lookup keeps its ledger, the questions it put to containers, each with the index of
the step that it served.
-/

namespace SafeLookup

/-- Why a step of a walk fails. -/
inductive Reason where
  | reserved
  | notTraversable
  | notFound
  | unset
  | container (fault : Fault)
  deriving DecidableEq, Repr, Inhabited

namespace Reason

/-- The words for a reason. -/
def text : Reason → String
  | reserved => "unsafe key"
  | notTraversable => "value is not traversable"
  | notFound => "member not found"
  | unset => "resolved value is unset"
  | container _ => "container raised during lookup"

/-- The fault behind a reason. -/
def fault? : Reason → Option Fault
  | container f => some f
  | _ => none

end Reason

/-- The record of a miss. It names no segment when all steps were made and the value at the end is
unset. -/
structure Miss where
  reason : Reason
  index : Nat
  segment : Option Segment
  deriving Repr, Inhabited, BEq

namespace Miss

/-- The segment of a record, as the message shows it. -/
def segmentText (m : Miss) : String :=
  match m.segment with
  | some s => s.display
  | none => Value.null.display

/-- Whether the message of a record can be written. -/
def isWritable (m : Miss) : Bool := m.segment.all Segment.isWritable

/-- The message of a record. -/
def message (m : Miss) : String :=
  "resolve: " ++ m.reason.text ++ " at segment " ++ toString m.index ++ " " ++ m.segmentText

end Miss

/-- How a lookup ends. -/
inductive Ending where
  | hit (value : Value)
  | miss
  | escaped (escape : Escape)
  deriving Repr, Inhabited, BEq

namespace Ending

/-- The answer of a lookup with a fallback: the value of a hit, the fallback on a miss. -/
def orElse (ending : Ending) (fallback : Value) : Except Escape Value :=
  match ending with
  | hit v => .ok v
  | miss => .ok fallback
  | escaped e => .error e

/-- Whether a lookup ends with a hit. -/
def isHit : Ending → Bool
  | hit _ => true
  | _ => false

end Ending

/-- A finished lookup. -/
structure Lookup where
  ending : Ending
  records : List Miss
  ledger : List (Nat × Access)
  deriving Repr, Inhabited

namespace Lookup

/-- A lookup that ends without a step. -/
def ended (ending : Ending) : Lookup := ⟨ending, [], []⟩

/-- A lookup that fails at a step. -/
def missed (reason : Reason) (index : Nat) (segment : Option Segment) : Lookup :=
  ⟨.miss, [⟨reason, index, segment⟩], []⟩

/-- Puts the records and the ledger of an earlier lookup in front. -/
def after (l : Lookup) (records : List Miss) (ledger : List (Nat × Access)) : Lookup :=
  ⟨l.ending, records ++ l.records, ledger ++ l.ledger⟩

end Lookup

end SafeLookup
