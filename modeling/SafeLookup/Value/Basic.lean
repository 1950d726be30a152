/-!
# Values

The data that a path walks through. A value is a scalar, a container or an object; containers
that are not plain are described by what they answer: which keys they claim, which length they
report, and what they raise instead of answering.

Three markers are values of their own. `unset` stands for a member that exists without a value, as
opposed to `null`. The other two are marks that a lookup keeps for itself: `notFound` for an absent
member, `closed` for a value that cannot be stepped into. Data may hold them as well.

Every value tells its kind when it is asked, and it tells its text: what raises is always one of the
operations that a container describes here.
-/

namespace SafeLookup

/-- The ways in which an operation of a value fails. -/
inductive Fault where
  | missingKey
  | positionOutOfRange
  | wrongType
  | missingAttribute
  /-- A number has too many digits to be read or written. -/
  | tooManyDigits
  /-- A sequence reports a length below zero. -/
  | negativeLength
  /-- A sequence reports a length that no sequence can have. -/
  | excessiveLength
  /-- An iteration has come to its end. -/
  | exhausted
  | other (name : String)
  deriving DecidableEq, Repr, Inhabited

/-- What an operation of a container raises instead of answering: a fault, or an interruption,
which is meant for the whole program and which no lookup absorbs. Interruptions are told apart by
their names. -/
inductive Raised where
  | fault (fault : Fault)
  | interrupt (name : String)
  deriving DecidableEq, Repr, Inhabited

/-- The runs of items that are stored as they are. -/
inductive RunKind where
  | list
  | tuple
  | queue
  deriving DecidableEq, Repr, Inhabited

/-- The tables of keys and values that answer from their entries alone. -/
inductive TableKind where
  | plain
  | ordered
  | readOnly
  | defaulting
  deriving DecidableEq, Repr, Inhabited

/-- The objects that hold attributes of their own. -/
inductive ObjectKind where
  | plain
  | function
  | module
  | type
  deriving DecidableEq, Repr, Inhabited

/-- The objects that hold no attributes of their own. -/
inductive SealedKind where
  | bare
  | slotted
  deriving DecidableEq, Repr, Inhabited

/-- How a custom mapping decides whether it has a key: by reading it, where a missing key means
no; always alike; or by raising. -/
inductive Membership where
  | byReading
  | always (answer : Bool)
  | raises (raised : Raised)
  deriving DecidableEq, Repr, Inhabited

/-- The length that a custom sequence reports: that of its items, another number, or none. -/
inductive Length where
  | ofItems
  | claimed (length : Int)
  | raises (raised : Raised)
  deriving DecidableEq, Repr, Inhabited

namespace Length

/-- The greatest length that a sequence can report. -/
def greatest : Nat := Nat.pow 2 63 - 1

/-- A reported length: it cannot be negative, and it cannot exceed the greatest length. -/
def reported (n : Int) : Except Raised Nat :=
  if n < 0 then .error (.fault .negativeLength)
  else if (greatest : Int) < n then .error (.fault .excessiveLength)
  else .ok n.toNat

/-- The length of a sequence that holds `count` items. -/
def ofCount (count : Nat) : Length → Except Raised Nat
  | ofItems => .ok count
  | claimed n => reported n
  | raises raised => .error raised

end Length

/-- A text that a derived value gives in place of that of its base. It is never empty. -/
structure Label where
  text : String
  ne_empty : text ≠ ""
  deriving DecidableEq, Repr

/-- The values that a path walks through. -/
inductive Value where
  | null
  | unset
  | notFound
  | closed
  | bool (value : Bool)
  | int (value : Int)
  /-- A floating-point number, by its shortest text. -/
  | float (text : String)
  /-- A complex number, by the text of its parts. -/
  | complex (text : String)
  | text (value : String)
  | bytes (octets : List UInt8)
  /-- Octets that can be changed in place. -/
  | buffer (octets : List UInt8)
  /-- A window on octets, which is a sequence of numbers. -/
  | window (octets : List UInt8)
  | run (kind : RunKind) (items : List Value)
  /-- The numbers from `start` on in steps of `step`, `stop` excluded. -/
  | range (start stop step : Int)
  | set (items : List Value)
  | table (kind : TableKind) (entries : List (Value × Value))
  /-- Tables in front of each other: the first one that has a key answers for it. -/
  | layers (layers : List (List (Value × Value)))
  /-- A mapping with its own idea of membership, and possibly unreadable. -/
  | mapping (entries : List (Value × Value)) (membership : Membership)
      (unreadable : Option Raised)
  /-- A sequence with its own idea of its length, and possibly unreadable. -/
  | sequence (items : List Value) (length : Length) (unreadable : Option Raised)
  | object (kind : ObjectKind) (attributes : List (String × Value))
  | sealed (kind : SealedKind)
  /-- An object whose attribute namespace is another value. -/
  | namespaced (names : Value)
  /-- An object that raises when its attribute namespace is read. -/
  | guarded (raised : Raised)
  /-- A value of a kind derived from that of `base`. It acts as `base` does, but may have a text of
  its own. The attributes that were added to it are members only where a value that is no scalar, no
  mapping and no sequence is asked for its namespace. -/
  | derived (base : Value) (attributes : List (String × Value)) (label : Option Label)
  deriving Repr, Inhabited, BEq

namespace Value

/-- The value that a derived value acts as. -/
def core : Value → Value
  | derived base _ _ => base.core
  | v => v

/-- Whether a value is of a derived kind. -/
def isDerived : Value → Bool
  | derived .. => true
  | _ => false

/-- The attributes that were added to a value on the way from its core. -/
def added : Value → List (String × Value)
  | derived base attributes _ => attributes ++ base.added
  | _ => []

/-- The label of a derived value, that of the last derivation first. -/
def label? : Value → Option Label
  | derived base _ label => label.or base.label?
  | _ => none

/-- A value without content: `null` and `unset`. Every other value, even an empty or a false one,
counts as present. -/
def isNullish : Value → Bool
  | null | unset => true
  | _ => false

/-- Whether a value is one of the marks that a lookup keeps for itself. -/
def isMark : Value → Bool
  | notFound | closed => true
  | _ => false

/-- The text that a value is, if it is one. -/
def text? (v : Value) : Option String :=
  match v.core with
  | text s => some s
  | _ => none

/-- The text that a value gives in place of that of its kind, if it does. A text always stands for
itself. -/
def ownText? (v : Value) : Option String :=
  if v.text?.isSome then none else v.label?.map Label.text

/-- The number of terms of an arithmetic progression. -/
def rangeLength (start stop step : Int) : Nat :=
  if 0 < step then ((stop - start + step - 1) / step).toNat
  else if step < 0 then ((start - stop - step - 1) / (-step)).toNat
  else 0

end Value

end SafeLookup
