/-!
# Paths

A path names a chain of members. Outside brackets, segments are separated by dots, and a
backslash takes the dot behind it literally. Inside brackets everything up to the next closing
bracket is one segment, verbatim; a dot directly behind the closing bracket belongs to it.
Empty segments are dropped, and no text is malformed: a bracket that is never closed runs to the
end of the path.

`scan` is the reader as a machine with two modes, structural in the text that is left, and
`Path.segments` is the reader on strings. `Path.render` writes the canonical path of a list of
segments: positions in brackets and every other segment as a key, with its dots escaped and a dot in
front unless it comes first. Only dots are escaped: brackets and backslashes stand for themselves.
-/

namespace SafeLookup.Path

/-! ### Reserved names

Names that reach the linkage of prototypes and classes, or the slots that construct and rebuild
objects. A walk refuses them wherever they stand in a path and whatever the value at hand is. -/

/-- The names that no walk follows. -/
def reservedNames : List String :=
  ["__proto__", "prototype", "constructor", "__class__", "__dict__", "__base__", "__bases__",
    "__mro__", "__subclasses__", "__init__", "__init_subclass__", "__new__", "__globals__",
    "__builtins__", "__closure__", "__code__", "__getattribute__", "__setattr__", "__delattr__",
    "__reduce__", "__reduce_ex__"]

/-- Whether a segment is a reserved name, letter for letter. -/
def isReserved (segment : String) : Bool := reservedNames.contains segment

/-! ### Positions in decimal

A position of a sequence has exactly one spelling: its decimal digits without a sign, a separator or
a leading zero. A spelling may be arbitrarily long, but only spellings of at most `maxDigits` digits
are ever turned into a number: reading a longer one is refused by the walk. -/

/-- The longest spelling that is turned into a number. -/
def maxDigits : Nat := 4300

/-- A segment spells a position when it is made of decimal digits and starts with a zero only
if it is the single digit zero. -/
def isIndexChars (cs : List Char) : Bool :=
  !cs.isEmpty && cs.all Char.isDigit && (cs == ['0'] || cs.head? != some '0')

/-- Whether a segment is the spelling of a position. -/
def isIndex (segment : String) : Bool := isIndexChars segment.toList

/-- The position that a run of decimal digits denotes. -/
def position (segment : String) : Nat := Nat.ofDigitChars 10 segment.toList 0

/-- Whether the spelling of a position is too long to be turned into a number, or to be written. -/
def isTooLong (n : Nat) : Bool := Nat.pow 10 maxDigits ≤ n

/-- The message about a number whose spelling is too long. -/
def tooLongMessage : String :=
  "Exceeds the limit (" ++ toString maxDigits ++ " digits) for integer string conversion; " ++
    "use sys.set_int_max_str_digits() to increase the limit"

/-! ### From a path to its segments -/

/-- Where the reader stands: in the text between separators, or behind an opening bracket. -/
inductive Mode where
  | key
  | bracket
  deriving DecidableEq, Repr

/-- Closes the segment whose characters were read in reverse; an empty one is dropped. -/
def close (read : List Char) (rest : List (List Char)) : List (List Char) :=
  if read.isEmpty then rest else read.reverse :: rest

/-- The segments of the remaining text, given the mode and the characters of the open segment,
last character first. -/
def scan : Mode → List Char → List Char → List (List Char)
  | _, read, [] => close read []
  | .key, read, '\\' :: '.' :: rest => scan .key ('.' :: read) rest
  | .key, read, '.' :: rest => close read (scan .key [] rest)
  | .key, read, '[' :: rest => close read (scan .bracket [] rest)
  | .bracket, read, ']' :: '.' :: rest => close read (scan .key [] rest)
  | .bracket, read, ']' :: rest => close read (scan .key [] rest)
  | mode, read, c :: rest => scan mode (c :: read) rest

/-- The segments of a path, in order. -/
def segments (path : String) : List String :=
  (scan .key [] path.toList).map String.ofList

/-! ### From segments to a path -/

/-- Puts a backslash in front of every dot. -/
def escapeChars (key : List Char) : List Char :=
  key.flatMap fun c => if c = '.' then ['\\', '.'] else [c]

/-- The spelling of a key in which no dot separates. -/
def escape (key : String) : String := String.ofList (escapeChars key.toList)

/-- A segment that follows another one. -/
def renderNext (segment : List Char) : List Char :=
  if isIndexChars segment then '[' :: segment ++ [']'] else '.' :: escapeChars segment

/-- A segment that opens a path. -/
def renderFirst (segment : List Char) : List Char :=
  if isIndexChars segment then '[' :: segment ++ [']'] else escapeChars segment

/-- The canonical path of a list of segments, as characters. -/
def renderChars : List (List Char) → List Char
  | [] => []
  | first :: rest => renderFirst first ++ rest.flatMap renderNext

/-- The canonical path of a list of segments. -/
def render (segments : List String) : String :=
  String.ofList (renderChars (segments.map String.toList))

end SafeLookup.Path
