import SafeLookup.Path.Basic
import SafeLookup.Text.Quoted
import SafeLookup.Value.Key
/-!
# The text of a value

`display` writes a value the way it would be entered: texts quoted, tuples in parentheses with a
comma behind a single item, tables as keys and values in braces. `toText` writes a text as it is,
a value with a text of its own by that text, and displays everything else.

Objects have no such text; they are shown by the name of their kind between angle brackets.

Whole numbers with too many digits are not written out, nor is any value whose text would show one.
`isWritable` says which values can be displayed, `hasText` which have a text, and `written` displays
those that can be.
-/

namespace SafeLookup

namespace Value

/-- Writes texts one after another with a comma and a space in between. -/
def commaSeparated : List String → String
  | [] => ""
  | [s] => s
  | s :: rest => s ++ ", " ++ commaSeparated rest

/-- Writes a truth value. -/
def displayBool (b : Bool) : String := if b then "True" else "False"

/-- Puts displayed items into parentheses; a single one is followed by a comma. -/
def inTuple : List String → String
  | [s] => "(" ++ s ++ ",)"
  | items => "(" ++ commaSeparated items ++ ")"

/-- Puts displayed items into braces. -/
def inBraces (items : List String) : String := "\x7b" ++ commaSeparated items ++ "\x7d"

/-- Puts displayed items into square brackets. -/
def inBrackets (items : List String) : String := "[" ++ commaSeparated items ++ "]"

/-- A displayed key in front of its value. -/
def inColumn (pair : String × String) : String := pair.1 ++ ": " ++ pair.2

/-- The text around the displayed items of a run. -/
def displayRun : RunKind → List String → String
  | .list, items => inBrackets items
  | .tuple, items => inTuple items
  | .queue, items => "deque(" ++ inBrackets items ++ ")"

/-- The text around the displayed entries of a table. -/
def displayTable : TableKind → List (String × String) → String
  | .plain, entries => inBraces (entries.map inColumn)
  | .readOnly, entries => "mappingproxy(" ++ inBraces (entries.map inColumn) ++ ")"
  | .defaulting, entries => "defaultdict(None, " ++ inBraces (entries.map inColumn) ++ ")"
  | .ordered, [] => "OrderedDict()"
  | .ordered, entries =>
    "OrderedDict(" ++ inBrackets (entries.map fun e => inTuple [e.1, e.2]) ++ ")"

/-- The text around the displayed members of a set. -/
def displaySet : List String → String
  | [] => "set()"
  | items => inBraces items

/-- A progression, by its bounds and, unless it is one, its step. -/
def displayRange (start stop step : Int) : String :=
  let bounds := [toString start, toString stop]
  "range(" ++ commaSeparated (if step = 1 then bounds else bounds ++ [toString step]) ++ ")"

mutual

/-- The text of a value as it would be entered. -/
def display : Value → String
  | null => "None"
  | unset => "MISSING"
  | notFound => "PATH_MISSING"
  | bool b => displayBool b
  | int n => toString n
  | float t => t
  | complex t => t
  | text s => Text.quote s
  | bytes os => Text.quoteOctets os
  | buffer os => Text.quoteBuffer os
  | run kind items => displayRun kind (displayAll items)
  | range start stop step => displayRange start stop step
  | set items => displaySet (displayAll items)
  | table kind entries => displayTable kind (displayEntries entries)
  | layers ls => "ChainMap(" ++ commaSeparated (displayLayers ls) ++ ")"
  | derived base _ _ => display base
  | v => "<" ++ v.kindName ++ ">"

/-- The texts of some values. -/
def displayAll : List Value → List String
  | [] => []
  | v :: rest => display v :: displayAll rest

/-- The texts of some keys and values. -/
def displayEntries : List (Value × Value) → List (String × String)
  | [] => []
  | (k, v) :: rest => (display k, display v) :: displayEntries rest

/-- The texts of some tables. -/
def displayLayers : List (List (Value × Value)) → List String
  | [] => []
  | entries :: rest => inBraces ((displayEntries entries).map inColumn) :: displayLayers rest

end

/-- The text of a value inside running text. -/
def toText (v : Value) : String := v.ownText?.getD (v.text?.getD v.display)

/-! ### Values that can be written -/

mutual

/-- Whether no number that the text of a value shows has too many digits. -/
def isWritable : Value → Bool
  | int n => !Path.isTooLong n.natAbs
  | run _ items | set items => areWritable items
  | range start stop step => [start, stop, step].all fun n => !Path.isTooLong n.natAbs
  | table _ entries => areWritableEntries entries
  | layers ls => areWritableLayers ls
  | derived base _ _ => isWritable base
  | _ => true

/-- Whether some values can be written. -/
def areWritable : List Value → Bool
  | [] => true
  | v :: rest => isWritable v && areWritable rest

/-- Whether some keys and values can be written. -/
def areWritableEntries : List (Value × Value) → Bool
  | [] => true
  | (k, v) :: rest => isWritable k && isWritable v && areWritableEntries rest

/-- Whether some tables can be written. -/
def areWritableLayers : List (List (Value × Value)) → Bool
  | [] => true
  | entries :: rest => areWritableEntries entries && areWritableLayers rest

end

/-- Whether a value has a text inside running text: a text of its own, or one that can be
written. -/
def hasText (v : Value) : Bool := v.ownText?.isSome || v.isWritable

/-- The text of a value, if it can be written. -/
def written (v : Value) : Except Fault String :=
  if v.isWritable then .ok v.display else .error .tooManyDigits

/-- The text of an error that carries some values: nothing, the only value inside running text, or
all of them as a tuple. -/
def errorText : List Value → Except Fault String
  | [] => .ok ""
  | [v] => if v.hasText then .ok v.toText else .error .tooManyDigits
  | vs => if areWritable vs then .ok (inTuple (displayAll vs)) else .error .tooManyDigits

end Value

namespace Segment

/-- The text of a step as it would be entered. -/
def display : Segment → String
  | name s => Text.quote s
  | other v => v.display

/-- Whether a step can be written. -/
def isWritable : Segment → Bool
  | name _ => true
  | other v => v.isWritable

end Segment

end SafeLookup
