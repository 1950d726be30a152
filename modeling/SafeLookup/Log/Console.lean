import SafeLookup.Text.Basic
import SafeLookup.Text.Cells
/-!
# The layout of the console

The console shows text line by line. It drops the control codes that ring, go back or feed, and
fills a tab up to the next column that is a multiple of eight. The lines of a record are left as
they are, however long; those of a traceback are wrapped.

A line that is wider than the console is broken between words. A word takes the white space behind
it along, which may hang over the edge and is cut off there. A word that is wider than the console
by itself starts on a line of its own and is broken wherever the edge comes.
-/

namespace SafeLookup.Console

/-! ### Wrapped lines -/

/-- A text without the white space at its end. -/
def trimEnd (cs : List Char) : List Char := (cs.reverse.dropWhile Text.isBlank).reverse

/-- How many columns a text takes. -/
def columnsOf : List Char → Nat
  | [] => 0
  | c :: rest => Text.columns c + columnsOf rest

/-- The words of a line, each with the white space behind it. White space at the start of a line
belongs to the first word. -/
def words (line : List Char) : List (List Char) :=
  match line.splitBy fun c next => !Text.isBlank c || Text.isBlank next with
  | blanks :: word :: rest =>
    if blanks.all Text.isBlank then (blanks ++ word) :: rest else blanks :: word :: rest
  | pieces => pieces

/-- Breaks a text wherever the edge comes, where `read` is the line so far in reverse. -/
def foldAt (width : Nat) (read : List Char) : List Char → List (List Char)
  | [] => [read.reverse]
  | c :: rest =>
    if width < columnsOf read + Text.columns c then read.reverse :: foldAt width [c] rest
    else foldAt width (c :: read) rest

/-- Sets words one after another, where `line` is the line so far. -/
def setWords (width : Nat) (line : List Char) : List (List Char) → List (List Char)
  | [] => [line]
  | word :: rest =>
    let needed := columnsOf (trimEnd word)
    if columnsOf line + needed ≤ width then setWords width (line ++ word) rest
    else if needed ≤ width then line :: setWords width word rest
    else
      let folded := foldAt width [] word
      let full := if line.isEmpty then folded.dropLast else line :: folded.dropLast
      full ++ setWords width (folded.getLast?.getD []) rest

/-- Cuts off what hangs over the edge. A wide character that is cut through leaves a blank. -/
def cutAt (width : Nat) (column : Nat) : List Char → List Char
  | [] => []
  | c :: rest =>
    if width < column + Text.columns c then List.replicate (width - column) ' '
    else c :: cutAt width (column + Text.columns c) rest

/-- A line with the white space at its end cut back, as far as the line has too many characters. -/
def cutBlanks (width : Nat) (line : List Char) : List Char :=
  line.take (max (trimEnd line).length (min width line.length))

/-- The lines into which a line is wrapped. -/
def wrap (width : Nat) (line : List Char) : List (List Char) :=
  (setWords width [] (words line)).map fun part => cutAt width 0 (cutBlanks width part)

/-! ### Text on the console -/

/-- The width of the console. -/
def width : Nat := 200

/-- The distance between two tab stops. -/
def tabSize : Nat := 8

/-- Whether the console drops a character: the bell, the backspace, the vertical tab, the form feed
and the carriage return. -/
def isDropped (c : Char) : Bool := [7, 8, 11, 12, 13].contains c.toNat

/-- The text that the console is given to show. -/
def sanitize (s : String) : String := String.ofList (s.toList.filter fun c => !isDropped c)

/-- Replaces the tabs of a line that starts in a column. -/
def expandTabs (column : Nat) : List Char → List Char
  | [] => []
  | c :: rest =>
    if c = '\t' then
      let blanks := tabSize - column % tabSize
      List.replicate blanks ' ' ++ expandTabs (column + blanks) rest
    else if c = '\n' then c :: expandTabs 0 rest
    else c :: expandTabs (column + Text.columns c) rest

/-- A text as the console shows it, with a line end behind it. -/
def render (s : String) : String := String.ofList (expandTabs 0 (sanitize s).toList) ++ "\n"

/-- The lines of a text that the console wraps. -/
def wrappedLines (s : String) : List (List Char) :=
  (Text.splitBy (· == '\n') (sanitize s).toList).flatMap fun line =>
    wrap width (expandTabs 0 line)

end SafeLookup.Console
