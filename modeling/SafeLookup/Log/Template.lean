import SafeLookup.Container
import SafeLookup.Number.Quantity
import SafeLookup.Value.Contents
import SafeLookup.Value.Display
/-!
# Message templates

A template is a text with fields. A field starts with a percent sign and ends with the letter of its
conversion; in between it may name a key in parentheses, and give flags, a least width, a precision
and a size letter, which has no effect. Two percent signs stand for one.

Fields take the arguments one after another, and the arguments must come out even. If the only
argument is a mapping, fields may also name its keys, and arguments may be left over.

`Template.pieces` reads a template, structurally in its text. `Template.fill` puts arguments in and
fails at the first field that cannot be filled, so of two faults the one further left counts.
-/

namespace SafeLookup

/-- Why a template cannot be filled. -/
inductive TemplateError where
  | tooFewArguments
  | tooManyArguments
  | wrongKind
  | needsMapping
  | incomplete
  | unknownConversion (c : Char)
  | notFinite
  | outOfRange
  | tooManyDigits
  | tooWide
  | raised (raised : Raised)
  deriving DecidableEq, Repr, Inhabited

namespace Template

/-- A width or a precision: none, a number, or the next argument. -/
inductive Count where
  | absent
  | number (n : Nat)
  | argument
  deriving DecidableEq, Repr, Inhabited

/-- The flags of a field. -/
structure Flags where
  left : Bool := false
  plus : Bool := false
  blank : Bool := false
  alternate : Bool := false
  zero : Bool := false
  deriving DecidableEq, Repr, Inhabited

/-- A field. Without a conversion the template ended inside it. -/
structure Field where
  key : Option (List Char) := none
  flags : Flags := {}
  width : Count := .absent
  precision : Count := .absent
  conversion : Option Char := none
  deriving DecidableEq, Repr, Inhabited

/-- A piece of a template. -/
inductive Piece where
  | char (c : Char)
  | field (f : Field)
  /-- A key whose parenthesis is not closed. -/
  | openKey
  deriving DecidableEq, Repr, Inhabited

/-! ### Reading -/

/-- Where the reader stands. -/
inductive Stage where
  | text
  /-- Behind the percent sign. -/
  | start
  /-- Inside a key, so many parentheses deep, with its characters in reverse. -/
  | key (depth : Nat) (read : List Char)
  | flags
  | width
  | widthDone
  | point
  | precision
  | precisionDone
  | sizeDone
  deriving DecidableEq, Repr, Inhabited

/-- What one character does to the reader: it leads on inside a field, or it ends the field. -/
inductive Move where
  | stay (stage : Stage) (field : Field)
  | finish (field : Field)
  deriving DecidableEq, Repr

/-- A flag. -/
def flag? (flags : Flags) : Char → Option Flags
  | '-' => some { flags with left := true }
  | '+' => some { flags with plus := true }
  | ' ' => some { flags with blank := true }
  | '#' => some { flags with alternate := true }
  | '0' => some { flags with zero := true }
  | _ => none

/-- One more digit of a number. -/
def pushDigit (count : Count) (c : Char) : Count :=
  match count with
  | .number n => .number (10 * n + (c.toNat - 48))
  | _ => .number (c.toNat - 48)

/-- A character where only the conversion can follow. -/
def moveConversion (f : Field) (c : Char) : Move := .finish { f with conversion := some c }

/-- A character where a size letter can follow. -/
def moveSize (f : Field) (c : Char) : Move :=
  if c = 'h' ∨ c = 'l' ∨ c = 'L' then .stay .sizeDone f else moveConversion f c

/-- A character where a point can follow. -/
def movePoint (f : Field) (c : Char) : Move :=
  if c = '.' then .stay .point { f with precision := .number 0 } else moveSize f c

/-- A character where a width can follow. -/
def moveWidth (f : Field) (c : Char) : Move :=
  if c = '*' then .stay .widthDone { f with width := .argument }
  else if c.isDigit then .stay .width { f with width := pushDigit .absent c }
  else movePoint f c

/-- A character where a flag can follow. -/
def moveFlag (f : Field) (c : Char) : Move :=
  match flag? f.flags c with
  | some flags => .stay .flags { f with flags }
  | none => moveWidth f c

/-- What a character does at a stage inside a field. -/
def move (stage : Stage) (f : Field) (c : Char) : Move :=
  match stage with
  | .text | .start => if c = '(' then .stay (.key 0 []) f else moveFlag f c
  | .key depth read =>
    if c = '(' then .stay (.key (depth + 1) (c :: read)) f
    else if c = ')' then
      if depth = 0 then .stay .flags { f with key := some read.reverse }
      else .stay (.key (depth - 1) (c :: read)) f
    else .stay (.key depth (c :: read)) f
  | .flags => moveFlag f c
  | .width =>
    if c.isDigit then .stay .width { f with width := pushDigit f.width c } else movePoint f c
  | .widthDone => movePoint f c
  | .point =>
    if c = '*' then .stay .precisionDone { f with precision := .argument }
    else if c.isDigit then .stay .precision { f with precision := pushDigit .absent c }
    else moveSize f c
  | .precision =>
    if c.isDigit then .stay .precision { f with precision := pushDigit f.precision c }
    else moveSize f c
  | .precisionDone => moveSize f c
  | .sizeDone => moveConversion f c

/-- The pieces of the rest of a template. -/
def piecesFrom (stage : Stage) (f : Field) : List Char → List Piece
  | [] =>
    match stage with
    | .text => []
    | .key _ _ => [.openKey]
    | _ => [.field f]
  | c :: rest =>
    if stage = .text then
      if c = '%' then piecesFrom .start {} rest else .char c :: piecesFrom .text {} rest
    else if stage = .start ∧ c = '%' then .char c :: piecesFrom .text {} rest
    else
      match move stage f c with
      | .stay stage f => piecesFrom stage f rest
      | .finish f => .field f :: piecesFrom .text {} rest

/-- The pieces of a template. -/
def pieces (template : List Char) : List Piece := piecesFrom .text {} template

/-! ### Conversions -/

/-- Fills a text up to a width. -/
def pad (f : Flags) (width : Nat) (cs : List Char) : List Char :=
  let fill := List.replicate (width - cs.length) ' '
  if f.left then cs ++ fill else fill ++ cs

/-- The sign of a number. -/
def signText (f : Flags) (negative : Bool) : List Char :=
  if negative then ['-'] else if f.plus then ['+'] else if f.blank then [' '] else []

/-- Fills a number up to a width: with zeros behind the sign on demand, else with blanks. -/
def padNumber (f : Flags) (width : Nat) (sign digits : List Char) : List Char :=
  if f.zero && !f.left then
    sign ++ List.replicate (width - sign.length - digits.length) '0' ++ digits
  else pad f width (sign ++ digits)

/-- The whole number that a value stands for, as far as it is one. -/
def wholeOf (v : Value) : Except TemplateError Int :=
  match v.core with
  | .int n => .ok n
  | .bool b => .ok (if b then 1 else 0)
  | _ => .error .wrongKind

/-- The whole number that is left of a value when its fraction is cut off. -/
def truncated (v : Value) : Except TemplateError Int :=
  match v.core with
  | .float t =>
    match Quantity.read t.toList with
    | .finite q => .ok (if q < 0 then -(-q).floor else q.floor)
    | .infinite _ => .error .outOfRange
    | .undefined => .error .notFinite
  | _ => wholeOf v

/-- The floating-point number that a value stands for, and whether it has a minus sign. -/
def floatOf (v : Value) : Except TemplateError (Quantity × Bool) :=
  match v.core with
  | .float t => .ok (Quantity.read t.toList, t.toList.head? = some '-')
  | _ => do
    let n ← wholeOf v
    let size := Quantity.nearestDouble n.natAbs
    if Quantity.power 2 1024 ≤ size then .error .outOfRange
    else .ok (.finite size, decide (n < 0))

/-- A whole number in a base, with at least `least` digits and the mark of the base in front. -/
def inBase (base : Nat) (mark : List Char) (f : Flags) (width least : Nat) (n : Int) :
    List Char :=
  let digits := Nat.toDigits base n.natAbs
  padNumber f width (signText f (n < 0) ++ mark)
    (List.replicate (least - digits.length) '0' ++ digits)

/-- A decimal number; it must not have too many digits. -/
def decimal (f : Flags) (width least : Nat) (n : Int) : Except TemplateError (List Char) :=
  if Path.isTooLong n.natAbs then .error .tooManyDigits
  else .ok (inBase 10 [] f width least n)

/-- A floating-point number, where `write` writes rationals that are not negative. -/
def inPlaces (write : Rat → List Char) (f : Flags) (width : Nat) (v : Value) :
    Except TemplateError (List Char) := do
  let (q, negative) ← floatOf v
  let body :=
    match q with
    | .finite q => write (if q < 0 then -q else q)
    | .infinite _ => ['i', 'n', 'f']
    | .undefined => ['n', 'a', 'n']
  return padNumber f width (signText f negative) body

/-- A single character, given by itself or by its code. -/
def characterOf (v : Value) : Except TemplateError (List Char) :=
  match v.core with
  | .text s =>
    match s.toList with
    | [c] => .ok [c]
    | _ => .error .wrongKind
  | .float _ => .error .wrongKind
  | _ => do
    let n ← wholeOf v
    if 0 ≤ n ∧ n < 0x110000 then .ok [Char.ofNat n.toNat] else .error .outOfRange

/-- The text of a value that keeps within ASCII. -/
def plainDisplay (v : Value) : List Char :=
  v.display.toList.flatMap fun c =>
    if c.toNat < 0x80 then [c] else Text.codeEscape c.toNat

/-- The text of a value in a field, if it can be written. -/
def shown (writable : Bool) (text : List Char) : Except TemplateError (List Char) :=
  if writable then .ok text else .error .tooManyDigits

/-- A text, cut off at the precision. -/
def textField (f : Flags) (width : Nat) (precision : Option Nat) (cs : List Char) : List Char :=
  pad f width (match precision with | some n => cs.take n | none => cs)

/-- Fills one field with a value. -/
def convert (c : Char) (f : Flags) (width : Nat) (precision : Option Nat) (v : Value) :
    Except TemplateError (List Char) :=
  let places := precision.getD 6
  let least := precision.getD 0
  let upper := List.map Char.toUpper
  match c with
  | 's' => shown v.hasText (textField f width precision v.toText.toList)
  | 'r' => shown v.isWritable (textField f width precision v.display.toList)
  | 'a' => shown v.isWritable (textField f width precision (plainDisplay v))
  | 'c' => (characterOf v).map (pad f width)
  | 'd' | 'i' | 'u' => truncated v >>= decimal f width least
  | 'o' => (wholeOf v).map (inBase 8 (if f.alternate then ['0', 'o'] else []) f width least)
  | 'x' => (wholeOf v).map (inBase 16 (if f.alternate then ['0', 'x'] else []) f width least)
  | 'X' =>
    (wholeOf v).map fun n =>
      upper (inBase 16 (if f.alternate then ['0', 'x'] else []) f width least n)
  | 'f' => inPlaces (Places.fixed places f.alternate) f width v
  | 'F' => (inPlaces (Places.fixed places f.alternate) f width v).map upper
  | 'e' => inPlaces (Places.scientific places f.alternate) f width v
  | 'E' => (inPlaces (Places.scientific places f.alternate) f width v).map upper
  | 'g' => inPlaces (Places.general places f.alternate) f width v
  | 'G' => (inPlaces (Places.general places f.alternate) f width v).map upper
  | c => .error (.unknownConversion c)

/-! ### Filling -/

/-- The arguments that are left, and the mapping that fields may name keys of. -/
structure Supply where
  left : List Value
  named : Option MappingView := none

/-- The arguments of a template. A single mapping that is not empty can be named into. -/
def Supply.ofArguments (arguments : List Value) : Supply :=
  match arguments with
  | [v] =>
    match v.mappingView? with
    | some view => if v.isEmptyMapping then ⟨[v], none⟩ else ⟨[v], some view⟩
    | none => ⟨[v], none⟩
  | vs => ⟨vs, none⟩

/-- Takes the next argument. -/
def Supply.next (s : Supply) : Except TemplateError (Value × Supply) :=
  match s.left with
  | [] => .error .tooFewArguments
  | v :: rest => .ok (v, { s with left := rest })

/-- Goes to a key of the mapping; what stands there is the only argument then. -/
def Supply.goTo (s : Supply) (key : List Char) : Except TemplateError Supply :=
  match s.named with
  | none => .error .needsMapping
  | some view =>
    match view.read (.name (String.ofList key)) with
    | .ok v => .ok { s with left := [v] }
    | .error raised => .error (.raised raised)

/-- The greatest width. -/
def maxWidth : Nat := Length.greatest

/-- The greatest precision. -/
def maxPrecision : Nat := Nat.pow 2 31 - 1

/-- Settles a width or a precision up to a bound, which takes an argument if it has to. -/
def Supply.count (s : Supply) (bound : Nat) : Count → Except TemplateError (Option Int × Supply)
  | .absent => .ok (none, s)
  | .number n => if bound < n then .error .tooWide else .ok (some n, s)
  | .argument => do
    let (v, s) ← s.next
    let n ← wholeOf v
    if bound < n.natAbs then .error .outOfRange else .ok (some n, s)

/-- Fills one field. -/
def fillField (s : Supply) (f : Field) : Except TemplateError (List Char × Supply) := do
  let s ← match f.key with
    | some key => s.goTo key
    | none => pure s
  let (width, s) ← s.count maxWidth f.width
  let (precision, s) ← s.count maxPrecision f.precision
  match f.conversion with
  | none => .error .incomplete
  | some c =>
    let (v, s) ← s.next
    let width := width.getD 0
    let flags := if width < 0 then { f.flags with left := true } else f.flags
    let text ← convert c flags width.natAbs (precision.map Int.toNat) v
    return (text, s)

/-- Fills the pieces of a template. -/
def fillPieces (s : Supply) : List Piece → Except TemplateError (List Char)
  | [] => if s.left.isEmpty || s.named.isSome then .ok [] else .error .tooManyArguments
  | .char c :: rest => (fillPieces s rest).map (c :: ·)
  | .openKey :: _ => if s.named.isSome then .error .incomplete else .error .needsMapping
  | .field f :: rest => do
    let (text, s) ← fillField s f
    return text ++ (← fillPieces s rest)

/-- A template with its arguments put in. Without arguments it is taken as it is. -/
def fill (template : String) (arguments : List Value) : Except TemplateError String :=
  if arguments.isEmpty then .ok template
  else
    (fillPieces (.ofArguments arguments) (pieces template.toList)).map String.ofList

end Template

end SafeLookup
