import SafeLookup.Log.Console
import SafeLookup.Log.Template
import SafeLookup.Settings.Level
/-!
# Records on the console

The console shows a record as its level in brackets, its message, and the place where it was made,
in brackets as well: the last component of the path of the source file and the line. The label of a
level that can be named has a style.

A record whose template cannot be filled is not shown; the fault is handled aside. So is the lack of
a current exception when a record refers to one, but by then the record has been shown.
-/

namespace SafeLookup

/-- A record. -/
structure Record where
  level : Int
  template : String
  arguments : List Value := []
  pathname : String
  line : Int
  deriving Repr, Inhabited

/-- The exception that a record refers to: none, one that is being handled, with its text, or one
that is gone. -/
inductive Attachment where
  | none
  | live (text : String)
  | stale
  deriving DecidableEq, Repr, Inhabited

/-- A fault that is handled aside while a record is shown. -/
inductive HandledFault where
  | template (error : TemplateError)
  | noCurrentException
  deriving DecidableEq, Repr, Inhabited

/-- A styled part of a text, from its first character up to its last one, the latter excluded. -/
structure Span where
  start : Nat
  stop : Nat
  style : String
  deriving DecidableEq, Repr, Inhabited

/-- What a record becomes on the console. -/
structure Shown where
  /-- The text without its place, or why there is none. -/
  body : Except TemplateError (String × List Span)
  /-- The lines that were printed, a traceback aside. -/
  printed : String
  /-- The last line of the traceback, if there is one. -/
  traceback : Option String
  handled : List HandledFault

namespace Level

/-- The style of a level's label. -/
def style? : Level → Option String
  | debug => some "dim"
  | info => some "green"
  | warning => some "yellow"
  | error => some "red"
  | critical => some "bold red"
  | notset => none

end Level

namespace Record

/-- The last component of a path that names something: empty components and single dots do not. -/
def fileName (pathname : String) : String :=
  let named := (Text.splitBy (· == '/') pathname.toList).filter fun part =>
    part != [] && part != ['.']
  String.ofList (named.getLast?.getD [])

/-- The place of a record. -/
def location (r : Record) : String := "[" ++ fileName r.pathname ++ ":" ++ toString r.line ++ "]"

/-- The label of a record's level. -/
def label (r : Record) : String := "[" ++ Level.nameOf r.level ++ "]"

/-- The styled parts of a record's text. -/
def spans (r : Record) : List Span :=
  match (Level.ofNumber? r.level).bind Level.style? with
  | some style => [⟨0, r.label.length, style⟩]
  | none => []

/-- The message of a record. -/
def message (r : Record) : Except TemplateError String := Template.fill r.template r.arguments

/-- The text of a record without its place. -/
def plain (r : Record) : Except TemplateError String :=
  r.message.map fun message => r.label ++ " " ++ Console.sanitize message

/-- The text of a record as it is printed. -/
def printed (r : Record) : Except TemplateError String :=
  r.plain.map fun plain => Console.render (plain ++ " " ++ r.location)

/-- The last line of the traceback of an exception with a text. -/
def lastTracebackLine (text : String) : String :=
  let whole := if text.isEmpty then "RuntimeError" else "RuntimeError: " ++ text
  let shown := (Console.wrappedLines whole).flatMap Text.lines
  String.ofList ((shown.filter fun line => !line.all Text.isBlank).getLast?.getD [])

/-- The first line of a text that is not blank, if there is one. -/
def firstLine? (text : String) : Option String :=
  ((Text.lines text.toList).find? fun line => !line.all Text.isBlank).map String.ofList

/-- Shows a record on the console. -/
def print (r : Record) (attachment : Attachment) : Shown :=
  match r.plain, r.printed with
  | .ok plain, .ok printed =>
    let body := .ok (plain, r.spans)
    match attachment with
    | .none => ⟨body, printed, none, []⟩
    | .live text => ⟨body, printed, some (lastTracebackLine text), []⟩
    | .stale => ⟨body, printed, none, [.noCurrentException]⟩
  | .error e, _ | _, .error e => ⟨.error e, "", none, [.template e]⟩

end Record

end SafeLookup
