import SafeLookup.Log.Console
import SafeLookup.Lookup
import SafeLookup.Settings.Level
/-!
# The logger

A logger has a threshold and a list of handlers. It reports a record whose level reaches the
threshold in force; a threshold of zero leaves that to the surroundings, where it is a warning. A
logger without handlers gets a silent one as soon as it is asked for, so no report falls through.

A report goes to the handlers one after another. The silent handler and the console handler deal
with everything that goes wrong on their side, but a handler that a program attached on its own
account may raise. What it raises ends the round, and with it everything that was to be reported
afterwards.

Configuring attaches the console handler, once, and sets the threshold. The handler comes first: it
is attached even if the threshold is refused.
-/

namespace SafeLookup

/-- What a logger hands its reports to. -/
inductive Handler where
  | silent
  | console
  /-- A handler of another kind, with what it raises when it is handed a report. -/
  | foreign (kind : String) (raises : Option Raised)
  deriving DecidableEq, Repr, Inhabited

/-- A threshold. A truth value is the number one or zero. -/
inductive Threshold where
  | number (n : Int)
  | flag (b : Bool)
  deriving DecidableEq, Repr, Inhabited

namespace Threshold

/-- The number of a threshold. -/
def toInt : Threshold → Int
  | number n => n
  | flag b => if b then 1 else 0

/-- The names of thresholds, with two names for the one of a warning and of a critical state. -/
def ofName? : String → Option Threshold
  | "FATAL" => some (number Level.critical.number)
  | "WARN" => some (number Level.warning.number)
  | name => (Level.ofName? name).map fun level => number level.number

end Threshold

/-- Why a threshold is refused. -/
inductive ThresholdError where
  | unknownName (name : String)
  | noLevel (v : Value)
  | tooManyDigits
  deriving Repr, Inhabited, BEq

namespace ThresholdError

/-- The message of a refusal. -/
def message : ThresholdError → String
  | unknownName name => "Unknown level: " ++ Text.quote name
  | noLevel v => "Level not an integer or a valid string: " ++ v.toText
  | tooManyDigits => Path.tooLongMessage

end ThresholdError

namespace Threshold

/-- The threshold that a value stands for: a number, or a name letter for letter. -/
def ofValue (v : Value) : Except ThresholdError Threshold :=
  match v.core with
  | .int n => .ok (number n)
  | .bool b => .ok (flag b)
  | .text name =>
    match ofName? name with
    | some t => .ok t
    | none => .error (.unknownName name)
  | _ => .error (if v.hasText then .noLevel v else .tooManyDigits)

end Threshold

/-- A report of a logger: its message, the fault behind it if there is one, and how often the
console printed it. -/
structure Report where
  message : String
  fault? : Option Fault
  printed : Nat
  deriving Repr, Inhabited, BEq

namespace Report

/-- A report as the console shows it: its level and its message, without control codes. -/
def line (r : Report) : String := "[" ++ Level.debug.name ++ "] " ++ Console.sanitize r.message

/-- The lines that the console printed of a report. -/
def lines (r : Report) : List String := List.replicate r.printed r.line

end Report

/-- What reporting comes to: the reports, in order, and what ended it before its time. -/
structure Reported where
  reports : List Report := []
  escape? : Option Escape := none
  deriving Repr, Inhabited

/-- A logger. -/
structure Logger where
  threshold : Threshold := .number 0
  handlers : List Handler := [.silent]
  deriving Repr, Inhabited, BEq

namespace Logger

/-- The name of the logger. -/
def name : String := "fallback_value"

/-- The threshold of the surroundings. -/
def inherited : Int := Level.warning.number

/-- The threshold in force. -/
def effective (l : Logger) : Int :=
  if l.threshold.toInt = 0 then inherited else l.threshold.toInt

/-- Whether records of a level are reported. -/
def isEnabled (l : Logger) (level : Level) : Bool := l.effective ≤ level.number

/-- The logger as it is handed out: with a silent handler if it had none. -/
def obtain (l : Logger) : Logger :=
  if l.handlers.isEmpty then { l with handlers := [.silent] } else l

/-- Attaches the console handler unless it is attached. -/
def attachConsole (l : Logger) : Logger :=
  if l.handlers.contains .console then l else { l with handlers := l.handlers ++ [.console] }

/-- Configures the logger: the logger afterwards, and why the threshold was refused, if it was.
A threshold of `null` stands for that of the setting. -/
def configure (l : Logger) (setting : Level) (threshold : Value) : Logger × Option ThresholdError :=
  let attached := l.obtain.attachConsole
  match threshold with
  | .null => ({ attached with threshold := .number setting.number }, none)
  | v =>
    match Threshold.ofValue v with
    | .ok t => ({ attached with threshold := t }, none)
    | .error e => (attached, some e)

/-- Hands a report to handlers one after another: how often the console printed it, and what the
first handler that raises raised. -/
def handOver : List Handler → Nat × Option Raised
  | [] => (0, none)
  | .silent :: rest => handOver rest
  | .console :: rest => let (printed, raised?) := handOver rest; (printed + 1, raised?)
  | .foreign _ none :: rest => handOver rest
  | .foreign _ (some raised) :: _ => (0, some raised)

/-- Reports a record of a failed lookup, if records for debugging are reported. A record that cannot
be written is no report. -/
def report (l : Logger) (m : Miss) : Logger × Reported :=
  let l := l.obtain
  if !l.isEnabled .debug then (l, {})
  else if !m.isWritable then (l, ⟨[], some (.fault .tooManyDigits)⟩)
  else
    let (printed, raised?) := handOver l.handlers
    (l, ⟨[⟨m.message, m.reason.fault?, printed⟩], raised?.map .ofRaised⟩)

/-- Reports records one after another, up to the first one that something escapes from. -/
def reportAll (l : Logger) : List Miss → Logger × Reported
  | [] => (l, {})
  | m :: rest =>
    let (l, first) := l.report m
    match first.escape? with
    | some _ => (l, first)
    | none =>
      let (l, others) := l.reportAll rest
      (l, ⟨first.reports ++ others.reports, others.escape?⟩)

end Logger

end SafeLookup
