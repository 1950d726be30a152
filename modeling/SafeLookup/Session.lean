import SafeLookup.Accessor
import SafeLookup.Log.Logger
import SafeLookup.Settings.Basic
/-!
# Sessions

The state that outlives a lookup: the settings, the logger, and the settings that each open scope
will put back, the innermost first. `Session.perform` carries out one action and says what it
answers and what it reports on the way.

A lookup changes nothing but the logger, and that only when a failure is traced. Tracing stands
outside of what a lookup guards: what the flag raises when it is asked, or a handler when it is
handed a report, leaves the lookup in place of its answer. The reports up to then are made all the
same.

An action that is refused may have got half of its way; what it has changed by then stays changed.
-/

namespace SafeLookup

/-- The state that outlives a lookup. -/
structure Session where
  settings : Settings := {}
  logger : Logger := {}
  scopes : List Settings := []
  deriving Repr, Inhabited

/-- A lookup that is asked for in a session. -/
inductive Query where
  | path (root path : Value)
  | segments (root segments : Value)
  | first (root paths : Value)
  | accessor (a : Accessor)
  deriving Repr

namespace Query

/-- The lookup that answers a query, where `attributes` admits the attributes of objects. -/
def lookup (attributes : Admission) : Query → Lookup
  | path root p => root.lookup attributes p
  | segments root ss => root.walkAlong attributes ss
  | first root ps => root.firstAmong attributes ps
  | accessor a => a.lookup attributes

end Query

/-- What a session can be asked to do. -/
inductive Action where
  | look (query : Query) (fallback : Value)
  | assign (name : String) (value : Value)
  | inspect
  | configure (threshold : Value)
  | obtainLogger
  | dropHandlers
  | enter (overrides : List (String × Value))
  | leave
  deriving Repr

/-- Why an action is refused. -/
inductive Refusal where
  | setting (error : SettingError)
  | threshold (error : ThresholdError)
  | escape (escape : Escape)
  | noScope
  deriving Repr, Inhabited

/-- What a lookup finds: a value, and whether it was hit. -/
structure Found where
  value : Value
  isHit : Bool
  deriving Repr, Inhabited

/-- The answer to a query: what was found or what left the lookup, and the reports on the way. -/
structure Answer where
  result : Except Escape Found
  reports : List Report

/-- The answer to an action: what a lookup found, if there was one, or why the action was refused,
and the reports on the way. -/
structure Outcome where
  result : Except Refusal (Option Found)
  reports : List Report := []

namespace Session

/-- Traces the records of a lookup: the session afterwards, and what was reported. Whether to trace
is asked only if there is a record. -/
def trace (s : Session) (records : List Miss) : Session × Reported :=
  if records.isEmpty then (s, {})
  else
    match s.settings.traces with
    | .error raised => (s, ⟨[], some (.ofRaised raised)⟩)
    | .ok false => (s, {})
    | .ok true =>
      let (logger, reported) := s.logger.reportAll records
      ({ s with logger }, reported)

/-- Answers a query: the session afterwards, and the answer. What escapes from the tracing counts
before the way in which the lookup ends, for each record is traced as soon as there is one. -/
def look (s : Session) (query : Query) (fallback : Value) : Session × Answer :=
  let found := query.lookup s.settings.admitsAttributes
  let (s, traced) := s.trace found.records
  let result :=
    match traced.escape? with
    | some e => .error e
    | none => (found.ending.orElse fallback).map (⟨·, found.ending.isHit⟩)
  (s, ⟨result, traced.reports⟩)

/-- Assigns a setting. -/
def assign (s : Session) (name : String) (v : Value) : Session × Option SettingError :=
  match s.settings.assign name v with
  | .ok settings => ({ s with settings }, none)
  | .error e => (s, some e)

/-- Configures the logger. -/
def configure (s : Session) (threshold : Value) : Session × Option ThresholdError :=
  let (logger, refused) := s.logger.configure s.settings.logLevel threshold
  ({ s with logger }, refused)

/-- Enters a scope. Overrides with an unknown name change nothing. -/
def enter (s : Session) (overrides : List (String × Value)) : Session × Option SettingError :=
  match Overrides.ofFields overrides with
  | .error e => (s, some e)
  | .ok o =>
    match Settings.enter o with
    | (settings, none) => ({ s with settings, scopes := s.settings :: s.scopes }, none)
    | (settings, some e) => ({ s with settings }, some e)

/-- Leaves the innermost scope, if there is one, and puts the settings back. -/
def leave? (s : Session) : Option Session :=
  match s.scopes with
  | [] => none
  | settings :: scopes => some { s with settings, scopes }

/-- The answer to an action that finds nothing: whether it was refused. -/
def done : Option Refusal → Outcome
  | none => ⟨.ok none, []⟩
  | some refusal => ⟨.error refusal, []⟩

/-- Carries out an action: the session afterwards, and the answer. -/
def perform (s : Session) : Action → Session × Outcome
  | .look query fallback =>
    let (s, answer) := s.look query fallback
    (s, ⟨(answer.result.map some).mapError .escape, answer.reports⟩)
  | .assign name v =>
    let (s, refused) := s.assign name v
    (s, done (refused.map .setting))
  | .inspect => (s, done none)
  | .configure threshold =>
    let (s, refused) := s.configure threshold
    (s, done (refused.map .threshold))
  | .obtainLogger => ({ s with logger := s.logger.obtain }, done none)
  | .dropHandlers => ({ s with logger := { s.logger with handlers := [] } }, done none)
  | .enter overrides =>
    let (s, refused) := s.enter overrides
    (s, done (refused.map .setting))
  | .leave =>
    match s.leave? with
    | some s => (s, done none)
    | none => (s, done (some .noScope))

/-- The session in which single lookups are made: records for debugging are reported, to nobody. -/
def forLookups (trace attributes : Value) : Session where
  settings := { traceFailures := trace, attributeAccess := attributes }
  logger := { threshold := .number Level.debug.number }

end Session

end SafeLookup
