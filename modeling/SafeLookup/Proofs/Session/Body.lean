import SafeLookup.Proofs.Session.Look
import SafeLookup.Proofs.Session.Run
import SafeLookup.Proofs.Session.Scope

/-!
# Code That Runs Inside a Scope

A scope is a bracket around code: it is entered, the code runs, and however the code ends, the scope
is left. The code may do anything that a session can do; it may raise, absorb what was raised, and
open scopes of its own (`Statement`). Its meaning is that of the actions of a session, one after
another, up to the first one that is refused where nothing absorbs that (`Session.exec`).

The main statement is that scopes isolate and restore (`scope_restores`). The settings that the code
finds are the defaults with the overrides, whatever they were outside, and afterwards they are what
they were outside, whatever the code has done and however it has ended.

## Proof outline

The settings that an open scope will put back stand on a stack. A statement leaves the stack as it
found it: actions do not touch it, and a scope that is entered is left again. This is shown by
induction on the code, one case for each kind of statement (`scopes_exec`). So at the end of a scope
its own settings are on top.

Putting settings back means to assign them field by field, and assignments can be refused. These are
not: the level is written as its name, and that is read as the level again
(`assignEach_entries_append`). Entering is made of assignments as well (`enter_eq_assignEach`).
-/

namespace SafeLookup

/-! ### Entering, assignment by assignment -/

/-- The assignment that an override stands for, if it is given. -/
def Overrides.given (name : String) : Value → List (String × Value)
  | .null => []
  | v => [(name, v)]

/-- The assignments that overrides stand for. -/
def Overrides.entries (o : Overrides) : List (String × Value) :=
  given Settings.traceName o.traceFailures ++ given Settings.attributeName o.attributeAccess ++
    given Settings.levelName o.logLevel

namespace Settings

/-- Overriding the flag for tracing is an assignment, if it is given. -/
theorem assignEach_given_trace (s : Settings) (v : Value) (rest : List (String × Value)) :
    s.assignEach (Overrides.given traceName v ++ rest) =
      assignEach { s with traceFailures := overriding v s.traceFailures } rest := by
  cases v <;> rfl

/-- Overriding the flag for attributes is an assignment, if it is given. -/
theorem assignEach_given_attribute (s : Settings) (v : Value) (rest : List (String × Value)) :
    s.assignEach (Overrides.given attributeName v ++ rest) =
      assignEach { s with attributeAccess := overriding v s.attributeAccess } rest := by
  cases v <;> rfl

/-- Assigning the level alone. -/
theorem assignEach_level (s : Settings) (v : Value) :
    s.assignEach [(levelName, v)] =
      match readLevel levelName v .warning with
      | .ok level => ({ s with logLevel := level }, none)
      | .error e => (s, some e) := by
  rw [assignEach, assign_level]
  cases readLevel levelName v .warning <;> rfl

/-- Overriding the default level is an assignment, if it is given. -/
theorem assignEach_given_level {s : Settings} (h : s.logLevel = .warning) (v : Value) :
    s.assignEach (Overrides.given levelName v) =
      match readLevel levelName v .warning with
      | .ok level => ({ s with logLevel := level }, none)
      | .error e => (s, some e) := by
  cases v with
  | null =>
      obtain ⟨trace, attributes, level⟩ := s
      obtain rfl : level = .warning := h
      rfl
  | _ => exact assignEach_level s _

/-- **Entering a scope is a series of assignments**: whatever the settings are, they are reset field
by field, and then the overrides that are given are assigned, up to the first that is refused. -/
theorem enter_eq_assignEach (o : Overrides) (s : Settings) :
    enter o = s.assignEach (({} : Settings).entries ++ o.entries) := by
  rw [assignEach_entries_append, Overrides.entries, List.append_assoc, assignEach_given_trace,
    assignEach_given_attribute, assignEach_given_level rfl]
  rfl

end Settings

/-! ### Code -/

/-- Whether an action opens or closes a scope. -/
def Action.isScoping : Action → Bool
  | .enter _ | .leave => true
  | _ => false

/-- What ends code early: an action that is refused, or something that the code raises on its own
account. -/
inductive Halt where
  | refused (refusal : Refusal)
  | raised (raised : Raised)
  deriving Repr, Inhabited

/-- **A statement of code that runs in a session.** Scopes are opened and closed by blocks only, so
they are properly nested. -/
inductive Statement where
  /-- An action that neither opens nor closes a scope. -/
  | act (action : Action) (plain : action.isScoping = false)
  | raise (raised : Raised)
  /-- A block that absorbs some of what ends it early. -/
  | attempt (absorbs : Halt → Bool) (body : List Statement)
  /-- A block inside a scope of its own. -/
  | scope (overrides : List (String × Value)) (body : List Statement)

namespace Session

mutual

/-- Runs a statement: the session afterwards, and what the statement was ended by, if it did not
come to its end. A scope is left in either case. -/
def exec (s : Session) : Statement → Session × Option Halt
  | .act action _ =>
    let (s, outcome) := s.perform action
    match outcome.result with
    | .ok _ => (s, none)
    | .error refusal => (s, some (.refused refusal))
  | .raise raised => (s, some (.raised raised))
  | .attempt absorbs body =>
    let (s, halt?) := execAll s body
    (s, halt?.filter fun halt => !absorbs halt)
  | .scope overrides body =>
    match s.enter overrides with
    | (s, some e) => (s, some (.refused (.setting e)))
    | (s, none) =>
      let (s, halt?) := execAll s body
      match s.leave? with
      | some s => (s, halt?)
      | none => (s, some (.refused .noScope))

/-- Runs statements one after another, up to the first that does not come to its end. -/
def execAll (s : Session) : List Statement → Session × Option Halt
  | [] => (s, none)
  | statement :: rest =>
    match exec s statement with
    | (s, none) => execAll s rest
    | (s, some halt) => (s, some halt)

end

variable {s : Session} {overrides : List (String × Value)}

/-! ### The stack of open scopes -/

/-- A lookup leaves the open scopes alone. -/
theorem scopes_look (s : Session) (q : Query) (fallback : Value) :
    (s.look q fallback).1.scopes = s.scopes := by
  rcases look_fst s q fallback with h | h
  · rw [h]
  · rw [h]

/-- An action leaves the open scopes alone, unless it opens or closes one. -/
theorem scopes_perform {action : Action} (plain : action.isScoping = false) :
    (s.perform action).1.scopes = s.scopes := by
  cases action with
  | look query fallback => exact scopes_look s query fallback
  | assign name v => rw [perform_assign_fst]
  | inspect | configure threshold | obtainLogger | dropHandlers => rfl
  | enter overrides => cases plain
  | leave => cases plain

/-- A scope that is entered has overrides with known names, and its level is read. -/
theorem exists_enter_of_accepted (h : (s.enter overrides).2 = none) :
    ∃ o level, Overrides.ofFields overrides = .ok o ∧
      Settings.readLevel Settings.levelName o.logLevel .warning = .ok level ∧
      s.enter overrides =
        ({ s with
            settings := { Settings.withFlags o with logLevel := level }
            scopes := s.settings :: s.scopes }, none) := by
  rcases enter_cases s overrides with
    ⟨name, -, henter⟩ | ⟨o, refused, -, -, henter⟩ | haccepted
  · rw [henter] at h
    cases h
  · rw [henter] at h
    cases h
  · exact haccepted

/-- A scope that is entered goes on top of the open ones, with the settings to put back. -/
theorem scopes_enter_of_accepted (h : (s.enter overrides).2 = none) :
    (s.enter overrides).1.scopes = s.settings :: s.scopes := by
  obtain ⟨o, level, -, -, henter⟩ := exists_enter_of_accepted h
  rw [henter]

/-- A scope that is not entered leaves the open ones alone. -/
theorem scopes_enter_of_refused {e : SettingError} (h : (s.enter overrides).2 = some e) :
    (s.enter overrides).1.scopes = s.scopes := by
  rcases enter_cases s overrides with
    ⟨name, -, henter⟩ | ⟨o, refused, -, -, henter⟩ | ⟨o, level, -, -, henter⟩
  · rw [henter]
  · rw [henter]
  · rw [henter] at h
    cases h

/-- The innermost scope is left by putting its settings back. -/
theorem leave?_of_scopes {c : Settings} {rest : List Settings} (h : s.scopes = c :: rest) :
    s.leave? = some { s with settings := c, scopes := rest } := by
  rw [leave?, h]

/-! ### Blocks -/

/-- A scope that is not entered does not run its code. -/
theorem exec_scope_of_refused {e : SettingError} (h : (s.enter overrides).2 = some e)
    (body : List Statement) :
    s.exec (.scope overrides body) = ((s.enter overrides).1, some (.refused (.setting e))) := by
  rw [exec]
  split
  next t e' henter =>
    rw [henter] at h ⊢
    obtain rfl : e' = e := Option.some.inj h
    rfl
  next t henter =>
    rw [henter] at h
    cases h

/-- A scope whose code leaves the stack as it found it ends as the code does, and puts the settings
back. -/
theorem exec_scope_of_scopes {body : List Statement} (h : (s.enter overrides).2 = none)
    (hscopes : ((s.enter overrides).1.execAll body).1.scopes = (s.enter overrides).1.scopes) :
    s.exec (.scope overrides body) =
      ({ ((s.enter overrides).1.execAll body).1 with settings := s.settings, scopes := s.scopes },
        ((s.enter overrides).1.execAll body).2) := by
  have hleave := leave?_of_scopes (hscopes.trans (scopes_enter_of_accepted h))
  rw [exec]
  split
  next t e henter =>
    rw [henter] at h
    cases h
  next t henter =>
    rw [henter] at hleave ⊢
    dsimp only at hleave ⊢
    rw [hleave]

mutual

/-- **A statement leaves the stack of open scopes as it found it.** -/
theorem scopes_exec (s : Session) : (statement : Statement) →
    (s.exec statement).1.scopes = s.scopes
  | .act action plain => by
      have hperform := scopes_perform (s := s) plain
      rw [exec]
      dsimp only
      split
      · exact hperform
      · exact hperform
  | .raise raised => by rw [exec]
  | .attempt absorbs body => by
      rw [exec]
      exact scopes_execAll s body
  | .scope overrides body => by
      -- The body keeps the stack on which its scope is on top, so leaving takes off that one.
      cases h : (s.enter overrides).2 with
      | none => rw [exec_scope_of_scopes h (scopes_execAll _ body)]
      | some e =>
          rw [exec_scope_of_refused h]
          exact scopes_enter_of_refused h

/-- Statements leave the stack of open scopes as they found it. -/
theorem scopes_execAll (s : Session) : (statements : List Statement) →
    (s.execAll statements).1.scopes = s.scopes
  | [] => by rw [execAll]
  | statement :: rest => by
      have hfirst := scopes_exec s statement
      rw [execAll]
      split
      next t h =>
        rw [h] at hfirst
        exact (scopes_execAll t rest).trans hfirst
      next t halt h => rwa [h] at hfirst

end

/-- **Scopes isolate and restore.** Let a scope be entered with some overrides, and let any code run
in it. Then

* the settings that the code finds are the defaults with the overrides, the level being the one that
  is read from its override. They are the same whatever the settings outside are: resetting those
  and overriding them, assignment by assignment, always comes to this;
* afterwards the settings and the open scopes are what they were outside, whatever the code did and
  whether or not it came to its end, and what ended it early is passed on;
* putting the settings back, assignment by assignment, is not refused. -/
theorem scope_restores (haccepted : (s.enter overrides).2 = none) (body : List Statement) :
    (∃ o level, Overrides.ofFields overrides = .ok o ∧
      Settings.ReadsAs o.logLevel .warning level ∧
      (s.enter overrides).1.settings =
        ⟨Settings.overriding o.traceFailures (.bool false),
          Settings.overriding o.attributeAccess (.bool true), level⟩ ∧
      (∀ s' : Session, (s'.enter overrides).2 = none ∧
        (s'.enter overrides).1.settings = (s.enter overrides).1.settings) ∧
      ∀ c : Settings, c.assignEach (({} : Settings).entries ++ o.entries) =
        ((s.enter overrides).1.settings, none)) ∧
    (s.exec (.scope overrides body)).1.settings = s.settings ∧
    (s.exec (.scope overrides body)).1.scopes = s.scopes ∧
    (s.exec (.scope overrides body)).2 = ((s.enter overrides).1.execAll body).2 ∧
    ((s.enter overrides).1.execAll body).1.settings.assignEach s.settings.entries =
      (s.settings, none) := by
  have hexec := exec_scope_of_scopes haccepted (scopes_execAll _ body)
  refine ⟨?_, by rw [hexec], by rw [hexec], by rw [hexec], ?_⟩
  · obtain ⟨o, level, hfields, hlevel, henter⟩ := exists_enter_of_accepted haccepted
    have hscope : Settings.enter o = ({ Settings.withFlags o with logLevel := level }, none) := by
      rw [Settings.enter, hlevel]
    refine ⟨o, level, hfields, Settings.readLevel_eq_ok_iff.mp hlevel, ?_, fun s' => ?_,
      fun c => ?_⟩
    · rw [henter]
      rfl
    · have henter' : s'.enter overrides =
          ({ s' with
              settings := { Settings.withFlags o with logLevel := level }
              scopes := s'.settings :: s'.scopes }, none) := by
        simp only [enter, hfields, hscope]
      rw [henter, henter']
      exact ⟨rfl, rfl⟩
    · rw [← Settings.enter_eq_assignEach, hscope, henter]
  · have hentries := Settings.assignEach_entries_append
      ((s.enter overrides).1.execAll body).1.settings s.settings []
    rwa [List.append_nil] at hentries

/-- Flags that are no truth values outside, an assignment and a scope inside that are refused, and a
scope inside whose code raises: the settings are put back twice, and what was raised is passed
on. -/
theorem scope_restores_nested :
    let s : Session := { settings := ⟨.int 2, .text "", .debug⟩ }
    let overrides : List (String × Value) :=
      [("log_level", .text " error "), ("trace_failures", .bool true)]
    let body : List Statement :=
      [.attempt (fun _ => true) [.act (.assign "log_level" (.text "chatty")) rfl],
        .attempt (fun _ => true) [.scope [("log_level", .text "LOUD")] []],
        .scope [("attribute_access", .bool false)] [.raise (.fault (.other "ValueError"))],
        .act (.configure (.text "DEBUG")) rfl]
    (s.enter overrides).2 = none ∧
      (s.enter overrides).1.settings = ⟨.bool true, .bool true, .error⟩ ∧
      (s.exec (.scope overrides body)).1.settings = ⟨.int 2, .text "", .debug⟩ ∧
      (s.exec (.scope overrides body)).2 = some (.raised (.fault (.other "ValueError"))) := by
  intro s overrides body
  have haccepted : (s.enter overrides).2 = none := rfl
  obtain ⟨-, hsettings, -, hhalt, -⟩ := scope_restores haccepted body
  exact ⟨haccepted, rfl, hsettings, hhalt⟩

end Session

end SafeLookup
