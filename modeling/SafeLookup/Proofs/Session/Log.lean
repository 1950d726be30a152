import SafeLookup.Proofs.Session.Report
import SafeLookup.Proofs.Session.Run
import SafeLookup.Proofs.Session.Scope

/-!
# The Log Along a Run

Traced lookups report to the logger, and the logger hands each report to its handlers, of which the
console handler prints it. In the course of a run the logger is configured again and again, with
success or without, and the settings that decide about tracing change. The log of a run is made of
what its actions report, one after another (`Session.log`). This module says what the log looks like
at every moment of a run that begins with a fresh logger (`Session.LogInOrder`).

* The silent handler is attached once and the console handler at most once; no handler is lost.
* The threshold is the one that the last accepted configuring asked for.
* A walk that misses makes one report or none, and when it makes one is a matter of the flag for
  tracing and the threshold alone. Nothing else makes a report.
* A report is printed once if the console handler is attached at the time, and else not at all.

## Proof outline

What an action does to the logger is said once (`logger_perform`): only configuring changes it, by
attaching the console handler and by setting the threshold if it is accepted. The statements about
handlers and about the threshold follow by induction on the run. A run that begins with a fresh
logger has no handlers but the usual ones (`Logger.HasUsualHandlers`), and these raise nothing. So a
report is printed once for each console handler (`handOver_of_hasUsualHandlers`), and a lookup along
names is left by nothing but an interruption or what the flag for tracing raises.
-/

namespace SafeLookup

namespace Session

variable {s : Session} {actions : List Action}

/-! ### What a run brings about -/

/-- What the actions of a run bring about, in order, where `f` says what one action brings about in
a session. -/
def collect {α : Type} (f : Session → Action → List α) (s : Session) : List Action → List α
  | [] => []
  | action :: rest => f s action ++ collect f (s.perform action).1 rest

/-- The threshold that an action sets: the one that configuring asks for, if it is accepted. -/
def accepted (s : Session) : Action → Option Threshold
  | .configure v => (Threshold.requested s.settings.logLevel v).toOption
  | _ => none

/-- The thresholds that a run sets, one after another. -/
def thresholds (s : Session) (actions : List Action) : List Threshold :=
  s.collect (fun t action => (t.accepted action).toList) actions

/-- **The log of a run**: the reports that its actions answer with, one after another. -/
def log (s : Session) (actions : List Action) : List Report :=
  s.collect (fun t action => (t.perform action).2.reports) actions

/-- The lines that a run prints: those of the reports in its log. -/
def lines (s : Session) (actions : List Action) : List String :=
  (s.log actions).flatMap Report.lines

/-- What a run brings about is what its two parts bring about. -/
theorem collect_append {α : Type} (f : Session → Action → List α) (s : Session)
    (before after : List Action) :
    s.collect f (before ++ after) = s.collect f before ++ (s.run before).collect f after := by
  induction before generalizing s with
  | nil => rfl
  | cons action rest ih =>
      rw [List.cons_append, collect, collect, ih, List.append_assoc]
      rfl

/-! ### One action -/

/-- **What an action does to the logger**, unless it drops the handlers: nothing, or it configures
the logger. That attaches the console handler, and it sets the threshold if it is accepted. -/
theorem logger_perform {action : Action} (hne : s.logger.handlers ≠ [])
    (hkeeps : action ≠ .dropHandlers) :
    (s.accepted action = none ∧ (s.perform action).1.logger = s.logger) ∨
      (s.perform action).1.logger =
        { s.logger.attachConsole with
          threshold := (s.accepted action).getD s.logger.threshold } := by
  have hobtain : s.logger.obtain = s.logger := Logger.obtain_of_handlers_ne_nil hne
  cases action with
  | look query fallback =>
      refine Or.inl ⟨rfl, ?_⟩
      rw [perform_look_fst]
      rcases look_fst s query fallback with h | h
      · rw [h]
      · rw [h, hobtain]
  | assign name v => exact Or.inl ⟨rfl, by rw [perform_assign_fst]⟩
  | inspect => exact Or.inl ⟨rfl, rfl⟩
  | configure v =>
      rw [perform_configure_fst, accepted]
      rcases configure_cases s v with ⟨t, hrequested, hconfigure⟩ | ⟨e, hrequested, hconfigure⟩
      · rw [hconfigure, hrequested, hobtain]
        exact Or.inr rfl
      · rw [hconfigure, hrequested, hobtain, ← Logger.threshold_attachConsole s.logger]
        exact Or.inr rfl
  | obtainLogger => exact Or.inl ⟨rfl, hobtain⟩
  | dropHandlers => exact absurd rfl hkeeps
  | enter overrides =>
      refine Or.inl ⟨rfl, ?_⟩
      rw [perform_enter_fst]
      rcases enter_cases s overrides with
        ⟨name, -, henter⟩ | ⟨o, refused, -, -, henter⟩ | ⟨o, level, -, -, henter⟩ <;>
        rw [henter]
  | leave =>
      refine Or.inl ⟨rfl, ?_⟩
      rw [perform, leave?]
      cases s.scopes <;> rfl

/-- An action sets the threshold only if it configures the logger and is accepted. -/
theorem threshold_perform {action : Action} (hne : s.logger.handlers ≠ [])
    (hkeeps : action ≠ .dropHandlers) :
    (s.perform action).1.logger.threshold = (s.accepted action).getD s.logger.threshold := by
  rcases logger_perform hne hkeeps with ⟨hnone, h⟩ | h
  · rw [h, hnone]
    rfl
  · rw [h]

/-- An action loses no handler, unless it drops them. -/
theorem handlers_prefix_perform {action : Action} (hne : s.logger.handlers ≠ [])
    (hkeeps : action ≠ .dropHandlers) :
    s.logger.handlers <+: (s.perform action).1.logger.handlers := by
  rcases logger_perform hne hkeeps with ⟨-, h⟩ | h
  · simp only [h, List.prefix_refl]
  · rw [h]
    exact Logger.handlers_prefix_attachConsole s.logger

/-- An action that sets the threshold attaches the console handler. -/
theorem console_mem_perform {action : Action} {t : Threshold} (hne : s.logger.handlers ≠ [])
    (hkeeps : action ≠ .dropHandlers) (h : s.accepted action = some t) :
    .console ∈ (s.perform action).1.logger.handlers := by
  rcases logger_perform hne hkeeps with ⟨hnone, -⟩ | hattached
  · rw [hnone] at h
    cases h
  · rw [hattached]
    exact Logger.console_mem_attachConsole s.logger

/-! ### Handlers and threshold along a run -/

/-- A run is made in two parts as well. -/
theorem run_append (s : Session) (before after : List Action) :
    s.run (before ++ after) = (s.run before).run after := by
  induction before generalizing s with
  | nil => rfl
  | cons action rest ih => exact ih (s.perform action).1

/-- **A run loses no handler**, unless it drops them. -/
theorem handlers_prefix_run (hne : s.logger.handlers ≠ []) (hkeeps : .dropHandlers ∉ actions) :
    s.logger.handlers <+: (s.run actions).logger.handlers := by
  refine run_induction (P := fun t => s.logger.handlers <+: t.logger.handlers)
    (List.prefix_refl _) fun t action hmem hbegins => ?_
  refine hbegins.trans (handlers_prefix_perform (hbegins.ne_nil hne) fun hdrop => ?_)
  exact hkeeps (hdrop ▸ hmem)

/-- After a run that configures the logger with success, the console handler is attached. -/
theorem console_mem_run (hne : s.logger.handlers ≠ []) (hkeeps : .dropHandlers ∉ actions)
    (h : s.thresholds actions ≠ []) : .console ∈ (s.run actions).logger.handlers := by
  induction actions generalizing s with
  | nil => exact absurd rfl h
  | cons action rest ih =>
      obtain ⟨hfirst, hrest⟩ := List.ne_and_not_mem_of_not_mem_cons hkeeps
      have hbegins := handlers_prefix_perform hne (Ne.symm hfirst)
      have hne' : (s.perform action).1.logger.handlers ≠ [] := hbegins.ne_nil hne
      cases haccepted : s.accepted action with
      | none =>
          rw [thresholds, collect, haccepted] at h
          exact ih hne' hrest h
      | some t =>
          -- The first action has attached it, and the others lose no handler.
          exact (handlers_prefix_run hne' hrest).subset
            (console_mem_perform hne (Ne.symm hfirst) haccepted)

/-- **The threshold after a run** is the one that was set last, if there is one. -/
theorem threshold_run (hne : s.logger.handlers ≠ []) (hkeeps : .dropHandlers ∉ actions) :
    (s.run actions).logger.threshold = (s.thresholds actions).getLastD s.logger.threshold := by
  induction actions generalizing s with
  | nil => rfl
  | cons action rest ih =>
      obtain ⟨hfirst, hrest⟩ := List.ne_and_not_mem_of_not_mem_cons hkeeps
      have hbegins := handlers_prefix_perform hne (Ne.symm hfirst)
      have hthresholds : s.thresholds (action :: rest) =
          (s.accepted action).toList ++ (s.perform action).1.thresholds rest := rfl
      rw [run, ih (hbegins.ne_nil hne) hrest, threshold_perform hne (Ne.symm hfirst), hthresholds]
      cases s.accepted action with
      | none => rfl
      | some t => exact List.getLastD_cons.symm

end Session

namespace Logger

/-- The handlers that a logger has in the course of a run: the silent one and, once it has been
attached, the console handler behind it. -/
def HasUsualHandlers (l : Logger) : Prop :=
  l.handlers = [.silent] ∨ l.handlers = [.silent, .console]

/-- There are usual handlers. -/
theorem HasUsualHandlers.ne_nil {l : Logger} (h : l.HasUsualHandlers) : l.handlers ≠ [] := by
  rcases h with h | h <;> simp [h]

/-- Among the usual handlers, the silent one is there once. -/
theorem HasUsualHandlers.count_silent {l : Logger} (h : l.HasUsualHandlers) :
    l.handlers.count .silent = 1 := by
  rcases h with h | h <;> simp [h]

/-- Among the usual handlers, the console handler is there at most once. -/
theorem HasUsualHandlers.count_console {l : Logger} (h : l.HasUsualHandlers) :
    l.handlers.count .console ≤ 1 := by
  rcases h with h | h <;> simp [h]

/-- **The usual handlers** raise nothing, and the console handler among them prints a report
once. -/
theorem handOver_of_hasUsualHandlers {l : Logger} (h : l.HasUsualHandlers) :
    handOver l.handlers = (if .console ∈ l.handlers then 1 else 0, none) := by
  rcases h with h | h
  · rw [h]
    rfl
  · rw [h]
    rfl

/-- The console handler is one of the usual handlers. -/
theorem HasUsualHandlers.attachConsole {l : Logger} (h : l.HasUsualHandlers) :
    l.attachConsole.HasUsualHandlers := by
  rcases h with h | h
  · have hnew : .console ∉ l.handlers := by simp [h]
    exact Or.inr (by rw [handlers_attachConsole_of_notMem hnew, h]; rfl)
  · have hold : .console ∈ l.handlers := by simp [h]
    exact Or.inr (by rw [attachConsole_of_mem hold, h])

end Logger

namespace Session

variable {s : Session} {actions : List Action}

/-- An action keeps to the usual handlers, unless it drops them. -/
theorem hasUsualHandlers_perform {action : Action} (h : s.logger.HasUsualHandlers)
    (hkeeps : action ≠ .dropHandlers) : (s.perform action).1.logger.HasUsualHandlers := by
  rcases logger_perform h.ne_nil hkeeps with ⟨-, hsame⟩ | hattached
  · rwa [hsame]
  · rw [hattached]
    exact h.attachConsole

/-- A run keeps to the usual handlers, unless it drops them. -/
theorem hasUsualHandlers_run (h : s.logger.HasUsualHandlers) (hkeeps : .dropHandlers ∉ actions) :
    (s.run actions).logger.HasUsualHandlers :=
  run_induction (P := fun t => t.logger.HasUsualHandlers) h fun _ _ hmem hstart =>
    hasUsualHandlers_perform hstart fun hdrop => hkeeps (hdrop ▸ hmem)

/-! ### What an action answers -/

/-- The report of a record that has been printed if the console handler is attached. -/
def reportHere (s : Session) (m : Miss) : Report :=
  ⟨m.message, m.reason.fault?, if .console ∈ s.logger.handlers then 1 else 0⟩

/-- The usual handlers print a report as the console handler does. -/
theorem reportOf_eq_reportHere (h : s.logger.HasUsualHandlers) (m : Miss) :
    s.logger.reportOf m = s.reportHere m := by
  rw [Logger.reportOf, Logger.handOver_of_hasUsualHandlers h, reportHere]

/-- With the usual handlers, tracing raises what the flag for tracing raises. -/
theorem tracingRaises?_eq_some_iff_of_hasUsualHandlers (h : s.logger.HasUsualHandlers)
    {raised : Raised} :
    s.tracingRaises? = some raised ↔ s.settings.traces = .error raised := by
  have hquiet : s.logger.raised? = none := by
    rw [Logger.raised?, ← Logger.handOver_snd, Logger.handOver_of_hasUsualHandlers h]
  rw [tracingRaises?_eq_some_iff, hquiet]
  simp

/-- Nothing but a lookup makes a report. -/
theorem reports_perform_of_ne_look {action : Action} (h : ∀ q fallback, action ≠ .look q fallback) :
    (s.perform action).2.reports = [] := by
  have hdone : ∀ refused?, (done refused?).reports = [] := by
    intro refused?
    cases refused? <;> rfl
  cases action with
  | look q fallback => exact absurd rfl (h q fallback)
  | assign name v => exact hdone _
  | inspect | obtainLogger | dropHandlers => rfl
  | configure v => exact hdone _
  | enter overrides => exact hdone _
  | leave =>
      rw [perform]
      split <;> rfl

/-- **With the usual handlers, a report is printed once** if the console handler is attached, and
else not at all. -/
theorem printed_of_mem_reports (husual : s.logger.HasUsualHandlers) {action : Action} {r : Report}
    (h : r ∈ (s.perform action).2.reports) :
    r.printed = if .console ∈ s.logger.handlers then 1 else 0 := by
  by_cases hlook : ∃ q fallback, action = .look q fallback
  · obtain ⟨q, fallback, rfl⟩ := hlook
    have htraced : r ∈ (s.trace (q.lookup s.settings.admitsAttributes).records).2.reports := h
    rw [trace] at htraced
    split at htraced
    · cases htraced
    · split at htraced
      · cases htraced
      · cases htraced
      · obtain ⟨m, -, rfl⟩ := Logger.exists_record_of_mem_reportAll htraced
        rw [reportOf_eq_reportHere husual, reportHere]
  · rw [reports_perform_of_ne_look fun q fallback heq => hlook ⟨q, fallback, heq⟩] at h
    cases h

/-! ### Lines along a run -/

/-- Reports that were printed at most once have the lines of those that were printed. -/
theorem flatMap_lines {reports : List Report} (h : ∀ r ∈ reports, r.printed ≤ 1) :
    reports.flatMap Report.lines = (reports.filter fun r => 0 < r.printed).map Report.line := by
  induction reports with
  | nil => rfl
  | cons r rest ih =>
      obtain ⟨hr, hrest⟩ := List.forall_mem_cons.mp h
      rw [List.flatMap_cons, ih hrest, Report.lines]
      rcases Nat.le_one_iff_eq_zero_or_eq_one.mp hr with hprinted | hprinted
      · simp [hprinted]
      · simp [hprinted]

/-- In the log of a run every report was printed at most once. -/
theorem printed_le_one_of_mem_log (h : s.logger.HasUsualHandlers) (hkeeps : .dropHandlers ∉ actions)
    {r : Report} (hr : r ∈ s.log actions) : r.printed ≤ 1 := by
  induction actions generalizing s with
  | nil => cases hr
  | cons action rest ih =>
      obtain ⟨hfirst, hrest⟩ := List.ne_and_not_mem_of_not_mem_cons hkeeps
      rcases List.mem_append.mp hr with hr | hr
      · rw [printed_of_mem_reports h hr]
        split <;> decide
      · exact ih (hasUsualHandlers_perform h (Ne.symm hfirst)) hrest hr

/-! ### The log after a run -/

/-- Configuring the logger is accepted just if it sets the threshold. -/
theorem configure_accepted_iff (s : Session) (v : Value) :
    (s.configure v).2 = none ↔ (s.accepted (.configure v)).isSome = true := by
  rw [accepted]
  rcases configure_cases s v with ⟨t, hrequested, hconfigure⟩ | ⟨e, hrequested, hconfigure⟩
  · simp [hrequested, hconfigure, Except.toOption]
  · simp [hrequested, hconfigure, Except.toOption]

/-- What the action of a lookup answers. -/
theorem perform_look_snd (s : Session) (q : Query) (fallback : Value) :
    (s.perform (.look q fallback)).2 =
      ⟨((s.look q fallback).2.result.map some).mapError .escape,
        (s.look q fallback).2.reports⟩ := rfl

/-- **A session logs a miss** that leaves one record. The record is reported if records of misses
are, and else nothing is reported. The fallback is answered, unless the flag for tracing raises
something: that leaves the lookup. -/
structure LogsMiss (s : Session) (q : Query) (fallback : Value) (m : Miss) : Prop where
  reported : s.ReportsMisses →
    (s.perform (.look q fallback)).2 = ⟨.ok (some ⟨fallback, false⟩), [s.reportHere m]⟩
  unreported : ¬s.ReportsMisses → (∃ traced, s.settings.traces = .ok traced) →
    (s.perform (.look q fallback)).2 = ⟨.ok (some ⟨fallback, false⟩), []⟩
  left : ∀ raised, s.settings.traces = .error raised →
    (s.perform (.look q fallback)).2 = ⟨.error (.escape (.ofRaised raised)), []⟩

/-- With the usual handlers, a session logs the miss that it answers. -/
theorem AnswersMiss.logsMiss {q : Query} {fallback : Value} {m : Miss}
    (h : s.AnswersMiss q fallback m) (husual : s.logger.HasUsualHandlers) :
    s.LogsMiss q fallback m := by
  have hraises : ∀ {raised}, s.tracingRaises? = some raised ↔ s.settings.traces = .error raised :=
    tracingRaises?_eq_some_iff_of_hasUsualHandlers husual
  have hanswered : (∃ traced, s.settings.traces = .ok traced) →
      (s.look q fallback).2.result = .ok ⟨fallback, false⟩ := by
    rintro ⟨traced, htraces⟩
    refine h.answered (Option.eq_none_iff_forall_ne_some.mpr fun raised hsome => ?_)
    rw [hraises, htraces] at hsome
    cases hsome
  constructor
  · intro hreports
    rw [perform_look_snd, h.reported hreports, hanswered ⟨true, hreports.1⟩,
      reportOf_eq_reportHere husual]
    rfl
  · intro hreports hflag
    rw [perform_look_snd, h.unreported hreports, hanswered hflag]
    rfl
  · intro raised htraces
    have hreports : ¬s.ReportsMisses := by
      rintro ⟨htrue, -⟩
      rw [htraces] at htrue
      cases htrue
    rw [perform_look_snd, h.unreported hreports, h.left raised (hraises.mpr htraces)]
    rfl

/-- **The log of a session is in order**, where the thresholds `set` have been set so far, one after
another. -/
structure LogInOrder (s : Session) (set : List Threshold) : Prop where
  /-- The silent handler is attached once. -/
  silent : s.logger.handlers.count .silent = 1
  /-- The console handler is attached at most once. -/
  console : s.logger.handlers.count .console ≤ 1
  /-- If the logger was ever configured with success, the console handler is attached. -/
  attached : set ≠ [] → .console ∈ s.logger.handlers
  /-- The threshold is the one that was set last. -/
  threshold : s.logger.threshold = set.getLastD (.number 0)
  /-- Configuring the logger is accepted just if it sets the threshold. -/
  accepts : ∀ v, (s.configure v).2 = none ↔ (s.accepted (.configure v)).isSome = true
  /-- A lookup along names that misses leaves one record, that of its first failure, and the miss is
  logged. -/
  misses : ∀ (q : Query) (root fallback : Value) (names : List String),
    q.GoesAlong root names → names ≠ [] →
    (q.lookup s.settings.admitsAttributes).ending = .miss →
    ∃ m : Miss, m.NamesFirstFailure s.settings.admitsAttributes root names ∧
      (q.lookup s.settings.admitsAttributes).records = [m] ∧ s.LogsMiss q fallback m
  /-- A lookup along names that hits answers its value and reports nothing. -/
  hits : ∀ (q : Query) (root fallback w : Value) (names : List String),
    q.GoesAlong root names → (q.lookup s.settings.admitsAttributes).ending = .hit w →
    (s.perform (.look q fallback)).2 = ⟨.ok (some ⟨w, true⟩), []⟩
  /-- A lookup along names that something escapes from is left by it and reports nothing. -/
  escapes : ∀ (q : Query) (root fallback : Value) (names : List String) (e : Escape),
    q.GoesAlong root names → (q.lookup s.settings.admitsAttributes).ending = .escaped e →
    (s.perform (.look q fallback)).2 = ⟨.error (.escape e), []⟩
  /-- Nothing but a lookup makes a report. -/
  quiet : ∀ action, (∀ q fallback, action ≠ .look q fallback) → (s.perform action).2.reports = []
  /-- Each report is printed once if the console handler is attached, and else not at all. -/
  prints : ∀ action, ∀ r ∈ (s.perform action).2.reports,
    r.lines = if .console ∈ s.logger.handlers then [r.line] else []

/-- A lookup along names that leaves no record answers what it comes to and reports nothing. -/
theorem perform_look_of_records_eq_nil {q : Query} {fallback : Value}
    (h : (q.lookup s.settings.admitsAttributes).records = []) :
    (s.perform (.look q fallback)).2 =
      ⟨(((q.lookup s.settings.admitsAttributes).ending.answer fallback).map some).mapError .escape,
        []⟩ := by
  rw [perform_look_snd, look_of_records_eq_nil h]

/-- **The log along a run.** Let a run begin with a fresh logger, which has the silent handler only,
and let it not drop the handlers. Then at every moment the log is in order, for the thresholds that
were set so far; none of the handlers of that moment is lost later, and the log so far is a
beginning of the log of the whole run. The run as a whole prints the reports in its log that were
made while the console handler was attached, in their order. -/
theorem logInOrder_along_run (hlogger : s.logger = {}) (hkeeps : .dropHandlers ∉ actions) :
    (∀ before after, actions = before ++ after →
      (s.run before).LogInOrder (s.thresholds before) ∧
        (s.run before).logger.handlers <+: (s.run actions).logger.handlers ∧
        s.log actions = s.log before ++ (s.run before).log after) ∧
    s.lines actions = ((s.log actions).filter fun r => 0 < r.printed).map Report.line := by
  have husual : s.logger.HasUsualHandlers := Or.inl (by rw [hlogger])
  refine ⟨?_, flatMap_lines fun r => printed_le_one_of_mem_log husual hkeeps⟩
  rintro before after rfl
  obtain ⟨hbefore, hafter⟩ := not_or.mp (mt List.mem_append.mpr hkeeps)
  have husual' := hasUsualHandlers_run husual hbefore
  have hthreshold := threshold_run husual.ne_nil hbefore
  rw [hlogger] at hthreshold
  refine ⟨?_, ?_, collect_append _ s before after⟩
  · exact {
      silent := husual'.count_silent
      console := husual'.count_console
      attached := console_mem_run husual.ne_nil hbefore
      threshold := hthreshold
      accepts := configure_accepted_iff (s.run before)
      misses := fun q root fallback names hgoes hne hmiss => by
        obtain ⟨m, hfirst, hrecords, hanswers⟩ := look_of_miss fallback hgoes hne hmiss
        exact ⟨m, hfirst, hrecords, hanswers.logsMiss husual'⟩
      hits := fun q root fallback w names hgoes hhit => by
        have hrecords := hgoes.records_of_hit hhit
        rw [perform_look_of_records_eq_nil hrecords, hhit]
        rfl
      escapes := fun q root fallback names e hgoes hescaped => by
        have hrecords := hgoes.records_of_escaped hescaped
        rw [perform_look_of_records_eq_nil hrecords, hescaped]
        rfl
      quiet := fun _ => reports_perform_of_ne_look
      prints := fun action r hr => by
        rw [Report.lines, printed_of_mem_reports husual' hr]
        split <;> rfl }
  · rw [run_append]
    exact handlers_prefix_run husual'.ne_nil hafter

/-- The logger is configured with a name of no level, tracing is switched on, a lookup misses, the
logger is configured with success, and a lookup misses again. Only the second one is printed. -/
theorem logInOrder_along_run_twice :
    let s : Session := {}
    let miss : Action := .look (.path (.table .plain []) (.text "a")) .null
    let actions : List Action :=
      [.configure (.text "LOUD"), .assign "trace_failures" (.bool true), miss,
        .configure (.text "DEBUG"), miss]
    s.logger = {} ∧ .dropHandlers ∉ actions ∧ s.thresholds actions = [.number 10] ∧
      (s.run actions).logger.threshold = .number 10 ∧
      (s.run actions).logger.handlers.count .console = 1 ∧
      s.lines actions = ["[DEBUG] resolve: member not found at segment 0 'a'"] := by
  intro s miss actions
  have hkeeps : .dropHandlers ∉ actions := by simp [actions, miss]
  have hthresholds : s.thresholds actions = [.number 10] := rfl
  obtain ⟨hmoments, hprinted⟩ := logInOrder_along_run (s := s) rfl hkeeps
  obtain ⟨horder, -⟩ := hmoments actions [] (List.append_nil actions).symm
  refine ⟨rfl, hkeeps, hthresholds, ?_, ?_, ?_⟩
  · rw [horder.threshold, hthresholds]
    rfl
  · have hattached : .console ∈ (s.run actions).logger.handlers := by
      refine horder.attached ?_
      rw [hthresholds]
      exact List.cons_ne_nil _ _
    exact Nat.le_antisymm horder.console (List.count_pos_iff.mpr hattached)
  · rw [hprinted]
    subst actions miss s
    decide +kernel

end Session

end SafeLookup
