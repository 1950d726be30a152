import SafeLookup.Proofs.Log.Reporting
import SafeLookup.Session

/-!
# What a Session Answers to a Lookup

A session makes a lookup, asks whether to trace if there is a record, reports the records, and
chooses the fallback. The lookup itself knows nothing of this. This module says what the answer is
for each way in which a lookup ends: the value of a hit, the fallback on a miss, or what escaped
(`Ending.answer`).

Between a record and the answer stands the tracing, which nothing guards. Two things can raise there
(`Session.tracingRaises?`): the flag for tracing, which may hold any value, when it is asked for its
truth; and, if records are reported, a handler that a program has attached on its own account. What
they raise takes the place of the answer (`look_result`). Where the flag has a truth value and the
handlers raise nothing, tracing is quiet (`Session.TracesQuietly`), and the answer is settled by the
lookup alone.

All that a lookup can change in a session is a logger without handlers, which gets one when it is
handed out (`look_fst`).
-/

namespace SafeLookup

/-- What a lookup answers with a fallback: the value of a hit, the fallback on a miss, or what
escaped. -/
def Ending.answer (ending : Ending) (fallback : Value) : Except Escape Found :=
  match ending with
  | hit v => .ok ⟨v, true⟩
  | miss => .ok ⟨fallback, false⟩
  | escaped e => .error e

/-- An answer is what the lookup comes to with the fallback, and whether it is a hit. -/
theorem Ending.answer_eq_map (ending : Ending) (fallback : Value) :
    ending.answer fallback = (ending.orElse fallback).map (⟨·, ending.isHit⟩) := by
  cases ending <;> rfl

/-- The value of an answer is what the lookup comes to with the fallback. -/
theorem Ending.map_value_answer (ending : Ending) (fallback : Value) :
    (ending.answer fallback).map Found.value = ending.orElse fallback := by
  cases ending <;> rfl

/-- An answer is a hit if the lookup hits, and only then. -/
theorem Ending.answer_eq_hit_iff {ending : Ending} {fallback v : Value} :
    ending.answer fallback = .ok ⟨v, true⟩ ↔ ending = .hit v := by
  cases ending <;> simp [answer]

namespace Session

variable {s : Session} {records : List Miss}

/-! ### Tracing -/

/-- **The records of misses are reported**: the flag for tracing counts as true, and the threshold
of the logger is not zero and at most ten. -/
def ReportsMisses (s : Session) : Prop :=
  s.settings.traces = .ok true ∧ s.logger.threshold.toInt ≠ 0 ∧ s.logger.threshold.toInt ≤ 10

/-- What tracing a record raises, if it raises anything: what the flag for tracing raises, or else,
if records are reported, what a handler raises. -/
def tracingRaises? (s : Session) : Option Raised :=
  match s.settings.traces with
  | .error raised => some raised
  | .ok traced => if traced && s.logger.isEnabled .debug then s.logger.raised? else none

/-- **Tracing is quiet**: the flag for tracing has a truth value, and no handler raises anything. -/
structure TracesQuietly (s : Session) : Prop where
  /-- Whether to trace is answered. -/
  flag : ∃ traced, s.settings.traces = .ok traced
  /-- No handler raises anything. -/
  handlers : ∀ handler ∈ s.logger.handlers, handler.raises? = none

/-- Records are reported if tracing is on and the logger lets records for debugging through. -/
theorem reportsMisses_iff :
    s.ReportsMisses ↔ s.settings.traces = .ok true ∧ s.logger.isEnabled .debug = true := by
  rw [ReportsMisses, Logger.isEnabled_debug_iff]

/-- **What tracing a record raises** is what the flag for tracing raises when it is asked for its
truth, or what the handlers raise over a report. -/
theorem tracingRaises?_eq_some_iff {raised : Raised} :
    s.tracingRaises? = some raised ↔
      s.settings.traces = .error raised ∨
        (s.ReportsMisses ∧ s.logger.raised? = some raised) := by
  rw [tracingRaises?, reportsMisses_iff]
  cases s.settings.traces with
  | error raised' => simp
  | ok traced => cases traced <;> simp

/-- Where tracing is quiet, no handler raises anything. -/
theorem TracesQuietly.raised? (h : s.TracesQuietly) : s.logger.raised? = none :=
  List.findSome?_eq_none_iff.mpr h.handlers

/-- Where tracing is quiet, nothing is raised. -/
theorem TracesQuietly.tracingRaises? (h : s.TracesQuietly) : s.tracingRaises? = none := by
  obtain ⟨traced, htraces⟩ := h.flag
  rw [Session.tracingRaises?, htraces, h.raised?]
  exact ite_self none

/-- In the sessions of single lookups tracing is quiet if the flag for it is a truth value. -/
theorem tracesQuietly_forLookups (traced : Bool) (attributes : Value) :
    (forLookups (.bool traced) attributes).TracesQuietly where
  flag := ⟨traced, rfl⟩
  handlers := by simp [forLookups, Handler.raises?]

/-- Records are traced by the logger if the flag says so. -/
theorem trace_of_traces (htraces : s.settings.traces = .ok true) (hne : records ≠ []) :
    s.trace records =
      ({ s with logger := (s.logger.reportAll records).1 }, (s.logger.reportAll records).2) := by
  rw [trace, List.isEmpty_eq_false_iff.mpr hne, htraces]
  rfl

/-- **What tracing changes**: nothing, except that the logger may have been handed out. -/
theorem trace_fst (s : Session) (records : List Miss) :
    (s.trace records).1 = s ∨ (s.trace records).1 = { s with logger := s.logger.obtain } := by
  rw [trace]
  split
  · exact Or.inl rfl
  · split
    · exact Or.inl rfl
    · exact Or.inl rfl
    · rcases Logger.reportAll_fst s.logger records with h | h
      · exact Or.inl (congrArg (fun logger => { s with logger }) h)
      · exact Or.inr (congrArg (fun logger => { s with logger }) h)

/-- If records are not reported, none is. -/
theorem reports_trace_of_not_reportsMisses (h : ¬s.ReportsMisses) :
    (s.trace records).2.reports = [] := by
  rw [reportsMisses_iff] at h
  rw [trace]
  split
  · rfl
  · split
    · rfl
    · rfl
    next htraces =>
      have henabled : ¬s.logger.isEnabled .debug = true := fun henabled => h ⟨htraces, henabled⟩
      dsimp only
      rw [Logger.reportAll_of_not_enabled henabled]

/-- **If records are reported and no handler raises anything, all of them are.** -/
theorem reports_trace_of_quiet (h : s.ReportsMisses) (hquiet : s.logger.raised? = none)
    (hwritable : records.all Miss.isWritable = true) :
    (s.trace records).2.reports = records.map s.logger.reportOf := by
  rw [reportsMisses_iff] at h
  by_cases hne : records = []
  · rw [hne]
    rfl
  · rw [trace_of_traces h.1 hne]
    dsimp only
    rw [Logger.reportAll_of_quiet h.2 hquiet hwritable]

/-- If records are reported and there is one only, it is, whatever the handlers raise. -/
theorem reports_trace_singleton (h : s.ReportsMisses) {m : Miss} (hwritable : m.isWritable = true) :
    (s.trace [m]).2.reports = [s.logger.reportOf m] := by
  cases hraised : s.logger.raised? with
  | none => exact reports_trace_of_quiet h hraised (by simpa using hwritable)
  | some raised =>
      rw [reportsMisses_iff] at h
      rw [trace_of_traces h.1 (List.cons_ne_nil _ _)]
      dsimp only
      rw [Logger.reportAll_of_raised h.2 hraised hwritable]

/-- The reports of records are those of the first ones. -/
theorem exists_reports_trace (s : Session) (hwritable : records.all Miss.isWritable = true) :
    ∃ reported, reported <+: records ∧
      (s.trace records).2.reports = reported.map s.logger.reportOf := by
  by_cases h : s.ReportsMisses
  · cases hraised : s.logger.raised? with
    | none =>
        exact ⟨records, List.prefix_refl records, reports_trace_of_quiet h hraised hwritable⟩
    | some raised =>
        cases records with
        | nil => exact ⟨[], List.prefix_refl [], rfl⟩
        | cons m rest =>
            obtain ⟨hm, -⟩ := Bool.and_eq_true_iff.mp (List.all_cons.symm.trans hwritable)
            refine ⟨[m], ⟨rest, rfl⟩, ?_⟩
            rw [reportsMisses_iff] at h
            rw [trace_of_traces h.1 (List.cons_ne_nil _ _)]
            dsimp only
            rw [Logger.reportAll_of_raised h.2 hraised hm]
            rfl
  · exact ⟨[], List.nil_prefix, reports_trace_of_not_reportsMisses h⟩

/-- **What escapes from tracing**: nothing without a record, and else what tracing a record
raises. -/
theorem escape?_trace (hwritable : records.all Miss.isWritable = true) :
    (s.trace records).2.escape? =
      if records = [] then none else s.tracingRaises?.map .ofRaised := by
  cases records with
  | nil => rfl
  | cons m rest =>
      rw [if_neg (List.cons_ne_nil m rest), trace, List.isEmpty_cons, tracingRaises?]
      cases htraces : s.settings.traces with
      | error raised => rfl
      | ok traced =>
          cases traced with
          | false => rfl
          | true =>
              by_cases henabled : s.logger.isEnabled .debug = true
              · obtain ⟨hm, -⟩ := Bool.and_eq_true_iff.mp (List.all_cons.symm.trans hwritable)
                cases hraised : s.logger.raised? with
                | none => simp [Logger.reportAll_of_quiet henabled hraised hwritable, henabled]
                | some raised =>
                    simp [Logger.reportAll_of_raised henabled hraised hm, henabled]
              · simp [Logger.reportAll_of_not_enabled henabled, henabled]

/-! ### Answers -/

variable {q q' : Query} {fallback : Value}

/-- The answer depends on how the lookup ends and on its records, not on the questions that it
put to containers. -/
theorem look_congr
    (hending : (q.lookup s.settings.admitsAttributes).ending =
      (q'.lookup s.settings.admitsAttributes).ending)
    (hrecords : (q.lookup s.settings.admitsAttributes).records =
      (q'.lookup s.settings.admitsAttributes).records) :
    s.look q fallback = s.look q' fallback := by
  simp only [look, hending, hrecords]

/-- Queries with the same lookup have the same answer. -/
theorem look_congr_lookup (h : ∀ attributes, q.lookup attributes = q'.lookup attributes) :
    s.look q fallback = s.look q' fallback :=
  look_congr (congrArg Lookup.ending (h _)) (congrArg Lookup.records (h _))

/-- A lookup that leaves no record answers what it comes to, and the session is as it was. -/
theorem look_of_records_eq_nil (h : (q.lookup s.settings.admitsAttributes).records = []) :
    s.look q fallback =
      (s, ⟨(q.lookup s.settings.admitsAttributes).ending.answer fallback, []⟩) := by
  rw [Ending.answer_eq_map]
  simp only [look, h]
  rfl

/-- A lookup that hits without a record answers its value. -/
theorem look_of_hit {v : Value} (h : (q.lookup s.settings.admitsAttributes).ending = .hit v)
    (hrecords : (q.lookup s.settings.admitsAttributes).records = []) :
    s.look q fallback = (s, ⟨.ok ⟨v, true⟩, []⟩) := by
  rw [look_of_records_eq_nil hrecords, h]
  rfl

/-- What escapes from a lookup without a record leaves the session as it is. -/
theorem look_of_escaped {e : Escape}
    (h : (q.lookup s.settings.admitsAttributes).ending = .escaped e)
    (hrecords : (q.lookup s.settings.admitsAttributes).records = []) :
    s.look q fallback = (s, ⟨.error e, []⟩) := by
  rw [look_of_records_eq_nil hrecords, h]
  rfl

/-- The reports of a lookup are those of tracing its records. -/
theorem look_reports (s : Session) (q : Query) (fallback : Value) :
    (s.look q fallback).2.reports =
      (s.trace (q.lookup s.settings.admitsAttributes).records).2.reports := rfl

/-- **What a session answers**: what escapes from tracing the records, and else what the lookup
comes to with the fallback. -/
theorem look_result (s : Session) (q : Query) (fallback : Value) :
    (s.look q fallback).2.result =
      match (s.trace (q.lookup s.settings.admitsAttributes).records).2.escape? with
      | some e => .error e
      | none => (q.lookup s.settings.admitsAttributes).ending.answer fallback := by
  rw [Ending.answer_eq_map]
  rfl

/-- **A lookup answers what it comes to with the fallback**, if its records can be written, unless
there is a record and tracing it raises something: that leaves the lookup. -/
theorem look_result_cases (s : Session) (fallback : Value)
    (hwritable : (q.lookup s.settings.admitsAttributes).records.all Miss.isWritable = true) :
    (s.look q fallback).2.result =
        (q.lookup s.settings.admitsAttributes).ending.answer fallback ∨
      ∃ raised, s.tracingRaises? = some raised ∧
        (q.lookup s.settings.admitsAttributes).records ≠ [] ∧
        (s.look q fallback).2.result = .error (.ofRaised raised) := by
  rw [look_result, escape?_trace hwritable]
  by_cases hne : (q.lookup s.settings.admitsAttributes).records = []
  · rw [if_pos hne]
    exact Or.inl rfl
  · rw [if_neg hne]
    cases hraises : s.tracingRaises? with
    | none => exact Or.inl rfl
    | some raised => exact Or.inr ⟨raised, rfl, hne, rfl⟩

/-- **Where tracing is quiet, the lookup alone settles the answer.** -/
theorem look_result_of_quiet (hquiet : s.TracesQuietly) (fallback : Value)
    (hwritable : (q.lookup s.settings.admitsAttributes).records.all Miss.isWritable = true) :
    (s.look q fallback).2.result =
      (q.lookup s.settings.admitsAttributes).ending.answer fallback := by
  rcases look_result_cases s fallback hwritable with h | ⟨raised, hraises, -⟩
  · exact h
  · rw [hquiet.tracingRaises?] at hraises
    cases hraises

/-- What is raised over a record leaves the lookup. -/
theorem look_result_of_raises {raised : Raised} (hraises : s.tracingRaises? = some raised)
    (fallback : Value) (hne : (q.lookup s.settings.admitsAttributes).records ≠ [])
    (hwritable : (q.lookup s.settings.admitsAttributes).records.all Miss.isWritable = true) :
    (s.look q fallback).2.result = .error (.ofRaised raised) := by
  rw [look_result, escape?_trace hwritable, if_neg hne, hraises]
  rfl

/-- **A session answers a miss** that leaves one record. The record is reported if records of misses
are, and else nothing is reported. The fallback is answered, unless tracing a record raises
something: that leaves the lookup. -/
structure AnswersMiss (s : Session) (q : Query) (fallback : Value) (m : Miss) : Prop where
  reported : s.ReportsMisses → (s.look q fallback).2.reports = [s.logger.reportOf m]
  unreported : ¬s.ReportsMisses → (s.look q fallback).2.reports = []
  answered : s.tracingRaises? = none → (s.look q fallback).2.result = .ok ⟨fallback, false⟩
  left : ∀ raised, s.tracingRaises? = some raised →
    (s.look q fallback).2.result = .error (.ofRaised raised)

/-- A lookup that misses with one record is answered so, if the record can be written. -/
theorem answersMiss {m : Miss} (fallback : Value)
    (hmiss : (q.lookup s.settings.admitsAttributes).ending = .miss)
    (hrecords : (q.lookup s.settings.admitsAttributes).records = [m])
    (hwritable : m.isWritable = true) : s.AnswersMiss q fallback m := by
  have hall : [m].all Miss.isWritable = true := by simpa using hwritable
  constructor
  · intro hreports
    rw [look_reports, hrecords, reports_trace_singleton hreports hwritable]
  · intro hreports
    rw [look_reports, reports_trace_of_not_reportsMisses hreports]
  · intro hquiet
    rw [look_result, hrecords, escape?_trace hall, hquiet, hmiss]
    rfl
  · intro raised hraises
    rw [look_result, hrecords, escape?_trace hall, hraises]
    rfl

/-- **What a lookup changes**: nothing, except that the logger may have been handed out. -/
theorem look_fst (s : Session) (q : Query) (fallback : Value) :
    (s.look q fallback).1 = s ∨
      (s.look q fallback).1 = { s with logger := s.logger.obtain } :=
  trace_fst s (q.lookup s.settings.admitsAttributes).records

/-- The session that the action of a lookup leaves. -/
theorem perform_look_fst (s : Session) (q : Query) (fallback : Value) :
    (s.perform (.look q fallback)).1 = (s.look q fallback).1 := rfl

/-- What a session answers as a hit is hit. -/
theorem ending_of_look_hit {v : Value} (h : (s.look q fallback).2.result = .ok ⟨v, true⟩) :
    (q.lookup s.settings.admitsAttributes).ending = .hit v := by
  rw [look_result] at h
  split at h
  · cases h
  · exact Ending.answer_eq_hit_iff.mp h

end Session

end SafeLookup
