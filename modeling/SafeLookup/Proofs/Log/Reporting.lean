import Mathlib.Data.List.Basic
import SafeLookup.Log.Logger

/-!
# What a Logger Reports

A logger that lets records for debugging through hands each record to its handlers, one after
another. Most handlers raise nothing; the first one that does ends the round, and with it everything
that was to be reported afterwards. So there are three ways in which reporting some records goes:
the logger lets none of them through (`reportAll_of_not_enabled`), it reports all of them
(`reportAll_of_quiet`), or it reports the first one and is left by what a handler raised at it
(`reportAll_of_raised`).

What a handler raises does not depend on the record, so what reporting raises is settled by the
handlers (`Logger.raised?`), and so is how often the console prints a report: once for each console
handler, if nothing is raised (`handOver_of_quiet`).
-/

namespace SafeLookup

/-- What a handler raises when it is handed a report. -/
def Handler.raises? : Handler → Option Raised
  | silent | console => none
  | foreign _ raises => raises

namespace Logger

/-- What handing a report to the handlers of a logger raises, if it raises anything. -/
def raised? (l : Logger) : Option Raised := l.handlers.findSome? Handler.raises?

/-- The report of a record. -/
def reportOf (l : Logger) (m : Miss) : Report :=
  ⟨m.message, m.reason.fault?, (handOver l.handlers).1⟩

/-! ### Handlers -/

/-- What a round of handlers raises is what the first one raises that raises anything. -/
theorem handOver_snd (handlers : List Handler) :
    (handOver handlers).2 = handlers.findSome? Handler.raises? := by
  induction handlers with
  | nil => rfl
  | cons handler rest ih =>
      cases handler with
      | silent => exact ih
      | console => exact ih
      | foreign kind raises =>
          cases raises with
          | none => exact ih
          | some raised => rfl

/-- **A report is printed once for each console handler**, if no handler raises anything. -/
theorem handOver_of_quiet {handlers : List Handler}
    (h : ∀ handler ∈ handlers, handler.raises? = none) :
    handOver handlers = (handlers.count .console, none) := by
  refine Prod.ext ?_ (by rw [handOver_snd, List.findSome?_eq_none_iff.mpr h])
  induction handlers with
  | nil => rfl
  | cons handler rest ih =>
      obtain ⟨hfirst, hrest⟩ := List.forall_mem_cons.mp h
      cases handler with
      | silent => rw [handOver, ih hrest, List.count_cons_of_ne Handler.noConfusion]
      | console =>
          rw [handOver, List.count_cons_self]
          exact congrArg (· + 1) (ih hrest)
      | foreign kind raises =>
          obtain rfl : raises = none := hfirst
          rw [handOver, ih hrest, List.count_cons_of_ne Handler.noConfusion]

/-! ### Loggers that are handed out -/

variable {l : Logger} {m : Miss} {records : List Miss}

/-- The silent handler that a logger gets when it is handed out makes no difference to its
reports. -/
theorem handOver_obtain (l : Logger) : handOver l.obtain.handlers = handOver l.handlers := by
  rw [obtain]
  split
  next hempty => rw [List.isEmpty_iff.mp hempty]; rfl
  next => rfl

/-- A logger that is handed out is handed out as it is. -/
@[simp] theorem obtain_obtain (l : Logger) : l.obtain.obtain = l.obtain := by
  by_cases h : l.handlers.isEmpty = true
  · have hobtain : l.obtain = { l with handlers := [.silent] } := by rw [obtain, if_pos h]
    rw [hobtain]
    rfl
  · have hobtain : l.obtain = l := by rw [obtain, if_neg h]
    rw [hobtain, hobtain]

/-- A logger that is handed out lets through what it let through before. -/
@[simp] theorem isEnabled_obtain (l : Logger) (level : Level) :
    l.obtain.isEnabled level = l.isEnabled level := by
  rw [obtain]
  split <;> rfl

/-- A logger that is handed out makes the same report of a record. -/
@[simp] theorem reportOf_obtain (l : Logger) (m : Miss) : l.obtain.reportOf m = l.reportOf m := by
  rw [reportOf, reportOf, handOver_obtain]

/-- A logger that is handed out raises what it raised before. -/
@[simp] theorem raised?_obtain (l : Logger) : l.obtain.raised? = l.raised? := by
  rw [raised?, raised?, ← handOver_snd, ← handOver_snd, handOver_obtain]

/-- Reporting a record hands the logger out. -/
theorem report_fst (l : Logger) (m : Miss) : (l.report m).1 = l.obtain := by
  rw [report]
  dsimp only
  split
  · rfl
  · split <;> rfl

/-- **What reporting does to the logger**: it is handed out if there is anything to report. -/
theorem reportAll_fst (l : Logger) (records : List Miss) :
    (l.reportAll records).1 = l ∨ (l.reportAll records).1 = l.obtain := by
  induction records generalizing l with
  | nil => exact Or.inl rfl
  | cons m rest ih =>
      rw [reportAll]
      dsimp only
      split
      · exact Or.inr (report_fst l m)
      · dsimp only
        rw [report_fst]
        rcases ih l.obtain with h | h
        · exact Or.inr h
        · exact Or.inr (h.trans (obtain_obtain l))

/-! ### Reports -/

/-- A logger lets records for debugging through if its threshold is not zero and at most ten. A
threshold of zero leaves that to the surroundings, and there it is thirty. -/
theorem isEnabled_debug_iff :
    l.isEnabled .debug = true ↔ l.threshold.toInt ≠ 0 ∧ l.threshold.toInt ≤ 10 := by
  rw [isEnabled, decide_eq_true_iff, effective, inherited]
  split
  next hzero => simp [hzero, Level.number]
  next hzero => simp [hzero, Level.number]

/-- The report of one record. -/
theorem report_snd (henabled : l.isEnabled .debug = true) (hwritable : m.isWritable = true) :
    (l.report m).2 = ⟨[l.reportOf m], l.raised?.map .ofRaised⟩ := by
  rw [report]
  simp only [isEnabled_obtain, henabled, hwritable, handOver_obtain]
  rw [raised?, ← handOver_snd]
  rfl

/-- **A report is that of a record.** -/
theorem exists_record_of_mem_reportAll {r : Report} (h : r ∈ (l.reportAll records).2.reports) :
    ∃ m ∈ records, r = l.reportOf m := by
  induction records generalizing l with
  | nil => cases h
  | cons m rest ih =>
      have hfirst : r ∈ (l.report m).2.reports → ∃ m' ∈ m :: rest, r = l.reportOf m' := by
        intro hr
        rw [report] at hr
        dsimp only at hr
        split at hr
        · cases hr
        · split at hr
          · cases hr
          · obtain rfl := List.mem_singleton.mp hr
            exact ⟨m, List.mem_cons_self, reportOf_obtain l m⟩
      rw [reportAll] at h
      dsimp only at h
      split at h
      · exact hfirst h
      · dsimp only at h
        rcases List.mem_append.mp h with hr | hr
        · exact hfirst hr
        · rw [report_fst] at hr
          obtain ⟨m', hm', rfl⟩ := ih hr
          exact ⟨m', List.mem_cons_of_mem m hm', reportOf_obtain l m'⟩

/-- A logger that lets no records for debugging through reports nothing. -/
theorem reportAll_of_not_enabled (h : ¬l.isEnabled .debug = true) :
    (l.reportAll records).2 = {} := by
  induction records generalizing l with
  | nil => rfl
  | cons m rest ih =>
      have hreport : l.report m = (l.obtain, {}) := by simp [report, h]
      rw [reportAll, hreport]
      dsimp only
      rw [ih (by rwa [isEnabled_obtain])]
      rfl

/-- **If no handler raises anything, all records are reported.** -/
theorem reportAll_of_quiet (henabled : l.isEnabled .debug = true) (hquiet : l.raised? = none)
    (hwritable : records.all Miss.isWritable = true) :
    (l.reportAll records).2 = ⟨records.map l.reportOf, none⟩ := by
  induction records generalizing l with
  | nil => rfl
  | cons m rest ih =>
      obtain ⟨hm, hrest⟩ := Bool.and_eq_true_iff.mp (List.all_cons.symm.trans hwritable)
      have hothers : (l.obtain.reportAll rest).2 = ⟨rest.map l.reportOf, none⟩ := by
        rw [ih (by rwa [isEnabled_obtain]) (by rwa [raised?_obtain]) hrest]
        simp
      have hreport : l.report m = (l.obtain, ⟨[l.reportOf m], none⟩) := by
        refine Prod.ext (report_fst l m) ?_
        rw [report_snd henabled hm, hquiet]
        rfl
      rw [reportAll, hreport]
      dsimp only
      rw [hothers]
      rfl

/-- **If a handler raises something, the first record is reported and no other one.** -/
theorem reportAll_of_raised {raised : Raised} (henabled : l.isEnabled .debug = true)
    (hraised : l.raised? = some raised) (hwritable : m.isWritable = true) (rest : List Miss) :
    (l.reportAll (m :: rest)).2 = ⟨[l.reportOf m], some (.ofRaised raised)⟩ := by
  have hreport : l.report m = (l.obtain, ⟨[l.reportOf m], some (.ofRaised raised)⟩) := by
    refine Prod.ext (report_fst l m) ?_
    rw [report_snd henabled hwritable, hraised]
    rfl
  rw [reportAll, hreport]

end Logger

end SafeLookup
