import SafeLookup.Proofs.Log.Message
import SafeLookup.Proofs.Session.Report

/-!
# Messages of Traced Lookups

Lookups over names leave records about names only, whichever way they are asked for: by a path, by
segments that are texts, by several paths, or by an accessor (`Query.isAboutNames_of_mem_records`).
What a session reports corresponds to these records one by one (`Session.ReportsRecord`). So the
reader of a log can tell from a message alone why a lookup failed, at which step, and what the
segment was, and no segment can make one message look like two.
-/

namespace SafeLookup

/-! ### Records about names -/

/-- The reason of a step is never that the value at the end is unset. -/
theorem Reason.Tells.ne_unset {reason : Reason} {attributes : Admission} {v : Value}
    {name : String} (h : reason.Tells attributes v name) : reason ≠ .unset := by
  rintro rfl
  by_cases hname : name ∈ Path.reservedNames
  · cases h.reserved.mpr hname
  · have hcontent : ¬(v = .null ∨ v = .unset ∨ v.IsClosedTo attributes name) := by
      intro hclosed
      cases (h.notTraversable hname).mpr hclosed
    obtain ⟨hnull, hrest⟩ := not_or.mp hcontent
    obtain ⟨hunset, hopen⟩ := not_or.mp hrest
    have hquiet : ∀ fault, ¬v.Raises attributes name (.fault fault) := by
      intro fault hraises
      cases (h.container hname hnull hunset hopen fault).mpr hraises
    cases (h.notFound hname hnull hunset hopen).mpr hquiet

/-- The record of a first failure is about names. -/
theorem Miss.NamesFirstFailure.isAboutNames {attributes : Admission} {root : Value}
    {names : List String} {m : Miss} (h : m.NamesFirstFailure attributes root names) :
    m.IsAboutNames := by
  cases h with
  | step _ _ _ htells => exact Or.inl ⟨htells.ne_unset, _, rfl⟩
  | unset _ => exact Or.inr ⟨rfl, rfl⟩

/-- The records of a walk along names are about names. -/
theorem Value.isAboutNames_of_mem_walkNames {attributes : Admission} {root : Value}
    {names : List String} {m : Miss} (h : m ∈ (root.walkNames attributes names).records) :
    m.IsAboutNames := by
  by_cases hne : names = []
  · subst hne
    cases h
  · rcases walkNames_cases attributes root names with
      ⟨v, -, hrecords⟩ | ⟨hmiss, -⟩ | ⟨kind, i, -, hrecords, -⟩
    · rw [hrecords] at h
      cases h
    · obtain ⟨m', hfirst, hrecords⟩ := exists_namesFirstFailure_of_walkNames hne hmiss
      rw [hrecords] at h
      obtain rfl := List.mem_singleton.mp h
      exact hfirst.isAboutNames
    · rw [hrecords] at h
      cases h

namespace Query

/-- **A query gives names**: if it gives segments, they are texts. The other queries give nothing
else anyway. -/
def GivesNames (q : Query) : Prop :=
  ∀ root segments, q = .segments root segments → ∃ names, q.GoesAlong root names

/-- A query that goes along names gives names. -/
theorem GoesAlong.givesNames {q : Query} {root : Value} {names : List String}
    (h : q.GoesAlong root names) : q.GivesNames := by
  rintro root' segments rfl
  cases h with
  | segments hitems hnames => exact ⟨names, .segments hitems hnames⟩

/-- A record of a query that gives names is one of a walk along names. -/
theorem exists_walk_of_mem_records {q : Query} (hq : q.GivesNames) {attributes : Admission}
    {m : Miss} (h : m ∈ (q.lookup attributes).records) :
    ∃ (root : Value) (names : List String), m ∈ (root.walkNames attributes names).records := by
  cases q with
  | path root p =>
      obtain ⟨t, -, hwalk⟩ := Value.exists_walk_of_mem_lookup h
      exact ⟨root, _, hwalk⟩
  | segments root segments =>
      obtain ⟨names, hgoes⟩ := hq root segments rfl
      rw [hgoes.lookup_eq] at h
      exact ⟨root, names, h⟩
  | first root paths =>
      rw [lookup, Value.firstAmong] at h
      split at h
      next items hitems =>
        obtain ⟨p, -, hlookup⟩ := Value.exists_lookup_of_mem_firstPresent h
        obtain ⟨t, -, hwalk⟩ := Value.exists_walk_of_mem_lookup hlookup
        exact ⟨root, _, hwalk⟩
      next e hescaped => cases h
  | accessor a => exact ⟨a.root, a.segments, h⟩

/-- **The records of a query that gives names are about names.** -/
theorem isAboutNames_of_mem_records {q : Query} (hq : q.GivesNames) {attributes : Admission}
    {m : Miss} (h : m ∈ (q.lookup attributes).records) : m.IsAboutNames := by
  obtain ⟨root, names, hwalk⟩ := exists_walk_of_mem_records hq h
  exact Value.isAboutNames_of_mem_walkNames hwalk

end Query

/-! ### Messages -/

namespace Session

variable {s : Session} {q q' : Query} {fallback : Value} {m : Miss} {r : Report}

/-- **A session reports a record of a lookup**: the report stands among the reports where the record
stands among the records. -/
def ReportsRecord (s : Session) (q : Query) (fallback : Value) (m : Miss) (r : Report) : Prop :=
  ∃ i : ℕ, (q.lookup s.settings.admitsAttributes).records[i]? = some m ∧
    (s.look q fallback).2.reports[i]? = some r

/-- The records of a query that gives names can be written. -/
theorem isWritable_records_of_givesNames (hq : q.GivesNames) (attributes : Admission) :
    (q.lookup attributes).records.all Miss.isWritable = true :=
  List.all_eq_true.mpr fun _ hm => (Query.isAboutNames_of_mem_records hq hm).isWritable

/-- A report is that of the record that stands at its place. -/
theorem exists_record_of_report (hq : q.GivesNames) {i : ℕ}
    (h : (s.look q fallback).2.reports[i]? = some r) :
    ∃ m, (q.lookup s.settings.admitsAttributes).records[i]? = some m ∧
      r = s.logger.reportOf m := by
  obtain ⟨reported, ⟨others, hrecords⟩, hreports⟩ := exists_reports_trace s
    (isWritable_records_of_givesNames hq s.settings.admitsAttributes)
  rw [look_reports, hreports, List.getElem?_map] at h
  obtain ⟨m, hm, rfl⟩ := Option.map_eq_some_iff.mp h
  obtain ⟨hlt, -⟩ := List.getElem?_eq_some_iff.mp hm
  refine ⟨m, ?_, rfl⟩
  rw [← hrecords, List.getElem?_append_left hlt, hm]

/-- The report of a record has its message. -/
theorem ReportsRecord.message_eq (h : s.ReportsRecord q fallback m r) (hq : q.GivesNames) :
    r.message = m.message := by
  obtain ⟨i, hm, hr⟩ := h
  obtain ⟨m', hm', rfl⟩ := exists_record_of_report hq hr
  obtain rfl := Option.some.inj (hm.symm.trans hm')
  rfl

/-- What is reported is the report of a record. -/
theorem exists_reportsRecord_of_mem (hq : q.GivesNames) (h : r ∈ (s.look q fallback).2.reports) :
    ∃ m, s.ReportsRecord q fallback m r := by
  obtain ⟨i, hr⟩ := List.mem_iff_getElem?.mp h
  obtain ⟨m, hm, -⟩ := exists_record_of_report hq hr
  exact ⟨m, i, hm, hr⟩

/-- The record of a report is one of the lookup. -/
theorem ReportsRecord.mem_records (h : s.ReportsRecord q fallback m r) :
    m ∈ (q.lookup s.settings.admitsAttributes).records := by
  obtain ⟨i, hm, -⟩ := h
  exact List.mem_of_getElem? hm

/-- A session that reports records reports every record about names, if no handler raises
anything. -/
theorem exists_reportsRecord (hq : q.GivesNames) (hreports : s.ReportsMisses)
    (hquiet : s.logger.raised? = none)
    (h : m ∈ (q.lookup s.settings.admitsAttributes).records) :
    ∃ r, s.ReportsRecord q fallback m r := by
  obtain ⟨i, hm⟩ := List.mem_iff_getElem?.mp h
  refine ⟨s.logger.reportOf m, i, hm, ?_⟩
  rw [look_reports, reports_trace_of_quiet hreports hquiet
    (isWritable_records_of_givesNames hq s.settings.admitsAttributes), List.getElem?_map, hm,
    Option.map_some]

/-- **Messages are unambiguous, and each is one line.** Let two sessions be asked for lookups over
names, by a path, by several paths, by segments that are texts or by an accessor.

* What a session reports are reports of the records of the lookup, and if it reports misses and no
  handler raises anything, of all of them.
* Reports with the same message are about the same failure: the reasons are of the same kind, and
  the index and the segment are equal. The segment is missing exactly if the value at the end is
  unset; otherwise it is a name.
* A message stays in its line, and the console shows it as it is. In the record that the console
  handler is given, the message is a template that has yet to be filled in; that makes no
  difference, but for an index with too many digits. -/
theorem messages_are_unambiguous (s s' : Session) (hq : q.GivesNames) (hq' : q'.GivesNames)
    (fallback fallback' : Value) :
    (∀ r ∈ (s.look q fallback).2.reports, ∃ m, s.ReportsRecord q fallback m r) ∧
    (s.ReportsMisses → (∀ handler ∈ s.logger.handlers, handler.raises? = none) →
      ∀ m ∈ (q.lookup s.settings.admitsAttributes).records, ∃ r, s.ReportsRecord q fallback m r) ∧
    (∀ m r m' r', s.ReportsRecord q fallback m r → s'.ReportsRecord q' fallback' m' r' →
      r.message = r'.message →
        m.reason.SameKind m'.reason ∧ m.index = m'.index ∧ m.segment = m'.segment) ∧
    ∀ m r, s.ReportsRecord q fallback m r →
      m.IsAboutNames ∧ r.IsOneLine ∧
      ∀ pathname line, Path.isTooLong m.index = false →
        Text.IsInline (m.record pathname line).location →
        (m.record pathname line).printed =
          .ok (r.line ++ " " ++ (m.record pathname line).location ++ "\n") := by
  refine ⟨fun r => exists_reportsRecord_of_mem hq, fun hreports hhandlers m => ?_, ?_, ?_⟩
  · exact exists_reportsRecord hq hreports (List.findSome?_eq_none_iff.mpr hhandlers)
  · intro m r m' r' h h' hmessage
    rw [h.message_eq hq, h'.message_eq hq'] at hmessage
    exact Miss.of_message_eq (Query.isAboutNames_of_mem_records hq h.mem_records)
      (Query.isAboutNames_of_mem_records hq' h'.mem_records) hmessage
  · intro m r h
    have habout := Query.isAboutNames_of_mem_records hq h.mem_records
    have hinline : Text.IsInline r.message := by
      rw [h.message_eq hq]
      exact Miss.isInline_message habout
    have hone := Report.isOneLine_of_isInline hinline
    refine ⟨habout, hone, fun pathname line hindex hplace => ?_⟩
    rw [Miss.printed_record habout hindex hplace, hone.line, h.message_eq hq]

/-- A segment that looks like the end of a message, a line end and another message. The message
about it is one line, and it is not the message about the segment that it forges. -/
theorem messages_are_unambiguous_forged :
    let s : Session := .forLookups (.bool true) (.bool true)
    let forged := "a'\n[DEBUG] resolve: unsafe key at segment 0 'b"
    let q : Query := .segments (.table .plain []) (.ofNames [forged])
    let q' : Query := .path (.table .plain []) (.text "a")
    q.GivesNames ∧ q'.GivesNames ∧
    (∃ r, s.ReportsRecord q .null ⟨.notFound, 0, some (.name forged)⟩ r ∧ r.IsOneLine ∧
      r.message = "resolve: member not found at segment 0 " ++
        "\"a'\\n[DEBUG] resolve: unsafe key at segment 0 'b\"") ∧
    ∀ m r m' r', s.ReportsRecord q .null m r → s.ReportsRecord q' .null m' r' →
      m.segment ≠ m'.segment → r.message ≠ r'.message := by
  intro s forged q q'
  have hq : q.GivesNames := (Query.goesAlong_ofNames (.table .plain []) [forged]).givesNames
  have hq' : q'.GivesNames := by
    have hgoes : q'.GoesAlong (.table .plain []) (Path.segments "a") := .path rfl
    exact hgoes.givesNames
  have hreports : s.ReportsMisses := ⟨rfl, by decide, by decide⟩
  have hquiet := (tracesQuietly_forLookups true (.bool true)).handlers
  obtain ⟨-, hall, hsame, hone⟩ := messages_are_unambiguous s s hq hq' .null .null
  obtain ⟨r, hr⟩ := hall hreports hquiet ⟨.notFound, 0, some (.name forged)⟩ List.mem_cons_self
  refine ⟨hq, hq', ⟨r, hr, (hone _ r hr).2.1, ?_⟩, ?_⟩
  · rw [hr.message_eq hq]
    decide +kernel
  · intro m r m' r' h h' hne hmessage
    exact hne (hsame m r m' r' h h' hmessage).2.2

end Session

end SafeLookup
