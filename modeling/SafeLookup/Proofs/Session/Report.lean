import SafeLookup.Proofs.Session.Escape

/-!
# What a Traced Lookup Reports

With tracing on and a logger that lets records for debugging through, a lookup along names reports
one record if it misses, and none otherwise. The record is that of the first step that fails
(`Miss.NamesFirstFailure`), and its report carries a fault exactly if a container raised one. With
tracing off, or a logger that keeps such records back, nothing is reported (`look_of_miss`).

The queries that walk along names are more than those by a list of names: a path may be any text,
and the names may come as the elements of any value (`Query.GoesAlong`).

A handler that raises leaves its mark on the answer, but not on the report, which has been made by
then. So what a lookup reports does not depend on whether it returns.
-/

namespace SafeLookup

/-! ### Queries that walk along names -/

/-- **A query walks along names from a root**: by a path, by segments that are texts, whatever they
are kept in, or as an accessor. -/
inductive Query.GoesAlong : Query → Value → List String → Prop
  | path {root p : Value} {t : String} :
      p.text? = some t →
      GoesAlong (.path root p) root (Path.segments t)
  | segments {root segments : Value} {items : List Value} {names : List String} :
      segments.elements = .ok items →
      items.map Segment.ofValue = names.map .name →
      GoesAlong (.segments root segments) root names
  | accessor {a : Accessor} :
      GoesAlong (.accessor a) a.root a.segments

/-- A progression that is cut is not a list of texts. -/
theorem Value.cutTo_eq_self_of_names {segments : Value} {items : List Value} {names : List String}
    (hitems : segments.elements = .ok items)
    (hnames : items.map Segment.ofValue = names.map .name) (count : ℕ) :
    segments.cutTo count = segments := by
  rw [cutTo]
  split
  next start stop step hcore =>
    split
    next hlong =>
      exfalso
      rw [elements, hcore] at hitems
      obtain rfl := Except.ok.inj hitems
      obtain ⟨n, hn⟩ : ∃ n, rangeLength start stop step = n + 1 :=
        Nat.exists_eq_add_one.mpr (Nat.zero_lt_of_lt hlong)
      rw [rangeItems, hn, List.range_succ_eq_map] at hnames
      cases names with
      | nil => cases hnames
      | cons name rest => cases (List.cons.inj hnames).1
    next => rfl
  next => rfl

/-- The lookup of a query that walks along names is that walk. -/
theorem Query.GoesAlong.lookup_eq {q : Query} {root : Value} {names : List String}
    (h : q.GoesAlong root names) (attributes : Admission) :
    q.lookup attributes = root.walkNames attributes names := by
  cases h with
  | path htext => exact Value.lookup_of_text? htext attributes root
  | segments hitems hnames =>
      rw [lookup, Value.walkAlong, Value.cutTo_eq_self_of_names hitems hnames, hitems]
      dsimp only
      rw [hnames]
      rfl
  | accessor => rfl

/-- A query that walks along names and hits leaves no record. -/
theorem Query.GoesAlong.records_of_hit {q : Query} {root w : Value} {names : List String}
    (h : q.GoesAlong root names) {attributes : Admission}
    (hhit : (q.lookup attributes).ending = .hit w) : (q.lookup attributes).records = [] := by
  rw [h.lookup_eq] at hhit ⊢
  exact Value.records_of_walkNames_hit hhit

/-- A query that walks along names leaves no record if something escapes from it. -/
theorem Query.GoesAlong.records_of_escaped {q : Query} {root : Value} {names : List String}
    (h : q.GoesAlong root names) {attributes : Admission} {e : Escape}
    (hescaped : (q.lookup attributes).ending = .escaped e) :
    (q.lookup attributes).records = [] := by
  rw [h.lookup_eq] at hescaped ⊢
  rcases Value.walkNames_cases attributes root names with
    ⟨v, -, hrecords⟩ | ⟨hmiss, -⟩ | ⟨kind, i, -, hrecords, -⟩
  · exact hrecords
  · rw [hmiss] at hescaped
    cases hescaped
  · exact hrecords

/-- A list of names is gone along. -/
theorem Query.goesAlong_ofNames (root : Value) (names : List String) :
    (Query.segments root (.ofNames names)).GoesAlong root names := by
  refine GoesAlong.segments rfl ?_
  rw [List.map_map]
  rfl

/-! ### One report or none -/

/-- The record of a first failure can be written. -/
theorem Miss.NamesFirstFailure.isWritable {attributes : Admission} {root : Value}
    {names : List String} {m : Miss} (h : m.NamesFirstFailure attributes root names) :
    m.isWritable = true := by
  cases h <;> rfl

namespace Session

variable {s : Session} {q : Query}

/-- **A lookup along names that misses makes one report or none.** The report is that of its one
record, the first failure. -/
theorem look_of_miss {root : Value} {names : List String} (fallback : Value)
    (hgoes : q.GoesAlong root names) (hne : names ≠ [])
    (hmiss : (q.lookup s.settings.admitsAttributes).ending = .miss) :
    ∃ m : Miss, m.NamesFirstFailure s.settings.admitsAttributes root names ∧
      (q.lookup s.settings.admitsAttributes).records = [m] ∧ s.AnswersMiss q fallback m := by
  have hlookup := hgoes.lookup_eq s.settings.admitsAttributes
  rw [hlookup] at hmiss
  obtain ⟨m, hfirst, hrecords⟩ := Value.exists_namesFirstFailure_of_walkNames hne hmiss
  rw [← hlookup] at hmiss hrecords
  exact ⟨m, hfirst, hrecords, answersMiss fallback hmiss hrecords hfirst.isWritable⟩

end Session

end SafeLookup
