import SafeLookup.Proofs.Session.Escape

/-!
# A List of Paths as a Chain of Fallbacks

The first of some paths that hits can be found without asking any lookup how it ended: look up each
path with the rest of the list for its fallback. This module shows that the two come to the same,
that the records are those of the paths up to the first that hits (`Value.tried`), and that the
paths behind it make no difference.

A lookup with a list of paths takes the mark of an absent member for the sign of a miss
(`Ending.passes`). That is safe because the mark is no member: only a root that is the mark itself
is hit as it (`lookup_ne_hit_notFound`). So each path ends the search with a hit or leaves it to the
paths behind it (`Uninterrupted.cases`), and all inductions over the paths split there.

The right fold looks every path up, also those behind the first that hits. So it says the same only
if none of them is interrupted (`Value.Uninterrupted`).
-/

namespace SafeLookup

/-- A hit is the hit of a value. -/
theorem Ending.exists_of_isHit {ending : Ending} (h : ending.isHit = true) :
    ∃ w, ending = .hit w := by
  cases ending with
  | hit w => exact ⟨w, rfl⟩
  | miss => cases h
  | escaped e => cases h

namespace Value

variable {attributes : Admission} {root : Value} {paths : List Value}

/-- **Nothing interrupts the lookups of some paths**: no walk along one of them meets an
interruption. -/
def Uninterrupted (attributes : Admission) (root : Value) (paths : List Value) : Prop :=
  ∀ p ∈ paths, ∀ t, p.text? = some t →
    ∀ i kind, ¬root.RaisesAt attributes (Path.segments t) i (.interrupt kind)

/-- The paths that are looked up: those up to and including the first that hits. -/
def tried (attributes : Admission) (root : Value) (paths : List Value) : List Value :=
  paths.take (paths.findIdx (fun p => (root.lookup attributes p).ending.isHit) + 1)

/-! ### How the lookup of a path ends -/

/-- A lookup does not hit the mark of an absent member, unless its root is the mark. -/
theorem lookup_ne_hit_notFound (hroot : root ≠ notFound) (p : Value) :
    (root.lookup attributes p).ending ≠ .hit notFound := by
  intro hhit
  have hcoalesce : root.coalesce.ending ≠ .hit notFound :=
    fun h => hroot (coalesce_hit_iff.mp h).1
  cases htext : p.text? with
  | some t =>
      rw [lookup_of_text? htext, walkNames, walk_hit_iff, descend_eq_reached_iff_leads] at hhit
      exact (hhit.1.eq_or_isMark_eq_false).elim hroot Bool.noConfusion
  | none =>
      rcases lookup_of_text?_eq_none htext attributes root with hlookup | hlookup
      · rw [hlookup] at hhit
        exact hcoalesce hhit
      · rw [hlookup] at hhit
        cases hhit

/-- Where nothing interrupts, nothing escapes, and the other way round. -/
theorem uninterrupted_iff : root.Uninterrupted attributes paths ↔
    ∀ p ∈ paths, ∀ e, (root.lookup attributes p).ending ≠ .escaped e := by
  constructor
  · intro h p hp e hescaped
    obtain ⟨t, htext, hwalk⟩ := lookup_escaped_iff.mp hescaped
    obtain ⟨kind, i, -, hraises⟩ := walkNames_escaped_iff.mp hwalk
    exact h p hp t htext i kind hraises
  · intro h p hp t htext i kind hraises
    refine h p hp (.interrupt kind) (lookup_escaped_iff.mpr ⟨t, htext, ?_⟩)
    exact escaped_of_raisesAt hraises

/-- Without interruptions the lookup of a path hits a value that lets no other path have its turn,
or it misses. -/
theorem Uninterrupted.cases (h : root.Uninterrupted attributes paths) (hroot : root ≠ notFound)
    {p : Value} (hp : p ∈ paths) :
    (∃ w, (root.lookup attributes p).ending = .hit w ∧ w ≠ notFound) ∨
      (root.lookup attributes p).ending = .miss := by
  cases hending : (root.lookup attributes p).ending with
  | hit w =>
      refine Or.inl ⟨w, rfl, ?_⟩
      rintro rfl
      exact lookup_ne_hit_notFound hroot p hending
  | miss => exact Or.inr rfl
  | escaped e => exact absurd hending (uninterrupted_iff.mp h p hp e)

/-- The paths behind the first are not interrupted either. -/
theorem Uninterrupted.tail {path : Value} (h : root.Uninterrupted attributes (path :: paths)) :
    root.Uninterrupted attributes paths :=
  fun p hp => h p (List.mem_cons_of_mem path hp)

/-- Where nothing interrupts, nothing escapes from the list of paths. -/
theorem Uninterrupted.firstPresent_ne_escaped (h : root.Uninterrupted attributes paths)
    (e : Escape) : (root.firstPresent attributes paths).ending ≠ .escaped e := by
  intro hescaped
  obtain ⟨before, p, after, rfl, -, hp⟩ := firstPresent_escaped_iff.mp hescaped
  exact uninterrupted_iff.mp h p (List.mem_append_right before List.mem_cons_self) e hp

/-! ### The first path -/

/-- A path that hits is the last one to be looked up. -/
theorem firstPresent_cons_of_hit {path w : Value}
    (hhit : (root.lookup attributes path).ending = .hit w) (hw : w ≠ notFound)
    (rest : List Value) :
    root.firstPresent attributes (path :: rest) = root.lookup attributes path := by
  rw [firstPresent_cons, if_neg]
  rwa [hhit, Ending.passes_hit_iff]

/-- Behind a path that misses come the others. -/
theorem firstPresent_cons_of_miss {path : Value}
    (hmiss : (root.lookup attributes path).ending = .miss) (rest : List Value) :
    root.firstPresent attributes (path :: rest) =
      (root.firstPresent attributes rest).after (root.lookup attributes path).records
        (root.lookup attributes path).ledger := by
  rw [firstPresent_cons, hmiss, if_pos Ending.passes_miss]

/-- If the first path hits, it is tried alone. -/
theorem tried_cons_of_hit {path w : Value}
    (hhit : (root.lookup attributes path).ending = .hit w) (rest : List Value) :
    root.tried attributes (path :: rest) = [path] := by
  rw [tried, List.findIdx_cons, hhit]
  rfl

/-- If the first path misses, it is tried and then the others are. -/
theorem tried_cons_of_miss {path : Value}
    (hmiss : (root.lookup attributes path).ending = .miss) (rest : List Value) :
    root.tried attributes (path :: rest) = path :: root.tried attributes rest := by
  rw [tried, List.findIdx_cons, hmiss]
  rfl

/-! ### All paths -/

/-- **The first path that hits is found by a right fold**: each path is looked up with the answer of
the paths behind it for its fallback. -/
theorem orElse_firstPresent_eq_foldrM (hroot : root ≠ notFound)
    (h : root.Uninterrupted attributes paths) (fallback : Value) :
    (root.firstPresent attributes paths).ending.orElse fallback =
      paths.foldrM (fun p rest => (root.lookup attributes p).ending.orElse rest) fallback := by
  induction paths with
  | nil => rfl
  | cons path rest ih =>
      -- The fold looks up the paths behind a hit as well, and that must come to an answer.
      obtain ⟨v, hv⟩ := Ending.exists_orElse_eq_ok h.tail.firstPresent_ne_escaped fallback
      rw [List.foldrM_cons, ← ih h.tail, hv]
      rcases h.cases hroot List.mem_cons_self with ⟨w, hhit, hw⟩ | hmiss
      · rw [firstPresent_cons_of_hit hhit hw, hhit]
        rfl
      · rw [firstPresent_cons_of_miss hmiss, hmiss, Lookup.after, hv]
        rfl

/-- **The records of a list of paths** are those of the paths that are tried, one path after
another. -/
theorem records_firstPresent (hroot : root ≠ notFound) (h : root.Uninterrupted attributes paths) :
    (root.firstPresent attributes paths).records =
      (root.tried attributes paths).flatMap fun p => (root.lookup attributes p).records := by
  induction paths with
  | nil => rfl
  | cons path rest ih =>
      rcases h.cases hroot List.mem_cons_self with ⟨w, hhit, hw⟩ | hmiss
      · rw [firstPresent_cons_of_hit hhit hw, tried_cons_of_hit hhit, List.flatMap_singleton]
      · rw [firstPresent_cons_of_miss hmiss, tried_cons_of_miss hmiss, List.flatMap_cons,
          ← ih h.tail]
        rfl

/-- A list of paths does not miss if one of them hits. -/
theorem firstPresent_ne_miss_of_hit (hroot : root ≠ notFound) {p w : Value} (hp : p ∈ paths)
    (hhit : (root.lookup attributes p).ending = .hit w) :
    (root.firstPresent attributes paths).ending ≠ .miss := by
  induction paths with
  | nil => cases hp
  | cons path rest ih =>
      rw [firstPresent_cons]
      split
      next hpasses =>
        refine ih ((List.mem_cons.mp hp).resolve_left ?_)
        rintro rfl
        rw [hhit, Ending.passes_hit_iff] at hpasses
        rw [hpasses] at hhit
        exact lookup_ne_hit_notFound hroot p hhit
      next hpasses =>
        intro hmiss
        rw [hmiss] at hpasses
        exact hpasses rfl

/-- **Behind a path that hits nothing is looked up.** -/
theorem firstPresent_append_of_isHit (hroot : root ≠ notFound)
    (h : ∃ p ∈ paths, (root.lookup attributes p).ending.isHit = true) (more : List Value) :
    root.firstPresent attributes (paths ++ more) = root.firstPresent attributes paths := by
  obtain ⟨p, hp, hisHit⟩ := h
  obtain ⟨w, hhit⟩ := Ending.exists_of_isHit hisHit
  exact firstPresent_append_of_ne (firstPresent_ne_miss_of_hit hroot hp hhit) more

end Value

/-- The lookup of a list of paths goes through the paths of the list. -/
theorem Query.lookup_first (attributes : Admission) (root : Value) (paths : List Value) :
    (Query.first root (.run .list paths)).lookup attributes = root.firstPresent attributes paths :=
  rfl

namespace Session

variable {s : Session} {q : Query} {root : Value} {paths : List Value}

/-! ### What a session answers -/

/-- The value that a session answers to a query, or what leaves the lookup. -/
def value (s : Session) (q : Query) (fallback : Value) : Except Escape Value :=
  (s.look q fallback).2.result.map Found.value

/-- What tracing some records comes to, their reports aside. -/
def traced (s : Session) (records : List Miss) : Except Escape Unit :=
  match (s.trace records).2.escape? with
  | some e => .error e
  | none => .ok ()

/-- Where tracing raises nothing, it comes to nothing. -/
theorem traced_of_quiet (h : s.tracingRaises? = none) {records : List Miss}
    (hwritable : records.all Miss.isWritable = true) : s.traced records = .ok () := by
  rw [traced, escape?_trace hwritable, h, Option.map_none, ite_self]

/-- What tracing raises, it raises over all records but none. -/
theorem traced_of_raises {raised : Raised} (h : s.tracingRaises? = some raised)
    {records : List Miss} (hwritable : records.all Miss.isWritable = true) (hne : records ≠ []) :
    s.traced records = .error (.ofRaised raised) := by
  rw [traced, escape?_trace hwritable, h, if_neg hne]
  rfl

/-- Tracing records that stand behind each other comes to what tracing either of them comes to. -/
theorem traced_append (s : Session) {records records' : List Miss}
    (hwritable : records.all Miss.isWritable = true)
    (hwritable' : records'.all Miss.isWritable = true) :
    s.traced (records ++ records') = (do
      s.traced records'
      s.traced records) := by
  have hboth : (records ++ records').all Miss.isWritable = true := by
    rw [List.all_append, hwritable, hwritable', Bool.and_self]
  cases hraises : s.tracingRaises? with
  | none =>
      rw [traced_of_quiet hraises hboth, traced_of_quiet hraises hwritable',
        traced_of_quiet hraises hwritable]
      rfl
  | some raised =>
      by_cases hnil : records' = []
      · rw [hnil, List.append_nil]
        rfl
      · rw [traced_of_raises hraises hwritable' hnil,
          traced_of_raises hraises hboth (List.append_ne_nil_of_right_ne_nil records hnil)]
        rfl

/-- The value is what the lookup comes to with the fallback, once the records are traced. -/
theorem value_eq_bind (s : Session) (q : Query) (fallback : Value) :
    s.value q fallback = (do
      s.traced (q.lookup s.settings.admitsAttributes).records
      (q.lookup s.settings.admitsAttributes).ending.orElse fallback) := by
  rw [value, look_result, traced]
  cases (s.trace (q.lookup s.settings.admitsAttributes).records).2.escape? with
  | some e => rfl
  | none => exact Ending.map_value_answer _ fallback

/-- The value that a session answers to a path. -/
theorem value_path (s : Session) (root p fallback : Value) :
    s.value (.path root p) fallback = (do
      s.traced (root.lookup s.settings.admitsAttributes p).records
      (root.lookup s.settings.admitsAttributes p).ending.orElse fallback) :=
  value_eq_bind s (.path root p) fallback

/-- The value that a session answers to a list of paths. -/
theorem value_first (s : Session) (root : Value) (paths : List Value) (fallback : Value) :
    s.value (.first root (.run .list paths)) fallback = (do
      s.traced (root.firstPresent s.settings.admitsAttributes paths).records
      (root.firstPresent s.settings.admitsAttributes paths).ending.orElse fallback) :=
  value_eq_bind s (.first root (.run .list paths)) fallback

/-- **A list of paths is a chain of fallbacks**, as far as the paths are tried: each one has the
answer of those behind it for its fallback. This holds whatever tracing raises. -/
theorem value_first_eq_foldrM_tried (hroot : root ≠ .notFound)
    (h : root.Uninterrupted s.settings.admitsAttributes paths) (fallback : Value) :
    s.value (.first root (.run .list paths)) fallback =
      (root.tried s.settings.admitsAttributes paths).foldrM
        (fun p rest => s.value (.path root p) rest) fallback := by
  induction paths with
  | nil => rfl
  | cons path rest ih =>
      rcases h.cases hroot List.mem_cons_self with ⟨w, hhit, hw⟩ | hmiss
      · rw [Value.tried_cons_of_hit hhit, List.foldrM_cons, List.foldrM_nil, pure_bind,
          value_first, Value.firstPresent_cons_of_hit hhit hw, value_path]
      · obtain ⟨v, hv⟩ := Ending.exists_orElse_eq_ok h.tail.firstPresent_ne_escaped fallback
        have hpath := Value.isWritable_records_lookup s.settings.admitsAttributes root path
        have hrest := Value.isWritable_records_firstPresent s.settings.admitsAttributes root rest
        rw [Value.tried_cons_of_miss hmiss, List.foldrM_cons, ← ih h.tail, value_first, value_first,
          Value.firstPresent_cons_of_miss hmiss, Lookup.after, traced_append s hpath hrest, hv]
        simp only [value_path, hmiss, Ending.orElse, bind_assoc]
        rfl

/-- If tracing raises nothing, all paths may be looked up. -/
theorem value_first_eq_foldrM (hquiet : s.tracingRaises? = none) (hroot : root ≠ .notFound)
    (h : root.Uninterrupted s.settings.admitsAttributes paths) (fallback : Value) :
    s.value (.first root (.run .list paths)) fallback =
      paths.foldrM (fun p rest => s.value (.path root p) rest) fallback := by
  have htraced : ∀ p, s.traced (root.lookup s.settings.admitsAttributes p).records = .ok () :=
    fun p => traced_of_quiet hquiet (Value.isWritable_records_lookup _ root p)
  rw [value_first, traced_of_quiet hquiet (Value.isWritable_records_firstPresent _ root paths)]
  simp only [value_path, htraced]
  exact Value.orElse_firstPresent_eq_foldrM hroot h fallback

/-- **The reports of a list of paths** are those of the paths that are tried, one path after
another, if no handler raises anything. -/
theorem reports_first (hroot : root ≠ .notFound)
    (h : root.Uninterrupted s.settings.admitsAttributes paths)
    (hquiet : s.logger.raised? = none) (fallback : Value) :
    (s.look (.first root (.run .list paths)) fallback).2.reports =
      (root.tried s.settings.admitsAttributes paths).flatMap fun p =>
        (s.look (.path root p) fallback).2.reports := by
  by_cases hreports : s.ReportsMisses
  · have hwritable := Value.isWritable_records_firstPresent s.settings.admitsAttributes root paths
    have hpath : ∀ p, (s.look (.path root p) fallback).2.reports =
        (root.lookup s.settings.admitsAttributes p).records.map s.logger.reportOf :=
      fun p => reports_trace_of_quiet hreports hquiet (Value.isWritable_records_lookup _ root p)
    simp only [hpath]
    rw [look_reports, Query.lookup_first, reports_trace_of_quiet hreports hquiet hwritable,
      Value.records_firstPresent hroot h, List.map_flatMap]
  · simp only [look_reports, reports_trace_of_not_reportsMisses hreports]
    exact (List.flatMap_eq_nil_iff.mpr fun _ _ => rfl).symm

/-- **A list of paths is a chain of fallbacks.** Let the root be no mark of an absent member. In
every session and with every fallback, if nothing interrupts the lookups of the paths,

* the list comes to what the right fold comes to that looks each path up with the rest of the list
  for its fallback;
* a session answers the same to the list as it does path by path, if tracing is quiet, and whatever
  tracing raises if only the paths up to the first that hits are asked for;
* the records are those of these paths, one path after another, and so are the reports, if no
  handler raises anything.

And if one of the paths hits, then more paths behind them change neither the answer, nor the
session, nor the records, even if their lookups are interrupted. -/
theorem first_is_chain_of_fallbacks (s : Session) {root : Value} (hroot : root ≠ .notFound)
    (paths : List Value) (fallback : Value) :
    (root.Uninterrupted s.settings.admitsAttributes paths →
      (root.firstPresent s.settings.admitsAttributes paths).ending.orElse fallback =
        paths.foldrM
          (fun p rest => (root.lookup s.settings.admitsAttributes p).ending.orElse rest) fallback ∧
      (s.TracesQuietly →
        s.value (.first root (.run .list paths)) fallback =
          paths.foldrM (fun p rest => s.value (.path root p) rest) fallback) ∧
      s.value (.first root (.run .list paths)) fallback =
        (root.tried s.settings.admitsAttributes paths).foldrM
          (fun p rest => s.value (.path root p) rest) fallback ∧
      (root.firstPresent s.settings.admitsAttributes paths).records =
        (root.tried s.settings.admitsAttributes paths).flatMap
          (fun p => (root.lookup s.settings.admitsAttributes p).records) ∧
      ((∀ handler ∈ s.logger.handlers, handler.raises? = none) →
        (s.look (.first root (.run .list paths)) fallback).2.reports =
          (root.tried s.settings.admitsAttributes paths).flatMap
            (fun p => (s.look (.path root p) fallback).2.reports))) ∧
    ((∃ p ∈ paths, (root.lookup s.settings.admitsAttributes p).ending.isHit = true) →
      ∀ more,
        root.firstPresent s.settings.admitsAttributes (paths ++ more) =
          root.firstPresent s.settings.admitsAttributes paths ∧
        s.look (.first root (.run .list (paths ++ more))) fallback =
          s.look (.first root (.run .list paths)) fallback) := by
  refine ⟨fun h => ⟨Value.orElse_firstPresent_eq_foldrM hroot h fallback, fun hquiet => ?_,
    value_first_eq_foldrM_tried hroot h fallback, Value.records_firstPresent hroot h,
    fun hhandlers => ?_⟩, ?_⟩
  · exact value_first_eq_foldrM hquiet.tracingRaises? hroot h fallback
  · exact reports_first hroot h (List.findSome?_eq_none_iff.mpr hhandlers) fallback
  · intro hhit more
    have hmore := Value.firstPresent_append_of_isHit hroot hhit more
    have hlookup : (Query.first root (.run .list (paths ++ more))).lookup
        s.settings.admitsAttributes =
          (Query.first root (.run .list paths)).lookup s.settings.admitsAttributes := hmore
    exact ⟨hmore, look_congr (congrArg Lookup.ending hlookup) (congrArg Lookup.records hlookup)⟩

/-- A path that is no text, one that fails and one that hits, in front of one whose lookup is
interrupted. -/
theorem first_is_chain_of_fallbacks_interrupted :
    let s : Session := .forLookups (.bool true) (.bool true)
    let root : Value := .table .plain
      [(.text "a", .null),
        (.text "b", .mapping [] (.raises (.interrupt "KeyboardInterrupt")) none)]
    let paths : List Value := [.int 3, .text "c", .text "a"]
    root ≠ .notFound ∧ root.Uninterrupted s.settings.admitsAttributes paths ∧ s.TracesQuietly ∧
      (∃ p ∈ paths, (root.lookup s.settings.admitsAttributes p).ending.isHit = true) ∧
      s.value (.first root (.run .list paths)) (.int 7) =
        paths.foldrM (fun p rest => s.value (.path root p) rest) (.int 7) ∧
      (s.look (.path root (.text "b.d")) (.int 7)).2.result =
        .error (.interrupt "KeyboardInterrupt") ∧
      s.look (.first root (.run .list (paths ++ [.text "b.d"]))) (.int 7) =
        s.look (.first root (.run .list paths)) (.int 7) := by
  intro s root paths
  have hroot : root ≠ .notFound := by simp [root]
  have hquiet : s.TracesQuietly := tracesQuietly_forLookups true (.bool true)
  have huninterrupted : root.Uninterrupted s.settings.admitsAttributes paths := by
    refine Value.uninterrupted_iff.mpr fun p hp e => ?_
    simp only [paths, List.mem_cons, List.not_mem_nil, or_false] at hp
    rcases hp with rfl | rfl | rfl <;> rintro ⟨⟩
  have hhit : ∃ p ∈ paths, (root.lookup s.settings.admitsAttributes p).ending.isHit = true :=
    ⟨.text "a", by simp [paths], rfl⟩
  obtain ⟨hchain, hmore⟩ := first_is_chain_of_fallbacks s hroot paths (.int 7)
  obtain ⟨-, hvalue, -⟩ := hchain huninterrupted
  exact ⟨hroot, huninterrupted, hquiet, hhit, hvalue hquiet, rfl, (hmore hhit [.text "b.d"]).2⟩

end Session

end SafeLookup
