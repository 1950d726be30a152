import SafeLookup.Proofs.Session.Look
import SafeLookup.Proofs.Walk.Failure
import SafeLookup.Proofs.Walk.First

/-!
# What Escapes From a Lookup

A lookup along names has an answer whatever its containers raise, interruptions apart: every fault
becomes a miss. This module says so for all the ways of asking for a lookup (`Query.AlongNames`): by
a path, which may be any value; by a list of names; by a list of paths; and by an accessor.

What can escape is an interruption that a walk meets on its way (`Query.InterruptedAt`), and it is
that one. Where tracing is quiet there is nothing else (`look_returns_unless_interrupted`). In
general there is one thing more, since tracing is not guarded: with a record at hand, what the flag
for tracing raises when it is asked for its truth, or what a handler raises. Whether a path is a text
at all is asked outside of what a lookup guards as well, but nothing is raised there, because every
value tells its kind.

So a query comes to one outcome: it hits a value, it misses, or something escapes. The outcome is
settled by the query and by what is asked about the attributes of objects. The fallback, the level of
the settings and the logger come in only afterwards: a session answers the value of a hit and the
fallback on a miss (`Ending.answer`), whatever the fallback is, even the mark of a missing value or
of an absent member, and what it reports does not depend on the fallback (`exists_outcome`).

## Proof outline

A walk along names is left by an interruption that it meets and by nothing else
(`Value.walkNames_escaped_iff`), and its records can be written. Both carry over to the lookup of a
path, to a list of paths by induction, and so to queries (`Query.escaped_iff`,
`Query.isWritable_records`). The answer of a session then follows from how the lookup ends.
-/

namespace SafeLookup

/-! ### Walks that a query makes -/

/-- Lists of names can be told apart. -/
theorem Value.ofNames_inj {names names' : List String} (h : Value.ofNames names = .ofNames names') :
    names = names' := by
  obtain ⟨-, hitems⟩ := Value.run.inj h
  exact List.map_injective_iff.mpr (fun _ _ => Value.text.inj) hitems

namespace Query

/-- The queries whose walks go along names: segments come as a list of names, and several paths as a
list. A path may be any value, and an accessor holds nothing but names. -/
inductive AlongNames : Query → Prop
  | path (root p : Value) : AlongNames (.path root p)
  | segments (root : Value) (names : List String) : AlongNames (.segments root (.ofNames names))
  | first (root : Value) (paths : List Value) : AlongNames (.first root (.run .list paths))
  | accessor (a : Accessor) : AlongNames (.accessor a)

/-- **The walks that a query makes**: from which root, and along which names. Of several paths one
has its turn if those in front of it find nothing, and a path that is no text is not walked. -/
inductive Walks (attributes : Admission) : Query → Value → List String → Prop
  | path {root p : Value} {t : String} :
      p.text? = some t →
      Walks attributes (.path root p) root (Path.segments t)
  | segments {root : Value} {names : List String} :
      Walks attributes (.segments root (.ofNames names)) root names
  | first {root p : Value} {before after : List Value} {t : String} :
      (root.firstPresent attributes before).ending = .miss →
      p.text? = some t →
      Walks attributes (.first root (.run .list (before ++ p :: after))) root (Path.segments t)
  | accessor {a : Accessor} :
      Walks attributes (.accessor a) a.root a.segments

/-- **A query is interrupted** at step `i` of a walk that it makes: the walk meets an interruption
there, the one called `kind`. -/
structure InterruptedAt (attributes : Admission) (q : Query) (kind : String) (root : Value)
    (names : List String) (i : ℕ) : Prop where
  /-- The query makes the walk. -/
  walks : q.Walks attributes root names
  /-- The walk meets the interruption. -/
  raises : root.RaisesAt attributes names i (.interrupt kind)

end Query

/-! ### Records that can be written -/

namespace Value

variable {attributes : Admission} {root : Value}

/-- The records of a walk along names can be written. -/
theorem isWritable_records_walkNames (attributes : Admission) (root : Value)
    (names : List String) :
    (root.walkNames attributes names).records.all Miss.isWritable = true := by
  rcases walkNames_cases attributes root names with
    ⟨v, -, hrecords⟩ | ⟨-, hwritable⟩ | ⟨kind, i, -, hrecords, -⟩
  · rw [hrecords, List.all_nil]
  · exact hwritable
  · rw [hrecords, List.all_nil]

/-- The lookup of a text is the walk along its segments. -/
theorem lookup_of_text? {p : Value} {t : String} (h : p.text? = some t) (attributes : Admission)
    (root : Value) : root.lookup attributes p = root.walkNames attributes (Path.segments t) := by
  rw [text?] at h
  split at h
  next t' hcore =>
    obtain rfl := Option.some.inj h
    rw [lookup, hcore]
  next => cases h

/-- The lookup of anything but a text makes no step: it coalesces, or it misses without a record. -/
theorem lookup_of_text?_eq_none {p : Value} (h : p.text? = none) (attributes : Admission)
    (root : Value) :
    root.lookup attributes p = root.coalesce ∨ root.lookup attributes p = .ended .miss := by
  rw [text?] at h
  rw [lookup]
  split
  next => exact Or.inl rfl
  next t hcore =>
    rw [hcore] at h
    cases h
  next => exact Or.inr rfl

/-- Coalescing is left by nothing. -/
theorem coalesce_ne_escaped (v : Value) (e : Escape) : v.coalesce.ending ≠ .escaped e := by
  rw [coalesce, Lookup.ended]
  split <;> rintro ⟨⟩

/-- A record of the lookup of a path is one of the walk along its segments. -/
theorem exists_walk_of_mem_lookup {p : Value} {m : Miss}
    (h : m ∈ (root.lookup attributes p).records) :
    ∃ t, p.text? = some t ∧ m ∈ (root.walkNames attributes (Path.segments t)).records := by
  cases htext : p.text? with
  | some t =>
      rw [lookup_of_text? htext] at h
      exact ⟨t, rfl, h⟩
  | none =>
      rcases lookup_of_text?_eq_none htext attributes root with hlookup | hlookup
      · rw [hlookup] at h
        cases h
      · rw [hlookup] at h
        cases h

/-- A record of a list of paths is one of the lookup of a path, path by path. -/
theorem exists_lookup_of_mem_firstPresent {paths : List Value} {m : Miss}
    (h : m ∈ (root.firstPresent attributes paths).records) :
    ∃ p ∈ paths, m ∈ (root.lookup attributes p).records := by
  induction paths with
  | nil => cases h
  | cons path rest ih =>
      rw [firstPresent_cons] at h
      split at h
      next =>
        rcases List.mem_append.mp h with h | h
        · exact ⟨path, List.mem_cons_self, h⟩
        · obtain ⟨p, hp, hm⟩ := ih h
          exact ⟨p, List.mem_cons_of_mem path hp, hm⟩
      next => exact ⟨path, List.mem_cons_self, h⟩

/-- The records of the lookup of a path can be written. -/
theorem isWritable_records_lookup (attributes : Admission) (root p : Value) :
    (root.lookup attributes p).records.all Miss.isWritable = true := by
  refine List.all_eq_true.mpr fun m hm => ?_
  obtain ⟨t, -, hwalk⟩ := exists_walk_of_mem_lookup hm
  exact List.all_eq_true.mp (isWritable_records_walkNames attributes root _) m hwalk

/-- The records of a list of paths can be written. -/
theorem isWritable_records_firstPresent (attributes : Admission) (root : Value)
    (paths : List Value) :
    (root.firstPresent attributes paths).records.all Miss.isWritable = true := by
  refine List.all_eq_true.mpr fun m hm => ?_
  obtain ⟨p, -, hlookup⟩ := exists_lookup_of_mem_firstPresent hm
  exact List.all_eq_true.mp (isWritable_records_lookup attributes root p) m hlookup

/-! ### What escapes -/

/-- What escapes from the lookup of a path escapes from the walk along its segments. -/
theorem lookup_escaped_iff {p : Value} {e : Escape} :
    (root.lookup attributes p).ending = .escaped e ↔
      ∃ t, p.text? = some t ∧
        (root.walkNames attributes (Path.segments t)).ending = .escaped e := by
  cases htext : p.text? with
  | some t =>
      rw [lookup_of_text? htext]
      simp only [Option.some.injEq, exists_eq_left']
  | none =>
      simp only [reduceCtorEq, false_and, exists_false, iff_false]
      rcases lookup_of_text?_eq_none htext attributes root with hlookup | hlookup
      · rw [hlookup]
        exact coalesce_ne_escaped root e
      · rw [hlookup]
        rintro ⟨⟩

end Value

namespace Query

variable {attributes : Admission} {q : Query}

/-- The records of a query along names can be written. -/
theorem isWritable_records (hq : q.AlongNames) (attributes : Admission) :
    (q.lookup attributes).records.all Miss.isWritable = true := by
  cases hq with
  | path root p => exact Value.isWritable_records_lookup attributes root p
  | segments root names =>
      rw [lookup, Value.walkAlong_ofNames]
      exact Value.isWritable_records_walkNames attributes root names
  | first root paths => exact Value.isWritable_records_firstPresent attributes root paths
  | accessor a => exact Value.isWritable_records_walkNames attributes a.root a.segments

/-- What escapes from a query along names escapes from a walk that it makes. -/
theorem escaped_iff_exists_walks (hq : q.AlongNames) {e : Escape} :
    (q.lookup attributes).ending = .escaped e ↔
      ∃ root names, q.Walks attributes root names ∧
        (root.walkNames attributes names).ending = .escaped e := by
  cases hq with
  | path root p =>
      rw [lookup, Value.lookup_escaped_iff]
      constructor
      · rintro ⟨t, htext, hescaped⟩
        exact ⟨root, _, Walks.path htext, hescaped⟩
      · rintro ⟨_, _, hwalks, hescaped⟩
        cases hwalks with
        | path htext => exact ⟨_, htext, hescaped⟩
  | segments root names =>
      rw [lookup, Value.walkAlong_ofNames]
      constructor
      · intro hescaped
        exact ⟨root, names, Walks.segments, hescaped⟩
      · rintro ⟨root', names', hwalks, hescaped⟩
        generalize hsegments : Value.ofNames names = segments at hwalks
        cases hwalks
        rwa [Value.ofNames_inj hsegments]
  | first root paths =>
      have hfirst : (Query.first root (.run .list paths)).lookup attributes =
          root.firstPresent attributes paths := rfl
      rw [hfirst, Value.firstPresent_escaped_iff]
      constructor
      · rintro ⟨before, p, after, rfl, hbefore, hescaped⟩
        obtain ⟨t, htext, hwalk⟩ := Value.lookup_escaped_iff.mp hescaped
        exact ⟨root, _, Walks.first hbefore htext, hwalk⟩
      · rintro ⟨_, _, hwalks, hescaped⟩
        cases hwalks with
        | first hbefore htext =>
            exact ⟨_, _, _, rfl, hbefore, Value.lookup_escaped_iff.mpr ⟨_, htext, hescaped⟩⟩
  | accessor a =>
      constructor
      · intro hescaped
        exact ⟨a.root, a.segments, Walks.accessor, hescaped⟩
      · rintro ⟨_, _, hwalks, hescaped⟩
        cases hwalks with
        | accessor => exact hescaped

/-- **What escapes from a query along names is an interruption** that one of its walks meets. -/
theorem escaped_iff (hq : q.AlongNames) {e : Escape} :
    (q.lookup attributes).ending = .escaped e ↔
      ∃ kind, e = .interrupt kind ∧
        ∃ root names i, q.InterruptedAt attributes kind root names i := by
  simp only [escaped_iff_exists_walks hq, Value.walkNames_escaped_iff]
  constructor
  · rintro ⟨root, names, hwalks, kind, i, rfl, hraises⟩
    exact ⟨kind, rfl, root, names, i, hwalks, hraises⟩
  · rintro ⟨kind, rfl, root, names, i, hwalks, hraises⟩
    exact ⟨root, names, hwalks, kind, i, rfl, hraises⟩

end Query

/-! ### What a session answers -/

/-- A lookup that nothing leaves comes to a value. -/
theorem Ending.exists_orElse_eq_ok {ending : Ending} (h : ∀ e, ending ≠ .escaped e)
    (fallback : Value) : ∃ v, ending.orElse fallback = .ok v := by
  cases ending with
  | hit v => exact ⟨v, rfl⟩
  | miss => exact ⟨fallback, rfl⟩
  | escaped e => exact absurd rfl (h e)

namespace Session

/-- **A lookup returns**: it has an answer, and no walk that it makes meets an interruption. -/
def Returns (s : Session) (q : Query) (fallback : Value) : Prop :=
  (∃ found, (s.look q fallback).2.result = .ok found) ∧
    ∀ kind root names i, ¬q.InterruptedAt s.settings.admitsAttributes kind root names i

/-- **A lookup is interrupted**: an interruption leaves it, and a walk that it makes meets that one
and nothing else that is raised. -/
def Interrupts (s : Session) (q : Query) (fallback : Value) : Prop :=
  ∃ kind, (s.look q fallback).2.result = .error (.interrupt kind) ∧
    ∃ root names i, q.InterruptedAt s.settings.admitsAttributes kind root names i ∧
      ∀ j raised, root.RaisesAt s.settings.admitsAttributes names j raised →
        j = i ∧ raised = .interrupt kind

/-- A lookup along names that answers what it comes to returns or is interrupted. -/
theorem returns_or_interrupts {s : Session} {q : Query} (hq : q.AlongNames) {fallback : Value}
    (h : (s.look q fallback).2.result =
      (q.lookup s.settings.admitsAttributes).ending.answer fallback) :
    s.Returns q fallback ∨ s.Interrupts q fallback := by
  rw [Ending.answer_eq_map] at h
  by_cases hescaped : ∃ e, (q.lookup s.settings.admitsAttributes).ending = .escaped e
  · obtain ⟨e, hending⟩ := hescaped
    obtain ⟨kind, rfl, root, names, i, hinterrupted⟩ := (Query.escaped_iff hq).mp hending
    rw [hending] at h
    refine Or.inr ⟨kind, h, root, names, i, hinterrupted, fun j raised hraises => ?_⟩
    exact hraises.unique hinterrupted.raises
  · obtain ⟨v, hanswer⟩ := Ending.exists_orElse_eq_ok (not_exists.mp hescaped) fallback
    rw [hanswer] at h
    refine Or.inl ⟨⟨_, h⟩, fun kind root names i hinterrupted => hescaped ⟨.interrupt kind, ?_⟩⟩
    exact (Query.escaped_iff hq).mpr ⟨kind, rfl, root, names, i, hinterrupted⟩

/-- What a lookup leaves behind and what it reports do not depend on the fallback. -/
theorem look_congr_fallback (s : Session) (q : Query) (fallback fallback' : Value) :
    (s.look q fallback).1 = (s.look q fallback').1 ∧
      (s.look q fallback).2.reports = (s.look q fallback').2.reports :=
  ⟨rfl, rfl⟩

end Session

end SafeLookup
