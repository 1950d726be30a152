import SafeLookup.Path.Parsed
import SafeLookup.Proofs.Session.Look
import SafeLookup.Proofs.Walk.Failure
import SafeLookup.Proofs.Walk.First

/-!
# Reserved Names Cut Every Lookup

A reserved name among the names of a walk ends it there, whatever the containers on the way answer.
This module says what that means for the walk as a whole: nothing behind the first reserved name
has a part in it. The walk is the one along the names up to and including that name
(`walkNames_eq_walkNames_take`), it hits nothing (`walkNames_ne_hit`), and every question that it
puts to a container is put for a name in front (`index_lt_of_mem_ledger`).

The tests of a step come in the order that this needs: the name is looked at before the value, and
the value before the container. So the run up to the reserved name decides everything
(`exists_descend_eq_ended`), and what escapes from the walk is an interruption in that run
(`walkNames_miss_or_interrupted`).

`look_cut_at_reserved` draws the conclusions for sessions, paths, lists of paths and accessors.
Where tracing is quiet, nothing but an interruption in front of the name can keep a lookup from its
fallback there. In general a miss leaves a record, and what tracing raises over it leaves the
lookup.
-/

namespace SafeLookup

namespace Value

variable {attributes : Admission} {root : Value} {names : List String} {k : ℕ}

/-! ### The run up to a reserved name -/

/-- A list of names is cut at its first reserved one. -/
theorem exists_append_of_findIdx? (h : names.findIdx? Path.isReserved = some k) :
    ∃ name rest, names = names.take k ++ name :: rest ∧
      names.take (k + 1) = names.take k ++ [name] ∧ (names.take k).length = k ∧
      Path.isReserved name = true := by
  obtain ⟨hlt, hreserved, -⟩ := List.findIdx?_eq_some_iff_getElem.mp h
  refine ⟨names[k], names.drop (k + 1), ?_, ?_, ?_, hreserved⟩
  · rw [List.getElem_cons_drop, List.take_append_drop]
  · rw [List.take_add_one, List.getElem?_eq_getElem hlt, Option.toList_some]
  · exact List.length_take_of_le (Nat.le_of_lt hlt)

/-- A reserved name ends a run without a question. -/
theorem descend_cons_of_isReserved {name : String} (h : Path.isReserved name = true) (v : Value)
    (index : ℕ) (rest : List Segment) :
    v.descend attributes index (.name name :: rest) =
      .ended (.missed .reserved index (some (.name name))) := by
  have hrefuse : v.refuse? index (.name name) =
      some (.missed .reserved index (some (.name name))) := by
    simp [refuse?, Segment.incomparable?, Segment.isReserved, h]
  rw [descend, step, hrefuse]
  rfl

/-- **A run to a reserved name ends there at the latest**, in the same way whatever names follow,
and every question that it has put is noted with the index of a name in front. -/
theorem exists_descend_eq_ended (attributes : Admission) (root : Value)
    (h : names.findIdx? Path.isReserved = some k) :
    ∃ l : Lookup, root.descend attributes 0 (names.map .name) = .ended l ∧
      root.descend attributes 0 ((names.take (k + 1)).map .name) = .ended l ∧
      ∀ entry ∈ l.ledger, entry.1 < k := by
  obtain ⟨name, rest, hnames, htake, hlength, hreserved⟩ := exists_append_of_findIdx? h
  have hrun : ∀ rest : List String,
      root.descend attributes 0 ((names.take k ++ name :: rest).map .name) =
        (root.descend attributes 0 ((names.take k).map .name)).andThen fun _ =>
          .ended (.missed .reserved k (some (.name name))) := by
    intro rest
    rw [List.map_append, descend_append]
    congr 1
    funext v
    rw [List.map_cons, descend_cons_of_isReserved hreserved, Nat.zero_add, List.length_map,
      hlength]
  have hledger : ∀ entry ∈ (root.descend attributes 0 ((names.take k).map .name)).ledger,
      entry.1 < k := by
    intro entry hentry
    obtain ⟨i, name', hindex, hname', -⟩ := serves_of_mem_descend hentry
    obtain ⟨hlt, -⟩ := List.getElem?_eq_some_iff.mp hname'
    omega
  have hwhole := hrun rest
  have hcut := hrun []
  rw [← hnames] at hwhole
  rw [← htake] at hcut
  rw [hwhole, hcut]
  cases hfront : root.descend attributes 0 ((names.take k).map .name) with
  | ended l =>
      rw [hfront] at hledger
      exact ⟨l, rfl, rfl, hledger⟩
  | reached v asked =>
      rw [hfront] at hledger
      refine ⟨_, rfl, rfl, ?_⟩
      simpa [Lookup.after, Lookup.missed] using hledger

/-! ### Walks along names with a reserved one -/

/-- **Nothing behind the first reserved name has a part in a walk.** -/
theorem walkNames_eq_walkNames_take (h : names.findIdx? Path.isReserved = some k) :
    root.walkNames attributes names = root.walkNames attributes (names.take (k + 1)) := by
  obtain ⟨l, hwhole, hcut, -⟩ := exists_descend_eq_ended attributes root h
  rw [walkNames, walkNames, walk_of_descend_ended hwhole, walk_of_descend_ended hcut]

/-- A walk along a reserved name hits nothing. -/
theorem walkNames_ne_hit (h : names.findIdx? Path.isReserved = some k) (v : Value) :
    (root.walkNames attributes names).ending ≠ .hit v := by
  obtain ⟨l, hwhole, -⟩ := exists_descend_eq_ended attributes root h
  obtain ⟨i, s, -, hends⟩ := endsAt_of_descend hwhole
  rw [walkNames, walk_of_descend_ended hwhole]
  exact hends.ne_hit v

/-- Every question of a walk is put in front of its first reserved name. -/
theorem index_lt_of_mem_ledger (h : names.findIdx? Path.isReserved = some k)
    {entry : ℕ × Access} (hentry : entry ∈ (root.walkNames attributes names).ledger) :
    entry.1 < k := by
  obtain ⟨l, hwhole, -, hledger⟩ := exists_descend_eq_ended attributes root h
  rw [walkNames, walk_of_descend_ended hwhole] at hentry
  exact hledger entry hentry

/-- A walk meets what is raised in front of its first reserved name only. -/
theorem lt_of_raisesAt (h : names.findIdx? Path.isReserved = some k) {i : ℕ} {raised : Raised}
    (hi : root.RaisesAt attributes names i raised) : i < k := by
  obtain ⟨name, v, hname, hfree, hleads, -⟩ := hi
  rcases Nat.lt_trichotomy i k with hlt | rfl | hgt
  · exact hlt
  · -- The name at the cut is the reserved one.
    obtain ⟨hlt, hreserved, -⟩ := List.findIdx?_eq_some_iff_getElem.mp h
    rw [List.getElem?_eq_getElem hlt, Option.some.injEq] at hname
    rw [hname, Path.isReserved, List.contains_iff_mem] at hreserved
    exact absurd hreserved hfree
  · -- No run gets past the cut.
    have htake : (names.take i).findIdx? Path.isReserved = some k := by
      rw [List.findIdx?_take, h]
      simp [hgt]
    obtain ⟨l, hended, -⟩ := exists_descend_eq_ended attributes root htake
    obtain ⟨asked, hreached⟩ := descend_eq_reached_iff_leads.mpr hleads
    rw [hreached] at hended
    cases hended

/-- **A walk along a reserved name misses, unless it is interrupted in front of it.** -/
theorem walkNames_miss_or_interrupted (attributes : Admission) (root : Value)
    (h : names.findIdx? Path.isReserved = some k) :
    ((root.walkNames attributes names).ending = .miss ∧
      (root.walkNames attributes names).records.all Miss.isWritable = true) ∨
    ∃ kind, (root.walkNames attributes names).ending = .escaped (.interrupt kind) ∧
      (root.walkNames attributes names).records = [] ∧
      ∃ i < k, root.RaisesAt attributes names i (.interrupt kind) := by
  rcases walkNames_cases attributes root names with
    ⟨v, hhit, -⟩ | hmiss | ⟨kind, i, hescaped, hrecords, hi⟩
  · exact absurd hhit (walkNames_ne_hit h v)
  · exact Or.inl hmiss
  · exact Or.inr ⟨kind, hescaped, hrecords, i, lt_of_raisesAt h hi, hi⟩

/-! ### Paths and lists of paths -/

/-- A path with a reserved name has a first one. -/
theorem exists_findIdx?_of_hasReserved {p : String}
    (h : (ParsedPath.ofPath p).hasReserved = true) :
    ∃ k, (Path.segments p).findIdx? Path.isReserved = some k := by
  rw [← Option.isSome_iff_exists, List.findIdx?_isSome]
  exact h

/-- **A path with a reserved name decides nothing among other paths**: the first of them that hits
is the one that would be without it, or there is none because the lookup is interrupted. -/
theorem firstPresent_append_cons_of_hasReserved {p : String}
    (h : (ParsedPath.ofPath p).hasReserved = true) (before after : List Value) :
    (root.firstPresent attributes (before ++ .text p :: after)).ending =
        (root.firstPresent attributes (before ++ after)).ending ∨
      ∃ kind, (root.firstPresent attributes (before ++ .text p :: after)).ending =
        .escaped (.interrupt kind) := by
  by_cases hbefore : (root.firstPresent attributes before).ending = .miss
  · rw [firstPresent_append_of_miss hbefore, firstPresent_append_of_miss hbefore,
      firstPresent_cons]
    have hlookup : root.lookup attributes (.text p) =
        root.walkNames attributes (Path.segments p) := rfl
    obtain ⟨k, hk⟩ := exists_findIdx?_of_hasReserved h
    rw [hlookup]
    rcases walkNames_miss_or_interrupted attributes root hk with
      ⟨hmiss, -⟩ | ⟨kind, hescaped, -⟩
    · rw [hmiss, if_pos Ending.passes_miss]
      exact Or.inl rfl
    · rw [hescaped, if_neg (by simp)]
      exact Or.inr ⟨kind, hescaped⟩
  · rw [firstPresent_append_of_ne hbefore, firstPresent_append_of_ne hbefore]
    exact Or.inl rfl

end Value

/-! ### Sessions -/

namespace Session

variable {s : Session} {root fallback : Value}

/-- What hits nothing answers no hit. -/
theorem isHit_eq_false_of_look {q : Query} {found : Found}
    (h : ∀ v, (q.lookup s.settings.admitsAttributes).ending ≠ .hit v)
    (hfound : (s.look q fallback).2.result = .ok found) : found.isHit = false := by
  obtain ⟨v, isHit⟩ := found
  cases isHit with
  | false => rfl
  | true => exact absurd (ending_of_look_hit hfound) (h v)

/-- **The lookup of a path with a reserved name is cut**: it answers the fallback, or the walk is
interrupted in front of its first reserved name, and the interruption leaves the lookup. -/
def IsCut (s : Session) (root fallback : Value) (p : String) : Prop :=
  (s.look (.path root (.text p)) fallback).2.result = .ok ⟨fallback, false⟩ ∨
    ∃ kind, (s.look (.path root (.text p)) fallback).2.result = .error (.interrupt kind) ∧
      ∃ k, (Path.segments p).findIdx? Path.isReserved = some k ∧
        ∃ i < k, root.RaisesAt s.settings.admitsAttributes (Path.segments p) i (.interrupt kind)

/-- A path with a reserved name is cut, unless tracing a record raises something. -/
theorem isCut_or_raises {p : String} (h : (ParsedPath.ofPath p).hasReserved = true) :
    s.IsCut root fallback p ∨
      ∃ raised, s.tracingRaises? = some raised ∧
        (s.look (.path root (.text p)) fallback).2.result = .error (.ofRaised raised) := by
  obtain ⟨k, hk⟩ := Value.exists_findIdx?_of_hasReserved h
  rcases Value.walkNames_miss_or_interrupted s.settings.admitsAttributes root hk with
    ⟨hmiss, hwritable⟩ | ⟨kind, hescaped, hrecords, hi⟩
  · rcases look_result_cases (q := .path root (.text p)) s fallback hwritable with
      hanswer | ⟨raised, hraises, -, hleft⟩
    · have hending : ((Query.path root (.text p)).lookup s.settings.admitsAttributes).ending =
        .miss := hmiss
      rw [hending] at hanswer
      exact Or.inl (Or.inl hanswer)
    · exact Or.inr ⟨raised, hraises, hleft⟩
  · refine Or.inl (Or.inr ⟨kind, ?_, k, hk, hi⟩)
    rw [look_of_escaped (q := .path root (.text p)) hescaped hrecords]

end Session

end SafeLookup
