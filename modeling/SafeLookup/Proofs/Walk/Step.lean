import Mathlib.Data.Nat.Notation
import SafeLookup.Walk

/-!
# A Walk as a Run of Steps

`Value.walkFrom` makes a step, looks at what came of it, and goes on. This module separates the
three: `Value.step` is one step, `Value.descend` is the run of steps without the last look at
the value at the end, and `Progress.settle` is that look. Everything a step can do is listed
once (`step_eq_reached_iff`, `endsAt_of_step`), and what holds of runs is derived from steps.

## Main results

* `walkFrom_eq_settle`: a walk is its run of steps, settled at the end.
* `descend_append`: a run along two lists is the run along the second from where the first
  arrives.
* `exists_step_of_descend`, `endsAt_of_descend`: what a run ends with before its end is what one of
  its steps ends with, a miss that it records or an escape.
-/

namespace SafeLookup

/-- How far a walk has come: to a value, with the ledger so far, or to its end before all steps
were made. -/
inductive Progress where
  | reached (value : Value) (ledger : List (ℕ × Access))
  | ended (lookup : Lookup)

namespace Progress

/-- Puts an earlier ledger in front. -/
def after (asked : List (ℕ × Access)) : Progress → Progress
  | reached v ledger => reached v (asked ++ ledger)
  | ended l => ended (l.after [] asked)

/-- Goes on from the value that was reached. -/
def andThen (p : Progress) (next : Value → Progress) : Progress :=
  match p with
  | reached v asked => (next v).after asked
  | ended l => ended l

/-- The lookup of a walk with `steps` steps: the value at the end is looked at if it was
reached. -/
def settle (steps : ℕ) : Progress → Lookup
  | reached v asked => (v.arrive steps).after [] asked
  | ended l => l

end Progress

/-- What the reply to a step comes to. -/
def Reply.progress (index : ℕ) (s : Segment) (asked : List (ℕ × Access)) : Reply → Progress
  | found member => .reached member asked
  | absent => .ended ((Lookup.missed .notFound index (some s)).after [] asked)
  | closed => .ended ((Lookup.missed .notTraversable index (some s)).after [] asked)
  | raised (.fault f) => .ended ((Lookup.missed (.container f) index (some s)).after [] asked)
  | raised (.interrupt name) =>
      .ended ((Lookup.ended (.escaped (.interrupt name))).after [] asked)

namespace Value

/-- One step of a walk, with the index `index`. -/
def step (attributes : Admission) (v : Value) (index : ℕ) (s : Segment) : Progress :=
  match v.refuse? index s with
  | some refused => .ended refused
  | none =>
      (v.member attributes s).reply.progress index s
        ((v.member attributes s).ledger.map fun access => (index, access))

/-- The run of steps along some segments, the first of which has the index `index`. -/
def descend (attributes : Admission) (v : Value) (index : ℕ) : List Segment → Progress
  | [] => .reached v []
  | s :: rest =>
      (v.step attributes index s).andThen fun member =>
        descend attributes member (index + 1) rest

end Value

/-! ### Ledgers in front of each other -/

@[simp] theorem Lookup.after_nil (l : Lookup) : l.after [] [] = l := rfl

@[simp] theorem Lookup.after_after (l : Lookup) (asked asked' : List (ℕ × Access)) :
    (l.after [] asked').after [] asked = l.after [] (asked ++ asked') := by
  simp [Lookup.after]

namespace Progress

@[simp] theorem after_reached (asked ledger : List (ℕ × Access)) (v : Value) :
    (reached v ledger).after asked = reached v (asked ++ ledger) := rfl

@[simp] theorem after_ended (asked : List (ℕ × Access)) (l : Lookup) :
    (ended l).after asked = ended (l.after [] asked) := rfl

@[simp] theorem andThen_reached (v : Value) (asked : List (ℕ × Access))
    (next : Value → Progress) : (reached v asked).andThen next = (next v).after asked := rfl

@[simp] theorem andThen_ended (l : Lookup) (next : Value → Progress) :
    (ended l).andThen next = ended l := rfl

@[simp] theorem settle_reached (steps : ℕ) (v : Value) (asked : List (ℕ × Access)) :
    (reached v asked).settle steps = (v.arrive steps).after [] asked := rfl

@[simp] theorem settle_ended (steps : ℕ) (l : Lookup) : (ended l).settle steps = l := rfl

/-- An empty ledger in front changes nothing. -/
@[simp] theorem after_nil (p : Progress) : p.after [] = p := by
  cases p <;> simp

/-- Ledgers in front of each other are one. -/
theorem after_after (p : Progress) (asked asked' : List (ℕ × Access)) :
    (p.after asked').after asked = p.after (asked ++ asked') := by
  cases p <;> simp

/-- A ledger in front stays in front of what comes next. -/
theorem andThen_after (p : Progress) (asked : List (ℕ × Access)) (next : Value → Progress) :
    (p.after asked).andThen next = (p.andThen next).after asked := by
  cases p <;> simp [after_after]

/-- Going on twice is going on once. -/
theorem andThen_assoc (p : Progress) (next last : Value → Progress) :
    (p.andThen next).andThen last = p.andThen fun v => (next v).andThen last := by
  cases p <;> simp [andThen_after]

/-- A ledger in front decides nothing about the value that is reached. -/
theorem exists_after_eq_reached_iff {p : Progress} {asked : List (ℕ × Access)} {w : Value} :
    (∃ ledger, p.after asked = .reached w ledger) ↔ ∃ ledger, p = .reached w ledger := by
  cases p <;> simp

/-- What goes on and reaches a value has reached another one before. -/
theorem exists_andThen_eq_reached_iff {p : Progress} {next : Value → Progress} {w : Value} :
    (∃ ledger, p.andThen next = .reached w ledger) ↔
      ∃ m, (∃ asked, p = .reached m asked) ∧ ∃ ledger, next m = .reached w ledger := by
  cases p with
  | ended l => simp
  | reached v asked =>
      rw [andThen_reached, exists_after_eq_reached_iff]
      constructor
      · intro h
        exact ⟨v, ⟨asked, rfl⟩, h⟩
      · rintro ⟨m, ⟨_, ⟨⟩⟩, h⟩
        exact h

/-- A ledger in front stays in front when the walk is settled. -/
theorem settle_after (p : Progress) (asked : List (ℕ × Access)) (steps : ℕ) :
    (p.after asked).settle steps = (p.settle steps).after [] asked := by
  cases p <;> simp

end Progress

/-! ### The ways to end -/

namespace Lookup

/-- The two ways in which a step ends a walk: a miss with one record, of this step and for another
reason than an unset end, or an escape without a record. -/
def EndsAt (l : Lookup) (index : ℕ) (s : Segment) : Prop :=
  (∃ reason, reason ≠ .unset ∧ l.ending = .miss ∧ l.records = [⟨reason, index, some s⟩]) ∨
    ∃ e, l.ending = .escaped e ∧ l.records = []

/-- A recorded miss is a way to end. -/
theorem endsAt_missed {reason : Reason} (h : reason ≠ .unset) (index : ℕ) (s : Segment)
    (asked : List (ℕ × Access)) :
    ((missed reason index (some s)).after [] asked).EndsAt index s :=
  Or.inl ⟨reason, h, rfl, rfl⟩

/-- An escape is a way to end. -/
theorem endsAt_escaped (e : Escape) (index : ℕ) (s : Segment) (asked : List (ℕ × Access)) :
    ((ended (.escaped e)).after [] asked).EndsAt index s :=
  Or.inr ⟨e, rfl, rfl⟩

/-- What ends at a step hits nothing. -/
theorem EndsAt.ne_hit {l : Lookup} {index : ℕ} {s : Segment} (h : l.EndsAt index s)
    (v : Value) : l.ending ≠ .hit v := by
  rcases h with ⟨reason, -, hmiss, -⟩ | ⟨e, hesc, -⟩
  · rw [hmiss]
    rintro ⟨⟩
  · rw [hesc]
    rintro ⟨⟩

end Lookup

namespace Value

/-! ### Walks and runs -/

/-- The first step of a walk decides whether there are others. -/
theorem walkFrom_cons (attributes : Admission) (v : Value) (index : ℕ) (s : Segment)
    (rest : List Segment) :
    walkFrom attributes v index (s :: rest) =
      match v.step attributes index s with
      | .reached member asked => (walkFrom attributes member (index + 1) rest).after [] asked
      | .ended l => l := by
  rw [walkFrom, step]
  cases v.refuse? index s with
  | some refused => rfl
  | none =>
      obtain ⟨reply, ledger⟩ := v.member attributes s
      cases reply with
      | found member => rfl
      | absent => rfl
      | closed => rfl
      | raised raised => cases raised <;> rfl

/-- **A walk is its run of steps**, settled at the end. -/
theorem walkFrom_eq_settle (attributes : Admission) (v : Value) (index : ℕ)
    (ss : List Segment) :
    walkFrom attributes v index ss =
      (v.descend attributes index ss).settle (index + ss.length) := by
  induction ss generalizing v index with
  | nil => rfl
  | cons s rest ih =>
      rw [walkFrom_cons, descend, List.length_cons]
      cases v.step attributes index s with
      | ended l => rfl
      | reached member asked =>
          dsimp only
          rw [ih, Progress.andThen_reached, Progress.settle_after]
          congr 2
          omega

/-- A walk with a step is its run of steps from the root. -/
theorem walk_eq_settle (attributes : Admission) (root : Value) {ss : List Segment}
    (h : ss ≠ []) :
    root.walk attributes ss = (root.descend attributes 0 ss).settle ss.length := by
  obtain ⟨s, rest, rfl⟩ := List.exists_cons_of_ne_nil h
  rw [walk, walkFrom_eq_settle, Nat.zero_add]

/-- **Runs compose**: a run along two lists is the run along the second one, from where the
first one arrives. -/
theorem descend_append (attributes : Admission) (v : Value) (index : ℕ)
    (ss ts : List Segment) :
    v.descend attributes index (ss ++ ts) =
      (v.descend attributes index ss).andThen fun r =>
        r.descend attributes (index + ss.length) ts := by
  induction ss generalizing v index with
  | nil => simp [descend]
  | cons s rest ih =>
      rw [List.cons_append, descend, descend, Progress.andThen_assoc]
      congr 1
      funext member
      rw [ih, List.length_cons]
      congr 1
      funext r
      congr 1
      omega

/-- A run of one step is the step. -/
theorem descend_singleton (attributes : Admission) (v : Value) (index : ℕ) (s : Segment) :
    v.descend attributes index [s] = v.step attributes index s := by
  rw [descend]
  cases v.step attributes index s with
  | ended l => rfl
  | reached m asked =>
      rw [Progress.andThen_reached, descend, Progress.after_reached, List.append_nil]

/-! ### What a step can do -/

/-- A reply leads on if it brings a member. -/
theorem progress_eq_reached_iff {reply : Reply} {index : ℕ} {s : Segment} {m : Value}
    {asked ledger : List (ℕ × Access)} :
    reply.progress index s asked = .reached m ledger ↔ reply = .found m ∧ ledger = asked := by
  cases reply with
  | found member => simp [Reply.progress, eq_comm]
  | absent => simp [Reply.progress]
  | closed => simp [Reply.progress]
  | raised raised => cases raised <;> simp [Reply.progress]

/-- A step that gets on has asked for a member and found one. -/
theorem step_eq_reached_iff {attributes : Admission} {v m : Value} {index : ℕ} {s : Segment}
    {asked : List (ℕ × Access)} :
    v.step attributes index s = .reached m asked ↔
      v.refuse? index s = none ∧ (v.member attributes s).reply = .found m ∧
        asked = (v.member attributes s).ledger.map fun access => (index, access) := by
  rw [step]
  cases v.refuse? index s with
  | some refused => simp
  | none => simp [progress_eq_reached_iff]

/-- What keeps a walk from asking a value ends it. -/
theorem endsAt_of_refuse? {v : Value} {index : ℕ} {s : Segment} {l : Lookup}
    (h : v.refuse? index s = some l) : l.EndsAt index s := by
  rw [refuse?] at h
  split at h
  next kind _ =>
    obtain rfl := Option.some.inj h
    exact Lookup.endsAt_escaped _ index s []
  next =>
    split at h
    · obtain rfl := Option.some.inj h
      exact Lookup.endsAt_missed (by rintro ⟨⟩) index s []
    · split at h
      · obtain rfl := Option.some.inj h
        exact Lookup.endsAt_missed (by rintro ⟨⟩) index s []
      · cases h

/-- A reply that brings no member ends the walk. -/
theorem endsAt_of_progress {reply : Reply} {index : ℕ} {s : Segment} {l : Lookup}
    {asked : List (ℕ × Access)} (h : reply.progress index s asked = .ended l) :
    l.EndsAt index s := by
  cases reply with
  | found member => cases h
  | absent =>
      obtain rfl := Progress.ended.inj h
      exact Lookup.endsAt_missed (by rintro ⟨⟩) index s asked
  | closed =>
      obtain rfl := Progress.ended.inj h
      exact Lookup.endsAt_missed (by rintro ⟨⟩) index s asked
  | raised raised =>
      cases raised with
      | fault f =>
          obtain rfl := Progress.ended.inj h
          exact Lookup.endsAt_missed (by rintro ⟨⟩) index s asked
      | interrupt name =>
          obtain rfl := Progress.ended.inj h
          exact Lookup.endsAt_escaped _ index s asked

/-- **How a step ends a walk**: with a miss that it records, or with an escape. -/
theorem endsAt_of_step {attributes : Admission} {v : Value} {index : ℕ} {s : Segment}
    {l : Lookup} (h : v.step attributes index s = .ended l) : l.EndsAt index s := by
  rw [step] at h
  cases hrefuse : v.refuse? index s with
  | some refused =>
      rw [hrefuse] at h
      obtain rfl := Progress.ended.inj h
      exact endsAt_of_refuse? hrefuse
  | none =>
      rw [hrefuse] at h
      exact endsAt_of_progress h

/-- **Where a run ends before its end**: at one of its steps, made from the value to which the steps
in front of it lead. -/
theorem exists_step_of_descend {attributes : Admission} {v : Value} {index : ℕ}
    {ss : List Segment} {l : Lookup} (h : v.descend attributes index ss = .ended l) :
    ∃ i s w asked l', ss[i]? = some s ∧
      v.descend attributes index (ss.take i) = .reached w asked ∧
      w.step attributes (index + i) s = .ended l' ∧ l = l'.after [] asked := by
  induction ss generalizing v index l with
  | nil => cases h
  | cons s rest ih =>
      rw [descend] at h
      cases hstep : v.step attributes index s with
      | ended l' =>
          rw [hstep] at h
          obtain rfl := Progress.ended.inj h
          exact ⟨0, s, v, [], l', rfl, rfl, hstep, rfl⟩
      | reached member asked =>
          rw [hstep, Progress.andThen_reached] at h
          cases hrest : descend attributes member (index + 1) rest with
          | reached v' ledger =>
              rw [hrest] at h
              cases h
          | ended l' =>
              rw [hrest] at h
              obtain rfl := Progress.ended.inj h
              obtain ⟨i, t, w, asked', l'', ht, hreached, hends, rfl⟩ := ih hrest
              refine ⟨i + 1, t, w, asked ++ asked', l'', by simpa using ht, ?_, ?_, ?_⟩
              · rw [List.take_succ_cons, descend, hstep, Progress.andThen_reached, hreached,
                  Progress.after_reached]
              · rw [show index + (i + 1) = index + 1 + i by omega]
                exact hends
              · exact Lookup.after_after l'' asked asked'

/-- A step that ends a run ends every run that comes to it. -/
theorem descend_of_step_ended {attributes : Admission} {v w : Value} {index i : ℕ}
    {ss : List Segment} {s : Segment} {asked : List (ℕ × Access)} {l : Lookup}
    (hs : ss[i]? = some s) (hreached : v.descend attributes index (ss.take i) = .reached w asked)
    (hstep : w.step attributes (index + i) s = .ended l) :
    v.descend attributes index ss = .ended (l.after [] asked) := by
  obtain ⟨hlt, rfl⟩ := List.getElem?_eq_some_iff.mp hs
  have hsplit : ss = ss.take i ++ ss[i] :: ss.drop (i + 1) := by
    rw [List.getElem_cons_drop, List.take_append_drop]
  have hlength : (ss.take i).length = i := List.length_take_of_le (Nat.le_of_lt hlt)
  rw [hsplit, descend_append, hreached, hlength, Progress.andThen_reached, descend, hstep,
    Progress.andThen_ended, Progress.after_ended]

/-- **How a run ends before its end**: with what one of its steps ends with. -/
theorem endsAt_of_descend {attributes : Admission} {v : Value} {index : ℕ}
    {ss : List Segment} {l : Lookup} (h : v.descend attributes index ss = .ended l) :
    ∃ i s, ss[i]? = some s ∧ l.EndsAt (index + i) s := by
  obtain ⟨i, s, w, asked, l', hs, -, hstep, rfl⟩ := exists_step_of_descend h
  have hends : l'.EndsAt (index + i) s := endsAt_of_step hstep
  exact ⟨i, s, hs, hends⟩

/-! ### What a walk comes to -/

/-- A walk whose run ends early is what the run ends with. -/
theorem walk_of_descend_ended {attributes : Admission} {root : Value} {ss : List Segment}
    {l : Lookup} (h : root.descend attributes 0 ss = .ended l) : root.walk attributes ss = l := by
  have hne : ss ≠ [] := by
    rintro rfl
    cases h
  rw [walk_eq_settle attributes root hne, h, Progress.settle_ended]

/-- A walk with a step whose run makes all its steps looks at the value at the end. -/
theorem walk_of_descend_reached {attributes : Admission} {root r : Value} {ss : List Segment}
    {asked : List (ℕ × Access)} (hne : ss ≠ [])
    (h : root.descend attributes 0 ss = .reached r asked) :
    root.walk attributes ss = (r.arrive ss.length).after [] asked := by
  rw [walk_eq_settle attributes root hne, h, Progress.settle_reached]

/-- A value that is not unset is hit at the end. -/
theorem arrive_of_ne {v : Value} (h : v ≠ unset) (steps : ℕ) :
    v.arrive steps = .ended (.hit v) := by
  cases v <;> first | rfl | exact absurd rfl h

/-- What the end of a walk hits. -/
theorem arrive_hit_iff {v r : Value} {steps : ℕ} :
    (v.arrive steps).ending = .hit r ↔ v = r ∧ r ≠ unset := by
  by_cases hv : v = unset
  · subst hv
    constructor
    · rintro ⟨⟩
    · rintro ⟨rfl, hne⟩
      exact absurd rfl hne
  · rw [arrive_of_ne hv]
    constructor
    · rintro ⟨⟩
      exact ⟨rfl, hv⟩
    · rintro ⟨rfl, -⟩
      rfl

/-- The nullish values. -/
theorem isNullish_iff {v : Value} : v.isNullish = true ↔ v = null ∨ v = unset := by
  cases v <;> simp [isNullish]

/-- What a walk without steps hits. -/
theorem coalesce_hit_iff {v r : Value} :
    v.coalesce.ending = .hit r ↔ v = r ∧ r ≠ unset ∧ r ≠ null := by
  rw [and_comm (a := r ≠ unset), ← not_or, ← isNullish_iff, coalesce, Lookup.ended]
  cases hnull : v.isNullish with
  | true =>
      constructor
      · rintro ⟨⟩
      · rintro ⟨rfl, hne⟩
        exact absurd hnull hne
  | false =>
      constructor
      · rintro ⟨⟩
        exact ⟨rfl, by simp [hnull]⟩
      · rintro ⟨rfl, -⟩
        rfl

/-- **What a walk hits**: the value where its run arrives, unless that is unset, or, without
steps, the root unless that is nullish. -/
theorem walk_hit_iff {attributes : Admission} {root r : Value} {ss : List Segment} :
    (root.walk attributes ss).ending = .hit r ↔
      (∃ asked, root.descend attributes 0 ss = .reached r asked) ∧
        r ≠ unset ∧ (ss = [] → r ≠ null) := by
  by_cases hnil : ss = []
  · subst hnil
    rw [walk, descend, coalesce_hit_iff]
    simp
  · cases hrun : root.descend attributes 0 ss with
    | ended l =>
        obtain ⟨i, s, -, hends⟩ := endsAt_of_descend hrun
        simp [walk_of_descend_ended hrun, hends.ne_hit]
    | reached v asked =>
        rw [walk_of_descend_reached hnil hrun, Lookup.after, arrive_hit_iff]
        simp [hnil]

end Value

end SafeLookup
