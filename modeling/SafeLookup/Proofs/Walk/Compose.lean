import Mathlib.Tactic.ByContra
import SafeLookup.Proofs.Walk.Step

/-!
# Walking in Two Parts

A walk along `ss ++ ts` is a walk along `ss` and then, from the value that it hits, a walk along
`ts`, whose steps are counted on. Only the end of the first part needs care, because the values
without content are treated differently there: an unset value is a miss at the end of a walk and
has no members in the middle of one, and `null` is a hit at the end of a walk with a step only.

Both parts are runs of steps, and a run does not depend on the index at which it starts except
in the indices that it notes (`descend_shift`). So the equation for runs (`descend_append`)
becomes one for walks (`walk_append_of_reached`), ledger included.
-/

namespace SafeLookup

/-! ### Counting on -/

/-- The record of a step that comes `k` steps later. -/
def Miss.shift (k : ℕ) (m : Miss) : Miss := { m with index := m.index + k }

/-- The ledger of steps that come `k` steps later. -/
def shiftLedger (k : ℕ) (ledger : List (ℕ × Access)) : List (ℕ × Access) :=
  ledger.map fun entry => (entry.1 + k, entry.2)

/-- The lookup of steps that come `k` steps later. -/
def Lookup.shift (k : ℕ) (l : Lookup) : Lookup :=
  ⟨l.ending, l.records.map (Miss.shift k), shiftLedger k l.ledger⟩

/-- The run of steps that come `k` steps later. -/
def Progress.shift (k : ℕ) : Progress → Progress
  | reached v asked => reached v (shiftLedger k asked)
  | ended l => ended (l.shift k)

@[simp] theorem shiftLedger_append (k : ℕ) (asked ledger : List (ℕ × Access)) :
    shiftLedger k (asked ++ ledger) = shiftLedger k asked ++ shiftLedger k ledger :=
  List.map_append

/-- What is asked in a step is noted with the index of the step. -/
theorem shiftLedger_map (k index : ℕ) (accesses : List Access) :
    shiftLedger k (accesses.map fun access => (index, access)) =
      accesses.map fun access => (index + k, access) := by
  simp [shiftLedger]

/-- Counting on does not mind an earlier ledger. -/
theorem Lookup.shift_after (k : ℕ) (l : Lookup) (asked : List (ℕ × Access)) :
    (l.after [] asked).shift k = (l.shift k).after [] (shiftLedger k asked) := by
  simp [Lookup.after, Lookup.shift]

/-- A miss counts on in its record. -/
theorem Lookup.shift_missed (k : ℕ) (reason : Reason) (index : ℕ) (s : Option Segment) :
    (missed reason index s).shift k = missed reason (index + k) s := rfl

/-- A lookup without a step does not count. -/
theorem Lookup.shift_ended (k : ℕ) (ending : Ending) :
    (ended ending).shift k = ended ending := rfl

namespace Progress

/-- Counting on does not mind an earlier ledger. -/
theorem shift_after (k : ℕ) (p : Progress) (asked : List (ℕ × Access)) :
    (p.after asked).shift k = (p.shift k).after (shiftLedger k asked) := by
  cases p with
  | reached v ledger => simp [shift]
  | ended l => simp [shift, Lookup.shift_after]

/-- Counting on in two parts. -/
theorem shift_andThen (k : ℕ) (p : Progress) (next : Value → Progress) :
    (p.andThen next).shift k = (p.shift k).andThen fun v => (next v).shift k := by
  cases p with
  | reached v asked =>
      rw [andThen_reached, shift_after]
      rfl
  | ended l => rfl

/-- Counting on up to the look at the value at the end, if there was a step. -/
theorem settle_shift {steps : ℕ} (h : 0 < steps) (k : ℕ) (p : Progress) :
    (p.shift k).settle (steps + k) = (p.settle steps).shift k := by
  cases p with
  | ended l => rfl
  | reached v asked =>
      have harrive : v.arrive (steps + k) = (v.arrive steps).shift k := by
        by_cases hv : v = .unset
        · subst hv
          rw [Value.arrive, Value.arrive, Lookup.shift_missed]
          congr 1
          omega
        · rw [Value.arrive_of_ne hv, Value.arrive_of_ne hv, Lookup.shift_ended]
      rw [shift, settle_reached, settle_reached, harrive, Lookup.shift_after]

end Progress

namespace Value

/-- What keeps a walk from asking does not depend on the index. -/
theorem refuse?_shift (v : Value) (index k : ℕ) (s : Segment) :
    v.refuse? (index + k) s = (v.refuse? index s).map (Lookup.shift k) := by
  rw [refuse?, refuse?]
  split
  · rfl
  · split
    · rfl
    · split <;> rfl

/-- A step does not depend on its index. -/
theorem step_shift (attributes : Admission) (v : Value) (index k : ℕ) (s : Segment) :
    v.step attributes (index + k) s = (v.step attributes index s).shift k := by
  rw [step, step, refuse?_shift]
  cases v.refuse? index s with
  | some refused => rfl
  | none =>
      rw [Option.map_none, ← shiftLedger_map k index]
      cases (v.member attributes s).reply with
      | found member => rfl
      | absent => simp [Reply.progress, Progress.shift, Lookup.shift_after, Lookup.shift_missed]
      | closed => simp [Reply.progress, Progress.shift, Lookup.shift_after, Lookup.shift_missed]
      | raised raised =>
          cases raised <;>
            simp [Reply.progress, Progress.shift, Lookup.shift_after, Lookup.shift_missed,
              Lookup.shift_ended]

/-- **A run counts its steps and does nothing else with the count.** -/
theorem descend_shift (attributes : Admission) (v : Value) (index k : ℕ) (ss : List Segment) :
    v.descend attributes (index + k) ss = (v.descend attributes index ss).shift k := by
  induction ss generalizing v index with
  | nil => rfl
  | cons s rest ih =>
      rw [descend, descend, Progress.shift_andThen, step_shift]
      congr 1
      funext member
      rw [← ih, Nat.add_right_comm]

/-! ### Walks in two parts -/

/-- Where the first part arrives, the second part begins. -/
theorem walk_append_of_reached {attributes : Admission} {v r : Value} {ss ts : List Segment}
    {asked : List (ℕ × Access)} (hts : ts ≠ [])
    (h : v.descend attributes 0 ss = .reached r asked) :
    v.walk attributes (ss ++ ts) =
      ((r.walk attributes ts).shift ss.length).after [] asked := by
  have hne : ss ++ ts ≠ [] := List.append_ne_nil_of_right_ne_nil ss hts
  rw [walk_eq_settle attributes v hne, descend_append, h, Progress.andThen_reached,
    Progress.settle_after, descend_shift, List.length_append, Nat.add_comm ss.length,
    Progress.settle_shift (List.length_pos_iff.mpr hts), walk_eq_settle attributes r hts]

/-- A first part that ends early ends the walk. -/
theorem walk_append_of_ended {attributes : Admission} {v : Value} {ss ts : List Segment}
    {l : Lookup} (h : v.descend attributes 0 ss = .ended l) :
    v.walk attributes (ss ++ ts) = l := by
  refine walk_of_descend_ended ?_
  rw [descend_append, h, Progress.andThen_ended]

/-- The first part of a walk that is left by an escape ends early. -/
theorem descend_of_walk_escaped {attributes : Admission} {v : Value} {ss : List Segment}
    {e : Escape} (h : (v.walk attributes ss).ending = .escaped e) :
    v.descend attributes 0 ss = .ended (v.walk attributes ss) := by
  cases hrun : v.descend attributes 0 ss with
  | ended l => rw [walk_of_descend_ended hrun]
  | reached r asked =>
      by_cases hnil : ss = []
      · subst hnil
        rw [walk, coalesce, Lookup.ended] at h
        split at h <;> cases h
      · rw [walk_of_descend_reached hnil hrun] at h
        by_cases hr : r = unset
        · subst hr
          cases h
        · rw [arrive_of_ne hr] at h
          cases h

/-- The first part of a walk that misses ends early, or arrives at a value without members. -/
theorem descend_of_walk_miss {attributes : Admission} {v : Value} {ss : List Segment}
    (h : (v.walk attributes ss).ending = .miss) :
    v.descend attributes 0 ss = .ended (v.walk attributes ss) ∨
      ∃ r asked, v.descend attributes 0 ss = .reached r asked ∧
        r.isNullish = true ∧ (ss ≠ [] → r = unset) := by
  cases hrun : v.descend attributes 0 ss with
  | ended l => exact Or.inl (by rw [walk_of_descend_ended hrun])
  | reached r asked =>
      refine Or.inr ⟨r, asked, rfl, ?_⟩
      have hr : r = unset ∨ (ss = [] ∧ r = null) := by
        by_contra hno
        rw [not_or, not_and] at hno
        have hhit : (v.walk attributes ss).ending = .hit r :=
          walk_hit_iff.mpr ⟨⟨asked, hrun⟩, hno.1, hno.2⟩
        rw [h] at hhit
        cases hhit
      rcases hr with rfl | ⟨rfl, rfl⟩
      · exact ⟨rfl, fun _ => rfl⟩
      · exact ⟨rfl, fun hne => absurd rfl hne⟩

/-- A step into a value without content fails: for its name if that is reserved, else because
there is nothing to step into. -/
theorem walk_of_isNullish {attributes : Admission} {v : Value} (h : v.isNullish = true)
    (t : String) (ts : List Segment) :
    v.walk attributes (.name t :: ts) =
      .missed (if Path.isReserved t then .reserved else .notTraversable) 0
        (some (.name t)) := by
  have hrefuse : v.refuse? 0 (.name t) =
      some (.missed (if Path.isReserved t then .reserved else .notTraversable) 0
        (some (.name t))) := by
    rw [refuse?, Segment.incomparable?, Segment.isReserved]
    cases Path.isReserved t <;> simp [h]
  refine walk_of_descend_ended ?_
  rw [descend, step, hrefuse]
  rfl

end Value

/-! ### The law of composition -/

/-- The record of a missed walk of `n` steps when a step to `t` follows: an unset end is no end
any more, and it is the step into it that fails. -/
def Miss.followedBy (n : ℕ) (t : String) (m : Miss) : Miss :=
  if m.reason = .unset then
    ⟨if Path.isReserved t then .reserved else .notTraversable, n, some (.name t)⟩
  else m

namespace Value

/-- What a missed walk leaves when a step follows. -/
theorem records_append_of_miss {attributes : Admission} {v : Value} {ss ts : List Segment}
    (t : String) (hss : ss ≠ []) (h : (v.walk attributes ss).ending = .miss) :
    (v.walk attributes (ss ++ .name t :: ts)).records =
      (v.walk attributes ss).records.map (Miss.followedBy ss.length t) := by
  rcases descend_of_walk_miss h with hrun | ⟨r, asked, hrun, -, hunset⟩
  · rw [walk_append_of_ended hrun]
    obtain ⟨i, s, -, hends⟩ := endsAt_of_descend hrun
    rcases hends with ⟨reason, hne, -, hrecords⟩ | ⟨e, -, hrecords⟩
    · simp [hrecords, Miss.followedBy, hne]
    · simp [hrecords]
  · obtain rfl := hunset hss
    rw [walk_append_of_reached (List.cons_ne_nil _ _) hrun, walk_of_isNullish rfl,
      walk_of_descend_reached hss hrun]
    simp [Lookup.after, Lookup.shift, Lookup.missed, arrive, Miss.shift, Miss.followedBy]

/-- **Walks compose.** Let `ss` and `t :: ts` be two lists of names.

* If the walk along `ss` hits `r`, the walk along both lists ends as the one from `r` along
  `t :: ts` does, and leaves its records with the index counted on.
* If it misses, so does the walk along both lists, and with a step made it leaves the record of
  the first walk; only an unset end becomes the failing step to `t`.
* If an escape leaves it, the same escape leaves the walk along both lists. -/
theorem walkNames_append (attributes : Admission) (v : Value) (ss : List String) (t : String)
    (ts : List String) (fallback : Value) :
    (∀ r, (v.walkNames attributes ss).ending = .hit r →
      (v.walkNames attributes (ss ++ t :: ts)).ending =
          (r.walkNames attributes (t :: ts)).ending ∧
        (v.walkNames attributes (ss ++ t :: ts)).records =
          (r.walkNames attributes (t :: ts)).records.map (Miss.shift ss.length)) ∧
    ((v.walkNames attributes ss).ending = .miss →
      (v.walkNames attributes (ss ++ t :: ts)).ending.orElse fallback = .ok fallback ∧
        (ss ≠ [] →
          (v.walkNames attributes (ss ++ t :: ts)).records =
            (v.walkNames attributes ss).records.map (Miss.followedBy ss.length t))) ∧
    ∀ e, (v.walkNames attributes ss).ending = .escaped e →
      (v.walkNames attributes (ss ++ t :: ts)).ending = .escaped e := by
  simp only [walkNames, List.map_append, List.map_cons]
  refine ⟨fun r hr => ?_, fun hmiss => ⟨?_, fun hss => ?_⟩, fun e he => ?_⟩
  · obtain ⟨⟨asked, hrun⟩, -⟩ := walk_hit_iff.mp hr
    rw [walk_append_of_reached (List.cons_ne_nil _ _) hrun, List.length_map]
    exact ⟨rfl, rfl⟩
  · rcases descend_of_walk_miss hmiss with hrun | ⟨r, asked, hrun, hnull, -⟩
    · rw [walk_append_of_ended hrun, hmiss]
      rfl
    · rw [walk_append_of_reached (List.cons_ne_nil _ _) hrun, walk_of_isNullish hnull]
      rfl
  · have hss' : ss.map Segment.name ≠ [] := mt List.map_eq_nil_iff.mp hss
    rw [records_append_of_miss t hss' hmiss, List.length_map]
  · rw [walk_append_of_ended (descend_of_walk_escaped he), he]

end Value

end SafeLookup
