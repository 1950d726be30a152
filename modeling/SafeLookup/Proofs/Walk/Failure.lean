import SafeLookup.Proofs.Walk.Names

/-!
# The First Step That Fails

A walk along names that misses leaves one record. This module says what the record tells, in terms
of chains of own members (`Value.Leads`) and of what values answer (`Value.Raises`,
`Value.IsClosedTo`): the index is that of the first step that fails, and the reason is the first one
that applies there (`Miss.NamesFirstFailure`).

Five reasons compete. A reserved name comes before everything else; a value without content or
without a kind that can be stepped into comes next; then what asking the value raises; and a member
that is simply not there comes last (`Reason.Tells`). A walk whose steps all succeed can still
arrive at an unset value, and that has a reason of its own.

## Proof outline

A step that ends a walk does so because of the reply to it, and each reply has its reason
(`exists_tells_of_step`). A run ends at one of its steps (`exists_step_of_descend`), and no step in
front of that one fails, so the record of the step is the record of the first failure
(`exists_namesFirstFailure_of_descend`). For the same reason a walk meets what is raised at one step
at most (`RaisesAt.unique`). Interruptions leave no record; a walk is left by one exactly if it
meets one (`walkNames_escaped_iff`).
-/

namespace SafeLookup

/-- The fault that a reason carries is that of a container. -/
theorem Reason.fault?_eq_some_iff {reason : Reason} {fault : Fault} :
    reason.fault? = some fault ↔ reason = .container fault := by
  cases reason <;> simp [Reason.fault?]

/-- A value is closed to a name if it has no kind that can be stepped into, or if its own member of
that name is the mark of such a value. -/
def Value.IsClosedTo (attributes : Admission) (v : Value) (name : String) : Prop :=
  v.IsClosed attributes ∨ v.Owns attributes.admits name .closed

/-- **What the reason of a step tells** that leads from `v` to no member called `name`. Each reason
is given exactly if its condition holds and no condition in front of it does. -/
structure Reason.Tells (reason : Reason) (attributes : Admission) (v : Value) (name : String) :
    Prop where
  /-- The name is reserved. -/
  reserved : reason = .reserved ↔ name ∈ Path.reservedNames
  /-- Otherwise: the value has no content, or there is nothing to step into. -/
  notTraversable : name ∉ Path.reservedNames →
    (reason = .notTraversable ↔ v = .null ∨ v = .unset ∨ v.IsClosedTo attributes name)
  /-- Otherwise: asking the value raises a fault. -/
  container : name ∉ Path.reservedNames → v ≠ .null → v ≠ .unset →
    ¬v.IsClosedTo attributes name →
    ∀ fault, reason = .container fault ↔ v.Raises attributes name (.fault fault)
  /-- Otherwise the member is not there. -/
  notFound : name ∉ Path.reservedNames → v ≠ .null → v ≠ .unset →
    ¬v.IsClosedTo attributes name →
    (reason = .notFound ↔ ∀ fault, ¬v.Raises attributes name (.fault fault))

/-- **The record of the first failure** of a walk from `root` along `names`: the names in front of
the index lead to a value, no chain of own members gets further, and the reason tells why. If all
names lead on to an unset value, that is the failure, and the record names no segment. -/
inductive Miss.NamesFirstFailure (attributes : Admission) (root : Value) (names : List String) :
    Miss → Prop
  | step {i : ℕ} {name : String} {v : Value} {reason : Reason} :
      names[i]? = some name →
      root.Leads attributes.admits (names.take i) v →
      (∀ m, ¬root.Leads attributes.admits (names.take (i + 1)) m) →
      reason.Tells attributes v name →
      NamesFirstFailure attributes root names ⟨reason, i, some (.name name)⟩
  | unset :
      root.Leads attributes.admits names .unset →
      NamesFirstFailure attributes root names ⟨.unset, names.length - 1, none⟩

namespace Value

variable {attributes : Admission} {root : Value} {names : List String}

/-! ### The reason of a step -/

/-- What keeps a walk from asking has its reason. -/
theorem exists_tells_of_refuse? {v : Value} {index : ℕ} {name : String} {l : Lookup}
    (h : v.refuse? index (.name name) = some l) :
    ∃ reason : Reason, reason.Tells attributes v name ∧
      l.records = [⟨reason, index, some (.name name)⟩] := by
  rw [refuse?, Segment.incomparable?, Segment.isReserved, Path.isReserved] at h
  dsimp only at h
  split at h
  next hname =>
    obtain rfl := Option.some.inj h
    have hreserved : name ∈ Path.reservedNames := by simpa using hname
    exact ⟨.reserved, by constructor <;> simp [hreserved], rfl⟩
  next hname =>
    have hfree : name ∉ Path.reservedNames := by simpa using hname
    split at h
    next hnullish =>
      obtain rfl := Option.some.inj h
      refine ⟨.notTraversable, ?_, rfl⟩
      rcases isNullish_iff.mp hnullish with rfl | rfl
      · constructor <;> simp [hfree]
      · constructor <;> simp [hfree]
    next => cases h

/-- **A step that misses records its reason.** -/
theorem exists_tells_of_step {v : Value} {index : ℕ} {name : String} {l : Lookup}
    (h : v.step attributes index (.name name) = .ended l) (hmiss : l.ending = .miss) :
    ∃ reason : Reason, reason.Tells attributes v name ∧
      l.records = [⟨reason, index, some (.name name)⟩] := by
  rw [step] at h
  cases hrefuse : v.refuse? index (.name name) with
  | some refused =>
      rw [hrefuse] at h
      obtain rfl := Progress.ended.inj h
      exact exists_tells_of_refuse? hrefuse
  | none =>
      rw [hrefuse] at h
      obtain ⟨hname, hnull, hunset⟩ := refuse?_name_eq_none_iff.mp hrefuse
      have hclosed : v.IsClosedTo attributes name ↔
          (v.member attributes (.name name)).reply = .closed := member_eq_closed_iff.symm
      have hraises : ∀ raised, v.Raises attributes name raised ↔
          (v.member attributes (.name name)).reply = .raised raised :=
        fun raised => member_eq_raised_iff.symm
      cases hreply : (v.member attributes (.name name)).reply with
      | found member =>
          rw [hreply] at h
          cases h
      | absent =>
          rw [hreply] at h hclosed hraises
          obtain rfl := Progress.ended.inj h
          exact ⟨.notFound, by constructor <;> simp [hname, hnull, hunset, hclosed, hraises], rfl⟩
      | closed =>
          rw [hreply] at h hclosed hraises
          obtain rfl := Progress.ended.inj h
          exact ⟨.notTraversable, by constructor <;> simp [hname, hnull, hunset, hclosed], rfl⟩
      | raised raised =>
          rw [hreply] at h hclosed hraises
          cases raised with
          | fault f =>
              obtain rfl := Progress.ended.inj h
              exact ⟨.container f,
                by constructor <;> simp [hname, hnull, hunset, hclosed, hraises], rfl⟩
          | interrupt =>
              obtain rfl := Progress.ended.inj h
              cases hmiss

/-! ### The first failure of a run -/

/-- No chain of own members gets past a step that ends the run. -/
theorem not_leads_of_step_ended {v w : Value} {asked : List (ℕ × Access)} {i j : ℕ}
    {name : String} {l : Lookup} (hname : names[i]? = some name)
    (hreached : root.descend attributes 0 ((names.take i).map .name) = .reached v asked)
    (hstep : v.step attributes i (.name name) = .ended l) (hlt : i < j) :
    ¬root.Leads attributes.admits (names.take j) w := by
  intro hleads
  obtain ⟨ledger, hfurther⟩ := descend_eq_reached_iff_leads.mpr hleads
  have hname' : ((names.take j).map Segment.name)[i]? = some (.name name) := by
    simp [List.getElem?_take_of_lt hlt, hname]
  have hreached' : root.descend attributes 0 (((names.take j).map Segment.name).take i) =
      .reached v asked := by
    rw [← List.map_take, List.take_take, Nat.min_eq_left (Nat.le_of_lt hlt), hreached]
  rw [descend_of_step_ended hname' hreached' (by rwa [Nat.zero_add])] at hfurther
  cases hfurther

/-- **A run that misses records its first failure.** The step that ends it ends every run that comes
to it, so no chain of own members gets further. -/
theorem exists_namesFirstFailure_of_descend {l : Lookup}
    (h : root.descend attributes 0 (names.map .name) = .ended l) (hmiss : l.ending = .miss) :
    ∃ m : Miss, m.NamesFirstFailure attributes root names ∧ l.records = [m] := by
  obtain ⟨i, s, v, asked, l', hs, hreached, hstep, rfl⟩ := exists_step_of_descend h
  obtain ⟨name, hname, rfl⟩ : ∃ name, names[i]? = some name ∧ Segment.name name = s := by
    rwa [List.getElem?_map, Option.map_eq_some_iff] at hs
  rw [Nat.zero_add] at hstep
  rw [← List.map_take] at hreached
  obtain ⟨reason, htells, hrecords⟩ := exists_tells_of_step hstep hmiss
  refine ⟨⟨reason, i, some (.name name)⟩, ?_, hrecords⟩
  refine Miss.NamesFirstFailure.step hname ?_ ?_ htells
  · exact descend_eq_reached_iff_leads.mp ⟨asked, hreached⟩
  · exact fun m => not_leads_of_step_ended hname hreached hstep (Nat.lt_succ_self i)

/-- **A walk that misses records its first failure.** -/
theorem exists_namesFirstFailure_of_walkNames (hne : names ≠ [])
    (hmiss : (root.walkNames attributes names).ending = .miss) :
    ∃ m : Miss, m.NamesFirstFailure attributes root names ∧
      (root.walkNames attributes names).records = [m] := by
  cases hrun : root.descend attributes 0 (names.map .name) with
  | ended l =>
      have hwalk : root.walkNames attributes names = l := walk_of_descend_ended hrun
      rw [hwalk] at hmiss ⊢
      exact exists_namesFirstFailure_of_descend hrun hmiss
  | reached v asked =>
      have hwalk : root.walkNames attributes names = (v.arrive names.length).after [] asked := by
        rw [walkNames, walk_of_descend_reached (mt List.map_eq_nil_iff.mp hne) hrun,
          List.length_map]
      have hleads : root.Leads attributes.admits names v :=
        descend_eq_reached_iff_leads.mp ⟨asked, hrun⟩
      rw [hwalk] at hmiss ⊢
      by_cases hv : v = unset
      · subst hv
        exact ⟨_, Miss.NamesFirstFailure.unset hleads, rfl⟩
      · rw [arrive_of_ne hv] at hmiss
        cases hmiss

/-! ### What a walk meets -/

/-- A step to a name that the value raises something for ends the walk, and an interruption leaves
it. -/
theorem exists_step_of_raises {v : Value} {name : String} {raised : Raised}
    (hfree : name ∉ Path.reservedNames) (hnull : v ≠ null) (hunset : v ≠ unset)
    (hraises : v.Raises attributes name raised) (index : ℕ) :
    ∃ l : Lookup, v.step attributes index (.name name) = .ended l ∧
      (∀ kind, raised = .interrupt kind → l.ending = .escaped (.interrupt kind)) := by
  have hrefuse : v.refuse? index (.name name) = none :=
    refuse?_name_eq_none_iff.mpr ⟨hfree, hnull, hunset⟩
  rw [step, hrefuse, member_eq_raised_iff.mpr hraises]
  cases raised with
  | fault f =>
      refine ⟨_, rfl, ?_⟩
      rintro kind ⟨⟩
  | interrupt kind =>
      refine ⟨_, rfl, ?_⟩
      rintro kind' ⟨⟩
      rfl

/-- **A walk meets one thing that is raised, and it meets it once**: the step there ends it. -/
theorem RaisesAt.unique {i j : ℕ} {raised raised' : Raised}
    (h : root.RaisesAt attributes names i raised) (h' : root.RaisesAt attributes names j raised') :
    i = j ∧ raised = raised' := by
  -- No chain of own members leads past a place where something is raised.
  have hle : ∀ {i j : ℕ} {raised raised' : Raised}, root.RaisesAt attributes names i raised →
      root.RaisesAt attributes names j raised' → j ≤ i := by
    rintro i j raised raised' ⟨name, v, hname, hfree, hleads, hnull, hunset, hraises⟩
      ⟨-, w, -, -, hleads', -⟩
    obtain ⟨asked, hreached⟩ := descend_eq_reached_iff_leads.mpr hleads
    obtain ⟨l, hstep, -⟩ := exists_step_of_raises hfree hnull hunset hraises i
    by_contra hlt
    exact not_leads_of_step_ended hname hreached hstep (Nat.not_le.mp hlt) hleads'
  obtain rfl : i = j := Nat.le_antisymm (hle h' h) (hle h h')
  obtain ⟨name, v, hname, -, hleads, -, -, hraises⟩ := h
  obtain ⟨name', v', hname', -, hleads', -, -, hraises'⟩ := h'
  obtain ⟨asked, hreached⟩ :
      ∃ asked, root.descend attributes 0 ((names.take i).map .name) = .reached v asked :=
    descend_eq_reached_iff_leads.mpr hleads
  obtain ⟨asked', hreached'⟩ := descend_eq_reached_iff_leads.mpr hleads'
  obtain rfl : name = name' := Option.some.inj (hname.symm.trans hname')
  obtain ⟨rfl, -⟩ := Progress.reached.inj (hreached.symm.trans hreached')
  have hreply := (member_eq_raised_iff.mpr hraises).symm.trans (member_eq_raised_iff.mpr hraises')
  exact ⟨rfl, Reply.raised.inj hreply⟩

/-- An interruption that a walk meets leaves it. -/
theorem escaped_of_raisesAt {i : ℕ} {kind : String}
    (h : root.RaisesAt attributes names i (.interrupt kind)) :
    (root.walkNames attributes names).ending = .escaped (.interrupt kind) := by
  obtain ⟨name, v, hname, hfree, hleads, hnull, hunset, hraises⟩ := h
  obtain ⟨asked, hreached⟩ := descend_eq_reached_iff_leads.mpr hleads
  obtain ⟨l, hstep, hescaped⟩ := exists_step_of_raises hfree hnull hunset hraises (0 + i)
  have hs : (names.map Segment.name)[i]? = some (.name name) := by
    rw [List.getElem?_map, hname, Option.map_some]
  rw [List.map_take] at hreached
  rw [walkNames, walk_of_descend_ended (descend_of_step_ended hs hreached hstep)]
  exact hescaped kind rfl

/-- **What leaves a walk along names is an interruption that a value on the way raises.** -/
theorem walkNames_escaped_iff {e : Escape} :
    (root.walkNames attributes names).ending = .escaped e ↔
      ∃ kind i, e = .interrupt kind ∧ root.RaisesAt attributes names i (.interrupt kind) := by
  constructor
  · intro h
    rcases walkNames_cases attributes root names with
      ⟨v, hhit, -⟩ | ⟨hmiss, -⟩ | ⟨kind, i, hescaped, -, hraises⟩
    · simp [hhit] at h
    · simp [hmiss] at h
    · rw [hescaped] at h
      exact ⟨kind, i, (Ending.escaped.inj h).symm, hraises⟩
  · rintro ⟨kind, i, rfl, hraises⟩
    exact escaped_of_raisesAt hraises

end Value

end SafeLookup
