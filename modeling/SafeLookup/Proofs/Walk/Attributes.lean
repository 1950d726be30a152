import Mathlib.Data.Nat.Find
import SafeLookup.Proofs.Session.Look
import SafeLookup.Proofs.Walk.Names

/-!
# Walks With and Without Attributes

Whether the attributes of objects count as members is a setting. This module compares a walk for
which they do with the walk along the same names for which they do not.

Mappings and sequences (`Value.IsCollection`) have the same members in both
(`owns_iff_of_isCollection`), and every other value has none without attributes. So members are only
added: chains of own members stay chains (`Leads.mono`), and a chain out of collections alone is one
without attributes as well (`Leads.of_isCollection`). The first value on the way that is no
collection ends the walk without attributes there (`step_of_not_isCollection`), and nothing has been
asked of it by then: a walk without attributes opens no namespace at all (`ne_names_of_mem_ledger`).
-/

namespace SafeLookup

namespace Value

/-- **Collections**: mappings and sequences. Texts and octets are none. -/
def IsCollection (v : Value) : Prop := v.mappingView? ≠ none ∨ v.sequenceView? ≠ none

/-- **A chain steps into a value** at step `i`: the names in front of index `i` lead to it, and
there is a name at `i`. -/
def StepsInto (attributes : Bool) (root : Value) (names : List String) (i : ℕ) (v : Value) : Prop :=
  i < names.length ∧ root.Leads attributes (names.take i) v

variable {v w root : Value} {name : String} {names : List String}

/-! ### Members with and without attributes -/

/-- A value that is no collection is neither a mapping nor a sequence. -/
theorem not_isCollection_iff :
    ¬v.IsCollection ↔ v.mappingView? = none ∧ v.sequenceView? = none := by
  rw [IsCollection, not_or, not_not, not_not]

/-- **The members of a collection** do not depend on whether attributes are admitted. -/
theorem owns_iff_of_isCollection (h : v.IsCollection) {attributes attributes' : Bool} {m : Value} :
    v.Owns attributes name m ↔ v.Owns attributes' name m := by
  rcases h with h | h
  · obtain ⟨view, hview⟩ := Option.ne_none_iff_exists'.mp h
    rw [owns_iff_of_mapping hview, owns_iff_of_mapping hview]
  · obtain ⟨view, hview⟩ := Option.ne_none_iff_exists'.mp h
    rw [owns_iff_of_sequence hview, owns_iff_of_sequence hview]

/-- Without attributes only collections have members. -/
theorem isCollection_of_owns {m : Value} (h : v.Owns false name m) : v.IsCollection := by
  rcases h with ⟨hview, -⟩ | ⟨hview, -⟩ | ⟨hadmitted, -⟩
  · exact Or.inl (by simp [hview])
  · exact Or.inr (by simp [hview])
  · cases hadmitted

/-- Members are only added by attributes. -/
theorem Owns.mono {m : Value} (h : v.Owns false name m) (attributes : Bool) :
    v.Owns attributes name m :=
  (owns_iff_of_isCollection (isCollection_of_owns h)).mp h

/-! ### Chains with and without attributes -/

/-- **Chains stay chains** when attributes are admitted. -/
theorem Leads.mono (h : root.Leads false names w) (attributes : Bool) :
    root.Leads attributes names w := by
  induction h with
  | nil v => exact Leads.nil v
  | cons hname hnull hunset howns hmark _ ih =>
      exact Leads.cons hname hnull hunset (howns.mono attributes) hmark ih

/-- The first value that a chain steps into is its root. -/
theorem stepsInto_zero (attributes : Bool) (root : Value) (name : String) (names : List String) :
    root.StepsInto attributes (name :: names) 0 root :=
  ⟨Nat.succ_pos _, Leads.nil root⟩

/-- Behind a link, a chain steps into what the rest of it steps into. -/
theorem StepsInto.cons {attributes : Bool} {m : Value} {i : ℕ}
    (hname : name ∉ Path.reservedNames) (hnull : root ≠ null) (hunset : root ≠ unset)
    (howns : root.Owns attributes name m) (hmark : m.isMark = false)
    (h : m.StepsInto attributes names i v) :
    root.StepsInto attributes (name :: names) (i + 1) v :=
  ⟨Nat.succ_lt_succ h.1, Leads.cons hname hnull hunset howns hmark h.2⟩

/-- **A chain that steps into collections only is one without attributes.** -/
theorem Leads.of_isCollection (h : root.Leads true names w)
    (hall : ∀ i v, root.StepsInto true names i v → v.IsCollection) :
    root.Leads false names w := by
  induction h with
  | nil v => exact Leads.nil v
  | @cons v m w name names hname hnull hunset howns hmark _ ih =>
      have hv : v.IsCollection := hall 0 v (stepsInto_zero true v name names)
      have hrest : ∀ i u, m.StepsInto true names i u → u.IsCollection :=
        fun i u hu => hall (i + 1) u (hu.cons hname hnull hunset howns hmark)
      exact Leads.cons hname hnull hunset ((owns_iff_of_isCollection hv).mp howns) hmark (ih hrest)

/-- A chain along two lists is a chain along the first and one along the second. -/
theorem leads_append_iff {attributes : Bool} {names' : List String} :
    root.Leads attributes (names ++ names') w ↔
      ∃ v, root.Leads attributes names v ∧ v.Leads attributes names' w := by
  induction names generalizing root with
  | nil => simp [leads_nil_iff]
  | cons name names ih =>
      simp only [List.cons_append, leads_cons_iff, ih]
      constructor
      · rintro ⟨hname, hnull, hunset, m, howns, hmark, v, hfront, hback⟩
        exact ⟨v, ⟨hname, hnull, hunset, m, howns, hmark, hfront⟩, hback⟩
      · rintro ⟨v, ⟨hname, hnull, hunset, m, howns, hmark, hfront⟩, hback⟩
        exact ⟨hname, hnull, hunset, m, howns, hmark, v, hfront, hback⟩

/-- Names lead to one value. -/
theorem Leads.unique {attributes : Bool} (h : root.Leads attributes names v)
    (h' : root.Leads attributes names w) : v = w := by
  obtain ⟨asked, hreached⟩ :
      ∃ asked, root.descend (.ok attributes) 0 (names.map .name) = .reached v asked :=
    descend_eq_reached_iff_leads.mpr h
  obtain ⟨asked', hreached'⟩ :
      ∃ asked, root.descend (.ok attributes) 0 (names.map .name) = .reached w asked :=
    descend_eq_reached_iff_leads.mpr h'
  exact (Progress.reached.inj (hreached.symm.trans hreached')).1

/-- A chain gets out of each value that it steps into, under a name that is not reserved. -/
theorem exists_name_of_stepsInto {attributes : Bool} {i : ℕ}
    (hleads : root.Leads attributes names w) (h : root.StepsInto attributes names i v) :
    ∃ name, names[i]? = some name ∧ name ∉ Path.reservedNames ∧ v ≠ null ∧ v ≠ unset := by
  obtain ⟨hlt, hfront⟩ := h
  have hsplit : names.take i ++ names[i] :: names.drop (i + 1) = names := by
    rw [List.getElem_cons_drop, List.take_append_drop]
  rw [← hsplit, leads_append_iff] at hleads
  obtain ⟨u, hfront', hback⟩ := hleads
  obtain rfl : v = u := hfront.unique hfront'
  obtain ⟨hname, hnull, hunset, -⟩ := leads_cons_iff.mp hback
  exact ⟨names[i], List.getElem?_eq_getElem hlt, hname, hnull, hunset⟩

/-- A chain in front of an index steps into what the whole chain steps into there. -/
theorem StepsInto.of_take {attributes : Bool} {i j : ℕ}
    (h : root.StepsInto attributes (names.take i) j v) :
    j < i ∧ root.StepsInto attributes names j v := by
  obtain ⟨hlt, hleads⟩ := h
  rw [List.length_take, Nat.lt_min] at hlt
  rw [List.take_take, Nat.min_eq_left (Nat.le_of_lt hlt.1)] at hleads
  exact ⟨hlt.1, hlt.2, hleads⟩

/-- A chain that steps into some value with a property steps into a first one. -/
theorem exists_first_stepsInto {attributes : Bool} {P : Value → Prop}
    (h : ∃ i v, root.StepsInto attributes names i v ∧ P v) :
    ∃ i v, root.StepsInto attributes names i v ∧ P v ∧
      ∀ j < i, ∀ u, root.StepsInto attributes names j u → ¬P u := by
  classical
  obtain ⟨v, hv, hP⟩ := Nat.find_spec h
  refine ⟨Nat.find h, v, hv, hP, fun j hj u hu hPu => ?_⟩
  exact Nat.find_min h hj ⟨u, hu, hPu⟩

/-! ### Steps without attributes -/

/-- **Without attributes a value that is no collection ends a walk**, and it is not asked for
anything. -/
theorem step_of_not_isCollection (hv : ¬v.IsCollection) (hnull : v ≠ null) (hunset : v ≠ unset)
    (hname : name ∉ Path.reservedNames) (index : ℕ) :
    v.step (.ok false) index (.name name) =
      .ended (.missed .notTraversable index (some (.name name))) := by
  obtain ⟨hmap, hseq⟩ := not_isCollection_iff.mp hv
  have hmember : v.member (.ok false) (.name name) = ⟨.closed, []⟩ := by
    rw [member, shape, hmap, hseq]
    cases v.isScalar <;> rfl
  rw [step, refuse?_name_eq_none_iff.mpr ⟨hname, hnull, hunset⟩, hmember]
  rfl

/-- Without attributes no namespace is opened. -/
theorem ne_names_of_mem_member {access : Access}
    (h : access ∈ (v.member (.ok false) (.name name)).ledger) : access ≠ .names := by
  rw [member] at h
  cases hshape : v.shape with
  | mapping view =>
      rw [hshape] at h
      rcases MappingView.mem_ledger_member h with rfl | rfl <;> rintro ⟨⟩
  | sequence view =>
      rw [hshape] at h
      rcases SequenceView.mem_ledger_member h with rfl | ⟨position, -, rfl⟩ <;> rintro ⟨⟩
  | scalar =>
      rw [hshape] at h
      cases h
  | object names =>
      rw [hshape] at h
      cases h

/-- A step without attributes opens no namespace. -/
theorem ne_names_of_mem_step {index : ℕ} {entry : ℕ × Access}
    (h : entry ∈ (v.step (.ok false) index (.name name)).ledger) : entry.2 ≠ .names := by
  rw [step] at h
  cases hrefuse : v.refuse? index (.name name) with
  | some refused =>
      rw [hrefuse, Progress.ledger_ended, (ending_of_refuse?_name hrefuse).2] at h
      cases h
  | none =>
      rw [hrefuse] at h
      dsimp only at h
      rw [Reply.ledger_progress] at h
      obtain ⟨access, haccess, rfl⟩ := List.mem_map.mp h
      exact ne_names_of_mem_member haccess

/-- **A walk without attributes opens no namespace.** -/
theorem ne_names_of_mem_ledger {entry : ℕ × Access}
    (h : entry ∈ (root.walkNames (.ok false) names).ledger) : entry.2 ≠ .names := by
  by_cases hnil : names = []
  · subst hnil
    cases h
  · rw [walkNames, walk_eq_settle _ root (mt List.map_eq_nil_iff.mp hnil),
      Progress.ledger_settle] at h
    obtain ⟨i, s, v, asked, hs, -, hentry⟩ := exists_step_of_mem_descend h
    rw [List.getElem?_map] at hs
    obtain ⟨name, -, rfl⟩ := Option.map_eq_some_iff.mp hs
    exact ne_names_of_mem_step hentry

/-! ### Walks without attributes -/

/-- **Where a walk without attributes ends**: at the first value that is no collection. It misses
there, and each of its questions has been put in front. -/
theorem walkNames_of_first_not_isCollection {i : ℕ} (hleads : root.Leads true names w)
    (hsteps : root.StepsInto true names i v) (hv : ¬v.IsCollection)
    (hfirst : ∀ j < i, ∀ u, root.StepsInto true names j u → u.IsCollection) :
    ∃ name, names[i]? = some name ∧
      (root.walkNames (.ok false) names).ending = .miss ∧
      (root.walkNames (.ok false) names).records = [⟨.notTraversable, i, some (.name name)⟩] ∧
      ∀ entry ∈ (root.walkNames (.ok false) names).ledger, entry.1 < i := by
  obtain ⟨name, hname, hfree, hnull, hunset⟩ := exists_name_of_stepsInto hleads hsteps
  -- The values in front are collections, so the walk without attributes gets as far.
  have hfront : root.Leads false (names.take i) v :=
    hsteps.2.of_isCollection fun j u hu => hfirst j hu.of_take.1 u hu.of_take.2
  obtain ⟨asked, hreached⟩ :
      ∃ asked, root.descend (.ok false) 0 ((names.take i).map .name) = .reached v asked :=
    descend_eq_reached_iff_leads.mpr hfront
  have hledger : ∀ entry ∈ asked, entry.1 < i := by
    intro entry hentry
    rw [← Progress.ledger_reached v asked, ← hreached] at hentry
    obtain ⟨j, name', hindex, hname', -⟩ := serves_of_mem_descend hentry
    obtain ⟨hlt, -⟩ := List.getElem?_eq_some_iff.mp hname'
    rw [List.length_take] at hlt
    omega
  have hstep := step_of_not_isCollection hv hnull hunset hfree (0 + i)
  have hs : (names.map Segment.name)[i]? = some (.name name) := by
    rw [List.getElem?_map, hname, Option.map_some]
  rw [List.map_take] at hreached
  have hwalk : root.walkNames (.ok false) names =
      (Lookup.missed .notTraversable (0 + i) (some (.name name))).after [] asked :=
    walk_of_descend_ended (descend_of_step_ended hs hreached hstep)
  rw [hwalk, Nat.zero_add]
  refine ⟨name, hname, rfl, rfl, ?_⟩
  simpa [Lookup.after, Lookup.missed] using hledger

/-- What a walk hits is hit with the other setting as well if the chain to it is one there. -/
theorem walkNames_hit_of_leads {attributes attributes' : Bool}
    (h : (root.walkNames (.ok attributes) names).ending = .hit w)
    (hchain : root.Leads attributes names w → root.Leads attributes' names w) :
    (root.walkNames (.ok attributes') names).ending = .hit w := by
  by_cases hnil : names = []
  · subst hnil
    exact h
  · obtain ⟨hleads, hw⟩ := (walkNames_hit_iff_leads hnil).mp h
    exact (walkNames_hit_iff_leads hnil).mpr ⟨hchain hleads, hw⟩

/-- What a walk hits without attributes it hits with them. -/
theorem walkNames_hit_mono (h : (root.walkNames (.ok false) names).ending = .hit w) :
    (root.walkNames (.ok true) names).ending = .hit w :=
  walkNames_hit_of_leads h fun hleads => hleads.mono true

/-- What a walk hits by way of collections it hits without attributes. -/
theorem walkNames_hit_of_isCollection (h : (root.walkNames (.ok true) names).ending = .hit w)
    (hall : ∀ i v, root.StepsInto true names i v → v.IsCollection) :
    (root.walkNames (.ok false) names).ending = .hit w :=
  walkNames_hit_of_leads h fun hleads => hleads.of_isCollection hall

/-- A walk that hits and has stepped into some value has made its steps along a chain. -/
theorem leads_of_walkNames_hit {i : ℕ} (h : (root.walkNames (.ok true) names).ending = .hit w)
    (hsteps : root.StepsInto true names i v) : root.Leads true names w :=
  ((walkNames_hit_iff_leads (List.ne_nil_of_length_pos (Nat.zero_lt_of_lt hsteps.1))).mp h).1

end Value

namespace Session

/-- A walk along names that hits is answered with what it hits. -/
theorem look_of_walkNames_hit {s : Session} {root w : Value} {names : List String}
    (h : (root.walkNames s.settings.admitsAttributes names).ending = .hit w) (fallback : Value) :
    s.look (.segments root (.ofNames names)) fallback = (s, ⟨.ok ⟨w, true⟩, []⟩) := by
  have hlookup : (Query.segments root (.ofNames names)).lookup s.settings.admitsAttributes =
      root.walkNames s.settings.admitsAttributes names :=
    Value.walkAlong_ofNames _ root names
  refine look_of_hit ?_ ?_
  · rw [hlookup, h]
  · rw [hlookup, Value.records_of_walkNames_hit h]

/-- **Attributes only add hits.** Let one session admit attributes and another one not, and compare
the lookups along some names from one root.

* What is hit without attributes is hit with them.
* What is hit with them is hit without them if all values stepped into on the way are collections.
* If some value stepped into is none, the lookup without attributes misses at the first such value:
  it is not traversable, it has not been asked for anything, and no namespace has been opened. -/
theorem look_without_attributes {off on : Session}
    (hoff : off.settings.admitsAttributes = .ok false)
    (hon : on.settings.admitsAttributes = .ok true)
    (root w fallback : Value) (names : List String) :
    ((root.walkAlong off.settings.admitsAttributes (.ofNames names)).ending = .hit w →
      (root.walkAlong on.settings.admitsAttributes (.ofNames names)).ending = .hit w ∧
      on.look (.segments root (.ofNames names)) fallback = (on, ⟨.ok ⟨w, true⟩, []⟩)) ∧
    ((root.walkAlong on.settings.admitsAttributes (.ofNames names)).ending = .hit w →
      ((∀ i v, root.StepsInto true names i v → v.IsCollection) →
        (root.walkAlong off.settings.admitsAttributes (.ofNames names)).ending = .hit w ∧
        off.look (.segments root (.ofNames names)) fallback = (off, ⟨.ok ⟨w, true⟩, []⟩)) ∧
      ((∃ i v, root.StepsInto true names i v ∧ ¬v.IsCollection) →
        ∃ i v name, names[i]? = some name ∧ root.StepsInto true names i v ∧ ¬v.IsCollection ∧
          (∀ j < i, ∀ u, root.StepsInto true names j u → u.IsCollection) ∧
          (root.walkAlong off.settings.admitsAttributes (.ofNames names)).ending = .miss ∧
          (root.walkAlong off.settings.admitsAttributes (.ofNames names)).records =
            [⟨.notTraversable, i, some (.name name)⟩] ∧
          ∀ entry ∈ (root.walkAlong off.settings.admitsAttributes (.ofNames names)).ledger,
            entry.1 < i ∧ entry.2 ≠ .names)) := by
  simp only [Value.walkAlong_ofNames]
  refine ⟨fun hhit => ?_, fun hhit => ⟨fun hall => ?_, fun hsome => ?_⟩⟩
  · rw [hoff] at hhit
    have hon' : (root.walkNames on.settings.admitsAttributes names).ending = .hit w := by
      rw [hon]
      exact Value.walkNames_hit_mono hhit
    exact ⟨hon', look_of_walkNames_hit hon' fallback⟩
  · rw [hon] at hhit
    have hoff' : (root.walkNames off.settings.admitsAttributes names).ending = .hit w := by
      rw [hoff]
      exact Value.walkNames_hit_of_isCollection hhit hall
    exact ⟨hoff', look_of_walkNames_hit hoff' fallback⟩
  · rw [hon] at hhit
    rw [hoff]
    obtain ⟨i, v, hsteps, hv, hbefore⟩ := Value.exists_first_stepsInto hsome
    have hfirst : ∀ j < i, ∀ u, root.StepsInto true names j u → u.IsCollection :=
      fun j hj u hu => not_not.mp (hbefore j hj u hu)
    have hleads : root.Leads true names w := Value.leads_of_walkNames_hit hhit hsteps
    obtain ⟨name, hname, hmiss, hrecords, hledger⟩ :=
      Value.walkNames_of_first_not_isCollection hleads hsteps hv hfirst
    refine ⟨i, v, name, hname, hsteps, hv, hfirst, hmiss, hrecords, fun entry hentry => ?_⟩
    exact ⟨hledger entry hentry, Value.ne_names_of_mem_ledger hentry⟩

/-- A table with a tuple and with an object that has one, where the flags count as false and as true
without being truth values. Without attributes the item of the first tuple is hit as with them, and
the way to the item of the second one ends at the object. -/
theorem look_without_attributes_object :
    let off : Session := .forLookups (.bool true) (.int 0)
    let on : Session := .forLookups (.bool false) (.text "on")
    let tuple : Value := .run .tuple [.int 1, .null]
    let root : Value := .table .plain
      [(.text "a", .object .plain [("b", tuple)]), (.text "c", tuple)]
    off.settings.admitsAttributes = .ok false ∧ on.settings.admitsAttributes = .ok true ∧
    on.look (.segments root (.ofNames ["c", "1"])) (.int 7) = (on, ⟨.ok ⟨.null, true⟩, []⟩) ∧
    (root.walkAlong on.settings.admitsAttributes (.ofNames ["a", "b", "1"])).ending = .hit .null ∧
    ∃ i v, root.StepsInto true ["a", "b", "1"] i v ∧ ¬v.IsCollection ∧
      (root.walkAlong off.settings.admitsAttributes (.ofNames ["a", "b", "1"])).ending = .miss := by
  intro off on tuple root
  have hoff : off.settings.admitsAttributes = .ok false := rfl
  have hon : on.settings.admitsAttributes = .ok true := rfl
  have hfirst : (root.walkAlong off.settings.admitsAttributes (.ofNames ["c", "1"])).ending =
      .hit .null := rfl
  have hsecond : (root.walkAlong on.settings.admitsAttributes (.ofNames ["a", "b", "1"])).ending =
      .hit .null := rfl
  have hobject : root.StepsInto true ["a", "b", "1"] 1 (.object .plain [("b", tuple)]) := by
    refine ⟨by decide, ?_⟩
    exact Value.leads_of_find? rfl rfl (by decide) rfl
  have hsome : ∃ i v, root.StepsInto true ["a", "b", "1"] i v ∧ ¬v.IsCollection :=
    ⟨1, _, hobject, Value.not_isCollection_iff.mpr ⟨rfl, rfl⟩⟩
  have hadded := (look_without_attributes hoff hon root .null (.int 7) ["c", "1"]).1 hfirst
  obtain ⟨i, v, -, -, hsteps, hv, -, hmiss, -⟩ :=
    ((look_without_attributes hoff hon root .null (.int 7) ["a", "b", "1"]).2 hsecond).2 hsome
  exact ⟨hoff, hon, hadded.2, hsecond, i, v, hsteps, hv, hmiss⟩

end Session

end SafeLookup
