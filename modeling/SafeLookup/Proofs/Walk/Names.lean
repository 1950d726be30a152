import SafeLookup.Proofs.Walk.Chain
import SafeLookup.Proofs.Walk.Raises

/-!
# Walks Along Names

Paths and accessors hand names to a walk, and nothing else. Along names less can happen than along
segments in general, and this module says what.

* The questions of a walk: each one is put for the name whose index the ledger notes, and for no
  other (`serves_of_mem_walkNames`). A mapping is asked for the name itself and a sequence for the
  item whose position the name spells (`Access.Serves`).
* The endings of a walk (`walkNames_cases`): a hit leaves no record, a miss leaves records that
  can be written, and what escapes is an interruption, which some value raised when the walk came
  to it and asked it for the next name (`Value.RaisesAt`).

Both are shown for one step and then for runs, by induction on the names.
-/

namespace SafeLookup

/-- The questions that are put for the sake of a name: about the name itself, about the item at the
position that the name spells, and those that name nothing. -/
def Access.Serves (name : String) : Access → Prop
  | contains s | read s => s = .name name
  | item position => name = toString position
  | length | names => True

/-- A list of names, as a value. -/
def Value.ofNames (names : List String) : Value := .run .list (names.map .text)

/-- A walk along a list of names is a walk along names. -/
theorem Value.walkAlong_ofNames (attributes : Admission) (root : Value) (names : List String) :
    root.walkAlong attributes (ofNames names) = root.walkNames attributes names := by
  have hsegments : (names.map text).map Segment.ofValue = names.map .name := by
    rw [List.map_map]
    rfl
  rw [walkNames, ← hsegments]
  rfl

/-! ### The questions of a step -/

/-- Reading a member adds no question to those so far. -/
@[simp] theorem Probe.ledger_ofRead (asked : List Access) (read : Except Raised Value) :
    (Probe.ofRead asked read).ledger = asked := by
  cases read <;> rfl

/-- A mapping is asked whether it has the name, and for what stands under it. -/
theorem MappingView.mem_ledger_member {view : MappingView} {s : Segment} {access : Access}
    (h : access ∈ (view.member s).ledger) : access = .contains s ∨ access = .read s := by
  rw [MappingView.member] at h
  cases hhas : view.contains s with
  | error raised =>
      rw [hhas] at h
      exact Or.inl (List.mem_singleton.mp h)
  | ok has =>
      rw [hhas] at h
      cases has with
      | false => exact Or.inl (List.mem_singleton.mp h)
      | true =>
          rw [Probe.ledger_ofRead] at h
          exact List.mem_pair.mp h

/-- A mapping is asked for the name. -/
theorem MappingView.serves_of_mem_member {view : MappingView} {name : String} {access : Access}
    (h : access ∈ (view.member (.name name)).ledger) : access.Serves name := by
  rcases MappingView.mem_ledger_member h with rfl | rfl
  · rfl
  · rfl

/-- A sequence is asked for its length and for the item at the position that the name spells. -/
theorem SequenceView.mem_ledger_member {view : SequenceView} {name : String} {access : Access}
    (h : access ∈ (view.member (.name name)).ledger) :
    access = .length ∨ ∃ position : ℕ, name = toString position ∧ access = .item position := by
  rw [SequenceView.member, memberNamed] at h
  split at h
  · cases h
  next hindex =>
    split at h
    · cases h
    · have hname : name = toString (Path.position name) :=
        (Path.toString_position (by simpa using hindex)).symm
      rw [memberAt] at h
      cases hlength : view.length with
      | error raised =>
          rw [hlength] at h
          exact Or.inl (List.mem_singleton.mp h)
      | ok n =>
          rw [hlength] at h
          dsimp only at h
          split at h
          · rw [Probe.ledger_ofRead] at h
            rcases List.mem_pair.mp h with hlength | hitem
            · exact Or.inl hlength
            · exact Or.inr ⟨_, hname, hitem⟩
          · exact Or.inl (List.mem_singleton.mp h)

/-- What a sequence is asked for serves the name. -/
theorem SequenceView.serves_of_mem_member {view : SequenceView} {name : String} {access : Access}
    (h : access ∈ (view.member (.name name)).ledger) : access.Serves name := by
  rcases SequenceView.mem_ledger_member h with rfl | ⟨position, hname, rfl⟩
  · trivial
  · exact hname

/-- The namespace of an object is asked for the name once it has been opened. -/
theorem Shape.serves_of_mem_memberOfNames {names : Except Raised (Option MappingView)}
    {name : String} {access : Access}
    (h : access ∈ (Shape.memberOfNames (.name name) names).ledger) : access.Serves name := by
  rcases names with raised | _ | view
  · obtain rfl := List.mem_singleton.mp h
    trivial
  · obtain rfl := List.mem_singleton.mp h
    trivial
  · rcases List.mem_cons.mp h with rfl | h
    · trivial
    · exact MappingView.serves_of_mem_member h

namespace Value

/-- **What a value is asked for a name serves that name.** -/
theorem serves_of_mem_member {attributes : Admission} {v : Value} {name : String}
    {access : Access} (h : access ∈ (v.member attributes (.name name)).ledger) :
    access.Serves name := by
  rw [member] at h
  cases hshape : v.shape with
  | mapping view => exact MappingView.serves_of_mem_member (hshape ▸ h)
  | sequence view => exact SequenceView.serves_of_mem_member (hshape ▸ h)
  | scalar =>
      rw [hshape] at h
      cases attributes <;> cases h
  | object names =>
      rw [hshape] at h
      rcases attributes with raised | _ | _
      · cases h
      · cases h
      · exact Shape.serves_of_mem_memberOfNames h

end Value

/-! ### The questions of a walk -/

/-- The questions of a walk so far. -/
def Progress.ledger : Progress → List (ℕ × Access)
  | reached _ asked => asked
  | ended l => l.ledger

namespace Progress

@[simp] theorem ledger_reached (v : Value) (asked : List (ℕ × Access)) :
    (reached v asked).ledger = asked := rfl

@[simp] theorem ledger_ended (l : Lookup) : (ended l).ledger = l.ledger := rfl

/-- An earlier ledger comes first. -/
@[simp] theorem ledger_after (p : Progress) (asked : List (ℕ × Access)) :
    (p.after asked).ledger = asked ++ p.ledger := by
  cases p <;> rfl

/-- Looking at the value at the end asks nothing. -/
theorem ledger_settle (p : Progress) (steps : ℕ) : (p.settle steps).ledger = p.ledger := by
  cases p with
  | ended l => rfl
  | reached v asked =>
      have harrive : (v.arrive steps).ledger = [] := by cases v <;> rfl
      rw [settle_reached, Lookup.after, harrive, List.append_nil, ledger_reached]

end Progress

/-- A reply notes the questions that led to it. -/
theorem Reply.ledger_progress (reply : Reply) (index : ℕ) (s : Segment)
    (asked : List (ℕ × Access)) : (reply.progress index s asked).ledger = asked := by
  cases reply with
  | found member => rfl
  | absent => exact List.append_nil asked
  | closed => exact List.append_nil asked
  | raised raised => cases raised <;> exact List.append_nil asked

namespace Value

variable {attributes : Admission}

/-- What keeps a walk along a name from asking is a miss, and nothing has been asked. -/
theorem ending_of_refuse?_name {v : Value} {index : ℕ} {name : String} {l : Lookup}
    (h : v.refuse? index (.name name) = some l) : l.ending = .miss ∧ l.ledger = [] := by
  rw [refuse?, Segment.incomparable?] at h
  dsimp only at h
  split at h
  · obtain rfl := Option.some.inj h
    exact ⟨rfl, rfl⟩
  · split at h
    · obtain rfl := Option.some.inj h
      exact ⟨rfl, rfl⟩
    · cases h

/-- The questions of a step along a name serve that name and are noted with its index. -/
theorem serves_of_mem_step {v : Value} {index : ℕ} {name : String} {entry : ℕ × Access}
    (h : entry ∈ (v.step attributes index (.name name)).ledger) :
    entry.1 = index ∧ entry.2.Serves name := by
  rw [step] at h
  cases hrefuse : v.refuse? index (.name name) with
  | some refused =>
      rw [hrefuse, Progress.ledger_ended, (ending_of_refuse?_name hrefuse).2] at h
      cases h
  | none =>
      rw [hrefuse] at h
      dsimp only at h
      rw [Reply.ledger_progress] at h
      obtain ⟨access, haccess, rfl⟩ := List.mem_map.mp h
      exact ⟨rfl, serves_of_mem_member haccess⟩

/-- **The questions of a run are those of its steps**, each made from the value to which the steps
in front of it lead. -/
theorem exists_step_of_mem_descend {v : Value} {index : ℕ} {ss : List Segment}
    {entry : ℕ × Access} (h : entry ∈ (v.descend attributes index ss).ledger) :
    ∃ i s w asked, ss[i]? = some s ∧
      v.descend attributes index (ss.take i) = .reached w asked ∧
      entry ∈ (w.step attributes (index + i) s).ledger := by
  induction ss generalizing v index with
  | nil => cases h
  | cons s rest ih =>
      rw [descend] at h
      have hfirst : entry ∈ (v.step attributes index s).ledger →
          ∃ i t w asked, (s :: rest)[i]? = some t ∧
            v.descend attributes index ((s :: rest).take i) = .reached w asked ∧
            entry ∈ (w.step attributes (index + i) t).ledger :=
        fun hentry => ⟨0, s, v, [], rfl, rfl, hentry⟩
      cases hstep : v.step attributes index s with
      | ended l =>
          rw [hstep] at h hfirst
          exact hfirst h
      | reached member asked =>
          rw [hstep] at h hfirst
          rw [Progress.andThen_reached, Progress.ledger_after] at h
          rcases List.mem_append.mp h with hentry | hentry
          · exact hfirst hentry
          · obtain ⟨i, t, w, asked', ht, hreached, hentry⟩ := ih hentry
            refine ⟨i + 1, t, w, asked ++ asked', by simpa using ht, ?_, ?_⟩
            · rw [List.take_succ_cons, descend, hstep, Progress.andThen_reached, hreached,
                Progress.after_reached]
            · rw [show index + (i + 1) = index + 1 + i by omega]
              exact hentry

/-- The questions of a run along names: each one serves the name at its index. -/
theorem serves_of_mem_descend {v : Value} {index : ℕ} {names : List String}
    {entry : ℕ × Access}
    (h : entry ∈ (v.descend attributes index (names.map .name)).ledger) :
    ∃ i name, entry.1 = index + i ∧ names[i]? = some name ∧ entry.2.Serves name := by
  obtain ⟨i, s, w, asked, hs, -, hentry⟩ := exists_step_of_mem_descend h
  rw [List.getElem?_map] at hs
  obtain ⟨name, hname, rfl⟩ := Option.map_eq_some_iff.mp hs
  obtain ⟨hindex, hserves⟩ := serves_of_mem_step hentry
  exact ⟨i, name, hindex, hname, hserves⟩

/-- The questions of a walk along one name are those of its step, if it may ask the value. -/
theorem ledger_walkNames_of_refuse?_eq_none {v : Value} {name : String}
    (h : v.refuse? 0 (.name name) = none) :
    (v.walkNames attributes [name]).ledger =
      (v.member attributes (.name name)).ledger.map fun access => (0, access) := by
  rw [walkNames, List.map_singleton, walk_eq_settle attributes v (List.cons_ne_nil _ _),
    Progress.ledger_settle, descend_singleton, step, h]
  exact Reply.ledger_progress _ 0 (.name name) _

/-- **Each question of a walk serves the name at its index.** -/
theorem serves_of_mem_walkNames {root : Value} {names : List String} {entry : ℕ × Access}
    (h : entry ∈ (root.walkNames attributes names).ledger) :
    ∃ name, names[entry.1]? = some name ∧ entry.2.Serves name := by
  by_cases hnil : names = []
  · subst hnil
    cases h
  · rw [walkNames, walk_eq_settle attributes root (mt List.map_eq_nil_iff.mp hnil),
      Progress.ledger_settle] at h
    obtain ⟨i, name, hindex, hname, hserves⟩ := serves_of_mem_descend h
    rw [Nat.zero_add] at hindex
    exact ⟨name, hindex ▸ hname, hserves⟩

/-! ### What is raised on the way -/

/-- **A walk meets what is raised at a step**: the names in front of index `i` lead to a value with
content, the name at `i` is not reserved, and asking the value for it raises. -/
def RaisesAt (attributes : Admission) (root : Value) (names : List String) (i : ℕ)
    (raised : Raised) : Prop :=
  ∃ name v, names[i]? = some name ∧ name ∉ Path.reservedNames ∧
    root.Leads attributes.admits (names.take i) v ∧ v ≠ null ∧ v ≠ unset ∧
    v.Raises attributes name raised

/-- An escape from a step along a name is an interruption that the value raised. -/
theorem escaped_of_step {v : Value} {index : ℕ} {name : String} {l : Lookup} {e : Escape}
    (h : v.step attributes index (.name name) = .ended l) (he : l.ending = .escaped e) :
    ∃ kind, e = .interrupt kind ∧ v.refuse? index (.name name) = none ∧
      v.Raises attributes name (.interrupt kind) := by
  rw [step] at h
  cases hrefuse : v.refuse? index (.name name) with
  | some refused =>
      rw [hrefuse] at h
      obtain rfl := Progress.ended.inj h
      rw [(ending_of_refuse?_name hrefuse).1] at he
      cases he
  | none =>
      rw [hrefuse] at h
      cases hreply : (v.member attributes (.name name)).reply with
      | found member =>
          rw [hreply] at h
          cases h
      | absent =>
          rw [hreply] at h
          obtain rfl := Progress.ended.inj h
          cases he
      | closed =>
          rw [hreply] at h
          obtain rfl := Progress.ended.inj h
          cases he
      | raised raised =>
          rw [hreply] at h
          cases raised with
          | fault f =>
              obtain rfl := Progress.ended.inj h
              cases he
          | interrupt kind =>
              obtain rfl := Progress.ended.inj h
              obtain rfl := Ending.escaped.inj he
              exact ⟨kind, rfl, rfl, member_eq_raised_iff.mp hreply⟩

/-- An escape from a run along names is an interruption that the walk meets. -/
theorem escaped_of_descend {root : Value} {names : List String} {l : Lookup} {e : Escape}
    (h : root.descend attributes 0 (names.map .name) = .ended l)
    (he : l.ending = .escaped e) :
    ∃ kind i, e = .interrupt kind ∧ root.RaisesAt attributes names i (.interrupt kind) := by
  obtain ⟨i, s, v, asked, l', hs, hreached, hstep, rfl⟩ := exists_step_of_descend h
  rw [List.getElem?_map] at hs
  obtain ⟨name, hname, rfl⟩ := Option.map_eq_some_iff.mp hs
  obtain ⟨kind, rfl, hrefuse, hraises⟩ := escaped_of_step hstep he
  obtain ⟨hfree, hnull, hunset⟩ := refuse?_name_eq_none_iff.mp hrefuse
  have hleads : root.Leads attributes.admits (names.take i) v :=
    descend_eq_reached_iff_leads.mp ⟨asked, by rw [List.map_take, hreached]⟩
  exact ⟨kind, i, rfl, name, v, hname, hfree, hleads, hnull, hunset, hraises⟩

/-- **How walks along names end**: with a hit and no record, with a miss whose records can be
written, or with an interruption that the walk meets. -/
theorem walkNames_cases (attributes : Admission) (root : Value) (names : List String) :
    (∃ v, (root.walkNames attributes names).ending = .hit v ∧
      (root.walkNames attributes names).records = []) ∨
    ((root.walkNames attributes names).ending = .miss ∧
      (root.walkNames attributes names).records.all Miss.isWritable = true) ∨
    (∃ kind i, (root.walkNames attributes names).ending = .escaped (.interrupt kind) ∧
      (root.walkNames attributes names).records = [] ∧
      root.RaisesAt attributes names i (.interrupt kind)) := by
  cases hrun : root.descend attributes 0 (names.map .name) with
  | ended l =>
      rw [walkNames, walk_of_descend_ended hrun]
      obtain ⟨i, s, hs, ⟨reason, -, hmiss, hrecords⟩ | ⟨e, hesc, hrecords⟩⟩ :=
        endsAt_of_descend hrun
      · obtain ⟨name, -, rfl⟩ := List.mem_map.mp (List.mem_of_getElem? hs)
        exact Or.inr (Or.inl ⟨hmiss, by simp [hrecords, Miss.isWritable, Segment.isWritable]⟩)
      · obtain ⟨kind, i, rfl, hraises⟩ := escaped_of_descend hrun hesc
        exact Or.inr (Or.inr ⟨kind, i, hesc, hrecords, hraises⟩)
  | reached v asked =>
      by_cases hnil : names = []
      · subst hnil
        rw [walkNames, List.map_nil, walk, coalesce, Lookup.ended]
        cases root.isNullish with
        | true => exact Or.inr (Or.inl ⟨rfl, rfl⟩)
        | false => exact Or.inl ⟨root, rfl, rfl⟩
      · rw [walkNames, walk_of_descend_reached (mt List.map_eq_nil_iff.mp hnil) hrun]
        by_cases hunset : v = unset
        · subst hunset
          exact Or.inr (Or.inl ⟨rfl, rfl⟩)
        · rw [arrive_of_ne hunset]
          exact Or.inl ⟨v, rfl, rfl⟩

/-! ### Hits -/

/-- A walk along names that hits leaves no record. -/
theorem records_of_walkNames_hit {root w : Value} {names : List String}
    (h : (root.walkNames attributes names).ending = .hit w) :
    (root.walkNames attributes names).records = [] := by
  rcases walkNames_cases attributes root names with
    ⟨v, -, hrecords⟩ | ⟨hmiss, -⟩ | ⟨kind, i, hescaped, -⟩
  · exact hrecords
  · rw [hmiss] at h
    cases h
  · rw [hescaped] at h
    cases h

/-- Along names a walk hits the value to which they lead, unless it is unset. -/
theorem walkNames_hit_iff_leads {root w : Value} {names : List String} (hne : names ≠ []) :
    (root.walkNames attributes names).ending = .hit w ↔
      root.Leads attributes.admits names w ∧ w ≠ unset := by
  rw [walkNames, walk_hit_iff, descend_eq_reached_iff_leads]
  simp [hne]

end Value

end SafeLookup
