import SafeLookup.Proofs.Walk.Member

/-!
# What Asking a Value for a Name Raises

`Value.Owns` says which members a value has. This module says what asking for one may raise instead,
again in terms of what the value answers and of nothing else (`Value.Raises`).

A mapping raises when it is asked whether it has the name, or when the name that it claims to have
is read; a sequence raises over its length, over the item at the position, or over a position with
too many digits; an object raises over its namespace, or as the namespace does. For a value that is
neither a mapping nor a sequence there is one thing more that may raise: whether attributes are
admitted.

The lookup of a member raises exactly that (`member_eq_raised_iff`). As in
`SafeLookup.Proofs.Walk.Member`, the proof goes container by container.
-/

namespace SafeLookup

/-- What a mapping raises over a name: when it is asked for the name, or when it claims to have the
name and is read. -/
def MappingView.Raises (view : MappingView) (name : String) (raised : Raised) : Prop :=
  view.contains (.name name) = .error raised ∨
    (view.contains (.name name) = .ok true ∧ view.read (.name name) = .error raised)

/-- What a sequence raises over a position: when it is asked for its length, or when the position is
below its length and is read. -/
def SequenceView.Raises (view : SequenceView) (position : ℕ) (raised : Raised) : Prop :=
  view.length = .error raised ∨
    ∃ n, view.length = .ok n ∧ position < n ∧ view.read position = .error raised

namespace Value

/-- **What asking a value for a name raises.** -/
inductive Raises (attributes : Admission) : Value → String → Raised → Prop
  /-- What a mapping raises over the name. -/
  | entry {v : Value} {name : String} {raised : Raised} {view : MappingView} :
      v.mappingView? = some view →
      view.Raises name raised →
      Raises attributes v name raised
  /-- A name that spells a position with too many digits is not turned into a number. -/
  | position {v : Value} {name : String} {view : SequenceView} {k : ℕ} :
      v.sequenceView? = some view →
      name = toString k →
      Path.maxDigits < name.length →
      Raises attributes v name (.fault .tooManyDigits)
  /-- What a sequence raises over the position that the name spells. -/
  | item {v : Value} {name : String} {raised : Raised} {view : SequenceView} {k : ℕ} :
      v.sequenceView? = some view →
      name = toString k →
      name.length ≤ Path.maxDigits →
      view.Raises k raised →
      Raises attributes v name raised
  /-- What came of asking whether attributes are admitted. Mappings and sequences do not need to
  know. -/
  | admission {v : Value} {name : String} {raised : Raised} :
      v.mappingView? = none →
      v.sequenceView? = none →
      attributes = .error raised →
      Raises attributes v name raised
  /-- What reading the namespace of an object raises. -/
  | names {v : Value} {name : String} {raised : Raised} :
      v.mappingView? = none →
      v.sequenceView? = none →
      attributes = .ok true →
      v.isScalar = false →
      v.names = .error raised →
      Raises attributes v name raised
  /-- What the namespace of an object raises over the name. -/
  | inNames {v : Value} {name : String} {raised : Raised} {view : MappingView} :
      v.mappingView? = none →
      v.sequenceView? = none →
      attributes = .ok true →
      v.isScalar = false →
      v.names = .ok (some view) →
      view.Raises name raised →
      Raises attributes v name raised

/-! ### What is raised, kind by kind -/

section Kinds

variable {attributes : Admission} {v : Value} {name : String} {raised : Raised}

/-- What asking a mapping raises. -/
theorem raises_iff_of_mapping {view : MappingView} (h : v.mappingView? = some view) :
    v.Raises attributes name raised ↔ view.Raises name raised := by
  have hseq : v.sequenceView? = none := sequenceView?_of_mappingView? h
  constructor
  · intro hraises
    cases hraises with
    | entry hview hraised =>
        obtain rfl := Option.some.inj (h.symm.trans hview)
        exact hraised
    | position hview => simp [hseq] at hview
    | item hview => simp [hseq] at hview
    | admission hmap => simp [h] at hmap
    | names hmap => simp [h] at hmap
    | inNames hmap => simp [h] at hmap
  · exact Raises.entry h

/-- What asking a sequence raises. -/
theorem raises_iff_of_sequence {view : SequenceView} (h : v.sequenceView? = some view) :
    v.Raises attributes name raised ↔
      ∃ k : ℕ, name = toString k ∧
        if Path.maxDigits < name.length then raised = .fault .tooManyDigits
        else view.Raises k raised := by
  constructor
  · intro hraises
    cases hraises with
    | entry hview =>
        have hseq := sequenceView?_of_mappingView? hview
        simp [h] at hseq
    | position hview hname hlong => exact ⟨_, hname, by rw [if_pos hlong]⟩
    | item hview hname hshort hraised =>
        obtain rfl := Option.some.inj (h.symm.trans hview)
        exact ⟨_, hname, by rwa [if_neg (Nat.not_lt.mpr hshort)]⟩
    | admission _ hseq => simp [h] at hseq
    | names _ hseq => simp [h] at hseq
    | inNames _ hseq => simp [h] at hseq
  · rintro ⟨k, hname, hraised⟩
    split at hraised
    next hlong =>
      subst hraised
      exact Raises.position h hname hlong
    next hshort => exact Raises.item h hname (Nat.not_lt.mp hshort) hraised

/-- What asking a value raises that is neither a mapping nor a sequence. -/
theorem raises_iff_of_neither (hmap : v.mappingView? = none) (hseq : v.sequenceView? = none) :
    v.Raises attributes name raised ↔
      attributes = .error raised ∨
      (attributes = .ok true ∧ v.isScalar = false ∧
        (v.names = .error raised ∨
          ∃ view, v.names = .ok (some view) ∧ view.Raises name raised)) := by
  constructor
  · intro hraises
    cases hraises with
    | entry hview => simp [hmap] at hview
    | position hview => simp [hseq] at hview
    | item hview => simp [hseq] at hview
    | admission _ _ hflag => exact Or.inl hflag
    | names _ _ hflag hscalar hnames => exact Or.inr ⟨hflag, hscalar, Or.inl hnames⟩
    | inNames _ _ hflag hscalar hnames hraised =>
        exact Or.inr ⟨hflag, hscalar, Or.inr ⟨_, hnames, hraised⟩⟩
  · rintro (hflag | ⟨hflag, hscalar, hnames | ⟨view, hnames, hraised⟩⟩)
    · exact Raises.admission hmap hseq hflag
    · exact Raises.names hmap hseq hflag hscalar hnames
    · exact Raises.inNames hmap hseq hflag hscalar hnames hraised

end Kinds

end Value

/-! ### What a lookup replies, kind by kind -/

/-- A member that was read raises nothing. -/
theorem Reply.ofMember_ne_raised (v : Value) (raised : Raised) :
    Reply.ofMember v ≠ .raised raised := by
  cases v <;> rintro ⟨⟩

/-- A reading that raises. -/
theorem Probe.ofRead_eq_raised_iff {asked : List Access} {read : Except Raised Value}
    {raised : Raised} :
    (Probe.ofRead asked read).reply = .raised raised ↔ read = .error raised := by
  cases read with
  | error raised' => simp [Probe.ofRead]
  | ok v => simp [Probe.ofRead, Reply.ofMember_ne_raised]

namespace MappingView

/-- What a step into a mapping raises. -/
theorem member_eq_raised_iff {view : MappingView} {name : String} {raised : Raised} :
    (view.member (.name name)).reply = .raised raised ↔ view.Raises name raised := by
  rw [member, Raises]
  cases view.contains (.name name) with
  | error raised' => simp
  | ok has =>
      cases has with
      | false => simp
      | true => simp [Probe.ofRead_eq_raised_iff]

end MappingView

namespace SequenceView

/-- What a step into a sequence at a position raises. -/
theorem memberAt_eq_raised_iff {view : SequenceView} {position : ℕ} {raised : Raised} :
    (view.memberAt position).reply = .raised raised ↔ view.Raises position raised := by
  rw [memberAt, Raises]
  cases view.length with
  | error raised' => simp
  | ok n =>
      by_cases hlt : position < n
      · simp [hlt, Probe.ofRead_eq_raised_iff]
      · simp [hlt]

/-- What a step into a sequence by a name raises. -/
theorem memberNamed_eq_raised_iff {view : SequenceView} {name : String} {raised : Raised} :
    (view.memberNamed name).reply = .raised raised ↔
      ∃ k : ℕ, name = toString k ∧
        if Path.maxDigits < name.length then raised = .fault .tooManyDigits
        else view.Raises k raised := by
  by_cases hname : ∃ k : ℕ, name = toString k
  · obtain ⟨k, rfl⟩ := hname
    have hposition : ∀ {p : ℕ → Prop}, (∃ k' : ℕ, toString k = toString k' ∧ p k') ↔ p k := by
      intro p
      simp only [Path.toString_inj, exists_eq_left']
    rw [memberNamed_toString, hposition]
    split
    next => simp [eq_comm]
    next => exact memberAt_eq_raised_iff
  · rw [memberNamed_of_ne_toString (not_exists.mp hname)]
    constructor
    · rintro ⟨⟩
    · rintro ⟨k, rfl, -⟩
      exact absurd ⟨k, rfl⟩ hname

end SequenceView

/-- What a step into the namespace of an object raises. -/
theorem Shape.memberOfNames_eq_raised_iff {names : Except Raised (Option MappingView)}
    {name : String} {raised : Raised} :
    (Shape.memberOfNames (.name name) names).reply = .raised raised ↔
      names = .error raised ∨ ∃ view, names = .ok (some view) ∧ view.Raises name raised := by
  rcases names with raised' | _ | view
  · simp [Shape.memberOfNames]
  · simp [Shape.memberOfNames]
  · simp [Shape.memberOfNames, MappingView.member_eq_raised_iff]

namespace Value

variable {attributes : Admission} {v : Value} {name : String}

/-- **The lookup raises what asking the value raises**, and nothing else. -/
theorem member_eq_raised_iff {raised : Raised} :
    (v.member attributes (.name name)).reply = .raised raised ↔
      v.Raises attributes name raised := by
  rw [member, shape]
  cases hmap : v.mappingView? with
  | some view => rw [raises_iff_of_mapping hmap, Shape.member, MappingView.member_eq_raised_iff]
  | none =>
      cases hseq : v.sequenceView? with
      | some view =>
          rw [raises_iff_of_sequence hseq, Shape.member, SequenceView.member,
            SequenceView.memberNamed_eq_raised_iff]
      | none =>
          rw [raises_iff_of_neither hmap hseq]
          cases hscalar : v.isScalar with
          | true => cases attributes <;> simp [Shape.member]
          | false =>
              rcases attributes with raised' | _ | _
              · simp [Shape.member]
              · simp [Shape.member]
              · simp [Shape.member, Shape.memberOfNames_eq_raised_iff]

end Value

end SafeLookup
