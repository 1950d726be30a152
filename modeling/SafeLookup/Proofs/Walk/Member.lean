import SafeLookup.Member
import SafeLookup.Proofs.Path.Decimal

/-!
# The Own Members of a Value

`Value.Owns` says what a member of a value is, in terms of what the value answers and of nothing
else: no order of tests, no ledger, no spelling to be parsed. A mapping owns what it claims to
have and lets be read; a sequence owns the items below the length that it reports, each under
the decimal text of its position; every other value but a scalar owns the entries of its
namespace, if attributes are admitted.

The lookup of a member (`Value.member`) finds exactly the own members, except that data which is
itself one of the marks of a lookup is taken for what the mark says (`member_eq_found_iff`). So
there are two ways to a closed reply (`member_eq_closed_iff`): the value has no kind that can be
stepped into (`Value.IsClosed`), or its own member of that name is the mark of such a value. Both
follow from one equivalence for all replies that a member can stand for (`member_eq_iff`), which is
proved container by container.
-/

namespace SafeLookup

/-- Whether attributes are admitted as members. Where asking for it raises, they are not. -/
def Admission.admits : Admission → Bool
  | .ok admitted => admitted
  | .error _ => false

@[simp] theorem Admission.admits_ok (admitted : Bool) :
    Admission.admits (.ok admitted) = admitted := rfl

@[simp] theorem Admission.admits_error (raised : Raised) :
    Admission.admits (.error raised) = false := rfl

namespace Value

/-- **Own members.** `v.Owns attributes name m`: the member of `v` named `name` is `m`, where
`attributes` says whether the attributes of objects are admitted. -/
inductive Owns (attributes : Bool) : Value → String → Value → Prop
  /-- A mapping owns what it claims to have and lets be read. -/
  | entry {v m : Value} {name : String} {view : MappingView} :
      v.mappingView? = some view →
      view.contains (.name name) = .ok true →
      view.read (.name name) = .ok m →
      Owns attributes v name m
  /-- A sequence owns the items below its reported length, under their positions in decimal. -/
  | item {v m : Value} {name : String} {view : SequenceView} {n k : ℕ} :
      v.sequenceView? = some view →
      name = toString k →
      name.length ≤ Path.maxDigits →
      view.length = .ok n →
      k < n →
      view.read k = .ok m →
      Owns attributes v name m
  /-- Any other value but a scalar owns the entries of its namespace, if that is admitted. -/
  | attribute {v m : Value} {name : String} {view : MappingView} :
      attributes = true →
      v.mappingView? = none →
      v.sequenceView? = none →
      v.isScalar = false →
      v.names = .ok (some view) →
      view.contains (.name name) = .ok true →
      view.read (.name name) = .ok m →
      Owns attributes v name m

/-- **The kinds that can be stepped into**: mappings, sequences, and, if attributes are admitted,
every other value but a scalar, unless it has no namespace. -/
inductive IsTraversable (attributes : Bool) : Value → Prop
  | mapping {v : Value} {view : MappingView} :
      v.mappingView? = some view → IsTraversable attributes v
  | sequence {v : Value} {view : SequenceView} :
      v.sequenceView? = some view → IsTraversable attributes v
  | object {v : Value} :
      attributes = true → v.isScalar = false → v.names ≠ .ok none → IsTraversable attributes v

/-- A value is closed if it is known whether attributes are admitted and the value cannot be stepped
into then. -/
def IsClosed (attributes : Admission) (v : Value) : Prop :=
  ∃ admitted, attributes = .ok admitted ∧ ¬v.IsTraversable admitted

/-- No value is both a mapping and a sequence. -/
theorem sequenceView?_of_mappingView? {v : Value} {view : MappingView}
    (h : v.mappingView? = some view) : v.sequenceView? = none := by
  rw [mappingView?] at h
  rw [sequenceView?]
  split at h
  next hcore => rw [hcore]
  next hcore => rw [hcore]
  next hcore => rw [hcore]
  next => cases h

/-! ### Own members, kind by kind -/

section Kinds

variable {attributes : Bool} {v m : Value} {name : String}

/-- The own members of a mapping. -/
theorem owns_iff_of_mapping {view : MappingView} (h : v.mappingView? = some view) :
    v.Owns attributes name m ↔
      view.contains (.name name) = .ok true ∧ view.read (.name name) = .ok m := by
  constructor
  · rintro (⟨hview, hcontains, hread⟩ | ⟨hview, -⟩ | ⟨-, hview, -⟩)
    · obtain rfl := Option.some.inj (h.symm.trans hview)
      exact ⟨hcontains, hread⟩
    · rw [sequenceView?_of_mappingView? h] at hview
      cases hview
    · rw [h] at hview
      cases hview
  · rintro ⟨hcontains, hread⟩
    exact Owns.entry h hcontains hread

/-- The own members of a sequence. -/
theorem owns_iff_of_sequence {view : SequenceView} (h : v.sequenceView? = some view) :
    v.Owns attributes name m ↔
      ∃ k n, name = toString k ∧ name.length ≤ Path.maxDigits ∧
        view.length = .ok n ∧ k < n ∧ view.read k = .ok m := by
  constructor
  · rintro (⟨hview, -⟩ | ⟨hview, hname, hdigits, hlength, hlt, hread⟩ | ⟨-, -, hview, -⟩)
    · rw [sequenceView?_of_mappingView? hview] at h
      cases h
    · obtain rfl := Option.some.inj (h.symm.trans hview)
      exact ⟨_, _, hname, hdigits, hlength, hlt, hread⟩
    · rw [h] at hview
      cases hview
  · rintro ⟨k, n, hname, hdigits, hlength, hlt, hread⟩
    exact Owns.item h hname hdigits hlength hlt hread

/-- The own members of a value that is neither a mapping nor a sequence. -/
theorem owns_iff_of_neither (hmap : v.mappingView? = none) (hseq : v.sequenceView? = none) :
    v.Owns attributes name m ↔
      attributes = true ∧ v.isScalar = false ∧ ∃ view, v.names = .ok (some view) ∧
        view.contains (.name name) = .ok true ∧ view.read (.name name) = .ok m := by
  constructor
  · rintro (⟨hview, -⟩ | ⟨hview, -⟩ | ⟨hattrs, -, -, hscalar, hnames, hcontains, hread⟩)
    · rw [hmap] at hview
      cases hview
    · rw [hseq] at hview
      cases hview
    · exact ⟨hattrs, hscalar, _, hnames, hcontains, hread⟩
  · rintro ⟨hattrs, hscalar, view, hnames, hcontains, hread⟩
    exact Owns.attribute hattrs hmap hseq hscalar hnames hcontains hread

/-- What a value has to be that can be stepped into without being a mapping or a sequence. -/
theorem isTraversable_iff_of_neither (hmap : v.mappingView? = none)
    (hseq : v.sequenceView? = none) :
    v.IsTraversable admitted ↔ admitted = true ∧ v.isScalar = false ∧ v.names ≠ .ok none := by
  constructor
  · rintro (hview | hview | ⟨hflag, hscalar, hnames⟩)
    · simp [hmap] at hview
    · simp [hseq] at hview
    · exact ⟨hflag, hscalar, hnames⟩
  · rintro ⟨hflag, hscalar, hnames⟩
    exact IsTraversable.object hflag hscalar hnames

/-- A table owns its entries. -/
theorem owns_of_find? {kind : TableKind} {entries : List (Value × Value)}
    (hcore : v.core = .table kind entries) (hfind : (Segment.name name).find? entries = some m) :
    v.Owns attributes name m := by
  have hview : v.mappingView? = some (.ofEntries entries) := by rw [mappingView?, hcore]
  have hhashable : (Segment.name name).isHashable = true := rfl
  refine (owns_iff_of_mapping hview).mpr ⟨?_, ?_⟩
  · simp [MappingView.ofEntries, MappingView.ofFind, hhashable, hfind]
  · simp [MappingView.ofEntries, MappingView.ofFind, hhashable, hfind]

end Kinds

end Value

/-! ### What a lookup finds, kind by kind -/

namespace Reply

/-- Whether a member can stand for a reply: the member itself, or a closed value. -/
def isOfMember : Reply → Bool
  | found _ | closed => true
  | absent | raised _ => false

/-- No member stands for an absent one. -/
theorem absent_ne {reply : Reply} (h : reply.isOfMember = true) : absent ≠ reply := by
  rintro rfl
  cases h

/-- No member stands for what is raised. -/
theorem raised_ne {reply : Reply} (h : reply.isOfMember = true) (raised' : Raised) :
    raised raised' ≠ reply := by
  rintro rfl
  cases h

/-- A member that was read is found unless it is a mark. -/
theorem ofMember_eq_found_iff {v m : Value} :
    ofMember v = .found m ↔ v = m ∧ m.isMark = false := by
  constructor
  · intro h
    cases v <;> cases h <;> exact ⟨rfl, rfl⟩
  · rintro ⟨rfl, hmark⟩
    cases v <;> first | rfl | cases hmark

/-- A member that was read is taken for a closed value if it is the mark of one. -/
theorem ofMember_eq_closed_iff {v : Value} : ofMember v = .closed ↔ v = .closed := by
  cases v <;> simp [ofMember]

end Reply

section Replies

variable {reply : Reply}

/-- A reading that shows a member has succeeded. -/
theorem Probe.ofRead_eq_iff {asked : List Access} {read : Except Raised Value}
    (h : reply.isOfMember = true) :
    (Probe.ofRead asked read).reply = reply ↔ ∃ m, read = .ok m ∧ .ofMember m = reply := by
  cases read with
  | error raised => simp [Probe.ofRead, Reply.raised_ne h]
  | ok v => simp [Probe.ofRead]

/-- What a step into a mapping shows. -/
theorem MappingView.member_eq_iff {view : MappingView} {s : Segment}
    (h : reply.isOfMember = true) :
    (view.member s).reply = reply ↔
      ∃ m, (view.contains s = .ok true ∧ view.read s = .ok m) ∧ .ofMember m = reply := by
  rw [MappingView.member]
  cases view.contains s with
  | error raised => simp [Reply.raised_ne h]
  | ok has =>
      cases has with
      | false => simp [Reply.absent_ne h]
      | true => simp [Probe.ofRead_eq_iff h]

namespace SequenceView

/-- What a step into a sequence at a position shows. -/
theorem memberAt_eq_iff {view : SequenceView} {i : ℕ} (h : reply.isOfMember = true) :
    (view.memberAt i).reply = reply ↔
      ∃ m, (∃ n, view.length = .ok n ∧ i < n ∧ view.read i = .ok m) ∧ .ofMember m = reply := by
  rw [memberAt]
  cases view.length with
  | error raised => simp [Reply.raised_ne h]
  | ok n =>
      by_cases hlt : i < n
      · simp [hlt, Probe.ofRead_eq_iff h]
      · simp [hlt, Reply.absent_ne h]

/-- A decimal text names the item at its number, unless it is too long to be read. -/
theorem memberNamed_toString (view : SequenceView) (k : ℕ) :
    view.memberNamed (toString k) =
      if Path.maxDigits < (toString k).length then ⟨.raised (.fault .tooManyDigits), []⟩
      else view.memberAt k := by
  have hindex : Path.isIndex (toString k) = true := Path.isIndex_iff.mpr ⟨k, rfl⟩
  rw [memberNamed, hindex, Path.position_toString]
  rfl

/-- Any other name names no item. -/
theorem memberNamed_of_ne_toString {view : SequenceView} {name : String}
    (h : ∀ k : ℕ, name ≠ toString k) : view.memberNamed name = ⟨.absent, []⟩ := by
  have hindex : Path.isIndex name = false := by
    rw [Bool.eq_false_iff]
    intro hindex
    obtain ⟨k, hk⟩ := Path.isIndex_iff.mp hindex
    exact h k hk
  rw [memberNamed, hindex]
  rfl

/-- What a step into a sequence by a name shows: the item at the position whose decimal text the
name is, if the text is not too long. -/
theorem memberNamed_eq_iff {view : SequenceView} {name : String} (h : reply.isOfMember = true) :
    (view.memberNamed name).reply = reply ↔
      ∃ m, (∃ k n, name = toString k ∧ name.length ≤ Path.maxDigits ∧
        view.length = .ok n ∧ k < n ∧ view.read k = .ok m) ∧ .ofMember m = reply := by
  by_cases hname : ∃ k : ℕ, name = toString k
  · obtain ⟨k, rfl⟩ := hname
    rw [memberNamed_toString]
    by_cases hlong : Path.maxDigits < (toString k).length
    · rw [if_pos hlong]
      constructor
      · exact fun heq => absurd heq (Reply.raised_ne h _)
      · rintro ⟨m, ⟨_, _, _, hle, _⟩, _⟩
        omega
    · rw [if_neg hlong, memberAt_eq_iff h]
      constructor
      · rintro ⟨m, ⟨n, hlength, hlt, hread⟩, hm⟩
        exact ⟨m, ⟨k, n, rfl, by omega, hlength, hlt, hread⟩, hm⟩
      · rintro ⟨m, ⟨k', n, hname, -, hlength, hlt, hread⟩, hm⟩
        obtain rfl := Path.toString_inj.mp hname
        exact ⟨m, ⟨n, hlength, hlt, hread⟩, hm⟩
  · rw [memberNamed_of_ne_toString (not_exists.mp hname)]
    constructor
    · exact fun heq => absurd heq (Reply.absent_ne h)
    · rintro ⟨m, ⟨k, _, rfl, _⟩, _⟩
      exact absurd ⟨k, rfl⟩ hname

end SequenceView

/-- What a step into the namespace of an object shows: a member, or that there is no namespace. -/
theorem Shape.memberOfNames_eq_iff {names : Except Raised (Option MappingView)} {s : Segment}
    (h : reply.isOfMember = true) :
    (Shape.memberOfNames s names).reply = reply ↔
      (∃ m, (∃ view, names = .ok (some view) ∧
        view.contains s = .ok true ∧ view.read s = .ok m) ∧ .ofMember m = reply) ∨
      (reply = .closed ∧ names = .ok none) := by
  rcases names with raised | _ | view
  · simp [Shape.memberOfNames, Reply.raised_ne h]
  · simp [Shape.memberOfNames, eq_comm]
  · simp [Shape.memberOfNames, MappingView.member_eq_iff h]

namespace Value

variable {attributes : Admission} {v : Value} {name : String}

/-- **What a lookup shows of a value**: what its own member stands for, or that it is closed. -/
theorem member_eq_iff (h : reply.isOfMember = true) :
    (v.member attributes (.name name)).reply = reply ↔
      (∃ m, v.Owns attributes.admits name m ∧ .ofMember m = reply) ∨
      (reply = .closed ∧ v.IsClosed attributes) := by
  have hopen : (∀ admitted, v.IsTraversable admitted) → ¬v.IsClosed attributes := by
    rintro htraversable ⟨admitted, -, hclosed⟩
    exact hclosed (htraversable admitted)
  rw [member, shape]
  cases hmap : v.mappingView? with
  | some view =>
      have hclosed := hopen fun _ => IsTraversable.mapping hmap
      simp only [owns_iff_of_mapping hmap, Shape.member, MappingView.member_eq_iff h, hclosed,
        and_false, or_false]
  | none =>
      cases hseq : v.sequenceView? with
      | some view =>
          have hclosed := hopen fun _ => IsTraversable.sequence hseq
          simp only [owns_iff_of_sequence hseq, Shape.member, SequenceView.member,
            SequenceView.memberNamed_eq_iff h, hclosed, and_false, or_false]
      | none =>
          simp only [owns_iff_of_neither hmap hseq, IsClosed,
            isTraversable_iff_of_neither hmap hseq]
          cases hscalar : v.isScalar with
          | true =>
              cases attributes with
              | error raised => simp [Shape.member, Reply.raised_ne h]
              | ok admitted => simp [Shape.member, eq_comm]
          | false =>
              rcases attributes with raised | _ | _
              · simp [Shape.member, Reply.raised_ne h]
              · simp [Shape.member, eq_comm]
              · simp [Shape.member, Shape.memberOfNames_eq_iff h]

/-- **The lookup finds the own members**, and of those all but the marks. -/
theorem member_eq_found_iff {m : Value} :
    (v.member attributes (.name name)).reply = .found m ↔
      v.Owns attributes.admits name m ∧ m.isMark = false := by
  rw [member_eq_iff rfl]
  simp [Reply.ofMember_eq_found_iff]

/-- **The lookup takes a value for closed** if it is, or if its own member is the mark of a closed
value. -/
theorem member_eq_closed_iff :
    (v.member attributes (.name name)).reply = .closed ↔
      v.IsClosed attributes ∨ v.Owns attributes.admits name closed := by
  rw [member_eq_iff rfl]
  simp [Reply.ofMember_eq_closed_iff, or_comm]

/-- A step into a table along a name: the entry under the name is read. -/
theorem member_of_table {kind : TableKind} {entries : List (Value × Value)}
    (h : v.core = .table kind entries) (attributes : Admission) (name : String) :
    v.member attributes (.name name) =
      match (Segment.name name).find? entries with
      | some m => ⟨.ofMember m, [.contains (.name name), .read (.name name)]⟩
      | none => ⟨.absent, [.contains (.name name)]⟩ := by
  have hview : v.mappingView? = some (.ofEntries entries) := by rw [mappingView?, h]
  have hhashable : (Segment.name name).isHashable = true := rfl
  rw [member, shape, hview]
  simp only [Shape.member, MappingView.member, MappingView.ofEntries, MappingView.ofFind, hhashable]
  cases (Segment.name name).find? entries <;> rfl

/-- A step into a sequence along a name. -/
theorem member_of_sequence {view : SequenceView} (h : v.sequenceView? = some view)
    (attributes : Admission) (name : String) :
    v.member attributes (.name name) = view.memberNamed name := by
  have hmapping : v.mappingView? = none := by
    cases hview : v.mappingView? with
    | none => rfl
    | some mapping =>
        rw [sequenceView?_of_mappingView? hview] at h
        cases h
  rw [member, shape, hmapping, h]
  rfl

end Value

end Replies

end SafeLookup
