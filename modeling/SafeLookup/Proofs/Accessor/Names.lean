import SafeLookup.Proofs.Accessor.Steps
import SafeLookup.Proofs.Path.Decimal

/-!
# Building an Accessor from Steps

A step takes its argument as a key or as a position (`Step.TakesKey`, `Step.TakesPosition`), and
both kinds of arguments are told from the value alone: a key is a text that is not empty, and a
position is a whole number that is not negative and has a text, which is that of its digits unless
the number has one of its own. So a step has a name (`Step.Names`) or an error (`Step.RefusedWith`)
of its own, whatever accessor it is made from, and making it pushes the name or gives the error
(`perform_eq_ok_iff`, `perform_eq_error_iff`).

A run that skips the steps that are refused (`performEach`) keeps the root and collects the names of
the others (`performEach_eq`). Accessors never change, so the same holds for a run that branches off
at any accessor made on the way.
-/

namespace SafeLookup

/-- The errors over an argument that stands for no segment. -/
def AccessorError.IsInvalidSegment : AccessorError → Prop
  | keyNotText _ | emptyKey | indexNotInteger _ | negativeIndex => True
  | _ => False

/-- A number is too long if its decimal text has too many digits. -/
theorem Path.isTooLong_iff {n : ℕ} : isTooLong n = true ↔ maxDigits < (toString n).length := by
  have hlength : (Nat.toDigits 10 n).length ≤ maxDigits ↔ n < 10 ^ maxDigits :=
    Nat.length_toDigits_le_iff (by decide) (by decide)
  rw [isTooLong, decide_eq_true_iff, Nat.toString_eq_ofList_toDigits, String.length_ofList,
    ← Nat.not_le, hlength, Nat.not_lt, Nat.pow_eq]

namespace Accessor

/-! ### What a step stands for -/

namespace Step

/-- **A step takes a value as a key**: a step by a key, a step by an item that is a text, and an
attribute without a leading underscore. -/
inductive TakesKey : Step → Value → Prop
  | key (v : Value) : TakesKey (.key v) v
  | item {v : Value} {s : String} : v.text? = some s → TakesKey (.item v) v
  | named {name : String} : name.toList.head? ≠ some '_' → TakesKey (.named name) (.text name)

/-- **A step takes a value as a position**: a step by an index, and a step by an item that is no
text. -/
inductive TakesPosition : Step → Value → Prop
  | index (v : Value) : TakesPosition (.index v) v
  | item {v : Value} : v.text? = none → TakesPosition (.item v) v

/-- **The name of a step**: the text of a key, unless it is empty, and the decimal text of a whole
number that is not negative, unless it has too many digits. A number of a derived kind may have a
text of its own instead. Truth values are no whole numbers. -/
inductive Names : Step → String → Prop
  | key {step : Step} {v : Value} {name : String} :
      step.TakesKey v → v.text? = some name → name ≠ "" → Names step name
  | position {step : Step} {v : Value} {n : ℕ} :
      step.TakesPosition v → v.core = .int n → v.ownText? = none →
        (toString n).length ≤ Path.maxDigits → Names step (toString n)
  | ownText {step : Step} {v : Value} {n : ℕ} {text : String} :
      step.TakesPosition v → v.core = .int n → v.ownText? = some text → Names step text

/-- **The error of a step** that has no name. -/
inductive RefusedWith : Step → AccessorError → Prop
  | keyNotText {step : Step} {v : Value} :
      step.TakesKey v → v.text? = none → RefusedWith step (.keyNotText v.kindName)
  | emptyKey {step : Step} {v : Value} :
      step.TakesKey v → v.text? = some "" → RefusedWith step .emptyKey
  | indexNotInteger {step : Step} {v : Value} :
      step.TakesPosition v → (∀ n, v.core ≠ .int n) →
        RefusedWith step (.indexNotInteger v.kindName)
  | negativeIndex {step : Step} {v : Value} {n : ℤ} :
      step.TakesPosition v → v.core = .int n → n < 0 → RefusedWith step .negativeIndex
  | tooManyDigits {step : Step} {v : Value} {n : ℕ} :
      step.TakesPosition v → v.core = .int n → v.ownText? = none →
        Path.maxDigits < (toString n).length → RefusedWith step .tooManyDigits
  | hiddenName {name : String} :
      name.toList.head? = some '_' → RefusedWith (.named name) (.hiddenName name)

/-- The names of the steps that have one, in order; the others are skipped. -/
inductive NamesOf : List Step → List String → Prop
  | nil : NamesOf [] []
  | named {step : Step} {name : String} {steps : List Step} {names : List String} :
      step.Names name → NamesOf steps names → NamesOf (step :: steps) (name :: names)
  | skipped {step : Step} {error : AccessorError} {steps : List Step} {names : List String} :
      step.RefusedWith error → NamesOf steps names → NamesOf (step :: steps) names

/-- A step takes a key, takes a position, or is an attribute with a leading underscore. -/
theorem exists_takes (step : Step) :
    (∃ v, step.TakesKey v) ∨ (∃ v, step.TakesPosition v) ∨
      ∃ name, step = .named name ∧ name.toList.head? = some '_' := by
  cases step with
  | key v => exact Or.inl ⟨v, .key v⟩
  | index v => exact Or.inr (Or.inl ⟨v, .index v⟩)
  | item v =>
      cases htext : v.text? with
      | some s => exact Or.inl ⟨v, .item htext⟩
      | none => exact Or.inr (Or.inl ⟨v, .item htext⟩)
  | named name =>
      by_cases hhidden : name.toList.head? = some '_'
      · exact Or.inr (Or.inr ⟨name, rfl, hhidden⟩)
      · exact Or.inl ⟨.text name, .named hhidden⟩

variable {step : Step} {v w : Value}

/-- No step takes a position and a key. -/
theorem TakesPosition.not_takesKey (h : step.TakesPosition v) : ¬step.TakesKey w := by
  intro hkey
  cases h with
  | index => cases hkey
  | item hnone =>
      cases hkey with
      | item hsome =>
          rw [hnone] at hsome
          cases hsome

/-- A step takes one value as a position at most. -/
theorem TakesPosition.unique (h : step.TakesPosition v) (h' : step.TakesPosition w) : v = w := by
  cases h with
  | index => cases h'; rfl
  | item => cases h'; rfl

/-- No name is empty. -/
theorem Names.ne_empty {name : String} (h : step.Names name) : name ≠ "" := by
  cases h with
  | key _ _ hne => exact hne
  | position => exact Nat.repr_ne_empty
  | ownText _ _ hown => exact ne_empty_of_ownText? hown

/-- The name of a position is its spelling, and the position is read back from it, unless the number
has a text of its own. -/
theorem Names.isIndex {name : String} {n : ℤ} (h : step.Names name) (hv : step.TakesPosition v)
    (hn : v.core = .int n) (hown : v.ownText? = none) :
    Path.isIndex name = true ∧ (Path.position name : ℤ) = n := by
  cases h with
  | key hkey => exact absurd hkey hv.not_takesKey
  | @position w k hw hcore =>
      obtain rfl := hv.unique hw
      obtain rfl := Value.int.inj (hn.symm.trans hcore)
      exact ⟨Path.isIndex_iff.mpr ⟨k, rfl⟩, by rw [Path.position_toString]⟩
  | ownText hw _ hsome =>
      obtain rfl := hv.unique hw
      rw [hown] at hsome
      cases hsome

/-- A number with a text of its own is named by it. -/
theorem Names.eq_ownText {name text : String} (h : step.Names name) (hv : step.TakesPosition v)
    (hown : v.ownText? = some text) : name = text := by
  cases h with
  | key hkey => exact absurd hkey hv.not_takesKey
  | position hw _ hnone =>
      obtain rfl := hv.unique hw
      rw [hown] at hnone
      cases hnone
  | ownText hw _ hsome =>
      obtain rfl := hv.unique hw
      exact Option.some.inj (hsome.symm.trans hown)

/-- What is wrong with a step: it is an attribute with a leading underscore, it is a number with too
many digits, or its argument stands for no segment. -/
theorem RefusedWith.cases {e : AccessorError} (h : step.RefusedWith e) :
    (∃ name, step = .named name ∧ name.toList.head? = some '_' ∧ e = .hiddenName name) ∨
    (∃ (v : Value) (n : ℕ), step.TakesPosition v ∧ v.core = .int n ∧ v.ownText? = none ∧
      Path.maxDigits < (toString n).length ∧ e = .tooManyDigits) ∨
    e.IsInvalidSegment := by
  cases h with
  | hiddenName hhidden => exact Or.inl ⟨_, rfl, hhidden, rfl⟩
  | tooManyDigits hv hcore hown hlong =>
      exact Or.inr (Or.inl ⟨_, _, hv, hcore, hown, hlong, rfl⟩)
  | keyNotText => exact Or.inr (Or.inr trivial)
  | emptyKey => exact Or.inr (Or.inr trivial)
  | indexNotInteger => exact Or.inr (Or.inr trivial)
  | negativeIndex => exact Or.inr (Or.inr trivial)

end Step

/-! ### One step -/

variable {a b : Accessor} {step : Step} {v : Value}

/-- A step that takes a key is that key. -/
theorem perform_of_takesKey (h : step.TakesKey v) (a : Accessor) : a.perform step = a.key v := by
  cases h with
  | key => rfl
  | item htext => rw [perform, item, htext, Option.isSome_some, if_pos rfl]
  | named hvisible => rw [perform, named, if_neg hvisible]

/-- A step that takes a position is that position. -/
theorem perform_of_takesPosition (h : step.TakesPosition v) (a : Accessor) :
    a.perform step = a.index v := by
  cases h with
  | index => rfl
  | item htext => rw [perform, item, htext, Option.isSome_none, if_neg Bool.false_ne_true]

/-- A step with a name pushes it. -/
theorem perform_of_names {name : String} (h : step.Names name) (a : Accessor) :
    a.perform step = .ok (a.push name) := by
  cases h with
  | key hkey htext hne =>
      rw [perform_of_takesKey hkey, key, htext]
      simp [hne]
  | position hv hcore hown hdigits =>
      have hshort : ¬Path.isTooLong _ = true := mt Path.isTooLong_iff.mp (Nat.not_lt.mpr hdigits)
      rw [perform_of_takesPosition hv, index, hcore, hown]
      simp [hshort]
  | ownText hv hcore hown =>
      rw [perform_of_takesPosition hv, index, hcore, hown]
      simp

/-- A step with an error is refused with it. -/
theorem perform_of_refusedWith {e : AccessorError} (h : step.RefusedWith e) (a : Accessor) :
    a.perform step = .error e := by
  cases h with
  | keyNotText hkey htext => rw [perform_of_takesKey hkey, key, htext]
  | emptyKey hkey htext =>
      rw [perform_of_takesKey hkey, key, htext]
      rfl
  | indexNotInteger hv hcore =>
      rw [perform_of_takesPosition hv, index]
      split
      next n hn => exact absurd hn (hcore n)
      next => rfl
  | negativeIndex hv hcore hnegative =>
      rw [perform_of_takesPosition hv, index, hcore]
      exact if_pos hnegative
  | tooManyDigits hv hcore hown hlong =>
      rw [perform_of_takesPosition hv, index, hcore, hown]
      simp [Path.isTooLong_iff.mpr hlong]
  | hiddenName hhidden => rw [perform, named, if_pos hhidden]

/-- **Every step has a name or an error.** -/
theorem Step.names_or_refusedWith (step : Step) :
    (∃ name, step.Names name) ∨ ∃ e, step.RefusedWith e := by
  rcases step.exists_takes with ⟨v, hv⟩ | ⟨v, hv⟩ | ⟨name, rfl, hhidden⟩
  · cases htext : v.text? with
    | none => exact Or.inr ⟨_, .keyNotText hv htext⟩
    | some s =>
        by_cases hempty : s = ""
        · exact Or.inr ⟨_, .emptyKey hv (hempty ▸ htext)⟩
        · exact Or.inl ⟨s, .key hv htext hempty⟩
  · by_cases hint : ∃ n, v.core = .int n
    · obtain ⟨n, hcore⟩ := hint
      by_cases hnegative : n < 0
      · exact Or.inr ⟨_, .negativeIndex hv hcore hnegative⟩
      · obtain ⟨k, rfl⟩ := Int.eq_ofNat_of_zero_le (Int.not_lt.mp hnegative)
        cases hown : v.ownText? with
        | some text => exact Or.inl ⟨text, .ownText hv hcore hown⟩
        | none =>
            rcases Nat.lt_or_ge Path.maxDigits (toString k).length with hlong | hdigits
            · exact Or.inr ⟨_, .tooManyDigits hv hcore hown hlong⟩
            · exact Or.inl ⟨_, .position hv hcore hown hdigits⟩
    · exact Or.inr ⟨_, .indexNotInteger hv (not_exists.mp hint)⟩
  · exact Or.inr ⟨_, .hiddenName hhidden⟩

/-- **A step succeeds exactly if it has a name**, and then it pushes the name. -/
theorem perform_eq_ok_iff :
    a.perform step = .ok b ↔ ∃ name, step.Names name ∧ b = a.push name := by
  constructor
  · intro h
    rcases step.names_or_refusedWith with ⟨name, hname⟩ | ⟨e, he⟩
    · rw [perform_of_names hname] at h
      exact ⟨name, hname, (Except.ok.inj h).symm⟩
    · rw [perform_of_refusedWith he] at h
      cases h
  · rintro ⟨name, hname, rfl⟩
    exact perform_of_names hname a

/-- **A step is refused exactly with its error.** -/
theorem perform_eq_error_iff {e : AccessorError} :
    a.perform step = .error e ↔ step.RefusedWith e := by
  constructor
  · intro h
    rcases step.names_or_refusedWith with ⟨name, hname⟩ | ⟨e', he'⟩
    · rw [perform_of_names hname] at h
      cases h
    · rw [perform_of_refusedWith he'] at h
      obtain rfl := Except.error.inj h
      exact he'
  · intro he
    exact perform_of_refusedWith he a

/-! ### Attributes -/

/-- The names of the accessor's own parts and operations. -/
def ownNames : List String := ["root", "segments", "path", "get", "key", "index"]

/-- **An attribute makes a new accessor exactly if it is no part of the accessor itself and the step
succeeds.** -/
theorem attr_eq_extended_iff {name : String} :
    a.attr name = .ok (.extended b) ↔ name ∉ ownNames ∧ a.perform (.named name) = .ok b := by
  constructor
  · intro h
    refine ⟨fun hown => ?_, perform_named_of_attr h⟩
    simp only [ownNames, List.mem_cons, List.not_mem_nil, or_false] at hown
    rcases hown with rfl | rfl | rfl | rfl | rfl | rfl <;> cases h
  · rintro ⟨hown, hstep⟩
    rw [perform] at hstep
    unfold attr
    split
    iterate 6 exact absurd (by decide) hown
    rw [hstep]
    rfl

/-! ### Runs of steps -/

/-- Makes steps one after another and skips those that are refused. -/
def performEach (a : Accessor) : List Step → Accessor
  | [] => a
  | step :: rest =>
    match a.perform step with
    | .ok b => performEach b rest
    | .error _ => performEach a rest

/-- Every run of steps has its names. -/
theorem exists_namesOf (steps : List Step) : ∃ names, Step.NamesOf steps names := by
  induction steps with
  | nil => exact ⟨[], .nil⟩
  | cons step rest ih =>
      obtain ⟨names, hnames⟩ := ih
      rcases step.names_or_refusedWith with ⟨name, hname⟩ | ⟨e, he⟩
      · exact ⟨name :: names, .named hname hnames⟩
      · exact ⟨names, .skipped he hnames⟩

/-- **What a run of steps does**: it pushes the names of the steps that have one, in order. -/
theorem performEach_eq {steps : List Step} {names : List String} (h : Step.NamesOf steps names)
    (a : Accessor) : a.performEach steps = ⟨a.root, a.segments ++ names⟩ := by
  induction h generalizing a with
  | nil => rw [performEach, List.append_nil]
  | named hname _ ih =>
      rw [performEach, perform_of_names hname]
      dsimp only
      rw [ih, push, List.append_assoc, List.singleton_append]
  | skipped he _ ih =>
      rw [performEach, perform_of_refusedWith he]
      exact ih a

/-- No name of a run is empty. -/
theorem Step.NamesOf.ne_empty {steps : List Step} {names : List String}
    (h : Step.NamesOf steps names) : ∀ name ∈ names, name ≠ "" := by
  induction h with
  | nil => simp
  | named hname _ ih => exact List.forall_mem_cons.mpr ⟨hname.ne_empty, ih⟩
  | skipped _ _ ih => exact ih

/-- Of these steps only the first and the last two have a name. The number before the last one has a
text of its own. -/
example :
    performEach ⟨.null, []⟩ [.key (.text "a"), .key (.text ""), .index (.bool true), .named "_b",
      .item .null, .index (.derived (.int 2) [] (some ⟨"re.IGNORECASE", by decide⟩)),
      .item (.text "c.d")] = ⟨.null, ["a", "re.IGNORECASE", "c.d"]⟩ := rfl

end Accessor

end SafeLookup
