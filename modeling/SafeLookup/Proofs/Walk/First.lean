import SafeLookup.Proofs.Walk.Step

/-!
# The First Path That Hits

`Value.firstPresent` looks up one path after another until a lookup ends it. A lookup lets the
next path have its turn if it finds nothing (`Ending.passes`): if it misses, or if what it hits is
the mark of an absent member. The others are never made.

So a list of paths can be cut in two: the second part is looked up if the first one misses
(`firstPresent_append_of_miss`), and decides nothing otherwise (`firstPresent_append_of_ne`). What
escapes is what escapes from the lookup of a path behind others that find nothing
(`firstPresent_escaped_iff`).
-/

namespace SafeLookup

/-- The endings of a lookup that finds nothing. -/
def Ending.passes : Ending → Bool
  | hit .notFound | miss => true
  | _ => false

/-- A miss finds nothing. -/
@[simp] theorem Ending.passes_miss : Ending.passes miss = true := rfl

/-- What escapes is no miss to go on from. -/
@[simp] theorem Ending.passes_escaped (e : Escape) : Ending.passes (escaped e) = false := rfl

/-- A hit finds nothing if it is the mark of an absent member, and only then. -/
theorem Ending.passes_hit_iff {v : Value} : Ending.passes (hit v) = true ↔ v = .notFound := by
  cases v <;> simp [passes]

/-- What stands in front of what stands in front. -/
theorem Lookup.after_after_append (l : Lookup) (records records' : List Miss)
    (asked asked' : List (ℕ × Access)) :
    (l.after records' asked').after records asked =
      l.after (records ++ records') (asked ++ asked') := by
  simp [Lookup.after]

namespace Value

variable {attributes : Admission} {root : Value}

/-- The first path has its turn first. -/
theorem firstPresent_cons (path : Value) (rest : List Value) :
    root.firstPresent attributes (path :: rest) =
      if (root.lookup attributes path).ending.passes then
        (root.firstPresent attributes rest).after (root.lookup attributes path).records
          (root.lookup attributes path).ledger
      else root.lookup attributes path := by
  rw [firstPresent]
  rcases (root.lookup attributes path).ending with v | _ | e
  · cases v <;> rfl
  · rfl
  · rfl

/-- Where the first paths find nothing, the others are looked up. -/
theorem firstPresent_append_of_miss {ps : List Value}
    (h : (root.firstPresent attributes ps).ending = .miss) (qs : List Value) :
    root.firstPresent attributes (ps ++ qs) =
      (root.firstPresent attributes qs).after (root.firstPresent attributes ps).records
        (root.firstPresent attributes ps).ledger := by
  induction ps with
  | nil => rfl
  | cons path rest ih =>
      rw [firstPresent_cons] at h ⊢
      rw [List.cons_append, firstPresent_cons]
      split at h
      next hpasses =>
        rw [if_pos hpasses, if_pos hpasses, ih h, Lookup.after_after_append]
        rfl
      next hpasses =>
        rw [h] at hpasses
        exact absurd rfl hpasses

/-- Where the first paths find something, or an escape leaves them, the others are not looked
up. -/
theorem firstPresent_append_of_ne {ps : List Value}
    (h : (root.firstPresent attributes ps).ending ≠ .miss) (qs : List Value) :
    root.firstPresent attributes (ps ++ qs) = root.firstPresent attributes ps := by
  induction ps with
  | nil => exact absurd rfl h
  | cons path rest ih =>
      rw [firstPresent_cons] at h
      rw [List.cons_append, firstPresent_cons, firstPresent_cons]
      split
      next hpasses =>
        rw [if_pos hpasses] at h
        rw [ih h]
      next => rfl

/-- **What escapes from a list of paths** escapes from the lookup of one of them, behind others that
find nothing. -/
theorem firstPresent_escaped_iff {ps : List Value} {e : Escape} :
    (root.firstPresent attributes ps).ending = .escaped e ↔
      ∃ before path after, ps = before ++ path :: after ∧
        (root.firstPresent attributes before).ending = .miss ∧
        (root.lookup attributes path).ending = .escaped e := by
  constructor
  · intro h
    induction ps with
    | nil => cases h
    | cons path rest ih =>
        rw [firstPresent_cons] at h
        split at h
        next hpasses =>
          obtain ⟨before, path', after, rfl, hbefore, hescaped⟩ := ih h
          refine ⟨path :: before, path', after, rfl, ?_, hescaped⟩
          rw [firstPresent_cons, if_pos hpasses]
          exact hbefore
        next => exact ⟨[], path, rest, rfl, rfl, h⟩
  · rintro ⟨before, path, after, rfl, hbefore, hescaped⟩
    have hstops : ¬(root.lookup attributes path).ending.passes = true := by simp [hescaped]
    rw [firstPresent_append_of_miss hbefore, firstPresent_cons, if_neg hstops]
    exact hescaped

end Value

end SafeLookup
