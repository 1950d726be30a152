import Mathlib.Data.List.Basic
import SafeLookup.Path.Basic

/-!
# The Reader, Step by Step

`Path.scan` is a machine with two modes and a buffer. This module turns its clauses into one
equation per step and packages them as an induction principle, `Reader.induction`, so that
later proofs name the step they are at instead of unfolding the machine.

The clause for a dot behind a closing bracket is redundant: such a dot meets an empty buffer
and closes nothing (`scan_closing`). What remains are seven steps, and only one of them, the
plain character of a key, looks ahead (`IsPlain`).

## Main results

* `scan_of_separates`: in front of nothing, of a dot and of an opening bracket the buffer is
  closed, and the rest is read as if it stood alone.
* `prefix_of_scan_eq_cons`: what stands in the buffer is never given up — the first segment
  starts with it.
* `ne_nil_of_mem_scan`, `brackets_of_mem_scan`: no segment is empty, and none contains both
  kinds of brackets.
-/

namespace SafeLookup.Path

/-- A character of a key that stands for itself in front of `rest`: no separator, no opening
bracket, and no backslash that takes a dot literally. -/
def IsPlain (c : Char) (rest : List Char) : Prop :=
  c ≠ '.' ∧ c ≠ '[' ∧ (c = '\\' → rest.head? ≠ some '.')

/-- A text in front of which a key ends. -/
def Separates (x : List Char) : Prop :=
  x = [] ∨ x.head? = some '.' ∨ x.head? = some '['

/-! ### Closing a segment -/

@[simp] theorem close_nil (rest : List (List Char)) : close [] rest = rest := rfl

/-- A buffer that holds something becomes a segment. -/
theorem close_of_ne_nil {read : List Char} (h : read ≠ []) (rest : List (List Char)) :
    close read rest = read.reverse :: rest := by
  simp [close, h]

/-- Whatever comes later does not change how a segment is closed. -/
theorem close_append (read : List Char) (xs ys : List (List Char)) :
    close read (xs ++ ys) = close read xs ++ ys := by
  by_cases h : read = []
  · subst h
    rfl
  · rw [close_of_ne_nil h, close_of_ne_nil h, List.cons_append]

/-- The segments of a closed buffer: its own, if it holds something, and the later ones. -/
theorem mem_close {read t : List Char} {rest : List (List Char)} :
    t ∈ close read rest ↔ (read ≠ [] ∧ t = read.reverse) ∨ t ∈ rest := by
  by_cases h : read = []
  · simp [h]
  · simp [close_of_ne_nil h, h]

/-! ### One equation for each step -/

/-- The end of the text closes the open segment. -/
theorem scan_nil (m : Mode) (read : List Char) : scan m read [] = close read [] := by
  simp [scan]

/-- A backslash takes the dot behind it literally. -/
theorem scan_escaped (read x : List Char) :
    scan .key read ('\\' :: '.' :: x) = scan .key ('.' :: read) x := by
  simp [scan]

/-- A dot closes the open segment. -/
theorem scan_dot (read x : List Char) :
    scan .key read ('.' :: x) = close read (scan .key [] x) := by
  simp [scan]

/-- An opening bracket closes the open segment. -/
theorem scan_opening (read x : List Char) :
    scan .key read ('[' :: x) = close read (scan .bracket [] x) := by
  simp [scan]

/-- A closing bracket closes the segment between brackets. A dot behind it needs no rule of its
own: it meets an empty buffer. -/
theorem scan_closing (read x : List Char) :
    scan .bracket read (']' :: x) = close read (scan .key [] x) := by
  match x with
  | [] => simp [scan]
  | c :: y =>
      by_cases h : c = '.'
      · subst h
        simp [scan]
      · simp [scan, h]

/-- A plain character of a key is read into the buffer. -/
theorem scan_plain {c : Char} {x : List Char} (h : IsPlain c x) (read : List Char) :
    scan .key read (c :: x) = scan .key (c :: read) x := by
  obtain ⟨hdot, hopen, hesc⟩ := h
  rw [scan]
  · rintro y - rfl rfl
    exact hesc rfl rfl
  · exact fun _ => hdot
  · exact fun _ => hopen
  · rintro y ⟨⟩
  · rintro ⟨⟩

/-- Between brackets every character but the closing bracket is read into the buffer. -/
theorem scan_inner {c : Char} (h : c ≠ ']') (read x : List Char) :
    scan .bracket read (c :: x) = scan .bracket (c :: read) x := by
  rw [scan]
  · rintro y ⟨⟩
  · rintro ⟨⟩
  · rintro ⟨⟩
  · exact fun y _ hc => absurd hc h
  · exact fun _ => h

/-- **Induction along the reader**: one case for each of its steps. -/
@[elab_as_elim]
theorem Reader.induction {motive : Mode → List Char → List Char → Prop}
    (stop : ∀ m read, motive m read [])
    (escaped : ∀ read x, motive .key ('.' :: read) x → motive .key read ('\\' :: '.' :: x))
    (dot : ∀ read x, motive .key [] x → motive .key read ('.' :: x))
    (opening : ∀ read x, motive .bracket [] x → motive .key read ('[' :: x))
    (closing : ∀ read x, motive .key [] x → motive .bracket read (']' :: x))
    (plain : ∀ read c x, IsPlain c x → motive .key (c :: read) x → motive .key read (c :: x))
    (inner : ∀ read c x, c ≠ ']' → motive .bracket (c :: read) x →
      motive .bracket read (c :: x))
    (m : Mode) (read x : List Char) : motive m read x := by
  induction m, read, x using scan.induct with
  | case1 m read => exact stop m read
  | case2 read x ih => exact escaped read x ih
  | case3 read x ih => exact dot read x ih
  | case4 read x ih => exact opening read x ih
  | case5 read x ih => exact closing read _ (dot [] x ih)
  | case6 read x _ ih => exact closing read x ih
  | case7 m read c x hesc hdot hopen _ hclose ih =>
      cases m with
      | key =>
          refine plain read c x ⟨hdot rfl, hopen rfl, fun hc hx => ?_⟩ ih
          obtain ⟨y, rfl⟩ := List.head?_eq_some_iff.mp hx
          exact hesc y rfl hc rfl
      | bracket => exact inner read c x (hclose rfl) ih

/-! ### Boundaries -/

/-- Without its first character a text still does not end in what it did not end in. -/
theorem getLast?_ne_of_cons {c d : Char} {p : List Char} (h : (c :: p).getLast? ≠ some d) :
    p.getLast? ≠ some d := by
  intro hp
  exact h (by rw [List.getLast?_cons, hp, Option.getD_some])

/-- **A separator forgets the buffer**: in front of it the open segment is closed, and the rest
is read as if it stood alone. -/
theorem scan_of_separates {x : List Char} (h : Separates x) (read : List Char) :
    scan .key read x = close read (scan .key [] x) := by
  rcases h with rfl | h | h
  · rw [scan_nil, scan_nil, close_nil]
  · obtain ⟨y, rfl⟩ := List.head?_eq_some_iff.mp h
    rw [scan_dot, scan_dot, close_nil]
  · obtain ⟨y, rfl⟩ := List.head?_eq_some_iff.mp h
    rw [scan_opening, scan_opening, close_nil]

/-- A run without a closing bracket is read into the buffer of a bracket. -/
theorem scan_bracket_append {t : List Char} (h : ']' ∉ t) (read x : List Char) :
    scan .bracket read (t ++ x) = scan .bracket (t.reverse ++ read) x := by
  induction t generalizing read with
  | nil => rfl
  | cons c t ih =>
      rw [List.mem_cons, not_or] at h
      rw [List.cons_append, scan_inner (Ne.symm h.1), ih h.2, List.reverse_cons,
        List.append_assoc, List.singleton_append]

/-- A bracket that is closed is one segment, verbatim. -/
theorem scan_bracket_closed {t : List Char} (h : ']' ∉ t) (read x : List Char) :
    scan .key read ('[' :: t ++ ']' :: x) =
      close read (close t.reverse (scan .key [] x)) := by
  rw [List.cons_append, scan_opening, scan_bracket_append h, List.append_nil, scan_closing]

/-! ### What segments look like -/

/-- **The buffer is kept**: the first segment starts with what was read before. -/
theorem prefix_of_scan_eq_cons {m : Mode} {read x t : List Char} {ts : List (List Char)}
    (hread : read ≠ []) (h : scan m read x = t :: ts) : read.reverse <+: t := by
  have hclose : ∀ {r : List Char} {rest : List (List Char)}, r ≠ [] →
      close r rest = t :: ts → r.reverse <+: t := by
    intro r rest hr heq
    rw [close_of_ne_nil hr, List.cons.injEq] at heq
    exact heq.1 ▸ List.prefix_rfl
  induction m, read, x using Reader.induction with
  | stop m read => exact hclose hread (scan_nil m read ▸ h)
  | escaped read x ih =>
      have := ih (List.cons_ne_nil _ _) (scan_escaped read x ▸ h)
      exact (List.prefix_append _ _).trans (List.reverse_cons ▸ this)
  | dot read x _ => exact hclose hread (scan_dot read x ▸ h)
  | opening read x _ => exact hclose hread (scan_opening read x ▸ h)
  | closing read x _ => exact hclose hread (scan_closing read x ▸ h)
  | plain read c x hc ih =>
      have := ih (List.cons_ne_nil _ _) (scan_plain hc read ▸ h)
      exact (List.prefix_append _ _).trans (List.reverse_cons ▸ this)
  | inner read c x hc ih =>
      have := ih (List.cons_ne_nil _ _) (scan_inner hc read x ▸ h)
      exact (List.prefix_append _ _).trans (List.reverse_cons ▸ this)

/-- **An invariant of the buffer is a property of the segments**: what holds of the empty buffer
and is kept by every character that is read into it holds of each segment. -/
theorem forall_mem_scan {I : Mode → List Char → Prop} {P : List Char → Prop}
    (empty : ∀ m, I m [])
    (escaped : ∀ read, I .key read → I .key ('.' :: read))
    (plain : ∀ read c x, IsPlain c x → I .key read → I .key (c :: read))
    (inner : ∀ read c, c ≠ ']' → I .bracket read → I .bracket (c :: read))
    (closed : ∀ m read, read ≠ [] → I m read → P read.reverse)
    {m : Mode} {read x : List Char} (hread : I m read) : ∀ t ∈ scan m read x, P t := by
  have hclose : ∀ {m : Mode} {r : List Char} {rest : List (List Char)}, I m r →
      (∀ t ∈ rest, P t) → ∀ t ∈ close r rest, P t := by
    intro m r rest hr hrest t ht
    rcases mem_close.mp ht with ⟨hne, rfl⟩ | ht
    · exact closed m r hne hr
    · exact hrest t ht
  induction m, read, x using Reader.induction with
  | stop m read =>
      rw [scan_nil]
      exact hclose hread (by simp)
  | escaped read x ih =>
      rw [scan_escaped]
      exact ih (escaped read hread)
  | dot read x ih =>
      rw [scan_dot]
      exact hclose hread (ih (empty _))
  | opening read x ih =>
      rw [scan_opening]
      exact hclose hread (ih (empty _))
  | closing read x ih =>
      rw [scan_closing]
      exact hclose hread (ih (empty _))
  | plain read c x hc ih =>
      rw [scan_plain hc]
      exact ih (plain read c x hc hread)
  | inner read c x hc ih =>
      rw [scan_inner hc]
      exact ih (inner read c hc hread)

/-- No segment is empty. -/
theorem ne_nil_of_mem_scan {m : Mode} {read x t : List Char} (h : t ∈ scan m read x) :
    t ≠ [] :=
  forall_mem_scan (I := fun _ _ => True) (P := (· ≠ [])) (fun _ => trivial)
    (fun _ _ => trivial) (fun _ _ _ _ _ => trivial) (fun _ _ _ _ => trivial)
    (fun _ _ hne _ => mt List.reverse_eq_nil_iff.mp hne) trivial t h

/-- The bracket that the buffer of a mode cannot hold: it would have ended the segment. -/
def Mode.ender : Mode → Char
  | .key => '['
  | .bracket => ']'

/-- **No segment contains both kinds of brackets**: an opening bracket gets into a segment only
between brackets, where a closing one ends it. -/
theorem brackets_of_mem_scan {m : Mode} {read x t : List Char} (hread : m.ender ∉ read)
    (h : t ∈ scan m read x) : '[' ∉ t ∨ ']' ∉ t := by
  have hcons : ∀ {d c : Char} {r : List Char}, d ≠ c → d ∉ r → d ∉ c :: r :=
    fun hne hr => List.not_mem_cons_of_ne_of_not_mem hne hr
  refine forall_mem_scan (I := fun m read => m.ender ∉ read)
    (P := fun t => '[' ∉ t ∨ ']' ∉ t) ?_ ?_ ?_ ?_ ?_ hread t h
  · exact fun _ => List.not_mem_nil
  · exact fun _ hr => hcons (by decide) hr
  · exact fun _ _ _ hc hr => hcons (Ne.symm hc.2.1) hr
  · exact fun _ _ hc hr => hcons (Ne.symm hc) hr
  · intro m read _ hr
    rw [List.mem_reverse, List.mem_reverse]
    cases m with
    | key => exact Or.inl hr
    | bracket => exact Or.inr hr

end SafeLookup.Path
