import SafeLookup.Proofs.Path.Scan

/-!
# Reading a Path in Pieces

A path can be cut at a separator and read in pieces: the segments in front of the separator are
those of the text in front of it, read alone, and the rest is read as if it began there. Two
things could cross the cut: a bracket that is still open, so the text in front has to close its
brackets (`BracketsClose`), and a last backslash, which would take a dot.

`scan_append` states this for the machine, from any mode and with any buffer; the laws for paths
are `segments_append_separator`.
-/

namespace SafeLookup.Path

/-- Every opening bracket of a text has a closing bracket somewhere behind it. -/
def BracketsClose (p : List Char) : Prop := ∀ rest, '[' :: rest <:+ p → ']' ∈ rest

@[simp] theorem bracketsClose_nil : BracketsClose [] := by
  intro rest h
  simp at h

/-- What the first character asks of a text that closes its brackets. -/
@[simp] theorem bracketsClose_cons_iff {c : Char} {p : List Char} :
    BracketsClose (c :: p) ↔ (c = '[' → ']' ∈ p) ∧ BracketsClose p := by
  constructor
  · intro h
    refine ⟨?_, fun rest hrest => h rest (hrest.trans (List.suffix_cons c p))⟩
    rintro rfl
    exact h p List.suffix_rfl
  · rintro ⟨hc, hp⟩ rest hrest
    rcases List.suffix_cons_iff.mp hrest with heq | hrest
    · obtain ⟨rfl, rfl⟩ := List.cons.inj heq
      exact hc rfl
    · exact hp rest hrest

/-- A text that closes its brackets does so behind its first character. -/
theorem BracketsClose.of_cons {c : Char} {p : List Char} (h : BracketsClose (c :: p)) :
    BracketsClose p :=
  (bracketsClose_cons_iff.mp h).2

/-- **Nothing leaks across a separator.** From any mode and with any buffer, the text in front of
a separator is read alone, if it closes its brackets and its last backslash takes no dot. -/
theorem scan_append {m : Mode} {read p x : List Char} (hp : BracketsClose p)
    (hm : m = .bracket → ']' ∈ p) (hx : Separates x)
    (hesc : x.head? = some '.' → p.getLast? ≠ some '\\') :
    scan m read (p ++ x) = scan m read p ++ scan .key [] x := by
  induction m, read, p using Reader.induction with
  | stop m read =>
      cases m with
      | key => rw [List.nil_append, scan_of_separates hx, scan_nil, ← close_append, List.nil_append]
      | bracket => exact absurd (hm rfl) List.not_mem_nil
  | escaped read p ih =>
      rw [List.cons_append, List.cons_append, scan_escaped, scan_escaped]
      exact ih hp.of_cons.of_cons (by rintro ⟨⟩)
        fun h => getLast?_ne_of_cons (getLast?_ne_of_cons (hesc h))
  | dot read p ih =>
      rw [List.cons_append, scan_dot, scan_dot, ← close_append]
      rw [ih hp.of_cons (by rintro ⟨⟩)
        fun h => getLast?_ne_of_cons (hesc h)]
  | opening read p ih =>
      obtain ⟨hopen, hp⟩ := bracketsClose_cons_iff.mp hp
      rw [List.cons_append, scan_opening, scan_opening, ← close_append]
      rw [ih hp (fun _ => hopen rfl) fun h => getLast?_ne_of_cons (hesc h)]
  | closing read p ih =>
      rw [List.cons_append, scan_closing, scan_closing, ← close_append]
      rw [ih hp.of_cons (by rintro ⟨⟩)
        fun h => getLast?_ne_of_cons (hesc h)]
  | plain read c p hc ih =>
      -- The look-ahead may reach into `x`, where only a dot behind a last backslash matters.
      have hc' : IsPlain c (p ++ x) := by
        refine ⟨hc.1, hc.2.1, ?_⟩
        rintro rfl hdot
        cases p with
        | nil => exact hesc hdot rfl
        | cons d p => exact hc.2.2 rfl hdot
      rw [List.cons_append, scan_plain hc', scan_plain hc]
      exact ih hp.of_cons (by rintro ⟨⟩)
        fun h => getLast?_ne_of_cons (hesc h)
  | inner read c p hc ih =>
      rw [List.cons_append, scan_inner hc, scan_inner hc]
      have hclose : ']' ∈ p := by
        rcases List.mem_cons.mp (hm rfl) with heq | hin
        · exact absurd heq.symm hc
        · exact hin
      exact ih hp.of_cons (fun _ => hclose)
        fun h => getLast?_ne_of_cons (hesc h)

/-- Behind a text that closes its brackets a dot separates, unless a backslash takes it. -/
theorem scan_append_dot {p : List Char} (hp : BracketsClose p) (hesc : p.getLast? ≠ some '\\')
    (q : List Char) : scan .key [] (p ++ '.' :: q) = scan .key [] p ++ scan .key [] q := by
  rw [scan_append hp (by rintro ⟨⟩) (Or.inr (Or.inl rfl)) fun _ => hesc, scan_dot, close_nil]

/-- Behind a text that closes its brackets a bracket is a segment of its own, verbatim. -/
theorem scan_append_bracket {p t : List Char} (hp : BracketsClose p) (ht : ']' ∉ t)
    (q : List Char) :
    scan .key [] (p ++ ('[' :: t ++ ']' :: q)) =
      scan .key [] p ++ close t.reverse (scan .key [] q) := by
  rw [scan_append hp (by rintro ⟨⟩) (Or.inr (Or.inr rfl)) (by simp),
    scan_bracket_closed ht, close_nil]

/-- **Paths are read in pieces.** If every opening bracket of `p` has a closing bracket behind it,
a dot behind `p` separates unless `p` ends in a backslash, and a bracket behind `p` is a segment
of its own whatever `p` ends in; it names nothing if it is empty. -/
theorem segments_append_separator (p : String) (hp : BracketsClose p.toList) :
    (∀ q, p.toList.getLast? ≠ some '\\' →
      segments (p ++ "." ++ q) = segments p ++ segments q) ∧
    ∀ t q, ']' ∉ t.toList →
      segments (p ++ "[" ++ t ++ "]" ++ q) =
        segments p ++ (if t = "" then [] else [t]) ++ segments q := by
  constructor
  · intro q hesc
    have hchars : (p ++ "." ++ q).toList = p.toList ++ '.' :: q.toList := by simp
    rw [segments, hchars, scan_append_dot hp hesc, List.map_append, segments, segments]
  · intro t q ht
    have hchars : (p ++ "[" ++ t ++ "]" ++ q).toList =
        p.toList ++ ('[' :: t.toList ++ ']' :: q.toList) := by
      simp
    rw [segments, hchars, scan_append_bracket hp ht, List.map_append, segments, segments]
    by_cases hnil : t = ""
    · subst hnil
      simp
    · rw [close_of_ne_nil (by simpa using hnil)]
      simp [hnil]

/-- The laws behind a bracket and behind a backslash. -/
theorem segments_append_behind_backslash :
    segments ("a[b.]c" ++ "." ++ "d") = segments "a[b.]c" ++ segments "d" ∧
    segments ("a[b]\\" ++ "[" ++ "c[d" ++ "]" ++ ".e") =
      segments "a[b]\\" ++ ["c[d"] ++ segments ".e" :=
  ⟨(segments_append_separator "a[b.]c" (by simp)).1 "d" (by simp),
    (segments_append_separator "a[b]\\" (by simp)).2 "c[d" ".e" (by simp)⟩

end SafeLookup.Path
