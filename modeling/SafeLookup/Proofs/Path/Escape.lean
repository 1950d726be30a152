import SafeLookup.Proofs.Path.Scan

/-!
# Escaped Keys in Front of the Reader

A key is spelled by putting a backslash in front of each of its dots (`Path.escapeChars`); its
own backslashes and brackets stand for themselves. This module says when the reader takes the
spelling back into its buffer.

A key without opening brackets is read back whole (`scan_escapeChars`), however many
backslashes it has, unless it ends in a backslash and a dot follows: the last backslash would
take that dot. A key with an opening bracket is never the first segment that is read
(`head?_scan_escapeChars_ne`), whatever follows it in a canonical path (`Continues`).
-/

namespace SafeLookup.Path

/-! ### The spelling of a key -/

@[simp] theorem escapeChars_nil : escapeChars [] = [] := rfl

/-- A dot is spelled with a backslash. -/
@[simp] theorem escapeChars_dot (k : List Char) :
    escapeChars ('.' :: k) = '\\' :: '.' :: escapeChars k := by
  simp [escapeChars]

/-- Every other character stands for itself. -/
theorem escapeChars_cons {c : Char} (h : c ≠ '.') (k : List Char) :
    escapeChars (c :: k) = c :: escapeChars k := by
  simp [escapeChars, h]

/-- Keys are spelled character by character. -/
theorem escapeChars_append (k l : List Char) :
    escapeChars (k ++ l) = escapeChars k ++ escapeChars l :=
  List.flatMap_append

/-- Only the empty key has an empty spelling. -/
theorem escapeChars_eq_nil_iff {k : List Char} : escapeChars k = [] ↔ k = [] := by
  cases k with
  | nil => simp
  | cons c k =>
      by_cases h : c = '.'
      · simp [h]
      · simp [escapeChars_cons h]

/-- The spelling of a key never starts with a dot. -/
theorem head?_escapeChars_ne_dot (k : List Char) : (escapeChars k).head? ≠ some '.' := by
  cases k with
  | nil => simp
  | cons c k =>
      by_cases h : c = '.'
      · subst h
        simp
      · simp [escapeChars_cons h, h]

/-- Spelling a key puts no bracket into it and takes none away. -/
theorem mem_escapeChars_closing {k : List Char} : ']' ∈ escapeChars k ↔ ']' ∈ k := by
  induction k with
  | nil => simp
  | cons c k ih =>
      by_cases h : c = '.'
      · subst h
        simp [ih]
      · simp [escapeChars_cons h, ih]

/-! ### Reading the spelling back -/

/-- **A key is read back from its spelling**, into the buffer, unless it has an opening bracket
or its last backslash stands in front of a dot. -/
theorem scan_escapeChars {k x : List Char} (hopen : '[' ∉ k)
    (hesc : x.head? = some '.' → k.getLast? ≠ some '\\') (read : List Char) :
    scan .key read (escapeChars k ++ x) = scan .key (k.reverse ++ read) x := by
  induction k generalizing read with
  | nil => rfl
  | cons c k ih =>
      rw [List.mem_cons, not_or] at hopen
      have hesc' : x.head? = some '.' → k.getLast? ≠ some '\\' :=
        fun hx => getLast?_ne_of_cons (hesc hx)
      have hread : (c :: k).reverse ++ read = k.reverse ++ c :: read := by simp
      rw [hread]
      by_cases hc : c = '.'
      · subst hc
        rw [escapeChars_dot, List.cons_append, List.cons_append, scan_escaped,
          ih hopen.2 hesc']
      · have hplain : IsPlain c (escapeChars k ++ x) := by
          refine ⟨hc, Ne.symm hopen.1, ?_⟩
          rintro rfl hx
          cases k with
          | nil => exact hesc hx rfl
          | cons d k =>
              have hne : escapeChars (d :: k) ≠ [] := by simp [escapeChars_eq_nil_iff]
              rw [List.head?_append_of_ne_nil _ hne] at hx
              exact head?_escapeChars_ne_dot _ hx
        rw [escapeChars_cons hc, List.cons_append, scan_plain hplain, ih hopen.2 hesc']

/-! ### A key with an opening bracket -/

/-- Texts that follow the spelling of a key in a canonical path: nothing, a dot and more, or a
bracket that holds something. -/
inductive Continues : List Char → Prop
  | nil : Continues []
  | dot (x : List Char) : Continues ('.' :: x)
  | bracket {c : Char} (x : List Char) : c ≠ ']' → Continues ('[' :: c :: x)

/-- A spelling that grows into the key with one more opening bracket in front grows by exactly
that bracket. -/
theorem eq_opening_of_escapeChars_append {v w : List Char}
    (h : escapeChars v ++ w = '[' :: v) : w = ['['] := by
  induction v with
  | nil => simpa using h
  | cons c v ih =>
      by_cases hc : c = '.'
      · subst hc
        simp at h
      · rw [escapeChars_cons hc, List.cons_append, List.cons.injEq] at h
        obtain ⟨rfl, h⟩ := h
        exact ih h

/-- If the first segment is the key `'[' :: v` although the spelling of `v` and some more were read
into its buffer, then no more was read than a bracket. -/
theorem exists_eq_opening_of_scan_eq {m : Mode} {v r y : List Char} {ts : List (List Char)}
    (hr : r ≠ []) (h : scan m (r ++ (escapeChars v).reverse) y = ('[' :: v) :: ts) :
    ∃ w, r.reverse ++ w = ['['] := by
  have hread : r ++ (escapeChars v).reverse ≠ [] := List.append_ne_nil_of_left_ne_nil hr _
  obtain ⟨w, hw⟩ := prefix_of_scan_eq_cons hread h
  rw [List.reverse_append, List.reverse_reverse, List.append_assoc] at hw
  exact ⟨w, eq_opening_of_escapeChars_append hw⟩

/-- Behind an opening bracket the reader never comes to the key that the bracket begins. -/
theorem scan_bracket_ne_cons {v x : List Char} (hx : Continues x) (ts : List (List Char)) :
    scan .bracket [] (escapeChars v ++ x) ≠ ('[' :: v) :: ts := by
  intro h
  -- A closing bracket in `v` is out of the question: the segment has an opening one already.
  have hv : ']' ∉ v := by
    have hmem : '[' :: v ∈ scan .bracket [] (escapeChars v ++ x) := h ▸ List.mem_cons_self
    rcases brackets_of_mem_scan (m := .bracket) List.not_mem_nil hmem with hno | hno
    · exact absurd List.mem_cons_self hno
    · exact fun hin => hno (List.mem_cons_of_mem _ hin)
  -- So the spelling of `v` is read into the buffer, and what follows it decides.
  rw [scan_bracket_append (mt mem_escapeChars_closing.mp hv), List.append_nil] at h
  cases hx with
  | nil =>
      rw [scan_nil] at h
      have hmem := mem_close.mp (h ▸ List.mem_cons_self (a := '[' :: v) (l := ts))
      simp only [List.reverse_reverse, List.not_mem_nil, or_false] at hmem
      have := eq_opening_of_escapeChars_append (v := v) (w := []) (by simp [← hmem.2])
      exact List.cons_ne_nil _ _ this.symm
  | dot x =>
      rw [scan_inner (by decide)] at h
      obtain ⟨w, hw⟩ := exists_eq_opening_of_scan_eq (r := ['.']) (List.cons_ne_nil _ _) h
      simp at hw
  | bracket x hc =>
      rw [scan_inner (by decide), scan_inner hc] at h
      obtain ⟨w, hw⟩ := exists_eq_opening_of_scan_eq (r := [_, '[']) (List.cons_ne_nil _ _) h
      simp at hw

/-- **A key with an opening bracket is lost**: it is not the first segment of a text that begins
with its spelling, whatever follows in a canonical path. -/
theorem head?_scan_escapeChars_ne {k x : List Char} (hopen : '[' ∈ k) (hx : Continues x) :
    (scan .key [] (escapeChars k ++ x)).head? ≠ some k := by
  obtain ⟨u, v, rfl, hu⟩ := List.eq_append_cons_of_mem hopen
  have hspell : escapeChars (u ++ '[' :: v) ++ x =
      escapeChars u ++ '[' :: (escapeChars v ++ x) := by
    rw [escapeChars_append, escapeChars_cons (by decide), List.append_assoc, List.cons_append]
  rw [hspell, scan_escapeChars hu (by simp), List.append_nil, scan_opening]
  by_cases hnil : u = []
  · subst hnil
    intro h
    obtain ⟨ts, hts⟩ := List.head?_eq_some_iff.mp h
    exact scan_bracket_ne_cons hx ts hts
  · rw [close_of_ne_nil (by simpa using hnil), List.reverse_reverse, List.head?_cons]
    simp

end SafeLookup.Path
