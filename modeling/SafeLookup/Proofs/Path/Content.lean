import SafeLookup.Proofs.Path.Scan

/-!
# What the Reader Keeps of a Path

The segments of a path, written one behind the other, are the path without some of its characters.
This module says which ones may be missing: separators, that is dots and brackets, and backslashes
that stand right in front of a dot (`Path.Residue`). Every other character is kept, none twice and
none out of order. What is left out depends on where the reader stands: between brackets it keeps
dots, opening brackets and every backslash.

A residue can be told apart from other texts in two ways. Position by position, a character that is
not kept is one of those (`Path.KeptAt`); and without its separators and backslashes a path is the
same text before and after (`Residue.filter_unmarked`).
-/

namespace SafeLookup.Path

/-- The characters that the reader takes for something else than themselves somewhere. -/
def isMark (c : Char) : Bool := ['.', '[', ']', '\\'].contains c

/-- Separators are marks. -/
theorem isMark_of_separator {c : Char} (h : c ∈ ['.', '[', ']']) : isMark c = true := by
  simp only [List.mem_cons, List.not_mem_nil, or_false] at h
  rcases h with rfl | rfl | rfl <;> rfl

/-- **A residue of a text**: some of its dots and brackets are left out, and some of the backslashes
that stand right in front of a dot. Nothing else is. -/
inductive Residue : List Char → List Char → Prop
  | nil : Residue [] []
  | keep (c : Char) {x t : List Char} : Residue x t → Residue (c :: x) (c :: t)
  | separator {c : Char} {x t : List Char} :
      c ∈ ['.', '[', ']'] → Residue x t → Residue (c :: x) t
  | escape {x t : List Char} : Residue ('.' :: x) t → Residue ('\\' :: '.' :: x) t

/-- **Where a residue stands in its text**: the characters of `t` are those of `x` at the positions
`kept`, in order, and what stands at any other position is a separator or a backslash right in front
of a dot. -/
structure KeptAt (x t : List Char) (kept : List ℕ) : Prop where
  /-- The positions are in order, none twice. -/
  ordered : kept.Pairwise (· < ·)
  /-- The character at each position. -/
  read : t.map some = kept.map (x[·]?)
  /-- What is left out. -/
  left_out : ∀ (i : ℕ) (c : Char), x[i]? = some c → i ∉ kept →
    c ∈ ['.', '[', ']'] ∨ (c = '\\' ∧ x[i + 1]? = some '.')

/-! ### Positions -/

/-- Positions in front of which one more character stands are still in order. -/
theorem pairwise_map_succ {kept : List ℕ} (h : kept.Pairwise (· < ·)) :
    (kept.map (· + 1)).Pairwise (· < ·) :=
  List.pairwise_map.mpr (h.imp Nat.succ_lt_succ)

/-- Behind one more character the same characters are read one position later. -/
theorem map_getElem?_succ (c : Char) (x : List Char) (kept : List ℕ) :
    (kept.map (· + 1)).map ((c :: x)[·]?) = kept.map (x[·]?) := by
  rw [List.map_map]
  rfl

/-- A position is kept if the position behind one more character is. -/
theorem succ_mem_map_succ {i : ℕ} {kept : List ℕ} : i + 1 ∈ kept.map (· + 1) ↔ i ∈ kept := by
  simp

/-- A character in front that is left out moves the positions by one. -/
theorem KeptAt.leave_out {c : Char} {x t : List Char} {kept : List ℕ} (h : KeptAt x t kept)
    (hc : c ∈ ['.', '[', ']'] ∨ (c = '\\' ∧ x[0]? = some '.')) :
    KeptAt (c :: x) t (kept.map (· + 1)) where
  ordered := pairwise_map_succ h.ordered
  read := by rw [map_getElem?_succ, h.read]
  left_out := by
    rintro (_ | i) d hd hi
    · obtain rfl := Option.some.inj hd
      exact hc
    · exact h.left_out i d hd (mt succ_mem_map_succ.mpr hi)

/-- A character in front that is kept stands at position zero. -/
theorem KeptAt.keep {x t : List Char} {kept : List ℕ} (h : KeptAt x t kept) (c : Char) :
    KeptAt (c :: x) (c :: t) (0 :: kept.map (· + 1)) where
  ordered := by
    refine List.pairwise_cons.mpr ⟨fun i hi => ?_, pairwise_map_succ h.ordered⟩
    obtain ⟨j, -, rfl⟩ := List.mem_map.mp hi
    exact Nat.succ_pos j
  read := by
    rw [List.map_cons, List.map_cons, map_getElem?_succ, h.read]
    rfl
  left_out := by
    rintro (_ | i) d hd hi
    · exact absurd List.mem_cons_self hi
    · refine h.left_out i d hd fun hkept => hi ?_
      exact List.mem_cons_of_mem 0 (succ_mem_map_succ.mpr hkept)

/-! ### Residues -/

namespace Residue

variable {x t : List Char}

/-- A residue stands in its text. -/
theorem exists_keptAt (h : Residue x t) : ∃ kept, KeptAt x t kept := by
  induction h with
  | nil => exact ⟨[], List.Pairwise.nil, rfl, by simp⟩
  | keep c _ ih =>
      obtain ⟨kept, hkept⟩ := ih
      exact ⟨_, hkept.keep c⟩
  | separator hc _ ih =>
      obtain ⟨kept, hkept⟩ := ih
      exact ⟨_, hkept.leave_out (Or.inl hc)⟩
  | escape _ ih =>
      obtain ⟨kept, hkept⟩ := ih
      exact ⟨_, hkept.leave_out (Or.inr ⟨rfl, rfl⟩)⟩

/-- A residue repeats nothing, invents nothing and keeps the order. -/
theorem sublist (h : Residue x t) : t.Sublist x := by
  induction h with
  | nil => exact List.Sublist.slnil
  | keep c _ ih => exact ih.cons_cons c
  | separator _ _ ih => exact ih.cons _
  | escape _ ih => exact ih.cons _

/-- **A residue loses nothing that the reader takes for itself.** -/
theorem filter_unmarked (h : Residue x t) : t.filter (!isMark ·) = x.filter (!isMark ·) := by
  induction h with
  | nil => rfl
  | keep c _ ih => simp only [List.filter_cons, ih]
  | separator hc _ ih => rw [List.filter_cons_of_neg (by simp [isMark_of_separator hc]), ih]
  | escape _ ih => rw [List.filter_cons_of_neg (by decide), ih]

/-- Without backslashes in front of dots a residue keeps all backslashes. -/
theorem count_backslash (h : Residue x t) (hx : ¬['\\', '.'] <:+: x) :
    t.count '\\' = x.count '\\' := by
  induction h with
  | nil => rfl
  | keep c _ ih =>
      have hrest := ih (mt (fun hpair => hpair.trans (List.suffix_cons _ _).isInfix) hx)
      simp only [List.count_cons, hrest]
  | separator hc _ ih =>
      have hrest := ih (mt (fun hpair => hpair.trans (List.suffix_cons _ _).isInfix) hx)
      rw [List.count_cons_of_ne, hrest]
      rintro rfl
      simp at hc
  | @escape x t _ _ => exact absurd ⟨[], x, rfl⟩ hx

end Residue

/-! ### The reader -/

/-- Written one behind the other, the segments of a closed buffer begin with what it held. -/
theorem flatten_close (read : List Char) (rest : List (List Char)) :
    (close read rest).flatten = read.reverse ++ rest.flatten := by
  by_cases h : read = []
  · simp [h]
  · rw [close_of_ne_nil h, List.flatten_cons]

/-- **The reader leaves a residue**: behind what the buffer held, the segments are a residue of the
text that was left. -/
theorem exists_flatten_scan (m : Mode) (read x : List Char) :
    ∃ t, (scan m read x).flatten = read.reverse ++ t ∧ Residue x t := by
  have hpush : ∀ {read t : List Char} {c : Char},
      (c :: read).reverse ++ t = read.reverse ++ c :: t := by simp
  induction m, read, x using Reader.induction with
  | stop m read =>
      refine ⟨[], ?_, Residue.nil⟩
      rw [scan_nil, flatten_close, List.flatten_nil]
  | escaped read x ih =>
      obtain ⟨t, ht, hx⟩ := ih
      refine ⟨'.' :: t, ?_, Residue.escape (Residue.keep '.' hx)⟩
      rw [scan_escaped, ht, hpush]
  | dot read x ih =>
      obtain ⟨t, ht, hx⟩ := ih
      refine ⟨t, ?_, Residue.separator (by decide) hx⟩
      rw [scan_dot, flatten_close, ht, List.reverse_nil, List.nil_append]
  | opening read x ih =>
      obtain ⟨t, ht, hx⟩ := ih
      refine ⟨t, ?_, Residue.separator (by decide) hx⟩
      rw [scan_opening, flatten_close, ht, List.reverse_nil, List.nil_append]
  | closing read x ih =>
      obtain ⟨t, ht, hx⟩ := ih
      refine ⟨t, ?_, Residue.separator (by decide) hx⟩
      rw [scan_closing, flatten_close, ht, List.reverse_nil, List.nil_append]
  | plain read c x hc ih =>
      obtain ⟨t, ht, hx⟩ := ih
      refine ⟨c :: t, ?_, Residue.keep c hx⟩
      rw [scan_plain hc, ht, hpush]
  | inner read c x hc ih =>
      obtain ⟨t, ht, hx⟩ := ih
      refine ⟨c :: t, ?_, Residue.keep c hx⟩
      rw [scan_inner hc, ht, hpush]

/-- Written one behind the other, the segments of a path are a residue of it. -/
theorem residue_join_segments (p : String) :
    Residue p.toList (String.join (segments p)).toList := by
  obtain ⟨t, ht, hresidue⟩ := exists_flatten_scan .key [] p.toList
  have hjoin : (String.join (segments p)).toList = (scan .key [] p.toList).flatten := by
    rw [String.toList_join, segments, List.flatMap_map, List.flatMap_def]
    simp
  rw [hjoin, ht]
  exact hresidue

/-- **The reader neither loses nor doubles text.** Let the segments of a path be written one behind
the other.

* Without dots, brackets and backslashes they are the same text as the path without these.
* They are a part of the path, in order.
* They stand at positions of the path so that a character that is left out is a separator or a
  backslash right in front of a dot. In particular every other backslash is kept.
* If no backslash of the path stands right in front of a dot, all backslashes are kept. -/
theorem join_segments_keeps (p : String) :
    (String.join (segments p)).toList.filter (!isMark ·) = p.toList.filter (!isMark ·) ∧
    (String.join (segments p)).toList.Sublist p.toList ∧
    (∃ kept, KeptAt p.toList (String.join (segments p)).toList kept ∧
      ∀ i, p.toList[i]? = some '\\' → p.toList[i + 1]? ≠ some '.' → i ∈ kept) ∧
    (¬['\\', '.'] <:+: p.toList →
      (String.join (segments p)).toList.count '\\' = p.toList.count '\\') := by
  have hresidue := residue_join_segments p
  refine ⟨hresidue.filter_unmarked, hresidue.sublist, ?_, hresidue.count_backslash⟩
  obtain ⟨kept, hkept⟩ := hresidue.exists_keptAt
  refine ⟨kept, hkept, fun i hbackslash hdot => ?_⟩
  by_contra hi
  rcases hkept.left_out i '\\' hbackslash hi with hseparator | ⟨-, hbefore⟩
  · simp at hseparator
  · exact hdot hbefore

end SafeLookup.Path
