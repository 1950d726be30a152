import Mathlib.Data.List.Chain
import SafeLookup.Proofs.Path.Decimal
import SafeLookup.Proofs.Path.Escape

/-!
# Which Lists of Segments Have a Path

The canonical path of a list of segments (`Path.render`) escapes dots and nothing else, so not
every list is read back from it. This module gives the exact domain of the round trip
(`segments_render_eq_iff`): the segments are not empty, none has an opening bracket, and behind a
segment that ends in a backslash stands a position, which is written in brackets. Everything else —
closing brackets, dots, other backslashes, digits with leading zeros — is read back.

Some of the lists that are lost on the way have another path. The exact range of the reader is wider
(`exists_segments_eq_iff`): a list is read from some path if and only if no segment is empty and
none contains both kinds of brackets.

## Proof outline

The canonical path is read segment by segment (`scan_renderNext_of_isIndex`,
`scan_renderNext`). Where a condition fails, the first segment that violates it already comes
back changed: an empty one is dropped, one with an opening bracket is cut or swallowed
(`head?_scan_escapeChars_ne`), and one whose last backslash meets a dot grows
(`head?_scan_backslash_ne`). So nothing that is read later can repair the list, and an
equivalence about one segment (`scan_renderNext_eq_cons_iff`) and an induction on the list give
both directions (`scan_flatMap_renderNext_eq_iff`).

That nothing outside its range is ever read is an invariant of the reader (`ne_nil_of_mem_scan`,
`brackets_of_mem_scan`). For the other direction `Path.spell` writes a segment without a closing
bracket between brackets, verbatim, and any other one as a key with an empty pair of brackets
behind it. The empty pair separates as a dot does, but no backslash takes it. So the spelling of
a segment is read back whatever follows (`scan_spell`), and spellings are put together by
writing them one behind the other.
-/

namespace SafeLookup.Path

/-! ### Reading a canonical path -/

/-- Whether a dot is written between segments or left out makes no difference to the reader. -/
theorem scan_renderChars (segs : List (List Char)) :
    scan .key [] (renderChars segs) = scan .key [] (segs.flatMap renderNext) := by
  cases segs with
  | nil => rfl
  | cons s rest =>
      rw [renderChars, List.flatMap_cons]
      by_cases h : isIndexChars s = true
      · simp [renderFirst, renderNext, h]
      · simp [renderFirst, renderNext, h, scan_dot]

/-- What follows a segment in a canonical path. -/
theorem continues_flatMap_renderNext (segs : List (List Char)) :
    Continues (segs.flatMap renderNext) := by
  cases segs with
  | nil => exact Continues.nil
  | cons s rest =>
      rw [List.flatMap_cons, renderNext]
      split
      next h =>
        obtain ⟨c, s, rfl⟩ := List.exists_cons_of_ne_nil (ne_nil_of_isIndexChars h)
        have hc : c ≠ ']' := fun hc =>
          notMem_of_isIndexChars h (c := ']') (by decide) (hc ▸ List.mem_cons_self)
        exact Continues.bracket _ hc
      next => exact Continues.dot _

/-- Whatever follows a segment in a canonical path ends a key. -/
theorem Continues.separates {x : List Char} (h : Continues x) : Separates x := by
  cases h with
  | nil => exact Or.inl rfl
  | dot x => exact Or.inr (Or.inl rfl)
  | bracket x _ => exact Or.inr (Or.inr rfl)

/-- A position is read back from its brackets, whatever follows. -/
theorem scan_renderNext_of_isIndex {s : List Char} (h : isIndexChars s = true) (x : List Char) :
    scan .key [] (renderNext s ++ x) = s :: scan .key [] x := by
  have hclose : ']' ∉ s := notMem_of_isIndexChars h (by decide)
  have hne : s.reverse ≠ [] := mt List.reverse_eq_nil_iff.mp (ne_nil_of_isIndexChars h)
  have hspell : renderNext s ++ x = '[' :: s ++ ']' :: x := by
    simp [renderNext, h]
  rw [hspell, scan_bracket_closed hclose, close_nil, close_of_ne_nil hne, List.reverse_reverse]

/-- A key is read back from its spelling, if it has no opening bracket and what follows does not
start with a dot that its last backslash takes. -/
theorem scan_renderNext {s x : List Char} (hidx : isIndexChars s = false) (hne : s ≠ [])
    (hopen : '[' ∉ s) (hx : Continues x)
    (hesc : x.head? = some '.' → s.getLast? ≠ some '\\') :
    scan .key [] (renderNext s ++ x) = s :: scan .key [] x := by
  have hne' : s.reverse ≠ [] := mt List.reverse_eq_nil_iff.mp hne
  have hspell : renderNext s ++ x = '.' :: (escapeChars s ++ x) := by
    simp [renderNext, hidx]
  rw [hspell, scan_dot, close_nil, scan_escapeChars hopen hesc, List.append_nil,
    scan_of_separates hx.separates, close_of_ne_nil hne', List.reverse_reverse]

/-- A key whose last backslash meets a dot is lost: the dot gets into the segment. -/
theorem head?_scan_backslash_ne {s x : List Char} (hopen : '[' ∉ s)
    (hlast : s.getLast? = some '\\') :
    (scan .key [] (escapeChars s ++ '.' :: x)).head? ≠ some s := by
  obtain ⟨u, rfl⟩ := List.getLast?_eq_some_iff.mp hlast
  intro h
  obtain ⟨ts, hts⟩ := List.head?_eq_some_iff.mp h
  have hu : '[' ∉ u := fun hin => hopen (List.mem_append_left _ hin)
  have hspell : escapeChars (u ++ ['\\']) ++ '.' :: x = escapeChars u ++ '\\' :: '.' :: x := by
    rw [escapeChars_append, escapeChars_cons (by decide), escapeChars_nil, List.append_assoc]
    rfl
  rw [hspell, scan_escapeChars hu (by simp), List.append_nil, scan_escaped] at hts
  obtain ⟨w, hw⟩ := prefix_of_scan_eq_cons (List.cons_ne_nil _ _) hts
  simp at hw

/-- A position meets the conditions on a segment by itself. -/
theorem conditions_of_isIndexChars {s : List Char} (h : isIndexChars s = true) :
    (s ≠ [] ∧ '[' ∉ s) ∧ s.getLast? ≠ some '\\' := by
  refine ⟨⟨ne_nil_of_isIndexChars h, notMem_of_isIndexChars h (by decide)⟩, fun hlast => ?_⟩
  exact notMem_of_isIndexChars h (by decide) (List.mem_of_getLast? hlast)

/-- **A segment comes back from its place in a canonical path** exactly if it is not empty, has no
opening bracket, and its last backslash meets no dot. -/
theorem scan_renderNext_eq_cons_iff {s x : List Char} (hx : Continues x)
    {rest : List (List Char)} :
    scan .key [] (renderNext s ++ x) = s :: rest ↔
      (s ≠ [] ∧ '[' ∉ s) ∧ (x.head? = some '.' → s.getLast? ≠ some '\\') ∧
        scan .key [] x = rest := by
  cases hidx : isIndexChars s with
  | true =>
      obtain ⟨hok, hlast⟩ := conditions_of_isIndexChars hidx
      rw [scan_renderNext_of_isIndex hidx, List.cons.injEq]
      simp [hok, hlast]
  | false =>
      constructor
      · intro h
        have hhead : (scan .key [] (escapeChars s ++ x)).head? = some s := by
          have hspell : renderNext s ++ x = '.' :: (escapeChars s ++ x) := by
            simp [renderNext, hidx]
          rw [hspell, scan_dot, close_nil] at h
          rw [h, List.head?_cons]
        have hne : s ≠ [] :=
          ne_nil_of_mem_scan (h ▸ List.mem_cons_self (a := s) (l := rest))
        have hopen : '[' ∉ s := fun hin => head?_scan_escapeChars_ne hin hx hhead
        have hesc : x.head? = some '.' → s.getLast? ≠ some '\\' := by
          intro hdot hlast
          obtain ⟨y, rfl⟩ := List.head?_eq_some_iff.mp hdot
          exact head?_scan_backslash_ne hopen hlast hhead
        rw [scan_renderNext hidx hne hopen hx hesc, List.cons.injEq] at h
        exact ⟨⟨hne, hopen⟩, hesc, h.2⟩
      · rintro ⟨⟨hne, hopen⟩, hesc, h⟩
        rw [scan_renderNext hidx hne hopen hx hesc, h]

/-! ### The domain of the round trip -/

/-- The segments that come back from their canonical path: none is empty or has an opening
bracket, and a segment that ends in a backslash is the last one or stands in front of a
position. -/
def RoundTrips (segs : List (List Char)) : Prop :=
  (∀ s ∈ segs, s ≠ [] ∧ '[' ∉ s) ∧
    segs.IsChain fun s t => s.getLast? = some '\\' → isIndexChars t = true

/-- What a segment and its successor have to satisfy. -/
theorem roundTrips_cons_iff {s : List Char} {rest : List (List Char)} :
    RoundTrips (s :: rest) ↔
      (s ≠ [] ∧ '[' ∉ s) ∧
      (∀ t ∈ rest.head?, s.getLast? = some '\\' → isIndexChars t = true) ∧
      RoundTrips rest := by
  rw [RoundTrips, RoundTrips, List.forall_mem_cons, List.isChain_cons]
  tauto

/-- The condition on a segment and its successor, as the reader sees it: the last backslash of
the segment meets no dot. -/
theorem forall_head?_isIndex_iff {s : List Char} {rest : List (List Char)} :
    (∀ t ∈ rest.head?, s.getLast? = some '\\' → isIndexChars t = true) ↔
      ((rest.flatMap renderNext).head? = some '.' → s.getLast? ≠ some '\\') := by
  cases rest with
  | nil => simp
  | cons t rest =>
      rw [List.flatMap_cons, renderNext]
      by_cases h : isIndexChars t = true
      · simp [h]
      · simp [h]

/-- **The reader on canonical paths**: it gives the segments back exactly on the domain of the
round trip. -/
theorem scan_flatMap_renderNext_eq_iff (segs : List (List Char)) :
    scan .key [] (segs.flatMap renderNext) = segs ↔ RoundTrips segs := by
  induction segs with
  | nil => simp [RoundTrips, scan_nil]
  | cons s rest ih =>
      rw [List.flatMap_cons, roundTrips_cons_iff, forall_head?_isIndex_iff, ← ih]
      exact scan_renderNext_eq_cons_iff (continues_flatMap_renderNext rest)

/-- **The exact domain of the round trip.** Reading the canonical path of a list of segments gives
the list back if and only if no segment is empty, none has an opening bracket, and each segment
that ends in a backslash and is not the last one is followed by a position. -/
theorem segments_render_eq_iff (segs : List String) :
    segments (render segs) = segs ↔
      (∀ s ∈ segs, s ≠ "" ∧ '[' ∉ s.toList) ∧
      segs.IsChain fun s t => s.toList.getLast? = some '\\' → isIndex t = true := by
  have hchars : segments (render segs) = segs ↔
      scan .key [] ((segs.map String.toList).flatMap renderNext) = segs.map String.toList := by
    rw [segments, render, String.toList_ofList, scan_renderChars]
    constructor
    · intro h
      have := congrArg (List.map String.toList) h
      simpa using this
    · intro h
      simp [h]
  rw [hchars, scan_flatMap_renderNext_eq_iff, RoundTrips, List.forall_mem_map, List.isChain_map]
  simp [isIndex]

/-! ### The range of the reader -/

/-- A spelling of a segment that may stand in front of anything. -/
def spell (segment : List Char) : List Char :=
  if ']' ∈ segment then escapeChars segment ++ ['[', ']'] else '[' :: segment ++ [']']

/-- **A segment is read back from its spelling, whatever follows**, if it is not empty and does
not contain both kinds of brackets. -/
theorem scan_spell {s : List Char} (hne : s ≠ []) (hbrackets : '[' ∉ s ∨ ']' ∉ s)
    (x : List Char) : scan .key [] (spell s ++ x) = s :: scan .key [] x := by
  have hclose : ∀ rest, close s.reverse rest = s :: rest := by
    intro rest
    rw [close_of_ne_nil (mt List.reverse_eq_nil_iff.mp hne), List.reverse_reverse]
  by_cases hclosing : ']' ∈ s
  · have hopen : '[' ∉ s := hbrackets.resolve_right (not_not_intro hclosing)
    have hspell : spell s ++ x = escapeChars s ++ '[' :: ']' :: x := by
      simp [spell, hclosing]
    rw [hspell, scan_escapeChars hopen (by simp), List.append_nil, scan_opening, hclose,
      scan_closing, close_nil]
  · have hspell : spell s ++ x = '[' :: s ++ ']' :: x := by
      simp [spell, hclosing]
    rw [hspell, scan_bracket_closed hclosing, close_nil, hclose]

/-- A list of segments is read back from its spellings. -/
theorem scan_flatMap_spell {segs : List (List Char)}
    (h : ∀ s ∈ segs, s ≠ [] ∧ ('[' ∉ s ∨ ']' ∉ s)) :
    scan .key [] (segs.flatMap spell) = segs := by
  induction segs with
  | nil => rw [List.flatMap_nil, scan_nil, close_nil]
  | cons s segs ih =>
      obtain ⟨⟨hne, hbrackets⟩, hrest⟩ := List.forall_mem_cons.mp h
      rw [List.flatMap_cons, scan_spell hne hbrackets, ih hrest]

/-- **The exact range of the reader.** A list of segments is read from some path if and only if no
segment is empty and none contains both an opening and a closing bracket. -/
theorem exists_segments_eq_iff (segs : List String) :
    (∃ p, segments p = segs) ↔
      ∀ s ∈ segs, s ≠ "" ∧ ¬('[' ∈ s.toList ∧ ']' ∈ s.toList) := by
  constructor
  · rintro ⟨p, rfl⟩ s hs
    obtain ⟨t, ht, rfl⟩ := List.mem_map.mp hs
    have hne : t ≠ [] := ne_nil_of_mem_scan ht
    have hbrackets : '[' ∉ t ∨ ']' ∉ t := brackets_of_mem_scan List.not_mem_nil ht
    rw [String.toList_ofList, not_and_or]
    exact ⟨by simpa using hne, hbrackets⟩
  · intro h
    have hchars : ∀ t ∈ segs.map String.toList, t ≠ [] ∧ ('[' ∉ t ∨ ']' ∉ t) := by
      rw [List.forall_mem_map]
      intro s hs
      obtain ⟨hne, hbrackets⟩ := h s hs
      exact ⟨by simpa using hne, not_and_or.mp hbrackets⟩
    refine ⟨String.ofList ((segs.map String.toList).flatMap spell), ?_⟩
    rw [segments, String.toList_ofList, scan_flatMap_spell hchars]
    simp

/-- Keys that end in backslashes, side by side. -/
example : segments "a]\\[]b\\.]\\[]0][]" = ["a]\\", "b.]\\", "0]"] := by decide

end SafeLookup.Path
