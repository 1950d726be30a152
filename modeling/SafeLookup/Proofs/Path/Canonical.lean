import SafeLookup.Path.Parsed
import SafeLookup.Proofs.Path.RoundTrip
import SafeLookup.Proofs.Session.Look

/-!
# Canonical Paths That Mean the Same

Rendering a parsed path gives a canonical path (`ParsedPath.render`), which may name other
segments than the path did. This module gives a condition on the text of a path under which it
does not (`Path.IsOrderly`): between two opening brackets there is a closing one, and no backslash
stands directly in front of a bracket. Everything else is admitted — a bracket that is never
closed, closing brackets that close nothing, empty brackets, repeated dots, escaped dots.

The condition is one on the raw text, and the reader turns it into one on the segments. Of the
conditions on a list that survives its canonical path (`RoundTrips`), that no segment is empty
holds for whatever is read. That no segment has an opening bracket comes from the first half of
the condition (`opening_notMem_of_mem_scan`), and that only the last one ends in a backslash from
the second half (`isChain_scan`): a segment ends at a bracket, at a dot that no backslash takes,
or at the end of the text.
-/

namespace SafeLookup.Path

/-- Between any two opening brackets of a text there is a closing one. -/
def BracketsAlternate (p : List Char) : Prop :=
  ∀ between, '[' :: between ++ ['['] <:+: p → ']' ∈ between

/-- No backslash of a text stands directly in front of a bracket. -/
def BracketsUnescaped (p : List Char) : Prop := ¬['\\', '['] <:+: p ∧ ¬['\\', ']'] <:+: p

/-- The paths that mean the same as their canonical path. -/
structure IsOrderly (p : String) : Prop where
  alternate : BracketsAlternate p.toList
  unescaped : BracketsUnescaped p.toList

/-- In front of each opening bracket of a text there is a closing one. -/
def OpensBehindClosing (p : List Char) : Prop := ∀ front, front ++ ['['] <+: p → ']' ∈ front

/-! ### The conditions, character by character -/

@[simp] theorem opensBehindClosing_nil : OpensBehindClosing [] := by
  intro front h
  simp at h

/-- What the first character asks of a text that opens brackets behind a closing one only. -/
@[simp] theorem opensBehindClosing_cons_iff {c : Char} {p : List Char} :
    OpensBehindClosing (c :: p) ↔ c = ']' ∨ (c ≠ '[' ∧ OpensBehindClosing p) := by
  constructor
  · intro h
    by_cases hc : c = ']'
    · exact Or.inl hc
    · refine Or.inr ⟨?_, fun front hfront => ?_⟩
      · rintro rfl
        exact List.not_mem_nil (h [] (by simp))
      · have hmem : ']' ∈ c :: front := h (c :: front) (List.cons_prefix_cons.mpr ⟨rfl, hfront⟩)
        exact (List.mem_cons.mp hmem).resolve_left (Ne.symm hc)
  · rintro h front hfront
    cases front with
    | nil =>
        have hc : '[' = c := (List.cons_prefix_cons.mp hfront).1
        subst hc
        simp at h
    | cons d front =>
        obtain ⟨rfl, hrest⟩ := List.cons_prefix_cons.mp hfront
        rcases h with rfl | ⟨-, h⟩
        · exact List.mem_cons_self
        · exact List.mem_cons_of_mem _ (h front hrest)

@[simp] theorem bracketsAlternate_nil : BracketsAlternate [] := by
  intro between h
  simp at h

/-- What the first character asks of a text whose brackets alternate. -/
@[simp] theorem bracketsAlternate_cons_iff {c : Char} {p : List Char} :
    BracketsAlternate (c :: p) ↔ (c = '[' → OpensBehindClosing p) ∧ BracketsAlternate p := by
  constructor
  · intro h
    refine ⟨?_, fun between hp => h between (List.infix_cons hp)⟩
    rintro rfl front hfront
    refine h front (List.IsPrefix.isInfix ?_)
    exact List.cons_prefix_cons.mpr ⟨rfl, hfront⟩
  · rintro ⟨hc, hp⟩ between hbetween
    rcases List.infix_cons_iff.mp hbetween with hprefix | hinfix
    · obtain ⟨rfl, hrest⟩ := List.cons_prefix_cons.mp hprefix
      exact hc rfl between hrest
    · exact hp between hinfix

/-- Without its first character the brackets of a text still alternate. -/
theorem BracketsAlternate.of_cons {c : Char} {p : List Char} (h : BracketsAlternate (c :: p)) :
    BracketsAlternate p :=
  (bracketsAlternate_cons_iff.mp h).2

@[simp] theorem bracketsUnescaped_nil : BracketsUnescaped [] := by
  simp [BracketsUnescaped]

/-- What the first character asks of a text whose brackets are unescaped. -/
@[simp] theorem bracketsUnescaped_cons_iff {c : Char} {p : List Char} :
    BracketsUnescaped (c :: p) ↔
      (c = '\\' → p.head? ≠ some '[' ∧ p.head? ≠ some ']') ∧ BracketsUnescaped p := by
  have hpair : ∀ d, ['\\', d] <+: c :: p ↔ c = '\\' ∧ p.head? = some d := by
    intro d
    cases p with
    | nil => simp
    | cons e p => simp [eq_comm]
  rw [BracketsUnescaped, BracketsUnescaped, List.infix_cons_iff, List.infix_cons_iff, hpair, hpair]
  tauto

/-- Without its first character the brackets of a text are still unescaped. -/
theorem BracketsUnescaped.of_cons {c : Char} {p : List Char} (h : BracketsUnescaped (c :: p)) :
    BracketsUnescaped p :=
  (bracketsUnescaped_cons_iff.mp h).2

/-- What stands directly behind a backslash is no bracket. -/
theorem BracketsUnescaped.ne_of_mem_head? {p : List Char} (h : BracketsUnescaped ('\\' :: p))
    {d : Char} (hd : d ∈ p.head?) : d ≠ '[' ∧ d ≠ ']' := by
  obtain ⟨hopen, hclose⟩ := (bracketsUnescaped_cons_iff.mp h).1 rfl
  rw [Option.mem_def.mp hd] at hopen hclose
  exact ⟨by simpa using hopen, by simpa using hclose⟩

/-! ### What the reader makes of the conditions -/

/-- **Where brackets alternate, no segment has an opening bracket.** Between brackets the text
must close the bracket first; that is what the invariant says of the rest. -/
theorem opening_notMem_of_mem_scan {m : Mode} {read x : List Char} (hx : BracketsAlternate x)
    (hm : m = .bracket → OpensBehindClosing x) (hread : '[' ∉ read) :
    ∀ s ∈ scan m read x, '[' ∉ s := by
  have hclose : ∀ {r : List Char} {rest : List (List Char)}, '[' ∉ r →
      (∀ s ∈ rest, '[' ∉ s) → ∀ s ∈ close r rest, '[' ∉ s := by
    intro r rest hr hrest s hs
    rcases mem_close.mp hs with ⟨-, rfl⟩ | hs
    · rwa [List.mem_reverse]
    · exact hrest s hs
  induction m, read, x using Reader.induction with
  | stop m read =>
      rw [scan_nil]
      exact hclose hread (by simp)
  | escaped read x ih =>
      rw [scan_escaped]
      refine ih hx.of_cons.of_cons (by rintro ⟨⟩) ?_
      exact List.not_mem_cons_of_ne_of_not_mem (by decide) hread
  | dot read x ih =>
      rw [scan_dot]
      exact hclose hread (ih hx.of_cons (by rintro ⟨⟩) List.not_mem_nil)
  | opening read x ih =>
      rw [scan_opening]
      obtain ⟨hopen, hx⟩ := bracketsAlternate_cons_iff.mp hx
      exact hclose hread (ih hx (fun _ => hopen rfl) List.not_mem_nil)
  | closing read x ih =>
      rw [scan_closing]
      exact hclose hread (ih hx.of_cons (by rintro ⟨⟩) List.not_mem_nil)
  | plain read c x hc ih =>
      rw [scan_plain hc]
      refine ih hx.of_cons (by rintro ⟨⟩) ?_
      exact List.not_mem_cons_of_ne_of_not_mem (Ne.symm hc.2.1) hread
  | inner read c x hc ih =>
      rw [scan_inner hc]
      obtain ⟨hne, hfirst⟩ := (opensBehindClosing_cons_iff.mp (hm rfl)).resolve_left hc
      refine ih hx.of_cons (fun _ => hfirst) ?_
      exact List.not_mem_cons_of_ne_of_not_mem (Ne.symm hne) hread

/-- A segment that does not end in a backslash, unless it is the last one, may be put in front. -/
theorem isChain_close {read : List Char} {rest : List (List Char)}
    (hread : read.head? = some '\\' → rest = [])
    (hrest : rest.IsChain fun s _ => s.getLast? ≠ some '\\') :
    (close read rest).IsChain fun s _ => s.getLast? ≠ some '\\' := by
  by_cases hnil : read = []
  · subst hnil
    exact hrest
  · rw [close_of_ne_nil hnil, List.isChain_cons]
    refine ⟨fun t ht hlast => ?_, hrest⟩
    rw [List.getLast?_reverse] at hlast
    rw [hread hlast] at ht
    cases ht

/-- **Where brackets are unescaped, only the last segment ends in a backslash.** The invariant is
that a backslash at the end of the buffer stands in front of nothing that ends a segment. -/
theorem isChain_scan {m : Mode} {read x : List Char} (hx : BracketsUnescaped x)
    (hread : read.head? = some '\\' →
      ∀ c ∈ x.head?, c ≠ '[' ∧ c ≠ ']' ∧ (m = .key → c ≠ '.')) :
    (scan m read x).IsChain fun s _ => s.getLast? ≠ some '\\' := by
  induction m, read, x using Reader.induction with
  | stop m read =>
      rw [scan_nil]
      exact isChain_close (fun _ => rfl) List.isChain_nil
  | escaped read x ih =>
      rw [scan_escaped]
      exact ih hx.of_cons.of_cons (by simp)
  | dot read x ih =>
      rw [scan_dot]
      refine isChain_close (fun h => ?_) (ih hx.of_cons (by simp))
      exact absurd rfl ((hread h '.' rfl).2.2 rfl)
  | opening read x ih =>
      rw [scan_opening]
      refine isChain_close (fun h => ?_) (ih hx.of_cons (by simp))
      exact absurd rfl (hread h '[' rfl).1
  | closing read x ih =>
      rw [scan_closing]
      refine isChain_close (fun h => ?_) (ih hx.of_cons (by simp))
      exact absurd rfl (hread h ']' rfl).2.1
  | plain read c x hc ih =>
      rw [scan_plain hc]
      refine ih hx.of_cons fun hlast d hd => ?_
      obtain rfl := Option.some.inj hlast
      obtain ⟨hopen, hclose⟩ := hx.ne_of_mem_head? hd
      exact ⟨hopen, hclose, fun _ hdot => hc.2.2 rfl (hdot ▸ hd)⟩
  | inner read c x hc ih =>
      rw [scan_inner hc]
      refine ih hx.of_cons fun hlast d hd => ?_
      obtain rfl := Option.some.inj hlast
      obtain ⟨hopen, hclose⟩ := hx.ne_of_mem_head? hd
      exact ⟨hopen, hclose, by rintro ⟨⟩⟩

/-! ### Orderly paths -/

/-- The segments of an orderly path survive their canonical path. -/
theorem roundTrips_scan {p : String} (h : IsOrderly p) : RoundTrips (scan .key [] p.toList) := by
  refine ⟨fun s hs => ⟨ne_nil_of_mem_scan hs, ?_⟩, ?_⟩
  · exact opening_notMem_of_mem_scan h.alternate (by rintro ⟨⟩) List.not_mem_nil s hs
  · exact (isChain_scan h.unescaped (by simp)).imp fun s t hne hlast => absurd hlast hne

/-- **Reading an orderly path and reading its canonical path are the same.** -/
theorem segments_render_segments {p : String} (h : IsOrderly p) :
    segments (render (segments p)) = segments p := by
  have hchars : (segments p).map String.toList = scan .key [] p.toList := by
    simp [segments, Function.comp_def]
  rw [segments, render, String.toList_ofList, hchars, scan_renderChars,
    (scan_flatMap_renderNext_eq_iff _).mpr (roundTrips_scan h), segments]

end SafeLookup.Path

namespace SafeLookup.ParsedPath

/-- The canonical path of a parsed path is that of the segments of its text. -/
theorem render_ofPath (p : String) : (ofPath p).render = Path.render (Path.segments p) := rfl

/-- **The canonical path of an orderly path keeps its meaning.** It names the same segments, so it
is its own canonical path, it is the canonical path of exactly the orderly paths with the same
segments, and a lookup of it in any session is the lookup of the path. -/
theorem segments_render_ofPath {p : String} (hp : Path.IsOrderly p) :
    Path.segments (ofPath p).render = Path.segments p ∧
    (ofPath (ofPath p).render).render = (ofPath p).render ∧
    (∀ q, Path.IsOrderly q →
      ((ofPath p).render = (ofPath q).render ↔ Path.segments p = Path.segments q)) ∧
    ∀ (s : Session) (v fallback : Value),
      s.look (.path v (.text (ofPath p).render)) fallback =
        s.look (.path v (.text p)) fallback := by
  have hsegments : Path.segments (ofPath p).render = Path.segments p :=
    Path.segments_render_segments hp
  refine ⟨hsegments, ?_, fun q hq => ⟨fun h => ?_, fun h => ?_⟩, fun s v fallback => ?_⟩
  · rw [render_ofPath (ofPath p).render, hsegments, render_ofPath]
  · rw [← hsegments, h]
    exact Path.segments_render_segments hq
  · rw [render_ofPath, render_ofPath, h]
  · have hlookup : ∀ attributes, v.lookup attributes (.text (ofPath p).render) =
        v.lookup attributes (.text p) := by
      intro attributes
      simp only [Value.lookup, Value.core, hsegments]
    refine Session.look_congr ?_ ?_
    · rw [Query.lookup, Query.lookup, hlookup]
    · rw [Query.lookup, Query.lookup, hlookup]

/-- A path with repeated dots, an escaped one, a dot and a backslash between brackets, brackets
around nothing, a stray closing one and one that is never closed; and another path with the same
segments. -/
theorem segments_render_ofPath_unclosed :
    Path.IsOrderly "..a\\.b[c.\\d][]e][g\\" ∧
    Path.segments (ofPath "..a\\.b[c.\\d][]e][g\\").render =
      Path.segments "..a\\.b[c.\\d][]e][g\\" ∧
    (ofPath "..a\\.b[c.\\d][]e][g\\").render = (ofPath "[a.b][c.\\d].e].g\\").render := by
  have hp : Path.IsOrderly "..a\\.b[c.\\d][]e][g\\" := ⟨by simp, by simp⟩
  have hq : Path.IsOrderly "[a.b][c.\\d].e].g\\" := ⟨by simp, by simp⟩
  obtain ⟨hsegments, -, hsame, -⟩ := segments_render_ofPath hp
  exact ⟨hp, hsegments, (hsame _ hq).mpr (by decide)⟩

end SafeLookup.ParsedPath
