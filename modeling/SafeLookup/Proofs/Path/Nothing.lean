import SafeLookup.Proofs.Path.Scan
import SafeLookup.Proofs.Session.Escape
import SafeLookup.Proofs.Walk.Compose

/-!
# Paths That Name Nothing

A path without segments is no path at all: the lookup makes no step and coalesces. This module says
which paths these are. The reader makes no segment of dots and of empty pairs of brackets, and one
more opening bracket may stand at the end, where nothing is left for it to hold
(`Path.NamesNothing`). Every other character gets into a buffer sooner or later, and a buffer that
holds something is a segment in the end, so no other path is without segments
(`Path.segments_eq_nil_iff`).

A path with a segment makes a step, and a root that is null or unset fails it. So the two kinds of
paths part over such a root: the first kind leaves no record, and the second kind leaves exactly
one, at index zero (`Session.look_path_naming_nothing`).
-/

namespace SafeLookup

namespace Path

/-- **The paths that name nothing**: dots and empty pairs of brackets one behind the other, and
possibly one more opening bracket at the end. -/
def NamesNothing (p : String) : Prop :=
  ∃ pieces : List String, (∀ piece ∈ pieces, piece = "." ∨ piece = "[]") ∧
    (p = String.join pieces ∨ p = String.join pieces ++ "[")

/-- The texts over which the reader idles, piece by piece from the front. -/
inductive Idle : List Char → Prop
  | nil : Idle []
  | opening : Idle ['[']
  | dot {x : List Char} : Idle x → Idle ('.' :: x)
  | brackets {x : List Char} : Idle x → Idle ('[' :: ']' :: x)

/-! ### The pieces of an idle text -/

/-- Behind a dot the reader goes on idling. -/
@[simp] theorem idle_dot_iff {x : List Char} : Idle ('.' :: x) ↔ Idle x := by
  constructor
  · rintro ⟨⟩
    assumption
  · exact Idle.dot

/-- Behind an empty pair of brackets the reader goes on idling. -/
@[simp] theorem idle_brackets_iff {x : List Char} : Idle ('[' :: ']' :: x) ↔ Idle x := by
  constructor
  · rintro ⟨⟩
    assumption
  · exact Idle.brackets

/-- An idle text begins with a dot or with an opening bracket. -/
theorem not_idle_cons {c : Char} (hdot : c ≠ '.') (hopen : c ≠ '[') (x : List Char) :
    ¬Idle (c :: x) := by
  rintro ⟨⟩
  · exact hopen rfl
  · exact hdot rfl
  · exact hopen rfl

/-- A bracket in an idle text holds nothing. -/
theorem not_idle_opening_cons {c : Char} (hclose : c ≠ ']') (x : List Char) :
    ¬Idle ('[' :: c :: x) := by
  rintro ⟨⟩
  exact hclose rfl

/-- The texts over which the reader idles are made of dots and empty pairs of brackets. -/
theorem idle_iff_exists_pieces {x : List Char} :
    Idle x ↔ ∃ pieces : List String, (∀ piece ∈ pieces, piece = "." ∨ piece = "[]") ∧
      (x = pieces.flatMap String.toList ∨ x = pieces.flatMap String.toList ++ ['[']) := by
  constructor
  · intro h
    induction h with
    | nil => exact ⟨[], by simp, Or.inl rfl⟩
    | opening => exact ⟨[], by simp, Or.inr rfl⟩
    | dot _ ih =>
        obtain ⟨pieces, hpieces, hx⟩ := ih
        refine ⟨"." :: pieces, List.forall_mem_cons.mpr ⟨Or.inl rfl, hpieces⟩, ?_⟩
        exact hx.imp (congrArg ('.' :: ·)) (congrArg ('.' :: ·))
    | brackets _ ih =>
        obtain ⟨pieces, hpieces, hx⟩ := ih
        refine ⟨"[]" :: pieces, List.forall_mem_cons.mpr ⟨Or.inr rfl, hpieces⟩, ?_⟩
        exact hx.imp (congrArg ('[' :: ']' :: ·)) (congrArg ('[' :: ']' :: ·))
  · rintro ⟨pieces, hpieces, hx⟩
    induction pieces generalizing x with
    | nil =>
        rcases hx with rfl | rfl
        · exact Idle.nil
        · exact Idle.opening
    | cons piece pieces ih =>
        obtain ⟨hpiece, hrest⟩ := List.forall_mem_cons.mp hpieces
        have hidle : ∀ {y}, y = pieces.flatMap String.toList ∨
            y = pieces.flatMap String.toList ++ ['['] → Idle y := fun hy => ih hrest hy
        rcases hpiece with rfl | rfl
        · rcases hx with rfl | rfl
          · exact Idle.dot (hidle (Or.inl rfl))
          · exact Idle.dot (hidle (Or.inr rfl))
        · rcases hx with rfl | rfl
          · exact Idle.brackets (hidle (Or.inl rfl))
          · exact Idle.brackets (hidle (Or.inr rfl))

/-- The paths that name nothing are those over which the reader idles. -/
theorem namesNothing_iff_idle {p : String} : NamesNothing p ↔ Idle p.toList := by
  simp only [NamesNothing, idle_iff_exists_pieces, ← String.toList_inj, String.toList_append,
    String.toList_join]
  rfl

/-! ### Idling -/

/-- No segment is left of a closed buffer only if the buffer was empty. -/
theorem close_eq_nil_iff {read : List Char} {rest : List (List Char)} :
    close read rest = [] ↔ read = [] ∧ rest = [] := by
  by_cases h : read = []
  · simp [h]
  · simp [close_of_ne_nil h, h]

/-- What the reader of a mode has behind it besides the buffer. -/
def Mode.behind : Mode → List Char
  | .key => []
  | .bracket => ['[']

/-- **The reader finds no segment exactly where it idles**, with nothing in its buffer. -/
theorem scan_eq_nil_iff (m : Mode) (read x : List Char) :
    scan m read x = [] ↔ read = [] ∧ Idle (m.behind ++ x) := by
  induction m, read, x using Reader.induction with
  | stop m read =>
      have hidle : Idle m.behind := by
        cases m with
        | key => exact Idle.nil
        | bracket => exact Idle.opening
      simp [scan_nil, close_eq_nil_iff, hidle]
  | escaped read x ih =>
      have hbusy : ¬Idle ('\\' :: '.' :: x) := not_idle_cons (by decide) (by decide) _
      simp [scan_escaped, ih, Mode.behind, hbusy]
  | dot read x ih => simp [scan_dot, close_eq_nil_iff, ih, Mode.behind]
  | opening read x ih => simp [scan_opening, close_eq_nil_iff, ih, Mode.behind]
  | closing read x ih => simp [scan_closing, close_eq_nil_iff, ih, Mode.behind]
  | plain read c x hc ih =>
      have hbusy : ¬Idle (c :: x) := not_idle_cons hc.1 hc.2.1 x
      simp [scan_plain hc, ih, Mode.behind, hbusy]
  | inner read c x hc ih =>
      have hbusy : ¬Idle ('[' :: c :: x) := not_idle_opening_cons hc x
      simp [scan_inner hc, ih, Mode.behind, hbusy]

/-- **The paths without segments are those that name nothing.** -/
theorem segments_eq_nil_iff {p : String} : segments p = [] ↔ NamesNothing p := by
  rw [segments, List.map_eq_nil_iff, scan_eq_nil_iff, namesNothing_iff_idle]
  simp [Mode.behind]

end Path

/-! ### Lookups -/

namespace Value

variable {p : String}

/-- Looking up a path that names nothing is looking up no path. -/
theorem lookup_of_namesNothing (h : Path.NamesNothing p) (attributes : Admission) (root : Value) :
    root.lookup attributes (.text p) = root.lookup attributes .null := by
  have hnil : Path.segments p = [] := Path.segments_eq_nil_iff.mpr h
  rw [lookup_of_text? rfl, hnil]
  rfl

/-- A path that names something fails at its first step over a root that is null or unset. -/
theorem exists_missed_of_not_namesNothing (h : ¬Path.NamesNothing p) :
    ∃ (reason : Reason) (first : String), ∀ (attributes : Admission) (root : Value),
      root = .null ∨ root = .unset →
        root.lookup attributes (.text p) = .missed reason 0 (some (.name first)) := by
  obtain ⟨first, rest, hsegments⟩ :=
    List.exists_cons_of_ne_nil (mt Path.segments_eq_nil_iff.mp h)
  refine ⟨if Path.isReserved first then .reserved else .notTraversable, first,
    fun attributes root hroot => ?_⟩
  rw [lookup_of_text? rfl, hsegments, walkNames, List.map_cons]
  exact walk_of_isNullish (isNullish_iff.mpr hroot) first _

end Value

namespace Session

/-- **The paths that name nothing are no paths.**

* A path has no segments if and only if it consists of dots and empty pairs of brackets, with
  possibly one more opening bracket at the end.
* Looking such a path up answers what looking up no path answers, from every root, with every
  fallback and in every session: the root, or the fallback if the root is null or unset. Nothing is
  reported, and the session is as it was.
* Looking any other path up from null or unset is a miss with exactly one record, at index zero. A
  session answers the miss: if it reports misses, with the report of that record, and else without a
  report. -/
theorem look_path_naming_nothing (p : String) :
    (Path.segments p = [] ↔ Path.NamesNothing p) ∧
    (Path.NamesNothing p → ∀ (s : Session) (root fallback : Value),
      s.look (.path root (.text p)) fallback = s.look (.path root .null) fallback ∧
      s.look (.path root (.text p)) fallback =
        (s, ⟨.ok (if root.isNullish then ⟨fallback, false⟩ else ⟨root, true⟩), []⟩)) ∧
    (¬Path.NamesNothing p → ∃ m : Miss, m.index = 0 ∧
      ∀ root : Value, root = .null ∨ root = .unset →
        (∀ attributes, root.lookup attributes (.text p) = ⟨.miss, [m], []⟩) ∧
        ∀ (s : Session) (fallback : Value), s.AnswersMiss (.path root (.text p)) fallback m) := by
  refine ⟨Path.segments_eq_nil_iff, fun h s root fallback => ?_, fun h => ?_⟩
  · have hnone : s.look (.path root (.text p)) fallback = s.look (.path root .null) fallback :=
      look_congr_lookup fun attributes => Value.lookup_of_namesNothing h attributes root
    refine ⟨hnone, ?_⟩
    rw [hnone]
    have hcoalesce : (Query.path root .null).lookup s.settings.admitsAttributes =
      root.coalesce := rfl
    rw [look, hcoalesce, Value.coalesce, Lookup.ended]
    cases root.isNullish <;> rfl
  · obtain ⟨reason, first, hmissed⟩ := Value.exists_missed_of_not_namesNothing h
    refine ⟨⟨reason, 0, some (.name first)⟩, rfl, fun root hroot => ?_⟩
    have hlookup : ∀ attributes, root.lookup attributes (.text p) =
        ⟨.miss, [⟨reason, 0, some (.name first)⟩], []⟩ :=
      fun attributes => hmissed attributes root hroot
    have hquery : ∀ attributes, (Query.path root (.text p)).lookup attributes =
        ⟨.miss, [⟨reason, 0, some (.name first)⟩], []⟩ := hlookup
    refine ⟨hlookup, fun s fallback => answersMiss fallback ?_ ?_ rfl⟩
    · rw [hquery]
    · rw [hquery]

/-- Dots, empty brackets and an open one name nothing, so the root is found. With a dot between the
last brackets there is a name, and an unset root leaves one report. -/
theorem look_path_naming_nothing_brackets :
    let s : Session := .forLookups (.bool true) (.bool true)
    Path.NamesNothing ".[]..[][" ∧
    s.look (.path (.int 5) (.text ".[]..[][")) .null = (s, ⟨.ok ⟨.int 5, true⟩, []⟩) ∧
    ¬Path.NamesNothing ".[]..[.]" ∧ s.ReportsMisses ∧
    ∃ m : Miss, m.index = 0 ∧
      (s.look (.path .unset (.text ".[]..[.]")) (.int 7)).2.reports = [s.logger.reportOf m] ∧
      (s.look (.path .unset (.text ".[]..[.]")) (.int 7)).2.result = .ok ⟨.int 7, false⟩ := by
  intro s
  obtain ⟨hidle, hcoalesces, -⟩ := look_path_naming_nothing ".[]..[]["
  obtain ⟨hbusy, -, hmisses⟩ := look_path_naming_nothing ".[]..[.]"
  have hnothing : Path.NamesNothing ".[]..[][" := hidle.mp (by decide)
  have hsomething : ¬Path.NamesNothing ".[]..[.]" := mt hbusy.mpr (by decide)
  have hreports : s.ReportsMisses := ⟨rfl, by decide, by decide⟩
  obtain ⟨m, hindex, hmissed⟩ := hmisses hsomething
  obtain ⟨-, hanswers⟩ := hmissed .unset (Or.inr rfl)
  refine ⟨hnothing, (hcoalesces hnothing s (.int 5) .null).2, hsomething, hreports, m, hindex,
    (hanswers s (.int 7)).reported hreports, (hanswers s (.int 7)).answered ?_⟩
  exact (tracesQuietly_forLookups true (.bool true)).tracingRaises?

end Session

end SafeLookup
