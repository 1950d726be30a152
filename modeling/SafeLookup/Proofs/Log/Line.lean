import SafeLookup.Log.Logger
import SafeLookup.Proofs.Text.Quoted

/-!
# One Line on the Console

A report must not look like two, so its message must not hold anything that ends a line. This module
says what that means (`Text.IsInline`: no controls, no separators of lines or paragraphs) and what
follows from it: the text is one line (`Text.lines_of_isInline`), and the console, which drops some
controls and replaces the tab, shows it as it is (`Console.render_of_isInline`).

Texts of printable characters are like that, and so are texts that are put together from such texts.
-/

namespace SafeLookup

/-! ### Texts that stay in their line -/

namespace Text

/-- **A text stays in its line**: no character is a control, and none separates lines or
paragraphs. -/
def IsInline (s : String) : Prop :=
  ∀ c ∈ s.toList, ¬IsControl c ∧ c ≠ '\u2028' ∧ c ≠ '\u2029'

/-- A text of printable characters stays in its line. -/
theorem isInline_of_isPrintable {s : String} (h : s.toList.all isPrintable = true) :
    IsInline s := fun c hc => not_isControl_of_isPrintable (List.all_eq_true.mp h c hc)

/-- Texts that stay in their line do so together. -/
theorem isInline_append_iff {s t : String} : IsInline (s ++ t) ↔ IsInline s ∧ IsInline t := by
  rw [IsInline, String.toList_append, List.forall_mem_append]
  exact Iff.rfl

/-- A text in which nothing separates is in one piece. -/
theorem splitBy_eq_singleton {separates : Char → Bool} {cs : List Char}
    (h : ∀ c ∈ cs, separates c = false) : splitBy separates cs = [cs] := by
  induction cs with
  | nil => rfl
  | cons c rest ih =>
      obtain ⟨hc, hrest⟩ := List.forall_mem_cons.mp h
      rw [splitBy, hc, if_neg Bool.false_ne_true, ih hrest]

/-- The ends of lines are controls and the two separators. -/
theorem isControl_of_isLineEnd {c : Char} (h : isLineEnd c = true) :
    IsControl c ∨ c = '\u2028' ∨ c = '\u2029' := by
  rw [isLineEnd, List.contains_iff_mem] at h
  simp only [List.mem_cons, List.not_mem_nil, or_false] at h
  have hchar : ∀ d : Char, c.toNat = d.toNat → c = d := fun d hd => Char.toNat_inj.mp hd
  rw [IsControl]
  rcases h with h | h | h | h | h | h | h
  · omega
  · omega
  · omega
  · omega
  · omega
  · exact Or.inr (Or.inl (hchar '\u2028' h))
  · exact Or.inr (Or.inr (hchar '\u2029' h))

/-- **A text that stays in its line is one line.** -/
theorem lines_of_isInline {s : String} (h : IsInline s) : lines s.toList = [s.toList] := by
  refine splitBy_eq_singleton fun c hc => ?_
  obtain ⟨hcontrol, hline, hparagraph⟩ := h c hc
  by_contra hend
  rcases isControl_of_isLineEnd (Bool.eq_true_of_not_eq_false hend) with h | h | h
  · exact hcontrol h
  · exact hline h
  · exact hparagraph h

end Text

/-! ### What the console shows -/

namespace Console

/-- The console drops nothing but controls. -/
theorem isControl_of_isDropped {c : Char} (h : isDropped c = true) : Text.IsControl c := by
  rw [isDropped, List.contains_iff_mem] at h
  simp only [List.mem_cons, List.not_mem_nil, or_false] at h
  rw [Text.IsControl]
  omega

/-- The console drops nothing of a text that stays in its line. -/
theorem sanitize_of_isInline {s : String} (h : Text.IsInline s) : sanitize s = s := by
  have hkeep : ∀ c ∈ s.toList, (!isDropped c) = true := by
    intro c hc
    rw [Bool.not_eq_true']
    by_contra hdropped
    exact (h c hc).1 (isControl_of_isDropped (Bool.eq_true_of_not_eq_false hdropped))
  rw [sanitize, List.filter_eq_self.mpr hkeep, String.ofList_toList]

/-- Without tabs and line ends there is nothing to replace. -/
theorem expandTabs_eq_self {column : ℕ} {cs : List Char} (htab : '\t' ∉ cs) (hfeed : '\n' ∉ cs) :
    expandTabs column cs = cs := by
  induction cs generalizing column with
  | nil => rfl
  | cons c rest ih =>
      obtain ⟨hc, htab⟩ := not_or.mp (mt List.mem_cons.mpr htab)
      obtain ⟨hc', hfeed⟩ := not_or.mp (mt List.mem_cons.mpr hfeed)
      rw [expandTabs, if_neg (Ne.symm hc), if_neg (Ne.symm hc'), ih htab hfeed]

/-- **The console shows a text that stays in its line as it is.** -/
theorem render_of_isInline {s : String} (h : Text.IsInline s) : render s = s ++ "\n" := by
  have hcontrol : ∀ c, Text.IsControl c → c ∉ s.toList := fun c hc hmem => (h c hmem).1 hc
  rw [render, sanitize_of_isInline h, expandTabs_eq_self (hcontrol '\t' (by decide))
    (hcontrol '\n' (by decide)), String.ofList_toList]

end Console

/-! ### Reports -/

/-- The line of a report shows its message as it is, if the message stays in its line. -/
theorem Report.line_of_isInline {r : Report} (h : Text.IsInline r.message) :
    r.line = "[DEBUG] " ++ r.message := by
  rw [line, Console.sanitize_of_isInline h]
  rfl

/-- **A report is one line**, and it is printed with its message as it is. -/
structure Report.IsOneLine (r : Report) : Prop where
  /-- No character of the message is a control, and none separates lines or paragraphs. -/
  inline : Text.IsInline r.message
  /-- The message is one line. -/
  lines : Text.lines r.message.toList = [r.message.toList]
  /-- The console drops nothing of it. -/
  line : r.line = "[DEBUG] " ++ r.message
  /-- The console replaces nothing of it. -/
  render : Console.render r.line = r.line ++ "\n"

/-- A report whose message stays in its line is one line. -/
theorem Report.isOneLine_of_isInline {r : Report} (h : Text.IsInline r.message) :
    r.IsOneLine := by
  have hline := line_of_isInline h
  have hinline : Text.IsInline r.line := by
    rw [hline, Text.isInline_append_iff]
    exact ⟨Text.isInline_of_isPrintable (by decide), h⟩
  exact {
    inline := h
    lines := Text.lines_of_isInline h
    line := hline
    render := Console.render_of_isInline hinline }

end SafeLookup
