import SafeLookup.Log.Record
import SafeLookup.Proofs.Log.Line
import SafeLookup.Proofs.Path.Decimal

/-!
# Messages Tell Their Records

The message about a miss is put together from the words for its reason, the index in decimal and the
segment in quotes. A segment may hold anything, also what looks like the rest of a message, or a
line end with another message behind it. Neither does any harm.

* Messages that are equal have the same kind of reason, the same index and the same segment
  (`Miss.of_message_eq`). The words for the kinds begin with different letters, no decimal
  digit is a space, and quoted text determines the text.
* A message stays in its line (`Miss.isInline_message`): nothing in it is a control or a separator
  of lines or paragraphs.

The record behind a message is a template with three fields. Filled in, it is the message
(`Miss.fill_template`), and that is what the console prints between the level and the place of the
record (`Miss.printed_record`).
-/

namespace SafeLookup

/-! ### Reasons -/

namespace Reason

/-- **Reasons of the same kind.** What exactly a container raised makes no difference. -/
inductive SameKind : Reason → Reason → Prop
  | refl (r : Reason) : SameKind r r
  | container (f f' : Fault) : SameKind (.container f) (.container f')

/-- Reasons of the same kind have the same words. -/
theorem SameKind.text_eq {r r' : Reason} (h : r.SameKind r') : r.text = r'.text := by
  cases h with
  | refl r => rfl
  | container f f' => rfl

/-- The letter that the words for a reason begin with. -/
def initial : Reason → Char
  | reserved => 'u'
  | notTraversable => 'v'
  | notFound => 'm'
  | unset => 'r'
  | container _ => 'c'

/-- The words for a reason begin with its letter. -/
theorem head?_text_append (r : Reason) (x : List Char) :
    (r.text.toList ++ x).head? = some r.initial := by
  cases r <;> simp [text, initial]

/-- The letter tells the kind. -/
theorem sameKind_of_initial {r r' : Reason} (h : r.initial = r'.initial) : r.SameKind r' := by
  cases r <;> cases r' <;>
    first
    | exact SameKind.refl _
    | exact SameKind.container _ _
    | simp [initial] at h

/-- **The words for a reason are split off the front of a text in one way**, up to the kind. -/
theorem sameKind_of_text_append {r r' : Reason} {x y : List Char}
    (h : r.text.toList ++ x = r'.text.toList ++ y) : r.SameKind r' ∧ x = y := by
  have hinitial : some r.initial = some r'.initial := by
    rw [← head?_text_append r x, h, head?_text_append]
  have hkind := sameKind_of_initial (Option.some.inj hinitial)
  rw [hkind.text_eq] at h
  exact ⟨hkind, List.append_cancel_left h⟩

/-- The words for a reason stay in their line. -/
theorem isInline_text (r : Reason) : Text.IsInline r.text := by
  rw [text.eq_def]
  split <;> exact Text.isInline_of_isPrintable (by decide)

end Reason

namespace Miss

variable {m m' : Miss}

/-! ### Messages and their parts -/

/-- **A record is about names**: it has the name of the step that failed or, if the value at the end
is unset, no segment. -/
def IsAboutNames (m : Miss) : Prop :=
  (m.reason ≠ .unset ∧ ∃ name, m.segment = some (.name name)) ∨
    (m.reason = .unset ∧ m.segment = none)

/-- A message, in its parts. -/
theorem toList_message (m : Miss) :
    m.message.toList = "resolve: ".toList ++ (m.reason.text.toList ++ (" at segment ".toList ++
      (Nat.toDigits 10 m.index ++ ' ' :: m.segmentText.toList))) := by
  simp [message]

/-- A name is shown in quotes, and a missing segment as the word for null. So the text of a segment
tells it. -/
theorem segment_eq_of_segmentText_eq (hm : m.IsAboutNames) (hm' : m'.IsAboutNames)
    (h : m.segmentText = m'.segmentText) : m.segment = m'.segment := by
  have hword : ∀ name, Value.null.display ≠ Text.quote name := by
    intro name hname
    have hhead : Value.null.display.toList.head? = some 'N' := rfl
    rw [hname] at hhead
    rcases Text.head?_quote name with hquote | hquote
    · rw [hquote] at hhead
      exact absurd (Option.some.inj hhead) (by decide)
    · rw [hquote] at hhead
      exact absurd (Option.some.inj hhead) (by decide)
  rw [segmentText, segmentText] at h
  rcases hm with ⟨-, name, hname⟩ | ⟨-, hnone⟩
  · rcases hm' with ⟨-, name', hname'⟩ | ⟨-, hnone'⟩
    · rw [hname, hname'] at h
      rw [hname, hname', Text.quote_inj h]
    · rw [hname, hnone'] at h
      exact absurd h.symm (hword name)
  · rcases hm' with ⟨-, name', hname'⟩ | ⟨-, hnone'⟩
    · rw [hnone, hname'] at h
      exact absurd h (hword name')
    · rw [hnone, hnone']

/-- **Equal messages are about the same failure.** -/
theorem of_message_eq (hm : m.IsAboutNames) (hm' : m'.IsAboutNames)
    (h : m.message = m'.message) :
    m.reason.SameKind m'.reason ∧ m.index = m'.index ∧ m.segment = m'.segment := by
  have hspace : ∀ n, ' ' ∉ Nat.toDigits 10 n :=
    fun n => Path.notMem_of_isIndexChars (Path.isIndexChars_toDigits n) (by decide)
  have hchars := congrArg String.toList h
  rw [toList_message, toList_message] at hchars
  obtain ⟨hkind, hrest⟩ := Reason.sameKind_of_text_append (List.append_cancel_left hchars)
  obtain ⟨hdigits, hsegment⟩ :=
    Text.append_cons_inj (hspace m.index) (hspace m'.index) (List.append_cancel_left hrest)
  have hindex : toString m.index = toString m'.index := by
    rw [Nat.toString_eq_ofList_toDigits, hdigits, Nat.toString_eq_ofList_toDigits]
  exact ⟨hkind, Path.toString_inj.mp hindex,
    segment_eq_of_segmentText_eq hm hm' (String.toList_inj.mp hsegment)⟩

/-! ### Messages stay in their line -/

/-- The text of a segment stays in its line. -/
theorem isInline_segmentText (hm : m.IsAboutNames) : Text.IsInline m.segmentText := by
  rw [segmentText]
  rcases hm with ⟨-, name, hname⟩ | ⟨-, hnone⟩
  · rw [hname]
    exact Text.isInline_of_isPrintable
      (List.all_eq_true.mpr fun c hc => Text.isPrintable_of_mem_quote hc)
  · rw [hnone]
    exact Text.isInline_of_isPrintable (by decide)

/-- **A message stays in its line**, whatever the segment is. -/
theorem isInline_message (hm : m.IsAboutNames) : Text.IsInline m.message := by
  have hindex : Text.IsInline (toString m.index) := by
    refine Text.isInline_of_isPrintable (List.all_eq_true.mpr fun c hc => ?_)
    rw [Nat.toString_eq_ofList_toDigits, String.toList_ofList] at hc
    have hdigit := Nat.isDigit_of_mem_toDigits (by omega) (by omega) hc
    exact Text.isPrintable_of_isPlain (Text.isPlain_of_isDigit hdigit)
  have hwords : Text.IsInline "resolve: " ∧ Text.IsInline " at segment " ∧ Text.IsInline " " :=
    ⟨Text.isInline_of_isPrintable (by decide), Text.isInline_of_isPrintable (by decide),
      Text.isInline_of_isPrintable (by decide)⟩
  obtain ⟨hstart, hat, hspace⟩ := hwords
  simp only [message, Text.isInline_append_iff]
  exact ⟨⟨⟨⟨⟨hstart, m.reason.isInline_text⟩, hat⟩, hindex⟩, hspace⟩, isInline_segmentText hm⟩

end Miss

/-! ### Filling a template -/

namespace Template

variable {s : Supply} {rest : List Piece} {text text' : List Char}

/-- The characters of a template stand for themselves. -/
theorem fillPieces_chars_append (cs : List Char) (hrest : fillPieces s rest = .ok text) :
    fillPieces s (cs.map .char ++ rest) = .ok (cs ++ text) := by
  induction cs with
  | nil => exact hrest
  | cons c cs ih =>
      rw [List.map_cons, List.cons_append, fillPieces, ih]
      rfl

/-- A field with nothing but a conversion stands for the next argument, converted. -/
theorem fillPieces_field_cons {c : Char} {v : Value} {vs : List Value}
    (hconvert : convert c {} 0 none v = .ok text)
    (hrest : fillPieces ⟨vs, none⟩ rest = .ok text') :
    fillPieces ⟨v :: vs, none⟩ (.field { conversion := some c } :: rest) =
      .ok (text ++ text') := by
  have hfield : fillField ⟨v :: vs, none⟩ { conversion := some c } = .ok (text, ⟨vs, none⟩) := by
    simp [fillField, Supply.count, Supply.next, hconvert, bind, Except.bind, pure, Except.pure]
  rw [fillPieces, hfield]
  dsimp only [bind, Except.bind]
  rw [hrest]
  rfl

/-- A text in running text is the text. -/
theorem convert_text (t : String) : convert 's' {} 0 none (.text t) = .ok t.toList := by
  have htext : (Value.text t).toText = t := rfl
  have hwritable : (Value.text t).hasText = true := rfl
  simp [convert, shown, textField, pad, htext, hwritable]

/-- A number in decimal is its digits. -/
theorem convert_nat {n : ℕ} (h : Path.isTooLong n = false) :
    convert 'd' {} 0 none (.int n) = .ok (Nat.toDigits 10 n) := by
  have htruncated : truncated (.int n) = .ok n := rfl
  have hdecimal : decimal {} 0 0 n = .ok (Nat.toDigits 10 n) := by
    simp [decimal, h, inBase, padNumber, pad, signText]
  simp only [convert, htruncated, bind, Except.bind, Option.getD_none, hdecimal]

/-- A value as it would be entered is its display. -/
theorem convert_display {v : Value} (h : v.isWritable = true) :
    convert 'r' {} 0 none v = .ok v.display.toList := by
  simp [convert, shown, textField, pad, h]

end Template

/-! ### The record behind a message -/

namespace Miss

variable {m : Miss}

/-- The template of all messages. -/
def template : String := "resolve: %s at segment %d %r"

/-- The segment of a record as the argument of a template. -/
def segmentValue (m : Miss) : Value :=
  match m.segment with
  | some (.name s) => .text s
  | some (.other v) => v
  | none => .null

/-- The arguments of the template. -/
def arguments (m : Miss) : List Value := [.text m.reason.text, .int m.index, m.segmentValue]

/-- The record that the handlers are given of a miss, made at a line of a file. -/
def record (m : Miss) (pathname : String) (line : ℤ) : Record where
  level := Level.debug.number
  template := template
  arguments := m.arguments
  pathname
  line

/-- The argument is shown as the segment is. -/
theorem display_segmentValue (m : Miss) : m.segmentValue.display = m.segmentText := by
  rw [segmentValue, segmentText]
  rcases m.segment with _ | ⟨name⟩ | ⟨v⟩
  · rfl
  · rfl
  · rfl

/-- The argument can be written if the record can. -/
theorem isWritable_segmentValue (h : m.isWritable = true) : m.segmentValue.isWritable = true := by
  rw [isWritable] at h
  rw [segmentValue]
  rcases hsegment : m.segment with _ | ⟨name⟩ | ⟨v⟩
  · rfl
  · rfl
  · rw [hsegment] at h
    exact h

/-- **The template, filled in, is the message.** Only an index or a segment with too many digits
keeps it from being filled in. -/
theorem fill_template (hindex : Path.isTooLong m.index = false) (hwritable : m.isWritable = true) :
    Template.fill template m.arguments = .ok m.message := by
  have hpieces : Template.pieces template.toList =
      "resolve: ".toList.map .char ++ .field { conversion := some 's' } ::
        (" at segment ".toList.map .char ++ .field { conversion := some 'd' } ::
          ([' '].map .char ++ [.field { conversion := some 'r' }])) := rfl
  have hsupply : Template.Supply.ofArguments m.arguments = ⟨m.arguments, none⟩ := rfl
  -- The pieces are filled in from the last one on.
  have hend : Template.fillPieces ⟨[], none⟩ [] = .ok [] := rfl
  have hsegment := Template.fillPieces_chars_append [' '] (Template.fillPieces_field_cons
    (Template.convert_display (isWritable_segmentValue hwritable)) hend)
  have hposition := Template.fillPieces_chars_append " at segment ".toList
    (Template.fillPieces_field_cons (Template.convert_nat hindex) hsegment)
  have hall := Template.fillPieces_chars_append "resolve: ".toList
    (Template.fillPieces_field_cons (Template.convert_text m.reason.text) hposition)
  rw [display_segmentValue, List.append_nil, List.singleton_append, ← toList_message] at hall
  rw [Template.fill, if_neg (by simp [arguments]), hsupply, hpieces, arguments, hall, Except.map,
    String.ofList_toList]

/-- A record about names can be written. -/
theorem IsAboutNames.isWritable (hm : m.IsAboutNames) : m.isWritable = true := by
  rw [Miss.isWritable]
  rcases hm with ⟨-, name, hname⟩ | ⟨-, hnone⟩
  · rw [hname]
    rfl
  · rw [hnone]
    rfl

/-- **What the console prints of a miss**: the level, the message as it is, and the place. -/
theorem printed_record (hm : m.IsAboutNames) (hindex : Path.isTooLong m.index = false)
    {pathname : String} {line : ℤ} (hplace : Text.IsInline (m.record pathname line).location) :
    (m.record pathname line).printed =
      .ok ("[DEBUG] " ++ m.message ++ " " ++ (m.record pathname line).location ++ "\n") := by
  have hmessage := isInline_message hm
  have hfill : (m.record pathname line).message = .ok m.message :=
    fill_template hindex hm.isWritable
  have hlabel : (m.record pathname line).label = "[DEBUG]" := rfl
  have hplain : (m.record pathname line).plain = .ok ("[DEBUG] " ++ m.message) := by
    rw [Record.plain, hfill, hlabel, Except.map, Console.sanitize_of_isInline hmessage]
    rfl
  have hwords : Text.IsInline "[DEBUG] " ∧ Text.IsInline " " :=
    ⟨Text.isInline_of_isPrintable (by decide), Text.isInline_of_isPrintable (by decide)⟩
  have hline : Text.IsInline
      ("[DEBUG] " ++ m.message ++ " " ++ (m.record pathname line).location) := by
    simp only [Text.isInline_append_iff]
    exact ⟨⟨⟨hwords.1, hmessage⟩, hwords.2⟩, hplace⟩
  rw [Record.printed, hplain, Except.map, Console.render_of_isInline hline]

end Miss

end SafeLookup
