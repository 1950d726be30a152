import SafeLookup.Proofs.Settings.Reading
import SafeLookup.Proofs.Text.LetterCase

/-!
# Words for Settings

Settings are read from words. White space at the ends of a text and the case of its ASCII letters do
not matter, and a blank text stands for the default. This module says which texts are read as what,
and which are refused, without putting anything into upper or lower case (`Text.SameLetters`).

* A flag is read from the eight words for flags and from nothing else (`readFlag_of_text`).
* A level is read from the names of the six levels (`readLevel_of_text`), in which a dotless i may
  stand for an i and a long s for an s: a level is compared in upper case, and there they are gone.

So of the characters outside ASCII only these two are ever accepted, and for levels only
(`not_isFlagText_of_not_isAscii`, `not_isLevelText_of_not_isAscii`).
-/

namespace SafeLookup.Settings

variable {name : String} {v w : Value} {t : String}

/-- **One of some words, or nothing**: the text is empty or has the letters of one of the words. -/
def IsOneOf (words : List String) (cs : List Char) : Prop :=
  cs = [] ∨ ∃ word ∈ words, Text.SameLetters cs word.toList

/-- **The texts for a flag**: blank ones, and the words for flags with white space around them. -/
def IsFlagText (t : String) : Prop :=
  IsOneOf ["1", "true", "yes", "on", "0", "false", "no", "off"] (Text.trim t.toList)

/-- **The texts for a level**: blank ones, and the names of levels with white space around them,
where a dotless i may stand for an i and a long s for an s. -/
def IsLevelText (t : String) : Prop :=
  IsOneOf ["CRITICAL", "ERROR", "WARNING", "INFO", "DEBUG", "NOTSET"]
    (Text.plain (Text.trim t.toList))

/-- A text is as good as none if it is blank. -/
theorem isBlank_text_iff (h : v.core = .text t) : IsBlank v ↔ Text.trim t.toList = [] := by
  rw [IsBlank, h]

/-! ### Reading a flag -/

/-- The words for a flag. -/
def flagWords : Bool → List String
  | true => onWords
  | false => offWords

/-- No word for a flag needs more than small ASCII letters, and none has a `k`. -/
theorem isSmall_of_mem_flagWords {flag : Bool} {word : String} (h : word ∈ flagWords flag) :
    Text.IsSmall word.toList := by
  have hon : ∀ word ∈ onWords, Text.IsSmall word.toList := by
    simp [onWords, Text.IsSmall, Char.isAscii]
  have hoff : ∀ word ∈ offWords, Text.IsSmall word.toList := by
    simp [offWords, Text.IsSmall, Char.isAscii]
  cases flag with
  | true => exact hon word h
  | false => exact hoff word h

/-- A word stands for the flag to whose words it belongs. -/
theorem flagOfWord?_eq_some_iff {word : String} {flag : Bool} :
    flagOfWord? word = some flag ↔ word ∈ flagWords flag := by
  have hdisjoint : ∀ word ∈ offWords, word ∉ onWords := by decide
  rw [flagOfWord?]
  simp only [List.contains_iff_mem]
  by_cases hon : word ∈ onWords
  · have hoff : word ∉ offWords := fun h => hdisjoint word h hon
    cases flag <;> simp [flagWords, hon, hoff]
  · by_cases hoff : word ∈ offWords
    · cases flag <;> simp [flagWords, hon, hoff]
    · cases flag <;> simp [flagWords, hon, hoff]

/-- A text stands for a flag if it has the letters of a word for it. -/
theorem flagOfText?_eq_some_iff {cs : List Char} {flag : Bool} :
    flagOfText? cs = some flag ↔
      ∃ word ∈ flagWords flag, Text.SameLetters (Text.trim cs) word.toList := by
  rw [flagOfText?, flagOfWord?_eq_some_iff]
  constructor
  · intro hmem
    refine ⟨_, hmem, (Text.lower_eq_iff (isSmall_of_mem_flagWords hmem)).mp ?_⟩
    exact String.toList_ofList.symm
  · rintro ⟨word, hmem, hsame⟩
    rw [(Text.lower_eq_iff (isSmall_of_mem_flagWords hmem)).mpr hsame, String.ofList_toList]
    exact hmem

/-- A value that is as good as none is read as the default. -/
theorem readFlag_of_isBlank (h : IsBlank v) (name : String) (default : Bool) :
    readFlag name v default = .ok default := by
  rw [IsBlank] at h
  rw [readFlag]
  cases hcore : v.core with
  | null => rfl
  | text t =>
      rw [hcore] at h
      simp only [h, List.isEmpty_nil, if_pos]
  | bytes os | buffer os =>
      rw [hcore] at h
      simp only [h, if_pos]
  | _ =>
      rw [hcore] at h
      exact h.elim

/-- **What a flag is read from**: a blank text as the default, and any other text as the flag that
it stands for. -/
theorem readFlag_eq_ok_iff {default flag : Bool} (h : v.core = .text t) :
    readFlag name v default = .ok flag ↔
      Text.trim t.toList = [] ∧ flag = default ∨
        Text.trim t.toList ≠ [] ∧ flagOfText? t.toList = some flag := by
  simp only [readFlag, h, List.isEmpty_iff]
  by_cases hblank : Text.trim t.toList = []
  · simp [hblank, eq_comm]
  · cases hflag : flagOfText? t.toList <;> simp [hblank]

/-! ### Reading a level -/

/-- A value that is as good as none is read as the default. -/
theorem readLevel_of_isBlank (h : IsBlank v) (name : String) (default : Level) :
    readLevel name v default = .ok default :=
  readLevel_eq_ok_iff.mpr (Or.inl ⟨h, rfl⟩)

/-- The name of a level is in capitals. -/
theorem isCapital_name (level : Level) : Text.IsCapital level.name.toList := by
  constructor
  · cases level <;> simp [Level.name]
  · cases level <;> decide

/-- A text stands for a level if it has the letters of its name when it is plain. -/
theorem levelOfText?_eq_some_iff_sameLetters {cs : List Char} {level : Level} :
    levelOfText? cs = some level ↔
      Text.SameLetters (Text.plain (Text.trim cs)) level.name.toList := by
  rw [levelOfText?_eq_some_iff, ← Text.upper_eq_iff (isCapital_name level)]
  constructor
  · intro h
    rw [h, String.toList_ofList]
  · intro h
    rw [h, String.ofList_toList]

/-! ### What is accepted -/

/-- **Accepted exactly if** `p` holds, and refused with the error `e` otherwise. -/
def AcceptedIff {α : Type} (p : Prop) (result : Except SettingError α) (e : SettingError) : Prop :=
  p ∧ (∃ a, result = .ok a) ∨ ¬p ∧ result = .error e

/-- What is accepted exactly if `p` holds has a result exactly then. -/
theorem AcceptedIff.iff {α : Type} {p : Prop} {result : Except SettingError α} {e : SettingError}
    (h : AcceptedIff p result e) : p ↔ ∃ a, result = .ok a := by
  rcases h with ⟨hp, ha⟩ | ⟨hp, rfl⟩
  · exact ⟨fun _ => ha, fun _ => hp⟩
  · exact ⟨fun h => absurd h hp, by rintro ⟨a, ⟨⟩⟩⟩

/-- What is done with the result changes nothing about that. -/
theorem AcceptedIff.map {α β : Type} {p : Prop} {result : Except SettingError α}
    {e : SettingError} (h : AcceptedIff p result e) (f : α → β) :
    AcceptedIff p (result.map f) e := by
  rcases h with ⟨hp, a, rfl⟩ | ⟨hp, rfl⟩
  · exact Or.inl ⟨hp, f a, rfl⟩
  · exact Or.inr ⟨hp, rfl⟩

/-- What is as good as none is accepted, and of the rest what stands for something. -/
theorem acceptedIff_of_option {α : Type} {blank : Prop} {stands : Option α}
    {result : Except SettingError α} {e : SettingError} (hblank : blank → ∃ a, result = .ok a)
    (hstands : ¬blank → result = stands.elim (.error e) .ok) :
    AcceptedIff (blank ∨ ∃ a, stands = some a) result e := by
  by_cases h : blank
  · exact Or.inl ⟨Or.inl h, hblank h⟩
  · rw [hstands h]
    cases stands with
    | none => exact Or.inr ⟨by simp [h], rfl⟩
    | some a => exact Or.inl ⟨Or.inr ⟨a, rfl⟩, a, rfl⟩

/-- The texts for a flag are the blank ones and those that stand for one. -/
theorem isFlagText_iff (h : v.core = .text t) :
    IsFlagText t ↔ IsBlank v ∨ ∃ flag, flagOfText? t.toList = some flag := by
  have hwords : ∀ p : String → Prop,
      (∃ word ∈ onWords ++ offWords, p word) ↔ ∃ flag, ∃ word ∈ flagWords flag, p word := by
    intro p
    simp only [List.mem_append, or_and_right, exists_or, Bool.exists_bool, flagWords]
    exact or_comm
  simp only [isBlank_text_iff h, flagOfText?_eq_some_iff, ← hwords]
  rfl

/-- The texts for a level are the blank ones and those that stand for one. -/
theorem isLevelText_iff (h : v.core = .text t) :
    IsLevelText t ↔ IsBlank v ∨ ∃ level, levelOfText? t.toList = some level := by
  have hplain : Text.plain (Text.trim t.toList) = [] ↔ Text.trim t.toList = [] :=
    List.map_eq_nil_iff
  have hnames : (∃ word ∈ ["CRITICAL", "ERROR", "WARNING", "INFO", "DEBUG", "NOTSET"],
      Text.SameLetters (Text.plain (Text.trim t.toList)) word.toList) ↔
        ∃ level : Level, Text.SameLetters (Text.plain (Text.trim t.toList)) level.name.toList := by
    constructor
    · rintro ⟨word, hmem, hsame⟩
      have hlevel : ∃ level : Level, level.name = word := by
        simp only [List.mem_cons, List.not_mem_nil, or_false] at hmem
        rcases hmem with rfl | rfl | rfl | rfl | rfl | rfl
        exacts [⟨.critical, rfl⟩, ⟨.error, rfl⟩, ⟨.warning, rfl⟩, ⟨.info, rfl⟩, ⟨.debug, rfl⟩,
          ⟨.notset, rfl⟩]
      obtain ⟨level, rfl⟩ := hlevel
      exact ⟨level, hsame⟩
    · rintro ⟨level, hsame⟩
      exact ⟨level.name, by cases level <;> decide, hsame⟩
  rw [isBlank_text_iff h, IsLevelText, IsOneOf, hplain, hnames]
  simp only [levelOfText?_eq_some_iff_sameLetters]

/-- **A flag is read from the texts for flags**, and any other text is refused. -/
theorem readFlag_of_text (h : v.core = .text t) (name : String) (default : Bool) :
    AcceptedIff (IsFlagText t) (readFlag name v default) (.rejected name v expectedFlag) := by
  rw [isFlagText_iff h]
  refine acceptedIff_of_option
    (fun hblank => ⟨default, readFlag_of_isBlank hblank name default⟩) fun hblank => ?_
  have htrim : Text.trim t.toList ≠ [] := mt (isBlank_text_iff h).mpr hblank
  cases hflag : flagOfText? t.toList <;> simp [readFlag, h, htrim, hflag]

/-- **A level is read from the texts for levels**, and any other text is refused. -/
theorem readLevel_of_text (h : v.core = .text t) (name : String) (default : Level) :
    AcceptedIff (IsLevelText t) (readLevel name v default) (.rejected name v expectedLevel) := by
  rw [isLevelText_iff h]
  refine acceptedIff_of_option
    (fun hblank => ⟨default, readLevel_of_isBlank hblank name default⟩) fun hblank => ?_
  have htrim : Text.trim t.toList ≠ [] := mt (isBlank_text_iff h).mpr hblank
  cases hlevel : levelOfText? t.toList <;> simp [readLevel, h, htrim, hlevel]

/-! ### Characters outside ASCII -/

/-- What is one of some words in ASCII is in ASCII. -/
theorem IsOneOf.isAscii {words : List String} {cs : List Char} (h : IsOneOf words cs)
    (hwords : ∀ word ∈ words, ∀ d ∈ word.toList, d.isAscii = true) {c : Char} (hc : c ∈ cs) :
    c.isAscii = true := by
  rcases h with rfl | ⟨word, hword, hsame⟩
  · cases hc
  · exact hsame.isAscii (hwords word hword) hc

/-- A text with a character outside ASCII is no text for a flag. -/
theorem not_isFlagText_of_not_isAscii {c : Char} (hc : c ∈ Text.trim t.toList)
    (hascii : c.isAscii = false) : ¬IsFlagText t := by
  intro h
  have hc := h.isAscii (by simp [Char.isAscii]) hc
  rw [hascii] at hc
  cases hc

/-- A text with a character outside ASCII is no text for a level, unless that is a dotless i or a
long s. -/
theorem not_isLevelText_of_not_isAscii {c : Char} (hc : c ∈ Text.trim t.toList)
    (hascii : c.isAscii = false) (hi : c ≠ 'ı') (hs : c ≠ 'ſ') : ¬IsLevelText t := by
  intro h
  have hplain : c ∈ Text.plain (Text.trim t.toList) := by
    rw [← Text.plainChar_of_ne hi hs]
    exact List.mem_map_of_mem hc
  have hc := h.isAscii (by simp [Char.isAscii]) hplain
  rw [hascii] at hc
  cases hc

end SafeLookup.Settings
