import SafeLookup.Proofs.Settings.Words

/-!
# Settings from the Environment

An environment gives each of three variables a text, or nothing, and the settings are made of what
is read from them. Each variable is accepted or refused on its own (`Accepts`), and if one is
refused, the first of them in order is reported (`FirstRefused`). Nothing else can happen
(`ofEnvironment_cases`): what was read from the variables is not refused when the settings are made.

Readers do not see the white space around a text, the case of its ASCII letters, or whether a
variable is blank or absent (`Alike`). So environments that agree up to that make the same settings
or report the same variable (`ofEnvironment_alike`).

Which texts are accepted is no more than which words are, white space and letter case aside, with
one exception: the name of a level may have a dotless i or a long s in it (`texts_accepted`,
`not_forall_level_documented`).
-/

namespace SafeLookup.Settings

variable {environment e e' : List (String × Value)} {name other : String} {v w : Value} {t : String}

/-- The variables of the environment that make settings, in the order in which they are read. -/
def variableNames : List String := [traceVariable, attributeVariable, levelVariable]

theorem mem_variableNames_iff :
    name ∈ variableNames ↔
      name = traceVariable ∨ name = attributeVariable ∨ name = levelVariable := by
  simp [variableNames]

/-- What an environment gives for a variable, `null` if nothing. -/
def given (environment : List (String × Value)) (name : String) : Value :=
  (environment.lookup name).getD .null

/-- A value that can stand in an environment: a text, or one that is as good as none. -/
def IsGiven (v : Value) : Prop := IsBlank v ∨ ∃ t, v.core = .text t

/-- **What a variable accepts**: nothing, a blank text, and the texts for it. -/
inductive Accepts : String → Value → Prop
  | blank {name : String} {v : Value} : IsBlank v → Accepts name v
  | flag {name : String} {v : Value} {t : String} :
      name ≠ levelVariable → v.core = .text t → IsFlagText t → Accepts name v
  | level {v : Value} {t : String} :
      v.core = .text t → IsLevelText t → Accepts levelVariable v

/-- What a variable is expected to be. -/
def expectedBy (name : String) : String :=
  if name = levelVariable then expectedLevel else expectedFlag

/-- **The first variable that is refused**: all variables in front of it are accepted. -/
def FirstRefused (environment : List (String × Value)) (name : String) : Prop :=
  ∃ i, variableNames[i]? = some name ∧
    (∀ other ∈ variableNames.take i, Accepts other (given environment other)) ∧
    ¬Accepts name (given environment name)

/-- Only one variable is the first that is refused. -/
theorem FirstRefused.unique (h : FirstRefused environment name)
    (h' : FirstRefused environment other) : name = other := by
  obtain ⟨i, hname, hbefore, hrefused⟩ := h
  obtain ⟨j, hother, hbefore', hrefused'⟩ := h'
  rcases Nat.lt_trichotomy i j with hlt | rfl | hlt
  · have hmem := List.mem_of_getElem? ((List.getElem?_take_of_lt hlt).trans hname)
    exact absurd (hbefore' name hmem) hrefused
  · exact Option.some.inj (hname.symm.trans hother)
  · have hmem := List.mem_of_getElem? ((List.getElem?_take_of_lt hlt).trans hother)
    exact absurd (hbefore other hmem) hrefused'

/-! ### One variable -/

/-- What is accepted can stand in an environment. -/
theorem Accepts.isGiven (h : Accepts name v) : IsGiven v := by
  cases h with
  | blank hblank => exact Or.inl hblank
  | flag _ ht _ => exact Or.inr ⟨_, ht⟩
  | level ht _ => exact Or.inr ⟨_, ht⟩

/-- The variables for flags accept the texts for flags. -/
theorem accepts_flag_iff (hname : name ≠ levelVariable) (h : v.core = .text t) :
    Accepts name v ↔ IsFlagText t := by
  constructor
  · intro haccepts
    cases haccepts with
    | blank hblank => exact Or.inl ((isBlank_text_iff h).mp hblank)
    | flag _ ht hflag =>
        obtain rfl := Value.text.inj (ht.symm.trans h)
        exact hflag
    | level => exact absurd rfl hname
  · exact Accepts.flag hname h

/-- The variable for the level accepts the texts for levels. -/
theorem accepts_level_iff (h : v.core = .text t) : Accepts levelVariable v ↔ IsLevelText t := by
  constructor
  · intro haccepts
    cases haccepts with
    | blank hblank =>
        exact Or.inl (List.map_eq_nil_iff.mpr ((isBlank_text_iff h).mp hblank))
    | flag hname => exact absurd rfl hname
    | level ht hlevel =>
        obtain rfl := Value.text.inj (ht.symm.trans h)
        exact hlevel
  · exact Accepts.level h

/-- **A flag is read from what its variable accepts**, and anything else is refused. -/
theorem readFlag_of_isGiven (h : IsGiven v) (hname : name ≠ levelVariable) (default : Bool) :
    AcceptedIff (Accepts name v) (readFlag name v default) (.rejected name v expectedFlag) := by
  rcases h with hblank | ⟨t, ht⟩
  · exact Or.inl ⟨.blank hblank, default, readFlag_of_isBlank hblank name default⟩
  · rw [accepts_flag_iff hname ht]
    exact readFlag_of_text ht name default

/-- **A level is read from what its variable accepts**, and anything else is refused. -/
theorem readLevel_of_isGiven (h : IsGiven v) (default : Level) :
    AcceptedIff (Accepts levelVariable v) (readLevel levelVariable v default)
      (.rejected levelVariable v expectedLevel) := by
  rcases h with hblank | ⟨t, ht⟩
  · exact Or.inl ⟨.blank hblank, default, readLevel_of_isBlank hblank levelVariable default⟩
  · rw [accepts_level_iff ht]
    exact readLevel_of_text ht levelVariable default

/-! ### All variables -/

/-- The variables are read in order, and the settings are made of what was read. -/
theorem ofEnvironment_eq_given (environment : List (String × Value)) :
    ofEnvironment environment = (do
      let trace ← readFlag traceVariable (given environment traceVariable) false
      let attributes ← readFlag attributeVariable (given environment attributeVariable) true
      let level ← readLevel levelVariable (given environment levelVariable) .warning
      return ⟨.bool trace, .bool attributes, level⟩) :=
  ofEnvironment_eq environment

/-- **What an environment comes to**: if all variables are accepted, the settings that are made of
what is read from them; otherwise the error of the first that is refused. -/
theorem ofEnvironment_cases
    (h : ∀ name ∈ variableNames, IsGiven (given environment name)) :
    ((∀ name ∈ variableNames, Accepts name (given environment name)) ∧
      ∃ trace attributes level,
        readFlag traceVariable (given environment traceVariable) false = .ok trace ∧
        readFlag attributeVariable (given environment attributeVariable) true = .ok attributes ∧
        readLevel levelVariable (given environment levelVariable) .warning = .ok level ∧
        ofEnvironment environment = .ok ⟨.bool trace, .bool attributes, level⟩) ∨
    ∃ name, FirstRefused environment name ∧
      ofEnvironment environment =
        .error (.rejected name (given environment name) (expectedBy name)) := by
  have hflags : traceVariable ≠ levelVariable ∧ attributeVariable ≠ levelVariable := by decide
  rw [ofEnvironment_eq_given]
  simp only [variableNames, List.forall_mem_cons] at h
  obtain ⟨hgivenTrace, hgivenAttributes, hgivenLevel, -⟩ := h
  rcases readFlag_of_isGiven hgivenTrace hflags.1 false with
    ⟨htrace, trace, hreadTrace⟩ | ⟨htrace, hreadTrace⟩
  swap
  · refine Or.inr ⟨traceVariable, ⟨0, rfl, by simp, htrace⟩, ?_⟩
    rw [hreadTrace]
    rfl
  rcases readFlag_of_isGiven hgivenAttributes hflags.2 true with
    ⟨hattributes, attributes, hreadAttributes⟩ | ⟨hattributes, hreadAttributes⟩
  swap
  · refine Or.inr ⟨attributeVariable, ⟨1, rfl, by simpa [variableNames] using htrace,
      hattributes⟩, ?_⟩
    rw [hreadTrace, hreadAttributes]
    rfl
  rcases readLevel_of_isGiven hgivenLevel .warning with
    ⟨hlevel, level, hreadLevel⟩ | ⟨hlevel, hreadLevel⟩
  · refine Or.inl ⟨by simp [variableNames, htrace, hattributes, hlevel], trace, attributes, level,
      hreadTrace, hreadAttributes, hreadLevel, ?_⟩
    rw [hreadTrace, hreadAttributes, hreadLevel]
    rfl
  · refine Or.inr ⟨levelVariable, ⟨2, rfl, by simp [variableNames, htrace, hattributes],
      hlevel⟩, ?_⟩
    rw [hreadTrace, hreadAttributes, hreadLevel]
    rfl

/-- **One variable decides if the others are accepted**: the settings are made exactly if it is
accepted too, and otherwise it is reported. -/
theorem ofEnvironment_of_others (hname : name ∈ variableNames)
    (hgiven : IsGiven (given environment name))
    (hothers : ∀ other ∈ variableNames, other ≠ name → Accepts other (given environment other)) :
    AcceptedIff (Accepts name (given environment name)) (ofEnvironment environment)
      (.rejected name (given environment name) (expectedBy name)) := by
  have hall : ∀ other ∈ variableNames, IsGiven (given environment other) := by
    intro other hmem
    by_cases hother : other = name
    · exact hother ▸ hgiven
    · exact (hothers other hmem hother).isGiven
  rcases ofEnvironment_cases hall with
    ⟨haccepted, trace, attributes, level, -, -, -, hmade⟩ | ⟨first, hfirst, hrefused⟩
  · exact Or.inl ⟨haccepted name hname, _, hmade⟩
  · obtain ⟨i, hmem, -, hnot⟩ := hfirst
    have hsame : first = name := by
      by_contra hne
      exact hnot (hothers first (List.mem_of_getElem? hmem) hne)
    subst hsame
    exact Or.inr ⟨hnot, hrefused⟩

/-! ### Environments that read alike -/

/-- **Values that read alike**: both are as good as none, or both are texts that have the same
letters up to the white space at their ends and the case of ASCII letters. -/
inductive Alike : Value → Value → Prop
  | blank {v w : Value} : IsBlank v → IsBlank w → Alike v w
  | text {v w : Value} {a b : String} :
      v.core = .text a → w.core = .text b →
      Text.SameLetters (Text.trim a.toList) (Text.trim b.toList) → Alike v w

namespace Alike

/-- Reading alike goes both ways. -/
theorem symm (h : Alike v w) : Alike w v := by
  cases h with
  | blank hv hw => exact .blank hw hv
  | text ha hb hsame => exact .text hb ha hsame.symm

/-- What reads like something can stand in an environment. -/
theorem isGiven (h : Alike v w) : IsGiven v := by
  cases h with
  | blank hv => exact Or.inl hv
  | text ha => exact Or.inr ⟨_, ha⟩

/-- Values that read alike are read as the same flag. -/
theorem readFlag_eq_ok {default flag : Bool} (h : Alike v w)
    (hv : readFlag name v default = .ok flag) : readFlag name w default = .ok flag := by
  cases h with
  | blank hblank hblank' =>
      rw [readFlag_of_isBlank hblank] at hv
      rw [readFlag_of_isBlank hblank', hv]
  | text ha hb hsame =>
      rw [readFlag_eq_ok_iff ha, flagOfText?, Ne, hsame.eq_nil_iff, hsame.lower_eq] at hv
      exact (readFlag_eq_ok_iff hb).mpr hv

/-- Values that read alike are read as the same level. -/
theorem readLevel_eq_ok {default level : Level} (h : Alike v w)
    (hv : readLevel name v default = .ok level) : readLevel name w default = .ok level := by
  cases h with
  | blank hblank hblank' =>
      rw [readLevel_of_isBlank hblank] at hv
      rw [readLevel_of_isBlank hblank', hv]
  | text ha hb hsame =>
      rw [readLevel_eq_ok_iff] at hv ⊢
      rcases hv with ⟨hblank, rfl⟩ | ⟨t, ht, hne, hname⟩
      · rw [isBlank_text_iff ha, hsame.eq_nil_iff, ← isBlank_text_iff hb] at hblank
        exact Or.inl ⟨hblank, rfl⟩
      · obtain rfl := Value.text.inj (ha.symm.trans ht)
        rw [hsame.upper_eq] at hname
        exact Or.inr ⟨_, hb, mt hsame.eq_nil_iff.mpr hne, hname⟩

/-- Values that read alike are accepted together. -/
theorem accepts (h : Alike v w) (hv : Accepts name v) : Accepts name w := by
  by_cases hname : name = levelVariable
  · subst hname
    obtain ⟨level, hlevel⟩ := ((readLevel_of_isGiven h.isGiven .warning).iff).mp hv
    exact ((readLevel_of_isGiven h.symm.isGiven .warning).iff).mpr ⟨level, h.readLevel_eq_ok hlevel⟩
  · obtain ⟨flag, hflag⟩ := ((readFlag_of_isGiven h.isGiven hname false).iff).mp hv
    exact ((readFlag_of_isGiven h.symm.isGiven hname false).iff).mpr
      ⟨flag, h.readFlag_eq_ok hflag⟩

end Alike

/-- The first variable that is refused is the first one in any environment that reads alike. -/
theorem FirstRefused.of_alike
    (h : ∀ name ∈ variableNames, Alike (given e name) (given e' name))
    (hfirst : FirstRefused e name) : FirstRefused e' name := by
  obtain ⟨i, hname, hbefore, hrefused⟩ := hfirst
  refine ⟨i, hname, fun other hother => ?_, fun haccepts => hrefused ?_⟩
  · exact (h other (List.mem_of_mem_take hother)).accepts (hbefore other hother)
  · exact (h name (List.mem_of_getElem? hname)).symm.accepts haccepts

/-- **Environments that read alike** make the same settings or are refused for the same variable,
whatever other variables they hold.

* They make settings exactly if all three variables are accepted.
* Otherwise the variable is the first in order that is not accepted: for tracing, for attributes,
  for the level. Each environment shows what it gives for it.
* A level that was read is handed over by its name, and that is never refused when the settings are
  made, whatever the flags. -/
theorem ofEnvironment_alike (h : ∀ name ∈ variableNames, Alike (given e name) (given e' name)) :
    ((∃ s, ofEnvironment e = .ok s ∧ ofEnvironment e' = .ok s ∧
        ∀ name ∈ variableNames,
          Accepts name (given e name) ∧ Accepts name (given e' name)) ∨
      ∃ name, FirstRefused e name ∧ FirstRefused e' name ∧
        ofEnvironment e = .error (.rejected name (given e name) (expectedBy name)) ∧
        ofEnvironment e' = .error (.rejected name (given e' name) (expectedBy name))) ∧
    ∀ (level : Level) (trace attributes : Value),
      ofFields [(traceName, trace), (attributeName, attributes), (levelName, .text level.name)] =
        .ok ⟨trace, attributes, level⟩ := by
  have hgiven : ∀ name ∈ variableNames, IsGiven (given e name) :=
    fun name hname => (h name hname).isGiven
  have hgiven' : ∀ name ∈ variableNames, IsGiven (given e' name) :=
    fun name hname => (h name hname).symm.isGiven
  refine ⟨?_, fun level trace attributes => ofFields_entries ⟨trace, attributes, level⟩⟩
  rcases ofEnvironment_cases hgiven with
    ⟨haccepted, trace, attributes, level, htrace, hattributes, hlevel, hmade⟩ |
      ⟨name, hfirst, hrefused⟩
  · have hmem : ∀ i name, variableNames[i]? = some name → name ∈ variableNames :=
      fun i name => List.mem_of_getElem?
    have htrace' := (h traceVariable (hmem 0 _ rfl)).readFlag_eq_ok htrace
    have hattributes' := (h attributeVariable (hmem 1 _ rfl)).readFlag_eq_ok hattributes
    have hlevel' := (h levelVariable (hmem 2 _ rfl)).readLevel_eq_ok hlevel
    refine Or.inl ⟨_, hmade, ?_, fun name hname => ?_⟩
    · rw [ofEnvironment_eq_given, htrace', hattributes', hlevel']
      rfl
    · exact ⟨haccepted name hname, (h name hname).accepts (haccepted name hname)⟩
  · have hfirst' := hfirst.of_alike h
    refine Or.inr ⟨name, hfirst, hfirst', hrefused, ?_⟩
    rcases ofEnvironment_cases hgiven' with ⟨haccepted, -⟩ | ⟨other, hother, hrefused'⟩
    · obtain ⟨i, hname, -, hnot⟩ := hfirst'
      exact absurd (haccepted name (List.mem_of_getElem? hname)) hnot
    · obtain rfl := hother.unique hfirst'
      exact hrefused'

/-- A blank variable against an absent one, and two spellings of a flag that is none. The level is
refused as well, but it comes later. -/
theorem ofEnvironment_alike_maybe :
    let e : List (String × Value) :=
      [("FALLBACK_VALUE_LOG_LEVEL", .text "LOUD"), ("FALLBACK_VALUE_TRACE", .text " \t"),
        ("FALLBACK_VALUE_ATTRIBUTE_ACCESS", .text " Maybe\n"), ("HOME", .text "/root")]
    let e' : List (String × Value) :=
      [("FALLBACK_VALUE_ATTRIBUTE_ACCESS", .text "mAYBE"),
        ("FALLBACK_VALUE_LOG_LEVEL", .text " loud ")]
    (∀ name ∈ variableNames, Alike (given e name) (given e' name)) ∧
      ofEnvironment e =
        .error (.rejected attributeVariable (.text " Maybe\n") expectedFlag) ∧
      ofEnvironment e' = .error (.rejected attributeVariable (.text "mAYBE") expectedFlag) := by
  intro e e'
  have halike : ∀ name ∈ variableNames, Alike (given e name) (given e' name) := by
    simp only [variableNames, List.forall_mem_cons]
    refine ⟨?_, ?_, ?_, by simp⟩
    · exact .blank (show Text.trim " \t".toList = [] by decide) trivial
    · exact .text (a := " Maybe\n") (b := "mAYBE") rfl rfl (by decide)
    · exact .text (a := "LOUD") (b := " loud ") rfl rfl (by decide)
  have hrefused :
      ofEnvironment e = .error (.rejected attributeVariable (.text " Maybe\n") expectedFlag) := rfl
  refine ⟨halike, hrefused, ?_⟩
  rcases (ofEnvironment_alike halike).1 with ⟨s, hmade, -⟩ | ⟨name, -, -, he, he'⟩
  · rw [hrefused] at hmade
    cases hmade
  · rw [hrefused] at he
    injection he with he
    injection he with hname
    subst hname
    exact he'

/-! ### Which texts are accepted -/

/-- **Texts for settings are accepted as documented, but for two characters.** Whatever a text is,

* a variable for a flag accepts it exactly if, without the white space at its ends and the case of
  its ASCII letters aside, it is one of the eight words for flags or empty;
* the variable for the level, and an assignment of a level, accept it exactly if in the same way it
  is the name of a level or empty, where a dotless i counts as an i and a long s as an s;
* anything else is refused, and the error names the variable and shows the text.

A character outside ASCII is left in no text that is accepted, except for these two in the name of a
level. Texts without them are accepted as levels exactly if they are names of levels or blank. -/
theorem texts_accepted (raw : String) :
    (∀ name ∈ [traceVariable, attributeVariable], ∀ environment : List (String × Value),
      given environment name = .text raw →
      (∀ other ∈ variableNames, other ≠ name → Accepts other (given environment other)) →
      AcceptedIff
        (IsOneOf ["1", "true", "yes", "on", "0", "false", "no", "off"] (Text.trim raw.toList))
        (ofEnvironment environment) (.rejected name (.text raw) expectedFlag)) ∧
    (∀ environment : List (String × Value),
      given environment levelVariable = .text raw →
      (∀ other ∈ variableNames, other ≠ levelVariable →
        Accepts other (given environment other)) →
      AcceptedIff
        (IsOneOf ["CRITICAL", "ERROR", "WARNING", "INFO", "DEBUG", "NOTSET"]
          (Text.plain (Text.trim raw.toList)))
        (ofEnvironment environment) (.rejected levelVariable (.text raw) expectedLevel)) ∧
    (∀ s : Settings,
      AcceptedIff
        (IsOneOf ["CRITICAL", "ERROR", "WARNING", "INFO", "DEBUG", "NOTSET"]
          (Text.plain (Text.trim raw.toList)))
        (s.assign levelName (.text raw)) (.rejected levelName (.text raw) expectedLevel)) ∧
    (∀ c ∈ Text.trim raw.toList, c.isAscii = false →
      ¬IsFlagText raw ∧ (c ≠ 'ı' → c ≠ 'ſ' → ¬IsLevelText raw)) ∧
    ('ı' ∉ Text.trim raw.toList → 'ſ' ∉ Text.trim raw.toList →
      (IsLevelText raw ↔
        IsOneOf ["CRITICAL", "ERROR", "WARNING", "INFO", "DEBUG", "NOTSET"]
          (Text.trim raw.toList))) := by
  have hcore : (Value.text raw).core = .text raw := rfl
  refine ⟨fun name hname environment hraw hothers => ?_, fun environment hraw hothers => ?_,
    fun s => (readLevel_of_text hcore levelName .warning).map _,
    fun c hc hascii => ⟨?_, fun hi hs => ?_⟩, fun hi hs => ?_⟩
  · have hflag : name ∈ variableNames ∧ name ≠ levelVariable ∧ expectedBy name = expectedFlag := by
      simp only [List.mem_cons, List.not_mem_nil, or_false] at hname
      rcases hname with rfl | rfl <;> decide
    obtain ⟨hmem, hne, hexpected⟩ := hflag
    have haccepted := ofEnvironment_of_others hmem (hraw ▸ Or.inr ⟨raw, hcore⟩) hothers
    rw [hraw, accepts_flag_iff hne hcore, hexpected] at haccepted
    exact haccepted
  · have haccepted := ofEnvironment_of_others (by decide) (hraw ▸ Or.inr ⟨raw, hcore⟩) hothers
    rw [hraw, accepts_level_iff hcore] at haccepted
    exact haccepted
  · exact not_isFlagText_of_not_isAscii hc hascii
  · exact not_isLevelText_of_not_isAscii hc hascii hi hs
  · rw [IsLevelText, Text.plain_eq_self hi hs]

/-- The name of a level with a dotless i, with white space around it: it is accepted as a level, and
as a flag it is refused. -/
theorem texts_accepted_dotless :
    let raw := " ıNfo\t"
    (∃ s, ofEnvironment [(traceVariable, .text "on"), (levelVariable, .text raw)] = .ok s) ∧
      ofEnvironment [(attributeVariable, .text raw), (levelVariable, .text raw)] =
        .error (.rejected attributeVariable (.text raw) expectedFlag) := by
  intro raw
  obtain ⟨hflags, hlevels, -, houtside, -⟩ := texts_accepted raw
  have hlevel : IsLevelText raw := Or.inr ⟨"INFO", by simp, by decide⟩
  have hflag : ¬IsFlagText raw := (houtside 'ı' (by decide) (by simp [Char.isAscii])).1
  constructor
  · refine (hlevels _ rfl fun other hmem hne => ?_).iff.mp hlevel
    rcases mem_variableNames_iff.mp hmem with rfl | rfl | rfl
    · exact .flag hne rfl (Or.inr ⟨"on", by simp, rfl⟩)
    · exact .blank trivial
    · exact absurd rfl hne
  · refine ((hflags attributeVariable (by simp) _ rfl fun other hmem hne => ?_).resolve_left
      fun h => hflag h.1).2
    rcases mem_variableNames_iff.mp hmem with rfl | rfl | rfl
    · exact .blank trivial
    · exact absurd rfl hne
    · exact .level rfl hlevel

/-- Levels are not only read from texts that are names of levels, the case of ASCII letters aside: a
dotless i is put into upper case before it is compared. -/
theorem not_forall_level_documented :
    ¬∀ raw : String,
      (∃ s, ofEnvironment [(levelVariable, .text raw)] = .ok s) ↔
        IsOneOf ["CRITICAL", "ERROR", "WARNING", "INFO", "DEBUG", "NOTSET"]
          (Text.trim raw.toList) := by
  intro h
  have hmade : ofEnvironment [(levelVariable, .text "ınfo")] = .ok { logLevel := .info } := rfl
  have hdocumented := (h "ınfo").mp ⟨_, hmade⟩
  have hascii : 'ı'.isAscii = true :=
    hdocumented.isAscii (by simp [Char.isAscii]) (show 'ı' ∈ Text.trim "ınfo".toList by decide)
  cases hascii

end SafeLookup.Settings
