import SafeLookup.Log.Logger
import SafeLookup.Settings.Basic

/-!
# Levels That Are Read and Written

A level is read from a text in any letter case and written by its name. Reading puts the text into
upper case, white space at its ends aside, and takes the level of that name (`Settings.Names`). A
value that is as good as none has the default instead (`Settings.IsBlank`), and everything else is
refused (`readLevel_eq_ok_iff`). That goes for all the places where a level enters the settings: a
field, a variable of the environment, and an assignment (`Settings.MadeFrom`).

So the name of a level is read as that level (`readLevel_name`), and settings can be written down
field by field and made again from what was written (`ofFields_entries`).
-/

namespace SafeLookup

/-! ### The names of levels -/

/-- A level is found under its name and under no other. -/
theorem Level.ofName?_eq_some_iff {name : String} {level : Level} :
    Level.ofName? name = some level ↔ name = level.name := by
  constructor
  · intro h
    have hname := List.find?_some h
    exact (beq_iff_eq.mp hname).symm
  · rintro rfl
    cases level <;> rfl

/-- The name of a level stands for the threshold with its number. -/
theorem Threshold.ofName?_name (level : Level) :
    Threshold.ofName? level.name = some (.number level.number) := by
  cases level <;> rfl

namespace Settings

/-! ### Reading a level -/

/-- The values that are as good as none: `null`, and texts and octets of nothing but white space. -/
def IsBlank (v : Value) : Prop :=
  match v.core with
  | .null => True
  | .text s => Text.trim s.toList = []
  | .bytes os | .buffer os => os.all Text.isBlankOctet = true
  | _ => False

/-- A text that is not blank **names a level** if it is the level's name in upper case, white space
at its ends aside. -/
def Names (v : Value) (level : Level) : Prop :=
  ∃ t, v.core = .text t ∧ Text.trim t.toList ≠ [] ∧
    level.name = String.ofList (Text.upper (Text.trim t.toList))

/-- The level that a text stands for is the one that it names. -/
theorem levelOfText?_eq_some_iff {cs : List Char} {level : Level} :
    levelOfText? cs = some level ↔ level.name = String.ofList (Text.upper (Text.trim cs)) := by
  rw [levelOfText?, Level.ofName?_eq_some_iff]
  exact eq_comm

/-- A value **reads as a level**: one that is as good as none as the default, and a text as the
level that it names. -/
def ReadsAs (v : Value) (default level : Level) : Prop :=
  IsBlank v ∧ level = default ∨ Names v level

/-- **What a level is read from**: the values that read as it. Everything else is refused. -/
theorem readLevel_eq_ok_iff {name : String} {v : Value} {default level : Level} :
    readLevel name v default = .ok level ↔ ReadsAs v default level := by
  have hdefault : default = level ↔ level = default := eq_comm
  rw [readLevel, ReadsAs, IsBlank, Names]
  cases v.core with
  | null => simp [hdefault]
  | text t =>
      simp only [List.isEmpty_iff]
      split
      next hblank => simp [hblank, hdefault]
      next hblank =>
        have hnames := @levelOfText?_eq_some_iff t.toList level
        cases hlevel : levelOfText? t.toList with
        | none =>
            rw [hlevel] at hnames
            simp [hblank, ← hnames]
        | some found =>
            rw [hlevel] at hnames
            simp [hblank, ← hnames]
  | bytes os | buffer os =>
      dsimp only
      split
      next hblank => simp [hblank, hdefault]
      next hblank => simp [hblank]
  | _ => simp

/-- **The name of a level is read as that level.** -/
theorem readLevel_name (name : String) (default level : Level) :
    readLevel name (.text level.name) default = .ok level := by
  rw [readLevel_eq_ok_iff]
  exact Or.inr ⟨level.name, rfl, by cases level <;> decide, by cases level <;> decide⟩

/-! ### Settings field by field -/

/-- Settings field by field, as they can be assigned: the flags with their values and the level with
its name. -/
def entries (s : Settings) : List (String × Value) :=
  [(traceName, s.traceFailures), (attributeName, s.attributeAccess),
    (levelName, .text s.logLevel.name)]

/-- **Settings that were written down are made again.** So there are no settings but those that can
be made from fields. -/
theorem ofFields_entries (s : Settings) : ofFields s.entries = .ok s := by
  have htrace : field? s.entries traceName = some s.traceFailures := rfl
  have hattributes : field? s.entries attributeName = some s.attributeAccess := rfl
  have hlevel : field? s.entries levelName = some (.text s.logLevel.name) := rfl
  have hknown : unknownField? s.entries = none := rfl
  rw [ofFields, hknown]
  dsimp only
  rw [htrace, hattributes, hlevel, Option.getD_some, readLevel_name]
  rfl

/-- **Settings are made from an environment** by reading its variables. What was read is accepted
when it is handed over. -/
theorem ofEnvironment_eq (environment : List (String × Value)) :
    ofEnvironment environment = (do
      let raw := fun name => (environment.lookup name).getD .null
      let trace ← readFlag traceVariable (raw traceVariable) false
      let attributes ← readFlag attributeVariable (raw attributeVariable) true
      let level ← readLevel levelVariable (raw levelVariable) .warning
      return ⟨.bool trace, .bool attributes, level⟩) := by
  have hfields : ∀ (trace attributes : Bool) (level : Level),
      ofFields [(traceName, .bool trace), (attributeName, .bool attributes),
        (levelName, .text level.name)] = .ok ⟨.bool trace, .bool attributes, level⟩ :=
    fun trace attributes level => ofFields_entries ⟨.bool trace, .bool attributes, level⟩
  simp only [ofEnvironment, hfields]
  rfl

/-! ### Making settings -/

/-- **How settings are made**: from fields or from an environment, where `given` is what stands
there for the level. -/
inductive MadeFrom (given : Value) (s : Settings) : Prop
  | fields {fields : List (String × Value)} :
      (field? fields levelName).getD .null = given →
      ofFields fields = .ok s →
      MadeFrom given s
  | environment {environment : List (String × Value)} :
      (environment.lookup levelVariable).getD .null = given →
      ofEnvironment environment = .ok s →
      MadeFrom given s

/-- The level of settings that are made is read from what stands for it. -/
theorem MadeFrom.readsAs {given : Value} {s : Settings} (h : s.MadeFrom given) :
    ReadsAs given .warning s.logLevel := by
  cases h with
  | fields hgiven hmade =>
      rw [ofFields] at hmade
      split at hmade
      · cases hmade
      · rw [hgiven] at hmade
        cases hlevel : readLevel levelName given .warning with
        | error e =>
            rw [hlevel] at hmade
            cases hmade
        | ok level =>
            rw [hlevel] at hmade
            obtain rfl := Except.ok.inj hmade
            exact readLevel_eq_ok_iff.mp hlevel
  | environment hgiven hmade =>
      rw [ofEnvironment_eq] at hmade
      dsimp only at hmade
      rw [hgiven] at hmade
      simp only [bind, Except.bind] at hmade
      split at hmade
      · cases hmade
      split at hmade
      · cases hmade
      split at hmade
      · cases hmade
      next level hlevel =>
        obtain rfl := Except.ok.inj hmade
        exact readLevel_eq_ok_iff.mp hlevel

/-! ### Settings put back -/

/-- Assigning the level reads it first. -/
theorem assign_level (s : Settings) (v : Value) :
    s.assign levelName v = (readLevel levelName v .warning).map ({ s with logLevel := · }) :=
  rfl

/-- Makes assignments one after another, up to the first that is refused. -/
def assignEach (s : Settings) : List (String × Value) → Settings × Option SettingError
  | [] => (s, none)
  | (name, v) :: rest =>
    match s.assign name v with
    | .ok s => assignEach s rest
    | .error e => (s, some e)

/-- **Settings that were written down are put back**, whatever the settings are by then: assigning
them field by field is never refused. The assignments that follow start from there. -/
theorem assignEach_entries_append (s c : Settings) (rest : List (String × Value)) :
    s.assignEach (c.entries ++ rest) = c.assignEach rest := by
  have hlevel : ∀ t : Settings, t.assign levelName (.text c.logLevel.name) =
      .ok { t with logLevel := c.logLevel } := by
    intro t
    rw [assign_level, readLevel_name]
    rfl
  have htrace : s.assign traceName c.traceFailures =
      .ok { s with traceFailures := c.traceFailures } := rfl
  have hattributes : ∀ t : Settings, t.assign attributeName c.attributeAccess =
      .ok { t with attributeAccess := c.attributeAccess } := fun t => rfl
  rw [entries, List.cons_append, List.cons_append, List.cons_append, assignEach, htrace]
  dsimp only
  rw [assignEach, hattributes]
  dsimp only
  rw [assignEach, hlevel]
  rfl

end Settings

end SafeLookup
