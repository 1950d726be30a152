import SafeLookup.Settings.Reading
import SafeLookup.Value.Contents
/-!
# Settings

Whether failed lookups are traced, whether the attributes of objects count as members, and the level
for reports. The two flags take any value and count by whether the value is true; the level is
always one of the six. Settings are made from given fields or from the environment, and assigned one
by one; an assignment that is refused leaves them as they are.

A scope runs with the default settings and a few overrides, and puts the settings back when it is
left. Entering takes a snapshot, resets, and applies the overrides one after another; an override of
`null` counts as not given. If the level is refused, the scope is not entered, and the settings stay
as the reset and the overrides before the level have made them.
-/

namespace SafeLookup

/-- The settings of a program. -/
structure Settings where
  traceFailures : Value := .bool false
  attributeAccess : Value := .bool true
  logLevel : Level := .warning
  deriving Repr, Inhabited, BEq

namespace Settings

/-- The name of the setting for tracing. -/
def traceName : String := "trace_failures"

/-- The name of the setting for attributes. -/
def attributeName : String := "attribute_access"

/-- The name of the setting for the level. -/
def levelName : String := "log_level"

/-- The name of the level's number, which follows from the level. -/
def numberName : String := "log_level_number"

/-- The environment variable for tracing. -/
def traceVariable : String := "FALLBACK_VALUE_TRACE"

/-- The environment variable for attributes. -/
def attributeVariable : String := "FALLBACK_VALUE_ATTRIBUTE_ACCESS"

/-- The environment variable for the level. -/
def levelVariable : String := "FALLBACK_VALUE_LOG_LEVEL"

/-- Whether failed lookups are traced. -/
def traces (s : Settings) : Except Raised Bool := s.traceFailures.truth

/-- Whether the attributes of objects count as members. -/
def admitsAttributes (s : Settings) : Except Raised Bool := s.attributeAccess.truth

/-- The number of the level. -/
def levelNumber (s : Settings) : Int := s.logLevel.number

/-- The text of the settings. -/
def display (s : Settings) : String :=
  "FallbackConfig(trace_failures=" ++ s.traceFailures.display ++ ", attribute_access=" ++
    s.attributeAccess.display ++ ", log_level=" ++ Text.quote s.logLevel.name ++ ")"

/-- The text of the settings, if the values of the flags can be written. -/
def written (s : Settings) : Except Fault String :=
  if Value.areWritable [s.traceFailures, s.attributeAccess] then .ok s.display
  else .error .tooManyDigits

/-- The value of a field, if it is given. -/
def field? (fields : List (String × Value)) (name : String) : Option Value := fields.lookup name

/-- The first field with none of the given names. -/
def unknownField? (fields : List (String × Value)) : Option String :=
  (fields.map Prod.fst).find? fun name => !([traceName, attributeName, levelName].contains name)

/-- What takes the fields of settings. -/
def fieldOwner : String := "FallbackConfig.__init__"

/-- The field that stands for the settings themselves. -/
def ownField : String := "self"

/-- The settings with given fields; a field that is not given has its default. -/
def ofFields (fields : List (String × Value)) : Except SettingError Settings :=
  match unknownField? fields with
  | some name =>
    .error (if name = ownField then .repeated fieldOwner name else .unknown fieldOwner name)
  | none => do
    let level ← readLevel levelName ((field? fields levelName).getD .null) .warning
    return {
      traceFailures := (field? fields traceName).getD (.bool false)
      attributeAccess := (field? fields attributeName).getD (.bool true)
      logLevel := level }

/-- The settings that an environment asks for. The variables are read in order, and the first one
that is refused decides. What was read is handed over as fields, the level by its name. -/
def ofEnvironment (environment : List (String × Value)) : Except SettingError Settings := do
  let raw := fun name => (environment.lookup name).getD .null
  let trace ← readFlag traceVariable (raw traceVariable) false
  let attributes ← readFlag attributeVariable (raw attributeVariable) true
  let level ← readLevel levelVariable (raw levelVariable) .warning
  ofFields [(traceName, .bool trace), (attributeName, .bool attributes),
    (levelName, .text level.name)]

/-- Assigns a setting. Assigning a name that is no setting has no effect. -/
def assign (s : Settings) (name : String) (v : Value) : Except SettingError Settings :=
  if name == traceName then .ok { s with traceFailures := v }
  else if name == attributeName then .ok { s with attributeAccess := v }
  else if name == levelName then (readLevel levelName v .warning).map ({ s with logLevel := · })
  else if name == numberName then .error (.derived numberName)
  else .ok s

end Settings

/-! ### Settings for a while -/

/-- What a scope overrides. -/
structure Overrides where
  traceFailures : Value := .null
  attributeAccess : Value := .null
  logLevel : Value := .null
  deriving Repr, Inhabited

namespace Overrides

/-- The overrides with given fields. -/
def ofFields (fields : List (String × Value)) : Except SettingError Overrides :=
  match Settings.unknownField? fields with
  | some name => .error (.unknown "fallback_test_env" name)
  | none =>
    let given := fun name => (Settings.field? fields name).getD .null
    .ok ⟨given Settings.traceName, given Settings.attributeName, given Settings.levelName⟩

end Overrides

namespace Settings

/-- A value in place of another one, unless it is `null`. -/
def overriding (given default : Value) : Value :=
  match given with
  | .null => default
  | v => v

/-- The settings that a scope starts with as far as its flags go. -/
def withFlags (o : Overrides) : Settings :=
  let defaults : Settings := {}
  { defaults with
    traceFailures := overriding o.traceFailures defaults.traceFailures
    attributeAccess := overriding o.attributeAccess defaults.attributeAccess }

/-- Enters a scope: the settings afterwards, and why it was not entered, if it was not. -/
def enter (o : Overrides) : Settings × Option SettingError :=
  match readLevel levelName o.logLevel .warning with
  | .ok level => ({ withFlags o with logLevel := level }, none)
  | .error e => (withFlags o, some e)

end Settings

end SafeLookup
