import SafeLookup.Settings.Level
import SafeLookup.Text.Basic
import SafeLookup.Value.Display
/-!
# Reading settings

Settings are read from texts, surrounding white space and letter case aside. A setting that is not
given, or blank, has its default; any other text has to be one of a few words. Values that are no
text are refused, each kind in its own way.
-/

namespace SafeLookup

/-- Why a setting is refused. -/
inductive SettingError where
  /-- The text is none of the expected words. -/
  | rejected (name : String) (raw : Value) (expected : String)
  /-- The value is no text. -/
  | notText (kind : String)
  /-- The value cannot be compared with the words. -/
  | unhashable (kind : String)
  /-- The setting follows from another one. -/
  | derived (name : String)
  /-- There is no such setting where `owner` takes its settings from. -/
  | unknown (owner name : String)
  /-- The field stands for `owner` itself, which is given already. -/
  | repeated (owner name : String)
  deriving Repr, Inhabited, BEq

namespace SettingError

/-- The message about a text that is none of the expected words. -/
def rejectedMessage (name raw expected : String) : String :=
  "invalid value " ++ raw ++ " for " ++ name ++ "; expected " ++ expected

/-- The message of a refusal. -/
def message : SettingError → String
  | rejected name raw expected => rejectedMessage name raw.display expected
  | notText kind => "'" ++ kind ++ "' object has no attribute 'strip'"
  | unhashable kind => "unhashable type: '" ++ kind ++ "'"
  | derived name => "property '" ++ name ++ "' of 'FallbackConfig' object has no setter"
  | unknown owner name => owner ++ "() got an unexpected keyword argument '" ++ name ++ "'"
  | repeated owner name => owner ++ "() got multiple values for argument '" ++ name ++ "'"

/-- The names of what a rejection is made of. -/
def parts : List String := ["name", "raw", "expected"]

/-- A name in quotes. -/
def inQuotes (name : String) : String := "'" ++ name ++ "'"

/-- The last of at least three names that are read out: commas stand between them, and the word
`and` in front of the last one. -/
def enumerateRest : List String → String
  | [] => ""
  | [a] => "and " ++ inQuotes a
  | a :: rest => inQuotes a ++ ", " ++ enumerateRest rest

/-- Reads out names in quotes. -/
def enumerate : List String → String
  | [] => ""
  | [a] => inQuotes a
  | [a, b] => inQuotes a ++ " and " ++ inQuotes b
  | a :: rest => inQuotes a ++ ", " ++ enumerateRest rest

/-- The message about a rejection that is made of other than its three parts. -/
def arityMessage (given : Nat) : String :=
  let call := "FallbackConfigError.__init__()"
  if given < parts.length then
    let absent := parts.drop given
    let noun := if absent.length = 1 then "argument" else "arguments"
    call ++ " missing " ++ toString absent.length ++ " required positional " ++ noun ++ ": " ++
      enumerate absent
  else
    call ++ " takes " ++ toString (parts.length + 1) ++ " positional arguments but " ++
      toString (given + 1) ++ " were given"

/-- Why a rejection cannot be made of some values: there are too few or too many of them, or one
cannot be written. -/
inductive PartError where
  | wrongNumber (given : Nat)
  | tooManyDigits
  deriving DecidableEq, Repr, Inhabited

/-- What to say about values that a rejection cannot be made of. -/
def PartError.message : PartError → String
  | wrongNumber given => arityMessage given
  | tooManyDigits => Path.tooLongMessage

/-- The message of a rejection that is made of any three values. -/
def ofArguments : List Value → Except PartError String
  | [name, raw, expected] =>
    if name.hasText && raw.isWritable && expected.hasText then
      .ok (rejectedMessage name.toText raw.display expected.toText)
    else .error .tooManyDigits
  | arguments => .error (.wrongNumber arguments.length)

end SettingError

namespace Settings

/-- The words for a flag that is on. -/
def onWords : List String := ["1", "true", "yes", "on"]

/-- The words for a flag that is off. -/
def offWords : List String := ["0", "false", "no", "off"]

/-- What a flag is expected to be. -/
def expectedFlag : String := "one of 1/0/true/false/yes/no/on/off"

/-- What a level is expected to be. -/
def expectedLevel : String := "one of " ++ Value.commaSeparated (Level.all.map Level.name)

/-- The flag that a word stands for. -/
def flagOfWord? (word : String) : Option Bool :=
  if onWords.contains word then some true
  else if offWords.contains word then some false
  else none

/-- The flag that a text stands for, white space and letter case aside. -/
def flagOfText? (cs : List Char) : Option Bool :=
  flagOfWord? (String.ofList (Text.lower (Text.trim cs)))

/-- The level that a text names, white space and letter case aside. -/
def levelOfText? (cs : List Char) : Option Level :=
  Level.ofName? (String.ofList (Text.upper (Text.trim cs)))

/-- Reads a flag called `name`. -/
def readFlag (name : String) (raw : Value) (default : Bool) : Except SettingError Bool :=
  match raw.core with
  | .null => .ok default
  | .text s =>
    if (Text.trim s.toList).isEmpty then .ok default
    else
      match flagOfText? s.toList with
      | some flag => .ok flag
      | none => .error (.rejected name raw expectedFlag)
  | .bytes os =>
    if os.all Text.isBlankOctet then .ok default else .error (.rejected name raw expectedFlag)
  | .buffer os =>
    if os.all Text.isBlankOctet then .ok default else .error (.unhashable raw.kindLabel)
  | _ => .error (.notText raw.kindLabel)

/-- Reads a level called `name`. -/
def readLevel (name : String) (raw : Value) (default : Level) : Except SettingError Level :=
  match raw.core with
  | .null => .ok default
  | .text s =>
    if (Text.trim s.toList).isEmpty then .ok default
    else
      match levelOfText? s.toList with
      | some level => .ok level
      | none => .error (.rejected name raw expectedLevel)
  | .bytes os | .buffer os =>
    if os.all Text.isBlankOctet then .ok default else .error (.rejected name raw expectedLevel)
  | _ => .error (.notText raw.kindLabel)

end Settings

end SafeLookup
