/-!
# Levels

The six levels that a setting can name, and their numbers. A record is reported if its number is at
least that of the level in force.
-/

namespace SafeLookup

/-- The levels that a setting can name. -/
inductive Level where
  | critical
  | error
  | warning
  | info
  | debug
  | notset
  deriving DecidableEq, Repr, Inhabited

namespace Level

/-- All levels, the most severe first. -/
def all : List Level := [critical, error, warning, info, debug, notset]

/-- The name of a level. -/
def name : Level → String
  | critical => "CRITICAL"
  | error => "ERROR"
  | warning => "WARNING"
  | info => "INFO"
  | debug => "DEBUG"
  | notset => "NOTSET"

/-- The number of a level. -/
def number : Level → Int
  | critical => 50
  | error => 40
  | warning => 30
  | info => 20
  | debug => 10
  | notset => 0

/-- The level with a name. -/
def ofName? (name : String) : Option Level := all.find? fun level => level.name == name

/-- The level with a number. -/
def ofNumber? (n : Int) : Option Level := all.find? fun level => level.number == n

/-- The name under which a number is shown. -/
def nameOf (n : Int) : String :=
  match ofNumber? n with
  | some level => level.name
  | none => "Level " ++ toString n

end Level

end SafeLookup
