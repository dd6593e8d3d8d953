import LogLayout.Text.Blank
import LogLayout.Text.LetterCase

/-!
# Log levels

The seven severities, ordered by their numbers. Main statement: `ofName?_name`, a level is found
again by its name.
-/

namespace LogLayout

/-- The severity of a log entry. A logger whose threshold is `off` lets only `off` pass. -/
inductive Level
  | trace
  | debug
  | info
  | warn
  | error
  | critical
  | off
  deriving Repr, DecidableEq, Inhabited

namespace Level

/-- All levels, from the most verbose on. -/
def all : List Level := [trace, debug, info, warn, error, critical, off]

/-- The number that levels are compared by. -/
def number : Level → Nat
  | trace => 5
  | debug => 10
  | info => 20
  | warn => 30
  | error => 40
  | critical => 50
  | off => 100

/-- The name in capitals. -/
def name : Level → String
  | trace => "TRACE"
  | debug => "DEBUG"
  | info => "INFO"
  | warn => "WARN"
  | error => "ERROR"
  | critical => "CRITICAL"
  | off => "OFF"

/-- The level with this number. -/
def ofNumber? (n : Int) : Option Level := all.find? fun l => (l.number : Int) == n

/-- The level with exactly this name. -/
def ofName? (s : String) : Option Level := all.find? fun l => l.name == s

theorem ofName?_name (l : Level) : ofName? l.name = some l := by cases l <;> decide

/-- Second names of two levels. -/
def aliases : List (String × String) := [("WARNING", "WARN"), ("FATAL", "CRITICAL")]

/-- The level that a text names: blanks around it and the case of its letters do not count, and
two levels have a second name. -/
def ofText? (s : String) : Option Level :=
  let key := Text.upper (Text.strip s)
  ofName? ((aliases.lookup key).getD key)

/-- The terminal sequence that switches to the colour of the level. -/
def color : Level → String
  | trace => "\x1b[37m"
  | debug => "\x1b[36m"
  | info => "\x1b[32m"
  | warn => "\x1b[33m"
  | error => "\x1b[31m"
  | critical => "\x1b[35m"
  | off => "\x1b[0m"

/-- The terminal sequence that ends a colour. -/
def resetColor : String := "\x1b[0m"

end Level

end LogLayout
