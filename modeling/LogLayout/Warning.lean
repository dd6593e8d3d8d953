import LogLayout.Value

/-!
# Warnings

A problem that the library mends by itself is reported and does not stop the operation. A warning
goes to the handler of the operation, else to the installed one, else it is printed. A handler that
fails turns its warning into a printed one.
-/

namespace LogLayout

/-- A problem that does not stop the operation. -/
inductive Warning
  /-- The modifiers of a directive are malformed and do not count. -/
  | modifiers (text : String)
  /-- The word of a directive is not in the word table; the directive is left out. -/
  | unknownWord (word : String)
  /-- The word table has something under the word that renders nothing. -/
  | noResolver (word : String) (given : Value)
  /-- A directive is used as if it had no option. -/
  | refusedOption (option : Option String) (word reason : String)
  /-- A directive renders as empty text; reported once per directive. -/
  | rendering (word reason : String)
  /-- A key of a configuration structure is unknown and skipped. -/
  | configKey (key : String)
  /-- A filter failed and let the entry pass. -/
  | filter (reason : String)
  /-- A writer failed on an entry. -/
  | writer (reason : String)
  deriving Repr

/-- The wording of a warning. -/
def Warning.message : Warning → String
  | modifiers text => "Invalid modifier in conversion pattern: [" ++ text ++ "]. Ignoring modifier."
  | unknownWord word =>
    "Invalid keyword '%" ++ word ++ "' in conversion pattern. Ignoring keyword."
  | noResolver word given =>
    "No converter available for keyword '%" ++ word ++ "' (" ++ given.quote
      ++ "). Ignoring keyword."
  | refusedOption option word reason =>
    "Invalid option [" ++ option.getD "None" ++ "] for keyword '%" ++ word ++ "': " ++ reason
      ++ ". Ignoring option."
  | rendering word reason => "Failed rendering '%" ++ word ++ "' in conversion pattern: " ++ reason
  | configKey key => "Unknown configuration key [" ++ key ++ "]. Ignoring."
  | filter reason => "Filter error: " ++ reason
  | writer reason => "Writer error: " ++ reason

/-- Something that receives warnings; a failing one gives the reason. -/
structure Handler where
  name : String
  failure : Option String := none
  deriving Repr, DecidableEq, Inhabited

/-- What becomes of a warning. -/
inductive Notice
  | received (handler text : String)
  | printed (line : String)
  deriving Repr, DecidableEq

/-- The line that is printed for a warning. -/
def printedLine (text : String) : String := "pattern_logger: " ++ text ++ "\n"

/-- Passes a text to the handler of the operation if it has one, else to the installed one. -/
def report (installed chosen : Option Handler) (text : String) : Notice :=
  match chosen.or installed with
  | none => .printed (printedLine text)
  | some h =>
    match h.failure with
    | none => .received h.name text
    | some reason =>
      .printed (printedLine (text ++ " (warning handler error: " ++ reason ++ ")"))

end LogLayout
