import LogLayout.FilePath
import LogLayout.Setting.Conversion
import LogLayout.Setting.Substitution
import LogLayout.Warned

/-!
# Configurations

What a logger is made by. A configuration is read from an object of settings: keys that are not
known are warnings, a setting of nothing keeps the default, and each other one is converted to what
its field holds. Main statement: `check_eq_ok_iff`, the rules that a configuration keeps.
-/

namespace LogLayout

/-- How a logger is made. -/
structure Config where
  name : String := "logger"
  minLevel : Level := .info
  /-- Whether entries wait in a queue for a worker. -/
  asyncMode : Bool := true
  queueSize : Setting.Quantity := .number 10000
  batchSize : Setting.Quantity := .number 100
  /-- The longest time between two deliveries, in milliseconds. -/
  flushInterval : Setting.Quantity := .number 100
  consoleOutput : Bool := true
  coloredOutput : Bool := true
  logFile : Option FilePath := none
  pattern : Value := .str "%d\x7bISO8601\x7d [%-5p] %c: %m"
  /-- Whether entries tell where they were logged. -/
  captureLocation : Bool := false
  deriving Repr, Inhabited

namespace Config

/-- Whether the value is a text. -/
def isText : Value → Bool
  | .str _ => true
  | _ => false

/-- The configuration, or the first rule that it breaks. -/
def check (c : Config) : Except Fault Config :=
  if c.queueSize.toInt ≤ 0 then .error (.config .queueSize)
  else if c.batchSize.toInt ≤ 0 then .error (.config .batchSize)
  else if c.queueSize.toInt < c.batchSize.toInt then .error (.config .batchAboveQueue)
  else if c.flushInterval.toInt < 0 then .error (.config .flushInterval)
  else if !isText c.pattern then .error (.config .pattern)
  else .ok c

/-- The rules that a configuration keeps when it is made. -/
def IsValid (c : Config) : Prop :=
  0 < c.queueSize.toInt ∧ 0 < c.batchSize.toInt ∧ c.batchSize.toInt ≤ c.queueSize.toInt ∧
    0 ≤ c.flushInterval.toInt ∧ isText c.pattern = true

theorem check_eq_ok_iff {c c' : Config} : c.check = .ok c' ↔ c.IsValid ∧ c' = c := by
  unfold check IsValid
  grind

/-! ## Ready-made configurations -/

/-- For finding faults: entries are written at once and tell where they were logged. -/
def debugging : Config where
  minLevel := .debug
  asyncMode := false
  pattern := .str "%d\x7bABSOLUTE\x7d [%-5p] %c %l: %m"
  captureLocation := true

/-- For many entries. -/
def performance : Config where
  queueSize := .number 50000
  batchSize := .number 500
  flushInterval := .number 50

/-- For a program in service. -/
def production : Config where
  minLevel := .warn
  consoleOutput := false
  queueSize := .number 20000
  batchSize := .number 200

/-! ## Reading settings -/

/-- A change of one field. -/
abbrev Change := Config → Config

/-- The text of a setting with references to the environment replaced. -/
def expand (environment : List (String × String)) (v : Value) : String :=
  Setting.substitute (Setting.ofEnvironment environment) v.text

/-- How the setting of each key is converted, and which field it is for. -/
def setters (environment : List (String × String)) :
    List (String × (Value → Except Fault Change)) :=
  [("name", fun v => .ok fun c => { c with name := expand environment v }),
   ("min_level", fun v => (Setting.toLevel v).map fun l c => { c with minLevel := l }),
   ("async_mode", fun v => (Setting.toBoolean v).map fun b c => { c with asyncMode := b }),
   ("queue_size", fun v => (Setting.toPositiveInteger v).map fun n c => { c with queueSize := n }),
   ("batch_size", fun v => (Setting.toPositiveInteger v).map fun n c => { c with batchSize := n }),
   ("flush_interval_ms", fun v =>
      (Setting.toInteger v).map fun n c => { c with flushInterval := n }),
   ("console_output", fun v => (Setting.toBoolean v).map fun b c => { c with consoleOutput := b }),
   ("colored_output", fun v => (Setting.toBoolean v).map fun b c => { c with coloredOutput := b }),
   ("log_file", fun v =>
      .ok fun c => { c with logFile := some (FilePath.ofText (expand environment v)) }),
   ("conversion_pattern", fun v => .ok fun c => { c with pattern := .str v.text }),
   ("capture_location", fun v =>
      (Setting.toBoolean v).map fun b c => { c with captureLocation := b })]

/-- The change that one setting asks for. -/
def readSetting (environment : List (String × String)) (key : String) (v : Value) :
    Warned Change :=
  match (setters environment).lookup key with
  | none => ⟨[.configKey key], .ok id⟩
  | some convert =>
    match v with
    | .null => .ok id
    | v => ⟨[], convert v⟩

/-- Makes the changes that settings ask for, one after the other. -/
def readSettings (environment : List (String × String)) (c : Config) :
    List (String × Value) → Warned Config
  | [] => .ok c
  | (key, v) :: settings =>
    (readSetting environment key v).andThen fun change =>
      readSettings environment (change c) settings

/-- The configuration that an object of settings describes. -/
def ofSettings (environment : List (String × String)) (settings : List (String × Value)) :
    Warned Config :=
  (readSettings environment {} settings).andThen fun c => ⟨[], c.check⟩

end Config

end LogLayout
