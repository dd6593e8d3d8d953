import LogLayout.Fault
import LogLayout.Throwable
import LogLayout.Timestamp.Template

/-!
# Log entries

All that is known of one log message. Except level, message and timestamp, the fields hold whatever
a caller put there. An entry can be written as an object and read back; an exception is written
as the lines of its report and not read back.
-/

namespace LogLayout

/-- One log message. -/
structure Entry where
  level : Level
  message : String
  timestamp : Timestamp
  threadId : Value := .int 0
  threadName : Value := .str ""
  processId : Value := .int 0
  loggerName : Value := .str ""
  fileName : Value := .str ""
  lineNumber : Value := .int 0
  functionName : Value := .str ""
  throwable : Option Throwable := none
  /-- Further fields by name; an object unless the caller put something else there. -/
  extra : Value := .object []
  deriving Repr, Inhabited

namespace Entry

/-- Whether the place of the logging call is known. -/
def hasLocation (e : Entry) : Bool := e.fileName.isTruthy

/-- The milliseconds from `start` to the entry. -/
def relativeMilliseconds (e : Entry) (start : Timestamp) : Except Fault Int :=
  match Timestamp.microsecondsBetween? start e.timestamp with
  | some n => .ok (Timestamp.millisecondsOf n)
  | none => .error .mixedOffsets

/-- The text filled up with spaces on its right. -/
def padRight (width : Nat) (s : String) : String :=
  s ++ .ofList (List.replicate (width - s.length) ' ')

/-- The entry as a line without a layout: the time to the millisecond, the level, the thread and
the message. -/
def text (e : Entry) : String :=
  let time := (e.timestamp.format "%Y-%m-%d %H:%M:%S.%f").toList
  "[" ++ .ofList (time.take (time.length - 3)) ++ "] [" ++ padRight 8 e.level.name ++ "] ["
    ++ e.threadName.text ++ "] " ++ e.message

/-! ## Objects -/

/-- The entry as an object. -/
def toObject (e : Entry) : List (String × Value) :=
  let report := match e.throwable with
    | none => Value.null
    | some t => .list (t.lines.map .str)
  [("level", .str e.level.name), ("message", .str e.message), ("timestamp", .str e.timestamp.iso),
   ("thread_id", e.threadId), ("thread_name", e.threadName), ("process_id", e.processId),
   ("logger_name", e.loggerName), ("file_name", e.fileName), ("line_number", e.lineNumber),
   ("function_name", e.functionName), ("throwable", report), ("extra", e.extra)]

/-- The value of a key that must be there. -/
def required (fields : List (String × Value)) (key : String) : Except Fault Value :=
  match fields.lookup key with
  | some v => .ok v
  | none => .error (.missingKey key)

/-- The level whose name a value is. -/
def levelNamed (v : Value) : Except Fault Level :=
  match v with
  | .str s =>
    match Level.ofName? s with
    | some l => .ok l
    | none => .error (.unknownLevelName v)
  | .list _ | .object _ => .error (.unhashable v)
  | _ => .error (.unknownLevelName v)

/-- The timestamp that a value writes. -/
def timestampOf : Value → Except Fault Timestamp
  | .str s =>
    match Timestamp.ofIso s with
    | .ok t => .ok t
    | .error fault => .error (.timestamp s fault)
  | _ => .error .timestampKind

/-- The entry that an object describes. Level, message and timestamp must be there. -/
def ofObject (fields : List (String × Value)) : Except Fault Entry := do
  let level ← levelNamed (← required fields "level")
  let message ← required fields "message"
  let timestamp ← timestampOf (← required fields "timestamp")
  let field := fun key default => (fields.lookup key).getD default
  return {
    level, message := message.text, timestamp
    threadId := field "thread_id" (.int 0)
    threadName := field "thread_name" (.str "")
    processId := field "process_id" (.int 0)
    loggerName := field "logger_name" (.str "")
    fileName := field "file_name" (.str "")
    lineNumber := field "line_number" (.int 0)
    functionName := field "function_name" (.str "")
    extra := field "extra" (.object []) }

end Entry

end LogLayout
