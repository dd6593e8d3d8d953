import LogLayout.Entry

/-!
# Fields

The fields of an entry that a directive can render, each with the words that stand for it. Most
fields make something of the option of their directive; only the logger's name refuses one.
-/

namespace LogLayout.Pattern

/-- A field of an entry. -/
inductive Field
  | date
  | env
  | file
  | level
  | line
  | location
  | logger
  | mdc
  | message
  | method
  | newline
  | process
  | relative
  | thread
  | throwable
  deriving Repr, DecidableEq, Inhabited

namespace Field

/-- All fields. -/
def all : List Field :=
  [date, env, file, level, line, location, logger, mdc, message, method, newline, process,
   relative, thread, throwable]

/-- The name of the field in small letters. -/
def key : Field → String
  | date => "date"
  | env => "env"
  | file => "file"
  | level => "level"
  | line => "line"
  | location => "location"
  | logger => "logger"
  | mdc => "mdc"
  | message => "message"
  | method => "method"
  | newline => "newline"
  | process => "process"
  | relative => "relative"
  | thread => "thread"
  | throwable => "throwable"

/-- The name of the field in capitals. -/
def name (f : Field) : String := Text.upper f.key

/-- The name of the class of resolvers for the field. -/
def resolverName (f : Field) : String :=
  .ofList (f.name.toList.take 1 ++ f.key.toList.drop 1) ++ "Resolver"

/-- The field of a name in capitals. -/
def ofName? (s : String) : Option Field := all.find? (·.name = s)

/-- The words that stand for fields unless a table says otherwise. -/
def words : List (String × Field) :=
  [("c", logger), ("lo", logger), ("logger", logger),
   ("d", date), ("date", date),
   ("e", env), ("env", env),
   ("ex", throwable), ("exception", throwable), ("throwable", throwable),
   ("F", file), ("file", file),
   ("l", location), ("location", location),
   ("L", line), ("line", line),
   ("m", message), ("msg", message), ("message", message),
   ("M", method), ("method", method),
   ("n", newline), ("newline", newline),
   ("p", level), ("le", level), ("level", level),
   ("r", relative), ("relative", relative),
   ("t", thread), ("thread", thread),
   ("pid", process), ("process", process),
   ("X", mdc), ("mdc", mdc)]

end Field

/-- What fields are rendered from besides the entry. -/
structure Surroundings where
  /-- The variables of the environment. -/
  environment : List (String × String) := []
  /-- When the program started. -/
  start : Timestamp
  deriving Repr, Inhabited

/-- What stands for the place of the logging call when it is not known. -/
def unknownLocation : String := "NA"

/-- The value, or what stands for an unknown place if there is none. -/
def orUnknown (v : Value) : Value := if v.isTruthy then v else .str unknownLocation

/-! ## The logger's name -/

/-- The last `depth` of the parts of a name between points. -/
def lastSegments (depth : Nat) (name : List Char) : List Char :=
  let parts := name.splitOn '.'
  ['.'].intercalate (parts.drop (parts.length - depth))

/-- The number of parts that an option asks for; zero asks for all of them. -/
def segmentDepth (option : Option String) : Except String Nat :=
  match option with
  | none => .ok 0
  | some s =>
    match Text.readInteger s with
    | .error _ => .error ("logger depth must be an integer, got " ++ Text.quoted s)
    | .ok n =>
      if n < 0 then .error ("logger depth cannot be negative, got " ++ toString n)
      else .ok n.toNat

/-- The name of the logger, or its last parts. -/
def renderLogger (depth : Nat) (name : Value) : Except Fault Value :=
  if depth = 0 then .ok name
  else match name with
    | .str s => .ok (.str (.ofList (lastSegments depth s.toList)))
    | .bytes _ => .error .textForBytes
    | v => .error (.noOperation v "split")

/-! ## Other fields -/

/-- The name of the format that a timestamp has without an option. -/
def isoFormat : String := "ISO8601"

/-- Templates with a name. -/
def namedTemplates : List (String × String) :=
  [("ABSOLUTE", "%H:%M:%S"), ("DATE", "%d %b %Y %H:%M:%S")]

/-- The timestamp in the format that the option names or spells out. -/
def renderDate (option : Option String) (t : Timestamp) : String :=
  match option with
  | none => t.isoMilliseconds
  | some s =>
    if s = isoFormat then t.isoMilliseconds
    else t.format ((namedTemplates.lookup s).getD s)

/-- The variable that the option names; nothing without an option or a variable. -/
def renderVariable (environment : List (String × String)) (option : Option String) : String :=
  match option with
  | none => ""
  | some s => (environment.lookup s).getD ""

/-- The place of the logging call. -/
def renderLocation (e : Entry) : String :=
  if e.hasLocation then
    (orUnknown e.functionName).text ++ "(" ++ e.fileName.text ++ ":"
      ++ (orUnknown e.lineNumber).text ++ ")"
  else unknownLocation

/-- The further field that the option names, nothing if it is missing; without an option all of
them with their names. -/
def renderExtra (option : Option String) (extra : Value) : Except Fault Value :=
  match extra, option with
  | .object fields, none =>
    .ok (.str (", ".intercalate (fields.map fun field => field.1 ++ "=" ++ field.2.text)))
  | .object fields, some key =>
    match fields.lookup key with
    | none | some .null => .ok (.str "")
    | some v => .ok (.str v.text)
  | v, none => .error (.noOperation v "items")
  | v, some _ => .error (.noOperation v "get")

/-- What the field of an entry is, before it is fitted; `depth` is the one of the logger's name. -/
def Field.read (f : Field) (option : Option String) (depth : Nat) (s : Surroundings) (e : Entry) :
    Except Fault Value :=
  match f with
  | .date => .ok (.str (renderDate option e.timestamp))
  | .env => .ok (.str (renderVariable s.environment option))
  | .file => .ok (orUnknown e.fileName)
  | .level => .ok (.str e.level.name)
  | .line => .ok (.str (orUnknown e.lineNumber).text)
  | .location => .ok (.str (renderLocation e))
  | .logger => renderLogger depth e.loggerName
  | .mdc => renderExtra option e.extra
  | .message => .ok (.str e.message)
  | .method => .ok (orUnknown e.functionName)
  | .newline => .ok (.str "\n")
  | .process => .ok (.str e.processId.text)
  | .relative => (e.relativeMilliseconds s.start).map fun n => .str (toString n)
  | .thread => .ok e.threadName
  | .throwable =>
    match e.throwable with
    | none => .ok (.str "")
    | some t => .ok (.list (t.lines.map .str))

end LogLayout.Pattern
