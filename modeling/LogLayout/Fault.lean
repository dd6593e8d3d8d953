import LogLayout.Disk.OpenFile
import LogLayout.Text.Numeral
import LogLayout.Text.Utf8
import LogLayout.Timestamp.IsoReader
import LogLayout.Value

/-!
# Faults

Everything that can stop an operation, by its cause. `Fault.message` words each of them.
-/

namespace LogLayout

/-- What a setting can be converted to. -/
inductive SettingKind
  | boolean
  | integer
  | positiveInteger
  | level
  deriving Repr, DecidableEq

/-- What a message says about the kind of setting that is wanted. -/
def SettingKind.description : SettingKind → String
  | boolean => "boolean"
  | integer => "integer"
  | positiveInteger => "a positive integer"
  | level => "a log level"

/-- A rule that a configuration breaks. -/
inductive ConfigFault
  | queueSize
  | batchSize
  | batchAboveQueue
  | flushInterval
  | pattern
  deriving Repr, DecidableEq

/-- The wording of a broken rule. -/
def ConfigFault.message : ConfigFault → String
  | queueSize => "queue_size must be positive"
  | batchSize => "batch_size must be positive"
  | batchAboveQueue => "batch_size cannot exceed queue_size"
  | flushInterval => "flush_interval_ms cannot be negative"
  | pattern => "conversion_pattern must be a string"

/-- How many arguments an operation takes. -/
inductive CountBound
  | exactly
  | least
  | most
  deriving Repr, DecidableEq

/-- The wording of a bound. -/
def CountBound.text : CountBound → String
  | exactly => "exactly"
  | least => "at least"
  | most => "at most"

/-- Why an operation did not come to its end. -/
inductive Fault
  /-- A conversion pattern that is no text. -/
  | pattern (given : Value)
  /-- A numeral in the modifiers of a directive that is not read. -/
  | numeral (fault : Text.NumeralFault)
  /-- A field is padded to a width beyond all texts. -/
  | padding
  | negativeMin
  | negativeMax
  /-- A resolver refuses its option, or that it has none. -/
  | option (reason : String)
  | notAConverter (given : Value)
  /-- A position in a chain that has no converter. -/
  | noConverterAt
  /-- A number beyond all positions. -/
  | noPosition
  /-- A chain is not changed once it is made. -/
  | frozenChain
  /-- An object lacks a key. -/
  | missingKey (key : String)
  /-- The value under which a level is looked up is no level name. -/
  | unknownLevelName (given : Value)
  /-- A value that cannot be looked up at all. -/
  | unhashable (given : Value)
  | unknownLevelText (given : Value)
  | unknownLevelNumber (n : Int)
  | notALevel
  /-- A timestamp that is no text. -/
  | timestampKind
  | timestamp (text : String) (fault : Timestamp.IsoFault)
  /-- Just one of two timestamps has an offset. -/
  | mixedOffsets
  | notAnException
  /-- A value lacks an operation that only another kind has. -/
  | noOperation (given : Value) (operation : String)
  /-- Bytes are not split at a text. -/
  | textForBytes
  | setting (given : Value) (wanted : SettingKind)
  | config (fault : ConfigFault)
  | opening (fault : OpenFault)
  | writing (fault : WriteFault)
  | reading (fault : PathFault)
  /-- A file that is read as text holds other bytes. -/
  | decoding (fault : Text.Utf8.Fault)
  | notAHandler
  | notAFilter
  /-- A caller gives an argument of a logger's operation twice. -/
  | repeatedArgument (operation name : String)
  /-- A caller gives a field of an entry that the logger sets. -/
  | repeatedField (name : String)
  /-- A caller gives a field that entries do not have. -/
  | unknownField (name : String)
  /-- A logger that was made without a queue is asked to queue an entry. -/
  | noQueue
  /-- A whole number that is rounded to no double. -/
  | noDouble
  /-- A worker is to wait for less than no time. -/
  | negativeWait
  /-- A worker is to wait for longer than the clock counts. -/
  | longWait
  /-- A value that is no row of others. -/
  | notIterable (given : Value)
  /-- An exception is made with too many or too few arguments, or its place has too many or too few
  parts. -/
  | argumentCount (bound : CountBound) (wanted given : Nat)
  /-- The argument at this position is no text. -/
  | argumentKind (operation : String) (position : Nat) (given : Value)
  | notInteger (given : Value)
  /-- A number beyond all sizes. -/
  | noSize
  /-- A number beyond all counts of characters. -/
  | noCount
  | notBytes (given : Value)
  /-- A place stops in a line, but in no column. -/
  | noStop
  /-- A column that is no number. -/
  | column (given : Value)
  /-- A column to stop at that is no number. -/
  | stop (given : Value)
  /-- A group of exceptions is made with this number of arguments. -/
  | groupCount (given : Nat)
  | noSequence
  | emptyGroup
  /-- What stands at this position of a group is no exception. -/
  | noMember (position : Nat)
  /-- A component of the caller raises an error of this kind. -/
  | raised (kind message : String)
  deriving Repr

namespace Fault

/-- A duration in days, seconds and microseconds, those of them that are not zero; days may be
negative, the others not. -/
def durationText (microseconds : Int) : String :=
  let days := microseconds.fdiv 86400000000
  let rest := (microseconds.fmod 86400000000).toNat
  let parts := [("days=", days), ("seconds=", ((rest / 1000000 : Nat) : Int)),
    ("microseconds=", ((rest % 1000000 : Nat) : Int))].filter (·.2 ≠ 0)
  let shown := parts.map fun part => part.1 ++ toString part.2
  "datetime.timedelta(" ++ (if shown.isEmpty then "0" else ", ".intercalate shown) ++ ")"

/-- The wording for a text that is no timestamp. -/
def timestampMessage (text : String) : Timestamp.IsoFault → String
  | .malformed => "Invalid isoformat string: " ++ Text.quoted text
  | .year n => "year " ++ toString n ++ " is out of range"
  | .month => "month must be in 1..12"
  | .day => "day is out of range for month"
  | .hour => "hour must be in 0..23"
  | .minute => "minute must be in 0..59"
  | .second => "second must be in 0..59"
  | .offset n =>
    "offset must be a timedelta strictly between -timedelta(hours=24) and timedelta(hours=24), not "
      ++ durationText n ++ "."

/-- A setting as a message shows it. -/
def describe : Value → String
  | .null => "NULL"
  | .bool b => if b then "true" else "false"
  | .str s => "'" ++ s ++ "'"
  | v => v.text

/-- The wording for a path that cannot be used. -/
def pathMessage : PathFault → String
  | .notFound => "No such file or directory"
  | .exists => "File exists"
  | .isDirectory => "Is a directory"
  | .notADirectory => "Not a directory"
  | .tooLong => "File name too long"
  | .nul => "embedded null byte"

/-- The wording for a value of a wrong kind. -/
def kindMessage (given : Value) (rest : String) : String := "'" ++ given.kindName ++ "'" ++ rest

/-- The wording for a column that one cannot be added to. -/
def columnMessage (given : Value) : String :=
  let kind := given.kindName
  match given with
  | .str _ | .list _ => "can only concatenate " ++ kind ++ " (not \"int\") to " ++ kind
  | .bytes _ => "can't concat int to bytes"
  | .float _ => "slice indices must be integers or None or have an __index__ method"
  | v => "unsupported operand type(s) for +: " ++ kindMessage v " and 'int'"

/-- Why a value that is no text cannot be scanned. -/
def scanReason : Value → String
  | .bytes _ => "cannot use a string pattern on a bytes-like object"
  | v => "expected string or bytes-like object, got " ++ kindMessage v ""

/-- The wording of a fault. -/
def message : Fault → String
  | pattern given => "Failed parsing layout pattern " ++ given.quote ++ ": " ++ scanReason given
  | numeral fault => fault.message
  | padding => "Python int too large to convert to C ssize_t"
  | negativeMin => "min_width cannot be negative"
  | negativeMax => "max_width cannot be negative"
  | option reason => reason
  | notAConverter given => "not a PatternConverter: " ++ given.quote
  | noConverterAt => "tuple index out of range"
  | noPosition | noCount => "cannot fit 'int' into an index-sized integer"
  | frozenChain => "ConverterChain is immutable"
  | missingKey key => Text.quoted key
  | unknownLevelName given => given.quote
  | unhashable given => "unhashable type: " ++ kindMessage given ""
  | unknownLevelText given => "Invalid log level: " ++ given.text
  | unknownLevelNumber n => toString n ++ " is not a valid LogLevel"
  | notALevel => "level must be LogLevel enum"
  | timestampKind => "fromisoformat: argument must be str"
  | timestamp text fault => timestampMessage text fault
  | mixedOffsets => "can't subtract offset-naive and offset-aware datetimes"
  | notAnException => "exception must be a BaseException instance"
  | noOperation given operation =>
    kindMessage given (" object has no attribute '" ++ operation ++ "'")
  | textForBytes => "a bytes-like object is required, not 'str'"
  | setting given wanted =>
    "Given value [" ++ describe given ++ "] cannot be converted to " ++ wanted.description ++ "."
  | config fault => fault.message
  | opening (.path fault) | reading fault => pathMessage fault
  | opening (.mode fault) => fault.message
  | opening (.encoding fault) => fault.message
  | decoding fault => fault.message
  | opening .nul => "embedded null character"
  | writing .notWritable => "not writable"
  | writing (.encoding fault) => fault.message
  | notAHandler => "handler must be callable"
  | notAFilter => "log_filter must be callable or define should_log"
  | repeatedArgument operation name =>
    "Logger." ++ operation ++ "() got multiple values for argument '" ++ name ++ "'"
  | repeatedField name =>
    "pattern_logger.core.log_entry.LogEntry() got multiple values for keyword argument '" ++ name
      ++ "'"
  | unknownField name => "LogEntry.__init__() got an unexpected keyword argument '" ++ name ++ "'"
  | noQueue => "'NoneType' object has no attribute 'put_nowait'"
  | noDouble => "int too large to convert to float"
  | negativeWait => "'timeout' must be a non-negative number"
  | longWait => "timestamp out of range for platform time_t"
  | notIterable given => kindMessage given " object is not iterable"
  | argumentCount bound wanted given =>
    "function takes " ++ bound.text ++ " " ++ toString wanted ++ " arguments (" ++ toString given
      ++ " given)"
  | argumentKind operation position given =>
    let kind := match given with
      | .null => "None"
      | v => v.kindName
    operation ++ "argument " ++ toString position ++ " must be str, not " ++ kind
  | notInteger given => kindMessage given " object cannot be interpreted as an integer"
  | noSize => "Python int too large to convert to C ssize_t"
  | notBytes given => "a bytes-like object is required, not " ++ kindMessage given ""
  | noStop => "end_offset must be provided when end_lineno is provided"
  | column given => columnMessage given
  | stop given => match given with
    | .list _ | .object _ => "unhashable type: " ++ kindMessage given ""
    | v => "unsupported operand type(s) for -: " ++ kindMessage v " and 'int'"
  | groupCount given =>
    "BaseExceptionGroup.__new__() takes exactly 2 arguments (" ++ toString given ++ " given)"
  | noSequence => "second argument (exceptions) must be a sequence"
  | emptyGroup => "second argument (exceptions) must be a non-empty sequence"
  | noMember position =>
    "Item " ++ toString position ++ " of second argument (exceptions) is not an exception"
  | raised _ text => text

end Fault

end LogLayout
