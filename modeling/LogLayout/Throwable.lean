import LogLayout.Throwable.SourcePlace

/-!
# Exceptions

An exception that was logged together with a message: its class, its arguments, the frames that it
passed and the exception that it followed. Its report names them from the first exception of the
chain on.
-/

namespace LogLayout

/-- How the text of an exception is made from its arguments. -/
inductive Throwable.Style
  /-- A single argument is the text. -/
  | plain
  /-- A single argument is quoted. -/
  | key
  /-- Two or more arguments are an error number, its text and a file. -/
  | system
  /-- The first argument is the text, which is never left out. -/
  | syntaxError
  /-- The arguments are an encoding, a text or bytes, the ends of a part of it that was refused and
  a reason. -/
  | encoding
  | decoding
  /-- The same without an encoding. -/
  | mapping
  /-- Making the text fails. -/
  | unreadable
  deriving Repr, DecidableEq, Inhabited

/-- A place in the program that an exception passed. -/
structure Throwable.Frame where
  file : String
  line : Int
  function : String
  deriving Repr, DecidableEq, Inhabited

/-- An exception. -/
structure Throwable where
  name : String
  /-- The module of its class; nothing if the class is known everywhere. -/
  home : Option String := none
  style : Throwable.Style := .plain
  arguments : List Value := []
  /-- The file that a system error names. -/
  file : Option Value := none
  /-- The second file that a system error names. -/
  target : Option Value := none
  /-- The place that a syntax error names. -/
  place : SourcePlace := {}
  notes : List String := []
  /-- The frames, from the outermost on. -/
  frames : List Throwable.Frame := []
  cause : Option Throwable := none
  /-- The exception that was being handled. -/
  context : Option Throwable := none
  /-- Whether the report leaves the context out. -/
  suppressed : Bool := false
  deriving Repr, Inhabited

namespace Throwable

/-! ## Texts -/

/-- What stands for the text of a syntax error that has none. -/
def missingDetail : String := "<no detail available>"

/-- How a message names the part from `start` to `stop` of `length` characters or bytes: a single
one by `one`, several by position. Nothing may be said of one that lies before the start. -/
def partText (unit : String) (length : Nat) (start stop : Int) (one : Nat → String) :
    Option String :=
  if start < length && stop = start + 1 then
    if start < 0 then none
    else some (unit ++ " " ++ one start.toNat ++ " in position " ++ toString start)
  else some (unit ++ "s in position " ++ toString start ++ "-" ++ toString (stop - 1))

/-- A character of a text by number. -/
def charText (s : String) (i : Nat) : String :=
  "'" ++ .ofList (Text.escapeCode (s.toList.getD i ' ').toNat) ++ "'"

/-- A byte by number. -/
def byteText (bs : List UInt8) (i : Nat) : String :=
  "0x" ++ .ofList (Text.hexDigits 2 (bs.getD i 0).toNat)

/-- What a message says of a text or bytes that were refused. -/
def codingMessage? (style : Style) (arguments : List Value) : Option String :=
  match style, arguments with
  | .encoding, [name, .str s, start, stop, reason] => do
    let part ← partText "character" s.length (← start.integer?) (← stop.integer?) (charText s)
    return "'" ++ name.text ++ "' codec can't encode " ++ part ++ ": " ++ reason.text
  | .decoding, [name, .bytes bs, start, stop, reason] => do
    let part ← partText "byte" bs.length (← start.integer?) (← stop.integer?) (byteText bs)
    return "'" ++ name.text ++ "' codec can't decode " ++ part ++ ": " ++ reason.text
  | .mapping, [.str s, start, stop, reason] => do
    let part ← partText "character" s.length (← start.integer?) (← stop.integer?) (charText s)
    return "can't translate " ++ part ++ ": " ++ reason.text
  | _, _ => none

/-- The text of an exception; `none` if making it fails. -/
def message? (t : Throwable) : Option String :=
  let plain := match t.arguments with
    | [] => ""
    | [v] => v.text
    | vs => (Value.tuple vs).quote
  match t.style, t.arguments with
  | .unreadable, _ => none
  | .encoding, _ | .decoding, _ | .mapping, _ => codingMessage? t.style t.arguments
  | .key, [v] => some v.quote
  | .syntaxError, arguments =>
    match arguments.head? with
    | some v => some (if v.isTruthy then v.text else missingDetail)
    | none => some missingDetail
  | .system, number :: reason :: _ =>
    let numbered := "[Errno " ++ number.text ++ "] " ++ reason.text
    match t.file, t.target with
    | some file, some target =>
      some (numbered ++ ": " ++ file.quote ++ " -> " ++ target.quote)
    | some file, none => some (numbered ++ ": " ++ file.quote)
    | none, _ => some numbered
  | _, _ => some plain

/-- The part of the name after the last point. -/
def shortName (t : Throwable) : String :=
  .ofList ((t.name.toList.splitOn '.').getLast?.getD [])

/-- The exception written as its class with its arguments. -/
def quote (t : Throwable) : String :=
  match t.arguments with
  | [v] => t.shortName ++ "(" ++ v.quote ++ ")"
  | vs => t.shortName ++ (Value.tuple vs).quote

/-- The name of the class after that of its module. -/
def fullName (t : Throwable) : String :=
  match t.home with
  | none => t.name
  | some home => home ++ "." ++ t.name

/-- The line that names the exception; its text may bring further newlines. -/
def headline (t : Throwable) : String :=
  match t.message? with
  | none => t.fullName ++ ": <exception str() failed>"
  | some "" => t.fullName
  | some text => t.fullName ++ ": " ++ text ++ t.place.suffix

/-! ## Report -/

/-- The line of a frame. -/
def Frame.text (f : Frame) : String :=
  "  File \"" ++ f.file ++ "\", line " ++ toString f.line ++ ", in " ++ f.function

/-- How often the same frame is shown in a row. -/
def repeatLimit : Nat := 3

/-- The line that stands for the frames of a row of `count` that are not shown. -/
def omitted (count : Nat) : List String :=
  let more := count - repeatLimit
  if more = 0 then []
  else ["  [Previous line repeated " ++ toString more ++ " more time"
    ++ (if more = 1 then "" else "s") ++ "]"]

/-- The lines of the frames after `count` frames in a row that are equal to `last`. -/
def frameLinesFrom (last : Option Frame) (count : Nat) : List Frame → List String
  | [] => omitted count
  | f :: fs =>
    if last = some f then
      (if count < repeatLimit then [f.text] else []) ++ frameLinesFrom last (count + 1) fs
    else omitted count ++ f.text :: frameLinesFrom (some f) 1 fs

/-- The lines of all frames, with a headline if there are any. -/
def frameLines (fs : List Frame) : List String :=
  if fs.isEmpty then [] else "Traceback (most recent call last):" :: frameLinesFrom none 0 fs

/-- The part of the report that concerns this exception alone. -/
def ownReport (t : Throwable) : List String :=
  frameLines t.frames ++ t.place.lines ++ t.headline :: t.notes.flatMap Text.lines

/-- What stands between a cause and its effect. -/
def causeNotice : String :=
  "The above exception was the direct cause of the following exception:"

/-- What stands between an exception and one that was raised while it was handled. -/
def contextNotice : String :=
  "During handling of the above exception, another exception occurred:"

mutual

/-- The report, each item ending a line: the exception that came before, then this one. -/
def report : Throwable → List String
  | t@⟨_, _, _, _, _, _, _, _, _, cause, context, suppressed⟩ =>
    (if cause.isSome then reportBefore causeNotice cause
      else if suppressed then []
      else reportBefore contextNotice context) ++ t.ownReport

/-- The report of an exception that came before another, and the notice between them. -/
def reportBefore (notice : String) : Option Throwable → List String
  | none => []
  | some t => report t ++ ["", notice, ""]

end

/-- The text of the report. -/
def reportText (t : Throwable) : String := Text.concat (t.report.map (· ++ "\n"))

/-- The lines of the report, without newlines and without empty lines at the end. -/
def lines (t : Throwable) : List String := Text.lines (Text.dropTrailingNewlines t.reportText)

end Throwable

end LogLayout
