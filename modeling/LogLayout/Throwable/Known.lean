import LogLayout.Fault
import LogLayout.Throwable

/-!
# Exceptions of known classes

The classes of exceptions that are known everywhere. Some of them look at the arguments that an
exception is made with, and refuse those of a wrong number or kind.
-/

namespace LogLayout.Throwable

/-- Whether the number is that of a size or of a position. -/
def isSize (n : Int) : Bool := -(Nat.pow 2 63 : Nat) ≤ n && n < (Nat.pow 2 63 : Nat)

/-! ## System errors -/

/-- The classes of system errors by error number. -/
def systemNames : List (Int × String) :=
  [(11, "BlockingIOError"), (114, "BlockingIOError"), (115, "BlockingIOError"),
   (32, "BrokenPipeError"), (108, "BrokenPipeError"), (10, "ChildProcessError"),
   (103, "ConnectionAbortedError"), (111, "ConnectionRefusedError"),
   (104, "ConnectionResetError"), (17, "FileExistsError"), (2, "FileNotFoundError"),
   (21, "IsADirectoryError"), (20, "NotADirectoryError"), (4, "InterruptedError"),
   (13, "PermissionError"), (1, "PermissionError"), (3, "ProcessLookupError"),
   (110, "TimeoutError")]

/-- Whether the third argument of a system error counts characters after which writing was blocked,
which only errors of one class do. -/
def isCount (name : String) (v : Value) : Except Fault Bool :=
  if name ≠ "BlockingIOError" then .ok false
  else match v, v.integer? with
    | .float _, _ => .error (.notInteger v)
    | _, some n => if isSize n then .ok true else .error .noCount
    | _, none => .ok false

/-- A system error from the arguments that it was made with. With two to five of them the first is
an error number, which tells the class of a `general` one; the third and the fifth name files and
are no longer arguments then, except for a count of characters. -/
def ofSystem (name : String) (general : Bool) (arguments : List Value) : Except Fault Throwable :=
  match arguments with
  | number :: reason :: rest =>
    if 3 < rest.length then .ok { name, style := .plain, arguments }
    else
      let known := if general then number.integer?.bind (systemNames.lookup ·) else none
      let name := known.getD name
      match rest with
      | .null :: _ | [] => .ok { name, style := .system, arguments }
      | file :: others => do
        if ← isCount name file then return { name, style := .system, arguments }
        let target := match others with
          | [_, .null] => none
          | [_, target] => some target
          | _ => none
        return { name, style := .system, arguments := [number, reason], file := some file, target }
  | _ => .ok { name, style := .plain, arguments }

/-- The names of the most general class of system errors. -/
def generalSystemNames : List String := ["OSError", "IOError", "EnvironmentError"]

/-- The other classes of system errors. -/
def specialSystemNames : List String := "ConnectionError" :: systemNames.map (·.2)

/-! ## Syntax errors -/

/-- The classes of syntax errors. -/
def syntaxNames : List String := ["SyntaxError", "IndentationError", "TabError"]

/-- A column; it counts only together with a text. -/
def columnOf (text : Option String) (fault : Value → Fault) (v : Value) :
    Except Fault (Option Int) :=
  match v, v.integer? with
  | .null, _ => .ok none
  | _, some n => .ok (some n)
  | v, none => if text.isNone then .ok none else .error (fault v)

/-- The text of a line. -/
def lineTextOf : Value → Except Fault (Option String)
  | .null => .ok none
  | .str s => .ok (some s)
  | .bytes _ => .error .textForBytes
  | v => .error (.noOperation v "rstrip")

/-- The place that a row writes: file, line, column and text of the line, possibly followed by the
line and the column where it stops. -/
def placeOf (v : Value) : Except Fault SourcePlace :=
  match v.members? with
  | none => .error (.notIterable v)
  | some parts@(file :: line :: column :: text :: rest) =>
    match rest with
    | [] => do
      let text ← lineTextOf text
      return { file, line, text, column := ← columnOf text .column column }
    | [_] => .error .noStop
    | [_, stop] => do
      let text ← lineTextOf text
      let apart := stop.isTruthy && stop.integer? ≠ some (-1)
      return { file, line, text
               column := ← columnOf text (if apart then .stop else .column) column
               stop := ← columnOf text .stop stop }
    | _ => .error (.argumentCount .most 6 parts.length)
  | some parts => .error (.argumentCount .least 4 parts.length)

/-- A syntax error. A second argument out of two is its place. -/
def ofSyntax (name : String) (arguments : List Value) : Except Fault Throwable :=
  match arguments with
  | [_, place] => do return { name, style := .syntaxError, arguments, place := ← placeOf place }
  | _ => .ok { name, style := .syntaxError, arguments }

/-! ## Refused texts -/

/-- The classes of exceptions for texts and bytes that were refused. -/
def codingNames : List (String × Style) :=
  [("UnicodeEncodeError", .encoding), ("UnicodeDecodeError", .decoding),
   ("UnicodeTranslateError", .mapping)]

/-- Whether the argument at a position is a text. -/
def checkText (operation : String) (position : Nat) : Value → Except Fault Unit
  | .str _ => .ok ()
  | v => .error (.argumentKind operation position v)

/-- Whether an argument is a number of characters or bytes. -/
def checkSize (v : Value) : Except Fault Unit :=
  match v.integer? with
  | none => .error (.notInteger v)
  | some n => if isSize n then .ok () else .error .noSize

/-- Whether an argument is a row of bytes. -/
def checkBytes : Value → Except Fault Unit
  | .bytes _ => .ok ()
  | v => .error (.notBytes v)

/-- Checks the arguments of a coding error. -/
def checkCoding (style : Style) (arguments : List Value) : Except Fault Unit :=
  match style, arguments with
  | .mapping, [text, start, stop, reason] => do
    checkText "" 1 text
    checkSize start
    checkSize stop
    checkText "" 4 reason
  | .mapping, _ => .error (.argumentCount .exactly 4 arguments.length)
  | style, [name, given, start, stop, reason] => do
    checkText "" 1 name
    if style = .encoding then checkText "" 2 given
    checkSize start
    checkSize stop
    checkText "" 5 reason
    if style = .decoding then checkBytes given
  | _, _ => .error (.argumentCount .exactly 5 arguments.length)

/-! ## Groups -/

/-- The classes of groups of exceptions. -/
def groupNames : List String := ["BaseExceptionGroup", "ExceptionGroup"]

/-- Why no group is made of values, none of which is an exception. -/
def groupFault (arguments : List Value) : Fault :=
  match arguments with
  | [.str _, .list []] | [.str _, .tuple []] | [.str _, .str ""] | [.str _, .bytes []] =>
    .emptyGroup
  | [.str _, .list _] | [.str _, .tuple _] | [.str _, .str _] | [.str _, .bytes _] => .noMember 0
  | [.str _, _] => .noSequence
  | [v, _] => .argumentKind "BaseExceptionGroup.__new__() " 1 v
  | _ => .groupCount arguments.length

/-! ## All classes -/

/-- The classes that take any arguments and show them in the usual way. -/
def plainNames : List String :=
  ["ArithmeticError", "AssertionError", "AttributeError", "BaseException", "BufferError",
   "BytesWarning", "DeprecationWarning", "EOFError", "EncodingWarning", "Exception",
   "FloatingPointError", "FutureWarning", "GeneratorExit", "ImportError", "ImportWarning",
   "IndexError", "KeyboardInterrupt", "LookupError", "MemoryError", "ModuleNotFoundError",
   "NameError", "NotImplementedError", "OverflowError", "PendingDeprecationWarning",
   "RecursionError", "ReferenceError", "ResourceWarning", "RuntimeError", "RuntimeWarning",
   "StopAsyncIteration", "StopIteration", "SyntaxWarning", "SystemError", "SystemExit",
   "TypeError", "UnboundLocalError", "UnicodeError", "UnicodeWarning", "UserWarning",
   "ValueError", "Warning", "ZeroDivisionError"]

/-- Whether a known class has this name. -/
def isKnown (name : String) : Bool :=
  (["KeyError"] ++ generalSystemNames ++ specialSystemNames ++ syntaxNames
    ++ codingNames.map (·.1) ++ groupNames ++ plainNames).contains name

/-- An exception of a known class, made with arguments. -/
def known? (name : String) (arguments : List Value) : Option (Except Fault Throwable) :=
  if !isKnown name then none
  else if name = "KeyError" then some (.ok { name, style := .key, arguments })
  else if generalSystemNames.contains name then some (ofSystem "OSError" true arguments)
  else if specialSystemNames.contains name then some (ofSystem name false arguments)
  else if syntaxNames.contains name then some (ofSyntax name arguments)
  else if groupNames.contains name then some (.error (groupFault arguments))
  else match codingNames.lookup name with
    | some style => some ((checkCoding style arguments).map fun _ => { name, style, arguments })
    | none => some (.ok { name, arguments })

end LogLayout.Throwable
