import LogLayout.Text.Blank
import LogLayout.Text.Lines
import LogLayout.Value

/-!
# Places in a source text

Where a syntax error lies: a file, a line and its text, and the columns in it. A report shows the
line and marks the columns below it.
-/

namespace LogLayout

/-- A place in a source text; what is not known is left out. -/
structure SourcePlace where
  file : Value := .null
  line : Value := .null
  /-- The text of the line. -/
  text : Option String := none
  /-- The first column, counted from one. -/
  column : Option Int := none
  /-- The column after the last one. -/
  stop : Option Int := none
  deriving Repr, Inhabited

namespace SourcePlace

/-- The text of the line without newlines at its end, and without the spaces, newlines and form
feeds before it. -/
def shown (text : String) : List Char :=
  (Text.dropTrailingNewlines text).toList.dropWhile fun c => c = ' ' || c = '\n' || c = '\x0c'

/-- How many characters `shown` leaves out in front. -/
def indent (text : String) : Nat :=
  (Text.dropTrailingNewlines text).length - (shown text).length

/-- Where the mark stops: one column after its start, unless a later place is known. -/
def lastStop (p : SourcePlace) (column : Int) : Int :=
  match p.stop with
  | none => column + 1
  | some stop => if stop = 0 || stop = column || stop = -1 then column + 1 else stop

/-- The mark below the columns from `start` on, none if `stop` is not after it. -/
def marked (start : Nat) (stop : Int) : List Char := List.replicate (stop - start).toNat '^'

/-- What stands below the line in front of the mark: spaces, and the blanks of the line itself. -/
def margin (cs : List Char) (start : Nat) : List Char :=
  (cs.take start).map fun c => if Text.isBlank c then c else ' '

/-- The line with the mark; nothing if the mark would start before the text that is shown. -/
def markLines (p : SourcePlace) (text : String) (column : Int) : List String :=
  let before : Int := indent text + 1
  if column < before then []
  else
    let start := (column - before).toNat
    [.ofList ("    ".toList ++ margin (shown text) start
      ++ marked start (p.lastStop column - before))]

/-- The lines that show the place. -/
def lines (p : SourcePlace) : List String :=
  let name := if p.file.isTruthy then p.file.text else "<string>"
  let head := match p.line with
    | .null => []
    | line => ["  File \"" ++ name ++ "\", line " ++ line.text]
  match p.text with
  | none => head
  | some text =>
    head ++ ("    " ++ .ofList (shown text)) :: ((p.column.map (p.markLines text)).getD [])

/-- The file, named after the message if no line is known. -/
def suffix (p : SourcePlace) : String :=
  match p.line, p.file with
  | .null, .null => ""
  | .null, file => " (" ++ file.text ++ ")"
  | _, _ => ""

end SourcePlace

end LogLayout
