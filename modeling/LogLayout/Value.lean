import LogLayout.Level
import LogLayout.Number.Binary64
import LogLayout.Text.Quoted

/-!
# Values

What a caller may hand over without the library knowing its type beforehand: settings from a
configuration structure, message objects and the extra fields of an entry. A value has two texts:
`Value.quote` writes it so that its kind can be seen, `Value.text` leaves a plain text as it is.
-/

namespace LogLayout

/-- A dynamic value. The keys of an object keep the order in which they were given. -/
inductive Value
  | null
  | bool (b : Bool)
  | int (n : Int)
  | float (x : Number.Binary64)
  | str (s : String)
  | bytes (bs : List UInt8)
  | list (vs : List Value)
  | tuple (vs : List Value)
  | object (fields : List (String × Value))
  | level (l : Level)
  deriving Repr, Inhabited

namespace Value

/-- The name of the value's kind, as messages about a wrong kind show it. -/
def kindName : Value → String
  | null => "NoneType"
  | bool _ => "bool"
  | int _ => "int"
  | float _ => "float"
  | str _ => "str"
  | bytes _ => "bytes"
  | list _ => "list"
  | tuple _ => "tuple"
  | object _ => "dict"
  | level _ => "LogLevel"

/-- False for nothing, zero and whatever is empty. -/
def isTruthy : Value → Bool
  | null => false
  | bool b => b
  | int n => n ≠ 0
  | float x => !x.isZero
  | str s => !s.isEmpty
  | bytes bs => !bs.isEmpty
  | list vs => !vs.isEmpty
  | tuple vs => !vs.isEmpty
  | object fields => !fields.isEmpty
  | level _ => true

/-- The integer that a value stands for. -/
def integer? : Value → Option Int
  | int n => some n
  | bool b => some (if b then 1 else 0)
  | level l => some l.number
  | _ => none

/-- What a value is a row of, if it is one: the members of a list, the characters of a text, the
numbers of bytes, the keys of an object. -/
def members? : Value → Option (List Value)
  | list vs | tuple vs => some vs
  | str s => some (s.toList.map fun c => str (.ofList [c]))
  | bytes bs => some (bs.map fun b => int b.toNat)
  | object fields => some (fields.map fun f => str f.1)
  | _ => none

/-! ## Texts -/

/-- The text of a truth value. -/
def boolText (b : Bool) : String := if b then "True" else "False"

/-- The quoted text of a level: its name and its number. -/
def levelQuote (l : Level) : String :=
  "<LogLevel." ++ l.name ++ ": " ++ toString l.number ++ ">"

mutual

/-- The value written so that its kind can be seen: text in quotes, lists in brackets. -/
def quote : Value → String
  | null => "None"
  | bool b => boolText b
  | int n => toString n
  | float x => x.text
  | str s => Text.quoted s
  | bytes bs => Text.quotedBytes bs
  | list vs => "[" ++ ", ".intercalate (quoteAll vs) ++ "]"
  | tuple [v] => "(" ++ quote v ++ ",)"
  | tuple vs => "(" ++ ", ".intercalate (quoteAll vs) ++ ")"
  | object fields => "\x7b" ++ ", ".intercalate (quoteFields fields) ++ "\x7d"
  | level l => levelQuote l

/-- The quoted members of a list. -/
def quoteAll : List Value → List String
  | [] => []
  | v :: vs => quote v :: quoteAll vs

/-- The quoted members of an object, each key before its value. -/
def quoteFields : List (String × Value) → List String
  | [] => []
  | (key, v) :: fields => (Text.quoted key ++ ": " ++ quote v) :: quoteFields fields

end

/-- The plain text of a value: a text is itself, a level its name, all else its quoted form. Whole
numbers are taken to have at most 4300 digits; longer ones have no text. -/
def text : Value → String
  | str s => s
  | level l => l.name
  | v => quote v

/-- The value of a key of an object. -/
def field? (fields : List (String × Value)) (key : String) : Option Value := fields.lookup key

/-- Gives a key of an object a value. A key that is there already keeps its place. -/
def putField (fields : List (String × Value)) (key : String) (v : Value) : List (String × Value) :=
  if fields.any (·.1 = key) then fields.map fun f => if f.1 = key then (key, v) else f
  else fields ++ [(key, v)]

end Value

end LogLayout
