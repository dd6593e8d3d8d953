import LogLayout.Fault

/-!
# Conversion of settings

A setting may be given as what it stands for or as a text that writes it.
-/

namespace LogLayout.Setting

/-- The words for true. -/
def trueWords : List String := ["1", "true", "on", "yes"]

/-- The words for false. -/
def falseWords : List String := ["0", "false", "off", "no"]

/-- The truth value of a word; blanks around it and the case of its letters do not count. -/
def readBoolean? (s : String) : Option Bool :=
  let word := Text.lower (Text.strip s)
  if trueWords.contains word then some true
  else if falseWords.contains word then some false
  else none

/-- The truth value that a setting stands for. -/
def toBoolean (v : Value) : Except Fault Bool :=
  let found := match v with
    | .bool b => some b
    | .int n => if n = 1 then some true else if n = 0 then some false else none
    | .str s => readBoolean? s
    | _ => none
  match found with
  | some b => .ok b
  | none => .error (.setting v .boolean)

/-- A whole number as a setting. A level counts as its number and stays a level. -/
inductive Quantity
  | number (n : Int)
  | level (l : Level)
  deriving Repr, DecidableEq

instance : Inhabited Quantity := ⟨.number 0⟩

/-- The number that counts. -/
def Quantity.toInt : Quantity → Int
  | number n => n
  | level l => l.number

/-- The quantity as a value. -/
def Quantity.value : Quantity → Value
  | number n => .int n
  | level l => .level l

/-- Whether the text is a whole number without a plus or underscores, possibly between blanks. -/
def isPlainNumeral (s : String) : Bool :=
  let inner := Text.stripChars s.toList
  let digits := if inner.head? = some '-' then inner.drop 1 else inner
  !digits.isEmpty && digits.all fun c => (Text.digitValue? c).isSome

/-- The whole number that a setting stands for. -/
def toInteger (v : Value) : Except Fault Quantity :=
  match v with
  | .int n => .ok (.number n)
  | .level l => .ok (.level l)
  | .str s =>
    if isPlainNumeral s then
      match Text.readInteger s with
      | .ok n => .ok (.number n)
      | .error fault => .error (.numeral fault)
    else .error (.setting v .integer)
  | _ => .error (.setting v .integer)

/-- The whole number above zero that a setting stands for. -/
def toPositiveInteger (v : Value) : Except Fault Quantity :=
  match toInteger v with
  | .error fault => .error fault
  | .ok q => if q.toInt ≤ 0 then .error (.setting v .positiveInteger) else .ok q

/-- The level that a setting stands for, by name or number. -/
def toLevel (v : Value) : Except Fault Level :=
  let found := match v with
    | .level l => some l
    | .int n => Level.ofNumber? n
    | .str s => Level.ofText? s
    | _ => none
  match found with
  | some l => .ok l
  | none => .error (.setting v .level)

end LogLayout.Setting

namespace LogLayout.Level

/-- The level that a value names by its text, else the one to fall back on. -/
def ofValue (v : Value) (fallback : Option Level) : Except Fault Level :=
  match (ofText? v.text).or fallback with
  | some l => .ok l
  | none => .error (.unknownLevelText v)

/-- The level of a number. -/
def ofInt (n : Int) : Except Fault Level :=
  match ofNumber? n with
  | some l => .ok l
  | none => .error (.unknownLevelNumber n)

end LogLayout.Level
