import LogLayout.Pattern.Width
import LogLayout.Warning

/-!
# Modifiers

The text between the percent sign and the word of a directive: a numeral for the smallest width,
and after a point one for the largest, each with an optional minus, and at least one of them. A
minus changes the side on which text is filled up or cut. Malformed modifiers do not count.
-/

namespace LogLayout.Pattern

/-- Whether `cs` is an optional minus and at least one digit. -/
def isNumeral (cs : List Char) : Bool :=
  let digits := if cs.head? = some '-' then cs.drop 1 else cs
  !digits.isEmpty && digits.all Char.isDigit

/-- The parts before and after the first point; no second part without a point. -/
def splitPoint (cs : List Char) : List Char × Option (List Char) :=
  match cs.dropWhile (· ≠ '.') with
  | [] => (cs, none)
  | _ :: rest => (cs.takeWhile (· ≠ '.'), some rest)

/-- The text without a newline at its end. -/
def dropFinalNewline (cs : List Char) : List Char :=
  if cs.getLast? = some '\n' then cs.dropLast else cs

/-- The numerals of the smallest and the largest width, if the modifiers are well-formed. A
newline at their end does not count. -/
def widthNumerals? (modifiers : List Char) : Option (Option (List Char) × Option (List Char)) :=
  match splitPoint (dropFinalNewline modifiers) with
  | ([], none) => none
  | ([], some most) => if isNumeral most then some (none, some most) else none
  | (least, none) => if isNumeral least then some (some least, none) else none
  | (least, some most) =>
    if isNumeral least && isNumeral most then some (some least, some most) else none

/-- The number that the numeral of a width writes; zero if there is none. -/
def widthNumber : Option (List Char) → Except Fault Int
  | none => .ok 0
  | some numeral =>
    match Text.readInteger (.ofList numeral) with
    | .ok n => .ok n
    | .error fault => .error (.numeral fault)

/-- The width rules for two numbers; zero stands for no width. -/
def Width.ofNumbers (least most : Int) : Width where
  atLeast := least.natAbs
  padLeft := 0 ≤ least
  atMost := if most = 0 then none else some most.natAbs
  trimLeft := most < 0

/-- The width rules that modifiers write, with a warning if they are malformed. -/
def Width.ofModifiers (modifiers : List Char) : Except Fault (Width × List Warning) :=
  if modifiers.isEmpty then .ok ({}, [])
  else
    match widthNumerals? modifiers with
    | none => .ok ({}, [.modifiers (.ofList modifiers)])
    | some (least, most) => do
      let least ← widthNumber least
      let most ← widthNumber most
      return (.ofNumbers least most, [])

end LogLayout.Pattern
