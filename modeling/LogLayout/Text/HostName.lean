import LogLayout.Text.LetterCase
import LogLayout.Text.Punycode
import LogLayout.Text.Quoted

/-!
# Host names

A host name consists of labels with dots between them. A label in ASCII stays as it is; any other
one is prepared, written in letters, digits and hyphens and marked. A label ends at a dot, so that
the last one of a text waits for the next text.
-/

namespace LogLayout.Text.HostName

/-- Why a label is refused. -/
inductive Fault
  | size
  | character (c : Char)
  | marked
  deriving Repr, DecidableEq

/-- The wording of a fault. -/
def Fault.message : Fault → String
  | size => "label empty or too long"
  | character c => "Invalid character " ++ quoted (.ofList [c])
  | marked => "Label starts with ACE prefix"

/-- Whether the number lies in one of the ranges. -/
def isIn (ranges : List (Nat × Nat)) (n : Nat) : Bool :=
  ranges.any fun range => range.1 ≤ n && n ≤ range.2

/-- The characters that are left out of a label. -/
def ignored : List (Nat × Nat) :=
  [(0xad, 0xad), (0x34f, 0x34f), (0x1806, 0x1806), (0x180b, 0x180d), (0x200b, 0x200d),
   (0x2060, 0x2060), (0xfe00, 0xfe0f), (0xfeff, 0xfeff)]

/-- The characters that no label may have. -/
def refused : List (Nat × Nat) :=
  [(0x80, 0x9f), (0x6dd, 0x6dd), (0x70f, 0x70f), (0x1680, 0x1680), (0x180e, 0x180e),
   (0x200e, 0x200f), (0x2028, 0x202e), (0x2061, 0x2063), (0x206a, 0x206f), (0x2ff0, 0x2ffb),
   (0xe000, 0xf8ff), (0xfdd0, 0xfdef), (0xfff9, 0xffff), (0x1d173, 0x1d17a), (0xe0001, 0xe0001),
   (0xe0020, 0xe007f), (0xf0000, 0x10ffff)]

/-- Whether no label may have the character: the last two of each plane are refused, too. -/
def isRefused (c : Char) : Bool := isIn refused c.toNat || 0xfffe ≤ c.toNat % 0x10000

/-- A letter in the form in which letters are compared. -/
def fold (c : Char) : List Char := (upperChar c).flatMap lowerChar

/-- A label in the form in which labels are compared. -/
def prepare (label : List Char) : Except Fault (List Char) :=
  let cs := (label.filter fun c => !isIn ignored c.toNat).flatMap fold
  match cs.find? isRefused with
  | some c => .error (.character c)
  | none => .ok cs

/-- Whether all characters are those of ASCII. -/
def isAscii (cs : List Char) : Bool := cs.all (·.toNat < 0x80)

/-- The label, unless its size is none of a label. -/
def sized (label : List Char) : Except Fault (List Char) :=
  if 0 < label.length && label.length < 64 then .ok label else .error .size

/-- What marks a label that was written in another way. -/
def mark : List Char := ['x', 'n', '-', '-']

/-- A label in ASCII. -/
def encodeLabel (label : List Char) : Except Fault (List Char) :=
  if isAscii label then sized label
  else do
    let prepared ← prepare label
    if isAscii prepared then sized prepared
    else if mark.isPrefixOf prepared then .error .marked
    else sized (mark ++ Punycode.encode prepared)

/-- The dots other than that of ASCII. -/
def wideDots : List Char := ['。', '．', '｡']

/-- The labels of a name. -/
def labels (cs : List Char) : List (List Char) :=
  (cs.map fun c => if wideDots.contains c then '.' else c).splitOn '.'

/-- The labels of a text that end, each with its dot, and the label that does not end. The text
begins with the one that did not end before. -/
def encode (unfinished cs : List Char) : Except Fault (List Char) × List Char :=
  let all := labels (unfinished ++ cs)
  match all.dropLast.mapM encodeLabel with
  | .error fault => (.error fault, unfinished)
  | .ok written => (.ok (written.flatMap (· ++ ['.'])), all.getLast?.getD [])

end LogLayout.Text.HostName
