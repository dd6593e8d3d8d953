import LogLayout.Text.Units

/-!
# Text in seven bits

Letters, digits and most marks of ASCII stand for themselves. A run of other characters is shifted:
after a plus sign its units of sixteen bits follow in digits of six bits each, and a minus sign ends
the run where what follows could be taken for a part of it. A plus sign by itself is followed by a
minus sign.
-/

namespace LogLayout.Text.Utf7

/-- The digits of six bits. -/
def digits : List Char :=
  "ABCDEFGHIJKLMNOPQRSTUVWXYZabcdefghijklmnopqrstuvwxyz0123456789+/".toList

/-- Whether the character stands for itself. -/
def isDirect (c : Char) : Bool :=
  c.isAlphanum || " \t\n\r'(),-./:?!\"#$%&*;<=>@[]^_`\x7b|\x7d".toList.contains c

/-- The digit of up to six bits, filled up with zeros. -/
def digit (bs : List Bool) : Char :=
  let filled := bs ++ List.replicate (6 - bs.length) false
  digits.getD (filled.foldl (fun n b => 2 * n + b.toNat) 0) 'A'

/-- One digit for every six bits. -/
def digitsOf : List Bool → List Char
  | a :: b :: c :: d :: e :: f :: rest => digit [a, b, c, d, e, f] :: digitsOf rest
  | [] => []
  | few => [digit few]

/-- The end of a shifted run before the character that follows. -/
def close (c : Char) : List Char := if digits.contains c || c = '-' then ['-'] else []

/-- The text after the bits of the run that was begun, if one was. -/
def encodeFrom : Option (List Bool) → List Char → List Char
  | none, [] => []
  | some run, [] => digitsOf run ++ ['-']
  | none, c :: cs =>
    if c = '+' then '+' :: '-' :: encodeFrom none cs
    else if isDirect c then c :: encodeFrom none cs
    else '+' :: encodeFrom (some ((units16 c.toNat).flatMap (bits 16))) cs
  | some run, c :: cs =>
    if isDirect c then digitsOf run ++ close c ++ c :: encodeFrom none cs
    else encodeFrom (some (run ++ (units16 c.toNat).flatMap (bits 16))) cs

/-- The text in seven bits. -/
def encode (cs : List Char) : List Char := encodeFrom none cs

end LogLayout.Text.Utf7
