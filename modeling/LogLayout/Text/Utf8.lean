import LogLayout.Text.Quoted

/-!
# Reading UTF-8

The first byte of a character tells how many bytes follow it. Bytes that write no character are
refused from the first one on as far as they could have been the start of one.
-/

namespace LogLayout.Text.Utf8

/-- Why bytes are refused. -/
inductive Reason
  | start
  | continuation
  | ending
  deriving Repr, DecidableEq, Inhabited

/-- The wording of a reason. -/
def Reason.message : Reason → String
  | start => "invalid start byte"
  | continuation => "invalid continuation byte"
  | ending => "unexpected end of data"

/-- The first bytes that write no character. -/
structure Fault where
  bytes : List UInt8
  position : Nat
  reason : Reason
  deriving Repr, DecidableEq, Inhabited

/-- The wording of a fault: a single byte is shown by number, several by position. -/
def Fault.message (f : Fault) : String :=
  let place := " in position " ++ toString f.position
  let which := match f.bytes with
    | [b] => "byte 0x" ++ .ofList (hexDigits 2 b.toNat) ++ place
    | bs => "bytes" ++ place ++ "-" ++ toString (f.position + bs.length - 1)
  "'utf-8' codec can't decode " ++ which ++ ": " ++ f.reason.message

/-- How many bytes follow a first byte, and the least and the greatest value of the next one. -/
def following? (b : UInt8) : Option (Nat × Nat × Nat) :=
  let n := b.toNat
  if n < 0x80 then some (0, 0, 0)
  else if n < 0xc2 then none
  else if n < 0xe0 then some (1, 0x80, 0xbf)
  else if n < 0xf0 then
    some (2, if n = 0xe0 then 0xa0 else 0x80, if n = 0xed then 0x9f else 0xbf)
  else if n < 0xf5 then
    some (3, if n = 0xf0 then 0x90 else 0x80, if n = 0xf4 then 0x8f else 0xbf)
  else none

/-- The first of at most `count` bytes that may follow, the next one within the bounds. -/
def continued (low high : Nat) : Nat → List UInt8 → List UInt8
  | count + 1, b :: bs =>
    if low ≤ b.toNat && b.toNat ≤ high then b :: continued 0x80 0xbf count bs else []
  | _, _ => []

/-- The number of a character: the low bits of its first byte, then six bits of each other. -/
def number (first : UInt8) (others : List UInt8) : Nat :=
  let low := first.toNat % [0x80, 0x20, 0x10, 0x08].getD others.length 0x80
  others.foldl (fun n b => n * 0x40 + b.toNat % 0x40) low

/-- The characters of bytes that begin at a position. -/
def decodeFrom (position : Nat) (bs : List UInt8) : Except Fault (List Char) :=
  match bs with
  | [] => .ok []
  | b :: rest =>
    match following? b with
    | none => .error ⟨[b], position, .start⟩
    | some (count, low, high) =>
      let others := continued low high count rest
      if others.length < count then
        let reason := if others.length = rest.length then .ending else .continuation
        .error ⟨b :: others, position, reason⟩
      else
        let c := Char.ofNat (number b others)
        (decodeFrom (position + 1 + count) (rest.drop count)).map (c :: ·)
termination_by bs.length
decreasing_by
  simp only [List.length_drop, List.length_cons]
  omega

/-- The text that bytes write. -/
def decode (bs : List UInt8) : Except Fault String := (decodeFrom 0 bs).map String.ofList

end LogLayout.Text.Utf8
