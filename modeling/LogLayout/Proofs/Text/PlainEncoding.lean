import LogLayout.Text.Encoding
import Mathlib.Data.List.TakeWhile

/-!
# Three plain encodings

UTF-8, ASCII and Latin-1 write a text without regard to what was written before, put no mark in
front of it, and write a newline as one byte. The bytes are told here without the way in which they
are found: those of the text in UTF-8, or the numbers of its characters if each of them fits.

Results:
1. `ofName_name`: the names that are usual for them.
2. `encode_plain`: the bytes of a text, and when there are none.
3. `bytes?_line`: a line of a file.
-/

namespace LogLayout.Text

/-! ## Definitions -/

/-- An encoding of these three. -/
inductive PlainEncoding
  | utf8
  | ascii
  | latin1
  deriving Repr, DecidableEq

namespace PlainEncoding

/-- The usual name. -/
def name : PlainEncoding → String
  | utf8 => "utf-8"
  | ascii => "ascii"
  | latin1 => "latin-1"

/-- The encoding of the name. -/
def encoding : PlainEncoding → Encoding
  | utf8 => .utf8
  | ascii => .ascii
  | latin1 => .latin1

/-- The numbers of the characters, if all of them are below the limit. -/
def numbersBelow (limit : Nat) (text : String) : Option (List UInt8) :=
  if text.toList.all (·.toNat < limit) then some (text.toList.map fun c => UInt8.ofNat c.toNat)
  else none

/-- The bytes of a text, unless it has a character that the encoding lacks. -/
def bytes? (e : PlainEncoding) (text : String) : Option (List UInt8) :=
  match e with
  | utf8 => some text.toUTF8.data.toList
  | ascii => numbersBelow 0x80 text
  | latin1 => numbersBelow 0x100 text

/-! ## 1. Names -/

theorem ofName_name (e : PlainEncoding) : Encoding.ofName e.name = .ok e.encoding := by
  have found : (Encoding.ofName e.name).toOption = some e.encoding := by
    cases e <;> decide +kernel
  cases outcome : Encoding.ofName e.name with
  | ok encoding =>
    rw [outcome] at found
    exact congrArg Except.ok (Option.some.inj found)
  | error fault =>
    rw [outcome] at found
    cases found

theorem mark_encoding (e : PlainEncoding) : e.encoding.mark = [] := by cases e <;> rfl

/-! ## 2. Texts -/

theorem isCharwise_encoding (e : PlainEncoding) : e.encoding.isCharwise = true := by
  cases e <;> rfl

theorem toUTF8_eq_flatMap (text : String) :
    text.toUTF8.data.toList = text.toList.flatMap String.utf8EncodeChar := by
  rw [String.toUTF8, ← String.utf8Encode_toList, List.utf8Encode, List.data_toByteArray,
    List.toList_toArray]

theorem numbersBelow_eq_some_iff {e : Encoding} {limit : Nat} {text : String} {bytes : List UInt8}
    (char : ∀ c, e.encodeChar? c = if c.toNat < limit then some [UInt8.ofNat c.toNat] else none) :
    numbersBelow limit text = some bytes ↔ (∀ c ∈ text.toList, e.has c = true) ∧
      bytes = text.toList.flatMap fun c => (e.encodeChar? c).getD [] := by
  have has (c : Char) : e.has c = true ↔ c.toNat < limit := by
    simp [Encoding.has, char]
  simp only [numbersBelow, has, List.all_eq_true, decide_eq_true_eq,
    Option.ite_none_right_eq_some, Option.some.injEq]
  refine and_congr_right fun below => ?_
  have each : text.toList.flatMap (fun c => (e.encodeChar? c).getD []) =
      text.toList.map fun c => UInt8.ofNat c.toNat := by
    rw [List.map_eq_flatMap, List.flatMap_def, List.flatMap_def]
    refine congrArg List.flatten (List.map_congr_left fun c member => ?_)
    rw [char, if_pos (below c member)]
    rfl
  rw [each, eq_comm]

/-- Character by character, a text is encoded if there are bytes for each of its characters. -/
theorem encodeChars_eq_ok_iff {e : Encoding} {cs : List Char} {bs : List UInt8} :
    e.encodeChars cs = .ok bs ↔
      (∀ c ∈ cs, e.has c = true) ∧ bs = cs.flatMap fun c => (e.encodeChar? c).getD [] := by
  rw [← List.dropWhile_eq_nil_iff]
  simp only [Encoding.encodeChars]
  cases rest : cs.dropWhile e.has with
  | nil => simp [eq_comm]
  | cons c rest' => simp

/-- A text has bytes exactly if the encoding has all its characters. -/
theorem bytes?_eq_some_iff {e : PlainEncoding} {text : String} {bytes : List UInt8} :
    e.bytes? text = some bytes ↔ e.encoding.encodeChars text.toList = .ok bytes := by
  rw [encodeChars_eq_ok_iff]
  cases e with
  | utf8 =>
    rw [bytes?, toUTF8_eq_flatMap]
    simp [encoding, Encoding.has, Encoding.encodeChar?, eq_comm]
  | ascii => exact numbersBelow_eq_some_iff fun c => rfl
  | latin1 => exact numbersBelow_eq_some_iff fun c => rfl

theorem encode_plain (e : PlainEncoding) (s : Encoding.State) (text : String) :
    (∃ bytes, e.bytes? text = some bytes ∧ e.encoding.encode s text.toList = (.ok bytes, s)) ∨
      (e.bytes? text = none ∧
        ∃ fault, e.encoding.encode s text.toList = (.error fault, s)) := by
  rw [Encoding.encode_of_isCharwise e.isCharwise_encoding]
  cases outcome : e.encoding.encodeChars text.toList with
  | ok bytes => exact .inl ⟨bytes, bytes?_eq_some_iff.2 outcome, rfl⟩
  | error fault =>
    refine .inr ⟨?_, fault, rfl⟩
    rw [Option.eq_none_iff_forall_ne_some]
    intro bytes some
    rw [bytes?_eq_some_iff.1 some] at outcome
    cases outcome

/-! ## 3. Lines -/

theorem numbersBelow_line {limit : Nat} (newline : 10 < limit) (line : String) :
    numbersBelow limit (line ++ "\n") = (numbersBelow limit line).map (· ++ [10]) := by
  have same : (line ++ "\n").toList.all (·.toNat < limit) = line.toList.all (·.toNat < limit) := by
    simp [newline]
  simp only [numbersBelow, same]
  split
  · simp
  · rfl

/-- The bytes of a line end with the one of the newline. -/
theorem bytes?_line (e : PlainEncoding) (line : String) :
    e.bytes? (line ++ "\n") = (e.bytes? line).map (· ++ [10]) := by
  cases e with
  | utf8 =>
    have newline : "\n".toUTF8.data.toList = [10] := by decide
    simpa [bytes?] using newline
  | ascii => exact numbersBelow_line (by decide) line
  | latin1 => exact numbersBelow_line (by decide) line

end PlainEncoding

end LogLayout.Text
