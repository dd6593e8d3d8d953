import LogLayout.Value
import LogLayout.Text.Lines

/-!
# References in texts

A text may refer to variables as `${NAME}`. Each reference is replaced by the text of the
variable, or by nothing if there is none; what was put in is not read again. Main statement:
`pieces_text`, the pieces of a text joined give the text.
-/

namespace LogLayout.Setting

/-- A part of a text with references. -/
inductive Piece
  | literal (c : Char)
  | reference (name : List Char)
  deriving Repr, DecidableEq

/-- The piece as it stands in the text. -/
def Piece.text : Piece → List Char
  | literal c => [c]
  | reference name => '$' :: '\x7b' :: name ++ ['\x7d']

/-- The name of the reference at the front of `cs`, and what follows it. A name is not empty and
ends at the first closing brace. -/
def readReference? (cs : List Char) : Option (List Char × List Char) :=
  match cs with
  | '$' :: '\x7b' :: cs =>
    let name := cs.takeWhile (· ≠ '\x7d')
    match cs.dropWhile (· ≠ '\x7d') with
    | [] => none
    | _ :: rest => if name.isEmpty then none else some (name, rest)
  | _ => none

theorem readReference?_text {cs name rest : List Char}
    (h : readReference? cs = some (name, rest)) :
    cs = (Piece.reference name).text ++ rest := by
  unfold readReference? at h
  split at h
  · next cs =>
    dsimp only at h
    split at h
    · simp at h
    · next c rest' found =>
      simp only [Option.ite_none_left_eq_some, Option.some.injEq, Prod.mk.injEq] at h
      have closing : c = '\x7d' := by
        have := List.head?_dropWhile_not (fun c => decide (c ≠ '\x7d')) cs
        rw [found] at this
        simpa using this
      have := List.takeWhile_append_dropWhile (p := fun c => decide (c ≠ '\x7d')) (l := cs)
      rw [found, closing, h.2.1, h.2.2] at this
      simp [Piece.text, ← this]
  · simp at h

theorem readReference?_length {cs name rest : List Char}
    (h : readReference? cs = some (name, rest)) : rest.length < cs.length := by
  have := congrArg List.length (readReference?_text h)
  simp only [Piece.text, List.length_append, List.length_cons] at this
  omega

/-- The pieces of a text, in order. -/
def pieces (cs : List Char) : List Piece :=
  match _h : readReference? cs with
  | some (name, rest) => .reference name :: pieces rest
  | none =>
    match cs with
    | [] => []
    | c :: cs => .literal c :: pieces cs
termination_by cs.length
decreasing_by
  · exact readReference?_length _h
  · simp

theorem pieces_text (cs : List Char) : (pieces cs).flatMap Piece.text = cs := by
  fun_induction pieces cs with
  | case1 cs name rest found ih => simp [ih, readReference?_text found]
  | case2 => rfl
  | case3 c cs none ih => simp [ih, Piece.text]

/-- What a piece is replaced by. -/
def Piece.value (table : List (String × Value)) : Piece → List Char
  | literal c => [c]
  | reference name =>
    match table.lookup (.ofList name) with
    | some v => v.text.toList
    | none => []

/-- The text with its references replaced. -/
def substitute (table : List (String × Value)) (s : String) : String :=
  .ofList ((pieces s.toList).flatMap (·.value table))

/-- The variables of an environment. -/
def ofEnvironment (environment : List (String × String)) : List (String × Value) :=
  environment.map fun entry => (entry.1, .str entry.2)

end LogLayout.Setting
