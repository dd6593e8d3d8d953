import LogLayout.Text.Blank

/-!
# Tokens of a pattern

A conversion pattern is literal text with directives: a percent sign, modifiers, a word, and
possibly an option in braces. A percent sign that does not start a directive is literal. Main
statement: `scan_text`, the tokens joined give the pattern.
-/

namespace LogLayout.Pattern

/-- A directive and where it starts in the pattern. -/
structure Directive where
  modifiers : List Char
  word : List Char
  /-- The text between the braces, if there are any. -/
  raw : Option (List Char) := none
  start : Nat := 0
  deriving Repr, DecidableEq, Inhabited

namespace Directive

/-- The directive as it stands in the pattern. -/
def text (d : Directive) : List Char :=
  '%' :: d.modifiers ++ d.word ++
    match d.raw with
    | none => []
    | some raw => '\x7b' :: raw ++ ['\x7d']

/-- The position after the directive. -/
def stop (d : Directive) : Nat := d.start + d.text.length

/-- The option: the text between the braces without the blanks at its ends. -/
def option (d : Directive) : Option (List Char) := d.raw.map Text.stripChars

end Directive

/-- A part of a pattern. -/
inductive Token
  | literal (text : List Char)
  | directive (d : Directive)
  deriving Repr, DecidableEq, Inhabited

/-- The token as it stands in the pattern. -/
def Token.text : Token → List Char
  | literal text => text
  | directive d => d.text

/-- The characters of modifiers. -/
def isModifierChar (c : Char) : Bool := c.isDigit || c = '.' || c = '-'

/-- The text between braces at the front of `cs`, and what follows them. -/
def readBraces? (cs : List Char) : Option (List Char × List Char) :=
  match cs with
  | '\x7b' :: cs =>
    match cs.dropWhile (· ≠ '\x7d') with
    | [] => none
    | _ :: rest => some (cs.takeWhile (· ≠ '\x7d'), rest)
  | _ => none

/-- The directive at the front of `cs`, and what follows it. -/
def readDirective? (cs : List Char) : Option (Directive × List Char) :=
  match cs with
  | '%' :: cs =>
    let modifiers := cs.takeWhile isModifierChar
    let afterModifiers := cs.dropWhile isModifierChar
    let word := afterModifiers.takeWhile Char.isAlpha
    let afterWord := afterModifiers.dropWhile Char.isAlpha
    if word.isEmpty then none
    else
      match readBraces? afterWord with
      | some (raw, rest) => some ({ modifiers, word, raw := some raw }, rest)
      | none => some ({ modifiers, word }, afterWord)
  | _ => none

theorem readBraces?_text {cs raw rest : List Char} (h : readBraces? cs = some (raw, rest)) :
    cs = '\x7b' :: raw ++ '\x7d' :: rest := by
  unfold readBraces? at h
  split at h
  · next cs =>
    split at h
    · simp at h
    · next c rest' found =>
      simp only [Option.some.injEq, Prod.mk.injEq] at h
      have closing : c = '\x7d' := by
        have := List.head?_dropWhile_not (fun c => decide (c ≠ '\x7d')) cs
        rw [found] at this
        simpa using this
      have := List.takeWhile_append_dropWhile (p := fun c => decide (c ≠ '\x7d')) (l := cs)
      rw [found, closing, h.1, h.2] at this
      simp [← this]
  · simp at h

theorem readDirective?_text {cs rest : List Char} {d : Directive}
    (h : readDirective? cs = some (d, rest)) : cs = d.text ++ rest := by
  unfold readDirective? at h
  split at h
  · next cs =>
    have whole : cs = cs.takeWhile isModifierChar ++
        ((cs.dropWhile isModifierChar).takeWhile Char.isAlpha ++
          (cs.dropWhile isModifierChar).dropWhile Char.isAlpha) := by simp
    dsimp only at h
    split at h
    · simp at h
    · split at h
      · next braces =>
        simp only [Option.some.injEq, Prod.mk.injEq] at h
        obtain ⟨rfl, rfl⟩ := h
        rw [readBraces?_text braces] at whole
        simp only [Directive.text]
        conv => lhs; rw [whole]
        simp
      · simp only [Option.some.injEq, Prod.mk.injEq] at h
        obtain ⟨rfl, rfl⟩ := h
        simp [Directive.text]
  · simp at h

theorem Directive.text_ne_nil (d : Directive) : d.text ≠ [] := by simp [text]

theorem readDirective?_length {cs rest : List Char} {d : Directive}
    (h : readDirective? cs = some (d, rest)) : rest.length < cs.length := by
  have := congrArg List.length (readDirective?_text h)
  have := List.length_pos_iff.2 d.text_ne_nil
  simp only [List.length_append] at *
  omega

/-- The literal text at the front of `cs`, up to the first directive, and what follows it. -/
def readLiteral : List Char → List Char × List Char
  | [] => ([], [])
  | c :: cs =>
    if (readDirective? (c :: cs)).isSome then ([], c :: cs)
    else
      let (text, rest) := readLiteral cs
      (c :: text, rest)

theorem readLiteral_text (cs : List Char) : (readLiteral cs).1 ++ (readLiteral cs).2 = cs := by
  induction cs with
  | nil => rfl
  | cons c cs ih => rw [readLiteral]; split <;> simp [ih]

/-- The tokens of `cs`, which starts at `position` of the pattern. -/
def scanFrom (position : Nat) (cs : List Char) : List Token :=
  let text := (readLiteral cs).1
  let literal := if text.isEmpty then [] else [Token.literal text]
  match _h : readDirective? (readLiteral cs).2 with
  | none => literal
  | some (d, rest) =>
    let d := { d with start := position + text.length }
    literal ++ .directive d :: scanFrom d.stop rest
termination_by cs.length
decreasing_by
  have := readDirective?_length _h
  have := congrArg List.length (readLiteral_text cs)
  simp only [List.length_append] at *
  omega

/-- The tokens of a pattern, in order. -/
def scan (pattern : List Char) : List Token := scanFrom 0 pattern

theorem readLiteral_rest {cs : List Char} (h : readDirective? (readLiteral cs).2 = none) :
    (readLiteral cs).2 = [] := by
  induction cs with
  | nil => rfl
  | cons c cs ih =>
    rw [readLiteral] at h ⊢
    split at h
    · next found => simp only [h] at found; simp at found
    · next none => simpa [none] using ih h

theorem scanFrom_text (position : Nat) (cs : List Char) :
    (scanFrom position cs).flatMap Token.text = cs := by
  fun_induction scanFrom position cs with
  | case1 position cs text literal none =>
    have whole := readLiteral_text cs
    rw [readLiteral_rest none, List.append_nil] at whole
    simp only [literal, text]
    split <;> simp_all [Token.text]
  | case2 position cs text literal d rest found d' ih =>
    have whole := readLiteral_text cs
    rw [readDirective?_text found] at whole
    have same : d'.text = d.text := rfl
    simp only [List.flatMap_append, List.flatMap_cons, ih, Token.text, same]
    simp only [literal, text]
    split <;> simp_all [Token.text]

theorem scan_text (pattern : List Char) : (scan pattern).flatMap Token.text = pattern :=
  scanFrom_text 0 pattern

end LogLayout.Pattern
