import LogLayout.Pattern.Compile

/-!
# Readings of a pattern

A reading cuts a pattern into literal text and directives. It is described without the scanner:
nothing is lost, literals neither touch nor hold a directive, and a directive goes on for as long
as it can. Each pattern has one reading only, and the scanner finds it.

Results:
1. `readDirective?_append`, `readLiteral_append`: the readers give back what stands in front of a
   text that cannot go on.
2. `isReading_literal_cons`, `isReading_directive_cons`: what a reading says of its first token.
3. `isReading_iff`: the readings of a text are the tokens that the scanner finds in it.
4. `scanValue_only_reading`: scanning a pattern gives its only reading, and each token scanned
   alone is found again.
-/

namespace LogLayout.Pattern

/-! ## Definitions -/

/-- A directive begins at the front of `cs`: a percent sign, modifiers and a letter. -/
def StartsDirective (cs : List Char) : Prop :=
  ∃ modifiers letter rest, cs = '%' :: modifiers ++ letter :: rest ∧
    (∀ c ∈ modifiers, isModifierChar c = true) ∧ letter.isAlpha = true

/-- A directive begins somewhere in `cs`. -/
def HoldsDirective (cs : List Char) : Prop :=
  ∃ before rest, cs = before ++ rest ∧ StartsDirective rest

/-- `inner` is what lies between the blanks at the ends of `cs`. -/
def IsTrimmed (inner cs : List Char) : Prop :=
  Text.IsStripped inner ∧ ∃ left right, cs = left ++ inner ++ right ∧
    (∀ c ∈ left, Text.isBlank c = true) ∧ ∀ c ∈ right, Text.isBlank c = true

/-- The parts of a directive are made of the characters that they may have, and its text and its
option are made of the parts. -/
structure Directive.IsWellFormed (d : Directive) : Prop where
  modifiers : ∀ c ∈ d.modifiers, isModifierChar c = true
  word_ne_nil : d.word ≠ []
  word : ∀ c ∈ d.word, c.isAlpha = true
  plain : d.raw = none → d.text = '%' :: d.modifiers ++ d.word ∧ d.option = none
  braced : ∀ raw, d.raw = some raw → '\x7d' ∉ raw ∧
    d.text = '%' :: d.modifiers ++ d.word ++ '\x7b' :: raw ++ ['\x7d'] ∧
    ∃ inner, d.option = some inner ∧ IsTrimmed inner raw

/-- Neither the word nor the option of the directive can go on in the text that follows it. -/
def Directive.EndsBefore (d : Directive) (rest : List Char) : Prop :=
  d.raw = none → (∀ c ∈ rest.head?, c.isAlpha = false) ∧
    ∀ tail, rest = '\x7b' :: tail → '\x7d' ∉ tail

/-- The tokens are a reading of `cs`, which starts at `position` of the pattern. -/
structure IsReading (position : Nat) (cs : List Char) (tokens : List Token) : Prop where
  /-- The tokens joined give the text. -/
  text : tokens.flatMap Token.text = cs
  /-- Each directive knows where it stands. -/
  places : ∀ before d after, tokens = before ++ .directive d :: after →
    d.start = position + (before.flatMap Token.text).length ∧
    d.stop = position + ((before ++ [.directive d]).flatMap Token.text).length
  literal_ne_nil : .literal [] ∉ tokens
  /-- No two literals stand side by side. -/
  separate : ∀ before a b after, tokens ≠ before ++ .literal a :: .literal b :: after
  wellFormed : ∀ d, .directive d ∈ tokens → d.IsWellFormed
  /-- Words and options are as long as they can be. -/
  maximal : ∀ before d after, tokens = before ++ .directive d :: after →
    d.EndsBefore (after.flatMap Token.text)
  /-- No directive begins in a literal. -/
  free : ∀ text, .literal text ∈ tokens → ¬ HoldsDirective text

/-- The token as it stands when it is the whole pattern. -/
def Token.alone : Token → Token
  | literal text => literal text
  | directive d => directive { d with start := 0 }

/-! ## Helpers -/

/-- A letter is no character of modifiers. -/
theorem isModifierChar_of_isAlpha {c : Char} (h : c.isAlpha = true) : isModifierChar c = false := by
  have notDigit : c.isDigit = false := by
    change (decide (c.val ≥ 65 ∧ c.val ≤ 90) ||
      (decide (c.val ≥ 97) && decide (c.val ≤ 122))) = true at h
    simp only [Char.isDigit, Bool.or_eq_true, Bool.and_eq_true, decide_eq_true_eq,
      Bool.and_eq_false_iff, decide_eq_false_iff_not, ge_iff_le, UInt32.le_iff_toNat_le] at h ⊢
    change (65 ≤ c.toNat ∧ c.toNat ≤ 90) ∨ (97 ≤ c.toNat ∧ c.toNat ≤ 122) at h
    change ¬ 48 ≤ c.toNat ∨ ¬ c.toNat ≤ 57
    omega
  have notPoint : c ≠ '.' := by rintro rfl; exact absurd h (by decide)
  have notMinus : c ≠ '-' := by rintro rfl; exact absurd h (by decide)
  simp [isModifierChar, notDigit, notPoint, notMinus]

/-- A run of characters with a property that the next character does not have. -/
theorem takeWhile_append_of_head {p : Char → Bool} {run : List Char} (rest : List Char)
    (inside : ∀ c ∈ run, p c = true) (outside : ∀ c ∈ rest.head?, p c = false) :
    (run ++ rest).takeWhile p = run ∧ (run ++ rest).dropWhile p = rest := by
  rw [List.takeWhile_append_of_pos inside, List.dropWhile_append_of_pos inside]
  cases rest with
  | nil => simp
  | cons c rest => simp [outside c (by simp)]

/-- A run up to the first of a certain character. -/
theorem takeWhile_ne_append {stop : Char} {run : List Char} (rest : List Char) (free : stop ∉ run)
    (ends : ∀ c ∈ rest.head?, c = stop) :
    (run ++ rest).takeWhile (· ≠ stop) = run ∧ (run ++ rest).dropWhile (· ≠ stop) = rest := by
  apply takeWhile_append_of_head rest
  · intro c member
    simpa using ne_of_mem_of_not_mem member free
  · simpa using ends

theorem isTrimmed_stripChars (cs : List Char) : IsTrimmed (Text.stripChars cs) cs := by
  refine ⟨Text.isStripped_stripChars cs, cs.takeWhile Text.isBlank,
    ((cs.dropWhile Text.isBlank).reverse.takeWhile Text.isBlank).reverse, ?_, ?_, ?_⟩
  · rw [Text.stripChars, List.append_assoc, ← List.reverse_append,
      List.takeWhile_append_dropWhile, List.reverse_reverse, List.takeWhile_append_dropWhile]
  · exact fun c h => List.all_eq_true.1 List.all_takeWhile c h
  · intro c h
    rw [List.mem_reverse] at h
    exact List.all_eq_true.1 List.all_takeWhile c h

/-- Parts made of the right characters are all that a well-formed directive needs. -/
theorem Directive.isWellFormed_of_parts {d : Directive}
    (modifiers : ∀ c ∈ d.modifiers, isModifierChar c = true) (word_ne_nil : d.word ≠ [])
    (word : ∀ c ∈ d.word, c.isAlpha = true) (raw : ∀ raw, d.raw = some raw → '\x7d' ∉ raw) :
    d.IsWellFormed where
  modifiers := modifiers
  word_ne_nil := word_ne_nil
  word := word
  plain := fun none => by simp [text, option, none]
  braced := fun cs found =>
    ⟨raw cs found, by simp [text, found], Text.stripChars cs, by simp [option, found],
      isTrimmed_stripChars cs⟩

/-- Where a directive stands does not matter for its form. -/
theorem Directive.IsWellFormed.moved {d : Directive} (wellFormed : d.IsWellFormed) (start : Nat) :
    Directive.IsWellFormed { d with start } where
  modifiers := wellFormed.modifiers
  word_ne_nil := wellFormed.word_ne_nil
  word := wellFormed.word
  plain := wellFormed.plain
  braced := wellFormed.braced

theorem Directive.IsWellFormed.startsDirective {d : Directive} (wellFormed : d.IsWellFormed)
    (rest : List Char) : StartsDirective (d.text ++ rest) := by
  obtain ⟨letter, letters, word⟩ := List.exists_cons_of_ne_nil wellFormed.word_ne_nil
  have whole : ∃ tail, d.text ++ rest = '%' :: d.modifiers ++ letter :: tail := by
    rw [Directive.text, word]
    simp only [List.cons_append, List.append_assoc]
    exact ⟨_, rfl⟩
  obtain ⟨tail, whole⟩ := whole
  exact ⟨d.modifiers, letter, tail, whole, wellFormed.modifiers,
    wellFormed.word letter (by simp [word])⟩

theorem not_startsDirective_nil : ¬ StartsDirective [] := by
  rintro ⟨modifiers, letter, tail, whole, -⟩
  simp at whole

theorem not_holdsDirective_nil : ¬ HoldsDirective [] := by
  rintro ⟨before, rest, whole, starts⟩
  obtain ⟨-, rfl⟩ := List.append_eq_nil_iff.1 whole.symm
  exact not_startsDirective_nil starts

theorem holdsDirective_cons {c : Char} {cs : List Char} :
    HoldsDirective (c :: cs) ↔ StartsDirective (c :: cs) ∨ HoldsDirective cs := by
  constructor
  · rintro ⟨before, rest, whole, starts⟩
    cases before with
    | nil => exact .inl (whole ▸ starts)
    | cons b before =>
      simp only [List.cons_append, List.cons.injEq] at whole
      exact .inr ⟨before, rest, whole.2, starts⟩
  · rintro (starts | ⟨before, rest, rfl, starts⟩)
    · exact ⟨[], c :: cs, rfl, starts⟩
    · exact ⟨c :: before, rest, rfl, starts⟩

/-! ## 1. The readers -/

theorem readBraces?_append {raw : List Char} (free : '\x7d' ∉ raw) (rest : List Char) :
    readBraces? ('\x7b' :: raw ++ '\x7d' :: rest) = some (raw, rest) := by
  obtain ⟨taken, dropped⟩ := takeWhile_ne_append ('\x7d' :: rest) free (by simp)
  simp only [readBraces?, List.cons_append, taken, dropped]

/-- The braces are missing exactly where none opens or the one that opens stays open. -/
theorem readBraces?_eq_none_iff {cs : List Char} :
    readBraces? cs = none ↔ ∀ tail, cs = '\x7b' :: tail → '\x7d' ∉ tail := by
  constructor
  · rintro missing tail rfl closing
    obtain ⟨raw, rest, rfl, free⟩ := List.eq_append_cons_of_mem closing
    have found := readBraces?_append free rest
    rw [List.cons_append, missing] at found
    exact absurd found (by simp)
  · intro unclosed
    cases found : readBraces? cs with
    | none => rfl
    | some read =>
      obtain ⟨raw, rest⟩ := read
      exact absurd (by simp) (unclosed (raw ++ '\x7d' :: rest) (by
        simpa using readBraces?_text found))

theorem not_mem_of_readBraces? {cs raw rest : List Char} (h : readBraces? cs = some (raw, rest)) :
    '\x7d' ∉ raw := by
  unfold readBraces? at h
  split at h
  · split at h
    · simp at h
    · simp only [Option.some.injEq, Prod.mk.injEq] at h
      rw [← h.1]
      intro closing
      exact absurd (List.all_eq_true.1 List.all_takeWhile _ closing) (by simp)
  · simp at h

/-- Modifiers and a word at the front of a text are read as they stand if no letter follows. -/
theorem readDirective?_word {modifiers word rest : List Char}
    (mods : ∀ c ∈ modifiers, isModifierChar c = true) (nonempty : word ≠ [])
    (letters : ∀ c ∈ word, c.isAlpha = true) (noLetter : ∀ c ∈ rest.head?, c.isAlpha = false) :
    readDirective? ('%' :: modifiers ++ word ++ rest) =
      (readBraces? rest).elim (some ({ modifiers, word }, rest)) fun read =>
        some ({ modifiers, word, raw := some read.1 }, read.2) := by
  have noModifier : ∀ c ∈ (word ++ rest).head?, isModifierChar c = false := by
    obtain ⟨letter, tail, rfl⟩ := List.exists_cons_of_ne_nil nonempty
    have alpha : letter.isAlpha = true := letters letter (by simp)
    simp [isModifierChar_of_isAlpha alpha]
  obtain ⟨takenMods, afterMods⟩ := takeWhile_append_of_head (word ++ rest) mods noModifier
  obtain ⟨takenWord, afterWord⟩ := takeWhile_append_of_head rest letters noLetter
  simp only [readDirective?, List.cons_append, List.append_assoc, takenMods, afterMods, takenWord,
    afterWord, List.isEmpty_iff, if_neg nonempty]
  cases readBraces? rest with
  | none => rfl
  | some read => rfl

/-- A directive is found at the front of any text in which it cannot go on. -/
theorem readDirective?_append {d : Directive} {rest : List Char} (wellFormed : d.IsWellFormed)
    (ends : d.EndsBefore rest) :
    readDirective? (d.text ++ rest) = some ({ d with start := 0 }, rest) := by
  obtain ⟨modifiers, word, raw, start⟩ := d
  cases raw with
  | none =>
    obtain ⟨noLetter, unclosed⟩ := ends rfl
    rw [(wellFormed.plain rfl).1, readDirective?_word wellFormed.modifiers wellFormed.word_ne_nil
      wellFormed.word noLetter, readBraces?_eq_none_iff.2 unclosed, Option.elim_none]
  | some raw =>
    obtain ⟨free, text, -⟩ := wellFormed.braced raw rfl
    have braces : Directive.text ⟨modifiers, word, some raw, start⟩ ++ rest =
        '%' :: modifiers ++ word ++ ('\x7b' :: raw ++ '\x7d' :: rest) := by
      simp [text]
    rw [braces, readDirective?_word wellFormed.modifiers wellFormed.word_ne_nil wellFormed.word
      (by simp), readBraces?_append free rest, Option.elim_some]

/-- What is found at the front of a text is a directive that cannot go on. -/
theorem readDirective?_sound {cs rest : List Char} {d : Directive}
    (h : readDirective? cs = some (d, rest)) :
    d.start = 0 ∧ d.IsWellFormed ∧ d.EndsBefore rest := by
  unfold readDirective? at h
  split at h
  · next cs =>
    have mods : ∀ c ∈ cs.takeWhile isModifierChar, isModifierChar c = true :=
      List.all_eq_true.1 List.all_takeWhile
    have letters : ∀ c ∈ (cs.dropWhile isModifierChar).takeWhile Char.isAlpha,
        c.isAlpha = true := List.all_eq_true.1 List.all_takeWhile
    have noLetter : ∀ c ∈ ((cs.dropWhile isModifierChar).dropWhile Char.isAlpha).head?,
        c.isAlpha = false := by
      intro c first
      have := List.head?_dropWhile_not Char.isAlpha (cs.dropWhile isModifierChar)
      rw [Option.mem_def.1 first] at this
      simpa using this
    dsimp only at h
    split at h
    · simp at h
    · next nonempty =>
      rw [List.isEmpty_iff] at nonempty
      split at h
      · next raw rest' braces =>
        simp only [Option.some.injEq, Prod.mk.injEq] at h
        obtain ⟨rfl, rfl⟩ := h
        refine ⟨rfl, Directive.isWellFormed_of_parts mods nonempty letters ?_, fun none => ?_⟩
        · rintro raw' ⟨rfl⟩
          exact not_mem_of_readBraces? braces
        · simp at none
      · next missing =>
        simp only [Option.some.injEq, Prod.mk.injEq] at h
        obtain ⟨rfl, rfl⟩ := h
        refine ⟨rfl, Directive.isWellFormed_of_parts mods nonempty letters (by simp), fun _ => ?_⟩
        exact ⟨noLetter, readBraces?_eq_none_iff.1 missing⟩
  · simp at h

theorem readDirective?_isSome_iff {cs : List Char} :
    (readDirective? cs).isSome = true ↔ StartsDirective cs := by
  constructor
  · intro found
    obtain ⟨⟨d, rest⟩, found⟩ := Option.isSome_iff_exists.1 found
    obtain ⟨-, wellFormed, -⟩ := readDirective?_sound found
    rw [readDirective?_text found]
    exact wellFormed.startsDirective rest
  · rintro ⟨modifiers, letter, rest, rfl, mods, alpha⟩
    obtain ⟨taken, dropped⟩ := takeWhile_append_of_head (letter :: rest) mods
      (by simp [isModifierChar_of_isAlpha alpha])
    simp only [readDirective?, List.cons_append, taken, dropped]
    split
    · next empty => simp [alpha] at empty
    · split <;> rfl

/-- A directive that begins in front of a seam lies in front of it, unless the seam cuts it before
its word. -/
theorem StartsDirective.of_append {cs rest : List Char} (h : StartsDirective (cs ++ rest)) :
    cs = [] ∨ StartsDirective cs ∨
      (∃ modifiers, cs = '%' :: modifiers ∧ ∀ c ∈ modifiers, isModifierChar c = true) ∧
        ∃ c ∈ rest.head?, isModifierChar c = true ∨ c.isAlpha = true := by
  obtain ⟨modifiers, letter, tail, whole, mods, alpha⟩ := h
  cases cs with
  | nil => exact .inl rfl
  | cons c cs =>
    simp only [List.cons_append, List.cons.injEq] at whole
    obtain ⟨rfl, whole⟩ := whole
    right
    rcases List.append_eq_append_iff.1 whole with ⟨more, rfl, rfl⟩ | ⟨more, rfl, split⟩
    · -- the seam lies within the modifiers or right after them
      refine .inr ⟨⟨cs, rfl, fun c h => mods c (by simp [h])⟩, ?_⟩
      cases more with
      | nil => exact ⟨letter, by simp, .inr alpha⟩
      | cons m more => exact ⟨m, by simp, .inl (mods m (by simp))⟩
    · cases more with
      | nil =>
        refine .inr ⟨⟨modifiers, by simp, mods⟩, letter, ?_, .inr alpha⟩
        simp only [List.nil_append] at split
        simp [← split]
      | cons m more =>
        simp only [List.cons_append, List.cons.injEq] at split
        obtain ⟨rfl, -⟩ := split
        exact .inl ⟨modifiers, letter, more, rfl, mods, alpha⟩

/-- Literal text is read up to the end of the text or to a directive. -/
theorem readLiteral_append {text rest : List Char} (free : ¬ HoldsDirective text)
    (stop : rest = [] ∨ StartsDirective rest) : readLiteral (text ++ rest) = (text, rest) := by
  induction text with
  | nil =>
    rcases stop with rfl | starts
    · rfl
    · cases rest with
      | nil => rfl
      | cons c rest => simp [readLiteral, readDirective?_isSome_iff.2 starts]
  | cons c text ih =>
    obtain ⟨freeHead, freeTail⟩ := not_or.1 (mt holdsDirective_cons.2 free)
    have noStart : ¬ StartsDirective (c :: text ++ rest) := by
      intro starts
      rcases starts.of_append with empty | starts | ⟨-, next, first, kind⟩
      · exact absurd empty (by simp)
      · exact freeHead starts
      · rcases stop with rfl | ⟨modifiers, letter, tail, rfl, -, -⟩
        · simp at first
        · simp only [List.cons_append, List.head?_cons, Option.mem_def, Option.some.injEq] at first
          subst first
          exact absurd kind (by decide)
    rw [← readDirective?_isSome_iff, List.cons_append] at noStart
    rw [List.cons_append, readLiteral, if_neg noStart, ih freeTail]

/-- What the literal reader leaves is nothing or begins with a directive, and no directive begins
in what it takes. -/
theorem readLiteral_sound (cs : List Char) :
    ((readLiteral cs).2 = [] ∨ StartsDirective (readLiteral cs).2) ∧
      ¬ HoldsDirective (readLiteral cs).1 := by
  constructor
  · cases found : readDirective? (readLiteral cs).2 with
    | none => exact .inl (readLiteral_rest found)
    | some read => exact .inr (readDirective?_isSome_iff.1 (by simp [found]))
  · induction cs with
    | nil => exact not_holdsDirective_nil
    | cons c cs ih =>
      rw [readLiteral]
      split
      · exact not_holdsDirective_nil
      · next noStart =>
        rw [holdsDirective_cons]
        rintro (⟨modifiers, letter, tail, whole, mods, alpha⟩ | holds)
        · refine noStart (readDirective?_isSome_iff.2
            ⟨modifiers, letter, tail ++ (readLiteral cs).2, ?_, mods, alpha⟩)
          have joined := congrArg (· ++ (readLiteral cs).2) whole
          simpa [readLiteral_text] using joined
        · exact ih holds

/-! ## 2. The first token of a reading -/

theorem isReading_nil (position : Nat) : IsReading position [] [] where
  text := rfl
  places := by simp
  literal_ne_nil := by simp
  separate := by simp
  wellFormed := by simp
  maximal := by simp
  free := by simp

/-- What follows the first token of a reading is read as well. -/
theorem IsReading.tail {position : Nat} {cs : List Char} {token : Token} {tokens : List Token}
    (reading : IsReading position cs (token :: tokens)) :
    IsReading (position + token.text.length) (tokens.flatMap Token.text) tokens where
  text := rfl
  places := fun before d after whole => by
    have placed := reading.places (token :: before) d after (by simp [whole])
    simpa [Nat.add_assoc] using placed
  literal_ne_nil := fun h => reading.literal_ne_nil (by simp [h])
  separate := fun before a b after whole =>
    reading.separate (token :: before) a b after (by simp [whole])
  wellFormed := fun d h => reading.wellFormed d (by simp [h])
  maximal := fun before d after whole =>
    reading.maximal (token :: before) d after (by simp [whole])
  free := fun text h => reading.free text (by simp [h])

/-- A token that fits in front of a reading makes it a longer one. -/
theorem IsReading.cons {position : Nat} {rest : List Char} {token : Token} {tokens : List Token}
    (reading : IsReading (position + token.text.length) rest tokens)
    (literal : ∀ text, token = .literal text →
      text ≠ [] ∧ ¬ HoldsDirective text ∧ ∀ other, tokens.head? ≠ some (.literal other))
    (directive : ∀ d, token = .directive d →
      d.start = position ∧ d.IsWellFormed ∧ d.EndsBefore rest) :
    IsReading position (token.text ++ rest) (token :: tokens) where
  text := by rw [List.flatMap_cons, reading.text]
  places := fun before d after whole => by
    rcases List.cons_eq_append_iff.1 whole with ⟨rfl, same⟩ | ⟨before, rfl, behind⟩
    · obtain ⟨rfl, rfl⟩ := List.cons.inj same
      obtain ⟨rfl, -, -⟩ := directive d rfl
      simp [Directive.stop, Token.text]
    · have placed := reading.places before d after behind
      simpa [Nat.add_assoc] using placed
  literal_ne_nil := fun member => by
    rcases List.mem_cons.1 member with same | member
    · exact (literal [] same.symm).1 rfl
    · exact reading.literal_ne_nil member
  separate := fun before a b after whole => by
    rcases List.cons_eq_append_iff.1 whole with ⟨rfl, same⟩ | ⟨before, rfl, behind⟩
    · obtain ⟨rfl, rfl⟩ := List.cons.inj same
      obtain ⟨-, -, apart⟩ := literal a rfl
      exact apart b rfl
    · exact reading.separate before a b after behind
  wellFormed := fun d member => by
    rcases List.mem_cons.1 member with same | member
    · exact (directive d same.symm).2.1
    · exact reading.wellFormed d member
  maximal := fun before d after whole => by
    rcases List.cons_eq_append_iff.1 whole with ⟨rfl, same⟩ | ⟨before, rfl, behind⟩
    · obtain ⟨rfl, rfl⟩ := List.cons.inj same
      rw [reading.text]
      exact (directive d rfl).2.2
    · exact reading.maximal before d after behind
  free := fun text member => by
    rcases List.mem_cons.1 member with same | member
    · exact (literal text same.symm).2.1
    · exact reading.free text member

theorem isReading_literal_cons {position : Nat} {cs text : List Char} {tokens : List Token} :
    IsReading position cs (.literal text :: tokens) ↔
      text ≠ [] ∧ ¬ HoldsDirective text ∧ (∀ other, tokens.head? ≠ some (.literal other)) ∧
        ∃ rest, cs = text ++ rest ∧ IsReading (position + text.length) rest tokens := by
  constructor
  · intro reading
    refine ⟨?_, reading.free text (by simp), ?_, tokens.flatMap Token.text, ?_, reading.tail⟩
    · rintro rfl
      exact reading.literal_ne_nil (by simp)
    · intro other first
      obtain ⟨tail, rfl⟩ := List.head?_eq_some_iff.1 first
      exact reading.separate [] text other tail rfl
    · simpa [Token.text] using reading.text.symm
  · rintro ⟨nonempty, free, apart, rest, rfl, reading⟩
    have behind : IsReading (position + (Token.literal text).text.length) rest tokens := reading
    apply behind.cons
    · rintro _ ⟨rfl⟩
      exact ⟨nonempty, free, apart⟩
    · simp

theorem isReading_directive_cons {position : Nat} {cs : List Char} {d : Directive}
    {tokens : List Token} :
    IsReading position cs (.directive d :: tokens) ↔
      d.start = position ∧ d.IsWellFormed ∧
        ∃ rest, cs = d.text ++ rest ∧ d.EndsBefore rest ∧ IsReading d.stop rest tokens := by
  constructor
  · intro reading
    obtain ⟨start, -⟩ := reading.places [] d tokens rfl
    simp only [List.flatMap_nil, List.length_nil, Nat.add_zero] at start
    refine ⟨start, reading.wellFormed d (by simp), tokens.flatMap Token.text, ?_,
      reading.maximal [] d tokens rfl, ?_⟩
    · simpa [Token.text] using reading.text.symm
    · rw [Directive.stop, start]
      exact reading.tail
  · rintro ⟨rfl, wellFormed, rest, rfl, ends, reading⟩
    have behind : IsReading (d.start + (Token.directive d).text.length) rest tokens := reading
    apply behind.cons
    · simp
    · rintro _ ⟨rfl⟩
      exact ⟨rfl, wellFormed, ends⟩

/-! ## 3. The reading that the scanner finds -/

/-- The literal in front, if there is any, and the tokens from the first directive on. -/
theorem scanFrom_eq (position : Nat) (cs : List Char) :
    scanFrom position cs =
      (if (readLiteral cs).1 = [] then [] else [.literal (readLiteral cs).1]) ++
        match readDirective? (readLiteral cs).2 with
        | none => []
        | some (d, rest) =>
          .directive { d with start := position + (readLiteral cs).1.length } ::
            scanFrom { d with start := position + (readLiteral cs).1.length }.stop rest := by
  rw [scanFrom]
  split
  · next missing => simp [missing]
  · next found => simp [found]

theorem scanFrom_nil (position : Nat) : scanFrom position [] = [] := by
  simp [scanFrom_eq, readLiteral, readDirective?]

theorem scanFrom_directive {d : Directive} {rest : List Char} (wellFormed : d.IsWellFormed)
    (ends : d.EndsBefore rest) :
    scanFrom d.start (d.text ++ rest) = .directive d :: scanFrom d.stop rest := by
  have noLiteral : readLiteral (d.text ++ rest) = ([], d.text ++ rest) :=
    readLiteral_append not_holdsDirective_nil (.inr (wellFormed.startsDirective rest))
  have found := readDirective?_append wellFormed ends
  rw [scanFrom_eq, noLiteral]
  simp [found]

theorem scanFrom_literal {position : Nat} {text rest : List Char} (nonempty : text ≠ [])
    (free : ¬ HoldsDirective text) (stop : rest = [] ∨ StartsDirective rest) :
    scanFrom position (text ++ rest) =
      .literal text :: scanFrom (position + text.length) rest := by
  have read := readLiteral_append free stop
  have noLiteral : readLiteral rest = ([], rest) := readLiteral_append not_holdsDirective_nil stop
  rw [scanFrom_eq, scanFrom_eq _ rest, read, noLiteral]
  simp [nonempty]

/-- A reading that does not begin with a literal is one of nothing or of a text that begins with a
directive. -/
theorem IsReading.stop {position : Nat} {cs : List Char} {tokens : List Token}
    (reading : IsReading position cs tokens)
    (noLiteral : ∀ text, tokens.head? ≠ some (.literal text)) : cs = [] ∨ StartsDirective cs := by
  cases tokens with
  | nil => exact .inl reading.text.symm
  | cons token tokens =>
    cases token with
    | literal text => exact absurd rfl (noLiteral text)
    | directive d =>
      obtain ⟨-, wellFormed, rest, rfl, -, -⟩ := isReading_directive_cons.1 reading
      exact .inr (wellFormed.startsDirective rest)

/-- Any reading is the one that the scanner finds. -/
theorem IsReading.eq_scanFrom {position : Nat} {cs : List Char} {tokens : List Token}
    (reading : IsReading position cs tokens) : tokens = scanFrom position cs := by
  induction tokens generalizing position cs with
  | nil => rw [← reading.text, List.flatMap_nil, scanFrom_nil]
  | cons token tokens ih =>
    cases token with
    | literal text =>
      obtain ⟨nonempty, free, apart, rest, rfl, after⟩ := isReading_literal_cons.1 reading
      rw [scanFrom_literal nonempty free (after.stop apart), ← ih after]
    | directive d =>
      obtain ⟨rfl, wellFormed, rest, rfl, ends, after⟩ := isReading_directive_cons.1 reading
      rw [scanFrom_directive wellFormed ends, ← ih after]

/-- A literal that may be empty is put in front of a reading. -/
theorem IsReading.literal_append {position : Nat} {text rest : List Char} {tokens : List Token}
    (reading : IsReading (position + text.length) rest tokens) (free : ¬ HoldsDirective text)
    (apart : ∀ other, tokens.head? ≠ some (.literal other)) :
    IsReading position (text ++ rest)
      ((if text = [] then [] else [.literal text]) ++ tokens) := by
  split
  · next empty =>
    subst empty
    exact reading
  · next nonempty =>
    exact isReading_literal_cons.2 ⟨nonempty, free, apart, rest, rfl, reading⟩

/-- What the scanner finds is a reading. -/
theorem isReading_scanFrom (position : Nat) (cs : List Char) :
    IsReading position cs (scanFrom position cs) := by
  induction length : cs.length using Nat.strongRecOn generalizing position cs with
  | ind n ih =>
    obtain ⟨stop, free⟩ := readLiteral_sound cs
    have whole := readLiteral_text cs
    have reading : ∀ d rest, readDirective? (readLiteral cs).2 = some (d, rest) →
        IsReading (position + (readLiteral cs).1.length) (readLiteral cs).2
          (.directive { d with start := position + (readLiteral cs).1.length } ::
            scanFrom { d with start := position + (readLiteral cs).1.length }.stop rest) := by
      intro d rest found
      obtain ⟨-, wellFormed, ends⟩ := readDirective?_sound found
      have shorter : rest.length < n := by
        have := readDirective?_length found
        rw [← length, ← whole, List.length_append]
        omega
      exact isReading_directive_cons.2 ⟨rfl, wellFormed.moved _, rest,
        (readDirective?_text found :), ends, ih rest.length shorter _ rest rfl⟩
    rw [scanFrom_eq]
    conv => arg 2; rw [← whole]
    refine IsReading.literal_append ?_ free ?_
    · cases found : readDirective? (readLiteral cs).2 with
      | none => rw [readLiteral_rest found]; exact isReading_nil _
      | some read => exact reading read.1 read.2 found
    · intro other
      split <;> simp

theorem isReading_iff {position : Nat} {cs : List Char} {tokens : List Token} :
    IsReading position cs tokens ↔ tokens = scanFrom position cs := by
  constructor
  · exact IsReading.eq_scanFrom
  · rintro rfl
    exact isReading_scanFrom position cs

/-- A token of a reading is the whole reading of its own text. -/
theorem IsReading.alone {position : Nat} {cs : List Char} {tokens : List Token} {token : Token}
    (reading : IsReading position cs tokens) (member : token ∈ tokens) :
    IsReading 0 token.text [token.alone] := by
  cases token with
  | literal text =>
    have nonempty : text ≠ [] := by
      rintro rfl
      exact reading.literal_ne_nil member
    exact isReading_literal_cons.2 ⟨nonempty, reading.free text member, by simp, [],
      by simp [Token.text], isReading_nil _⟩
  | directive d =>
    refine isReading_directive_cons.2 ⟨rfl, (reading.wellFormed d member).moved 0, [], ?_, ?_,
      isReading_nil _⟩
    · rw [List.append_nil]
      rfl
    · intro none
      simp

/-- A directive is the only token of its text. -/
theorem scan_directive {d : Directive} (wellFormed : d.IsWellFormed) :
    scan d.text = [.directive { d with start := 0 }] := by
  have ends : d.EndsBefore [] := fun _ => by simp
  have read := scanFrom_directive (wellFormed.moved 0) ends
  rwa [List.append_nil, scanFrom_nil] at read

/-! ## 4. Scanning a pattern -/

/-- Every pattern is scanned; what is found is its only reading, and each token scanned alone is
found again, at the front. -/
theorem scanValue_only_reading (pattern : String) :
    ∃ tokens, scanValue (.str pattern) = .ok tokens ∧ IsReading 0 pattern.toList tokens ∧
      (∀ others, IsReading 0 pattern.toList others → others = tokens) ∧
      ∀ token ∈ tokens, scanValue (.str (.ofList token.text)) = .ok [token.alone] := by
  have reading := isReading_scanFrom 0 pattern.toList
  refine ⟨scan pattern.toList, rfl, reading, fun others => IsReading.eq_scanFrom, ?_⟩
  intro token member
  have same := isReading_iff.1 (reading.alone member)
  rw [scanValue, scan, String.toList_ofList, ← same]

/-- Stray percent signs and unclosed braces are literal, and an option may hold a percent sign. -/
example :
    scan "%5%-3c\x7b %d \x7d%%m\x7b".toList =
      [.literal ['%', '5'], .directive ⟨['-', '3'], ['c'], some [' ', '%', 'd', ' '], 2⟩,
       .literal ['%'], .directive ⟨[], ['m'], none, 13⟩, .literal ['\x7b']] := by
  decide +kernel

end LogLayout.Pattern
