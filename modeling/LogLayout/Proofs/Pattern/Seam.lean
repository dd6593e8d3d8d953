import LogLayout.Proofs.Pattern.Correspondence

/-!
# Patterns put together

A pattern whose end cannot be carried on is compiled independently of what follows it. The scanner
stops at the seam except that a literal in front of it and one behind it become a single literal,
which changes neither the warnings nor the lines.

Results:
1. `scanFrom_append`: the tokens of two patterns put together are those of both, joined at the seam.
2. `Compiles.joinTokens`: so are the warnings, and the converters render the same.
3. `compile_append`: two patterns put together compile to what both compile to.
-/

namespace LogLayout.Pattern

/-! ## Definitions -/

/-- Each brace that opens in `cs` is closed later in `cs`. -/
def ClosesBraces (cs : List Char) : Prop :=
  ∀ before after, cs = before ++ '\x7b' :: after → '\x7d' ∈ after

/-- What `cs` ends with does not carry on: its last character belongs neither to a word nor to
modifiers nor begins a directive, and no brace is left open. -/
def EndsClosed (cs : List Char) : Prop :=
  cs = [] ∨ (∀ c ∈ cs.getLast?, c.isAlpha = false ∧ isModifierChar c = false ∧ c ≠ '%') ∧
    ClosesBraces cs

/-- Tokens put one after the other; of two literals at the seam one is made. -/
def joinTokens : List Token → List Token → List Token
  | [], ys => ys
  | [.literal a], .literal b :: ys => .literal (a ++ b) :: ys
  | x :: xs, ys => x :: joinTokens xs ys

/-- Whenever both lists of converters render, `joined` renders the text of the first and then the
text of the second. -/
def RendersBoth (first second joined : List Converter) : Prop :=
  ∀ s e texts more, List.Forall₂ (Contributes s e) first texts →
    List.Forall₂ (Contributes s e) second more →
    ∃ all, List.Forall₂ (Contributes s e) joined all ∧
      Text.concat all = Text.concat texts ++ Text.concat more

/-! ## 1. Tokens -/

theorem closesBraces_nil : ClosesBraces [] := by
  intro before after whole
  exact absurd whole (by simp)

theorem closesBraces_cons {c : Char} {cs : List Char} :
    ClosesBraces (c :: cs) ↔ (c = '\x7b' → '\x7d' ∈ cs) ∧ ClosesBraces cs := by
  constructor
  · intro closes
    refine ⟨?_, fun before after whole => closes (c :: before) after (by simp [whole])⟩
    rintro rfl
    exact closes [] cs rfl
  · rintro ⟨first, closes⟩ before after whole
    cases before with
    | nil =>
      obtain ⟨rfl, rfl⟩ := List.cons.inj whole
      exact first rfl
    | cons b before => exact closes before after (List.cons.inj whole).2

theorem EndsClosed.of_append {before after : List Char} (closed : EndsClosed (before ++ after)) :
    EndsClosed after := by
  rcases closed with empty | ⟨last, braces⟩
  · exact .inl (List.append_eq_nil_iff.1 empty).2
  · by_cases empty : after = []
    · exact .inl empty
    · refine .inr ⟨?_, fun inner rest whole => braces (before ++ inner) rest (by simp [whole])⟩
      rwa [List.getLast?_append_of_ne_nil _ empty] at last

theorem EndsClosed.last {cs : List Char} (closed : EndsClosed cs) (nonempty : cs ≠ []) :
    (cs.getLast nonempty).isAlpha = false ∧ isModifierChar (cs.getLast nonempty) = false ∧
      cs.getLast nonempty ≠ '%' := by
  rcases closed with empty | ⟨last, -⟩
  · exact absurd empty nonempty
  · exact last _ (by rw [List.getLast?_eq_some_getLast nonempty]; rfl)

/-- A percent sign with modifiers may become a directive. -/
theorem not_endsClosed_percent {modifiers : List Char}
    (mods : ∀ c ∈ modifiers, isModifierChar c = true) : ¬ EndsClosed ('%' :: modifiers) := by
  intro closed
  obtain ⟨-, noModifier, noPercent⟩ := closed.last (by simp)
  rcases List.mem_cons.1 (List.getLast_mem (l := '%' :: modifiers) (by simp)) with last | last
  · exact noPercent last
  · rw [mods _ last] at noModifier
    exact absurd noModifier (by simp)

/-- The literal at the end of a closed text does not carry on into a directive. -/
theorem not_holdsDirective_append {text rest : List Char} (closed : EndsClosed text)
    (free : ¬ HoldsDirective text) (freeRest : ¬ HoldsDirective rest) :
    ¬ HoldsDirective (text ++ rest) := by
  induction text with
  | nil => exact freeRest
  | cons c text ih =>
    obtain ⟨freeHead, freeTail⟩ := not_or.1 (mt holdsDirective_cons.2 free)
    rw [List.cons_append, holdsDirective_cons]
    rintro (starts | holds)
    · rw [← List.cons_append] at starts
      rcases starts.of_append with empty | starts | ⟨⟨modifiers, whole, mods⟩, -⟩
      · exact absurd empty (by simp)
      · exact freeHead starts
      · rw [whole] at closed
        exact not_endsClosed_percent mods closed
    · rw [← List.singleton_append] at closed
      exact ih closed.of_append freeTail holds

theorem Directive.EndsBefore.append {d : Directive} {rest : List Char} (ends : d.EndsBefore rest)
    (wellFormed : d.IsWellFormed) (closed : EndsClosed (d.text ++ rest)) (after : List Char) :
    d.EndsBefore (rest ++ after) := by
  intro plain
  obtain ⟨noLetter, unclosed⟩ := ends plain
  cases rest with
  | nil =>
    -- the word would be the end of the text
    rw [List.append_nil, (wellFormed.plain plain).1] at closed
    obtain ⟨noLetter, -, -⟩ := closed.last (by simp)
    rw [List.getLast_append_of_ne_nil _ wellFormed.word_ne_nil,
      wellFormed.word _ (List.getLast_mem _)] at noLetter
    exact absurd noLetter (by simp)
  | cons c rest =>
    refine ⟨by simpa using noLetter, ?_⟩
    rintro tail whole
    obtain ⟨rfl, -⟩ := List.cons.inj whole
    rcases closed with empty | ⟨-, braces⟩
    · exact absurd empty (by simp)
    · exact absurd (braces d.text rest rfl) (unclosed rest rfl)

theorem joinTokens_apart {xs ys : List Token}
    (apart : ∀ text, xs.head? ≠ some (.literal text))
    (apartAfter : xs = [] → ∀ text, ys.head? ≠ some (.literal text)) (text : List Char) :
    (joinTokens xs ys).head? ≠ some (.literal text) := by
  cases xs with
  | nil => exact apartAfter rfl text
  | cons x xs =>
    cases x with
    | literal other => exact absurd rfl (apart other)
    | directive d => simp [joinTokens]

/-- A reading of a closed text and one of what follows it join to a reading of both. -/
theorem IsReading.join {position : Nat} {P Q : List Char} {xs ys : List Token}
    (first : IsReading position P xs) (second : IsReading (position + P.length) Q ys)
    (closed : EndsClosed P) : IsReading position (P ++ Q) (joinTokens xs ys) := by
  fun_induction joinTokens xs ys generalizing position P with
  | case1 ys =>
    obtain rfl : P = [] := by simpa using first.text.symm
    simpa using second
  | case2 a b ys =>
    -- a percent sign in the one literal could only become a directive if the seam were open
    obtain ⟨nonempty, free, -, rest, rfl, after⟩ := isReading_literal_cons.1 first
    obtain rfl : rest = [] := by simpa using after.text.symm
    rw [List.append_nil] at second closed
    obtain ⟨-, freeAfter, apart, rest, rfl, after⟩ := isReading_literal_cons.1 second
    refine isReading_literal_cons.2 ⟨by simp [nonempty], ?_, apart, rest, by simp, ?_⟩
    · exact not_holdsDirective_append closed free freeAfter
    · simpa [Nat.add_assoc] using after
  | case3 x xs ys notBoth ih =>
    cases x with
    | literal text =>
      obtain ⟨nonempty, free, apart, rest, rfl, after⟩ := isReading_literal_cons.1 first
      refine isReading_literal_cons.2 ⟨nonempty, free, joinTokens_apart apart ?_, rest ++ Q,
        by simp, ih after ?_ closed.of_append⟩
      · intro none other begins
        obtain ⟨tail, rfl⟩ := List.head?_eq_some_iff.1 begins
        exact notBoth text other tail rfl rfl none
      · simpa [Nat.add_assoc] using second
    | directive d =>
      obtain ⟨rfl, wellFormed, rest, rfl, ends, after⟩ := isReading_directive_cons.1 first
      refine isReading_directive_cons.2 ⟨rfl, wellFormed, rest ++ Q, by simp,
        ends.append wellFormed closed Q, ih after ?_ closed.of_append⟩
      simpa [Directive.stop, Nat.add_assoc] using second

theorem scanFrom_append {position : Nat} {P : List Char} (closed : EndsClosed P) (Q : List Char) :
    scanFrom position (P ++ Q) =
      joinTokens (scanFrom position P) (scanFrom (position + P.length) Q) := by
  have joined := (isReading_scanFrom position P).join (isReading_scanFrom _ Q) closed
  exact joined.eq_scanFrom.symm

/-! ## 2. Converters and warnings -/

/-- Where the tokens stand does not matter to the compiler. -/
theorem compileTokens_map_alone (table : WordTable) (tokens : List Token) :
    compileTokens table (tokens.map Token.alone) = compileTokens table tokens := by
  induction tokens with
  | nil => rfl
  | cons token tokens ih =>
    have same : compileToken table token.alone = compileToken table token := by
      cases token <;> rfl
    rw [List.map_cons, compileTokens, compileTokens, ih, same]

/-- Nor does it matter to the scanner where the text stands, except for the places it notes. -/
theorem map_alone_scanFrom (position other : Nat) (cs : List Char) :
    (scanFrom position cs).map Token.alone = (scanFrom other cs).map Token.alone := by
  induction length : cs.length using Nat.strongRecOn generalizing position other cs with
  | ind n ih =>
    rw [scanFrom_eq position, scanFrom_eq other, List.map_append, List.map_append]
    congr 1
    cases found : readDirective? (readLiteral cs).2 with
    | none => rfl
    | some read =>
      obtain ⟨d, rest⟩ := read
      have shorter : rest.length < n := by
        have := readDirective?_length found
        rw [← length, ← readLiteral_text cs, List.length_append]
        omega
      simp only [List.map_cons, Token.alone]
      rw [ih rest.length shorter _ _ rest rfl]

theorem compileTokens_scanFrom (table : WordTable) (position : Nat) (cs : List Char) :
    compileTokens table (scanFrom position cs) = compileTokens table (scan cs) := by
  rw [← compileTokens_map_alone, map_alone_scanFrom position 0, compileTokens_map_alone, scan]

theorem rendersBoth_nil (second : List Converter) : RendersBoth [] second second := by
  intro s e texts more first after
  cases first
  exact ⟨more, after, by simp⟩

theorem RendersBoth.cons {first second joined : List Converter}
    (both : RendersBoth first second joined) (c : Converter) :
    RendersBoth (c :: first) second (c :: joined) := by
  intro s e texts more before after
  cases before with
  | cons head before =>
    obtain ⟨all, rendered, line⟩ := both s e _ more before after
    exact ⟨_ :: all, .cons head rendered, by simp [line, String.append_assoc]⟩

/-- Two literals side by side render the same as one. -/
theorem rendersBoth_literal (a b : List Char) (second : List Converter) :
    RendersBoth [.literal (.ofList a)] (.literal (.ofList b) :: second)
      (.literal (.ofList (a ++ b)) :: second) := by
  intro s e texts more before after
  obtain _ | ⟨head, rest⟩ := before
  cases head
  cases rest
  obtain _ | ⟨head, rest⟩ := after
  cases head
  exact ⟨_, .cons (.literal _) rest, by simp [String.ofList_append, String.append_assoc]⟩

/-- The literal of the empty pattern adds nothing in front. -/
theorem rendersBoth_empty_left (converters : List Converter) :
    RendersBoth [.literal ""] converters converters := by
  intro s e texts more before after
  obtain _ | ⟨head, rest⟩ := before
  cases head
  cases rest
  exact ⟨more, after, by simp⟩

/-- The literal of the empty pattern adds nothing behind. -/
theorem rendersBoth_empty_right (converters : List Converter) :
    RendersBoth converters [.literal ""] converters := by
  intro s e texts more before after
  obtain _ | ⟨head, rest⟩ := after
  cases head
  cases rest
  exact ⟨texts, before, by simp⟩

/-- Tokens joined compile to the warnings of both and to converters that render both. -/
theorem Compiles.joinTokens {table : WordTable} {xs ys : List Token} {cs ds : List Converter}
    {ws vs : List Warning} (first : Compiles table xs cs ws) (second : Compiles table ys ds vs) :
    ∃ joined, Compiles table (joinTokens xs ys) joined (ws ++ vs) ∧ RendersBoth cs ds joined := by
  fun_induction Pattern.joinTokens xs ys generalizing cs ws with
  | case1 ys =>
    cases first
    exact ⟨ds, second, rendersBoth_nil ds⟩
  | case2 a b ys =>
    obtain _ | ⟨_, rest⟩ := first
    cases rest
    obtain _ | ⟨_, rest⟩ := second
    exact ⟨_, .literal (a ++ b) rest, rendersBoth_literal a b _⟩
  | case3 x xs ys notBoth ih =>
    cases first with
    | literal text rest =>
      obtain ⟨joined, compiles, both⟩ := ih rest second
      exact ⟨_, .literal text compiles, both.cons _⟩
    | kept modifiers word rest =>
      obtain ⟨joined, compiles, both⟩ := ih rest second
      rw [List.append_assoc]
      exact ⟨_, .kept modifiers word compiles, both.cons _⟩
    | dropped modifiers word rest =>
      obtain ⟨joined, compiles, both⟩ := ih rest second
      rw [List.append_assoc]
      exact ⟨_, .dropped modifiers word compiles, both⟩

/-! ## 3. Whole patterns -/

theorem compile_empty (table : WordTable) :
    compile table (.str "") = .ok ⟨[.literal ""], ""⟩ := rfl

theorem compileText_append {table : WordTable} {P Q : String} (closed : EndsClosed P.toList)
    (front : P ≠ "") (back : Q ≠ "") {cp cq : Chain} {wp wq : List Warning}
    (first : compileText table P = ⟨wp, .ok cp⟩) (second : compileText table Q = ⟨wq, .ok cq⟩) :
    ∃ chain, compileText table (P ++ Q) = ⟨wp ++ wq, .ok chain⟩ ∧
      RendersBoth cp.converters cq.converters chain.converters := by
  have nonempty : P ++ Q ≠ "" := by simp [front]
  have first := ((compileText_eq_ok_iff front).1 first).2
  have second := ((compileText_eq_ok_iff back).1 second).2
  rw [← compileTokens_eq_ok_iff (scan_wellFormed _), ← compileTokens_scanFrom table
    (0 + P.toList.length), compileTokens_eq_ok_iff (isReading_scanFrom _ _).wellFormed] at second
  obtain ⟨joined, compiles, both⟩ := first.joinTokens second
  rw [scan, ← scanFrom_append closed, ← String.toList_append] at compiles
  exact ⟨⟨joined, P ++ Q⟩, (compileText_eq_ok_iff nonempty).2 ⟨rfl, compiles⟩, both⟩

/-- A pattern that cannot be carried on and any other pattern, put together, compile to the
warnings of the first and then of the second, and to a layout whose lines are those of the first
followed by those of the second. -/
theorem compile_append {table : WordTable} {P Q : String} (closed : EndsClosed P.toList)
    {cp cq : Chain} {wp wq : List Warning}
    (first : compile table (.str P) = ⟨wp, .ok cp⟩)
    (second : compile table (.str Q) = ⟨wq, .ok cq⟩) :
    ∃ chain, compile table (.str (P ++ Q)) = ⟨wp ++ wq, .ok chain⟩ ∧
      ∀ (a b c : Layout) (s : Surroundings) (e : Entry) (p q : String),
        a.chain = cp → b.chain = cq → c.chain = chain → (a.format s e).2.result = .ok p →
          (b.format s e).2.result = .ok q → (c.format s e).2.result = .ok (p ++ q) := by
  have both : ∃ chain, compile table (.str (P ++ Q)) = ⟨wp ++ wq, .ok chain⟩ ∧
      RendersBoth cp.converters cq.converters chain.converters := by
    by_cases front : P = ""
    · subst front
      rw [compile_empty] at first
      obtain ⟨rfl, rfl⟩ := Warned.ok_eq_iff.1 first
      exact ⟨cq, by simpa using second, rendersBoth_empty_left cq.converters⟩
    · by_cases back : Q = ""
      · subst back
        rw [compile_empty] at second
        obtain ⟨rfl, rfl⟩ := Warned.ok_eq_iff.1 second
        exact ⟨cp, by simpa using first, rendersBoth_empty_right cp.converters⟩
      · exact compileText_append closed front back first second
  obtain ⟨chain, compiled, both⟩ := both
  refine ⟨chain, compiled, ?_⟩
  rintro a b c s e p q rfl rfl rfl firstLine secondLine
  rw [Layout.format_result, render_eq_ok_iff] at firstLine secondLine ⊢
  obtain ⟨texts, rendered, rfl⟩ := firstLine
  obtain ⟨more, renderedMore, rfl⟩ := secondLine
  obtain ⟨all, renderedAll, line⟩ := both s e texts more rendered renderedMore
  exact ⟨all, renderedAll, line.symm⟩

/-- The chain of `%q%c{x} [` with the words of `exTable`. -/
def exFront : Chain where
  converters :=
    [.field ⟨"c", .field .logger, ⟨"LoggerResolver", none, Field.logger.read none 0⟩, {}, none⟩,
     .literal " ["]
  pattern := "%q%c\x7bx\x7d ["

/-- The chain of `]%p` with the words of `exTable`. -/
def exBack : Chain where
  converters :=
    [.literal "]",
     .field ⟨"p", .field .level, ⟨"LevelResolver", none, Field.level.read none 0⟩, {}, none⟩]
  pattern := "]%p"

/-- The warnings of `%q%c{x} [` with the words of `exTable`. -/
def exFrontWarnings : List Warning :=
  [.unknownWord "q", .refusedOption (some "x") "c" "logger depth must be an integer, got 'x'"]

theorem compile_exFront :
    compile exTable (.str exFront.pattern) = ⟨exFrontWarnings, .ok exFront⟩ := by
  have tokens : scan exFront.pattern.toList =
      [.directive ⟨[], ['q'], none, 0⟩, .directive ⟨[], ['c'], some ['x'], 2⟩,
       .literal [' ', '[']] := by
    decide +kernel
  rw [compile, compileText, if_neg (by decide), tokens]
  rfl

theorem compile_exBack : compile exTable (.str exBack.pattern) = ⟨[], .ok exBack⟩ := by
  have tokens : scan exBack.pattern.toList =
      [.literal [']'], .directive ⟨[], ['p'], none, 1⟩] := by
    decide +kernel
  rw [compile, compileText, if_neg (by decide), tokens]
  rfl

theorem endsClosed_exFront : EndsClosed exFront.pattern.toList := by
  right
  constructor
  · intro c last
    obtain rfl : '[' = c := by simpa [exFront] using last
    decide
  · simp [exFront, closesBraces_cons, closesBraces_nil]

/-- Two literals meet at the seam, and a warned directive stands in front of it. -/
theorem compile_append_exFront_exBack :
    EndsClosed exFront.pattern.toList ∧
      compile exTable (.str exFront.pattern) = ⟨exFrontWarnings, .ok exFront⟩ ∧
      compile exTable (.str exBack.pattern) = ⟨[], .ok exBack⟩ ∧
      ∃ chain, compile exTable (.str (exFront.pattern ++ exBack.pattern)) =
          ⟨exFrontWarnings ++ [], .ok chain⟩ ∧
        ((Layout.ofChain chain).format default exEntry).2.result = .ok "app.db []INFO" := by
  refine ⟨endsClosed_exFront, compile_exFront, compile_exBack, ?_⟩
  obtain ⟨chain, compiled, lines⟩ :=
    compile_append endsClosed_exFront compile_exFront compile_exBack
  have fresh : (Layout.ofChain chain).chain = chain := by
    simp [Layout.chain, Layout.ofChain, Function.comp_def]
  exact ⟨chain, compiled, lines (.ofChain exFront) (.ofChain exBack) (.ofChain chain) default
    exEntry "app.db [" "]INFO" rfl rfl fresh rfl rfl⟩

end LogLayout.Pattern
