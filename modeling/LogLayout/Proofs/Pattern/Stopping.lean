import LogLayout.Proofs.Pattern.Correspondence
import LogLayout.Proofs.Text.PlainNumeral

/-!
# What stops a layout

With the words for fields, a pattern is compiled and entries are formatted whatever the pattern and
the entry are, but for two limits on the numbers of a directive: a numeral must not be too long to
be read, and a field cannot be filled up to a width that no text has. The values of the entry are
taken to have a text, which whole numbers of more than 4300 digits lack.

Results:
1. `exists_modifiersTaken_iff`: modifiers are taken unless one of their numerals is too long.
2. `exists_compiles_iff`: tokens are compiled when each directive is taken by itself;
   `exists_wordTaken_defaultWords`: a word for a field always is.
3. `render_eq_error`: a line is not finished only because of a width.
4. `formatter_stops_only_for_numbers`: both for a whole pattern, and the two limits are reached.
-/

namespace LogLayout.Pattern

/-! ## Definitions -/

/-- The digits of a signed numeral. -/
def digitsOf (numeral : List Char) : List Char := numeral.filter Char.isDigit

/-- One of the numerals in the directive's modifiers has more digits than are read. -/
def Directive.HasLongNumeral (d : Directive) : Prop :=
  ∃ least most, HasNumerals d.modifiers least most ∧
    ∃ numeral, (least = some numeral ∨ most = some numeral) ∧
      Text.digitLimit < (digitsOf numeral).length

/-- The directive asks for a field of at least a width that no text has. -/
def Directive.AsksBeyondTexts (d : Directive) : Prop :=
  ∃ numeral most, HasNumerals d.modifiers (some numeral) most ∧
    Width.beyondTexts ≤ Text.decimalValue (digitsOf numeral)

/-! ## 1. Modifiers -/

theorem IsSignedNumeral.eq_plainNumeral {numeral : List Char} (h : IsSignedNumeral numeral) :
    ∃ negative, numeral = Text.plainNumeral negative (digitsOf numeral) ∧
      digitsOf numeral ≠ [] ∧ ∀ c ∈ digitsOf numeral, c.isDigit = true := by
  obtain ⟨digits, nonempty, all, same⟩ := h
  have kept : digits.filter Char.isDigit = digits := List.filter_eq_self.2 all
  rcases same with rfl | rfl
  · refine ⟨false, ?_⟩
    rw [digitsOf, kept]
    exact ⟨rfl, nonempty, all⟩
  · refine ⟨true, ?_⟩
    rw [digitsOf, List.filter_cons_of_neg (by decide), kept]
    exact ⟨rfl, nonempty, all⟩

/-- The number of a width is read unless its numeral is too long. -/
theorem widthNumber_some {numeral : List Char} (h : IsSignedNumeral numeral) :
    (Text.digitLimit < (digitsOf numeral).length ∧
        widthNumber (some numeral) =
          .error (.numeral (.tooManyDigits (digitsOf numeral).length))) ∨
      (digitsOf numeral).length ≤ Text.digitLimit ∧
        ∃ n : Int, widthNumber (some numeral) = .ok n ∧
          n.natAbs = Text.decimalValue (digitsOf numeral) := by
  obtain ⟨negative, same, nonempty, all⟩ := h.eq_plainNumeral
  have read := @Text.readInteger_plain negative (digitsOf numeral) nonempty all
  rw [← same] at read
  by_cases long : Text.digitLimit < (digitsOf numeral).length
  · rw [if_pos long] at read
    exact .inl ⟨long, by rw [widthNumber, read]⟩
  · rw [if_neg long] at read
    refine .inr ⟨by omega, _, by rw [widthNumber, read], ?_⟩
    cases negative <;> simp

theorem HasNumerals.eq {modifiers : List Char} {least most least' most' : Option (List Char)}
    (chars : ∀ c ∈ modifiers, isModifierChar c = true) (h : HasNumerals modifiers least most)
    (h' : HasNumerals modifiers least' most') : least = least' ∧ most = most' := by
  have first := (widthNumerals?_eq_some_iff chars).2 h
  rw [(widthNumerals?_eq_some_iff chars).2 h'] at first
  simpa [eq_comm] using first

theorem exists_widthNumber {numeral : Option (List Char)}
    (signed : ∀ cs ∈ numeral, IsSignedNumeral cs)
    (short : ∀ cs ∈ numeral, (digitsOf cs).length ≤ Text.digitLimit) :
    ∃ n, widthNumber numeral = .ok n := by
  cases numeral with
  | none => exact ⟨0, rfl⟩
  | some cs =>
    rcases widthNumber_some (signed cs rfl) with ⟨long, -⟩ | ⟨-, n, read, -⟩
    · exact absurd (short cs rfl) (by omega)
    · exact ⟨n, read⟩

theorem exists_modifiersTaken_iff {d : Directive} (wellFormed : d.IsWellFormed) :
    (∃ width flaws, ModifiersTaken d.modifiers width flaws) ↔ ¬ d.HasLongNumeral := by
  constructor
  · rintro ⟨width, flaws, taken⟩ ⟨least, most, numerals, numeral, position, long⟩
    cases taken with
    | absent empty => exact numerals.ne_nil empty
    | malformed _ malformed => exact malformed ⟨least, most, numerals⟩
    | wellFormed numerals' first second =>
      obtain ⟨rfl, rfl⟩ := numerals.eq wellFormed.modifiers numerals'
      rcases position with rfl | rfl
      · rcases widthNumber_some (numerals.first numeral rfl) with ⟨-, refused⟩ | ⟨short, -⟩
        · rw [first] at refused
          exact absurd refused (by simp)
        · omega
      · rcases widthNumber_some (numerals.second numeral rfl) with ⟨-, refused⟩ | ⟨short, -⟩
        · rw [second] at refused
          exact absurd refused (by simp)
        · omega
  · intro short
    by_cases empty : d.modifiers = []
    · exact ⟨_, _, .absent empty⟩
    · by_cases form : AreWellFormed d.modifiers
      · obtain ⟨least, most, numerals⟩ := form
        have fits : ∀ numeral, (least = some numeral ∨ most = some numeral) →
            (digitsOf numeral).length ≤ Text.digitLimit := by
          intro numeral position
          by_contra long
          exact short ⟨least, most, numerals, numeral, position, by omega⟩
        obtain ⟨n, first⟩ := exists_widthNumber numerals.first fun cs h => fits cs (.inl h)
        obtain ⟨k, second⟩ := exists_widthNumber numerals.second fun cs h => fits cs (.inr h)
        exact ⟨_, _, .wellFormed numerals first second⟩
      · exact ⟨_, _, .malformed empty form⟩

/-- A width that no text has is asked for by the directive. -/
theorem ModifiersTaken.asksBeyondTexts {d : Directive} {width : Width} {flaws : List Warning}
    (taken : ModifiersTaken d.modifiers width flaws) (wide : Width.beyondTexts ≤ width.atLeast) :
    d.AsksBeyondTexts := by
  have noWidth : ¬ Width.beyondTexts ≤ 0 := by decide
  cases taken with
  | absent _ => exact absurd wide noWidth
  | malformed _ _ => exact absurd wide noWidth
  | @wellFormed least most n k numerals first second =>
    change Width.beyondTexts ≤ n.natAbs at wide
    cases least with
    | none =>
      cases first
      exact absurd wide noWidth
    | some numeral =>
      rcases widthNumber_some (numerals.first numeral rfl) with ⟨-, refused⟩ | ⟨-, m, read, value⟩
      · rw [first] at refused
        exact absurd refused (by simp)
      · rw [first] at read
        cases read
        exact ⟨numeral, most, numerals, by rwa [value] at wide⟩

/-! ## 2. Compiling -/

theorem exists_compiles_iff {table : WordTable} {tokens : List Token} :
    (∃ converters warnings, Compiles table tokens converters warnings) ↔
      ∀ d, .directive d ∈ tokens → ∃ width flaws kept more,
        ModifiersTaken d.modifiers width flaws ∧
          WordTaken table (.ofList d.word) (usedOption d) width kept more := by
  induction tokens with
  | nil => exact iff_of_true ⟨[], [], .nil⟩ (by simp)
  | cons token tokens ih =>
    cases token with
    | literal text =>
      simp only [List.mem_cons, reduceCtorEq, false_or, ← ih]
      constructor
      · rintro ⟨converters, warnings, compiled⟩
        cases compiled with
        | literal _ rest => exact ⟨_, _, rest⟩
      · rintro ⟨converters, warnings, rest⟩
        exact ⟨_, _, .literal text rest⟩
    | directive d =>
      simp only [compiles_directive_iff, List.mem_cons, Token.directive.injEq, forall_eq_or_imp,
        ← ih]
      constructor
      · rintro ⟨_, _, width, flaws, kept, more, rest, others, modifiers, word, compiled, -, -⟩
        exact ⟨⟨width, flaws, kept, more, modifiers, word⟩, rest, others, compiled⟩
      · rintro ⟨⟨width, flaws, kept, more, modifiers, word⟩, rest, others, compiled⟩
        exact ⟨_, _, width, flaws, kept, more, rest, others, modifiers, word, compiled, rfl, rfl⟩

/-- The width rules of a converter are those of one of the directives. -/
theorem Compiles.width {table : WordTable} {tokens : List Token} {converters : List Converter}
    {warnings : List Warning} (compiled : Compiles table tokens converters warnings)
    {f : FieldConverter} (member : .field f ∈ converters) :
    ∃ d flaws, .directive d ∈ tokens ∧ ModifiersTaken d.modifiers f.width flaws := by
  induction compiled with
  | nil => exact absurd member List.not_mem_nil
  | literal text _ ih =>
    obtain ⟨d, flaws, found, taken⟩ := ih (by simpa using member)
    exact ⟨d, flaws, by simp [found], taken⟩
  | @kept d width g flaws more warnings tokens converters modifiers word _ ih =>
    rcases List.mem_cons.1 member with same | member
    · cases same
      have width : f.width = width := by cases word <;> rfl
      exact ⟨d, flaws, by simp, width ▸ modifiers⟩
    · obtain ⟨d, flaws, found, taken⟩ := ih member
      exact ⟨d, flaws, by simp [found], taken⟩
  | dropped _ _ _ ih =>
    obtain ⟨d, flaws, found, taken⟩ := ih member
    exact ⟨d, flaws, by simp [found], taken⟩

theorem lookup_defaultWords {word : String} {target : Target}
    (found : defaultWords.lookup word = some target) : ∃ f, target = .field f := by
  have all : ∀ words : List (String × Field),
      (words.map fun entry => (entry.1, Target.field entry.2)).lookup word = some target →
        ∃ f, target = .field f := by
    intro words
    induction words with
    | nil => simp
    | cons entry words ih =>
      rw [List.map_cons, List.lookup_cons]
      split
      · intro same
        exact ⟨entry.2, (Option.some.inj same).symm⟩
      · exact ih
  exact all Field.words found

/-- A field has a resolver without an option, and refuses an option at most for a reason. -/
theorem Field.resolver_total (f : Field) (option : Option String) :
    (∃ r, f.resolver option = .ok r) ∨
      (∃ reason, f.resolver option = .error (.refused reason)) ∧ ∃ r, f.resolver none = .ok r := by
  cases f with
  | logger =>
    cases depth : segmentDepth option with
    | ok n =>
      exact .inl ⟨⟨logger.resolverName, option, logger.read option n⟩, by
        simp only [Field.resolver, depth]⟩
    | error reason => exact .inr ⟨⟨reason, by simp only [Field.resolver, depth]⟩, _, rfl⟩
  | date | env | file | level | line | location | mdc | message | method | newline | process
  | relative | thread | throwable => exact .inl ⟨_, rfl⟩

theorem exists_wordTaken_defaultWords (word : String) (option : Option String) (width : Width) :
    ∃ kept more, WordTaken defaultWords word option width kept more := by
  cases found : defaultWords.lookup word with
  | none => exact ⟨_, _, .unknown found⟩
  | some target =>
    obtain ⟨f, rfl⟩ := lookup_defaultWords found
    rcases f.resolver_total option with ⟨r, made⟩ | ⟨⟨reason, refused⟩, r, made⟩
    · exact ⟨_, _, .accepted found (show f.resolver option = .ok r from made)⟩
    · exact ⟨_, _, .refused found
        (show f.resolver option = .error (.refused reason) from refused)
        (show f.resolver none = .ok r from made)⟩

/-- With the words for fields, compiling fails only for a numeral that is too long. -/
theorem exists_compileText_iff (pattern : String) :
    (∃ chain warnings, compileText defaultWords pattern = ⟨warnings, .ok chain⟩) ↔
      ∀ d, .directive d ∈ scan pattern.toList → ¬ d.HasLongNumeral := by
  by_cases empty : pattern = ""
  · subst empty
    exact iff_of_true ⟨_, _, rfl⟩ (by simp [scan, scanFrom_nil])
  · simp only [compileText_eq_ok_iff empty]
    have compiles : (∃ converters warnings,
        Compiles defaultWords (scan pattern.toList) converters warnings) ↔
          ∀ d, .directive d ∈ scan pattern.toList → ¬ d.HasLongNumeral := by
      rw [exists_compiles_iff]
      refine forall₂_congr fun d member => ?_
      rw [← exists_modifiersTaken_iff (scan_wellFormed _ d member)]
      constructor
      · rintro ⟨width, flaws, -, -, modifiers, -⟩
        exact ⟨width, flaws, modifiers⟩
      · rintro ⟨width, flaws, modifiers⟩
        obtain ⟨kept, more, word⟩ :=
          exists_wordTaken_defaultWords (.ofList d.word) (usedOption d) width
        exact ⟨width, flaws, kept, more, modifiers, word⟩
    rw [← compiles]
    constructor
    · rintro ⟨chain, warnings, -, compiled⟩
      exact ⟨chain.converters, warnings, compiled⟩
    · rintro ⟨converters, warnings, compiled⟩
      exact ⟨⟨converters, pattern⟩, warnings, rfl, compiled⟩

/-! ## 3. Formatting -/

theorem Converter.render_eq_error {c : Converter} {s : Surroundings} {e : Entry} {fault : Fault}
    (failed : c.render s e = .error fault) :
    fault = .padding ∧ ∃ f, c = .field f ∧ Width.beyondTexts ≤ f.width.atLeast := by
  cases c with
  | literal text => exact absurd failed (by simp [Converter.render])
  | field f =>
    rw [render_field, Width.apply_eq] at failed
    split at failed
    · next wide =>
      cases failed
      exact ⟨rfl, f, rfl, wide.2⟩
    · exact absurd failed (by simp)

/-- If one of the operations on the members of a list fails, its fault is the one given back. -/
theorem mapM_eq_error {α β : Type} {f : α → Except Fault β} {xs : List α} {fault : Fault}
    (failed : xs.mapM f = .error fault) : ∃ x ∈ xs, f x = .error fault := by
  induction xs with
  | nil => exact absurd failed (by simp [pure, Except.pure])
  | cons x xs ih =>
    rw [List.mapM_cons] at failed
    cases first : f x with
    | error other =>
      rw [first] at failed
      cases failed
      exact ⟨x, by simp, first⟩
    | ok y =>
      cases others : xs.mapM f with
      | error other =>
        rw [first, others] at failed
        cases failed
        obtain ⟨x', member, failed⟩ := ih others
        exact ⟨x', by simp [member], failed⟩
      | ok ys => simp [first, others, bind, Except.bind, pure, Except.pure] at failed

theorem Chain.render_eq_error {chain : Chain} {s : Surroundings} {e : Entry} {fault : Fault}
    (failed : chain.render s e = .error fault) :
    fault = .padding ∧ ∃ f, .field f ∈ chain.converters ∧ Width.beyondTexts ≤ f.width.atLeast := by
  have stopped : chain.converters.mapM (·.render s e) = .error fault := by
    rw [Chain.render] at failed
    cases mapped : chain.converters.mapM (·.render s e) with
    | error other => simpa [mapped, bind, Except.bind] using failed
    | ok texts => simp [mapped, bind, Except.bind, pure, Except.pure] at failed
  obtain ⟨c, member, failed⟩ := mapM_eq_error stopped
  obtain ⟨rfl, f, rfl, wide⟩ := Converter.render_eq_error failed
  exact ⟨rfl, f, member, wide⟩

/-! ## 4. Whole patterns -/

theorem chain_ofChain (c : Chain) : (Layout.ofChain c).chain = c := by
  simp [Layout.chain, Layout.ofChain, Function.comp_def]

/-- A formatter comes of a pattern exactly when its chain is compiled. -/
theorem exists_formatter_iff {table : WordTable} {pattern : String} {chain : Chain} :
    (∃ f, (Formatter.ofValue table (.str pattern)).result = .ok f ∧ f.layout.chain = chain) ↔
      ∃ warnings, compileText table pattern = ⟨warnings, .ok chain⟩ := by
  simp only [Formatter.ofValue, compile, Warned.map]
  rcases compileText table pattern with ⟨warnings, result⟩
  cases result with
  | error fault => simp [Except.map]
  | ok chain => simp [Except.map, chain_ofChain]

/-- With the words for fields a formatter is made of every pattern in which no numeral is too long,
and of no other. It makes a line of every entry, after whatever entries, unless one of the
directives asks for a width that no text has; then filling up the field may fail. `Value.text` gives
a text of every value, so an entry with a whole number of more than 4300 digits, which has none, is
not covered. -/
theorem formatter_stops_only_for_numbers (pattern : String) :
    ((∃ f, (Formatter.ofValue defaultWords (.str pattern)).result = .ok f) ↔
        ∀ d, .directive d ∈ scan pattern.toList → ¬ d.HasLongNumeral) ∧
      ∀ f, (Formatter.ofValue defaultWords (.str pattern)).result = .ok f →
        ∀ (l : Layout) (s : Surroundings) (e : Entry), l.chain = f.layout.chain →
          (∃ line, (l.format s e).2.result = .ok line) ∨
            (l.format s e).2.result = .error .padding ∧
              ∃ d, .directive d ∈ scan pattern.toList ∧ d.AsksBeyondTexts := by
  constructor
  · rw [← exists_compileText_iff]
    constructor
    · rintro ⟨f, made⟩
      exact ⟨f.layout.chain, exists_formatter_iff.1 ⟨f, made, rfl⟩⟩
    · rintro ⟨chain, compiled⟩
      obtain ⟨f, made, -⟩ := exists_formatter_iff.2 compiled
      exact ⟨f, made⟩
  · intro f made l s e same
    rw [Layout.format_result, same]
    cases rendered : f.layout.chain.render s e with
    | ok line => exact .inl ⟨line, rfl⟩
    | error fault =>
      obtain ⟨rfl, g, member, wide⟩ := Chain.render_eq_error rendered
      obtain ⟨warnings, compiled⟩ := exists_formatter_iff.1 ⟨f, made, rfl⟩
      refine .inr ⟨rfl, ?_⟩
      by_cases empty : pattern = ""
      · subst empty
        have literal : Warned.ok (⟨[.literal ""], ""⟩ : Chain) = ⟨warnings, .ok f.layout.chain⟩ :=
          compiled
        rw [← (Warned.ok_eq_iff.1 literal).1] at member
        simp at member
      · obtain ⟨-, compiles⟩ := (compileText_eq_ok_iff empty).1 compiled
        obtain ⟨d, flaws, found, taken⟩ := compiles.width member
        exact ⟨d, found, taken.asksBeyondTexts wide⟩

/-- The directive for a message of at least the width that the digits write. -/
def wideMessage (digits : List Char) : Directive where
  modifiers := digits
  word := ['m']

theorem scan_wideMessage {digits : List Char} (all : ∀ c ∈ digits, c.isDigit = true) :
    scan (wideMessage digits).text = [.directive (wideMessage digits)] := by
  have wellFormed : (wideMessage digits).IsWellFormed :=
    Directive.isWellFormed_of_parts (fun c member => by simp [isModifierChar, all c member])
      (by simp [wideMessage]) (by simp [wideMessage]) (by simp [wideMessage])
  exact scan_directive wellFormed

theorem hasNumerals_wideMessage {digits : List Char} (nonempty : digits ≠ [])
    (all : ∀ c ∈ digits, c.isDigit = true) :
    HasNumerals (wideMessage digits).modifiers (some digits) none where
  text := (List.append_nil digits).symm
  first := by
    rintro cs ⟨rfl⟩
    exact ⟨digits, nonempty, all, .inl rfl⟩
  second := by simp
  present := by simp

/-- A width that no text has, and one that is not even read. -/
theorem formatter_stops_at_wideMessage :
    (∃ f, (Formatter.ofValue defaultWords (.str "%9223372036854775808m")).result = .ok f ∧
        (f.layout.format default exEntry).2.result = .error .padding) ∧
      ¬ ∃ f, (Formatter.ofValue defaultWords
        (.str (.ofList (wideMessage (List.replicate 4301 '9')).text))).result = .ok f := by
  constructor
  · have tokens : scan "%9223372036854775808m".toList =
        [.directive (wideMessage "9223372036854775808".toList)] := by
      decide +kernel
    have stops : ∃ chain warnings,
        compileText defaultWords "%9223372036854775808m" = ⟨warnings, .ok chain⟩ ∧
          chain.render default exEntry = .error .padding := by
      rw [compileText, if_neg (by decide), tokens]
      exact ⟨_, _, rfl, rfl⟩
    obtain ⟨chain, warnings, compiled, padding⟩ := stops
    obtain ⟨f, made, rfl⟩ := exists_formatter_iff.2 ⟨warnings, compiled⟩
    exact ⟨f, made, by rw [Layout.format_result, padding]⟩
  · have digits : ∀ c ∈ List.replicate 4301 '9', c.isDigit = true := by
      intro c member
      rw [List.eq_of_mem_replicate member]
      decide
    have long : (wideMessage (List.replicate 4301 '9')).HasLongNumeral := by
      have nonempty : List.replicate 4301 '9' ≠ [] := by
        rw [Ne, List.replicate_eq_nil_iff]
        decide
      refine ⟨_, _, hasNumerals_wideMessage nonempty digits, _, .inl rfl, ?_⟩
      rw [digitsOf, List.filter_eq_self.2 digits, List.length_replicate]
      decide
    rintro ⟨f, made⟩
    have compiled := exists_formatter_iff.1 ⟨f, made, rfl⟩
    refine (exists_compileText_iff _).1 ⟨_, compiled⟩ _ ?_ long
    rw [String.toList_ofList, scan_wideMessage digits]
    exact List.mem_singleton_self _

end LogLayout.Pattern
