import LogLayout.Pattern.Layout
import LogLayout.Proofs.Pattern.ModifierForms
import Mathlib.Data.List.Forall2

/-!
# What a compiled pattern is made of

The converters and the warnings of a pattern follow its tokens one by one. The relation `Compiles`
says so without the compiler: a literal is kept as it is, a directive is kept if its word has
something that renders, and each of its flaws is one warning. The relation `Contributes` says what
a converter adds to the line of an entry.

Results:
1. `compileTokens_eq_ok_iff`: compiling gives exactly the converters and the warnings that
   `Compiles` relates to the tokens.
2. `render_eq_ok_iff`: the line of an entry is made of what the converters contribute, in order.
3. `compile_corresponds`: both for a whole pattern.
-/

namespace LogLayout.Pattern

/-! ## Definitions -/

/-- The target is a field or a class, and it gives this resolver for the option. -/
def Target.Makes : Target → Option String → Resolver → Prop
  | field f, option, resolver => f.resolver option = .ok resolver
  | custom c, option, resolver => c.resolver option = .ok resolver
  | other _, _, _ => False

/-- The target is a field or a class, and it refuses the option for this reason. -/
def Target.Refuses : Target → Option String → String → Prop
  | field f, option, reason => f.resolver option = .error (.refused reason)
  | custom c, option, reason => c.resolver option = .error (.refused reason)
  | other _, _, _ => False

/-- What becomes of the word and the option of a directive, and the warning that they give. -/
inductive WordTaken (table : WordTable) (word : String) (option : Option String) (width : Width) :
    Option FieldConverter → List Warning → Prop
  | unknown : table.lookup word = none →
      WordTaken table word option width none [.unknownWord word]
  | noResolver {given : Value} : table.lookup word = some (.other given) →
      WordTaken table word option width none [.noResolver word given]
  | accepted {target : Target} {resolver : Resolver} : table.lookup word = some target →
      target.Makes option resolver →
      WordTaken table word option width (some ⟨word, target, resolver, width, option⟩) []
  | refused {target : Target} {resolver : Resolver} {reason : String} :
      table.lookup word = some target → target.Refuses option reason →
      target.Makes none resolver →
      WordTaken table word option width (some ⟨word, target, resolver, width, none⟩)
        [.refusedOption option word reason]

/-- The converters and the warnings of tokens, both in the order of the tokens. -/
inductive Compiles (table : WordTable) : List Token → List Converter → List Warning → Prop
  | nil : Compiles table [] [] []
  | literal {tokens : List Token} {converters : List Converter} {warnings : List Warning}
      (text : List Char) : Compiles table tokens converters warnings →
      Compiles table (.literal text :: tokens) (.literal (.ofList text) :: converters) warnings
  | kept {d : Directive} {width : Width} {f : FieldConverter} {flaws more warnings : List Warning}
      {tokens : List Token} {converters : List Converter} :
      ModifiersTaken d.modifiers width flaws →
      WordTaken table (.ofList d.word) (usedOption d) width (some f) more →
      Compiles table tokens converters warnings →
      Compiles table (.directive d :: tokens) (.field f :: converters) (flaws ++ more ++ warnings)
  | dropped {d : Directive} {width : Width} {flaws more warnings : List Warning}
      {tokens : List Token} {converters : List Converter} :
      ModifiersTaken d.modifiers width flaws →
      WordTaken table (.ofList d.word) (usedOption d) width none more →
      Compiles table tokens converters warnings →
      Compiles table (.directive d :: tokens) converters (flaws ++ more ++ warnings)

/-- What a converter adds to the line of an entry: a literal its text, a directive its field fitted
into the width, or the empty text fitted into it if the field cannot be got. -/
inductive Contributes (s : Surroundings) (e : Entry) : Converter → String → Prop
  | literal (text : String) : Contributes s e (.literal text) text
  | resolved {f : FieldConverter} {value : Value} {text : String} :
      f.resolver.resolve s e = .ok value → f.width.apply (yieldedText value) = .ok text →
      Contributes s e (.field f) text
  | failed {f : FieldConverter} {fault : Fault} {text : String} :
      f.resolver.resolve s e = .error fault → f.width.apply "" = .ok text →
      Contributes s e (.field f) text

/-! ## 1. Converters and warnings -/

theorem makes_iff {target : Target} {option : Option String} {resolver : Resolver} :
    target.Makes option resolver ↔
      ∃ make, target.maker = .ok make ∧ make option = .ok resolver := by
  cases target <;> simp [Target.Makes, Target.maker]

theorem refuses_iff {target : Target} {option : Option String} {reason : String} :
    target.Refuses option reason ↔
      ∃ make, target.maker = .ok make ∧ make option = .error (.refused reason) := by
  cases target <;> simp [Target.Refuses, Target.maker]

theorem makeResolver_eq_ok_iff {make : Option String → Except BuildFault Resolver}
    {word : String} {option used : Option String} {resolver : Resolver}
    {warnings : List Warning} :
    makeResolver make word option = ⟨warnings, .ok (resolver, used)⟩ ↔
      (make option = .ok resolver ∧ option = used ∧ warnings = []) ∨
        ∃ reason, make option = .error (.refused reason) ∧ make none = .ok resolver ∧
          none = used ∧ warnings = [.refusedOption option word reason] := by
  rw [makeResolver]
  cases first : make option with
  | ok made => simp [Warned.ok_eq_iff, and_assoc]
  | error fault =>
    cases fault with
    | failed fault => simp [Warned.fail]
    | refused reason =>
      cases second : make none with
      | error fault => cases fault <;> simp
      | ok made =>
        constructor
        · intro again
          cases again
          exact .inr ⟨reason, rfl, rfl, rfl, rfl⟩
        · rintro (⟨accepted, -⟩ | ⟨reason', ⟨rfl⟩, ⟨rfl⟩, rfl, rfl⟩)
          · simp at accepted
          · rfl

theorem compileWord_eq_ok_iff {table : WordTable} {d : Directive} {width : Width}
    {kept : Option FieldConverter} {warnings : List Warning} :
    compileWord table d width = ⟨warnings, .ok kept⟩ ↔
      WordTaken table (.ofList d.word) (usedOption d) width kept warnings := by
  constructor
  · intro compiled
    simp only [compileWord] at compiled
    split at compiled
    · next missing =>
      cases compiled
      exact .unknown missing
    · next target found =>
      split at compiled
      · next given other =>
        cases compiled
        cases target with
        | other v =>
          cases other
          exact .noResolver found
        | field f => simp [Target.maker] at other
        | custom c => simp [Target.maker] at other
      · next make maker =>
        obtain ⟨⟨resolver, used⟩, made, rfl⟩ := Warned.map_eq_ok_iff.1 compiled
        rcases makeResolver_eq_ok_iff.1 made with
          ⟨accepted, rfl, rfl⟩ | ⟨reason, refused, again, rfl, rfl⟩
        · exact .accepted found (makes_iff.2 ⟨make, maker, accepted⟩)
        · exact .refused found (refuses_iff.2 ⟨make, maker, refused⟩)
            (makes_iff.2 ⟨make, maker, again⟩)
  · intro taken
    cases taken with
    | unknown missing => simp [compileWord, missing]
    | noResolver found => simp [compileWord, found, Target.maker]
    | accepted found makes =>
      obtain ⟨make, maker, made⟩ := makes_iff.1 makes
      simp only [compileWord, found, maker]
      exact Warned.map_eq_ok_iff.2 ⟨_, makeResolver_eq_ok_iff.2 (.inl ⟨made, rfl, rfl⟩), rfl⟩
    | refused found refuses makes =>
      obtain ⟨make, maker, refused⟩ := refuses_iff.1 refuses
      obtain ⟨make', maker', made⟩ := makes_iff.1 makes
      rw [maker] at maker'
      cases maker'
      simp only [compileWord, found, maker]
      exact Warned.map_eq_ok_iff.2
        ⟨_, makeResolver_eq_ok_iff.2 (.inr ⟨_, refused, made, rfl, rfl⟩), rfl⟩

theorem compileModifiers_eq_ok_iff {modifiers : List Char} {width : Width}
    {warnings : List Warning} (chars : ∀ c ∈ modifiers, isModifierChar c = true) :
    compileModifiers modifiers = ⟨warnings, .ok width⟩ ↔
      ModifiersTaken modifiers width warnings := by
  rw [← ofModifiers_eq_ok_iff chars, compileModifiers]
  split
  · next read => simp [read, and_comm]
  · next read => simp [read, Warned.fail]

/-- What `Compiles` says of a directive in front. -/
theorem compiles_directive_iff {table : WordTable} {d : Directive} {tokens : List Token}
    {converters : List Converter} {warnings : List Warning} :
    Compiles table (.directive d :: tokens) converters warnings ↔
      ∃ width flaws kept more rest others, ModifiersTaken d.modifiers width flaws ∧
        WordTaken table (.ofList d.word) (usedOption d) width kept more ∧
        Compiles table tokens rest others ∧
        converters = (kept.map Converter.field).toList ++ rest ∧
        warnings = flaws ++ more ++ others := by
  constructor
  · intro compiled
    cases compiled with
    | kept modifiers word rest => exact ⟨_, _, _, _, _, _, modifiers, word, rest, rfl, rfl⟩
    | dropped modifiers word rest => exact ⟨_, _, _, _, _, _, modifiers, word, rest, rfl, rfl⟩
  · rintro ⟨width, flaws, kept, more, rest, others, modifiers, word, after, rfl, rfl⟩
    cases kept with
    | none => exact .dropped modifiers word after
    | some f => exact .kept modifiers word after

theorem compileTokens_eq_ok_iff {table : WordTable} {tokens : List Token}
    {converters : List Converter} {warnings : List Warning}
    (wellFormed : ∀ d, .directive d ∈ tokens → d.IsWellFormed) :
    compileTokens table tokens = ⟨warnings, .ok converters⟩ ↔
      Compiles table tokens converters warnings := by
  induction tokens generalizing converters warnings with
  | nil =>
    constructor
    · intro compiled
      cases compiled
      exact .nil
    · intro compiled
      cases compiled
      rfl
  | cons token tokens ih =>
    have behind : ∀ {cs ws}, compileTokens table tokens = ⟨ws, .ok cs⟩ ↔
        Compiles table tokens cs ws := ih fun d member => wellFormed d (by simp [member])
    cases token with
    | literal text =>
      simp only [compileTokens, compileToken, Warned.andThen_eq_ok_iff, Warned.map_eq_ok_iff,
        Warned.ok_eq_iff, behind]
      constructor
      · rintro ⟨converter, first, second, ⟨rfl, rfl⟩, ⟨rest, compiled, rfl⟩, rfl⟩
        exact .literal text compiled
      · intro compiled
        cases compiled with
        | literal _ compiled => exact ⟨_, [], _, ⟨rfl, rfl⟩, ⟨_, compiled, rfl⟩, rfl⟩
    | directive d =>
      have modifiers := (wellFormed d (by simp)).modifiers
      simp only [compileTokens, compileToken, Warned.andThen_eq_ok_iff, Warned.map_eq_ok_iff,
        compileModifiers_eq_ok_iff modifiers, compileWord_eq_ok_iff, compiles_directive_iff, behind]
      constructor
      · rintro ⟨converter, first, others, ⟨width, flaws, more, taken, ⟨kept, word, rfl⟩, rfl⟩,
          ⟨rest, compiled, rfl⟩, rfl⟩
        exact ⟨width, flaws, kept, more, rest, others, taken, word, compiled, rfl, rfl⟩
      · rintro ⟨width, flaws, kept, more, rest, others, taken, word, compiled, rfl, rfl⟩
        exact ⟨_, _, others, ⟨width, flaws, more, taken, ⟨kept, word, rfl⟩, rfl⟩,
          ⟨rest, compiled, rfl⟩, rfl⟩

/-! ## 2. The line of an entry -/

theorem contributes_iff {s : Surroundings} {e : Entry} {c : Converter} {text : String} :
    c.render s e = .ok text ↔ Contributes s e c text := by
  cases c with
  | literal copied =>
    constructor
    · intro rendered
      cases rendered
      exact .literal _
    · intro contributes
      cases contributes
      rfl
  | field f =>
    rw [Converter.render_field, FieldConverter.rawText]
    constructor
    · intro fitted
      split at fitted
      · next resolved => exact .resolved resolved fitted
      · next failed => exact .failed failed fitted
    · intro contributes
      cases contributes with
      | resolved resolved fitted => simpa [resolved] using fitted
      | failed failed fitted => simpa [failed] using fitted

/-- Successful rendering goes converter by converter. -/
theorem mapM_render_eq_ok_iff {s : Surroundings} {e : Entry} {converters : List Converter}
    {texts : List String} :
    converters.mapM (·.render s e) = .ok texts ↔
      List.Forall₂ (Contributes s e) converters texts := by
  induction converters generalizing texts with
  | nil =>
    rw [List.mapM_nil, List.forall₂_nil_left_iff]
    simp [pure, Except.pure, eq_comm]
  | cons c converters ih =>
    rw [List.mapM_cons, List.forall₂_cons_left_iff]
    simp only [← contributes_iff, ← ih]
    cases first : c.render s e with
    | error fault => simp [bind, Except.bind]
    | ok text =>
      cases others : converters.mapM (·.render s e) with
      | error fault => simp [bind, Except.bind]
      | ok rest => simp [bind, Except.bind, pure, Except.pure, eq_comm]

theorem render_eq_ok_iff {chain : Chain} {s : Surroundings} {e : Entry} {line : String} :
    chain.render s e = .ok line ↔
      ∃ texts, List.Forall₂ (Contributes s e) chain.converters texts ∧
        line = Text.concat texts := by
  simp only [← mapM_render_eq_ok_iff, Chain.render]
  cases chain.converters.mapM (·.render s e) with
  | error fault => simp [bind, Except.bind]
  | ok texts => simp [bind, Except.bind, pure, Except.pure, eq_comm]

/-! ## 3. Whole patterns -/

theorem scan_wellFormed (pattern : List Char) :
    ∀ d, .directive d ∈ scan pattern → d.IsWellFormed :=
  (isReading_scanFrom 0 pattern).wellFormed

theorem compileText_eq_ok_iff {table : WordTable} {pattern : String} (nonempty : pattern ≠ "")
    {chain : Chain} {warnings : List Warning} :
    compileText table pattern = ⟨warnings, .ok chain⟩ ↔
      chain.pattern = pattern ∧
        Compiles table (scan pattern.toList) chain.converters warnings := by
  rw [compileText, if_neg (by simpa using nonempty), Warned.map_eq_ok_iff]
  simp only [compileTokens_eq_ok_iff (scan_wellFormed _)]
  constructor
  · rintro ⟨converters, compiled, rfl⟩
    exact ⟨rfl, compiled⟩
  · rintro ⟨rfl, compiled⟩
    exact ⟨chain.converters, compiled, rfl⟩

/-- Any pattern that is compiled has tokens that its converters correspond to; the empty pattern
counts as an empty literal. -/
theorem exists_compiles {table : WordTable} {pattern : Value} {chain : Chain}
    (compiled : (compile table pattern).result = .ok chain) :
    ∃ tokens warnings, Compiles table tokens chain.converters warnings := by
  have ofText (text : String) (made : (compileText table text).result = .ok chain) :
      ∃ tokens warnings, Compiles table tokens chain.converters warnings := by
    by_cases nonempty : text = ""
    · obtain rfl : ⟨[.literal ""], ""⟩ = chain := by
        simpa [compileText, nonempty, Warned.ok] using made
      exact ⟨[.literal []], [], .literal [] .nil⟩
    · have whole : compileText table text = ⟨(compileText table text).warnings, .ok chain⟩ := by
        rw [← made]
      exact ⟨_, _, ((compileText_eq_ok_iff nonempty).1 whole).2⟩
  cases pattern with
  | null => exact ofText "" compiled
  | str text => exact ofText text compiled
  | _ => simp [compile, Warned.fail] at compiled

/-- A directive that stands alone is compiled to the converter for its word. -/
theorem compile_directive {table : WordTable} {d : Directive} {width : Width}
    {f : FieldConverter} {flaws more : List Warning} (wellFormed : d.IsWellFormed)
    (modifiers : ModifiersTaken d.modifiers width flaws)
    (word : WordTaken table (.ofList d.word) (usedOption d) width (some f) more) :
    compile table (.str (.ofList d.text)) =
      ⟨flaws ++ more, .ok ⟨[.field f], .ofList d.text⟩⟩ := by
  refine (compileText_eq_ok_iff ?_).2 ⟨rfl, ?_⟩
  · rw [Ne, ← String.toList_inj, String.toList_ofList]
    exact d.text_ne_nil
  · rw [String.toList_ofList, scan_directive wellFormed]
    simpa using Compiles.kept (d := { d with start := 0 }) modifiers word .nil

/-- What compiling a pattern gives corresponds to the tokens of the pattern, token by token, and
the lines that its layout gives are made of the texts of the literals and of the fields of the
directives that are kept, in that order. -/
theorem compile_corresponds {table : WordTable} {pattern : String} {chain : Chain}
    {warnings : List Warning} (nonempty : pattern ≠ "")
    (compiled : compile table (.str pattern) = ⟨warnings, .ok chain⟩) :
    Compiles table (scan pattern.toList) chain.converters warnings ∧
      ∀ (layout : Layout) (s : Surroundings) (e : Entry) (line : String),
        layout.chain = chain → (layout.format s e).2.result = .ok line →
          ∃ texts, List.Forall₂ (Contributes s e) chain.converters texts ∧
            line = Text.concat texts := by
  refine ⟨((compileText_eq_ok_iff nonempty).1 compiled).2, ?_⟩
  intro layout s e line same formatted
  rw [Layout.format_result, same] at formatted
  exact render_eq_ok_iff.1 formatted

/-- A table with a field, a field that refuses some options, and something that renders nothing. -/
def exTable : WordTable := [("p", .field .level), ("c", .field .logger), ("z", .other .null)]

/-- A pattern with a flaw of every kind. -/
def exPattern : String := "a%5-p%q%z %c\x7bx\x7d%-5.3c\x7b2\x7d"

/-- The chain of `exPattern`. -/
def exChain : Chain where
  converters :=
    [.literal "a",
     .field ⟨"p", .field .level, ⟨"LevelResolver", none, Field.level.read none 0⟩, {}, none⟩,
     .literal " ",
     .field ⟨"c", .field .logger, ⟨"LoggerResolver", none, Field.logger.read none 0⟩, {}, none⟩,
     .field ⟨"c", .field .logger, ⟨"LoggerResolver", some "2", Field.logger.read (some "2") 2⟩,
       .ofNumbers (-5) 3, some "2"⟩]
  pattern := exPattern

/-- The warnings of `exPattern`. -/
def exWarnings : List Warning :=
  [.modifiers "5-", .unknownWord "q", .noResolver "z" .null,
   .refusedOption (some "x") "c" "logger depth must be an integer, got 'x'"]

theorem scan_exPattern :
    scan exPattern.toList =
      [.literal ['a'], .directive ⟨['5', '-'], ['p'], none, 1⟩, .directive ⟨[], ['q'], none, 5⟩,
       .directive ⟨[], ['z'], none, 7⟩, .literal [' '], .directive ⟨[], ['c'], some ['x'], 10⟩,
       .directive ⟨['-', '5', '.', '3'], ['c'], some ['2'], 15⟩] := by
  decide +kernel

theorem compile_exPattern : compile exTable (.str exPattern) = ⟨exWarnings, .ok exChain⟩ := by
  rw [compile, compileText, if_neg (by decide), scan_exPattern]
  rfl

/-- An entry of the logger `app.db`. -/
def exEntry : Entry where
  level := .info
  message := "hello"
  timestamp := default
  loggerName := .str "app.db"

theorem compile_corresponds_exPattern :
    exPattern ≠ "" ∧ compile exTable (.str exPattern) = ⟨exWarnings, .ok exChain⟩ ∧
      Compiles exTable (scan exPattern.toList) exChain.converters exWarnings ∧
      ((Layout.ofChain exChain).format default exEntry).2.result = .ok "aINFO app.dbapp  " ∧
      ∃ texts, List.Forall₂ (Contributes default exEntry) exChain.converters texts ∧
        "aINFO app.dbapp  " = Text.concat texts := by
  have nonempty : exPattern ≠ "" := by decide
  have formatted :
      ((Layout.ofChain exChain).format default exEntry).2.result = .ok "aINFO app.dbapp  " := rfl
  obtain ⟨compiles, renders⟩ := compile_corresponds nonempty compile_exPattern
  exact ⟨nonempty, compile_exPattern, compiles, formatted,
    renders (Layout.ofChain exChain) default exEntry _ rfl formatted⟩

end LogLayout.Pattern
