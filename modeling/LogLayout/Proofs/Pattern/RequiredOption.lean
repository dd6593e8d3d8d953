import LogLayout.Proofs.Pattern.Stopping

/-!
# Options that a resolver requires

A resolver that refuses its option is made once more without one. With classes of the caller's own
it may refuse that too, since it requires an option; nothing is left to try then, and compiling
ends there. A directive whose resolver goes without an option never ends it.

Results:
1. `compileToken_eq_error_iff`: what ends the compiling of a directive.
2. `compileTokens_eq_error_iff`: tokens are compiled up to the first directive that fails.
3. `compile_ends_at_required_option`: with classes that only refuse options and numerals that can
   be read, compiling ends exactly at the first directive whose resolver is refused twice.
-/

namespace LogLayout.Pattern

/-! ## Definitions -/

/-- The target is a field or a class, and making its resolver for the option fails with this
fault. -/
def Target.Fails : Target → Option String → Fault → Prop
  | field f, option, fault => f.resolver option = .error (.failed fault)
  | custom c, option, fault => c.resolver option = .error (.failed fault)
  | other _, _, _ => False

/-- No resolver is made for a word: the warnings until then, and the fault. -/
inductive WordFails (table : WordTable) (word : String) (option : Option String) :
    List Warning → Fault → Prop
  | failed {target : Target} {fault : Fault} : table.lookup word = some target →
      target.Fails option fault → WordFails table word option [] fault
  | failedAgain {target : Target} {reason : String} {fault : Fault} :
      table.lookup word = some target → target.Refuses option reason → target.Fails none fault →
      WordFails table word option [.refusedOption option word reason] fault
  | refusedAgain {target : Target} {reason again : String} :
      table.lookup word = some target → target.Refuses option reason →
      target.Refuses none again →
      WordFails table word option [.refusedOption option word reason] (.option again)

/-- A directive ends the compiling: its numerals are not read, or its word has no resolver. -/
inductive DirectiveFails (table : WordTable) (d : Directive) : List Warning → Fault → Prop
  | numeral {fault : Fault} : Width.ofModifiers d.modifiers = .error fault →
      DirectiveFails table d [] fault
  | word {width : Width} {flaws more : List Warning} {fault : Fault} :
      ModifiersTaken d.modifiers width flaws →
      WordFails table (.ofList d.word) (usedOption d) more fault →
      DirectiveFails table d (flaws ++ more) fault

/-- The classes of the table fail at most by refusing an option. -/
def WordTable.OnlyRefuses (table : WordTable) : Prop :=
  ∀ word c, table.lookup word = some (.custom c) →
    ∀ option fault, c.make option ≠ .error (.failed fault)

/-- The word of the directive has a resolver that refuses the option of the directive, and also
refuses to have none. -/
def Directive.IsRefusedTwice (table : WordTable) (d : Directive) (reason again : String) : Prop :=
  ∃ target, table.lookup (.ofList d.word) = some target ∧
    target.Refuses (usedOption d) reason ∧ target.Refuses none again

/-! ## 1. One directive -/

theorem fails_iff {target : Target} {option : Option String} {fault : Fault} :
    target.Fails option fault ↔
      ∃ make, target.maker = .ok make ∧ make option = .error (.failed fault) := by
  cases target <;> simp [Target.Fails, Target.maker]

section
variable {target : Target} {make : Option String → Except BuildFault Resolver}
  (maker : target.maker = .ok make)
include maker

theorem fails_of_maker {option : Option String} {fault : Fault} :
    target.Fails option fault ↔ make option = .error (.failed fault) := by
  simp [fails_iff, maker]

theorem refuses_of_maker {option : Option String} {reason : String} :
    target.Refuses option reason ↔ make option = .error (.refused reason) := by
  simp [refuses_iff, maker]

theorem makes_of_maker {option : Option String} {resolver : Resolver} :
    target.Makes option resolver ↔ make option = .ok resolver := by
  simp [makes_iff, maker]

end

theorem makeResolver_eq_error_iff {make : Option String → Except BuildFault Resolver}
    {word : String} {option : Option String} {fault : Fault} {warnings : List Warning} :
    makeResolver make word option = ⟨warnings, .error fault⟩ ↔
      (make option = .error (.failed fault) ∧ warnings = []) ∨
        ∃ reason, make option = .error (.refused reason) ∧
          warnings = [.refusedOption option word reason] ∧
          (make none = .error (.failed fault) ∨
            ∃ again, make none = .error (.refused again) ∧ fault = .option again) := by
  rw [makeResolver]
  cases first : make option with
  | ok made => simp [Warned.ok]
  | error refusal =>
    cases refusal with
    | failed other => simp [Warned.fail, and_comm, eq_comm]
    | refused reason =>
      cases second : make none with
      | ok made => simp
      | error refusal => cases refusal <;> simp [eq_comm]

theorem compileWord_eq_error_iff {table : WordTable} {d : Directive} {width : Width}
    {warnings : List Warning} {fault : Fault} :
    compileWord table d width = ⟨warnings, .error fault⟩ ↔
      WordFails table (.ofList d.word) (usedOption d) warnings fault := by
  constructor
  · intro ended
    simp only [compileWord] at ended
    split at ended
    · simp at ended
    · next target found =>
      split at ended
      · simp at ended
      · next make maker =>
        rcases makeResolver_eq_error_iff.1 (Warned.map_eq_error_iff.1 ended) with
          ⟨failed, rfl⟩ | ⟨reason, refused, rfl, failed | ⟨again, refusedAgain, rfl⟩⟩
        · exact .failed found ((fails_of_maker maker).2 failed)
        · exact .failedAgain found ((refuses_of_maker maker).2 refused)
            ((fails_of_maker maker).2 failed)
        · exact .refusedAgain found ((refuses_of_maker maker).2 refused)
            ((refuses_of_maker maker).2 refusedAgain)
  · intro fails
    cases fails with
    | failed found fails =>
      obtain ⟨make, maker, failed⟩ := fails_iff.1 fails
      simp only [compileWord, found, maker]
      exact Warned.map_eq_error_iff.2 (makeResolver_eq_error_iff.2 (.inl ⟨failed, rfl⟩))
    | failedAgain found refuses fails =>
      obtain ⟨make, maker, refused⟩ := refuses_iff.1 refuses
      have failed := (fails_of_maker maker).1 fails
      simp only [compileWord, found, maker]
      exact Warned.map_eq_error_iff.2
        (makeResolver_eq_error_iff.2 (.inr ⟨_, refused, rfl, .inl failed⟩))
    | refusedAgain found refuses refusesAgain =>
      obtain ⟨make, maker, refused⟩ := refuses_iff.1 refuses
      have refusedAgain := (refuses_of_maker maker).1 refusesAgain
      simp only [compileWord, found, maker]
      exact Warned.map_eq_error_iff.2
        (makeResolver_eq_error_iff.2 (.inr ⟨_, refused, rfl, .inr ⟨_, refusedAgain, rfl⟩⟩))

theorem compileModifiers_eq_error_iff {modifiers : List Char} {warnings : List Warning}
    {fault : Fault} :
    compileModifiers modifiers = ⟨warnings, .error fault⟩ ↔
      Width.ofModifiers modifiers = .error fault ∧ warnings = [] := by
  rw [compileModifiers]
  split
  · next read => simp [read]
  · next read => simp [read, Warned.fail, and_comm, eq_comm]

theorem compileToken_eq_error_iff {table : WordTable} {d : Directive} {warnings : List Warning}
    {fault : Fault} (wellFormed : d.IsWellFormed) :
    compileToken table (.directive d) = ⟨warnings, .error fault⟩ ↔
      DirectiveFails table d warnings fault := by
  simp only [compileToken, Warned.andThen_eq_error_iff, Warned.map_eq_error_iff,
    compileModifiers_eq_error_iff, compileModifiers_eq_ok_iff wellFormed.modifiers,
    compileWord_eq_error_iff]
  constructor
  · rintro (⟨refused, rfl⟩ | ⟨width, flaws, more, taken, fails, rfl⟩)
    · exact .numeral refused
    · exact .word taken fails
  · intro fails
    cases fails with
    | numeral refused => exact .inl ⟨refused, rfl⟩
    | word taken fails => exact .inr ⟨_, _, _, taken, fails, rfl⟩

/-! ## 2. Tokens one after the other -/

/-- Compiling fails at the first token that fails; what stands before it has been compiled. -/
theorem compileTokens_eq_error_iff {table : WordTable} {tokens : List Token}
    {warnings : List Warning} {fault : Fault} :
    compileTokens table tokens = ⟨warnings, .error fault⟩ ↔
      ∃ before token after converters earlier more, tokens = before ++ token :: after ∧
        compileTokens table before = ⟨earlier, .ok converters⟩ ∧
        compileToken table token = ⟨more, .error fault⟩ ∧ warnings = earlier ++ more := by
  constructor
  · induction tokens generalizing warnings with
    | nil => simp [compileTokens, Warned.ok]
    | cons token tokens ih =>
      intro ended
      simp only [compileTokens, Warned.andThen_eq_error_iff, Warned.map_eq_error_iff] at ended
      rcases ended with here | ⟨converter, flaws, others, taken, later, rfl⟩
      · exact ⟨[], token, tokens, [], [], warnings, rfl, rfl, here, rfl⟩
      · obtain ⟨before, last, after, converters, earlier, more, rfl, compiled, ends, rfl⟩ := ih later
        refine ⟨token :: before, last, after, converter.toList ++ converters, flaws ++ earlier,
          more, rfl, ?_, ends, (List.append_assoc _ _ _).symm⟩
        rw [compileTokens, Warned.andThen_eq_ok_iff]
        exact ⟨converter, flaws, earlier, taken,
          Warned.map_eq_ok_iff.2 ⟨converters, compiled, rfl⟩, rfl⟩
  · rintro ⟨before, token, after, converters, earlier, more, rfl, compiled, ends, rfl⟩
    rw [compileTokens_append, Warned.andThen_eq_error_iff]
    refine .inr ⟨converters, earlier, more, compiled, Warned.map_eq_error_iff.2 ?_, rfl⟩
    rw [compileTokens, Warned.andThen_eq_error_iff]
    exact .inl ends

/-! ## 3. Whole patterns -/

theorem Field.not_fails (f : Field) (option : Option String) (fault : Fault) :
    ¬ (Target.field f).Fails option fault := by
  intro (failed : f.resolver option = .error (.failed fault))
  rcases f.resolver_total option with ⟨r, made⟩ | ⟨⟨reason, refused⟩, -⟩
  · rw [made] at failed
    cases failed
  · rw [refused] at failed
    cases failed

theorem WordTable.OnlyRefuses.not_fails {table : WordTable} (onlyRefuses : table.OnlyRefuses)
    {word : String} {target : Target} (found : table.lookup word = some target)
    (option : Option String) (fault : Fault) : ¬ target.Fails option fault := by
  cases target with
  | field f => exact f.not_fails option fault
  | other given => exact id
  | custom c =>
    intro (failed : (c.make option).map _ = .error (.failed fault))
    cases made : c.make option with
    | ok resolve =>
      rw [made] at failed
      cases failed
    | error refusal =>
      rw [made] at failed
      cases failed
      exact onlyRefuses word c found option fault made

/-- A class that only refuses makes a resolver or refuses. -/
theorem WordTable.OnlyRefuses.makes_or_refuses {table : WordTable}
    (onlyRefuses : table.OnlyRefuses) {word : String} {target : Target}
    (found : table.lookup word = some target) (renders : ∀ given, target ≠ .other given)
    (option : Option String) :
    (∃ resolver, target.Makes option resolver) ∨ ∃ reason, target.Refuses option reason := by
  have noFault := onlyRefuses.not_fails found option
  obtain ⟨make, maker⟩ : ∃ make, target.maker = .ok make := by
    cases target with
    | field f => exact ⟨_, rfl⟩
    | custom c => exact ⟨_, rfl⟩
    | other given => exact absurd rfl (renders given)
  cases made : make option with
  | ok resolver => exact .inl ⟨resolver, (makes_of_maker maker).2 made⟩
  | error refusal =>
    cases refusal with
    | refused reason => exact .inr ⟨reason, (refuses_of_maker maker).2 made⟩
    | failed fault => exact absurd ((fails_of_maker maker).2 made) (noFault fault)

theorem Target.Refuses.not_makes {target : Target} {option : Option String} {reason : String}
    (refuses : target.Refuses option reason) (resolver : Resolver) :
    ¬ target.Makes option resolver := by
  intro makes
  obtain ⟨make, maker, refused⟩ := refuses_iff.1 refuses
  rw [makes_of_maker maker, refused] at makes
  cases makes

/-- The word of a directive is taken unless its resolver is refused twice. -/
theorem WordTable.OnlyRefuses.exists_wordTaken_iff {table : WordTable}
    (onlyRefuses : table.OnlyRefuses) (d : Directive) (width : Width) :
    (∃ kept more, WordTaken table (.ofList d.word) (usedOption d) width kept more) ↔
      ¬ ∃ reason again, d.IsRefusedTwice table reason again := by
  constructor
  · rintro ⟨kept, more, taken⟩ ⟨reason, again, target, found, refuses, refusesAgain⟩
    cases taken with
    | unknown missing =>
      rw [missing] at found
      cases found
    | noResolver other =>
      rw [other] at found
      cases found
      exact refuses
    | accepted found' makes =>
      rw [found'] at found
      cases found
      exact refuses.not_makes _ makes
    | refused found' _ makes =>
      rw [found'] at found
      cases found
      exact refusesAgain.not_makes _ makes
  · intro once
    cases found : table.lookup (.ofList d.word) with
    | none => exact ⟨_, _, .unknown found⟩
    | some target =>
      by_cases renders : ∀ given, target ≠ .other given
      · have either := onlyRefuses.makes_or_refuses found renders
        rcases either (usedOption d) with ⟨resolver, makes⟩ | ⟨reason, refuses⟩
        · exact ⟨_, _, .accepted found makes⟩
        · rcases either none with ⟨resolver, makes⟩ | ⟨again, refusesAgain⟩
          · exact ⟨_, _, .refused found refuses makes⟩
          · exact absurd ⟨reason, again, target, found, refuses, refusesAgain⟩ once
      · obtain ⟨given, rfl⟩ := not_forall_not.1 renders
        exact ⟨_, _, .noResolver found⟩

/-- With classes that only refuse options and numerals that can be read, a directive fails exactly
when its resolver is refused twice. -/
theorem WordTable.OnlyRefuses.directiveFails_iff {table : WordTable}
    (onlyRefuses : table.OnlyRefuses) {d : Directive} (wellFormed : d.IsWellFormed)
    (short : ¬ d.HasLongNumeral) {warnings : List Warning} {fault : Fault} :
    DirectiveFails table d warnings fault ↔
      ∃ width flaws reason again, ModifiersTaken d.modifiers width flaws ∧
        d.IsRefusedTwice table reason again ∧
        warnings = flaws ++ [.refusedOption (usedOption d) (.ofList d.word) reason] ∧
        fault = .option again := by
  obtain ⟨width, flaws, taken⟩ := (exists_modifiersTaken_iff wellFormed).2 short
  constructor
  · intro fails
    cases fails with
    | numeral refused =>
      rw [(ofModifiers_eq_ok_iff wellFormed.modifiers).2 taken] at refused
      cases refused
    | word taken fails =>
      cases fails with
      | failed found failed => exact absurd failed (onlyRefuses.not_fails found _ _)
      | failedAgain found _ failed => exact absurd failed (onlyRefuses.not_fails found _ _)
      | refusedAgain found refuses refusesAgain =>
        exact ⟨_, _, _, _, taken, ⟨_, found, refuses, refusesAgain⟩, rfl, rfl⟩
  · rintro ⟨width, flaws, reason, again, taken, ⟨target, found, refuses, refusesAgain⟩, rfl, rfl⟩
    exact .word taken (.refusedAgain found refuses refusesAgain)

theorem exists_chain_iff {table : WordTable} {pattern : String}
    (onlyRefuses : table.OnlyRefuses)
    (short : ∀ d, .directive d ∈ scan pattern.toList → ¬ d.HasLongNumeral) :
    (∃ chain warnings, compileText table pattern = ⟨warnings, .ok chain⟩) ↔
      ∀ d, .directive d ∈ scan pattern.toList →
        ¬ ∃ reason again, d.IsRefusedTwice table reason again := by
  by_cases empty : pattern = ""
  · subst empty
    exact iff_of_true ⟨_, _, rfl⟩ (by simp [scan, scanFrom_nil])
  · have each : (∃ converters warnings,
        Compiles table (scan pattern.toList) converters warnings) ↔
          ∀ d, .directive d ∈ scan pattern.toList →
            ¬ ∃ reason again, d.IsRefusedTwice table reason again := by
      rw [exists_compiles_iff]
      refine forall₂_congr fun d member => ?_
      obtain ⟨width, flaws, modifiers⟩ :=
        (exists_modifiersTaken_iff (scan_wellFormed _ d member)).2 (short d member)
      constructor
      · rintro ⟨width, -, kept, more, -, word⟩
        exact (onlyRefuses.exists_wordTaken_iff d width).1 ⟨kept, more, word⟩
      · intro once
        obtain ⟨kept, more, word⟩ := (onlyRefuses.exists_wordTaken_iff d width).2 once
        exact ⟨width, flaws, kept, more, modifiers, word⟩
    rw [← each]
    simp only [compileText_eq_ok_iff empty]
    constructor
    · rintro ⟨chain, warnings, -, compiled⟩
      exact ⟨chain.converters, warnings, compiled⟩
    · rintro ⟨converters, warnings, compiled⟩
      exact ⟨⟨converters, pattern⟩, warnings, rfl, compiled⟩

theorem compileText_eq_error_iff {table : WordTable} {pattern : String} {warnings : List Warning}
    {fault : Fault} :
    compileText table pattern = ⟨warnings, .error fault⟩ ↔
      ∃ before d after converters earlier more,
        scan pattern.toList = before ++ .directive d :: after ∧
          Compiles table before converters earlier ∧ DirectiveFails table d more fault ∧
          warnings = earlier ++ more := by
  have tokens : compileText table pattern = ⟨warnings, .error fault⟩ ↔
      compileTokens table (scan pattern.toList) = ⟨warnings, .error fault⟩ := by
    by_cases empty : pattern = ""
    · subst empty
      simp [compileText, scan, scanFrom_nil, compileTokens, Warned.ok]
    · rw [compileText, if_neg (by simpa using empty), Warned.map_eq_error_iff]
  rw [tokens, compileTokens_eq_error_iff]
  have wellFormed := scan_wellFormed pattern.toList
  constructor
  · rintro ⟨before, token, after, converters, earlier, more, parts, compiled, ends, rfl⟩
    rw [parts] at wellFormed
    cases token with
    | literal text => simp [compileToken, Warned.ok] at ends
    | directive d =>
      exact ⟨before, d, after, converters, earlier, more, parts,
        (compileTokens_eq_ok_iff fun d' member => wellFormed d' (by simp [member])).1 compiled,
        (compileToken_eq_error_iff (wellFormed d (by simp))).1 ends, rfl⟩
  · rintro ⟨before, d, after, converters, earlier, more, parts, compiled, fails, rfl⟩
    rw [parts] at wellFormed
    exact ⟨before, .directive d, after, converters, earlier, more, parts,
      (compileTokens_eq_ok_iff fun d' member => wellFormed d' (by simp [member])).2 compiled,
      (compileToken_eq_error_iff (wellFormed d (by simp))).2 fails, rfl⟩

/-- With classes that only refuse options and numerals that can be read, the empty pattern has a
chain, and every other pattern has one exactly when no directive is refused both its option and to
go without: then each token is taken, and a refused option is a warning. Else compiling ends at the
first such directive, with the second refusal. -/
theorem compile_ends_at_required_option {table : WordTable} {pattern : String}
    (onlyRefuses : table.OnlyRefuses)
    (short : ∀ d, .directive d ∈ scan pattern.toList → ¬ d.HasLongNumeral) :
    ((∃ chain warnings, compile table (.str pattern) = ⟨warnings, .ok chain⟩) ↔
        ∀ d, .directive d ∈ scan pattern.toList →
          ¬ ∃ reason again, d.IsRefusedTwice table reason again) ∧
      (∀ chain warnings, pattern ≠ "" → compile table (.str pattern) = ⟨warnings, .ok chain⟩ →
        Compiles table (scan pattern.toList) chain.converters warnings) ∧
      ∀ warnings fault, compile table (.str pattern) = ⟨warnings, .error fault⟩ ↔
        ∃ before d after converters earlier width flaws reason again,
          scan pattern.toList = before ++ .directive d :: after ∧
            Compiles table before converters earlier ∧
            ModifiersTaken d.modifiers width flaws ∧ d.IsRefusedTwice table reason again ∧
            warnings =
              earlier ++ flaws ++ [.refusedOption (usedOption d) (.ofList d.word) reason] ∧
            fault = .option again := by
  refine ⟨exists_chain_iff onlyRefuses short, fun chain warnings nonempty compiled =>
    ((compileText_eq_ok_iff nonempty).1 compiled).2, fun warnings fault => ?_⟩
  rw [compile, compileText_eq_error_iff]
  constructor
  · rintro ⟨before, d, after, converters, earlier, more, parts, compiled, fails, rfl⟩
    have member : Token.directive d ∈ scan pattern.toList := by simp [parts]
    obtain ⟨width, flaws, reason, again, taken, twice, rfl, rfl⟩ :=
      (onlyRefuses.directiveFails_iff (scan_wellFormed _ d member) (short d member)).1 fails
    exact ⟨before, d, after, converters, earlier, width, flaws, reason, again, parts, compiled,
      taken, twice, (List.append_assoc _ _ _).symm, rfl⟩
  · rintro ⟨before, d, after, converters, earlier, width, flaws, reason, again, parts, compiled,
      taken, twice, rfl, rfl⟩
    have member : Token.directive d ∈ scan pattern.toList := by simp [parts]
    exact ⟨before, d, after, converters, earlier, _, parts, compiled,
      (onlyRefuses.directiveFails_iff (scan_wellFormed _ d member) (short d member)).2
        ⟨width, flaws, reason, again, taken, twice, rfl, rfl⟩, List.append_assoc _ _ _⟩

/-- A class whose resolvers require an option and render it. -/
def strictClass : ResolverClass where
  name := "Strict"
  make
    | none => .error (.refused "option required")
    | some "bad" => .error (.refused "bad option")
    | some s => .ok fun _ _ => .ok (.str s)

/-- A table with a word for a class that requires an option. -/
def strictTable : WordTable := [("S", .custom strictClass)]

theorem onlyRefuses_strictTable : strictTable.OnlyRefuses := by
  intro word c found option fault failed
  rw [strictTable, List.lookup_cons] at found
  split at found
  · cases found
    simp only [strictClass] at failed
    split at failed <;> cases failed
  · simp at found

theorem scan_strictPattern :
    scan "a%S b".toList = [.literal ['a'], .directive ⟨[], ['S'], none, 1⟩, .literal [' ', 'b']] := by
  decide +kernel

theorem short_strictPattern :
    ∀ d, .directive d ∈ scan "a%S b".toList → ¬ d.HasLongNumeral := by
  intro d member
  rw [scan_strictPattern] at member
  simp only [List.mem_cons, reduceCtorEq, Token.directive.injEq, List.not_mem_nil, or_false,
    false_or] at member
  subst member
  rintro ⟨least, most, numerals, -⟩
  exact numerals.ne_nil rfl

theorem compile_strictPattern :
    compile strictTable (.str "a%S b") =
      ⟨[.refusedOption none "S" "option required"], .error (.option "option required")⟩ := by
  rw [compile, compileText, if_neg (by decide), scan_strictPattern]
  rfl

theorem required_option_of_strictPattern :
    strictTable.OnlyRefuses ∧ (∀ d, .directive d ∈ scan "a%S b".toList → ¬ d.HasLongNumeral) ∧
      ∃ before d after reason, scan "a%S b".toList = before ++ .directive d :: after ∧
        d.IsRefusedTwice strictTable reason "option required" := by
  obtain ⟨-, -, ends⟩ := compile_ends_at_required_option onlyRefuses_strictTable short_strictPattern
  obtain ⟨before, d, after, converters, earlier, width, flaws, reason, again, parts, -, -, twice, -,
    fault⟩ := (ends _ _).1 compile_strictPattern
  cases fault
  exact ⟨onlyRefuses_strictTable, short_strictPattern, before, d, after, reason, parts, twice⟩

/-- The class fails only by refusing options and no numeral is too long, yet there is no chain; the
rest of the pattern is not compiled. -/
theorem strictPattern_has_no_chain :
    strictTable.OnlyRefuses ∧ (∀ d, .directive d ∈ scan "a%S b".toList → ¬ d.HasLongNumeral) ∧
      ¬ ∃ chain warnings, compile strictTable (.str "a%S b") = ⟨warnings, .ok chain⟩ := by
  refine ⟨onlyRefuses_strictTable, short_strictPattern, ?_⟩
  rintro ⟨chain, warnings, compiled⟩
  rw [compile_strictPattern] at compiled
  cases compiled

end LogLayout.Pattern
