import LogLayout.Proofs.Pattern.FirstFailure
import LogLayout.Proofs.Pattern.RequiredOption
import LogLayout.Proofs.Pattern.Seam

/-!
# Patterns without their refused options

An option that a class refuses is warned of, and the directive is used as if it had none. The same
pattern with nothing between the braces of these directives is therefore the same layout, except
that there is nothing left to warn of. Emptying braces does not change how the rest of the pattern
is read: nothing is closed or opened by it, and no word gets longer.

Results:
1. `scan_emptied`: the tokens of a pattern with emptied braces are those of the pattern, emptied.
2. `Compiles.withoutRefused`: they compile to the same converters, without the warnings of refused
   options.
3. `compile_withoutRefused`: so does the pattern itself, and it formats everything the same.
-/

namespace LogLayout.Pattern

/-! ## Definitions -/

/-- The directive, with nothing between its braces if it has any and is chosen. -/
def Directive.emptied (chosen : Directive → Bool) (d : Directive) : Directive :=
  if chosen d then { d with raw := d.raw.map fun _ => [] } else d

/-- The token, emptied if it is a directive that is chosen. -/
def Token.emptied (chosen : Directive → Bool) : Token → Token
  | literal text => literal text
  | directive d => directive (d.emptied chosen)

/-- The word of the directive stands for a class that refuses the option of the directive. -/
def WordTable.refusesOption (table : WordTable) (d : Directive) : Bool :=
  match table.lookup (.ofList d.word) with
  | none => false
  | some target =>
    match target.maker with
    | .error _ => false
    | .ok make =>
      match make (usedOption d) with
      | .error (.refused _) => true
      | _ => false

/-- The pattern with nothing between the braces of the directives whose option is refused. -/
def withoutRefused (table : WordTable) (pattern : String) : String :=
  .ofList ((scan pattern.toList).flatMap fun token => (token.emptied table.refusesOption).text)

/-- Whether the warning is of a refused option. -/
def isRefusedOption : Warning → Bool
  | .refusedOption .. => true
  | _ => false

/-! ## 1. Tokens -/

section Emptied

variable (chosen : Directive → Bool)

@[simp] theorem Directive.emptied_modifiers (d : Directive) :
    (d.emptied chosen).modifiers = d.modifiers := by
  rw [emptied]
  split <;> rfl

@[simp] theorem Directive.emptied_word (d : Directive) : (d.emptied chosen).word = d.word := by
  rw [emptied]
  split <;> rfl

theorem Directive.emptied_raw_eq_none_iff (d : Directive) :
    (d.emptied chosen).raw = none ↔ d.raw = none := by
  rw [emptied]
  split <;> simp

/-- Empty braces are no option. -/
theorem usedOption_emptied {d : Directive} (isChosen : chosen d = true) :
    usedOption (d.emptied chosen) = none := by
  obtain ⟨modifiers, word, raw, start⟩ := d
  rw [Directive.emptied, if_pos isChosen]
  cases raw <;> rfl

theorem Directive.IsWellFormed.emptied {d : Directive} (wellFormed : d.IsWellFormed) :
    (d.emptied chosen).IsWellFormed := by
  refine Directive.isWellFormed_of_parts (by simpa using wellFormed.modifiers)
    (by simpa using wellFormed.word_ne_nil) (by simpa using wellFormed.word) ?_
  intro raw found
  rw [Directive.emptied] at found
  split at found
  · obtain ⟨-, -, rfl⟩ := Option.map_eq_some_iff.1 found
    simp
  · exact (wellFormed.braced raw found).1

theorem Directive.mem_text_of_emptied {d : Directive} {c : Char}
    (member : c ∈ (d.emptied chosen).text) : c ∈ d.text := by
  rw [emptied] at member
  split at member
  · obtain ⟨modifiers, word, raw, start⟩ := d
    cases raw with
    | none => exact member
    | some raw =>
      simp only [text, Option.map_some, List.mem_append, List.mem_cons] at member ⊢
      grind
  · exact member

theorem Token.mem_text_of_emptied {token : Token} {c : Char}
    (member : c ∈ (token.emptied chosen).text) : c ∈ token.text := by
  cases token with
  | literal text => exact member
  | directive d => exact Directive.mem_text_of_emptied chosen member

/-- The rest of the pattern begins as it did. -/
theorem head?_emptied {tokens : List Token} (nonempty : .literal [] ∉ tokens) :
    (tokens.flatMap fun token => (token.emptied chosen).text).head? =
      (tokens.flatMap Token.text).head? := by
  cases tokens with
  | nil => rfl
  | cons token tokens =>
    cases token with
    | literal text =>
      cases text with
      | nil => exact absurd (by simp) nonempty
      | cons c text => rfl
    | directive d => rfl

/-- A directive that ended in front of the rest of the pattern still does: the rest begins as
before, and emptying braces takes a closing one from nobody. -/
theorem Directive.EndsBefore.emptied {d : Directive} {tokens : List Token}
    (nonempty : .literal [] ∉ tokens) (ends : d.EndsBefore (tokens.flatMap Token.text)) :
    (d.emptied chosen).EndsBefore
      (tokens.flatMap fun token => (token.emptied chosen).text) := by
  intro plain
  obtain ⟨noLetter, unclosed⟩ := ends ((d.emptied_raw_eq_none_iff chosen).1 plain)
  have first := head?_emptied chosen nonempty
  refine ⟨by rwa [first], ?_⟩
  intro tail opens closing
  rw [opens] at first
  obtain ⟨before, whole⟩ := List.head?_eq_some_iff.1 first.symm
  have member : '\x7d' ∈ tokens.flatMap fun token => (token.emptied chosen).text := by
    simp [opens, closing]
  obtain ⟨token, there, member⟩ := List.mem_flatMap.1 member
  have closed : '\x7d' ∈ tokens.flatMap Token.text :=
    List.mem_flatMap.2 ⟨token, there, Token.mem_text_of_emptied chosen member⟩
  rw [whole] at closed
  exact unclosed before whole (by simpa using closed)

/-- The tokens of a reading, emptied, are a reading of what they make up; only the places that the
directives note are other ones. -/
theorem IsReading.emptied {position : Nat} {cs : List Char} {tokens : List Token}
    (reading : IsReading position cs tokens) (other : Nat) :
    ∃ placed, IsReading other (tokens.flatMap fun token => (token.emptied chosen).text) placed ∧
      placed.map Token.alone = tokens.map fun token => (token.emptied chosen).alone := by
  induction tokens generalizing position cs other with
  | nil => exact ⟨[], isReading_nil other, rfl⟩
  | cons token tokens ih =>
    cases token with
    | literal text =>
      obtain ⟨nonempty, free, apart, rest, rfl, behind⟩ := isReading_literal_cons.1 reading
      obtain ⟨placed, read, same⟩ := ih behind (other + text.length)
      refine ⟨.literal text :: placed,
        isReading_literal_cons.2 ⟨nonempty, free, ?_, _, rfl, read⟩, ?_⟩
      · -- a literal in front of the emptied tokens would be one in front of the tokens
        intro more begins
        obtain ⟨after, rfl⟩ := List.head?_eq_some_iff.1 begins
        cases tokens with
        | nil => simp at same
        | cons token tokens =>
          cases token with
          | literal text' => exact apart text' rfl
          | directive d => simp [Token.emptied, Token.alone] at same
      · simp [same, Token.emptied]
    | directive d =>
      obtain ⟨rfl, wellFormed, rest, rfl, ends, behind⟩ := isReading_directive_cons.1 reading
      rw [← behind.text] at ends
      let moved : Directive := { d.emptied chosen with start := other }
      obtain ⟨placed, read, same⟩ := ih behind moved.stop
      refine ⟨.directive moved :: placed, isReading_directive_cons.2 ⟨rfl,
        (wellFormed.emptied chosen).moved other, _, rfl,
        ends.emptied chosen behind.literal_ne_nil, read⟩, ?_⟩
      simp [same, Token.emptied, Token.alone, moved]

/-- The scanner finds in the emptied text the emptied tokens. -/
theorem scan_emptied (pattern : List Char) :
    (scan ((scan pattern).flatMap fun token => (token.emptied chosen).text)).map Token.alone =
      (scan pattern).map fun token => (token.emptied chosen).alone := by
  obtain ⟨placed, read, same⟩ := (isReading_scanFrom 0 pattern).emptied chosen 0
  rw [read.eq_scanFrom] at same
  exact same

end Emptied

/-! ## 2. Converters and warnings -/

theorem WordTable.refusesOption_iff {table : WordTable} {d : Directive} :
    table.refusesOption d = true ↔
      ∃ target reason, table.lookup (.ofList d.word) = some target ∧
        target.Refuses (usedOption d) reason := by
  rw [refusesOption]
  cases found : table.lookup (.ofList d.word) with
  | none => simp
  | some target =>
    cases maker : target.maker with
    | error given => simp [refuses_iff, maker]
    | ok make =>
      simp only [Option.some.injEq, ↓existsAndEq, true_and, refuses_of_maker maker, maker]
      cases make (usedOption d) with
      | ok resolver => simp
      | error fault => cases fault <;> simp

/-- Modifiers bring no warnings of refused options. -/
theorem ModifiersTaken.filter_isRefusedOption {modifiers : List Char} {width : Width}
    {flaws : List Warning} (taken : ModifiersTaken modifiers width flaws) :
    flaws.filter (!isRefusedOption ·) = flaws := by
  cases taken <;> rfl

/-- A word whose option is refused is taken without one as it was, and not warned of; nothing
changes for any other. -/
theorem WordTaken.withoutRefused {table : WordTable} {d : Directive} {width : Width}
    {kept : Option FieldConverter} {more : List Warning}
    (taken : WordTaken table (.ofList d.word) (usedOption d) width kept more) :
    WordTaken table (.ofList d.word) (usedOption (d.emptied table.refusesOption)) width kept
      (more.filter (!isRefusedOption ·)) := by
  cases taken with
  | unknown missing => exact .unknown missing
  | noResolver found => exact .noResolver found
  | accepted found makes =>
    have accepted : table.refusesOption d ≠ true := by
      rw [Ne, WordTable.refusesOption_iff]
      rintro ⟨target, reason, found', refuses⟩
      rw [found] at found'
      cases found'
      exact refuses.not_makes _ makes
    rw [Directive.emptied, if_neg accepted]
    exact .accepted found makes
  | refused found refuses makes =>
    rw [usedOption_emptied _ (WordTable.refusesOption_iff.2 ⟨_, _, found, refuses⟩)]
    exact .accepted found makes

/-- The emptied tokens compile to the same converters and to the other warnings. -/
theorem Compiles.withoutRefused {table : WordTable} {tokens : List Token}
    {converters : List Converter} {warnings : List Warning}
    (compiles : Compiles table tokens converters warnings) :
    Compiles table (tokens.map (·.emptied table.refusesOption)) converters
      (warnings.filter (!isRefusedOption ·)) := by
  induction compiles with
  | nil => exact .nil
  | literal text _ ih => exact .literal text ih
  | @kept d _ _ _ _ _ _ _ modifiers word _ ih =>
    rw [List.filter_append, List.filter_append, modifiers.filter_isRefusedOption]
    exact .kept (by simpa using modifiers) (by simpa using word.withoutRefused) ih
  | @dropped d _ _ _ _ _ _ modifiers word _ ih =>
    rw [List.filter_append, List.filter_append, modifiers.filter_isRefusedOption]
    exact .dropped (by simpa using modifiers) (by simpa using word.withoutRefused) ih

/-- A directive whose option is refused has a converter without an option, made by its class for
no option. -/
theorem Compiles.converter_of_refused {table : WordTable} {before after : List Token}
    {d : Directive} {converters : List Converter} {warnings : List Warning}
    (compiles : Compiles table (before ++ .directive d :: after) converters warnings)
    (refused : table.refusesOption d = true) :
    ∃ front f back earlier, Compiles table before front earlier ∧
      converters = front ++ .field f :: back ∧ f.word = .ofList d.word ∧ f.option = none ∧
      f.target.Makes none f.resolver := by
  induction before generalizing converters warnings with
  | nil =>
    obtain ⟨target, reason, found, refuses⟩ := WordTable.refusesOption_iff.1 refused
    obtain ⟨width, flaws, kept, more, back, others, -, taken, -, rfl, -⟩ :=
      compiles_directive_iff.1 compiles
    cases taken with
    | unknown missing =>
      rw [missing] at found
      cases found
    | noResolver other =>
      rw [other] at found
      cases found
      exact absurd refuses id
    | accepted found' makes =>
      rw [found'] at found
      cases found
      exact absurd makes (refuses.not_makes _)
    | refused _ _ makes => exact ⟨[], _, back, [], .nil, rfl, rfl, rfl, makes⟩
  | cons token before ih =>
    cases compiles with
    | literal text rest =>
      obtain ⟨front, f, back, earlier, compiled, rfl, found⟩ := ih rest
      exact ⟨_, f, back, _, .literal text compiled, rfl, found⟩
    | kept modifiers word rest =>
      obtain ⟨front, f, back, earlier, compiled, rfl, found⟩ := ih rest
      exact ⟨_, f, back, _, .kept modifiers word compiled, rfl, found⟩
    | dropped modifiers word rest =>
      obtain ⟨front, f, back, earlier, compiled, rfl, found⟩ := ih rest
      exact ⟨_, f, back, _, .dropped modifiers word compiled, rfl, found⟩

/-! ## 3. Whole patterns -/

theorem compileTokens_withoutRefused {table : WordTable} {pattern : List Char}
    {converters : List Converter} {warnings : List Warning}
    (compiles : Compiles table (scan pattern) converters warnings) :
    Compiles table
      (scan ((scan pattern).flatMap fun token => (token.emptied table.refusesOption).text))
      converters (warnings.filter (!isRefusedOption ·)) := by
  have emptied := compiles.withoutRefused
  have wellFormed : ∀ d, .directive d ∈ (scan pattern).map (·.emptied table.refusesOption) →
      d.IsWellFormed := by
    intro d member
    obtain ⟨token, there, same⟩ := List.mem_map.1 member
    cases token with
    | literal text => simp [Token.emptied] at same
    | directive d' =>
      cases same
      exact (scan_wellFormed pattern d' there).emptied table.refusesOption
  rw [← compileTokens_eq_ok_iff wellFormed, ← compileTokens_map_alone, List.map_map] at emptied
  rw [← compileTokens_eq_ok_iff (scan_wellFormed _), ← compileTokens_map_alone, scan_emptied]
  exact emptied

theorem withoutRefused_ne_empty {table : WordTable} {pattern : String} (nonempty : pattern ≠ "") :
    withoutRefused table pattern ≠ "" := by
  intro empty
  have none : (scan pattern.toList).flatMap
      (fun token => (token.emptied table.refusesOption).text) = [] := by
    simpa [withoutRefused] using empty
  have first := head?_emptied table.refusesOption
    (isReading_scanFrom 0 pattern.toList).literal_ne_nil
  rw [← scan, none, scan_text, List.head?_nil, eq_comm, List.head?_eq_none_iff] at first
  exact nonempty (String.toList_eq_nil_iff.1 first)

theorem Layout.formatAll_congr {s : Surroundings} {l l' : Layout} (same : l'.slots = l.slots)
    (entries : List Entry) : l'.formatAll s entries = l.formatAll s entries := by
  induction entries generalizing l l' with
  | nil => rfl
  | cons e entries ih =>
    have now : (l'.format s e).2 = (l.format s e).2 := by simp only [format, same]
    rw [formatAll, formatAll, now, ih]
    simp only [format, same]

/-- A pattern that compiles still does when the braces of the directives whose option is refused
are emptied. The warnings are those of other flaws. The converters are the same, and those of the
directives in question have no option. Any entries are formatted to the same lines with the same
warnings. -/
theorem compile_withoutRefused {table : WordTable} {pattern : String} {chain : Chain}
    {warnings : List Warning}
    (compiled : compile table (.str pattern) = ⟨warnings, .ok chain⟩) :
    ∃ chain', compile table (.str (withoutRefused table pattern)) =
        ⟨warnings.filter (!isRefusedOption ·), .ok chain'⟩ ∧
      chain'.converters = chain.converters ∧
      (∀ before d after, scan pattern.toList = before ++ .directive d :: after →
        table.refusesOption d = true →
        ∃ front f back earlier, Compiles table before front earlier ∧
          chain'.converters = front ++ .field f :: back ∧ f.word = .ofList d.word ∧
          f.option = none ∧ f.target.Makes none f.resolver) ∧
      ∀ s entries, (Layout.ofChain chain').formatAll s entries =
        (Layout.ofChain chain).formatAll s entries := by
  by_cases nonempty : pattern = ""
  · subst nonempty
    rw [compile_empty] at compiled
    obtain ⟨rfl, rfl⟩ := Warned.ok_eq_iff.1 compiled
    have noTokens : scan "".toList = [] := scanFrom_nil 0
    refine ⟨⟨[.literal ""], ""⟩, ?_, rfl, ?_, fun s entries => rfl⟩
    · rw [withoutRefused, noTokens]
      exact compile_empty table
    · intro before d after whole
      rw [noTokens] at whole
      simp at whole
  · obtain ⟨-, compiles⟩ := (compileText_eq_ok_iff nonempty).1 compiled
    have again := compileTokens_withoutRefused compiles
    refine ⟨⟨chain.converters, withoutRefused table pattern⟩,
      (compileText_eq_ok_iff (withoutRefused_ne_empty nonempty)).2 ⟨rfl, ?_⟩, rfl, ?_, ?_⟩
    · simpa [withoutRefused] using again
    · intro before d after whole refused
      rw [whole] at compiles
      exact compiles.converter_of_refused refused
    · exact fun s entries => Layout.formatAll_congr (by rfl) entries

/-- The options of `exPattern` are refused once: the second `%c` keeps its braces. -/
theorem compile_withoutRefused_exPattern :
    compile exTable (.str exPattern) = ⟨exWarnings, .ok exChain⟩ ∧
      withoutRefused exTable exPattern = "a%5-p%q%z %c\x7b\x7d%-5.3c\x7b2\x7d" ∧
      ∃ chain', compile exTable (.str "a%5-p%q%z %c\x7b\x7d%-5.3c\x7b2\x7d") =
          ⟨[.modifiers "5-", .unknownWord "q", .noResolver "z" .null], .ok chain'⟩ ∧
        chain'.converters = exChain.converters ∧
        (Layout.ofChain chain').formatAll default [exEntry, exEntry] =
          (Layout.ofChain exChain).formatAll default [exEntry, exEntry] := by
  have emptied :
      withoutRefused exTable exPattern = "a%5-p%q%z %c\x7b\x7d%-5.3c\x7b2\x7d" := by
    rw [withoutRefused, scan_exPattern]
    rfl
  obtain ⟨chain', compiled, same, -, lines⟩ := compile_withoutRefused compile_exPattern
  rw [emptied] at compiled
  exact ⟨compile_exPattern, emptied, chain', compiled, same, lines default [exEntry, exEntry]⟩

end LogLayout.Pattern
