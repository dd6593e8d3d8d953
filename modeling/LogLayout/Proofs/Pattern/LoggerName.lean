import LogLayout.Proofs.Pattern.Correspondence
import LogLayout.Proofs.Pattern.Fitting

/-!
# The name of the logger

A directive for the name of the logger shows all of it, or as many of its last parts as the option
asks for. The relation `IsShortened` says which part of a name that is by counting points and not
parts, and `IsShown` what becomes of an option: no option and zero ask for the whole name, and so
does an option that is refused, with a warning. Braces around blanks are no option.

Results:
1. `length_splitOn`, `intercalate_append`: the parts of a text.
2. `isShortened_iff`: the last parts of a name.
3. `IsShortened.isShortened_iff_min`: shortening a name twice.
4. `logger_name_shown`: what any directive for the name shows.
-/

/-! ## 1. Parts between separators -/

namespace LogLayout.Text

theorem length_splitOn (sep : Char) (cs : List Char) :
    (cs.splitOn sep).length = cs.count sep + 1 := by
  induction cs with
  | nil => rfl
  | cons c cs ih =>
    rw [List.splitOn_cons_eq_if_modifyHead]
    split
    · next same => rw [List.length_cons, ih, eq_of_beq same, List.count_cons_self]
    · next other => rw [List.length_modifyHead, ih, List.count_cons_of_ne (by simpa using other)]

theorem intercalate_append {sep : List Char} {xs ys : List (List Char)} (front : xs ≠ [])
    (back : ys ≠ []) :
    sep.intercalate (xs ++ ys) = sep.intercalate xs ++ sep ++ sep.intercalate ys := by
  induction xs with
  | nil => exact absurd rfl front
  | cons part xs ih =>
    cases xs with
    | nil =>
      rw [List.singleton_append, List.intercalate_cons_of_ne_nil back, List.intercalate_singleton]
    | cons next xs =>
      rw [List.cons_append, List.intercalate_cons_of_ne_nil (by simp), ih (by simp),
        List.intercalate_cons_cons]
      simp only [List.append_assoc]

end LogLayout.Text

namespace LogLayout.Pattern

/-! ## Definitions -/

/-- What is left of a name that is shortened to its last `depth` parts: all of it if it has fewer
points, else what stands after the `depth`-th point from the right. -/
inductive IsShortened (depth : Nat) (name : List Char) : List Char → Prop
  | whole : name.count '.' < depth → IsShortened depth name name
  | after {before rest : List Char} :
      name = before ++ '.' :: rest → rest.count '.' + 1 = depth → IsShortened depth name rest

/-- What is shown of a name for an option, and the warnings that the option gives. -/
inductive IsShown (word : String) (name : List Char) :
    Option String → List Char → List Warning → Prop
  | noOption : IsShown word name none name []
  | zero {text : String} : Text.readInteger text = .ok 0 → IsShown word name (some text) name []
  | last {text : String} {depth : Nat} {rest : List Char} : Text.readInteger text = .ok depth →
      IsShortened depth name rest → IsShown word name (some text) rest []
  | negative {text : String} {n : Int} : Text.readInteger text = .ok n → n < 0 →
      IsShown word name (some text) name
        [.refusedOption (some text) word ("logger depth cannot be negative, got " ++ toString n)]
  | malformed {text : String} {fault : Text.NumeralFault} :
      Text.readInteger text = .error fault →
      IsShown word name (some text) name
        [.refusedOption (some text) word
          ("logger depth must be an integer, got " ++ Text.quoted text)]

/-- In any pattern the directive is compiled to a converter that shows this text for the logger's
name, and its option gives these warnings. The same holds of the directive alone. -/
structure Directive.Shows (table : WordTable) (d : Directive) (name shown : String)
    (warnings : List Warning) : Prop where
  compiled : ∀ width, ∃ f, compileWord table d width = ⟨warnings, .ok (some f)⟩ ∧
    f.width = width ∧ ∀ s e, e.loggerName = .str name → f.rawText s e = shown
  alone : d.modifiers = [] → ∃ chain,
    compile table (.str (.ofList d.text)) = ⟨warnings, .ok chain⟩ ∧
      ∀ s e, e.loggerName = .str name → chain.render s e = .ok shown

/-! ## 2. The last parts of a name -/

variable {depth again : Nat} {name shown rest : List Char}

theorem lastSegments_of_count_lt (few : name.count '.' < depth) :
    lastSegments depth name = name := by
  have all : (name.splitOn '.').length - depth = 0 := by
    rw [Text.length_splitOn]
    omega
  rw [lastSegments, all, List.drop_zero, List.intercalate_splitOn]

theorem lastSegments_append {before : List Char} (enough : rest.count '.' + 1 = depth) :
    lastSegments depth (before ++ '.' :: rest) = rest := by
  have behind : (rest.splitOn '.').length = depth := by rw [Text.length_splitOn, enough]
  rw [lastSegments, List.splitOn_append_cons_self, List.length_append, behind, Nat.add_sub_cancel,
    List.drop_left, List.intercalate_splitOn]

theorem splitOn_lastSegments (positive : 0 < depth) (name : List Char) :
    (lastSegments depth name).splitOn '.' =
      (name.splitOn '.').drop ((name.splitOn '.').length - depth) := by
  have something := List.length_pos_iff.2 (List.splitOn_ne_nil '.' name)
  refine List.splitOn_intercalate '.'
    (fun part member => Text.not_mem_of_mem_splitOn (List.mem_of_mem_drop member)) ?_
  rw [Ne, List.drop_eq_nil_iff]
  omega

theorem isShortened_lastSegments (positive : 0 < depth) (name : List Char) :
    IsShortened depth name (lastSegments depth name) := by
  rcases Nat.lt_or_ge (name.count '.') depth with few | many
  · rw [lastSegments_of_count_lt few]
    exact .whole few
  · have parts := Text.length_splitOn '.' name
    have behind := splitOn_lastSegments positive name
    have whole : name =
        ['.'].intercalate ((name.splitOn '.').take ((name.splitOn '.').length - depth)) ++
          '.' :: lastSegments depth name := by
      rw [lastSegments, List.append_cons, ← Text.intercalate_append, List.take_append_drop,
        List.intercalate_splitOn]
      · rw [Ne, List.take_eq_nil_iff]
        rintro (none | none)
        · omega
        · exact List.splitOn_ne_nil _ _ none
      · rw [← behind]
        exact List.splitOn_ne_nil _ _
    refine .after whole ?_
    rw [← Text.length_splitOn, behind, List.length_drop]
    omega

theorem isShortened_iff (positive : 0 < depth) :
    IsShortened depth name rest ↔ rest = lastSegments depth name := by
  constructor
  · intro shortened
    cases shortened with
    | whole few => exact (lastSegments_of_count_lt few).symm
    | after whole enough => rw [whole, lastSegments_append enough]
  · rintro rfl
    exact isShortened_lastSegments positive name

/-! ## 3. Shortening twice -/

theorem IsShortened.pos (shortened : IsShortened depth name rest) : 0 < depth := by
  cases shortened with
  | whole few => omega
  | after _ enough => omega

theorem IsShortened.suffix (shortened : IsShortened depth name rest) : rest <:+ name := by
  cases shortened with
  | whole => exact List.suffix_refl _
  | @after before _ whole => exact ⟨before ++ ['.'], by simp [whole]⟩

theorem IsShortened.count_le (shortened : IsShortened depth name rest) :
    rest.count '.' ≤ depth - 1 := by
  cases shortened with
  | whole few => omega
  | after _ enough => omega

theorem lastSegments_lastSegments (positive : 0 < depth) (name : List Char) :
    lastSegments again (lastSegments depth name) = lastSegments (min again depth) name := by
  have start : (name.splitOn '.').length - depth +
      ((name.splitOn '.').length - ((name.splitOn '.').length - depth) - again) =
        (name.splitOn '.').length - min again depth := by omega
  rw [lastSegments, splitOn_lastSegments positive, List.drop_drop, List.length_drop, start,
    lastSegments]

/-- Shortening what was shortened comes to shortening the name to the smaller number of parts. -/
theorem IsShortened.isShortened_iff_min (shortened : IsShortened depth name shown) :
    IsShortened again shown rest ↔ IsShortened (min again depth) name rest := by
  rcases Nat.eq_zero_or_pos again with rfl | positive
  · rw [Nat.zero_min]
    exact iff_of_false (fun none => absurd none.pos (by omega))
      fun none => absurd none.pos (by omega)
  · have first := (isShortened_iff shortened.pos).1 shortened
    rw [isShortened_iff positive, isShortened_iff (by have := shortened.pos; omega), first,
      lastSegments_lastSegments shortened.pos]

/-! ## 4. Directives -/

theorem renderLogger_str_iff {name : String} :
    renderLogger depth (.str name) = .ok (.str (.ofList shown)) ↔
      depth = 0 ∧ shown = name.toList ∨ IsShortened depth name.toList shown := by
  rw [renderLogger]
  split
  · next zero =>
    subst zero
    have none : ¬ IsShortened 0 name.toList shown := fun shortened =>
      absurd shortened.pos (by omega)
    simp only [none, Except.ok.injEq, Value.str.injEq, ← String.toList_inj,
      String.toList_ofList, true_and, or_false, eq_comm]
  · next something =>
    simp only [something, false_and, false_or, isShortened_iff (Nat.pos_of_ne_zero something),
      Except.ok.injEq, Value.str.injEq, ← String.toList_inj, String.toList_ofList, eq_comm]

/-- What is shown follows the number of parts that the option is read as; if it is refused, all of
the name is shown. -/
theorem isShown_iff {word name : String} {option : Option String} {warnings : List Warning} :
    IsShown word name.toList option shown warnings ↔
      (∃ depth, segmentDepth option = .ok depth ∧
        renderLogger depth (.str name) = .ok (.str (.ofList shown)) ∧ warnings = []) ∨
      ∃ reason, segmentDepth option = .error reason ∧ shown = name.toList ∧
        warnings = [.refusedOption option word reason] := by
  simp only [renderLogger_str_iff]
  constructor
  · intro isShown
    cases isShown with
    | noOption => exact .inl ⟨0, rfl, .inl ⟨rfl, rfl⟩, rfl⟩
    | zero read => exact .inl ⟨0, by simp [segmentDepth, read], .inl ⟨rfl, rfl⟩, rfl⟩
    | @last _ depth _ read shortened =>
      exact .inl ⟨depth, by simp [segmentDepth, read], .inr shortened, rfl⟩
    | negative read negative =>
      exact .inr ⟨_, by simp only [segmentDepth, read, if_pos negative], rfl, rfl⟩
    | malformed read => exact .inr ⟨_, by simp only [segmentDepth, read], rfl, rfl⟩
  · cases option with
    | none =>
      rintro (⟨depth, ⟨rfl⟩, ⟨-, rfl⟩ | shortened, rfl⟩ | ⟨reason, refused, -⟩)
      · exact .noOption
      · exact absurd shortened.pos (by omega)
      · exact absurd refused (by simp [segmentDepth])
    | some text =>
      simp only [segmentDepth]
      cases read : Text.readInteger text with
      | error fault =>
        rintro (⟨depth, accepted, -⟩ | ⟨reason, ⟨rfl⟩, rfl, rfl⟩)
        · exact absurd accepted (by simp)
        · exact .malformed read
      | ok n =>
        dsimp only
        split
        · next negative =>
          rintro (⟨depth, accepted, -⟩ | ⟨reason, ⟨rfl⟩, rfl, rfl⟩)
          · exact absurd accepted (by simp)
          · exact .negative read negative
        · next whole =>
          obtain ⟨depth, rfl⟩ := Int.eq_ofNat_of_zero_le (Int.not_lt.1 whole)
          rintro (⟨depth, ⟨rfl⟩, ⟨zero, rfl⟩ | shortened, rfl⟩ | ⟨reason, refused, -⟩)
          · obtain rfl : depth = 0 := by simpa using zero
            exact .zero read
          · exact .last read shortened
          · exact absurd refused (by simp)

theorem exists_isShown (word name : String) (option : Option String) :
    ∃ shown warnings, IsShown word name.toList option shown warnings := by
  simp only [isShown_iff]
  cases accepted : segmentDepth option with
  | ok depth =>
    rcases Nat.eq_zero_or_pos depth with rfl | positive
    · exact ⟨name.toList, [], .inl ⟨0, rfl, renderLogger_str_iff.2 (.inl ⟨rfl, rfl⟩), rfl⟩⟩
    · exact ⟨_, [], .inl ⟨depth, rfl,
        renderLogger_str_iff.2 (.inr (isShortened_lastSegments positive _)), rfl⟩⟩
  | error reason => exact ⟨_, _, .inr ⟨reason, rfl, rfl, rfl⟩⟩

theorem IsShown.eq {word name : String} {option : Option String} {warnings more : List Warning}
    (first : IsShown word name.toList option shown warnings)
    (second : IsShown word name.toList option rest more) : rest = shown ∧ more = warnings := by
  rcases isShown_iff.1 first with ⟨depth, accepted, rendered, rfl⟩ | ⟨reason, refused, rfl, rfl⟩ <;>
    rcases isShown_iff.1 second with ⟨depth', accepted', rendered', rfl⟩ |
      ⟨reason', refused', rfl, rfl⟩
  · rw [accepted] at accepted'
    cases accepted'
    rw [rendered] at rendered'
    simpa [← String.toList_inj, eq_comm] using rendered'
  · rw [accepted] at refused'
    cases refused'
  · rw [refused] at accepted'
    cases accepted'
  · rw [refused] at refused'
    cases refused'
    exact ⟨rfl, rfl⟩

theorem resolver_logger_of_depth {option : Option String}
    (accepted : segmentDepth option = .ok depth) :
    Field.logger.resolver option =
      .ok ⟨Field.logger.resolverName, option, Field.logger.read option depth⟩ := by
  simp only [Field.resolver, accepted]

theorem resolver_logger_of_refused {option : Option String} {reason : String}
    (refused : segmentDepth option = .error reason) :
    Field.logger.resolver option = .error (.refused reason) := by
  simp only [Field.resolver, refused]

/-- A word for the logger's name is always kept, with its option if that is accepted. -/
theorem exists_wordTaken_logger {table : WordTable} {word : String} {option : Option String}
    {warnings : List Warning} {name : String} (named : table.lookup word = some (.field .logger))
    (isShown : IsShown word name.toList option shown warnings) (width : Width) :
    ∃ f, WordTaken table word option width (some f) warnings ∧ f.width = width ∧
      ∀ s e, e.loggerName = .str name → f.rawText s e = .ofList shown := by
  rcases isShown_iff.1 isShown with ⟨depth, accepted, rendered, rfl⟩ | ⟨reason, refused, rfl, rfl⟩
  · refine ⟨_, .accepted named (resolver_logger_of_depth accepted), rfl, fun s e isName => ?_⟩
    simp only [FieldConverter.rawText, Field.read, isName, rendered, yieldedText, Value.text]
  · refine ⟨_, .refused named (resolver_logger_of_refused refused)
      (resolver_logger_of_depth rfl), rfl, fun s e isName => ?_⟩
    simp only [FieldConverter.rawText, Field.read, isName, renderLogger, if_true, yieldedText,
      Value.text, String.ofList_toList]

theorem shows_of_isShown {table : WordTable} {d : Directive} {name : String}
    {warnings : List Warning} (wellFormed : d.IsWellFormed)
    (named : table.lookup (.ofList d.word) = some (.field .logger))
    (isShown : IsShown (.ofList d.word) name.toList (usedOption d) shown warnings) :
    d.Shows table name (.ofList shown) warnings where
  compiled width := by
    obtain ⟨f, taken, fits, text⟩ := exists_wordTaken_logger named isShown width
    exact ⟨f, compileWord_eq_ok_iff.2 taken, fits, text⟩
  alone plain := by
    obtain ⟨f, taken, fits, text⟩ := exists_wordTaken_logger named isShown {}
    refine ⟨_, compile_directive wellFormed (.absent plain) taken, fun s e isName => ?_⟩
    rw [render_alone (by rw [fits]) (by rw [fits]), text s e isName]

/-- A directive for the logger's name shows the whole name without an option and for zero, its last
`depth` parts for a `depth` above zero, and the whole name with exactly one warning for an option
that is negative or no number. The last parts are an end of the name with at most `depth - 1`
points, and shortening them again comes to shortening the name to the smaller number of parts. -/
theorem logger_name_shown {table : WordTable} {d : Directive} (wellFormed : d.IsWellFormed)
    (named : table.lookup (.ofList d.word) = some (.field .logger)) (name : String) :
    ∃ shown warnings,
      (∀ shown' warnings', IsShown (.ofList d.word) name.toList (usedOption d) shown' warnings' ↔
        shown' = shown ∧ warnings' = warnings) ∧
      d.Shows table name (.ofList shown) warnings ∧
      ∀ depth, IsShortened depth name.toList shown →
        shown <:+ name.toList ∧ shown.count '.' ≤ depth - 1 ∧
          ∀ again rest, IsShortened again shown rest ↔
            IsShortened (min again depth) name.toList rest := by
  obtain ⟨shown, warnings, isShown⟩ := exists_isShown (.ofList d.word) name (usedOption d)
  refine ⟨shown, warnings, fun shown' warnings' => ⟨isShown.eq, ?_⟩,
    shows_of_isShown wellFormed named isShown, ?_⟩
  · rintro ⟨rfl, rfl⟩
    exact isShown
  · exact fun depth shortened => ⟨shortened.suffix, shortened.count_le,
      fun again rest => shortened.isShortened_iff_min⟩

/-- A directive for the last two parts of the logger's name. -/
def exLastTwo : Directive where
  modifiers := []
  word := ['c']
  raw := some [' ', '2']

/-- Points at the front and side by side bound parts that are empty. -/
theorem logger_name_shown_exLastTwo :
    exLastTwo.IsWellFormed ∧
      exTable.lookup (.ofList exLastTwo.word) = some (.field .logger) ∧
      exLastTwo.Shows exTable ".app..db" ".db" [] ∧
      (".db".toList <:+ ".app..db".toList ∧ ".db".toList.count '.' ≤ 2 - 1) ∧
      ∀ again rest, IsShortened again ".db".toList rest ↔
        IsShortened (min again 2) ".app..db".toList rest := by
  have wellFormed : exLastTwo.IsWellFormed :=
    Directive.isWellFormed_of_parts (by simp [exLastTwo]) (by simp [exLastTwo])
      (by simp [exLastTwo]) (by simp [exLastTwo])
  have named : exTable.lookup (.ofList exLastTwo.word) = some (.field .logger) := rfl
  have read : Text.readInteger "2" = .ok (2 : Nat) := by decide +kernel
  have used : usedOption exLastTwo = some "2" := rfl
  have whole : ".app..db".toList = ".app".toList ++ '.' :: ".db".toList := rfl
  have shortened : IsShortened 2 ".app..db".toList ".db".toList := .after whole rfl
  obtain ⟨shown, warnings, isShown, shows, laws⟩ := logger_name_shown wellFormed named ".app..db"
  rw [used] at isShown
  obtain ⟨rfl, rfl⟩ := (isShown _ _).1 (.last read shortened)
  obtain ⟨suffix, points, again⟩ := laws 2 shortened
  exact ⟨wellFormed, named, shows, ⟨suffix, points⟩, again⟩

end LogLayout.Pattern
