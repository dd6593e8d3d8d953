import LogLayout.Setting.Conversion

/-!
# Texts with a brace

No word for a truth value, no name of a level and no numeral holds a brace, and neither stripping
blanks nor changing the case of letters takes one away. So no conversion accepts a text in which a
reference to a variable is left.

Results:
1. `mem_stripChars`, `mem_lower`, `mem_upper`: the characters that are kept.
2. `brace_not_mem_of_toBoolean`, `brace_not_mem_of_toInteger`, `brace_not_mem_of_toLevel`: the
   conversions.
-/

namespace LogLayout.Text

variable {c : Char} {s : String}

/-! ## 1. Characters that are kept -/

theorem mem_dropWhile {cs : List Char} {p : Char → Bool} (member : c ∈ cs) (kept : p c = false) :
    c ∈ cs.dropWhile p := by
  rw [← List.takeWhile_append_dropWhile (p := p) (l := cs)] at member
  rcases List.mem_append.1 member with dropped | here
  · have blank := List.all_eq_true.1 List.all_takeWhile c dropped
    exact absurd (kept.symm.trans blank) Bool.false_ne_true
  · exact here

theorem mem_stripChars {cs : List Char} (member : c ∈ cs) (solid : isBlank c = false) :
    c ∈ stripChars cs :=
  List.mem_reverse.2 (mem_dropWhile (List.mem_reverse.2 (mem_dropWhile member solid)) solid)

theorem mem_strip (member : c ∈ s.toList) (solid : isBlank c = false) :
    c ∈ (strip s).toList := by
  rw [strip, String.toList_ofList]
  exact mem_stripChars member solid

theorem mem_lower (member : c ∈ s.toList) (caseless : lowerChar c = [c]) :
    c ∈ (lower s).toList := by
  rw [lower, String.toList_ofList]
  exact List.mem_flatMap.2 ⟨c, member, by rw [caseless]; exact List.mem_singleton_self c⟩

theorem mem_upper (member : c ∈ s.toList) (caseless : upperChar c = [c]) :
    c ∈ (upper s).toList := by
  rw [upper, String.toList_ofList]
  exact List.mem_flatMap.2 ⟨c, member, by rw [caseless]; exact List.mem_singleton_self c⟩

end LogLayout.Text

namespace LogLayout.Setting

variable {s : String}

/-! ## 2. Conversions -/

theorem isBlank_brace : Text.isBlank '\x7b' = false := by decide

/-- None of the texts holds a brace. -/
def AreUnbraced (texts : List String) : Bool := texts.all fun t => !t.toList.contains '\x7b'

theorem brace_not_mem_of_areUnbraced {texts : List String} {t : String}
    (unbraced : AreUnbraced texts = true) (member : t ∈ texts) : '\x7b' ∉ t.toList := by
  simpa using List.all_eq_true.1 unbraced t member

theorem brace_not_mem_of_readBoolean? {b : Bool} (read : readBoolean? s = some b) :
    '\x7b' ∉ s.toList := by
  intro brace
  have word : Text.lower (Text.strip s) ∈ trueWords ++ falseWords := by
    dsimp only [readBoolean?] at read
    split at read
    · next isTrue => exact List.mem_append_left _ (List.contains_iff_mem.1 isTrue)
    · split at read
      · next isFalse => exact List.mem_append_right _ (List.contains_iff_mem.1 isFalse)
      · cases read
  exact brace_not_mem_of_areUnbraced (by decide) word
    (Text.mem_lower (Text.mem_strip brace isBlank_brace) (by decide))

theorem brace_not_mem_of_toBoolean {b : Bool} (read : toBoolean (.str s) = .ok b) :
    '\x7b' ∉ s.toList := by
  cases word : readBoolean? s with
  | none =>
    dsimp only [toBoolean] at read
    rw [word] at read
    cases read
  | some b => exact brace_not_mem_of_readBoolean? word

theorem brace_not_mem_of_isPlainNumeral (plain : isPlainNumeral s = true) :
    '\x7b' ∉ s.toList := by
  intro brace
  have inner := Text.mem_stripChars brace isBlank_brace
  simp only [isPlainNumeral, Bool.and_eq_true] at plain
  -- The sign is no brace, so the brace is among the digits.
  have digit : '\x7b' ∈ (if (Text.stripChars s.toList).head? = some '-'
      then (Text.stripChars s.toList).drop 1 else Text.stripChars s.toList) := by
    cases chars : Text.stripChars s.toList with
    | nil => simp [chars] at inner
    | cons c cs =>
      rw [chars] at inner
      by_cases sign : c = '-'
      · subst sign
        simpa using inner
      · simpa [sign] using inner
  have value := List.all_eq_true.1 plain.2 _ digit
  exact absurd value (by decide)

theorem brace_not_mem_of_toInteger {q : Quantity} (read : toInteger (.str s) = .ok q) :
    '\x7b' ∉ s.toList := by
  by_cases plain : isPlainNumeral s = true
  · exact brace_not_mem_of_isPlainNumeral plain
  · rw [toInteger, if_neg plain] at read
    cases read

theorem brace_not_mem_of_toPositiveInteger {q : Quantity}
    (read : toPositiveInteger (.str s) = .ok q) : '\x7b' ∉ s.toList := by
  cases whole : toInteger (.str s) with
  | error fault =>
    rw [toPositiveInteger, whole] at read
    cases read
  | ok q => exact brace_not_mem_of_toInteger whole

theorem brace_not_mem_of_ofText? {l : Level} (named : Level.ofText? s = some l) :
    '\x7b' ∉ s.toList := by
  intro brace
  have key : Text.upper (Text.strip s) ∈ Level.all.map Level.name ++ Level.aliases.map (·.1) := by
    dsimp only [Level.ofText?] at named
    refine List.mem_append.2 ?_
    cases found : Level.aliases.lookup (Text.upper (Text.strip s)) with
    | some name =>
      obtain ⟨before, after, all, -⟩ := List.lookup_eq_some_iff.1 found
      exact .inr (by simp [all])
    | none =>
      rw [found, Option.getD_none] at named
      exact .inl (List.mem_map.2
        ⟨l, List.mem_of_find?_eq_some named, by simpa using List.find?_some named⟩)
  exact brace_not_mem_of_areUnbraced (by decide) key
    (Text.mem_upper (Text.mem_strip brace isBlank_brace) (by decide))

theorem brace_not_mem_of_toLevel {l : Level} (read : toLevel (.str s) = .ok l) :
    '\x7b' ∉ s.toList := by
  cases named : Level.ofText? s with
  | none =>
    dsimp only [toLevel] at read
    rw [named] at read
    cases read
  | some l => exact brace_not_mem_of_ofText? named

end LogLayout.Setting
