import LogLayout.Proofs.Setting.Written
import LogLayout.Proofs.Text.AsciiCase

/-!
# Settings spelled in any case

A truth value is set by one of eight words and a level by one of nine, with blanks around them and
in any case. For truth values this says all: no letter from outside ASCII has a small letter that
belongs to their words, except the Kelvin sign, and none of them has a k. For levels it is not
true: a dotless i has the capital I and the ligature of two f has the capitals FF, so that
`ınfo` and `oﬀ` are read as levels (`toLevel_takes_lookalikes`).

Results:
1. `isAsciiOn_levelWords`, `isAsciiOn_booleanWords`: the case tables on the words.
2. `ofText?_eq_some_iff`, `readBoolean?_eq_some_iff`: the words that are read.
3. `readsWords_toLevel_nil_iff`: the texts for which the lookalikes matter.
4. `conversions_read_words`: exactly these texts are converted, and all others refused.
-/

namespace LogLayout.Setting

/-! ## Definitions -/

/-- The words for levels: their names and two more. -/
def levelWords : List (String × Level) :=
  Level.all.map (fun l => (l.name, l)) ++ [("WARNING", .warn), ("FATAL", .critical)]

/-- The words for truth values. -/
def booleanWords : List (String × Bool) :=
  [("1", true), ("true", true), ("on", true), ("yes", true),
   ("0", false), ("false", false), ("off", false), ("no", false)]

/-- The letters that are taken for ASCII letters in the words for levels: a dotless i, and the
ligature of two f. -/
def levelLookalikes : List (Char × List Char) := [('\u0131', ['i']), ('\ufb00', ['f', 'f'])]

/-- The conversion gives a value for the text if it is one of its words, with blanks around it, in
any case of ASCII letters and with the lookalikes spelled out, and else refuses it. -/
structure ReadsWords {α : Type} (convert : Value → Except Fault α) (kind : SettingKind)
    (words : List (String × α)) (lookalikes : List (Char × List Char)) (s : String) : Prop where
  read : ∀ a, convert (.str s) = .ok a ↔ ∃ word, (word, a) ∈ words ∧
    Text.SameLetters (Text.spellOut lookalikes (Text.stripChars s.toList)) word.toList
  refused : (∀ a, convert (.str s) ≠ .ok a) → convert (.str s) = .error (.setting (.str s) kind)

/-- The text has letters that are taken for others, and with those it is a word for a level. -/
def IsLookalike (s : String) : Prop :=
  (∃ c ∈ Text.stripChars s.toList, c ∈ levelLookalikes.map (·.1)) ∧
    ∃ entry ∈ levelWords,
      Text.SameLetters (Text.spellOut levelLookalikes (Text.stripChars s.toList)) entry.1.toList

/-! ## 1. Case tables -/

theorem isAsciiOn_levelWords :
    Text.IsAsciiOn Text.upperExpansions Text.upperRuns Char.toUpper levelLookalikes
      (levelWords.map (·.1)) where
  ascii := Text.mapCase_of_asciiRows (by decide +kernel)
  outside _ := Text.toUpper_of_not_ascii
  spelled := by decide +kernel
  shuts := by decide +kernel
  words := by decide +kernel

theorem isAsciiOn_booleanWords :
    Text.IsAsciiOn Text.lowerExpansions Text.lowerRuns Char.toLower []
      (booleanWords.map (·.1)) where
  ascii := Text.mapCase_of_asciiRows (by decide +kernel)
  outside _ := Text.toLower_of_not_ascii
  spelled := by simp
  shuts := by decide +kernel
  words := by decide +kernel

theorem capital_levelWords :
    ∀ entry ∈ levelWords, entry.1.toList.map Char.toUpper = entry.1.toList := by
  decide +kernel

theorem small_booleanWords :
    ∀ entry ∈ booleanWords, entry.1.toList.map Char.toLower = entry.1.toList := by
  decide +kernel

theorem upper_strip_eq_iff {s word : String} {l : Level} (member : (word, l) ∈ levelWords) :
    Text.upper (Text.strip s) = word ↔
      Text.SameLetters (Text.spellOut levelLookalikes (Text.stripChars s.toList)) word.toList := by
  rw [Text.sameLetters_iff_toUpper (capital_levelWords _ member),
    ← isAsciiOn_levelWords.flatMap_eq_iff (List.mem_map_of_mem member), Text.upper, Text.strip,
    ← String.toList_inj, String.toList_ofList, String.toList_ofList]
  rfl

theorem lower_strip_eq_iff {s word : String} {b : Bool} (member : (word, b) ∈ booleanWords) :
    Text.lower (Text.strip s) = word ↔
      Text.SameLetters (Text.spellOut [] (Text.stripChars s.toList)) word.toList := by
  rw [Text.sameLetters_iff_toLower (small_booleanWords _ member),
    ← isAsciiOn_booleanWords.flatMap_eq_iff (List.mem_map_of_mem member), Text.lower, Text.strip,
    ← String.toList_inj, String.toList_ofList, String.toList_ofList]
  rfl

/-! ## 2. Words -/

theorem ofText?_eq_some_iff {s : String} {l : Level} :
    Level.ofText? s = some l ↔ (Text.upper (Text.strip s), l) ∈ levelWords := by
  rw [Level.ofText?]
  generalize Text.upper (Text.strip s) = key
  constructor
  · intro found
    cases second : Level.aliases.lookup key with
    | none =>
      rw [second, Option.getD_none] at found
      obtain rfl : l.name = key := by simpa using List.find?_some found
      cases l <;> decide
    | some name =>
      obtain ⟨before, after, whole, -⟩ := List.lookup_eq_some_iff.1 second
      have member : (key, name) ∈ Level.aliases := by simp [whole]
      rw [second, Option.getD_some] at found
      simp only [Level.aliases, List.mem_cons, Prod.mk.injEq, List.not_mem_nil, or_false] at member
      rcases member with ⟨rfl, rfl⟩ | ⟨rfl, rfl⟩
      · obtain rfl : Level.warn = l := Option.some.inj found
        decide
      · obtain rfl : Level.critical = l := Option.some.inj found
        decide
  · have all : ∀ entry ∈ levelWords,
        Level.ofName? ((Level.aliases.lookup entry.1).getD entry.1) = some entry.2 := by
      decide +kernel
    exact all (key, l)

theorem readBoolean?_eq_some_iff {s : String} {b : Bool} :
    readBoolean? s = some b ↔ (Text.lower (Text.strip s), b) ∈ booleanWords := by
  rw [readBoolean?]
  generalize Text.lower (Text.strip s) = word
  constructor
  · have positive : ∀ word ∈ trueWords, (word, true) ∈ booleanWords := by decide
    have negative : ∀ word ∈ falseWords, (word, false) ∈ booleanWords := by decide
    intro read
    split at read
    · next isTrue =>
      cases read
      exact positive word (List.contains_iff_mem.1 isTrue)
    · split at read
      · next isFalse =>
        cases read
        exact negative word (List.contains_iff_mem.1 isFalse)
      · cases read
  · have all : ∀ entry ∈ booleanWords,
        (if trueWords.contains entry.1 then some true
          else if falseWords.contains entry.1 then some false else none) = some entry.2 := by
      decide
    exact all (word, b)

/-! ## 3. Conversions -/

theorem toLevel_str_of_none {s : String} (none : Level.ofText? s = none) :
    toLevel (.str s) = .error (.setting (.str s) .level) := by
  unfold toLevel
  dsimp only
  rw [none]

theorem toBoolean_str_of_none {s : String} (none : readBoolean? s = none) :
    toBoolean (.str s) = .error (.setting (.str s) .boolean) := by
  unfold toBoolean
  dsimp only
  rw [none]

/-- A conversion reads words if it looks a text up among them after a change that comes to ignoring
the case. -/
theorem readsWords_of_change {α : Type} {convert : Value → Except Fault α} {kind : SettingKind}
    {words : List (String × α)} {lookalikes : List (Char × List Char)} {read? : String → Option α}
    {change : String → String}
    (converts : ∀ {s a}, read? s = some a → convert (.str s) = .ok a)
    (refuses : ∀ {s}, read? s = none → convert (.str s) = .error (.setting (.str s) kind))
    (looksUp : ∀ {s a}, read? s = some a ↔ (change s, a) ∈ words)
    (ignores : ∀ {s word a}, (word, a) ∈ words → (change s = word ↔
      Text.SameLetters (Text.spellOut lookalikes (Text.stripChars s.toList)) word.toList))
    (s : String) : ReadsWords convert kind words lookalikes s := by
  have ok_iff (a : α) : convert (.str s) = .ok a ↔ read? s = some a := by
    cases read : read? s with
    | none => simp [refuses read]
    | some a => simp [converts read]
  constructor
  · intro a
    rw [ok_iff, looksUp]
    constructor
    · exact fun member => ⟨_, member, (ignores member).1 rfl⟩
    · rintro ⟨word, member, same⟩
      rwa [(ignores member).2 same]
  · intro none
    cases read : read? s with
    | some a => exact absurd (converts read) (none a)
    | none => exact refuses read

theorem readsWords_toLevel (s : String) :
    ReadsWords toLevel .level levelWords levelLookalikes s :=
  readsWords_of_change toLevel_str toLevel_str_of_none ofText?_eq_some_iff upper_strip_eq_iff
    s

theorem readsWords_toBoolean (s : String) : ReadsWords toBoolean .boolean booleanWords [] s :=
  readsWords_of_change toBoolean_str toBoolean_str_of_none readBoolean?_eq_some_iff
    lower_strip_eq_iff s

theorem not_sameLetters_of_lookalike {c : Char} {cs : List Char} (member : c ∈ cs)
    (lookalike : c ∈ levelLookalikes.map (·.1)) :
    ∀ entry ∈ levelWords, ¬ Text.SameLetters cs entry.1.toList := by
  obtain ⟨l, there, rfl⟩ := List.mem_map.1 lookalike
  intro entry listed
  have ascii := Text.bounds_of_areAscii isAsciiOn_levelWords.words (List.mem_map_of_mem listed)
  exact Text.not_sameLetters_of_foreign (fun d inWord => (ascii d inWord).2) member
    (isAsciiOn_levelWords.spelled l there).1

/-- Without the lookalikes, the words for levels are the texts that are read, except for those that
are words only with them. -/
theorem readsWords_toLevel_nil_iff {s : String} :
    ReadsWords toLevel .level levelWords [] s ↔ ¬ IsLookalike s := by
  have plain : Text.spellOut [] (Text.stripChars s.toList) = Text.stripChars s.toList :=
    Text.spellOut_eq_self (by simp)
  constructor
  · rintro reads ⟨⟨c, member, lookalike⟩, ⟨word, l⟩, entry, same⟩
    have isLevel := ((readsWords_toLevel s).read l).2 ⟨word, entry, same⟩
    obtain ⟨other, entry', same'⟩ := (reads.read l).1 isLevel
    rw [plain] at same'
    exact not_sameLetters_of_lookalike member lookalike _ entry' same'
  · intro noLookalike
    refine ⟨fun l => ?_, (readsWords_toLevel s).refused⟩
    rw [(readsWords_toLevel s).read, plain]
    by_cases free : ∀ c ∈ Text.stripChars s.toList, c ∉ levelLookalikes.map (·.1)
    · rw [Text.spellOut_eq_self free]
    · push Not at free
      obtain ⟨c, member, lookalike⟩ := free
      constructor
      · rintro ⟨word, entry, same⟩
        exact absurd ⟨⟨c, member, lookalike⟩, _, entry, same⟩ noLookalike
      · rintro ⟨word, entry, same⟩
        exact absurd same (not_sameLetters_of_lookalike member lookalike _ entry)

/-- A text is converted to a truth value exactly if it is one of the words, with blanks around it
and in any case of ASCII letters. To a level it is converted exactly if it is such a word when a
dotless i counts as an i and the ligature of two f as both of them; so this differs for the texts
that are words only in this way. Every other text is refused. -/
theorem conversions_read_words (s : String) :
    ReadsWords toBoolean .boolean booleanWords [] s ∧
      ReadsWords toLevel .level levelWords levelLookalikes s ∧
      (ReadsWords toLevel .level levelWords [] s ↔ ¬ IsLookalike s) :=
  ⟨readsWords_toBoolean s, readsWords_toLevel s, readsWords_toLevel_nil_iff⟩

/-- These two texts are no words for levels, and still are levels. -/
theorem toLevel_takes_lookalikes :
    toLevel (.str "\u0131nfo") = .ok .info ∧ toLevel (.str "o\ufb00") = .ok .off ∧
      (∀ entry ∈ levelWords,
        ¬ Text.SameLetters (Text.stripChars "\u0131nfo".toList) entry.1.toList ∧
        ¬ Text.SameLetters (Text.stripChars "o\ufb00".toList) entry.1.toList) ∧
      ¬ ReadsWords toLevel .level levelWords [] "\u0131nfo" := by
  have info : toLevel (.str "\u0131nfo") = .ok .info := toLevel_str (by decide +kernel)
  have off : toLevel (.str "o\ufb00") = .ok .off := toLevel_str (by decide +kernel)
  have foreign : ∀ entry ∈ levelWords,
      ¬ Text.SameLetters (Text.stripChars "\u0131nfo".toList) entry.1.toList ∧
        ¬ Text.SameLetters (Text.stripChars "o\ufb00".toList) entry.1.toList := by
    simp only [Text.SameLetters]
    decide +kernel
  refine ⟨info, off, foreign, fun reads => ?_⟩
  obtain ⟨word, member, same⟩ := (reads.read .info).1 info
  exact (foreign (word, .info) member).1 same

end LogLayout.Setting
