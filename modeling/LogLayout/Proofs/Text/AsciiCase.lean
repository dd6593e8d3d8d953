import LogLayout.Lookup
import LogLayout.Text.LetterCase
import Mathlib

/-!
# Words in any case

A text is recognized as a word by changing its case over all scripts and comparing. That is not
comparing with the case of ASCII letters ignored, since letters from outside ASCII may come to stand
for letters of the word. Whether any does is a matter of the case table and the words, and can be
looked up: a letter only counts if its image is a part of a word.

Results:
1. `sameLetters_iff_toUpper`, `sameLetters_iff_toLower`: comparing with words in one case.
2. `mapCase_isPart`: the letters whose image is a part of a word.
3. `IsAsciiOn.flatMap_eq_iff`: changing the case of a text comes to ignoring the case of ASCII
   letters in the text with such letters spelled out.
-/

namespace LogLayout.Text

/-! ## Definitions -/

/-- The characters are the same but for the case of ASCII letters. -/
def SameLetters (cs ds : List Char) : Prop := cs.map Char.toLower = ds.map Char.toLower

/-- The text with some characters replaced by what they are taken for. -/
def spellOut (lookalikes : List (Char × List Char)) (cs : List Char) : List Char :=
  cs.flatMap fun c => (lookalikes.lookup c).getD [c]

/-- Whether all characters of the words are ASCII characters, and not NUL. -/
def areAscii (words : List String) : Bool :=
  words.all fun word => word.toList.all fun c => 0 < c.toNat && c.toNat < 128

/-- Whether the image is a part of one of the words. -/
def isPartOf (words : List String) (image : List Char) : Bool :=
  words.any fun word => decide (image <:+: word.toList)

/-- Whether the table maps no characters from outside ASCII but those in `taken` to parts of the
words. Most images hold a code from outside ASCII, which no word does. -/
def shutsOut (expansions : List (Nat × List Nat)) (runs : List CaseRun) (taken : List Nat)
    (words : List String) : Bool :=
  (expansions.all fun entry =>
    entry.2.any (128 ≤ ·) || taken.contains entry.1 ||
      !isPartOf words (entry.2.map Char.ofNat)) &&
  runs.all fun run =>
    run.last < 128 || 128 ≤ run.first + run.shift ||
      run.first = run.last && (taken.contains run.first ||
        !isPartOf words [Char.ofNat (run.first + run.shift).toNat])

/-- As far as the words go, the table changes ASCII letters by `letter` and no other characters but
the lookalikes. -/
structure IsAsciiOn (expansions : List (Nat × List Nat)) (runs : List CaseRun)
    (letter : Char → Char) (lookalikes : List (Char × List Char)) (words : List String) :
    Prop where
  ascii : ∀ n < 128, mapCase expansions runs (Char.ofNat n) = [letter (Char.ofNat n)]
  outside : ∀ c : Char, 128 ≤ c.toNat → letter c = c
  spelled : ∀ l ∈ lookalikes, 128 ≤ l.1.toNat ∧ mapCase expansions runs l.1 = l.2.map letter
  shuts : shutsOut expansions runs (lookalikes.map (·.1.toNat)) words = true
  words : areAscii words = true

/-! ## 1. Comparing with words in one case -/

section SameLetters

variable {cs ds : List Char}

theorem sameLetters_iff_toLower (small : ds.map Char.toLower = ds) :
    SameLetters cs ds ↔ cs.map Char.toLower = ds := by
  rw [SameLetters, small]

theorem sameLetters_iff_toUpper (capital : ds.map Char.toUpper = ds) :
    SameLetters cs ds ↔ cs.map Char.toUpper = ds := by
  -- `simp` takes the laws of letters that are raised and lowered again from the library; no single
  -- module of Mathlib brings them along, so it is imported whole here.
  constructor
  · intro same
    have raised := congrArg (List.map Char.toUpper) same
    simpa [Function.comp_def, capital] using raised
  · intro raised
    have lowered := congrArg (List.map Char.toLower) raised
    simpa [Function.comp_def, SameLetters] using lowered

end SameLetters

theorem toUpper_of_not_ascii {c : Char} (foreign : 128 ≤ c.toNat) : c.toUpper = c := by
  refine Char.toUpper_eq_of_not_isLower ?_
  simp only [Char.isLower, Bool.and_eq_true, decide_eq_true_eq, UInt32.le_iff_toNat_le]
  rintro ⟨-, most⟩
  exact absurd (show c.toNat ≤ 122 from most) (by omega)

theorem toLower_of_not_ascii {c : Char} (foreign : 128 ≤ c.toNat) : c.toLower = c := by
  refine Char.toLower_eq_of_not_isUpper ?_
  simp only [Char.isUpper, decide_eq_true_eq, UInt32.le_iff_toNat_le]
  rintro ⟨-, most⟩
  exact absurd (show c.toNat ≤ 90 from most) (by omega)

/-- Only the rows of a case table that begin in ASCII matter for ASCII characters. -/
theorem mapCase_of_asciiRows {expansions : List (Nat × List Nat)} {runs : List CaseRun}
    {letter : Char → Char}
    (rows : ∀ n < 128, mapCase (expansions.filter (·.1 < 128)) (runs.filter (·.first < 128))
      (Char.ofNat n) = [letter (Char.ofNat n)]) :
    ∀ n < 128, mapCase expansions runs (Char.ofNat n) = [letter (Char.ofNat n)] := by
  intro n ascii
  have code : (Char.ofNat n).toNat = n := by
    rw [Char.toNat_ofNat, if_pos (.inl (by omega))]
  have expanded : (expansions.filter (·.1 < 128)).lookup n = expansions.lookup n :=
    lookup_filter (p := fun key => decide (key < 128)) (decide_eq_true ascii) expansions
  have moved : (runs.filter (·.first < 128)).find? (·.Covers n) = runs.find? (·.Covers n) := by
    rw [List.find?_filter]
    congr 1
    funext run
    simp only [CaseRun.Covers]
    grind
  rw [← rows n ascii, mapCase, mapCase, moveCase, moveCase, code, expanded, moved]

/-! ## 2. Letters whose image is a part of a word -/

section Infix

variable {expansions : List (Nat × List Nat)} {runs : List CaseRun} {taken : List Nat}
  {words : List String} {word : String}

theorem bounds_of_areAscii (ascii : areAscii words = true) (member : word ∈ words) :
    ∀ c ∈ word.toList, 0 < c.toNat ∧ c.toNat < 128 := by
  intro c there
  simpa using List.all_eq_true.1 (List.all_eq_true.1 ascii word member) c there

theorem isPartOf_word {image : List Char} (member : word ∈ words)
    (part : image <:+: word.toList) : isPartOf words image = true :=
  List.any_eq_true.2 ⟨word, member, decide_eq_true part⟩

/-- A number above ASCII is not the code of a character of a word; if it is no code at all, it
stands for NUL. -/
theorem ofNat_not_mem (ascii : ∀ c ∈ word.toList, 0 < c.toNat ∧ c.toNat < 128) {n : Nat}
    (large : 128 ≤ n) : Char.ofNat n ∉ word.toList := by
  intro member
  have bounds := ascii _ member
  rw [Char.toNat_ofNat] at bounds
  split at bounds <;> omega

theorem mapCase_isPart (shut : shutsOut expansions runs taken words = true) (member : word ∈ words)
    (ascii : ∀ c ∈ word.toList, 0 < c.toNat ∧ c.toNat < 128) {c : Char}
    (part : mapCase expansions runs c <:+: word.toList) : c.toNat < 128 ∨ c.toNat ∈ taken := by
  rw [shutsOut, Bool.and_eq_true, List.all_eq_true, List.all_eq_true] at shut
  obtain ⟨expanded, moved⟩ := shut
  rw [mapCase] at part
  split at part
  · next image found =>
    obtain ⟨before, after, whole, -⟩ := List.lookup_eq_some_iff.1 found
    have entry := expanded (c.toNat, image) (by simp [whole])
    simp only [Bool.or_eq_true, List.any_eq_true, decide_eq_true_eq] at entry
    rcases entry with (⟨n, inImage, large⟩ | listed) | noPart
    · exact absurd (part.subset (List.mem_map_of_mem inImage)) (ofNat_not_mem ascii large)
    · exact .inr (by simpa using listed)
    · rw [isPartOf_word member part] at noPart
      exact absurd noPart (by simp)
  · have here := part.subset (List.mem_singleton_self _)
    rw [moveCase] at here part
    split at here
    · next run found =>
      have covers := List.find?_some found
      simp only [CaseRun.Covers, Bool.and_eq_true, decide_eq_true_eq] at covers
      obtain ⟨⟨first, last⟩, -⟩ := covers
      have entry := moved run (List.mem_of_find?_eq_some found)
      simp only [Bool.or_eq_true, Bool.and_eq_true, decide_eq_true_eq] at entry
      rcases entry with (ascii' | large) | ⟨single, entry⟩
      · exact .inl (by omega)
      · exact absurd here (ofNat_not_mem ascii (by omega))
      · obtain same : c.toNat = run.first := by omega
        rw [found] at part
        rw [same] at part ⊢
        rw [isPartOf_word member part] at entry
        exact .inr (by simpa using entry)
    · exact .inl (ascii c here).2

end Infix

/-! ## 3. Words -/

theorem isInfix_flatMap {change : Char → List Char} {c : Char} {cs : List Char} (member : c ∈ cs) :
    change c <:+: cs.flatMap change := by
  obtain ⟨before, after, rfl⟩ := List.append_of_mem member
  exact ⟨before.flatMap change, after.flatMap change, by simp⟩

/-- Two changes give a text the same word if they agree on all characters of which either makes a
part of the word. -/
theorem flatMap_eq_iff {f g : Char → List Char} {word : List Char}
    (agree : ∀ c, f c <:+: word ∨ g c <:+: word → f c = g c) (cs : List Char) :
    cs.flatMap f = word ↔ cs.flatMap g = word := by
  constructor
  · rintro rfl
    exact List.flatMap_congr fun c member => (agree c (.inl (isInfix_flatMap member))).symm
  · rintro rfl
    exact List.flatMap_congr fun c member => agree c (.inr (isInfix_flatMap member))

theorem spellOut_eq_self {lookalikes : List (Char × List Char)} {cs : List Char}
    (free : ∀ c ∈ cs, c ∉ lookalikes.map (·.1)) : spellOut lookalikes cs = cs := by
  have kept : ∀ c ∈ cs, (lookalikes.lookup c).getD [c] = [c] := by
    intro c member
    have none : lookalikes.lookup c = none := by
      refine List.lookup_eq_none_iff.2 fun l there => ?_
      simp only [bne_iff_ne]
      rintro rfl
      exact free _ member (List.mem_map_of_mem there)
    rw [none, Option.getD_none]
  rw [spellOut, List.flatMap_congr kept, List.flatMap_singleton']

theorem toLower_lt {c : Char} (ascii : c.toNat < 128) : c.toLower.toNat < 128 := by
  have all : ∀ n < 128, (Char.ofNat n).toLower.toNat < 128 := by decide +kernel
  simpa using all c.toNat ascii

/-- A word of ASCII characters has no letter from outside. -/
theorem not_sameLetters_of_foreign {c : Char} {cs ds : List Char}
    (ascii : ∀ d ∈ ds, d.toNat < 128) (member : c ∈ cs) (foreign : 128 ≤ c.toNat) :
    ¬ SameLetters cs ds := by
  intro same
  have there : c.toLower ∈ ds.map Char.toLower := same ▸ List.mem_map_of_mem member
  rw [toLower_of_not_ascii foreign] at there
  obtain ⟨d, inWord, rfl⟩ := List.mem_map.1 there
  exact absurd (toLower_lt (ascii d inWord)) (by omega)

namespace IsAsciiOn

variable {expansions : List (Nat × List Nat)} {runs : List CaseRun} {letter : Char → Char}
  {lookalikes : List (Char × List Char)} {words : List String} {word : String} {c : Char}

theorem mapCase_of_ascii (isAscii : IsAsciiOn expansions runs letter lookalikes words)
    (ascii : c.toNat < 128) :
    mapCase expansions runs c = ((lookalikes.lookup c).getD [c]).map letter := by
  have none : lookalikes.lookup c = none := by
    refine List.lookup_eq_none_iff.2 fun l member => ?_
    have := (isAscii.spelled l member).1
    simp only [bne_iff_ne]
    rintro rfl
    omega
  have changed := isAscii.ascii c.toNat ascii
  rw [Char.ofNat_toNat] at changed
  rw [changed, none]
  rfl

theorem mapCase_of_lookalike (isAscii : IsAsciiOn expansions runs letter lookalikes words)
    (lookalike : c.toNat ∈ lookalikes.map (·.1.toNat)) :
    mapCase expansions runs c = ((lookalikes.lookup c).getD [c]).map letter := by
  obtain ⟨l, member, same⟩ := List.mem_map.1 lookalike
  rw [Char.toNat_inj] at same
  subst same
  cases found : lookalikes.lookup l.1 with
  | none => exact absurd (List.lookup_eq_none_iff.1 found l member) (by simp)
  | some spelled =>
    obtain ⟨before, after, whole, -⟩ := List.lookup_eq_some_iff.1 found
    exact (isAscii.spelled (l.1, spelled) (by simp [whole])).2

/-- A text becomes a word exactly if it is the word in any case, lookalikes spelled out. -/
theorem flatMap_eq_iff (isAscii : IsAsciiOn expansions runs letter lookalikes words)
    (member : word ∈ words) (cs : List Char) :
    cs.flatMap (mapCase expansions runs) = word.toList ↔
      (spellOut lookalikes cs).map letter = word.toList := by
  have ascii := bounds_of_areAscii isAscii.words member
  rw [spellOut, List.map_flatMap]
  refine Text.flatMap_eq_iff (fun c part => ?_) cs
  rcases Nat.lt_or_ge c.toNat 128 with here | foreign
  · exact isAscii.mapCase_of_ascii here
  · by_cases lookalike : c.toNat ∈ lookalikes.map (·.1.toNat)
    · exact isAscii.mapCase_of_lookalike lookalike
    · rcases part with part | part
      · rcases mapCase_isPart isAscii.shuts member ascii part with here | taken
        · exact absurd here (by omega)
        · exact absurd taken lookalike
      · have none : lookalikes.lookup c = none := by
          refine List.lookup_eq_none_iff.2 fun l there => ?_
          simp only [bne_iff_ne]
          rintro rfl
          exact lookalike (List.mem_map.2 ⟨l, there, rfl⟩)
        rw [none] at part
        have here : letter c ∈ word.toList := part.subset (by simp)
        rw [isAscii.outside c foreign] at here
        exact absurd (ascii c here).2 (by omega)

end IsAsciiOn

end LogLayout.Text
