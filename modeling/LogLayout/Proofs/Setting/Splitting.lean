import LogLayout.Proofs.Setting.References

/-!
# A text with references, taken apart

A text is literals with references between them. This is described without the reader: a name ends
at the first closing brace, and no reference begins in a literal. Each text is taken apart in one
way only, and substitution fills in the references there, while the literals stay and what was
filled in is not looked at again.

Results:
1. `readReference?_append`, `readReference?_eq_none_iff`: when a reference stands in front.
2. `Split.pieces_text`: the reader finds the literals and references of a split.
3. `Split.isProper_ofPieces`: and what it finds makes a split.
4. `substitute_only_split`: each text has one split, and substitution fills it in.
-/

namespace LogLayout.Setting

/-! ## Definitions -/

/-- Literals with references between them; a literal may be empty. -/
inductive Split
  | last (literal : List Char)
  /-- A literal, the name of the reference after it, and the rest. -/
  | reference (literal name : List Char) (rest : Split)
  deriving Repr, DecidableEq

/-- The text that is taken apart. -/
def Split.text : Split → List Char
  | last literal => literal
  | reference literal name rest => literal ++ ('$' :: '\x7b' :: name ++ ['\x7d']) ++ rest.text

/-- The text with each reference replaced by the text of what it is looked up as, or by nothing. -/
def Split.fill (lookup : String → Option Value) : Split → List Char
  | last literal => literal
  | reference literal name rest =>
    literal ++ ((lookup (.ofList name)).map (·.text.toList)).getD [] ++ rest.fill lookup

/-- The property holds of what follows each `${` in the text. -/
def EachOpening (P : List Char → Prop) (cs : List Char) : Prop :=
  ∀ before after, cs = before ++ '$' :: '\x7b' :: after → P after

/-- A `${` in a literal is closed at once. In the last literal it may also stay open. -/
def Split.IsProper : Split → Prop
  | last literal =>
    EachOpening (fun after => after.head? = some '\x7d' ∨ '\x7d' ∉ after) literal
  | reference literal name rest =>
    EachOpening (fun after => after.head? = some '\x7d') literal ∧ IsName name ∧ rest.IsProper

/-- The literals character by character, with the references between them. -/
def Split.pieces : Split → List Piece
  | last literal => literal.map .literal
  | reference literal name rest => literal.map .literal ++ .reference name :: rest.pieces

/-- The split with a character in front. -/
def Split.push (c : Char) : Split → Split
  | last literal => last (c :: literal)
  | reference literal name rest => reference (c :: literal) name rest

/-- The split of pieces: characters that stand side by side are one literal. -/
def Split.ofPieces : List Piece → Split
  | [] => last []
  | .literal c :: ps => (ofPieces ps).push c
  | .reference name :: ps => reference [] name (ofPieces ps)

/-! ## 1. A reference in front -/

theorem readReference?_append {name : List Char} (isName : IsName name) (rest : List Char) :
    readReference? ((Piece.reference name).text ++ rest) = some (name, rest) := by
  obtain ⟨nonempty, free⟩ := isName
  have inside : ∀ c ∈ name, decide (c ≠ '\x7d') = true := by
    intro c member
    simpa using ne_of_mem_of_not_mem member free
  have whole : (Piece.reference name).text ++ rest =
      '$' :: '\x7b' :: (name ++ '\x7d' :: rest) := by
    simp [Piece.text]
  have taken : (name ++ '\x7d' :: rest).takeWhile (· ≠ '\x7d') = name := by
    rw [List.takeWhile_append_of_pos inside]
    simp
  have dropped : (name ++ '\x7d' :: rest).dropWhile (· ≠ '\x7d') = '\x7d' :: rest := by
    rw [List.dropWhile_append_of_pos inside]
    simp
  rw [whole]
  simp only [readReference?, taken, dropped, List.isEmpty_iff, if_neg nonempty]

theorem readReference?_eq_none_iff {cs : List Char} :
    readReference? cs = none ↔
      ∀ after, cs = '$' :: '\x7b' :: after → after.head? = some '\x7d' ∨ '\x7d' ∉ after := by
  constructor
  · rintro none after rfl
    by_cases closing : '\x7d' ∈ after
    · left
      obtain ⟨name, rest, rfl, free⟩ := List.eq_append_cons_of_mem closing
      cases name with
      | nil => rfl
      | cons c name =>
        have isName : IsName (c :: name) := ⟨by simp, free⟩
        have found := readReference?_append isName rest
        rw [Piece.text] at found
        simp only [List.cons_append, List.append_assoc, List.nil_append] at found none
        rw [none] at found
        cases found
    · exact .inr closing
  · intro unread
    cases found : readReference? cs with
    | none => rfl
    | some read =>
      obtain ⟨name, rest⟩ := read
      obtain ⟨text, nonempty, free⟩ := readReference?_sound found
      have whole : cs = '$' :: '\x7b' :: (name ++ '\x7d' :: rest) := by
        simpa [Piece.text] using text
      obtain ⟨c, name, rfl⟩ := List.exists_cons_of_ne_nil nonempty
      rcases unread _ whole with closed | never
      · obtain rfl : c = '\x7d' := by simpa using closed
        exact absurd List.mem_cons_self free
      · exact absurd (by simp) never

theorem eachOpening_nil (P : List Char → Prop) : EachOpening P [] := by
  intro before after whole
  simp at whole

theorem eachOpening_cons {P : List Char → Prop} {c : Char} {cs : List Char} :
    EachOpening P (c :: cs) ↔ (∀ after, c :: cs = '$' :: '\x7b' :: after → P after) ∧
      EachOpening P cs := by
  constructor
  · intro each
    exact ⟨fun after whole => each [] after whole,
      fun before after whole => each (c :: before) after (by simp [whole])⟩
  · rintro ⟨first, others⟩ before after whole
    cases before with
    | nil => exact first after whole
    | cons b before => exact others before after (List.cons.inj whole).2

/-! ## 2. Pieces of a split -/

theorem pieces_of_unread {c : Char} {cs : List Char} (unread : readReference? (c :: cs) = none) :
    pieces (c :: cs) = .literal c :: pieces cs := by
  rw [pieces]
  split
  · next found => simp [unread] at found
  · rfl

theorem pieces_reference_append {name : List Char} (isName : IsName name) (rest : List Char) :
    pieces ((Piece.reference name).text ++ rest) = .reference name :: pieces rest := by
  have found := readReference?_append isName rest
  rw [pieces]
  split
  · next found' =>
    rw [found] at found'
    cases found'
    rfl
  · next unread => simp [found] at unread

/-- A literal in front of a reference is no part of one. -/
theorem pieces_literal_append {literal : List Char}
    (closed : EachOpening (fun after => after.head? = some '\x7d') literal)
    (name rest : List Char) :
    pieces (literal ++ ((Piece.reference name).text ++ rest)) =
      literal.map .literal ++ pieces ((Piece.reference name).text ++ rest) := by
  induction literal with
  | nil => rfl
  | cons c literal ih =>
    obtain ⟨first, others⟩ := eachOpening_cons.1 closed
    have unread :
        readReference? (c :: (literal ++ ((Piece.reference name).text ++ rest))) = none := by
      refine readReference?_eq_none_iff.2 fun after whole => .inl ?_
      -- After a dollar sign at its end comes that of the reference, which is no brace.
      cases literal with
      | nil => simp [Piece.text] at whole
      | cons d literal =>
        simp only [List.cons_append, List.cons.injEq] at whole
        obtain ⟨rfl, rfl, rfl⟩ := whole
        have closing := first literal rfl
        rw [List.head?_append, closing]
        rfl
    rw [List.cons_append, pieces_of_unread unread, ih others, List.map_cons, List.cons_append]

theorem not_holdsReference_of_eachOpening {cs : List Char}
    (each : EachOpening (fun after => after.head? = some '\x7d' ∨ '\x7d' ∉ after) cs) :
    ¬ HoldsReference cs := by
  rintro ⟨before, name, after, rfl, isName⟩
  have unread := readReference?_eq_none_iff.2 fun after' whole =>
    each before after' (by rw [← whole, List.append_assoc])
  rw [readReference?_append isName] at unread
  cases unread

/-- The pieces of a text are those of any proper split of it. -/
theorem Split.pieces_text {split : Split} (proper : split.IsProper) :
    Setting.pieces split.text = split.pieces := by
  induction split with
  | last literal =>
    exact pieces_of_not_holdsReference (not_holdsReference_of_eachOpening proper)
  | reference literal name rest ih =>
    obtain ⟨closed, isName, proper⟩ := proper
    have whole : (Split.reference literal name rest).text =
        literal ++ ((Piece.reference name).text ++ rest.text) := by
      simp [Split.text, Piece.text]
    rw [whole, pieces_literal_append closed, pieces_reference_append isName, ih proper, pieces]

/-! ## 3. The split of pieces -/

theorem Split.ofPieces_append (literal : List Char) (ps : List Piece) :
    ofPieces (literal.map .literal ++ ps) = literal.foldr push (ofPieces ps) := by
  induction literal with
  | nil => rfl
  | cons c literal ih => rw [List.map_cons, List.cons_append, ofPieces, ih, List.foldr_cons]

theorem Split.ofPieces_pieces (split : Split) : ofPieces split.pieces = split := by
  have pushed (literal : List Char) :
      (∀ more, literal.foldr push (.last more) = .last (literal ++ more)) ∧
        ∀ more name rest, literal.foldr push (.reference more name rest) =
          .reference (literal ++ more) name rest := by
    induction literal with
    | nil => simp
    | cons c literal ih => simp [ih.1, ih.2, push]
  induction split with
  | last literal =>
    rw [pieces, ← List.append_nil (literal.map _), ofPieces_append, ofPieces, (pushed literal).1,
      List.append_nil]
  | reference literal name rest ih =>
    rw [pieces, ofPieces_append, ofPieces, ih, (pushed literal).2, List.append_nil]

theorem Split.text_push (c : Char) (split : Split) : (split.push c).text = c :: split.text := by
  cases split <;> rfl

theorem Split.text_ofPieces (ps : List Piece) : (ofPieces ps).text = ps.flatMap Piece.text := by
  induction ps with
  | nil => rfl
  | cons p ps ih =>
    cases p with
    | literal c =>
      rw [ofPieces, text_push, ih, List.flatMap_cons, Piece.text, List.singleton_append]
    | reference name => rw [ofPieces, text, ih, List.flatMap_cons, Piece.text, List.nil_append]

/-- A character in front of a split that does not make a reference with what follows it. -/
theorem Split.IsProper.push {split : Split} (proper : split.IsProper) {c : Char}
    (unread : readReference? (c :: split.text) = none) : (split.push c).IsProper := by
  rw [readReference?_eq_none_iff] at unread
  cases split with
  | last literal => exact eachOpening_cons.2 ⟨unread, proper⟩
  | reference literal name rest =>
    obtain ⟨closed, isName, proper⟩ := proper
    refine ⟨eachOpening_cons.2 ⟨fun after whole => ?_, closed⟩, isName, proper⟩
    obtain ⟨rfl, rfl⟩ := List.cons.inj whole
    -- The reference closes, so the brace is closed, and this can only be within the literal.
    rcases unread _ rfl with closing | never
    · cases after with
      | nil => simp at closing
      | cons d after => simpa using closing
    · simp at never

/-- What the reader finds in a text makes a proper split of it. -/
theorem Split.isProper_ofPieces (cs : List Char) : (ofPieces (Setting.pieces cs)).IsProper := by
  fun_induction Setting.pieces cs with
  | case1 cs name rest found ih =>
    exact ⟨eachOpening_nil _, (readReference?_sound found).2, ih⟩
  | case2 => exact eachOpening_nil _
  | case3 c cs unread ih =>
    refine ih.push ?_
    rwa [text_ofPieces, Setting.pieces_text]

/-! ## 4. Substitution -/

/-- Filling in a split is replacing its pieces one by one. -/
theorem Split.fill_eq (table : List (String × Value)) (split : Split) :
    split.fill (table.lookup ·) = split.pieces.flatMap (·.value table) := by
  have copied (cs : List Char) : (cs.map Piece.literal).flatMap (·.value table) = cs := by
    rw [List.flatMap_map]
    exact List.flatMap_singleton' cs
  induction split with
  | last literal => rw [fill, pieces, copied]
  | reference literal name rest ih =>
    have filled : ((table.lookup (.ofList name)).map (·.text.toList)).getD [] =
        (Piece.reference name).value table := by
      rw [Piece.value]
      cases table.lookup (.ofList name) <;> rfl
    rw [fill, pieces, List.flatMap_append, List.flatMap_cons, copied, ih, filled, List.append_assoc]

/-- Every text is taken apart in exactly one way into literals in which no reference begins and
references between them. Substitution keeps these literals as they are and puts for each of these
references the text of its variable, whatever that holds, or nothing if there is no variable. -/
theorem substitute_only_split (s : String) :
    ∃ split : Split, split.text = s.toList ∧ split.IsProper ∧
      (∀ other : Split, other.text = s.toList → other.IsProper → other = split) ∧
      ∀ table : List (String × Value),
        substitute table s = .ofList (split.fill (table.lookup ·)) := by
  refine ⟨.ofPieces (pieces s.toList), ?_, Split.isProper_ofPieces _, ?_, fun table => ?_⟩
  · rw [Split.text_ofPieces, pieces_text]
  · intro other text proper
    rw [← text, Split.pieces_text proper, Split.ofPieces_pieces]
  · have proper := Split.isProper_ofPieces s.toList
    have found := Split.pieces_text proper
    rw [Split.text_ofPieces, pieces_text] at found
    rw [substitute, Split.fill_eq, ← found]

/-- What is put in is not read again, a name may hold the signs that open a reference, and a dollar
sign may stand in front of one. -/
example :
    substitute [("A", .str "$\x7bB\x7d"), ("$\x7bB", .int 7)]
      "$\x7b\x7d$$\x7bA\x7d-$\x7b$\x7bB\x7d-$\x7bB\x7d-$\x7bA" =
      "$\x7b\x7d$$\x7bB\x7d-7--$\x7bA" := by
  decide +kernel

end LogLayout.Setting
