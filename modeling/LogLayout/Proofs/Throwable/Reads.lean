import LogLayout.Proofs.Pattern.Correspondence
import LogLayout.Proofs.Pattern.Fitting
import LogLayout.Throwable.Kept
import Mathlib.Data.List.DropRight

/-!
# Reads of a logged exception

The lines of an exception are read by themselves, within the object of its entry, and within the
lines that patterns make of it. In the first two cases the caller gets a list that may be changed
before the next read. What a read gives does not depend on the reads and changes before it. The
relation `IsLinesOf` says which lines they are without splitting a text.

Results:
1. `isLinesOf_iff`: the lines of a text.
2. `IsIntact.read`: what one read of the kept lines leaves.
3. `look_eq`: what one read gives, `run_eq`: a whole sequence of reads.
4. `reads_agree`: what all reads of an exception give.
-/

namespace LogLayout

open Pattern

/-! ## Definitions -/

/-- Lines without newlines which, joined with newlines, are the text without those at its end. -/
structure Text.IsLinesOf (text : String) (ls : List String) : Prop where
  nonempty : ls ≠ []
  single : ∀ line ∈ ls, '\n' ∉ line.toList
  joined : ∃ n, text = "\n".intercalate ls ++ .ofList (List.replicate n '\n')
  ends : ("\n".intercalate ls).toList.getLast? ≠ some '\n'

/-- The exception of an entry between reads. -/
structure Reading where
  report : KeptReport
  sheets : Sheets
  /-- The lists that the caller has, the newest first. -/
  held : List SheetId

namespace Reading

/-- Before the first read; the caller may have lists of their own. -/
def start (t : Throwable) (own : List (List String)) : Reading :=
  ⟨{ throwable := t }, ⟨own⟩, List.range own.length⟩

/-- Reads the lines into a list that the caller does not get. -/
def peek (x : Reading) : Reading × List String :=
  let (report, sheets, id) := x.report.read x.sheets
  (⟨report, sheets, x.held⟩, sheets.get id)

/-- Reads the lines into a list that the caller gets. -/
def handOut (x : Reading) : Reading × List String :=
  let (report, sheets, id) := x.report.read x.sheets
  (⟨report, sheets, id :: x.held⟩, sheets.get id)

/-- The caller changes one of the lists that they have. -/
def change (x : Reading) (place : Nat) (lines : List String) : Reading :=
  match x.held[place]? with
  | some id => { x with sheets := x.sheets.change id lines }
  | none => x

/-- What a converter contributes to the line of an entry, if a directive for the exception reads
it. -/
def contribute (x : Reading) (s : Surroundings) (e : Entry) :
    Converter → Reading × Except Fault String
  | .literal text => (x, .ok text)
  | .field f =>
    match f.target with
    | .field .throwable =>
      let (x, ls) := x.peek
      (x, f.width.apply (yieldedText (.list (ls.map .str))))
    | _ => (x, (Converter.field f).render s e)

/-- What converters contribute, up to the first that cannot be rendered. -/
def contributeAll (x : Reading) (s : Surroundings) (e : Entry) :
    List Converter → Reading × Except Fault (List String)
  | [] => (x, .ok [])
  | c :: cs =>
    match x.contribute s e c with
    | (x, .error fault) => (x, .error fault)
    | (x, .ok text) =>
      let (x, texts) := x.contributeAll s e cs
      (x, texts.map (text :: ·))

end Reading

/-- A read. -/
inductive Look
  /-- The lines by themselves. -/
  | lines
  /-- The entry as an object. -/
  | object
  /-- The line of the entry. -/
  | line (s : Surroundings) (table : WordTable) (pattern : Value)

/-- What a read gives. -/
inductive Answer
  | lines (ls : List String)
  | object (fields : List (String × Value))
  | line (text : Except Fault String)

/-- What is done to the exception of an entry. -/
inductive Act
  | look (l : Look)
  | change (place : Nat) (lines : List String)

/-- The read that is done, if one is. -/
def Act.look? : Act → Option Look
  | look l => some l
  | change _ _ => none

/-- What the read gives of an entry with this exception if it is the only one. -/
def Look.answer (e : Entry) (t : Throwable) : Look → Answer
  | lines => .lines t.lines
  | object => .object e.toObject
  | line s table pattern =>
    .line ((compile table pattern).result.bind fun chain => chain.render s e)

namespace Reading

/-- One read. -/
def look (x : Reading) (e : Entry) : Look → Reading × Answer
  | .lines =>
    let (x, ls) := x.handOut
    (x, .lines ls)
  | .object =>
    let (x, ls) := x.handOut
    let rest := ({ e with throwable := none } : Entry).toObject
    (x, .object (Value.putField rest "throwable" (.list (ls.map .str))))
  | .line s table pattern =>
    match (compile table pattern).result with
    | .error fault => (x, .line (.error fault))
    | .ok chain =>
      let (x, texts) := x.contributeAll s e chain.converters
      (x, .line (texts.map Text.concat))

/-- Reads and changes in order, with what the reads give. -/
def run (x : Reading) (e : Entry) : List Act → Reading × List Answer
  | [] => (x, [])
  | .look l :: acts =>
    let (x, answer) := x.look e l
    let (x, answers) := x.run e acts
    (x, answer :: answers)
  | .change place lines :: acts => (x.change place lines).run e acts

/-- The kept list holds the lines of the exception, and the caller does not have it. The lists that
the caller has were made before, so the next one is not among them. -/
structure IsIntact (x : Reading) (t : Throwable) : Prop where
  throwable : x.report.throwable = t
  kept : ∀ id ∈ x.report.kept,
    id < x.sheets.all.length ∧ x.sheets.get id = t.lines ∧ id ∉ x.held
  held : ∀ id ∈ x.held, id < x.sheets.all.length

end Reading

/-- The directive has no width rules, or none that change a text. -/
def Pattern.Directive.IsUnbounded (d : Directive) (flaws : List Warning) : Prop :=
  ∃ width, ModifiersTaken d.modifiers width flaws ∧ width.atLeast = 0 ∧ width.atMost = none

/-- If the converter is a directive for the exception, it gets the lines of this one. -/
def Pattern.Converter.GetsLines (s : Surroundings) (e : Entry) (t : Throwable) : Converter → Prop
  | .literal _ => True
  | .field f => f.target = .field .throwable →
      f.resolver.resolve s e = .ok (.list (t.lines.map .str))

/-! ## 1. The lines of a text -/

namespace Text

variable {text : String} {ls : List String}

theorem toList_dropTrailingNewlines (text : String) :
    (dropTrailingNewlines text).toList = text.toList.rdropWhile (· == '\n') := by
  rw [dropTrailingNewlines, String.toList_ofList, List.rdropWhile]

theorem dropTrailingNewlines_append (kept : String) (n : Nat) :
    dropTrailingNewlines (kept ++ .ofList (List.replicate n '\n')) = dropTrailingNewlines kept := by
  induction n with
  | zero => simp
  | succ n ih =>
    rw [← ih, ← String.toList_inj, toList_dropTrailingNewlines, toList_dropTrailingNewlines]
    simp [List.replicate_succ', ← List.append_assoc]

theorem dropTrailingNewlines_eq_self_iff :
    dropTrailingNewlines text = text ↔ text.toList.getLast? ≠ some '\n' := by
  rw [← String.toList_inj, toList_dropTrailingNewlines, List.rdropWhile_eq_self_iff]
  cases text.toList using List.reverseRecOn with
  | nil => simp
  | append_singleton cs c => simp

theorem getLast?_dropTrailingNewlines (text : String) :
    (dropTrailingNewlines text).toList.getLast? ≠ some '\n' := by
  rw [← dropTrailingNewlines_eq_self_iff, ← String.toList_inj, toList_dropTrailingNewlines,
    toList_dropTrailingNewlines, List.rdropWhile_idempotent]

theorem exists_append_newlines (text : String) :
    ∃ n, text = dropTrailingNewlines text ++ .ofList (List.replicate n '\n') := by
  refine ⟨(text.toList.rtakeWhile (· == '\n')).length, ?_⟩
  have newlines : text.toList.rtakeWhile (· == '\n') =
      List.replicate (text.toList.rtakeWhile (· == '\n')).length '\n' := by
    refine List.eq_replicate_iff.2 ⟨rfl, fun c member => ?_⟩
    simpa using List.mem_rtakeWhile_imp member
  rw [← newlines, ← String.toList_inj, String.toList_append, toList_dropTrailingNewlines,
    String.toList_ofList, List.rdropWhile_append_rtakeWhile]

/-- The lines of a text, found by splitting it, are the only ones that are its lines. -/
theorem isLinesOf_iff : IsLinesOf text ls ↔ ls = lines (dropTrailingNewlines text) := by
  constructor
  · rintro ⟨nonempty, single, ⟨n, whole⟩, ends⟩
    rw [whole, dropTrailingNewlines_append, dropTrailingNewlines_eq_self_iff.2 ends,
      lines_intercalate nonempty single]
  · rintro rfl
    refine ⟨lines_ne_nil _, ?_, ?_, ?_⟩
    · intro line member
      obtain ⟨part, found, rfl⟩ := List.mem_map.1 member
      simpa using not_mem_of_mem_splitOn found
    · rw [intercalate_lines]
      exact exists_append_newlines text
    · rw [intercalate_lines]
      exact getLast?_dropTrailingNewlines text

end Text

/-! ## 2. The kept lines -/

namespace Reading

variable {x : Reading} {e : Entry} {t : Throwable}

theorem isIntact_start (t : Throwable) (own : List (List String)) : (start t own).IsIntact t where
  throwable := rfl
  kept := by simp [start]
  held := by simp [start]

/-- The caller need not keep a list. -/
theorem IsIntact.forget {report : KeptReport} {sheets : Sheets} {id : SheetId}
    {held : List SheetId} (intact : (⟨report, sheets, id :: held⟩ : Reading).IsIntact t) :
    (⟨report, sheets, held⟩ : Reading).IsIntact t where
  throwable := intact.throwable
  kept kept' member := by
    obtain ⟨made, same, hidden⟩ := intact.kept kept' member
    exact ⟨made, same, fun has => hidden (List.mem_cons_of_mem _ has)⟩
  held other has := intact.held other (List.mem_cons_of_mem _ has)

/-- The caller may get a further list, whatever it holds. -/
theorem IsIntact.add (intact : x.IsIntact t) (lines : List String) :
    (⟨x.report, (x.sheets.add lines).1, (x.sheets.add lines).2 :: x.held⟩ : Reading).IsIntact
      t where
  throwable := intact.throwable
  kept id member := by
    obtain ⟨made, same, hidden⟩ := intact.kept id member
    refine ⟨?_, ?_, ?_⟩
    · simpa using Nat.lt_succ_of_lt made
    · rw [Sheets.get_add_of_lt made, same]
    · simpa [Sheets.add, Nat.ne_of_lt made] using hidden
  held id has := by
    rcases List.mem_cons.1 has with rfl | has
    · simp [Sheets.add]
    · simpa using Nat.lt_succ_of_lt (intact.held id has)

theorem IsIntact.keep (intact : x.IsIntact t) :
    ∃ report sheets id, x.report.keep x.sheets = (report, sheets, id) ∧
      sheets.get id = t.lines ∧ (⟨report, sheets, x.held⟩ : Reading).IsIntact t := by
  rw [KeptReport.keep]
  cases kept : x.report.kept with
  | some id => exact ⟨_, _, _, rfl, (intact.kept id kept).2.1, intact⟩
  | none =>
    have same : (x.sheets.add x.report.throwable.lines).1.get
        (x.sheets.add x.report.throwable.lines).2 = t.lines := by
      rw [Sheets.get_add, intact.throwable]
    refine ⟨_, _, _, rfl, same, intact.throwable, ?_, ?_⟩
    · rintro _ ⟨rfl⟩
      exact ⟨by simp, same, fun has => absurd (intact.held _ has) (by simp)⟩
    · intro id has
      simpa using Nat.lt_succ_of_lt (intact.held id has)

/-- A read gives the lines of the exception in a list that is not the kept one. -/
theorem IsIntact.read (intact : x.IsIntact t) :
    ∃ report sheets id, x.report.read x.sheets = (report, sheets, id) ∧
      sheets.get id = t.lines ∧ (⟨report, sheets, id :: x.held⟩ : Reading).IsIntact t := by
  obtain ⟨report, sheets, id, kept, same, after⟩ := intact.keep
  have copied := Sheets.get_add sheets (sheets.get id)
  refine ⟨report, (sheets.add (sheets.get id)).1, (sheets.add (sheets.get id)).2, ?_, ?_,
    after.add _⟩
  · simp only [KeptReport.read, kept]
  · rw [copied, same]

theorem IsIntact.peek (intact : x.IsIntact t) :
    ∃ after, x.peek = (after, t.lines) ∧ after.IsIntact t := by
  obtain ⟨report, sheets, id, read, same, after⟩ := intact.read
  exact ⟨_, by simp only [Reading.peek, read, same], after.forget⟩

theorem IsIntact.handOut (intact : x.IsIntact t) :
    ∃ after, x.handOut = (after, t.lines) ∧ after.IsIntact t := by
  obtain ⟨report, sheets, id, read, same, after⟩ := intact.read
  exact ⟨_, by simp only [Reading.handOut, read, same], after⟩

/-- A caller cannot change the kept list. -/
theorem IsIntact.change (intact : x.IsIntact t) (place : Nat) (lines : List String) :
    (x.change place lines).IsIntact t := by
  rw [Reading.change]
  split
  · next id found =>
    have has := List.mem_of_getElem? found
    refine ⟨intact.throwable, fun kept member => ?_, fun other member => ?_⟩
    · obtain ⟨made, same, hidden⟩ := intact.kept kept member
      refine ⟨by simpa using made, ?_, hidden⟩
      rw [Sheets.get_change_of_ne (fun equal => hidden (by rwa [← equal])), same]
    · simpa using intact.held other member
  · exact intact

/-! ## 3. Reads in order -/

theorem getsLines_of_wordTaken {table : WordTable} {word : String} {option : Option String}
    {width : Width} {f : FieldConverter} {warnings : List Warning}
    (taken : WordTaken table word option width (some f) warnings) (s : Surroundings)
    (logged : e.throwable = some t) : (Converter.field f).GetsLines s e t := by
  intro target
  cases taken with
  | accepted _ makes =>
    obtain rfl := target
    cases makes
    simp only [Field.read, logged]
  | refused _ refuses =>
    obtain rfl := target
    cases refuses

theorem getsLines_of_compiles {table : WordTable} {tokens : List Token}
    {converters : List Converter} {warnings : List Warning}
    (compiles : Compiles table tokens converters warnings) (s : Surroundings)
    (logged : e.throwable = some t) : ∀ c ∈ converters, c.GetsLines s e t := by
  induction compiles with
  | nil => simp
  | literal text _ ih => exact List.forall_mem_cons.2 ⟨trivial, ih⟩
  | kept _ taken _ ih =>
    exact List.forall_mem_cons.2 ⟨getsLines_of_wordTaken taken s logged, ih⟩
  | dropped _ _ _ ih => exact ih

theorem contribute_eq {c : Converter} {s : Surroundings} (intact : x.IsIntact t)
    (gets : c.GetsLines s e t) :
    ∃ after, x.contribute s e c = (after, c.render s e) ∧ after.IsIntact t := by
  cases c with
  | literal text => exact ⟨x, rfl, intact⟩
  | field f =>
    rw [contribute]
    split
    · next target =>
      obtain ⟨after, peeked, intact⟩ := intact.peek
      refine ⟨after, ?_, intact⟩
      rw [Converter.render_field, FieldConverter.rawText, gets target, peeked]
    · exact ⟨x, rfl, intact⟩

theorem contributeAll_eq {cs : List Converter} {s : Surroundings} (intact : x.IsIntact t)
    (gets : ∀ c ∈ cs, c.GetsLines s e t) :
    ∃ after, x.contributeAll s e cs = (after, cs.mapM (·.render s e)) ∧ after.IsIntact t := by
  induction cs generalizing x with
  | nil => exact ⟨x, rfl, intact⟩
  | cons c cs ih =>
    obtain ⟨first, others⟩ := List.forall_mem_cons.1 gets
    obtain ⟨between, contributed, intact⟩ := contribute_eq intact first
    rw [contributeAll, List.mapM_cons, contributed]
    cases c.render s e with
    | error fault => exact ⟨between, rfl, intact⟩
    | ok text =>
      obtain ⟨after, rest, intact⟩ := ih intact others
      refine ⟨after, ?_, intact⟩
      simp only [rest]
      cases cs.mapM (·.render s e) <;> rfl

/-- A read gives what it gives if it is the only one. -/
theorem look_eq (intact : x.IsIntact t) (logged : e.throwable = some t) (l : Look) :
    ∃ after, x.look e l = (after, l.answer e t) ∧ after.IsIntact t := by
  cases l with
  | lines =>
    obtain ⟨after, handed, intact⟩ := intact.handOut
    exact ⟨after, by simp only [look, handed, Look.answer], intact⟩
  | object =>
    obtain ⟨after, handed, intact⟩ := intact.handOut
    refine ⟨after, ?_, intact⟩
    simp [look, handed, Look.answer, Entry.toObject, logged, Value.putField]
  | line s table pattern =>
    rw [look, Look.answer]
    cases compiled : (compile table pattern).result with
    | error fault => exact ⟨x, rfl, intact⟩
    | ok chain =>
      obtain ⟨tokens, warnings, compiles⟩ := exists_compiles compiled
      obtain ⟨after, contributed, intact⟩ :=
        contributeAll_eq intact (getsLines_of_compiles compiles s logged)
      refine ⟨after, ?_, intact⟩
      simp only [contributed, Except.bind, Chain.render]
      cases chain.converters.mapM (·.render s e) <;> rfl

/-- Each of the reads gives what it gives if it is the only one. -/
theorem run_eq (intact : x.IsIntact t) (logged : e.throwable = some t) (acts : List Act) :
    ∃ after, x.run e acts = (after, (acts.filterMap Act.look?).map (Look.answer e t)) ∧
      after.IsIntact t := by
  induction acts generalizing x with
  | nil => exact ⟨x, rfl, intact⟩
  | cons act acts ih =>
    cases act with
    | change place lines => exact ih (intact.change place lines)
    | look l =>
      obtain ⟨between, answered, intact⟩ := look_eq intact logged l
      obtain ⟨after, others, intact⟩ := ih intact
      exact ⟨after, by simp only [run, answered, others]; rfl, intact⟩

end Reading

/-! ## 4. All reads of an exception -/

theorem Throwable.isLinesOf_lines (t : Throwable) : Text.IsLinesOf t.reportText t.lines :=
  Text.isLinesOf_iff.2 rfl

/-- A word for the exception is always kept. -/
theorem exists_wordTaken_throwable {table : WordTable} {word : String}
    (named : table.lookup word = some (.field .throwable)) (option : Option String)
    (width : Width) :
    ∃ f, WordTaken table word option width (some f) [] ∧ f.target = .field .throwable ∧
      f.width = width :=
  ⟨_, .accepted named rfl, rfl, rfl⟩

/-- A directive for the exception that stands alone, without bounds, shows all lines. -/
theorem renders_lines {table : WordTable} {d : Directive} {flaws : List Warning} {e : Entry}
    {t : Throwable} (logged : e.throwable = some t) (wellFormed : d.IsWellFormed)
    (unbounded : d.IsUnbounded flaws)
    (named : table.lookup (.ofList d.word) = some (.field .throwable)) :
    ∃ chain, compile table (.str (.ofList d.text)) = ⟨flaws, .ok chain⟩ ∧
      ∀ s, chain.render s e = .ok ("\n".intercalate t.lines) := by
  obtain ⟨width, modifiers, least, most⟩ := unbounded
  obtain ⟨f, taken, target, rfl⟩ := exists_wordTaken_throwable named (usedOption d) width
  have compiled := compile_directive wellFormed modifiers taken
  rw [List.append_nil] at compiled
  refine ⟨_, compiled, fun s => ?_⟩
  have lines := Reading.getsLines_of_wordTaken taken s logged target
  rw [render_alone least most, FieldConverter.rawText, lines]
  simp [yieldedText, Value.text, Function.comp_def]

/-- Whatever is read of a logged exception, in any order and with any changes of the lists that
were handed out, each read gives what it gives if it is the only one. The lines are those of the
report without the newlines at its end; the object of the entry lists them, and a directive for the
exception without bounds renders them joined. -/
theorem reads_agree {e : Entry} {t : Throwable} (logged : e.throwable = some t)
    (own : List (List String)) (acts : List Act) :
    ((Reading.start t own).run e acts).2 = (acts.filterMap Act.look?).map (Look.answer e t) ∧
      Text.IsLinesOf t.reportText t.lines ∧
      e.toObject.lookup "throwable" = some (.list (t.lines.map .str)) ∧
      ∀ (table : WordTable) (d : Directive) (flaws : List Warning), d.IsWellFormed →
        d.IsUnbounded flaws → table.lookup (.ofList d.word) = some (.field .throwable) →
        ∃ chain, compile table (.str (.ofList d.text)) = ⟨flaws, .ok chain⟩ ∧
          ∀ s, chain.render s e = .ok ("\n".intercalate t.lines) := by
  obtain ⟨after, answers, -⟩ := Reading.run_eq (Reading.isIntact_start t own) logged acts
  refine ⟨by rw [answers], t.isLinesOf_lines, ?_, fun table d flaws => renders_lines logged⟩
  simp [Entry.toObject, logged, List.lookup_cons]

/-- An exception whose text ends with a newline. -/
def exTwoLines : Throwable where
  name := "ValueError"
  arguments := [.str "first\nsecond\n"]

/-- An entry with that exception. -/
def exFailed : Entry := { exEntry with throwable := some exTwoLines }

/-- A directive for the exception. -/
def exException : Directive where
  modifiers := []
  word := ['e', 'x']
  raw := none

/-- Three reads; the caller spoils the list that the first one gives, and a list of their own. -/
def exActs : List Act :=
  [.look .lines, .change 0 ["spoiled"], .look (.line default defaultWords (.str "%ex")),
    .change 1 [], .look .lines]

/-- The newline in the middle parts two lines, the one at the end does not count. -/
theorem reads_agree_exFailed :
    exFailed.throwable = some exTwoLines ∧
      ((Reading.start exTwoLines [["own"]]).run exFailed exActs).2 =
        [.lines ["ValueError: first", "second"], .line (.ok "ValueError: first\nsecond"),
          .lines ["ValueError: first", "second"]] ∧
      Text.IsLinesOf exTwoLines.reportText ["ValueError: first", "second"] ∧
      exFailed.toObject.lookup "throwable" =
        some (.list [.str "ValueError: first", .str "second"]) := by
  have logged : exFailed.throwable = some exTwoLines := rfl
  have lines : exTwoLines.lines = ["ValueError: first", "second"] := by decide +kernel
  have wellFormed : exException.IsWellFormed :=
    Directive.isWellFormed_of_parts (by simp [exException]) (by simp [exException])
      (by simp [exException]) (by simp [exException])
  obtain ⟨answers, isLines, object, shown⟩ := reads_agree logged [["own"]] exActs
  obtain ⟨chain, compiled, rendered⟩ := shown defaultWords exException [] wellFormed
    ⟨{}, .absent rfl, rfl, rfl⟩ rfl
  have text : String.ofList exException.text = "%ex" := rfl
  rw [text] at compiled
  rw [lines] at isLines object rendered
  refine ⟨logged, ?_, isLines, object⟩
  rw [answers]
  simp only [exActs, Act.look?, List.filterMap_cons, List.filterMap_nil, List.map_cons,
    List.map_nil, Look.answer, lines, compiled, Except.bind, rendered]
  rfl

end LogLayout
