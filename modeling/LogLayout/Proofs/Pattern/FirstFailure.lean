import LogLayout.Proofs.Pattern.Correspondence

/-!
# Failures over a run

A layout formats entries one after another and remembers which of its converters have failed. This
module says what that memory holds: a converter is marked exactly if it failed on an earlier entry.
The mark decides on the warning only, so the lines do not depend on what was formatted before.

Results:
1. `renderSlots_reported`, `renderSlots_warnings`: what one entry does to the marks, and which
   warnings it brings.
2. `Remembers.format`: the marks stay those of the entries formatted so far.
3. `formatAll_first_failures`: over any run, each line is the one of a fresh layout, and each
   converter that ever fails is warned of once, at the first entry on which it fails.
-/

namespace LogLayout.Pattern

/-! ## Definitions -/

/-- The outcomes of formatting entries one after another. -/
def Layout.formatAll (s : Surroundings) : Layout → List Entry → List (Warned String)
  | _, [] => []
  | l, e :: entries => (l.format s e).2 :: formatAll s (l.format s e).1 entries

/-- The directive at a position of the converters fails on the entry, with this warning. It is
asked for its field only if each converter in front of it contributes its text. -/
inductive FailsWith (s : Surroundings) (e : Entry) : List Converter → Nat → Warning → Prop
  | here {f : FieldConverter} {fault : Fault} {converters : List Converter} :
      f.resolver.resolve s e = .error fault →
      FailsWith s e (.field f :: converters) 0 (.rendering f.word fault.message)
  | there {c : Converter} {text : String} {converters : List Converter} {i : Nat}
      {warning : Warning} : Contributes s e c text → FailsWith s e converters i warning →
      FailsWith s e (c :: converters) (i + 1) warning

/-- The directive at a position of the converters fails on the entry. -/
def Fails (s : Surroundings) (e : Entry) (converters : List Converter) (i : Nat) : Prop :=
  ∃ warning, FailsWith s e converters i warning

/-- The warnings are those of the directives that fail on `e` and on none of the earlier entries,
one for each, in the order of the converters. -/
def AreFirstFailures (s : Surroundings) (converters : List Converter) (earlier : List Entry)
    (e : Entry) (warnings : List Warning) : Prop :=
  ∃ positions : List Nat, positions.Pairwise (· < ·) ∧
    (∀ i, i ∈ positions ↔ Fails s e converters i ∧ ∀ e' ∈ earlier, ¬ Fails s e' converters i) ∧
    List.Forall₂ (FailsWith s e converters) positions warnings

/-- The first failure over the entries of the directive at a position has this warning. -/
def FirstFailsWith (s : Surroundings) (converters : List Converter) (entries : List Entry) (i : Nat)
    (warning : Warning) : Prop :=
  ∃ earlier e later, entries = earlier ++ e :: later ∧ FailsWith s e converters i warning ∧
    ∀ e' ∈ earlier, ¬ Fails s e' converters i

/-- The slot at the position is there and marked. -/
def IsReported (slots : List Slot) (i : Nat) : Prop :=
  ∃ slot ∈ slots[i]?, slot.reported = true

/-- The layout is one of the chain in which those converters are marked that failed on one of the
earlier entries. -/
structure Remembers (s : Surroundings) (c : Chain) (earlier : List Entry) (l : Layout) : Prop where
  chain : l.chain = c
  reported : ∀ i, IsReported l.slots i ↔ ∃ e ∈ earlier, Fails s e c.converters i

/-! ## 1. One entry -/

theorem isReported_cons_zero {slot : Slot} {slots : List Slot} :
    IsReported (slot :: slots) 0 ↔ slot.reported = true := by
  simp [IsReported]

theorem isReported_cons_succ {slot : Slot} {slots : List Slot} {i : Nat} :
    IsReported (slot :: slots) (i + 1) ↔ IsReported slots i := by
  simp [IsReported]

theorem failsWith_cons_succ {s : Surroundings} {e : Entry} {c : Converter}
    {converters : List Converter} {i : Nat} {warning : Warning} :
    FailsWith s e (c :: converters) (i + 1) warning ↔
      (∃ text, Contributes s e c text) ∧ FailsWith s e converters i warning := by
  constructor
  · intro fails
    cases fails with
    | there contributes fails => exact ⟨⟨_, contributes⟩, fails⟩
  · rintro ⟨⟨text, contributes⟩, fails⟩
    exact .there contributes fails

theorem fails_cons_succ {s : Surroundings} {e : Entry} {c : Converter}
    {converters : List Converter} {i : Nat} :
    Fails s e (c :: converters) (i + 1) ↔
      (∃ text, Contributes s e c text) ∧ Fails s e converters i := by
  simp only [Fails, failsWith_cons_succ, exists_and_left]

/-- A slot warns of the failure of its directive unless it is marked. -/
theorem warning?_eq_some_iff {slot : Slot} {s : Surroundings} {e : Entry} {warning : Warning}
    (converters : List Converter) :
    slot.warning? s e = some warning ↔
      slot.reported = false ∧ FailsWith s e (slot.converter :: converters) 0 warning := by
  obtain ⟨c, reported⟩ := slot
  cases c with
  | literal text =>
    constructor
    · intro warned
      simp [Slot.warning?] at warned
    · rintro ⟨-, fails⟩
      cases fails
  | field f =>
    simp only [Slot.warning?, FieldConverter.failure?]
    constructor
    · intro warned
      split at warned
      · simp at warned
      · next unmarked =>
        cases resolved : f.resolver.resolve s e with
        | ok value => simp [resolved] at warned
        | error fault =>
          simp only [resolved, Option.map_some, Option.some.injEq] at warned
          exact ⟨by simpa using unmarked, warned ▸ .here resolved⟩
    · rintro ⟨unmarked, fails⟩
      cases fails with
      | here failed => simp [unmarked, failed, FieldConverter.warning]

theorem after_reported_iff {slot : Slot} {s : Surroundings} {e : Entry}
    (converters : List Converter) :
    (slot.after s e).reported = true ↔
      slot.reported = true ∨ Fails s e (slot.converter :: converters) 0 := by
  rw [Slot.after, Bool.or_eq_true, Option.isSome_iff_exists]
  simp only [warning?_eq_some_iff converters]
  constructor
  · rintro (marked | ⟨warning, -, fails⟩)
    · exact .inl marked
    · exact .inr ⟨warning, fails⟩
  · rintro (marked | ⟨warning, fails⟩)
    · exact .inl marked
    · cases unmarked : slot.reported with
      | true => exact .inl rfl
      | false => exact .inr ⟨warning, rfl, fails⟩

theorem not_fails_nil {s : Surroundings} {e : Entry} {i : Nat} : ¬ Fails s e [] i := by
  rintro ⟨warning, fails⟩
  cases fails

theorem not_contributes_of_error {s : Surroundings} {e : Entry} {c : Converter} {fault : Fault}
    (failed : c.render s e = .error fault) : ¬ ∃ text, Contributes s e c text := by
  rintro ⟨text, contributes⟩
  rw [← contributes_iff, failed] at contributes
  exact absurd contributes (by simp)

theorem renderSlots_converters (s : Surroundings) (e : Entry) (slots : List Slot) :
    (renderSlots s e slots).1.map (·.converter) = slots.map (·.converter) := by
  induction slots with
  | nil => rfl
  | cons slot slots ih =>
    rw [renderSlots]
    split
    · rfl
    · simp [ih, Slot.after]

/-- After an entry those slots are marked that were marked before or fail on the entry. -/
theorem renderSlots_reported (s : Surroundings) (e : Entry) (slots : List Slot) (i : Nat) :
    IsReported (renderSlots s e slots).1 i ↔
      IsReported slots i ∨ Fails s e (slots.map (·.converter)) i := by
  induction slots generalizing i with
  | nil => simp [renderSlots, not_fails_nil]
  | cons slot slots ih =>
    cases i with
    | zero =>
      rw [renderSlots, List.map_cons]
      split <;> rw [isReported_cons_zero, isReported_cons_zero, after_reported_iff]
    | succ i =>
      rw [renderSlots, List.map_cons]
      split
      · next fault failed =>
        -- the slots behind are not rendered, and they do not fail either
        have unfit := not_contributes_of_error failed
        simp only [isReported_cons_succ, fails_cons_succ, unfit, false_and, or_false]
      · next text rendered =>
        have fits : ∃ text, Contributes s e slot.converter text :=
          ⟨text, contributes_iff.1 rendered⟩
        simp only [isReported_cons_succ, fails_cons_succ, fits, true_and, ih]

/-- The warnings of an entry are those of the unmarked slots that fail on it. -/
def AreUnmarkedFailures (s : Surroundings) (e : Entry) (slots : List Slot)
    (warnings : List Warning) : Prop :=
  ∃ positions : List Nat, positions.Pairwise (· < ·) ∧
    (∀ i, i ∈ positions ↔ Fails s e (slots.map (·.converter)) i ∧ ¬ IsReported slots i) ∧
    List.Forall₂ (FailsWith s e (slots.map (·.converter))) positions warnings

/-- The warnings of the slots behind follow the one of the slot in front. -/
theorem areUnmarkedFailures_cons {s : Surroundings} {e : Entry} {slot : Slot} {slots : List Slot}
    {behind : List Nat} {warnings : List Warning} (ordered : behind.Pairwise (· < ·))
    (member : ∀ i, i ∈ behind ↔
      Fails s e (slot.converter :: slots.map (·.converter)) (i + 1) ∧ ¬ IsReported slots i)
    (each : List.Forall₂
      (fun i => FailsWith s e (slot.converter :: slots.map (·.converter)) (i + 1))
      behind warnings) :
    AreUnmarkedFailures s e (slot :: slots) ((slot.warning? s e).toList ++ warnings) := by
  have moved : List.Forall₂ (FailsWith s e (slot.converter :: slots.map (·.converter)))
      (behind.map (· + 1)) warnings := List.forall₂_map_left_iff.2 each
  have orderedMoved : (behind.map (· + 1)).Pairwise (· < ·) := by
    rw [List.pairwise_map]
    exact ordered.imp (by omega)
  cases warned : slot.warning? s e with
  | none =>
    have silent : ¬ (Fails s e (slot.converter :: slots.map (·.converter)) 0 ∧
        ¬ slot.reported = true) := by
      rintro ⟨⟨warning, fails⟩, unmarked⟩
      rw [(warning?_eq_some_iff _).2 ⟨by simpa using unmarked, fails⟩] at warned
      exact absurd warned (by simp)
    refine ⟨behind.map (· + 1), orderedMoved, ?_, moved⟩
    intro i
    cases i with
    | zero => simpa [isReported_cons_zero] using silent
    | succ i => simp [isReported_cons_succ, member]
  | some warning =>
    obtain ⟨unmarked, fails⟩ := (warning?_eq_some_iff (slots.map (·.converter))).1 warned
    refine ⟨0 :: behind.map (· + 1), ?_, ?_, .cons fails moved⟩
    · rw [List.pairwise_cons]
      exact ⟨by simp, orderedMoved⟩
    · intro i
      cases i with
      | zero => simpa [isReported_cons_zero, unmarked] using ⟨warning, fails⟩
      | succ i => simp [isReported_cons_succ, member]

theorem renderSlots_warnings (s : Surroundings) (e : Entry) (slots : List Slot) :
    AreUnmarkedFailures s e slots (renderSlots s e slots).2.warnings := by
  induction slots with
  | nil => exact ⟨[], .nil, by simp [not_fails_nil], .nil⟩
  | cons slot slots ih =>
    rw [renderSlots]
    split
    · next fault failed =>
      have unfit := not_contributes_of_error failed
      rw [← List.append_nil (slot.warning? s e).toList]
      exact areUnmarkedFailures_cons .nil (by simp [fails_cons_succ, unfit]) .nil
    · next text rendered =>
      have contributes := contributes_iff.1 rendered
      obtain ⟨behind, ordered, member, each⟩ := ih
      refine areUnmarkedFailures_cons ordered ?_ (each.imp fun i warning => .there contributes)
      intro i
      have fits : ∃ text, Contributes s e slot.converter text := ⟨text, contributes⟩
      simp only [member, fails_cons_succ, fits, true_and]

/-! ## 2. The marks over a run -/

theorem remembers_ofChain (s : Surroundings) (c : Chain) : Remembers s c [] (.ofChain c) where
  chain := by simp [Layout.chain, Layout.ofChain, Function.comp_def]
  reported := by simp [IsReported, Layout.ofChain]

theorem Remembers.converters {s : Surroundings} {c : Chain} {earlier : List Entry} {l : Layout}
    (memory : Remembers s c earlier l) : l.slots.map (·.converter) = c.converters :=
  congrArg Chain.converters memory.chain

/-- Formatting an entry adds its failures to the marks. -/
theorem Remembers.format {s : Surroundings} {c : Chain} {earlier : List Entry} {l : Layout}
    (memory : Remembers s c earlier l) (e : Entry) :
    Remembers s c (earlier ++ [e]) (l.format s e).1 where
  chain := by
    rw [← memory.chain, Layout.chain, Layout.chain, Layout.format, renderSlots_converters]
  reported := fun i => by
    rw [Layout.format, renderSlots_reported, memory.reported, memory.converters]
    constructor
    · rintro (⟨e', member, fails⟩ | fails)
      · exact ⟨e', by simp [member], fails⟩
      · exact ⟨e, by simp, fails⟩
    · rintro ⟨e', member, fails⟩
      rcases List.mem_append.1 member with member | member
      · exact .inl ⟨e', member, fails⟩
      · rw [List.mem_singleton.1 member] at fails
        exact .inr fails

theorem Remembers.result {s : Surroundings} {c : Chain} {earlier : List Entry} {l : Layout}
    (memory : Remembers s c earlier l) (e : Entry) :
    (l.format s e).2.result = c.render s e := by
  rw [Layout.format_result, memory.chain]

theorem Remembers.warnings {s : Surroundings} {c : Chain} {earlier : List Entry} {l : Layout}
    (memory : Remembers s c earlier l) (e : Entry) :
    AreFirstFailures s c.converters earlier e (l.format s e).2.warnings := by
  obtain ⟨positions, ordered, member, each⟩ := renderSlots_warnings s e l.slots
  rw [memory.converters] at each
  refine ⟨positions, ordered, fun i => ?_, each⟩
  rw [member, memory.reported, memory.converters]
  simp only [not_exists, not_and]

/-! ## 3. Whole runs -/

theorem length_formatAll (s : Surroundings) (l : Layout) (entries : List Entry) :
    (l.formatAll s entries).length = entries.length := by
  induction entries generalizing l with
  | nil => rfl
  | cons e entries ih => simp [Layout.formatAll, ih]

/-- Each line of a run is formatted by a layout that remembers the entries before it. -/
theorem Remembers.getElem?_formatAll {s : Surroundings} {c : Chain} {before : List Entry}
    {l : Layout} (memory : Remembers s c before l) (earlier : List Entry) (e : Entry)
    (later : List Entry) :
    ∃ l', Remembers s c (before ++ earlier) l' ∧
      (l.formatAll s (earlier ++ e :: later))[earlier.length]? = some (l'.format s e).2 := by
  induction earlier generalizing before l with
  | nil => exact ⟨l, by simpa using memory, by simp [Layout.formatAll]⟩
  | cons first earlier ih =>
    obtain ⟨l', memory', found⟩ := ih (memory.format first)
    exact ⟨l', by simpa using memory', by simpa [Layout.formatAll] using found⟩

/-- Going on with a run reports each directive that now fails for the first time. -/
theorem Remembers.reports {s : Surroundings} {c : Chain} {before : List Entry} {l : Layout}
    (memory : Remembers s c before l) (entries : List Entry) :
    ∃ positions : List Nat, positions.Nodup ∧
      (∀ i, i ∈ positions ↔ (∃ e ∈ entries, Fails s e c.converters i) ∧
        ∀ e ∈ before, ¬ Fails s e c.converters i) ∧
      List.Forall₂ (FirstFailsWith s c.converters (before ++ entries)) positions
        ((l.formatAll s entries).flatMap (·.warnings)) := by
  induction entries generalizing before l with
  | nil => exact ⟨[], .nil, by simp, .nil⟩
  | cons e entries ih =>
    obtain ⟨now, ordered, memberNow, eachNow⟩ := memory.warnings e
    obtain ⟨later, distinct, memberLater, eachLater⟩ := ih (memory.format e)
    refine ⟨now ++ later, ?_, ?_, ?_⟩
    · refine List.nodup_append.2 ⟨ordered.imp (by omega), distinct, ?_⟩
      rintro i first _ second rfl
      exact ((memberLater i).1 second).2 e (by simp) ((memberNow i).1 first).1
    · intro i
      rw [List.mem_append, memberNow, memberLater]
      constructor
      · rintro (⟨fails, fresh⟩ | ⟨⟨e', member, fails⟩, fresh⟩)
        · exact ⟨⟨e, by simp, fails⟩, fresh⟩
        · exact ⟨⟨e', by simp [member], fails⟩, fun e'' h => fresh e'' (by simp [h])⟩
      · rintro ⟨⟨e', member, fails⟩, fresh⟩
        -- the first failure is now or on one of the entries to come
        by_cases failsNow : Fails s e c.converters i
        · exact .inl ⟨failsNow, fresh⟩
        · refine .inr ⟨⟨e', ?_, fails⟩, ?_⟩
          · rcases List.mem_cons.1 member with rfl | member
            · exact absurd fails failsNow
            · exact member
          · intro e'' h
            rcases List.mem_append.1 h with h | h
            · exact fresh e'' h
            · rwa [List.mem_singleton.1 h]
    · rw [List.append_assoc, List.singleton_append] at eachLater
      rw [Layout.formatAll, List.flatMap_cons]
      have fresh := fun i h => ((memberNow i).1 h).2
      refine List.rel_append (((List.forall₂_and_left _ _).2 ⟨fresh, eachNow⟩).imp ?_) eachLater
      rintro i warning ⟨fresh, fails⟩
      exact ⟨before, e, entries, rfl, fails, fresh⟩

/-- Over any run of a chain that was not used yet, each entry gives the line that it gives alone,
made of what the converters contribute to it, and it is warned of exactly those directives that
fail on it for the first time. So the warnings of the run are one for each directive that fails on
any of the entries, at its first failure. -/
theorem formatAll_first_failures (c : Chain) (s : Surroundings) (entries : List Entry) :
    ((Layout.ofChain c).formatAll s entries).length = entries.length ∧
      (∀ earlier e later, entries = earlier ++ e :: later →
        ∃ line ∈ ((Layout.ofChain c).formatAll s entries)[earlier.length]?,
          line.result = ((Layout.ofChain c).format s e).2.result ∧
          (∀ text, line.result = .ok text ↔
            ∃ texts, List.Forall₂ (Contributes s e) c.converters texts ∧
              text = Text.concat texts) ∧
          AreFirstFailures s c.converters earlier e line.warnings) ∧
      ∃ positions : List Nat, positions.Nodup ∧
        (∀ i, i ∈ positions ↔ ∃ e ∈ entries, Fails s e c.converters i) ∧
        List.Forall₂ (FirstFailsWith s c.converters entries) positions
          (((Layout.ofChain c).formatAll s entries).flatMap (·.warnings)) := by
  have fresh := remembers_ofChain s c
  refine ⟨length_formatAll s _ entries, ?_, ?_⟩
  · rintro earlier e later rfl
    obtain ⟨l, memory, found⟩ := fresh.getElem?_formatAll earlier e later
    refine ⟨_, found, ?_, ?_, memory.warnings e⟩
    · rw [memory.result, fresh.result]
    · intro text
      rw [memory.result]
      exact render_eq_ok_iff
  · obtain ⟨positions, distinct, member, each⟩ := fresh.reports entries
    exact ⟨positions, distinct, by simpa using member, each⟩

/-- A directive that fails on the messages `bad`. -/
def exFlaky : FieldConverter where
  word := "f"
  target := .other .null
  resolver := ⟨"Flaky", none, fun _ e =>
    if e.message = "bad" then .error (.raised "KeyError" "missing") else .ok (.str e.message)⟩
  width := { atLeast := 2 }
  option := none

/-- Two directives that fail on the same entries are warned of separately, and once each. -/
example :
    let entry := fun message => { exEntry with message }
    ((Layout.ofChain ⟨[.field exFlaky, .literal "-", .field exFlaky], ""⟩).formatAll default
      [entry "a", entry "bad", entry "b", entry "bad"]).map (·.warnings.length) = [0, 2, 0, 0] :=
  rfl

end LogLayout.Pattern
