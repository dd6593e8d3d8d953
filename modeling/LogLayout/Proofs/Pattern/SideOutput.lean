import LogLayout.Pattern.Reporting
import LogLayout.Proofs.Pattern.FirstFailure

/-!
# Warnings are side output

A channel sees the warnings and has no say in anything else. Compiling and formatting come to the
same outcome whatever the handlers do, and emit the same texts in the same order; the channel only
decides where each of them goes.

Results:
1. `passAll_append`, `arePassed_passAll`: what a channel makes of a row of texts.
2. `leaves_bind`, `reportsAs_bind`: operations one after the other.
3. `reportsAs_compile`: compiling with a channel gives what compiling gives, and passes its warnings
   on.
4. `leaves_formatAll`: the same for formatting.
5. `run_side_output`: a whole run.
-/

namespace LogLayout

/-! ## Definitions -/

/-- What becomes of a text that goes to a receiver, or to none, after these notices. -/
inductive IsPassed (past : List Notice) (text : String) : Option Receiver → Notice → Prop
  | printed : IsPassed past text none (.printed ("pattern_logger: " ++ text ++ "\n"))
  | received {r : Receiver} : r.failure past text = none →
      IsPassed past text (some r) (.received r.name text)
  /-- A receiver that fails does not swallow the text. -/
  | saved {r : Receiver} {reason : String} : r.failure past text = some reason →
      IsPassed past text (some r) (.printed
        ("pattern_logger: " ++ (text ++ " (warning handler error: " ++ reason ++ ")") ++ "\n"))

/-- What becomes of texts one after another: a notice for each, in order. -/
inductive ArePassed (receiver : Option Receiver) : List Notice → List String → List Notice → Prop
  | nil {past : List Notice} : ArePassed receiver past [] []
  | cons {past notices : List Notice} {text : String} {texts : List String} {n : Notice} :
      IsPassed past text receiver n → ArePassed receiver (past ++ [n]) texts notices →
      ArePassed receiver past (text :: texts) (n :: notices)

/-- The notices that a channel leaves for texts one after another. -/
def Channel.passAll (c : Channel) : List Notice → List String → List Notice
  | _, [] => []
  | past, text :: texts => c.pass past text :: c.passAll (past ++ [c.pass past text]) texts

/-- The operation comes to `b` whatever was reported before, and leaves what the channel makes of
the texts. -/
def Leaves {β : Type} (c : Channel) (x : StateM (List Notice) β) (b : β) (texts : List String) :
    Prop :=
  ∀ past, x.run past = pure (b, past ++ c.passAll past texts)

/-- The operation comes to the outcome of `w` and passes the warnings of `w` on. -/
def ReportsAs {α : Type} (c : Channel) (x : Reporting α) (w : Warned α) : Prop :=
  Leaves c x.run w.result (w.warnings.map (·.message))

/-! ## 1. Rows of texts -/

theorem passAll_append (c : Channel) (texts more : List String) :
    ∀ past, c.passAll past (texts ++ more) =
      c.passAll past texts ++ c.passAll (past ++ c.passAll past texts) more := by
  induction texts with
  | nil => simp [Channel.passAll]
  | cons text texts ih => simp [Channel.passAll, ih]

theorem isPassed_pass (c : Channel) (past : List Notice) (text : String) :
    IsPassed past text (c.chosen.or c.installed) (c.pass past text) := by
  have handled (r : Receiver) :
      IsPassed past text (some r) (report none (some (r.handler past text)) text) := by
    cases failure : r.failure past text with
    | none =>
      simp only [report, Option.some_or, Receiver.handler, failure]
      exact .received failure
    | some reason =>
      simp only [report, Option.some_or, Receiver.handler, failure]
      exact .saved failure
  obtain ⟨_ | installed, _ | chosen⟩ := c
  · exact .printed
  · exact handled chosen
  · exact handled installed
  · exact handled chosen

theorem arePassed_passAll (c : Channel) (texts : List String) :
    ∀ past, ArePassed (c.chosen.or c.installed) past texts (c.passAll past texts) := by
  induction texts with
  | nil => exact fun past => .nil
  | cons text texts ih => exact fun past => .cons (isPassed_pass c past text) (ih _)

/-! ## 2. Operations one after the other -/

section

variable {α β : Type} {c : Channel}

theorem leaves_pure (b : β) : Leaves c (pure b) b [] := fun past => by
  simp [Channel.passAll]

theorem leaves_tell (text : String) : Leaves c (c.tell text) () [text] := fun past => by
  simp [Channel.tell, Channel.passAll]

theorem leaves_bind {x : StateM (List Notice) α} {k : α → StateM (List Notice) β} {a : α} {b : β}
    {texts more : List String} (first : Leaves c x a texts) (next : Leaves c (k a) b more) :
    Leaves c (x >>= k) b (texts ++ more) := fun past => by
  rw [StateT.run_bind, first past, pure_bind, passAll_append, ← List.append_assoc]
  exact next _

theorem leaves_bind_pure {x : StateM (List Notice) α} {k : α → StateM (List Notice) β} {a : α}
    {b : β} {texts : List String} (first : Leaves c x a texts) (last : k a = pure b) :
    Leaves c (x >>= k) b texts := by
  rw [← List.append_nil texts]
  exact leaves_bind first (last ▸ leaves_pure b)

theorem reportsAs_pure (a : α) : ReportsAs c (pure a) (.ok a) := leaves_pure _

theorem reportsAs_throw (fault : Fault) : ReportsAs c (throw fault : Reporting α) (.fail fault) :=
  leaves_pure _

theorem reportsAs_warn (w : Warning) : ReportsAs c (c.warn w) ⟨[w], .ok ()⟩ := fun past => by
  simp [Channel.warn, Channel.tell, Channel.passAll]

theorem reportsAs_bind {x : Reporting α} {k : α → Reporting β} {w : Warned α} {f : α → Warned β}
    (first : ReportsAs c x w) (next : ∀ a, ReportsAs c (k a) (f a)) :
    ReportsAs c (x >>= k) (w.andThen f) := by
  obtain ⟨warnings, result⟩ := w
  rw [ReportsAs, ExceptT.run_bind]
  cases result with
  | ok a =>
    rw [Warned.andThen, List.map_append]
    exact leaves_bind first (next a)
  | error fault =>
    exact leaves_bind_pure first rfl

theorem reportsAs_map {x : Reporting α} {w : Warned α} (f : α → β) (first : ReportsAs c x w) :
    ReportsAs c (x >>= fun a => pure (f a)) (w.map f) := by
  have mapped : w.map f = w.andThen fun a => .ok (f a) := by
    obtain ⟨warnings, result⟩ := w
    cases result <;> simp [Warned.map, Warned.andThen, Warned.ok, Except.map]
  rw [mapped]
  exact reportsAs_bind first fun a => reportsAs_pure (f a)

theorem reportsAs_warn_bind (warning : Warning) {x : Reporting α} {w : Warned α}
    (next : ReportsAs c x w) :
    ReportsAs c (c.warn warning >>= fun _ => x) ⟨warning :: w.warnings, w.result⟩ :=
  reportsAs_bind (reportsAs_warn warning) fun _ => next

end

namespace Pattern.Reporting

/-! ## 3. Compiling -/

theorem reportsAs_compileModifiers (c : Channel) (modifiers : List Char) :
    ReportsAs c (compileModifiers c modifiers) (Pattern.compileModifiers modifiers) := by
  unfold compileModifiers Pattern.compileModifiers Width.ofModifiers
  by_cases blank : modifiers.isEmpty
  · simp only [blank, if_true]
    exact reportsAs_pure _
  · simp only [blank]
    cases widthNumerals? modifiers with
    | none => exact reportsAs_warn_bind _ (reportsAs_pure _)
    | some numerals =>
      obtain ⟨least, most⟩ := numerals
      cases first : widthNumber least with
      | error fault =>
        simp only [first]
        exact reportsAs_throw fault
      | ok least =>
        cases second : widthNumber most with
        | error fault =>
          simp only [first, second]
          exact reportsAs_throw fault
        | ok most =>
          simp only [first, second]
          exact reportsAs_pure _

theorem reportsAs_makeResolver (c : Channel) (make : Option String → Except BuildFault Resolver)
    (word : String) (option : Option String) :
    ReportsAs c (makeResolver c make word option) (Pattern.makeResolver make word option) := by
  unfold makeResolver Pattern.makeResolver
  cases make option with
  | ok r => exact reportsAs_pure _
  | error fault =>
    cases fault with
    | failed fault => exact reportsAs_throw fault
    | refused reason =>
      cases make none with
      | ok r => exact reportsAs_warn_bind _ (reportsAs_pure _)
      | error fault =>
        cases fault with
        | failed fault => exact reportsAs_warn_bind _ (reportsAs_throw fault)
        | refused reason => exact reportsAs_warn_bind _ (reportsAs_throw _)

theorem reportsAs_compileWord (c : Channel) (table : WordTable) (d : Directive) (width : Width) :
    ReportsAs c (compileWord c table d width) (Pattern.compileWord table d width) := by
  unfold compileWord Pattern.compileWord
  dsimp only
  cases table.lookup (String.ofList d.word) with
  | none => exact reportsAs_warn_bind _ (reportsAs_pure _)
  | some target =>
    dsimp only
    cases target.maker with
    | error given => exact reportsAs_warn_bind _ (reportsAs_pure _)
    | ok make => exact reportsAs_map _ (reportsAs_makeResolver c make _ _)

theorem reportsAs_compileToken (c : Channel) (table : WordTable) (token : Token) :
    ReportsAs c (compileToken c table token) (Pattern.compileToken table token) := by
  cases token with
  | literal text => exact reportsAs_pure _
  | directive d =>
    exact reportsAs_bind (reportsAs_compileModifiers c d.modifiers) fun width =>
      reportsAs_map _ (reportsAs_compileWord c table d width)

theorem reportsAs_compileTokens (c : Channel) (table : WordTable) (tokens : List Token) :
    ReportsAs c (compileTokens c table tokens) (Pattern.compileTokens table tokens) := by
  induction tokens with
  | nil => exact reportsAs_pure _
  | cons token tokens ih =>
    exact reportsAs_bind (reportsAs_compileToken c table token) fun converter =>
      reportsAs_map _ ih

theorem reportsAs_compileText (c : Channel) (table : WordTable) (pattern : String) :
    ReportsAs c (compileText c table pattern) (Pattern.compileText table pattern) := by
  unfold compileText Pattern.compileText
  split
  · exact reportsAs_pure _
  · exact reportsAs_map _ (reportsAs_compileTokens c table _)

/-- Compiling with a channel has the outcome of compiling and passes its warnings on. -/
theorem reportsAs_compile (c : Channel) (table : WordTable) (given : Value) :
    ReportsAs c (compile c table given) (Pattern.compile table given) := by
  cases given with
  | null => exact reportsAs_compileText c table ""
  | str s => exact reportsAs_compileText c table s
  | _ => exact reportsAs_throw _

/-! ## 4. Formatting -/

section

variable (installed : Option Receiver) (s : Surroundings)

theorem leaves_renderSlots (e : Entry) (slots : List Slot) :
    Leaves { installed } (renderSlots installed s e slots)
      ((Pattern.renderSlots s e slots).1, (Pattern.renderSlots s e slots).2.result)
      ((Pattern.renderSlots s e slots).2.warnings.map (·.message)) := by
  induction slots with
  | nil => exact leaves_pure _
  | cons slot slots ih =>
    rw [renderSlots, Pattern.renderSlots]
    cases slot.warning? s e with
    | none =>
      cases slot.converter.render s e with
      | error fault => exact leaves_pure _
      | ok text => exact leaves_bind_pure ih rfl
    | some w =>
      -- The warning is out before the text of the slot is known, and stays so if there is none.
      cases slot.converter.render s e with
      | error fault => exact leaves_bind_pure (leaves_tell _) rfl
      | ok text => exact leaves_bind (leaves_tell _) (leaves_bind_pure ih rfl)

theorem leaves_format (l : Layout) (e : Entry) :
    Leaves { installed } (format installed l s e) ((l.format s e).1, (l.format s e).2.result)
      ((l.format s e).2.warnings.map (·.message)) :=
  leaves_bind_pure (leaves_renderSlots installed s e l.slots) rfl

/-- Formatting with a channel gives the lines of formatting and passes its warnings on. -/
theorem leaves_formatAll (entries : List Entry) :
    ∀ l, Leaves { installed } (formatAll installed s l entries)
      ((l.formatAll s entries).map (·.result))
      (((l.formatAll s entries).flatMap (·.warnings)).map (·.message)) := by
  induction entries with
  | nil => exact fun l => leaves_pure _
  | cons e entries ih =>
    intro l
    rw [Layout.formatAll, List.flatMap_cons, List.map_append, List.map_cons]
    exact leaves_bind (leaves_format installed s l e) (leaves_bind_pure (ih _) rfl)

end

/-! ## 5. A whole run -/

/-- The outcomes of formatting the entries with the chain of a pattern, if it has one. -/
def formatted (table : WordTable) (given : Value) (s : Surroundings) (entries : List Entry) :
    List (Warned String) :=
  match (Pattern.compile table given).result with
  | .ok chain => (Layout.ofChain chain).formatAll s entries
  | .error _ => []

/-- The outcome of a run, which is the chain or the error of the pattern and the line of each entry,
does not depend on the channel, and neither do the texts that are reported nor their order: those of
compiling go to the handler that is given, else to the installed one, and those of formatting to the
installed one. What becomes of each is the same for all of them. -/
theorem run_side_output (c : Channel) (table : WordTable) (given : Value) (s : Surroundings)
    (entries : List Entry) (past : List Notice) :
    ∃ compiling formatting,
      (run c table given s entries).run past =
        (((Pattern.compile table given).result, (formatted table given s entries).map (·.result)),
          past ++ compiling ++ formatting) ∧
      ArePassed (c.chosen.or c.installed) past
        ((Pattern.compile table given).warnings.map (·.message)) compiling ∧
      ArePassed c.installed (past ++ compiling)
        (((formatted table given s entries).flatMap (·.warnings)).map (·.message)) formatting := by
  have compiled := reportsAs_compile c table given past
  refine ⟨_, Channel.passAll { installed := c.installed } _ _, ?_, arePassed_passAll c _ past,
    arePassed_passAll { installed := c.installed } _ _⟩
  rw [run, StateT.run_bind, compiled, pure_bind, formatted]
  cases (Pattern.compile table given).result with
  | error fault =>
    exact leaves_pure (c := { installed := c.installed }) (Except.error fault, []) _
  | ok chain =>
    have lines := leaves_bind_pure
      (k := fun lines => pure ((.ok chain : Except Fault Chain), lines))
      (leaves_formatAll c.installed s entries (.ofChain chain)) rfl
    exact lines _

/-- A handler that is given takes the warning of compiling, though the installed one is broken. -/
example :
    let broken : Receiver := ⟨"broken", fun _ _ => some "down"⟩
    let sound : Receiver := ⟨"sound", fun _ _ => none⟩
    ((run ⟨broken, sound⟩ defaultWords (.str "%q%m") default []).run []).2 =
      [.received "sound" "Invalid keyword '%q' in conversion pattern. Ignoring keyword."] := by
  decide +kernel

end Pattern.Reporting

end LogLayout
