import LogLayout.Delivery.Builder
import LogLayout.Proofs.Delivery.Interleaving
import LogLayout.Proofs.Disk.SameBytes
import Mathlib.Data.List.ReduceOption

/-!
# What the calls of a builder change

A builder is told what to do in any order, and may build any number of loggers on the way. Its steps
change the configuration, which is checked when it is made and not again after that. Building only
adds to the store.

Results:
1. `isEnlarged_build`: building adds notices, layouts and writers, and leaves the configurations.
2. `config_performAll`: the configuration is what the steps make of it, one after the other;
   `change_last`: of each setting the last value that was given counts.
3. `built_config_valid_iff`: when the configuration of a built logger keeps the rules.
-/

namespace LogLayout.Delivery

/-! ## Definitions -/

/-- A call of a builder by the one who has it. -/
inductive Builder.Act
  | step (a : Builder.Step)
  | build

/-- The step that a call makes. -/
def Builder.Act.step? : Builder.Act → Option Builder.Step
  | step a => some a
  | build => none

/-- The steps among calls. -/
def Builder.stepsOf (acts : List Builder.Act) : List Builder.Step :=
  acts.filterMap Builder.Act.step?

/-- The builder and the store after a call. Building leaves the builder as it is. -/
def Builder.perform (b : Builder) (s : Store) : Builder.Act → Builder × Store
  | .step a => b.step s a
  | .build => (b, (b.build s).1)

/-- The builder and the store after calls, one after the other. -/
def Builder.performAll (b : Builder) (s : Store) : List Builder.Act → Builder × Store
  | [] => (b, s)
  | act :: acts => (b.perform s act).1.performAll (b.perform s act).2 acts

/-- Builds a logger after calls. -/
def Builder.buildAfter (b : Builder) (s : Store) (acts : List Builder.Act) :
    Store × Except Fault Logger :=
  (b.performAll s acts).1.build (b.performAll s acts).2

/-- The configuration after steps. -/
def Builder.changeAll (steps : List Builder.Step) (c : Config) : Config :=
  steps.foldl (fun c a => a.change c) c

/-- The last value that steps give for a setting, or else the one that it has. -/
def Builder.lastGiven {α : Type} (given? : Builder.Step → Option α) (steps : List Builder.Step)
    (value : α) : α :=
  (steps.filterMap given?).getLastD value

/-- The queue size that a step gives. -/
def Builder.Step.queueSize? : Builder.Step → Option Setting.Quantity
  | queueSize n => some (.number n)
  | _ => none

/-- The batch size that a step gives. -/
def Builder.Step.batchSize? : Builder.Step → Option Setting.Quantity
  | batchSize n => some (.number n)
  | _ => none

/-- What is given as a pattern is a text. -/
def Builder.Step.IsDeclared : Builder.Step → Prop
  | pattern given _ => Config.isText given = true
  | _ => True

/-- `s'` is `s` with more notices, layouts and writers. Files may have been made, but they are
empty. -/
structure IsEnlarged (s s' : Store) : Prop where
  surroundings : s'.surroundings = s.surroundings
  installed : s'.installed = s.installed
  notices : s.notices <+: s'.notices
  calls : s'.calls = s.calls
  bytes : s.disk.SameBytes s'.disk
  configs : s'.configs = s.configs
  layouts : s.layouts <+: s'.layouts
  writers : s.writers <+: s'.writers

/-! ## 1. Building -/

theorem IsEnlarged.refl (s : Store) : IsEnlarged s s :=
  ⟨rfl, rfl, List.prefix_rfl, rfl, .refl _, rfl, List.prefix_rfl, List.prefix_rfl⟩

theorem IsEnlarged.trans {s s' s'' : Store} (first : IsEnlarged s s') (second : IsEnlarged s' s'') :
    IsEnlarged s s'' where
  surroundings := second.surroundings.trans first.surroundings
  installed := second.installed.trans first.installed
  notices := first.notices.trans second.notices
  calls := second.calls.trans first.calls
  bytes := first.bytes.trans second.bytes
  configs := second.configs.trans first.configs
  layouts := first.layouts.trans second.layouts
  writers := first.writers.trans second.writers

theorem IsEnlarged.config {s s' : Store} (enlarged : IsEnlarged s s') (id : ConfigId) :
    s'.config id = s.config id := by
  rw [Store.config, Store.config, enlarged.configs]

theorem isEnlarged_warnAll (s : Store) (ws : List Warning) : IsEnlarged s (s.warnAll ws) := by
  induction ws generalizing s with
  | nil => exact .refl s
  | cons w ws ih =>
    have first : IsEnlarged s (s.warn w) :=
      { IsEnlarged.refl s with notices := List.prefix_append _ _ }
    exact first.trans (ih (s.warn w))

theorem isEnlarged_addWriter (s : Store) (w : Writer) : IsEnlarged s (s.addWriter w).1 :=
  { IsEnlarged.refl s with writers := List.prefix_append _ _ }

theorem isEnlarged_compile (s : Store) (table : Pattern.WordTable) (given : Value) :
    IsEnlarged s (s.compile table given).1 := by
  have warned := isEnlarged_warnAll s (Pattern.Formatter.ofValue table given).warnings
  rw [Store.compile]
  split
  · exact warned
  · exact warned.trans { IsEnlarged.refl _ with layouts := List.prefix_append _ _ }

theorem isEnlarged_start (s : Store) (config : ConfigId) :
    IsEnlarged s (Logger.start s config).1 := by
  rw [Logger.start]
  split
  · exact { IsEnlarged.refl s with }
  · exact .refl s

theorem isEnlarged_addConsole (b : Builder) (s : Store) (layout : LayoutId) (l : Logger) :
    IsEnlarged s (b.addConsole s layout l).1 := by
  rw [Builder.addConsole]
  split
  · exact isEnlarged_addWriter s _
  · exact .refl s

/-- A file that is opened to write at its end. -/
theorem isEnlarged_openFile (s : Store) (p : FilePath) (encoding : String)
    (layout : Option LayoutId) : IsEnlarged s (s.openFile p "a" encoding layout).1 := by
  have append : ∀ m, Mode.ofText "a" = .ok m → m.access = .append := by
    intro m read
    cases read
    rfl
  have kept := Disk.sameBytes_openFile s.disk p append encoding
  rw [Store.openFile]
  split
  · next opened =>
    rw [opened] at kept
    exact { IsEnlarged.refl s with bytes := kept }
  · next disk file opened =>
    rw [opened] at kept
    have moved : IsEnlarged s { s with disk } := { IsEnlarged.refl s with bytes := kept }
    exact moved.trans (isEnlarged_addWriter _ _)

theorem isEnlarged_addFile (b : Builder) (s : Store) (layout : LayoutId) (l : Logger) :
    IsEnlarged s (b.addFile s layout l).1 := by
  rw [Builder.addFile]
  split
  · exact .refl s
  · next p _ =>
    have opened := isEnlarged_openFile s p "utf-8" (some layout)
    split <;> next ended => rwa [ended] at opened

/-- Building adds to the store and changes nothing that was there, also if it fails. -/
theorem isEnlarged_build (b : Builder) (s : Store) : IsEnlarged s (b.build s).1 := by
  have compiled := isEnlarged_compile s b.words (s.config b.config).pattern
  rw [Builder.build]
  split
  · next ended => rwa [ended] at compiled
  · next s₁ layout ended =>
    rw [ended] at compiled
    have started := compiled.trans (isEnlarged_start s₁ b.config)
    have shown := started.trans (isEnlarged_addConsole b _ layout (Logger.start s₁ b.config).2)
    have filed := shown.trans (isEnlarged_addFile b _ layout
      (b.addConsole (Logger.start s₁ b.config).1 layout (Logger.start s₁ b.config).2).2)
    dsimp only
    split <;> next ended => rwa [ended] at filed

/-! ## 2. The configuration -/

theorem Builder.step_config (b : Builder) (s : Store) (a : Builder.Step) :
    (b.step s a).1.config = b.config := by
  cases a <;> rfl

theorem config_changeConfig {s : Store} {id : ConfigId} (kept : id < s.configs.length)
    (change : Config → Config) : (s.changeConfig id change).config id = change (s.config id) := by
  simp [Store.changeConfig, Store.config, List.getD_eq_getElem?_getD, kept]

/-- A call makes at most its step of the configuration, which the builder keeps. -/
theorem config_perform {b : Builder} {s : Store} (kept : b.config < s.configs.length)
    (act : Builder.Act) :
    (b.perform s act).1.config = b.config ∧
      b.config < (b.perform s act).2.configs.length ∧
      (b.perform s act).2.config b.config =
        Builder.changeAll act.step?.toList (s.config b.config) := by
  cases act with
  | step a =>
    refine ⟨b.step_config s a, ?_, config_changeConfig kept a.change⟩
    show b.config < (s.configs.modify b.config a.change).length
    rwa [List.length_modify]
  | build =>
    have enlarged := isEnlarged_build b s
    refine ⟨rfl, ?_, enlarged.config b.config⟩
    show b.config < (b.build s).1.configs.length
    rwa [enlarged.configs]

theorem stepsOf_cons (act : Builder.Act) (acts : List Builder.Act) :
    Builder.stepsOf (act :: acts) = act.step?.toList ++ Builder.stepsOf acts := by
  cases act <;> rfl

theorem changeAll_append (steps more : List Builder.Step) (c : Config) :
    Builder.changeAll (steps ++ more) c =
      Builder.changeAll more (Builder.changeAll steps c) := List.foldl_append

theorem config_performAll {b : Builder} {s : Store} (kept : b.config < s.configs.length)
    (acts : List Builder.Act) :
    (b.performAll s acts).1.config = b.config ∧
      (b.performAll s acts).2.config b.config =
        Builder.changeAll (Builder.stepsOf acts) (s.config b.config) := by
  induction acts generalizing b s with
  | nil => exact ⟨rfl, rfl⟩
  | cons act acts ih =>
    obtain ⟨same, kept', changed⟩ := config_perform kept act
    rw [← same] at kept'
    obtain ⟨same', changed'⟩ := ih kept'
    rw [same] at same' changed'
    refine ⟨same', ?_⟩
    rw [Builder.performAll, changed', changed, stepsOf_cons, changeAll_append]

/-- If each step gives a setting a value or leaves it, the last value that was given counts. -/
theorem change_last {α : Type} (setting : Config → α) (given? : Builder.Step → Option α)
    (each : ∀ a c, setting (a.change c) = (given? a).getD (setting c))
    (steps : List Builder.Step) (c : Config) :
    setting (Builder.changeAll steps c) = Builder.lastGiven given? steps (setting c) := by
  induction steps generalizing c with
  | nil => rfl
  | cons a steps ih =>
    have rest : setting (Builder.changeAll (a :: steps) c) =
        Builder.lastGiven given? steps (setting (a.change c)) := ih (a.change c)
    rw [rest, each]
    cases given : given? a with
    | none => simp [Builder.lastGiven, given]
    | some value =>
      rw [Builder.lastGiven, Builder.lastGiven, List.filterMap_cons_some given, List.getLastD_cons]
      rfl

/-! ## 3. Built loggers -/

theorem addFilters_eq_ok {l l' : Logger} {filters : List (Option Filter)}
    (added : Builder.addFilters l filters = .ok l') :
    l' = { l with filters := l.filters ++ filters.reduceOption } := by
  induction filters generalizing l with
  | nil =>
    cases added
    rw [List.reduceOption_nil, List.append_nil]
  | cons f filters ih =>
    cases f with
    | none => cases added
    | some f =>
      rw [ih added, List.reduceOption_cons_of_some, List.append_assoc]
      rfl

/-- The parts of building, if it comes to a logger. -/
theorem build_eq_ok {b : Builder} {s s' : Store} {l : Logger} (built : b.build s = (s', .ok l)) :
    ∃ s₁ layout filed, s.compile b.words (s.config b.config).pattern = (s₁, .ok layout) ∧
      b.addFile (b.addConsole (Logger.start s₁ b.config).1 layout (Logger.start s₁ b.config).2).1
        layout (b.addConsole (Logger.start s₁ b.config).1 layout (Logger.start s₁ b.config).2).2 =
          (s', .ok filed) ∧
      l = { filed with
        writers := filed.writers ++ b.writers
        filters := filed.filters ++ b.filters.reduceOption } := by
  rw [Builder.build] at built
  split at built
  · cases built
  · next s₁ layout compiled =>
    dsimp only at built
    split at built
    · cases built
    · next s₂ filed ended =>
      rw [Prod.mk.injEq, foldl_addWriter] at built
      obtain ⟨rfl, added⟩ := built
      exact ⟨s₁, layout, filed, compiled, ended, addFilters_eq_ok added⟩

theorem start_config (s : Store) (config : ConfigId) : (Logger.start s config).2.config = config := by
  rw [Logger.start]
  split <;> rfl

theorem addConsole_config (b : Builder) (s : Store) (layout : LayoutId) (l : Logger) :
    (b.addConsole s layout l).2.config = l.config := by
  rw [Builder.addConsole]
  split <;> rfl

theorem addFile_config {b : Builder} {s s' : Store} {layout : LayoutId} {l l' : Logger}
    (added : b.addFile s layout l = (s', .ok l')) : l'.config = l.config := by
  rw [Builder.addFile] at added
  split at added
  · cases added
    rfl
  · split at added
    · cases added
    · cases added
      rfl

/-- A built logger has the configuration of its builder. -/
theorem build_config {b : Builder} {s s' : Store} {l : Logger}
    (built : b.build s = (s', .ok l)) : l.config = b.config := by
  obtain ⟨s₁, layout, filed, -, ended, rfl⟩ := build_eq_ok built
  rw [addFile_config ended, addConsole_config, start_config]

theorem flushInterval_changeAll (steps : List Builder.Step) (c : Config) :
    (Builder.changeAll steps c).flushInterval = c.flushInterval := by
  induction steps generalizing c with
  | nil => rfl
  | cons a steps ih =>
    have rest : (Builder.changeAll (a :: steps) c).flushInterval = (a.change c).flushInterval :=
      ih (a.change c)
    rw [rest]
    cases a <;> rfl

theorem isText_changeAll {steps : List Builder.Step} (declared : ∀ a ∈ steps, a.IsDeclared)
    {c : Config} (text : Config.isText c.pattern = true) :
    Config.isText (Builder.changeAll steps c).pattern = true := by
  induction steps generalizing c with
  | nil => exact text
  | cons a steps ih =>
    refine ih (fun a' member => declared a' (by simp [member])) ?_
    cases a with
    | pattern given words => exact declared (.pattern given words) (by simp)
    | _ => exact text

/-- The configuration of a logger that is built after any calls has the queue size and the batch
size that were given last, and keeps the rules exactly when these two do: nothing checks them when
they are given or when the logger is built. -/
theorem built_config_valid_iff {b : Builder} {s s' : Store} {acts : List Builder.Act} {l : Logger}
    (kept : b.config < s.configs.length) (valid : (s.config b.config).IsValid)
    (declared : ∀ a ∈ Builder.stepsOf acts, a.IsDeclared)
    (built : b.buildAfter s acts = (s', .ok l)) :
    (s'.config l.config).queueSize =
        Builder.lastGiven Builder.Step.queueSize? (Builder.stepsOf acts) (s.config b.config).queueSize ∧
      (s'.config l.config).batchSize =
        Builder.lastGiven Builder.Step.batchSize? (Builder.stepsOf acts) (s.config b.config).batchSize ∧
      (s'.config l.config).flushInterval = (s.config b.config).flushInterval ∧
      ((s'.config l.config).IsValid ↔
        0 < (s'.config l.config).queueSize.toInt ∧ 0 < (s'.config l.config).batchSize.toInt ∧
          (s'.config l.config).batchSize.toInt ≤ (s'.config l.config).queueSize.toInt) := by
  obtain ⟨same, changed⟩ := config_performAll kept acts
  have held : s'.config l.config =
      Builder.changeAll (Builder.stepsOf acts) (s.config b.config) := by
    have enlarged := isEnlarged_build (b.performAll s acts).1 (b.performAll s acts).2
    rw [← Builder.buildAfter, built] at enlarged
    rw [build_config built, enlarged.config, same, changed]
  have interval := flushInterval_changeAll (Builder.stepsOf acts) (s.config b.config)
  -- All is now about the steps; the rules that no step can break hold since they did before.
  rw [held]
  refine ⟨change_last Config.queueSize Builder.Step.queueSize? (fun a c => by cases a <;> rfl) _ _,
    change_last Config.batchSize Builder.Step.batchSize? (fun a c => by cases a <;> rfl) _ _,
    interval, ?_⟩
  rw [Config.IsValid, interval]
  have text := isText_changeAll declared valid.2.2.2.2
  exact ⟨fun rules => ⟨rules.1, rules.2.1, rules.2.2.1⟩,
    fun ⟨queue, batch, fits⟩ => ⟨queue, batch, fits, valid.2.2.2.1, text⟩⟩

/-- A store with the default configuration only. -/
def plainStore : Store where
  surroundings := default
  configs := [{}]

/-- A builder of the default configuration. -/
def plainBuilder : Builder where
  config := 0

theorem isValid_plainStore : (plainStore.config 0).IsValid := by
  rw [Config.IsValid]
  decide

/-- Calls between which the batch does not fit into the queue. -/
def exActs : List Builder.Act :=
  [.step (.pattern (.str "") []), .step (.queueSize 50), .build, .step (.batchSize 20)]

theorem built_config_valid_exActs :
    (plainStore.config plainBuilder.config).IsValid ∧
      (∀ a ∈ Builder.stepsOf exActs, a.IsDeclared) ∧
      ∃ s' l, plainBuilder.buildAfter plainStore exActs = (s', .ok l) ∧
        (s'.config l.config).queueSize = .number 50 ∧
        (s'.config l.config).batchSize = .number 20 ∧ (s'.config l.config).IsValid := by
  have declared : ∀ a ∈ Builder.stepsOf exActs, a.IsDeclared := by
    simp [exActs, Builder.stepsOf, Builder.Act.step?, Builder.Step.IsDeclared, Config.isText]
  obtain ⟨s', l, built⟩ : ∃ s' l, plainBuilder.buildAfter plainStore exActs = (s', .ok l) :=
    ⟨_, _, rfl⟩
  obtain ⟨queue, batch, -, keepsRules⟩ :=
    built_config_valid_iff (by decide) isValid_plainStore declared built
  refine ⟨isValid_plainStore, declared, s', l, built, queue, batch, keepsRules.2 ?_⟩
  rw [queue, batch]
  decide

/-- Of the default configuration a logger is built whose queue has no size. -/
theorem built_config_without_queueSize :
    (plainStore.config plainBuilder.config).IsValid ∧
      ∃ s' l, plainBuilder.buildAfter plainStore
          [.step (.pattern (.str "") []), .step (.queueSize 0)] = (s', .ok l) ∧
        (s'.config l.config).queueSize = .number 0 ∧ ¬ (s'.config l.config).IsValid := by
  refine ⟨isValid_plainStore, _, _, rfl, rfl, fun rules => ?_⟩
  exact absurd rules.1 (by decide)

end LogLayout.Delivery
