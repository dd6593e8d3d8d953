import LogLayout.Proofs.Delivery.FailedBuild
import LogLayout.Proofs.Delivery.LaterCalls
import LogLayout.Proofs.Delivery.OtherConfigs
import Mathlib.Data.List.Induction

/-!
# The order of a builder's steps

Each step of a builder sets what belongs to it and leaves everything else. So of the steps of a kind
only the last one counts, and their order among those of other kinds does not matter. Filters and
writers are added and not replaced: of them all count, in their order.

Results:
1. `foldl_last`, `foldl_filter`: what is set by one kind of step after any steps.
2. `changeAll_agree`, `applyAll_agree`: steps that agree make the same configuration and builder.
3. `buildAfter_agree`: and the same logger, or they fail with the same fault.
4. `build_wired`, `runs_offers`: in which order a built logger has its writers, and that it offers
   entries in this order.
5. `built_in_any_order`: all of this for two builders with equal configurations.
-/

namespace LogLayout.Delivery

/-! ## Definitions -/

/-- The kinds of steps of a builder. -/
inductive Builder.Setter
  | name
  | level
  | async
  | console
  | file
  | queueSize
  | batchSize
  | pattern
  | location
  | filter
  | writer
  deriving DecidableEq

/-- The kind of a step. -/
def Builder.Step.setter : Builder.Step → Builder.Setter
  | name _ => .name
  | level _ => .level
  | async _ => .async
  | console _ => .console
  | file _ => .file
  | queueSize _ => .queueSize
  | batchSize _ => .batchSize
  | pattern _ _ => .pattern
  | location _ => .location
  | filter _ => .filter
  | writer _ => .writer

/-- The steps of a kind. -/
def Builder.ofKind (k : Builder.Setter) (steps : List Builder.Step) : List Builder.Step :=
  steps.filter (·.setter = k)

/-- Both lists of steps have the same last step of each kind, if they have one, and the same steps
that add filters and writers, in the same order. -/
structure Builder.Agree (xs ys : List Builder.Step) : Prop where
  last : ∀ k, (Builder.ofKind k xs).getLast? = (Builder.ofKind k ys).getLast?
  filters : Builder.ofKind .filter xs = Builder.ofKind .filter ys
  writers : Builder.ofKind .writer xs = Builder.ofKind .writer ys

/-- The builder after steps. -/
def Builder.applyAll (b : Builder) (steps : List Builder.Step) : Builder :=
  steps.foldl (fun b a => a.apply b) b

/-- The builders have equal configurations, which may be kept in different stores and under
different numbers, and there is no other difference between them and the stores. -/
structure Builder.IsTwin (b : Builder) (s : Store) (b' : Builder) (s' : Store) : Prop where
  builder : b' = { b with config := b'.config }
  store : s' = s.withConfigs s'.configs
  config : s'.config b'.config = s.config b.config
  kept : b.config < s.configs.length
  kept' : b'.config < s'.configs.length

/-- The logger has the new writers first, the terminal before the file, each of them exactly if the
builder has it, and then those that were given. -/
def Builder.IsWired (b : Builder) (s s' : Store) (l : Logger) : Prop :=
  ∃ layout opened, IsOpened s.disk s'.disk layout (s.config b.config).logFile opened ∧
    s'.writers = s.writers ++ (b.consoleWriters s layout ++ opened) ∧
    l.writers =
      List.range' s.writers.length (b.consoleWriters s layout ++ opened).length ++ b.writers

/-- The later store has the calls of the earlier one and then offers of entries to these writers,
each entry to all of them in order. -/
def OffersInOrder (ids : List WriterId) (s s' : Store) : Prop :=
  ∃ es, offers s'.calls = offers s.calls ++ fanOut ids es

/-! ## 1. What one kind of step sets -/

section
variable {σ α : Type} {act : σ → Builder.Step → σ} {setting : σ → α} {k : Builder.Setter}
  (kept : ∀ a x, a.setter ≠ k → setting (act x a) = setting x)
include kept

/-- If a step of the kind sets the setting whatever it was before, the last one decides. -/
theorem foldl_eq_last (set : ∀ a x y, a.setter = k → setting (act x a) = setting (act y a))
    (steps : List Builder.Step) (x : σ) :
    setting (steps.foldl act x) =
      ((Builder.ofKind k steps).getLast?.elim (setting x) fun a => setting (act x a)) := by
  induction steps using List.reverseRecOn with
  | nil => rfl
  | append_singleton steps a ih =>
    rw [List.foldl_append, List.foldl_cons, List.foldl_nil, Builder.ofKind, List.filter_append]
    by_cases ofKind : a.setter = k
    · simp [ofKind, set a _ x ofKind]
    · simp [ofKind, kept a _ ofKind, ih, Builder.ofKind]

theorem foldl_last (set : ∀ a x y, a.setter = k → setting (act x a) = setting (act y a))
    {xs ys : List Builder.Step}
    (last : (Builder.ofKind k xs).getLast? = (Builder.ofKind k ys).getLast?) (x : σ) :
    setting (xs.foldl act x) = setting (ys.foldl act x) := by
  rw [foldl_eq_last kept set, foldl_eq_last kept set, last]

/-- If what a step of the kind makes of the setting depends on the setting only, then the steps of
this kind decide. -/
theorem foldl_ofKind
    (set : ∀ a x y, a.setter = k → setting x = setting y → setting (act x a) = setting (act y a))
    (steps : List Builder.Step) :
    ∀ {x y}, setting x = setting y →
      setting (steps.foldl act x) = setting ((Builder.ofKind k steps).foldl act y) := by
  induction steps with
  | nil => exact fun same => same
  | cons a steps ih =>
    intro x y same
    rw [List.foldl_cons, Builder.ofKind]
    by_cases ofKind : a.setter = k
    · rw [List.filter_cons_of_pos (by simpa using ofKind), List.foldl_cons]
      exact ih (set a x y ofKind same)
    · rw [List.filter_cons_of_neg (by simpa using ofKind)]
      exact ih ((kept a x ofKind).trans same)

theorem foldl_filter
    (set : ∀ a x y, a.setter = k → setting x = setting y → setting (act x a) = setting (act y a))
    {xs ys : List Builder.Step} (same : Builder.ofKind k xs = Builder.ofKind k ys) (x : σ) :
    setting (xs.foldl act x) = setting (ys.foldl act x) := by
  rw [foldl_ofKind kept set xs rfl, foldl_ofKind kept set ys rfl, same]

end

/-! ## 2. Configuration and builder -/

attribute [local ext] Config Builder

section
variable {xs ys : List Builder.Step} (agree : Builder.Agree xs ys)
include agree

theorem changeAll_agree (c : Config) : Builder.changeAll xs c = Builder.changeAll ys c := by
  have replaced {α : Type} (setting : Config → α) (k : Builder.Setter)
      (kept : ∀ (a : Builder.Step) c, a.setter ≠ k → setting (a.change c) = setting c)
      (set : ∀ (a : Builder.Step) c c', a.setter = k →
        setting (a.change c) = setting (a.change c')) :
      setting (Builder.changeAll xs c) = setting (Builder.changeAll ys c) :=
    foldl_last kept set (agree.last k) c
  have untouched {α : Type} (setting : Config → α)
      (kept : ∀ (a : Builder.Step) c, setting (a.change c) = setting c) :
      setting (Builder.changeAll xs c) = setting (Builder.changeAll ys c) :=
    foldl_filter (fun a c _ => kept a c) (fun a c c' _ same => by rw [kept, kept, same])
      agree.filters c
  refine Config.ext (replaced _ .name ?_ ?_) (replaced _ .level ?_ ?_) (replaced _ .async ?_ ?_)
    (replaced _ .queueSize ?_ ?_) (replaced _ .batchSize ?_ ?_) (untouched _ ?_) (untouched _ ?_)
    (replaced _ .console ?_ ?_) (replaced _ .file ?_ ?_) (replaced _ .pattern ?_ ?_)
    (replaced _ .location ?_ ?_)
  all_goals
    intro a
    cases a <;> simp [Builder.Step.setter, Builder.Step.change]

theorem applyAll_agree (b : Builder) : b.applyAll xs = b.applyAll ys := by
  have replaced {α : Type} (setting : Builder → α) (k : Builder.Setter)
      (kept : ∀ (a : Builder.Step) b, a.setter ≠ k → setting (a.apply b) = setting b)
      (set : ∀ (a : Builder.Step) b b', a.setter = k →
        setting (a.apply b) = setting (a.apply b')) :
      setting (b.applyAll xs) = setting (b.applyAll ys) :=
    foldl_last kept set (agree.last k) b
  have gathered {α : Type} (setting : Builder → α) (k : Builder.Setter)
      (all : Builder.ofKind k xs = Builder.ofKind k ys)
      (kept : ∀ (a : Builder.Step) b, a.setter ≠ k → setting (a.apply b) = setting b)
      (set : ∀ (a : Builder.Step) b b', a.setter = k → setting b = setting b' →
        setting (a.apply b) = setting (a.apply b')) :
      setting (b.applyAll xs) = setting (b.applyAll ys) :=
    foldl_filter kept set all b
  refine Builder.ext (gathered _ .writer agree.writers ?_ ?_) (replaced _ .console ?_ ?_)
    (replaced _ .pattern ?_ ?_) (gathered _ .writer agree.writers ?_ ?_)
    (gathered _ .filter agree.filters ?_ ?_)
  all_goals
    intro a
    cases a <;> simp +contextual [Builder.Step.setter, Builder.Step.apply]

end

/-! ## 3. Building -/

/-- The acts of making steps. -/
theorem stepsOf_map_step (steps : List Builder.Step) :
    Builder.stepsOf (steps.map .step) = steps := by
  induction steps with
  | nil => rfl
  | cons a steps ih => exact congrArg (a :: ·) ih

/-- Steps change the builder and the configurations. -/
theorem performAll_step (b : Builder) (s : Store) (steps : List Builder.Step) :
    ∃ configs, b.performAll s (steps.map .step) = (b.applyAll steps, s.withConfigs configs) := by
  induction steps generalizing b s with
  | nil => exact ⟨s.configs, rfl⟩
  | cons a steps ih =>
    obtain ⟨configs, rest⟩ := ih (a.apply b) (s.changeConfig b.config a.change)
    exact ⟨configs, rest⟩

theorem config_applyAll (b : Builder) (steps : List Builder.Step) :
    (b.applyAll steps).config = b.config := by
  induction steps generalizing b with
  | nil => rfl
  | cons a steps ih =>
    have first : (a.apply b).config = b.config := by cases a <;> rfl
    exact (ih (a.apply b)).trans first

/-- Where the configuration is kept makes no difference to the rest of the builder. -/
theorem applyAll_moved (b : Builder) (config : ConfigId) (steps : List Builder.Step) :
    Builder.applyAll { b with config } steps = { b.applyAll steps with config } := by
  induction steps generalizing b with
  | nil => rfl
  | cons a steps ih =>
    have first : a.apply { b with config } = { a.apply b with config } := by cases a <;> rfl
    show Builder.applyAll (a.apply { b with config }) steps = _
    rw [first]
    exact ih (a.apply b)

/-- After steps that agree, builders with equal configurations build the same. -/
theorem buildAfter_agree {b b' : Builder} {s s' : Store} {xs ys : List Builder.Step}
    (twins : b.IsTwin s b' s') (agree : Builder.Agree xs ys) :
    ∃ configs, configs.getD b'.config {} =
        (b.performAll s (xs.map .step)).2.config b.config ∧
      b'.buildAfter s' (ys.map .step) =
        elsewhere configs ((b.buildAfter s (xs.map .step)).1,
          (b.buildAfter s (xs.map .step)).2.map (·.moved b'.config)) := by
  obtain ⟨configs, first⟩ := performAll_step b s xs
  obtain ⟨configs', second⟩ := performAll_step b' s' ys
  obtain ⟨-, changed⟩ := config_performAll twins.kept (xs.map .step)
  obtain ⟨-, changed'⟩ := config_performAll twins.kept' (ys.map .step)
  rw [stepsOf_map_step, first] at changed
  rw [stepsOf_map_step, second, twins.config, ← changeAll_agree agree, ← changed] at changed'
  refine ⟨configs', by rw [first]; exact changed', ?_⟩
  have builder : b'.applyAll ys = { b.applyAll xs with config := b'.config } := by
    rw [twins.builder, applyAll_moved, applyAll_agree agree]
  have store : s'.withConfigs configs' = (s.withConfigs configs).withConfigs configs' := by
    rw [twins.store]
    rfl
  rw [Builder.buildAfter, Builder.buildAfter, first, second, builder, store]
  refine build_moved ?_
  rw [config_applyAll]
  exact changed'

/-! ## 4. Writers in order -/

theorem addConsole_writers (b : Builder) (s : Store) (layout : LayoutId) (l : Logger) :
    (b.addConsole s layout l).2.writers =
      l.writers ++ List.range' s.writers.length (b.consoleWriters s layout).length := by
  rw [Builder.addConsole, Builder.consoleWriters]
  split
  · rfl
  · exact (List.append_nil _).symm

/-- A built logger has the writer of the terminal, then that of the file, then those given. -/
theorem build_wired {b : Builder} {s s' : Store} {l : Logger} (built : b.build s = (s', .ok l)) :
    b.IsWired s s' l := by
  obtain ⟨s₁, layout, filed, compiled, added, rfl⟩ := build_eq_ok built
  obtain ⟨notices, layouts, same⟩ := compile_eq s b.words (s.config b.config).pattern
  rw [compiled] at same
  dsimp only at same
  have plain : (Logger.start s₁ b.config).2.writers = [] := by
    rw [Logger.start]
    split <;> rfl
  have shown : (b.addConsole (Logger.start s₁ b.config).1 layout
      (Logger.start s₁ b.config).2).1 =
        { s with
          notices
          layouts
          workers := s.workers + b.startedWorkers s
          writers := s.writers ++ b.consoleWriters s layout } := by
    rw [addConsole_eq, start_eq, same]
    rfl
  have numbered : (b.addConsole (Logger.start s₁ b.config).1 layout
      (Logger.start s₁ b.config).2).2.writers =
        List.range' s.writers.length (b.consoleWriters s layout).length := by
    rw [addConsole_writers, plain, start_eq, same, List.nil_append]
    rfl
  rcases addFile_cases added with ⟨p, fault, failed, -⟩ | ⟨l₁, opened, done, isOpened, kept, more⟩
  · cases failed
  · cases done
    rw [shown] at isOpened kept more
    rw [numbered, List.length_append, List.range'_append_1, ← List.length_append] at more
    refine ⟨layout, opened, isOpened, ?_, congrArg (· ++ b.writers) more⟩
    rw [kept, ← List.append_assoc]

theorem offersInOrder_refl (ids : List WriterId) (s : Store) : OffersInOrder ids s s :=
  ⟨[], (List.append_nil _).symm⟩

theorem OffersInOrder.trans {ids : List WriterId} {s s' s'' : Store}
    (first : OffersInOrder ids s s') (second : OffersInOrder ids s' s'') :
    OffersInOrder ids s s'' := by
  obtain ⟨es, before⟩ := first
  obtain ⟨more, after⟩ := second
  exact ⟨es ++ more, by rw [after, before, fanOut_append, List.append_assoc]⟩

theorem offersInOrder_of_isAfter {ids : List WriterId} {s s' : Store} {calls : List Call}
    {notices : List Notice} (after : IsAfter s calls notices s') (quiet : offers calls = []) :
    OffersInOrder ids s s' := by
  refine ⟨[], ?_⟩
  rw [after.calls, offers_append, quiet]
  rfl

theorem offersInOrder_deliverAll {ids : List WriterId} {s : Store}
    (stored : ∀ id ∈ ids, id < s.kinds.length) (es : List Entry) :
    OffersInOrder ids s (s.deliverAll es ids) := by
  obtain ⟨calls, notices, after, offered⟩ := isAfter_deliverAll stored es
  exact ⟨es, by rw [after.calls, offers_append, offers_of_map offered]⟩

theorem offersInOrder_handOver {l : Logger} {s : Store}
    (stored : ∀ id ∈ l.writers, id < s.kinds.length) (e : Entry) :
    OffersInOrder l.writers s (l.handOver s e).2.1 := by
  unfold Logger.handOver
  split
  · split
    · exact offersInOrder_refl _ s
    · split <;> exact offersInOrder_refl _ s
  · exact offersInOrder_deliverAll stored [e]

/-- One move offers no entry to one writer only. -/
theorem step_offers {x y : Run} {m : Move}
    (stored : ∀ id ∈ x.logger.writers, id < x.store.kinds.length) (step : Step x m y) :
    OffersInOrder x.logger.writers x.store y.store := by
  cases step with
  | log level call =>
    show OffersInOrder _ x.store (x.logger.log x.store level call).2.1
    rcases log_cases x.logger x.store level call with
      ⟨-, -, calls, notices, after, quiet⟩ | ⟨e, s', calls, notices, -, handed, after, quiet⟩
    · exact offersInOrder_of_isAfter after quiet
    · rw [handed]
      rw [← after.kinds] at stored
      exact (offersInOrder_of_isAfter after quiet).trans (offersInOrder_handOver stored e)
  | flush =>
    obtain ⟨calls, after, quiet⟩ := isAfter_untilFault_flush x.store x.logger.writers
    exact offersInOrder_of_isAfter after quiet
  | @write es _ => exact offersInOrder_deliverAll stored es
  | @writeLast es _ => exact offersInOrder_deliverAll stored es
  | addFilter | stop | take | expire | leave | fail => exact offersInOrder_refl _ _

theorem runs_offers {x y : Run} {ms : List Move}
    (stored : ∀ id ∈ x.logger.writers, id < x.store.kinds.length) (runs : Runs x ms y) :
    OffersInOrder x.logger.writers x.store y.store := by
  induction runs with
  | none => exact offersInOrder_refl _ _
  | more step _ ih =>
    obtain ⟨-, kinds, -, writers⟩ := step_stays stored step
    have rest := ih (by rwa [writers, kinds])
    rw [writers] at rest
    exact (step_offers stored step).trans rest

/-! ## 5. Built loggers -/

/-- Two builders with equal configurations get steps that agree: of each kind they make the same
last step, if any, and they add the same filters and the same writers in the same order. Then both
fail to build with the same fault, or the loggers differ only in where the configuration is kept.
Each has the terminal first, then the file and then the added writers, offers its entries in this
order, and whatever is logged, the same entries pass, the same texts are written to the same writers
and the stores stay the same but for the configurations. -/
theorem built_in_any_order {b b' : Builder} {s s' : Store} {xs ys : List Builder.Step}
    (twins : b.IsTwin s b' s') (agree : Builder.Agree xs ys) (usable : b.IsUsable s)
    (given : ∀ a ∈ xs, a.IsGiven s) :
    ∃ configs,
      b'.buildAfter s' (ys.map .step) =
        elsewhere configs ((b.buildAfter s (xs.map .step)).1,
          (b.buildAfter s (xs.map .step)).2.map (·.moved b'.config)) ∧
      ∀ l built, b.buildAfter s (xs.map .step) = (built, .ok l) →
        (b.applyAll xs).IsWired (b.performAll s (xs.map .step)).2 built l ∧
        (∀ ms x, Runs { logger := l, store := built } ms x →
          OffersInOrder l.writers built x.store) ∧
        ∀ ms y,
          Runs { logger := l.moved b'.config, store := built.withConfigs configs } ms y ↔
            ∃ x, Runs { logger := l, store := built } ms x ∧ y = x.moved b'.config configs := by
  obtain ⟨configs, own, same⟩ := buildAfter_agree twins agree
  refine ⟨configs, same, fun l built ended => ⟨?_, ?_, ?_⟩⟩
  · obtain ⟨_, performed⟩ := performAll_step b s xs
    have wired := build_wired ended
    rwa [performed] at wired ⊢
  · intro ms x runs
    have given' : ∀ a ∈ Builder.stepsOf (xs.map .step), a.IsGiven s := by
      rwa [stepsOf_map_step]
    have usable' := isUsable_performAll usable given'
    have beside := isBeside_build usable'.layouts usable'.writers ended
    refine runs_offers ?_ runs
    rw [length_kinds]
    exact beside.stored
  · intro ms y
    have kept : built.config l.config = (b.performAll s (xs.map .step)).2.config b.config := by
      have enlarged := isEnlarged_build (b.performAll s (xs.map .step)).1
        (b.performAll s (xs.map .step)).2
      rw [← Builder.buildAfter, ended] at enlarged
      rw [build_config ended, enlarged.config, (config_performAll twins.kept _).1]
    exact runs_moved_iff (x := { logger := l, store := built }) (own.trans kept.symm)

/-- Steps in which the name is set twice. -/
def draftedSteps : List Builder.Step :=
  [.name "draft", .filter (some ⟨fun _ _ => .ok true⟩), .pattern (.str "") [], .async false,
    .console true, .name "first"]

/-- The same in another order, without the name that does not count. -/
def sortedSteps : List Builder.Step :=
  [.async false, .console true, .name "first", .pattern (.str "") [],
    .filter (some ⟨fun _ _ => .ok true⟩)]

/-- A store in which the default configuration is not the first. -/
def fullerStore : Store := plainStore.withConfigs [{ name := "other" }, {}]

theorem agree_draftedSteps : Builder.Agree draftedSteps sortedSteps where
  last := by
    intro k
    cases k <;> rfl
  filters := rfl
  writers := rfl

theorem isTwin_fullerStore : plainBuilder.IsTwin plainStore { config := 1 } fullerStore where
  builder := rfl
  store := rfl
  config := rfl
  kept := by decide
  kept' := by decide

theorem built_in_any_order_draftedSteps :
    plainBuilder.IsTwin plainStore { config := 1 } fullerStore ∧
      Builder.Agree draftedSteps sortedSteps ∧ plainBuilder.IsUsable plainStore ∧
      (∀ a ∈ draftedSteps, a.IsGiven plainStore) ∧
      ∃ built l configs x,
        plainBuilder.buildAfter plainStore (draftedSteps.map .step) = (built, .ok l) ∧
        Builder.buildAfter { config := 1 } fullerStore (sortedSteps.map .step) =
          (built.withConfigs configs, .ok (l.moved 1)) ∧
        Runs { logger := l, store := built } [.log (.level .info) (exMessage "up").call] x ∧
        x.passed = [((exMessage "up").entry { name := "first" }, false)] ∧
        Runs { logger := l.moved 1, store := built.withConfigs configs }
          [.log (.level .info) (exMessage "up").call] (x.moved 1 configs) := by
  have usable : plainBuilder.IsUsable plainStore :=
    ⟨by decide, fun id member => absurd member List.not_mem_nil,
      fun w member => absurd member List.not_mem_nil⟩
  have given : ∀ a ∈ draftedSteps, a.IsGiven plainStore := by
    simp [draftedSteps, Builder.Step.IsGiven]
  obtain ⟨configs, same, runs⟩ :=
    built_in_any_order isTwin_fullerStore agree_draftedSteps usable given
  obtain ⟨built, l, ended, passed⟩ : ∃ built l,
      plainBuilder.buildAfter plainStore (draftedSteps.map .step) = (built, .ok l) ∧
        (Run.log { logger := l, store := built } (.level .info) (exMessage "up").call).passed =
          [((exMessage "up").entry { name := "first" }, false)] :=
    ⟨_, _, rfl, rfl⟩
  rw [ended] at same
  have moves : Runs { logger := l, store := built } [.log (.level .info) (exMessage "up").call]
      (Run.log { logger := l, store := built } (.level .info) (exMessage "up").call) :=
    .more (.log ..) .none
  obtain ⟨-, -, alike⟩ := runs l built ended
  exact ⟨isTwin_fullerStore, agree_draftedSteps, usable, given, built, l, configs, _, ended, same,
    moves, passed, (alike _ _).2 ⟨_, moves, rfl⟩⟩

end LogLayout.Delivery
