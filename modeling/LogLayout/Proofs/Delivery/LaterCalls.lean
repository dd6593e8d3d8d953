import LogLayout.Proofs.Delivery.Beside
import LogLayout.Proofs.Delivery.Building

/-!
# A logger whose builder goes on

A built logger has writers, filters and a queue of its own, but the configuration is still that of
its builder. So it notices the steps that the builder makes later, if they change a setting that
counts for a logger at work. It notices nothing else: neither the other steps nor the loggers that
are built later.

Results:
1. `step_beside`: a move of the logger comes to the same beside what the builder does.
2. `perform_beside`: a call of the builder that keeps the settings goes unnoticed.
3. `built_logger_notices_settings`: what a whole life of builder and logger comes to.
-/

namespace LogLayout.Delivery

/-! ## Definitions -/

/-- A step leaves these settings of a logger at work as they are. -/
def Builder.Step.Keeps (w : Working) : Builder.Step → Prop
  | name s => s = w.name
  | level l => l = w.minLevel
  | async enabled => enabled = w.asyncMode
  | batchSize n => .number n = w.batchSize
  | location enabled => enabled = w.captureLocation
  | console _ | file _ | queueSize _ | pattern _ _ | filter _ | writer _ => True

/-- What a builder refers to is in the store. -/
structure Builder.IsUsable (b : Builder) (s : Store) : Prop where
  config : b.config < s.configs.length
  writers : ∀ id ∈ b.writers, id < s.writers.length
  layouts : s.KnowsLayouts

/-- A writer that is given in a step is in the store. -/
def Builder.Step.IsGiven (s : Store) : Builder.Step → Prop
  | writer id => id < s.writers.length
  | _ => True

/-- What happens after a logger was built. -/
inductive Event
  /-- Its builder is called. -/
  | call (act : Builder.Act)
  /-- The logger makes a move. -/
  | move (m : Move)

/-- The calls of the builder. -/
def callsOf (events : List Event) : List Builder.Act :=
  events.filterMap fun
    | .call act => some act
    | .move _ => none

/-- The moves of the logger. -/
def movesOf (events : List Event) : List Move :=
  events.filterMap fun
    | .call _ => none
    | .move m => some m

/-- A builder and a logger live on: the builder is called and the logger moves, in any order. -/
inductive Lives : Builder → Run → List Event → Builder → Run → Prop
  | none {b : Builder} {x : Run} : Lives b x [] b x
  | call {b c : Builder} {x y : Run} {act : Builder.Act} {events : List Event} :
      Lives (b.perform x.store act).1 { x with store := (b.perform x.store act).2 } events c y →
      Lives b x (.call act :: events) c y
  | move {b c : Builder} {x y z : Run} {m : Move} {events : List Event} :
      Step x m y → Lives b y events c z → Lives b x (.move m :: events) c z

/-- The writers of the logger are in the store, with their layouts, and so is this one. -/
structure HasParts (s : Store) (l : Logger) (layout : LayoutId) : Prop where
  stored : ∀ id ∈ l.writers, id < s.writers.length
  known : s.KnowsLayouts
  layout : layout < s.layouts.length

/-- The runs differ in their stores only, and a logger with this configuration and these writers
cannot tell the stores apart. -/
structure AreBeside (config : ConfigId) (ids : List WriterId) (x y : Run) : Prop where
  same : y = { x with store := y.store }
  store : IsBeside config ids x.store y.store
  shared : x.logger.config = config
  own : x.logger.writers = ids

/-! ## 1. Moves of the logger -/

theorem length_kinds (s : Store) : s.kinds.length = s.writers.length := List.length_map _

/-- Handing an entry over changes at most queue and counters. -/
theorem handOver_stays {l : Logger} {s : Store} (stored : ∀ id ∈ l.writers, id < s.kinds.length)
    (e : Entry) :
    (l.handOver s e).2.1.configs = s.configs ∧ (l.handOver s e).2.1.kinds = s.kinds ∧
      (l.handOver s e).1.config = l.config ∧ (l.handOver s e).1.writers = l.writers := by
  unfold Logger.handOver
  split
  · split
    · exact ⟨rfl, rfl, rfl, rfl⟩
    · split <;> exact ⟨rfl, rfl, rfl, rfl⟩
  · obtain ⟨calls, notices, after, -⟩ := isAfter_deliverAll stored [e]
    exact ⟨after.configs, after.kinds, rfl, rfl⟩

/-- No move changes configurations, writers or what the logger is made of. -/
theorem step_stays {x y : Run} {m : Move}
    (stored : ∀ id ∈ x.logger.writers, id < x.store.kinds.length) (step : Step x m y) :
    y.store.configs = x.store.configs ∧ y.store.kinds = x.store.kinds ∧
      y.logger.config = x.logger.config ∧ y.logger.writers = x.logger.writers := by
  have writing : ∀ es, (x.store.deliverAll es x.logger.writers).configs = x.store.configs ∧
      (x.store.deliverAll es x.logger.writers).kinds = x.store.kinds := by
    intro es
    obtain ⟨calls, notices, after, -⟩ := isAfter_deliverAll stored es
    exact ⟨after.configs, after.kinds⟩
  cases step with
  | log level call =>
    show (x.logger.log x.store level call).2.1.configs = _ ∧
      (x.logger.log x.store level call).2.1.kinds = _ ∧
        (x.logger.log x.store level call).1.config = _ ∧
          (x.logger.log x.store level call).1.writers = _
    rcases log_cases x.logger x.store level call with
      ⟨-, same, calls, notices, after, -⟩ | ⟨e, s', calls, notices, -, handed, after, -⟩
    · rw [same]
      exact ⟨after.configs, after.kinds, rfl, rfl⟩
    · rw [handed, ← after.configs, ← after.kinds]
      exact handOver_stays (by rwa [after.kinds]) e
  | flush =>
    obtain ⟨calls, after, -⟩ := isAfter_untilFault_flush x.store x.logger.writers
    exact ⟨after.configs, after.kinds, rfl, rfl⟩
  | addFilter | stop | take | expire | leave | fail => exact ⟨rfl, rfl, rfl, rfl⟩
  | @write es _ => exact ⟨(writing es).1, (writing es).2, rfl, rfl⟩
  | @writeLast es _ => exact ⟨(writing es).1, (writing es).2, rfl, rfl⟩

theorem passes?_beside {l : Logger} {s t : Store} (beside : IsBeside l.config l.writers s t)
    (level : Setting.Quantity) (call : Logger.Call) :
    l.passes? t level call = l.passes? s level call := by
  have settings := beside.settings
  simp only [Working.ofConfig, Working.mk.injEq] at settings
  obtain ⟨name, threshold, -, -, -, location⟩ := settings
  cases level with
  | number n => rfl
  | level lv =>
    have same : (Message.mk lv call).entry (t.config l.config) =
        (Message.mk lv call).entry (s.config l.config) := by
      rw [Message.entry, Message.entry, name, location]
    simp only [Logger.passes?, same, threshold, (beside.accepts _ 0 l.filters).2]

/-- The logger can make the same move at the other store, with the same outcome. -/
theorem step_beside {config : ConfigId} {ids : List WriterId} {x y y' : Run} {m : Move}
    (beside : AreBeside config ids x y) (step : Step y m y') :
    ∃ x', Step x m x' ∧ AreBeside config ids x' y' := by
  obtain ⟨same, store, rfl, rfl⟩ := beside
  -- From here on there is one logger at work, once at its own store and once at `t`.
  generalize y.store = t at same store
  subst same
  have interval : Run.interval { x with store := t } = x.interval :=
    congrArg (fun w : Working => w.flushInterval.toInt) store.settings
  cases step with
  | log level call =>
    obtain ⟨logger, after, -⟩ := store.log level call
    have stored : ∀ id ∈ x.logger.writers, id < x.store.kinds.length := by
      rw [length_kinds]
      exact store.stored
    obtain ⟨-, -, shared, own⟩ := step_stays stored (.log level call)
    refine ⟨x.log level call, .log level call, ?_, after, shared, own⟩
    simp only [Run.log, logger, passes?_beside store]
  | addFilter f => exact ⟨_, .addFilter f, rfl, store, rfl, rfl⟩
  | flush => exact ⟨_, .flush, rfl, (store.flushAll (List.Subset.refl _)).1, rfl, rfl⟩
  | stop => exact ⟨_, .stop, rfl, store, rfl, rfl⟩
  | take due waits has able taken =>
    have size : (t.config x.logger.config).batchSize = (x.store.config x.logger.config).batchSize :=
      congrArg Working.batchSize store.settings
    dsimp only at taken
    rw [size] at taken
    rw [interval] at able
    exact ⟨_, .take due waits has able taken, rfl, store, rfl, rfl⟩
  | expire waits has able expired =>
    rw [interval] at able
    exact ⟨_, .expire waits has able expired, rfl, store, rfl, rfl⟩
  | fail waits has cannot =>
    rw [interval] at cannot
    exact ⟨_, .fail waits has cannot, rfl, store, rfl, rfl⟩
  | leave waits has finished => exact ⟨_, .leave waits has finished, rfl, store, rfl, rfl⟩
  | @write es writing => exact ⟨_, .write writing, rfl, store.deliverAll es, rfl, rfl⟩
  | @writeLast es leaving => exact ⟨_, .writeLast leaving, rfl, store.deliverAll es, rfl, rfl⟩

/-! ## 2. Calls of the builder -/

theorem IsBeside.enlarge {config : ConfigId} {ids : List WriterId} {s t t' : Store}
    (beside : IsBeside config ids s t) (enlarged : IsEnlarged t t') : IsBeside config ids s t' where
  surroundings := enlarged.surroundings.trans beside.surroundings
  installed := enlarged.installed.trans beside.installed
  notices := beside.notices.trans enlarged.notices.sublist
  calls := enlarged.calls.trans beside.calls
  bytes := beside.bytes.trans enlarged.bytes
  settings := by rw [enlarged.config, beside.settings]
  layouts := beside.layouts.trans enlarged.layouts
  writers := beside.writers.trans enlarged.writers
  stored := beside.stored
  known := beside.known

theorem Builder.Step.Keeps.change {a : Builder.Step} {c : Config}
    (keeps : a.Keeps (Working.ofConfig c)) :
    Working.ofConfig (a.change c) = Working.ofConfig c := by
  cases a with
  | name _ | level _ | async _ | batchSize _ | location _ =>
    simp only [Builder.Step.Keeps] at keeps
    simp [Builder.Step.change, Working.ofConfig, keeps]
  | console _ | file _ | queueSize _ | pattern _ _ | filter _ | writer _ => rfl

/-- A logger does not notice a call of the builder that keeps its settings. -/
theorem perform_beside {b : Builder} {ids : List WriterId} {s t : Store}
    (beside : IsBeside b.config ids s t) (kept : b.config < t.configs.length) (act : Builder.Act)
    (keeps : ∀ a ∈ act.step?, a.Keeps (Working.ofConfig (s.config b.config))) :
    IsBeside b.config ids s (b.perform t act).2 := by
  cases act with
  | build => exact beside.enlarge (isEnlarged_build b t)
  | step a =>
    refine { beside with settings := ?_ }
    show Working.ofConfig ((t.changeConfig b.config a.change).config b.config) = _
    have stays := keeps a rfl
    rw [← beside.settings] at stays
    rw [config_changeConfig kept, stays.change, beside.settings]

/-! ## 3. Built loggers -/

theorem stepsOf_call (act : Builder.Act) (events : List Event) :
    Builder.stepsOf (callsOf (.call act :: events)) =
      act.step?.toList ++ Builder.stepsOf (callsOf events) := stepsOf_cons act (callsOf events)

theorem writers_perform (b : Builder) (s : Store) (act : Builder.Act) :
    s.writers <+: (b.perform s act).2.writers := by
  cases act with
  | step a => exact List.prefix_rfl
  | build => exact (isEnlarged_build b s).writers

/-- The settings of the logger are what the steps of the builder made of them. -/
theorem lives_config {b c : Builder} {x y : Run} {events : List Event}
    (lives : Lives b x events c y) (kept : b.config < x.store.configs.length)
    (shared : x.logger.config = b.config)
    (stored : ∀ id ∈ x.logger.writers, id < x.store.writers.length) :
    y.store.config y.logger.config =
      Builder.changeAll (Builder.stepsOf (callsOf events)) (x.store.config x.logger.config) := by
  induction lives with
  | none => rfl
  | @call b c x y act events _ ih =>
    obtain ⟨same, kept', changed⟩ := config_perform kept act
    have further := ih (by rwa [same]) (by rw [shared, same])
      fun id member => Nat.lt_of_lt_of_le (stored id member) (writers_perform b _ act).length_le
    rw [further, stepsOf_call, changeAll_append]
    show Builder.changeAll _ ((b.perform x.store act).2.config x.logger.config) = _
    rw [shared, changed]
  | @move b c x y z m events step _ ih =>
    obtain ⟨configs, kinds, config, writers⟩ := step_stays (by simpa [length_kinds]) step
    have lengths := congrArg List.length kinds
    rw [length_kinds, length_kinds] at lengths
    have further := ih (by rwa [configs]) (by rw [config, shared]) (by rwa [writers, lengths])
    rw [further, Store.config, Store.config, configs, config]
    rfl

/-- If all steps of the builder keep the settings of the logger, its moves make a run in which the
builder is not called at all. -/
theorem lives_beside {b c : Builder} {ids : List WriterId} {x y z : Run} {events : List Event}
    (lives : Lives b y events c z) (kept : b.config < y.store.configs.length)
    (beside : AreBeside b.config ids x y)
    (keeps : ∀ a ∈ Builder.stepsOf (callsOf events),
      a.Keeps (Working.ofConfig (x.store.config b.config))) :
    ∃ x', Runs x (movesOf events) x' ∧ AreBeside b.config ids x' z := by
  -- Induction on the life of `y`. At a call only its store changes and `x` waits; at a move both
  -- move. The configuration stays in the store of `y`, and that of `x` never changes.
  induction lives generalizing x with
  | none => exact ⟨x, .none, beside⟩
  | @call b c y z act events _ ih =>
    obtain ⟨same, kept', -⟩ := config_perform kept act
    rw [stepsOf_call] at keeps
    have unnoticed := perform_beside beside.store kept act fun a here =>
      keeps a (List.mem_append_left _ (Option.mem_toList.2 here))
    have alike : AreBeside b.config ids x { y with store := (b.perform y.store act).2 } :=
      { beside with
        same := congrArg (fun r : Run => { r with store := (b.perform y.store act).2 }) beside.same
        store := unnoticed }
    rw [← same] at alike keeps kept' ⊢
    exact ih kept' alike fun a later => keeps a (List.mem_append_right _ later)
  | @move b c y y' z m events step _ ih =>
    obtain ⟨x₁, moved, alike⟩ := step_beside beside step
    have settled : x₁.store.configs = x.store.configs := by
      refine (step_stays ?_ moved).1
      rw [beside.own, length_kinds]
      exact beside.store.stored
    have kept' : b.config < y'.store.configs.length := by
      rwa [(step_stays ?_ step).1]
      rw [beside.same, length_kinds]
      intro id member
      exact Nat.lt_of_lt_of_le (beside.store.stored id (beside.own ▸ member))
        beside.store.writers.length_le
    have keeps' : ∀ a ∈ Builder.stepsOf (callsOf events),
        a.Keeps (Working.ofConfig (x₁.store.config b.config)) := by
      rw [Store.config, settled]
      exact keeps
    obtain ⟨x', runs, final⟩ := ih kept' alike keeps'
    exact ⟨x', .more moved runs, final⟩

theorem HasParts.addWriter {s : Store} {l : Logger} {layout : LayoutId} (parts : HasParts s l layout)
    (sink : Sink) :
    HasParts (s.addWriter ⟨sink, some layout⟩).1
      (l.addWriter (s.addWriter ⟨sink, some layout⟩).2) layout where
  stored := by
    intro id member
    simp only [Store.addWriter, List.length_append, List.length_singleton]
    rcases List.mem_append.1 member with old | new
    · exact Nat.lt_succ_of_lt (parts.stored id old)
    · rw [List.mem_singleton.1 new]
      exact Nat.lt_succ_self _
  known := by
    intro w member n uses
    rcases List.mem_append.1 member with old | new
    · exact parts.known w old n uses
    · rw [List.mem_singleton.1 new] at uses
      cases uses
      exact parts.layout
  layout := parts.layout

theorem writers_compile (s : Store) (table : Pattern.WordTable) (given : Value) :
    (s.compile table given).1.writers = s.writers := by
  rw [Store.compile]
  split <;> exact writers_warnAll s _

theorem Store.KnowsLayouts.enlarge {s s' : Store} (known : s.KnowsLayouts)
    (enlarged : IsEnlarged s s') (same : s'.writers = s.writers) : s'.KnowsLayouts := by
  rw [Store.KnowsLayouts, same]
  exact fun w member n uses => Nat.lt_of_lt_of_le (known w member n uses) enlarged.layouts.length_le

/-- The layout of a new logger is in the store; there are no writers for it yet. -/
theorem hasParts_start {s s₁ : Store} {table : Pattern.WordTable} {given : Value}
    {layout : LayoutId} (known : s.KnowsLayouts)
    (compiled : s.compile table given = (s₁, .ok layout)) (config : ConfigId) :
    HasParts (Logger.start s₁ config).1 (Logger.start s₁ config).2 layout := by
  have enlarged := isEnlarged_compile s table given
  have same := writers_compile s table given
  rw [compiled] at enlarged same
  have inside : layout < s₁.layouts.length := by
    rw [Store.compile] at compiled
    split at compiled
    · cases compiled
    · cases compiled
      simp
  have known₁ : s₁.KnowsLayouts := known.enlarge enlarged same
  rw [Logger.start]
  split <;> exact ⟨fun _ member => absurd member List.not_mem_nil, known₁, inside⟩

theorem HasParts.addConsole {s : Store} {l : Logger} {layout : LayoutId}
    (parts : HasParts s l layout) (b : Builder) :
    HasParts (b.addConsole s layout l).1 (b.addConsole s layout l).2 layout := by
  rw [Builder.addConsole]
  split
  · exact parts.addWriter _
  · exact parts

theorem openFile_eq_ok {s s' : Store} {p : FilePath} {mode encoding : String}
    {layout : Option LayoutId} {id : WriterId}
    (opened : s.openFile p mode encoding layout = (s', .ok id)) :
    ∃ disk file, (s', id) = { s with disk }.addWriter ⟨.file (some file), layout⟩ := by
  rw [Store.openFile] at opened
  split at opened
  · cases opened
  · next disk file _ =>
    cases opened
    exact ⟨disk, file, rfl⟩

theorem HasParts.addFile {b : Builder} {s s' : Store} {l l' : Logger} {layout : LayoutId}
    (parts : HasParts s l layout) (added : b.addFile s layout l = (s', .ok l')) :
    HasParts s' l' layout := by
  rw [Builder.addFile] at added
  split at added
  · cases added
    exact parts
  · split at added
    · cases added
    · next s₁ id opened =>
      cases added
      obtain ⟨disk, file, same⟩ := openFile_eq_ok opened
      have moved : HasParts { s with disk } l layout := { parts with }
      have filed := moved.addWriter (.file (some file))
      rwa [← same] at filed

theorem HasParts.knowsLayouts_addFile {s : Store} {l : Logger} {layout : LayoutId}
    (parts : HasParts s l layout) (b : Builder) : (b.addFile s layout l).1.KnowsLayouts := by
  cases added : b.addFile s layout l with
  | mk s' outcome =>
  cases outcome with
  | ok l' => exact (parts.addFile added).known
  | error fault =>
    rw [Builder.addFile] at added
    split at added
    · cases added
    · split at added
      · next opened =>
        cases added
        rw [Store.openFile] at opened
        split at opened <;> cases opened
        exact parts.known
      · cases added

/-- Building leaves no writer without its layout, also if it fails. -/
theorem knowsLayouts_build {b : Builder} {s : Store} (known : s.KnowsLayouts) :
    (b.build s).1.KnowsLayouts := by
  rw [Builder.build]
  split
  · next s₁ fault stopped =>
    have same := writers_compile s b.words (s.config b.config).pattern
    have enlarged := isEnlarged_compile s b.words (s.config b.config).pattern
    rw [stopped] at same enlarged
    exact known.enlarge enlarged same
  · next s₁ layout compiled =>
    have parts := (hasParts_start known compiled b.config).addConsole b
    have filed := parts.knowsLayouts_addFile b
    dsimp only
    split <;> next ended => rwa [ended] at filed

/-- A built logger has its writers in the store, with their layouts. -/
theorem isBeside_build {b : Builder} {s s' : Store} {l : Logger} (known : s.KnowsLayouts)
    (stored : ∀ id ∈ b.writers, id < s.writers.length) (built : b.build s = (s', .ok l)) :
    IsBeside l.config l.writers s' s' := by
  have longer := (isEnlarged_build b s).writers.length_le
  rw [built] at longer
  obtain ⟨s₁, layout, filed, compiled, added, rfl⟩ := build_eq_ok built
  have parts := ((hasParts_start known compiled b.config).addConsole b).addFile added
  refine ⟨rfl, rfl, List.Sublist.refl _, rfl, .refl _, rfl, List.prefix_rfl, List.prefix_rfl, ?_,
    parts.known⟩
  intro id member
  rcases List.mem_append.1 member with own | given
  · exact parts.stored id own
  · exact Nat.lt_of_lt_of_le (stored id given) longer

theorem Builder.Step.IsGiven.mono {a : Builder.Step} {s s' : Store} (given : a.IsGiven s)
    (more : s.writers.length ≤ s'.writers.length) : a.IsGiven s' := by
  cases a with
  | writer id => exact Nat.lt_of_lt_of_le given more
  | name _ | level _ | async _ | console _ | file _ | queueSize _ | batchSize _ | pattern _ _
  | location _ | filter _ => trivial

/-- What a builder refers to stays in the store. -/
theorem isUsable_perform {b : Builder} {s : Store} (usable : b.IsUsable s) (act : Builder.Act)
    (given : ∀ a ∈ act.step?, a.IsGiven s) :
    (b.perform s act).1.IsUsable (b.perform s act).2 := by
  obtain ⟨same, kept, -⟩ := config_perform usable.config act
  have longer := (writers_perform b s act).length_le
  refine ⟨by rwa [same], fun id member => Nat.lt_of_lt_of_le ?_ longer, ?_⟩
  · cases act with
    | build => exact usable.writers id member
    | step a =>
      cases a with
      | writer id' =>
        rcases List.mem_append.1 member with old | new
        · exact usable.writers id old
        · rw [List.mem_singleton.1 new]
          exact given (.writer id') rfl
      | name _ | level _ | async _ | console _ | file _ | queueSize _ | batchSize _ | pattern _ _
      | location _ | filter _ => exact usable.writers id member
  · cases act with
    | build => exact knowsLayouts_build usable.layouts
    | step a => exact usable.layouts

theorem isUsable_performAll {b : Builder} {s : Store} (usable : b.IsUsable s)
    {acts : List Builder.Act} (given : ∀ a ∈ Builder.stepsOf acts, a.IsGiven s) :
    (b.performAll s acts).1.IsUsable (b.performAll s acts).2 := by
  induction acts generalizing b s with
  | nil => exact usable
  | cons act acts ih =>
    rw [stepsOf_cons] at given
    refine ih (isUsable_perform usable act fun a here =>
      given a (List.mem_append_left _ (Option.mem_toList.2 here))) fun a later => ?_
    exact (given a (List.mem_append_right _ later)).mono (writers_perform b s act).length_le

/-- Whatever the builder of a logger is called for later, of all that the logger notices the changes
of its settings, which are those that the steps make. If all steps keep the settings that count for
a logger at work, then the moves of the logger make a run without any of the calls in which the same
entries pass, are dropped, written and counted, the same calls of filters and writers are made, and
the files get the same bytes. -/
theorem built_logger_notices_settings {b c : Builder} {s s' : Store} {acts : List Builder.Act}
    {l : Logger} {events : List Event} {y : Run} (usable : b.IsUsable s)
    (given : ∀ a ∈ Builder.stepsOf acts, a.IsGiven s)
    (built : b.buildAfter s acts = (s', .ok l))
    (lives : Lives (b.performAll s acts).1 { logger := l, store := s' } events c y) :
    y.store.config y.logger.config =
        Builder.changeAll (Builder.stepsOf (callsOf events)) (s'.config l.config) ∧
      ((∀ a ∈ Builder.stepsOf (callsOf events),
          a.Keeps (Working.ofConfig (s'.config l.config))) →
        ∃ x, Runs { logger := l, store := s' } (movesOf events) x ∧
          AreBeside l.config l.writers x y) := by
  have usable' := isUsable_performAll usable given
  have beside := isBeside_build usable'.layouts usable'.writers built
  have shared := build_config built
  have kept : (b.performAll s acts).1.config < s'.configs.length := by
    have enlarged := isEnlarged_build (b.performAll s acts).1 (b.performAll s acts).2
    rw [← Builder.buildAfter, built] at enlarged
    rw [enlarged.configs]
    exact usable'.config
  refine ⟨lives_config lives kept shared beside.stored, fun keeps => ?_⟩
  rw [shared] at keeps beside ⊢
  exact lives_beside lives kept ⟨rfl, beside, shared, rfl⟩ keeps

/-- Calls for a logger without a worker. -/
def namedActs : List Builder.Act :=
  [.step (.pattern (.str "") []), .step (.async false), .step (.name "first")]

/-- A later life in which the logger keeps its settings: another logger is built, with a terminal. -/
def quietEvents : List Event :=
  [.call (.step (.console true)), .move (.log (.level .info) (exMessage "up").call), .call .build,
    .call (.step (.name "first")), .move (.log (.level .info) (exMessage "down").call)]

theorem built_logger_notices_settings_quietEvents :
    plainBuilder.IsUsable plainStore ∧
      (∀ a ∈ Builder.stepsOf namedActs, a.IsGiven plainStore) ∧
      ∃ s' l c y, plainBuilder.buildAfter plainStore namedActs = (s', .ok l) ∧
        Lives (plainBuilder.performAll plainStore namedActs).1 { logger := l, store := s' }
          quietEvents c y ∧
        (∀ a ∈ Builder.stepsOf (callsOf quietEvents),
          a.Keeps (Working.ofConfig (s'.config l.config))) ∧
        ∃ x, Runs { logger := l, store := s' } (movesOf quietEvents) x ∧
          AreBeside l.config l.writers x y := by
  have usable : plainBuilder.IsUsable plainStore :=
    ⟨by decide, fun id member => absurd member List.not_mem_nil,
      fun w member => absurd member List.not_mem_nil⟩
  have given : ∀ a ∈ Builder.stepsOf namedActs, a.IsGiven plainStore := by
    simp [namedActs, Builder.stepsOf, Builder.Act.step?, Builder.Step.IsGiven]
  obtain ⟨s', l, built, settings⟩ : ∃ s' l,
      plainBuilder.buildAfter plainStore namedActs = (s', .ok l) ∧
        Working.ofConfig (s'.config l.config) = ⟨"first", .info, false, .number 100, .number 100, false⟩ :=
    ⟨_, _, rfl, rfl⟩
  have lives : Lives (plainBuilder.performAll plainStore namedActs).1
      { logger := l, store := s' } quietEvents _ _ :=
    .call (.move (.log ..) (.call (.call (.move (.log ..) .none))))
  have keeps : ∀ a ∈ Builder.stepsOf (callsOf quietEvents),
      a.Keeps (Working.ofConfig (s'.config l.config)) := by
    rw [settings]
    simp [quietEvents, callsOf, Builder.stepsOf, Builder.Act.step?, Builder.Step.Keeps]
  exact ⟨usable, given, s', l, _, _, built, lives, keeps,
    (built_logger_notices_settings usable given built lives).2 keeps⟩

/-- A later name is also that of the logger that was built before, and a logger without a worker
fails when its builder is told to build one with a worker. -/
theorem later_steps_reach_built_logger :
    ∃ s' l, plainBuilder.buildAfter plainStore namedActs = (s', .ok l) ∧
      l.name s' = "first" ∧ (l.log s' (.level .info) (exMessage "up").call).2.2 = .ok () ∧
      l.name ((plainBuilder.performAll plainStore namedActs).1.perform s'
          (.step (.name "second"))).2 = "second" ∧
      (l.log ((plainBuilder.performAll plainStore namedActs).1.perform s'
          (.step (.async true))).2 (.level .info) (exMessage "up").call).2.2 = .error .noQueue :=
  ⟨_, _, rfl, rfl, rfl, rfl, rfl⟩

end LogLayout.Delivery
