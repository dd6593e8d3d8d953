import LogLayout.Proofs.Delivery.Building

/-!
# A logger and the other configurations

Of the configurations in the store, a logger and its builder look at their own only. So everything
comes to the same when the store keeps other configurations next to it, or keeps it under another
number.

Results:
1. `withConfigs_deliverAll`, `withConfigs_accepts`: writers and filters look at no configuration.
2. `log_moved`: a logger logs the same with its configuration under another number.
3. `runs_moved_iff`: it has the same runs.
4. `build_moved`: and it is built in the same way.
-/

namespace LogLayout.Delivery

/-! ## Definitions -/

/-- The store with other configurations. -/
def Store.withConfigs (s : Store) (configs : List Config) : Store := { s with configs }

/-- What an operation comes to at the store with other configurations. -/
def elsewhere {α : Type} (configs : List Config) (x : Store × α) : Store × α :=
  (x.1.withConfigs configs, x.2)

/-- The logger with its configuration under another number. -/
def Logger.moved (l : Logger) (config : ConfigId) : Logger := { l with config }

/-- The run with the configuration of its logger under another number, among others. -/
def Run.moved (x : Run) (config : ConfigId) (configs : List Config) : Run :=
  { x with logger := x.logger.moved config, store := x.store.withConfigs configs }

/-! ## 1. Writers and filters -/

section
variable (configs : List Config) (s : Store)

@[simp] theorem withConfigs_surroundings :
    (s.withConfigs configs).surroundings = s.surroundings := rfl

@[simp] theorem withConfigs_calls : (s.withConfigs configs).calls = s.calls := rfl

@[simp] theorem withConfigs_disk : (s.withConfigs configs).disk = s.disk := rfl

@[simp] theorem withConfigs_layouts : (s.withConfigs configs).layouts = s.layouts := rfl

@[simp] theorem withConfigs_writers : (s.withConfigs configs).writers = s.writers := rfl

@[simp] theorem withConfigs_note (c : Call) :
    (s.withConfigs configs).note c = (s.note c).withConfigs configs := rfl

@[simp] theorem withConfigs_warn (w : Warning) :
    (s.withConfigs configs).warn w = (s.warn w).withConfigs configs := rfl

end

section
variable (configs : List Config)

theorem withConfigs_warnAll (s : Store) (ws : List Warning) :
    (s.withConfigs configs).warnAll ws = (s.warnAll ws).withConfigs configs := by
  induction ws generalizing s with
  | nil => rfl
  | cons w ws ih => exact ih (s.warn w)

theorem withConfigs_format (s : Store) (layout : Option LayoutId) (e : Entry) :
    (s.withConfigs configs).format layout e = elsewhere configs (s.format layout e) := by
  cases layout with
  | none => rfl
  | some id =>
    simp only [Store.format, withConfigs_layouts, withConfigs_surroundings]
    cases s.layouts[id]? with
    | none => rfl
    | some f =>
      let s₁ : Store := { s with layouts := s.layouts.set id (f.format s.surroundings e).1 }
      exact congrArg (·, _) (withConfigs_warnAll configs s₁ _)

theorem withConfigs_writeLine (s : Store) (id : WriterId) (w : Writer) (e : Entry) :
    (s.withConfigs configs).writeLine id w e = elsewhere configs (s.writeLine id w e) := by
  obtain ⟨sink, layout⟩ := w
  cases sink with
  | file handle =>
    cases handle with
    | none => rfl
    | some file =>
      simp only [Store.writeLine, withConfigs_format]
      cases s.format layout e with
      | mk s₁ outcome => cases outcome <;> rfl
  | console colored stream =>
    simp only [Store.writeLine, withConfigs_format]
    cases s.format layout e with
    | mk s₁ outcome =>
      cases outcome with
      | error fault => rfl
      | ok line => cases stream <;> rfl
  | custom c =>
    simp only [Store.writeLine, withConfigs_format, withConfigs_calls]
    cases c.writeFault s.calls e <;> rfl

theorem withConfigs_write (s : Store) (id : WriterId) (e : Entry) :
    (s.withConfigs configs).write id e = elsewhere configs (s.write id e) := by
  simp only [Store.write, withConfigs_writers, withConfigs_writeLine]
  cases s.writers[id]? <;> rfl

theorem withConfigs_deliver (s : Store) (e : Entry) (ids : List WriterId) :
    (s.withConfigs configs).deliver e ids = (s.deliver e ids).withConfigs configs := by
  induction ids generalizing s with
  | nil => rfl
  | cons id ids ih =>
    simp only [Store.deliver, withConfigs_write, elsewhere]
    cases (s.write id e).2 with
    | ok line => exact ih (s.write id e).1
    | error fault => exact ih ((s.write id e).1.warn (.writer fault.message))

theorem withConfigs_deliverAll (s : Store) (es : List Entry) (ids : List WriterId) :
    (s.withConfigs configs).deliverAll es ids = (s.deliverAll es ids).withConfigs configs := by
  induction es generalizing s with
  | nil => rfl
  | cons e es ih =>
    simp only [Store.deliverAll, List.foldl_cons, withConfigs_deliver] at ih ⊢
    exact ih (s.deliver e ids)

theorem withConfigs_accepts (s : Store) (e : Entry) (number : Nat) (filters : List Filter) :
    (s.withConfigs configs).accepts e number filters =
      elsewhere configs (s.accepts e number filters) := by
  induction filters generalizing s number with
  | nil => rfl
  | cons f filters ih =>
    simp only [Store.accepts, withConfigs_calls, withConfigs_note, withConfigs_warn, ih]
    cases f.keeps s.calls e with
    | error fault => rfl
    | ok keeps => cases keeps <;> rfl

theorem withConfigs_flush (s : Store) (id : WriterId) :
    (s.withConfigs configs).flush id = elsewhere configs (s.flush id) := by
  simp only [Store.flush, withConfigs_writers, withConfigs_calls, withConfigs_disk]
  cases s.writers[id]? with
  | none => rfl
  | some w =>
    obtain ⟨sink, layout⟩ := w
    cases sink with
    | file handle => cases handle <;> rfl
    | console colored stream => rfl
    | custom c =>
      dsimp only
      cases c.flushFault <;> rfl

theorem withConfigs_flushAll (s : Store) (ids : List WriterId) :
    Logger.untilFault Store.flush (s.withConfigs configs) ids =
      elsewhere configs (Logger.untilFault Store.flush s ids) := by
  induction ids generalizing s with
  | nil => rfl
  | cons id ids ih =>
    simp only [Logger.untilFault, withConfigs_flush]
    cases s.flush id with
    | mk s₁ fault? =>
      cases fault? with
      | some fault => rfl
      | none => exact ih s₁

end

/-! The configurations themselves stay: at its own configurations the store is itself. -/

theorem configs_deliverAll (s : Store) (es : List Entry) (ids : List WriterId) :
    (s.deliverAll es ids).configs = s.configs := by
  have same := congrArg Store.configs (withConfigs_deliverAll s.configs s es ids)
  exact same

theorem configs_accepts (s : Store) (e : Entry) (number : Nat) (filters : List Filter) :
    (s.accepts e number filters).1.configs = s.configs :=
  congrArg (·.1.configs) (withConfigs_accepts s.configs s e number filters)

theorem configs_flushAll (s : Store) (ids : List WriterId) :
    (Logger.untilFault Store.flush s ids).1.configs = s.configs :=
  congrArg (·.1.configs) (withConfigs_flushAll s.configs s ids)

/-! ## 2. Messages -/

section
variable (config : ConfigId) (l : Logger)

@[simp] theorem moved_config : (l.moved config).config = config := rfl

@[simp] theorem moved_writers : (l.moved config).writers = l.writers := rfl

@[simp] theorem moved_filters : (l.moved config).filters = l.filters := rfl

@[simp] theorem moved_pipeline : (l.moved config).pipeline = l.pipeline := rfl

end

section
variable {config : ConfigId} {configs : List Config} {l : Logger} {s : Store}
  (own : configs.getD config {} = s.config l.config)
include own

theorem config_moved : (s.withConfigs configs).config config = s.config l.config := own

theorem handOver_moved (e : Entry) :
    (l.moved config).handOver (s.withConfigs configs) e =
      ((l.handOver s e).1.moved config, elsewhere configs (l.handOver s e).2) := by
  simp only [Logger.handOver, moved_config, moved_pipeline, config_moved own]
  split
  · cases l.pipeline with
    | none => rfl
    | some p =>
      dsimp only
      cases p.offer? e <;> rfl
  · simp only [Logger.writeBatch, moved_writers, withConfigs_deliverAll]
    rfl

theorem log_moved (level : Setting.Quantity) (call : Logger.Call) :
    (l.moved config).log (s.withConfigs configs) level call =
      ((l.log s level call).1.moved config, elsewhere configs (l.log s level call).2) := by
  simp only [Logger.log, moved_config, moved_filters, config_moved own]
  split
  · rfl
  · split
    · rfl
    · split
      · rfl
      · rfl
      · next lv _ _ =>
        generalize call.entry lv (s.config l.config).name (s.config l.config).captureLocation = e
        have kept := configs_accepts s e 0 l.filters
        rw [withConfigs_accepts, elsewhere]
        cases judged : s.accepts e 0 l.filters with
        | mk s₁ keeps =>
        rw [judged] at kept
        cases keeps with
        | false => rfl
        | true =>
          refine handOver_moved ?_ e
          rw [own, Store.config, Store.config, kept]

theorem passes?_moved (level : Setting.Quantity) (call : Logger.Call) :
    (l.moved config).passes? (s.withConfigs configs) level call = l.passes? s level call := by
  cases level with
  | number n => rfl
  | level lv =>
    simp only [Logger.passes?, moved_config, moved_filters, config_moved own, withConfigs_accepts,
      elsewhere]

end

theorem configs_log (l : Logger) (s : Store) (level : Setting.Quantity) (call : Logger.Call) :
    (l.log s level call).2.1.configs = s.configs ∧ (l.log s level call).1.config = l.config := by
  have same := log_moved (l := l) (s := s) rfl level call
  exact ⟨congrArg (·.2.1.configs) same, congrArg (·.1.config) same⟩

/-! ## 3. Runs -/

/-- No move changes the configurations, or which of them is that of the logger. -/
theorem step_configs {x y : Run} {m : Move} (step : Step x m y) :
    y.store.configs = x.store.configs ∧ y.logger.config = x.logger.config := by
  cases step with
  | log level call => exact configs_log x.logger x.store level call
  | flush => exact ⟨configs_flushAll x.store x.logger.writers, rfl⟩
  | @write es _ => exact ⟨configs_deliverAll x.store es x.logger.writers, rfl⟩
  | @writeLast es _ => exact ⟨configs_deliverAll x.store es x.logger.writers, rfl⟩
  | addFilter | stop | take | expire | leave | fail => exact ⟨rfl, rfl⟩

theorem runs_configs {x y : Run} {ms : List Move} (runs : Runs x ms y) :
    y.store.configs = x.store.configs ∧ y.logger.config = x.logger.config := by
  induction runs with
  | none => exact ⟨rfl, rfl⟩
  | more step _ ih =>
    obtain ⟨configs, config⟩ := step_configs step
    exact ⟨ih.1.trans configs, ih.2.trans config⟩

theorem writing_moved (x : Run) (es : List Entry) (phase : Phase) (config : ConfigId)
    (configs : List Config) :
    (x.moved config configs).writing es phase = (x.writing es phase).moved config configs := by
  simp only [Run.writing, Run.moved, Logger.writeBatch, moved_writers, withConfigs_deliverAll]
  rfl

section
variable {config : ConfigId} {configs : List Config}

theorem run_log_moved {x : Run} (own : configs.getD config {} = x.store.config x.logger.config)
    (level : Setting.Quantity) (call : Logger.Call) :
    (x.moved config configs).log level call = (x.log level call).moved config configs := by
  simp only [Run.log, Run.moved, log_moved own, passes?_moved own]
  rfl

theorem step_moved {x y : Run} {m : Move}
    (own : configs.getD config {} = x.store.config x.logger.config) (step : Step x m y) :
    Step (x.moved config configs) m (y.moved config configs) := by
  have interval : (x.moved config configs).interval = x.interval :=
    congrArg (·.flushInterval.toInt) own
  cases step with
  | log level call =>
    rw [← run_log_moved own]
    exact .log level call
  | addFilter f => exact .addFilter f
  | flush =>
    have same := withConfigs_flushAll configs x.store x.logger.writers
    have moves := Step.flush (x := x.moved config configs)
    simp only [Run.moved, moved_writers, same] at moves
    exact moves
  | stop => exact .stop
  | take due waits has able taken =>
    rw [← own] at taken
    rw [← interval] at able
    exact .take due waits has able taken
  | expire waits has able expired =>
    rw [← interval] at able
    exact .expire waits has able expired
  | fail waits has cannot =>
    rw [← interval] at cannot
    exact .fail waits has cannot
  | leave waits has finished => exact .leave waits has finished
  | write writing =>
    rw [← writing_moved]
    exact .write writing
  | writeLast leaving =>
    rw [← writing_moved]
    exact .writeLast leaving

theorem Runs.moved {x y : Run} {ms : List Move}
    (own : configs.getD config {} = x.store.config x.logger.config) (runs : Runs x ms y) :
    Runs (x.moved config configs) ms (y.moved config configs) := by
  induction runs with
  | none => exact .none
  | more step _ ih =>
    obtain ⟨kept, same⟩ := step_configs step
    refine .more (step_moved own step) (ih ?_)
    rw [own, Store.config, Store.config, kept, same]

/-- The logger has the same runs with its configuration under another number, among others. -/
theorem runs_moved_iff {x z : Run} {ms : List Move}
    (own : configs.getD config {} = x.store.config x.logger.config) :
    Runs (x.moved config configs) ms z ↔ ∃ y, Runs x ms y ∧ z = y.moved config configs := by
  constructor
  · intro runs
    -- A run at the other place is moved back; there and back again is where it was.
    have own' : x.store.configs.getD x.logger.config {} =
        (x.moved config configs).store.config (x.moved config configs).logger.config := own.symm
    have back := runs.moved own'
    obtain ⟨kept, same⟩ := runs_configs runs
    refine ⟨z.moved x.logger.config x.store.configs, back, ?_⟩
    show z = { z with
      logger := z.logger.moved config
      store := z.store.withConfigs configs }
    have logger : z.logger.moved config = z.logger := by
      rw [Logger.moved]
      exact congrArg (fun config => { z.logger with config }) same.symm
    have store : z.store.withConfigs configs = z.store :=
      congrArg z.store.withConfigs kept.symm
    rw [logger, store]
  · rintro ⟨y, runs, rfl⟩
    exact runs.moved own

end

/-! ## 4. Building -/

theorem withConfigs_compile (configs : List Config) (s : Store) (table : Pattern.WordTable)
    (given : Value) :
    (s.withConfigs configs).compile table given = elsewhere configs (s.compile table given) := by
  simp only [Store.compile, withConfigs_warnAll]
  cases (Pattern.Formatter.ofValue table given).result <;> rfl

theorem withConfigs_openFile (configs : List Config) (s : Store) (p : FilePath)
    (mode encoding : String) (layout : Option LayoutId) :
    (s.withConfigs configs).openFile p mode encoding layout =
      elsewhere configs (s.openFile p mode encoding layout) := by
  simp only [Store.openFile, withConfigs_disk]
  cases s.disk.openFile p mode encoding with
  | mk disk outcome => cases outcome <;> rfl

theorem addFilters_moved (config : ConfigId) (l : Logger) (filters : List (Option Filter)) :
    Builder.addFilters (l.moved config) filters =
      (Builder.addFilters l filters).map (·.moved config) := by
  induction filters generalizing l with
  | nil => rfl
  | cons f filters ih =>
    cases f with
    | none => rfl
    | some f => exact ih { l with filters := l.filters ++ [f] }

section
variable {config : ConfigId} {configs : List Config} {b : Builder} {s : Store}
  (own : configs.getD config {} = s.config b.config)
include own

theorem start_moved :
    Logger.start (s.withConfigs configs) config =
      ((Logger.start s b.config).1.withConfigs configs,
        (Logger.start s b.config).2.moved config) := by
  have found : (s.withConfigs configs).config config = s.config b.config := own
  simp only [Logger.start, found]
  split <;> rfl

theorem addConsole_moved (layout : LayoutId) (l : Logger) :
    Builder.addConsole { b with config } (s.withConfigs configs) layout (l.moved config) =
      ((b.addConsole s layout l).1.withConfigs configs,
        (b.addConsole s layout l).2.moved config) := by
  have found : (s.withConfigs configs).config config = s.config b.config := own
  simp only [Builder.addConsole, found]
  split <;> rfl

theorem addFile_moved (layout : LayoutId) (l : Logger) :
    Builder.addFile { b with config } (s.withConfigs configs) layout (l.moved config) =
      elsewhere configs
        ((b.addFile s layout l).1, (b.addFile s layout l).2.map (·.moved config)) := by
  have found : (s.withConfigs configs).config config = s.config b.config := own
  simp only [Builder.addFile, found, withConfigs_openFile]
  cases (s.config b.config).logFile with
  | none => rfl
  | some p =>
    dsimp only
    cases s.openFile p "a" "utf-8" (some layout) with
    | mk s₁ outcome => cases outcome <;> rfl

/-- A builder whose configuration is kept under another number builds the same. -/
theorem build_moved :
    Builder.build { b with config } (s.withConfigs configs) =
      elsewhere configs ((b.build s).1, (b.build s).2.map (·.moved config)) := by
  have found : (s.withConfigs configs).config config = s.config b.config := own
  have enlarged := isEnlarged_compile s b.words (s.config b.config).pattern
  simp only [Builder.build, found, withConfigs_compile]
  cases compiled : s.compile b.words (s.config b.config).pattern with
  | mk s₁ outcome =>
  rw [compiled] at enlarged
  cases outcome with
  | error fault => rfl
  | ok layout =>
    have own₁ : configs.getD config {} = s₁.config b.config := by rw [own, enlarged.config]
    have started := isEnlarged_start s₁ b.config
    have own₂ : configs.getD config {} = (Logger.start s₁ b.config).1.config b.config := by
      rw [own₁, started.config]
    have shown := isEnlarged_addConsole b (Logger.start s₁ b.config).1 layout
      (Logger.start s₁ b.config).2
    have own₃ := own₂.trans (shown.config b.config).symm
    simp only [elsewhere, start_moved own₁, addConsole_moved own₂, addFile_moved own₃]
    generalize b.addFile _ layout _ = filed
    obtain ⟨s', outcome⟩ := filed
    cases outcome with
    | error fault => rfl
    | ok l =>
      simp only [foldl_addWriter]
      have added := addFilters_moved config { l with writers := l.writers ++ b.writers } b.filters
      exact congrArg (s'.withConfigs configs, ·) added

end

end LogLayout.Delivery
