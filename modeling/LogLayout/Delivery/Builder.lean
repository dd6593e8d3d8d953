import LogLayout.Delivery.Logger

/-!
# Builders

A builder changes a configuration step by step and then makes a logger of it. The configuration is
shared with whoever else has it, so later steps also reach loggers that were built before.
-/

namespace LogLayout.Delivery

/-- What a logger is to be built of. -/
structure Builder where
  config : ConfigId
  console : Bool := false
  words : Pattern.WordTable := Pattern.defaultWords
  writers : List WriterId := []
  /-- The filters to add, or things that are none. -/
  filters : List (Option Filter) := []

namespace Builder

/-- A step of a builder. -/
inductive Step
  | name (s : String)
  | level (l : Level)
  | async (enabled : Bool)
  | console (colored : Bool)
  | file (p : FilePath)
  | queueSize (n : Int)
  | batchSize (n : Int)
  | pattern (given : Value) (words : Pattern.WordTable)
  | location (enabled : Bool)
  | filter (f : Option Filter)
  | writer (id : WriterId)

/-- What a step does to the configuration. -/
def Step.change : Step → Config → Config
  | name s, c => { c with name := s }
  | level l, c => { c with minLevel := l }
  | async enabled, c => { c with asyncMode := enabled }
  | console colored, c => { c with coloredOutput := colored }
  | file p, c => { c with logFile := some p }
  | queueSize n, c => { c with queueSize := .number n }
  | batchSize n, c => { c with batchSize := .number n }
  | pattern given _, c => { c with pattern := given }
  | location enabled, c => { c with captureLocation := enabled }
  | filter _, c | writer _, c => c

/-- What a step does to the builder itself. -/
def Step.apply : Step → Builder → Builder
  | console _, b => { b with console := true }
  | pattern _ words, b => { b with words }
  | filter f, b => { b with filters := b.filters ++ [f] }
  | writer id, b => { b with writers := b.writers ++ [id] }
  | _, b => b

/-- Makes a step. -/
def step (b : Builder) (s : Store) (a : Step) : Builder × Store :=
  (a.apply b, s.changeConfig b.config a.change)

/-- The builder of an existing configuration, with a terminal if the configuration has one. -/
def ofConfig (s : Store) (config : ConfigId) : Builder :=
  { config, console := (s.config config).consoleOutput }

/-- Adds filters in order, up to the first thing that is none. -/
def addFilters (l : Logger) : List (Option Filter) → Except Fault Logger
  | [] => .ok l
  | f :: fs =>
    match l.addFilter f with
    | .error fault => .error fault
    | .ok l => addFilters l fs

/-- Adds the writer of a terminal if there is to be one. -/
def addConsole (b : Builder) (s : Store) (layout : LayoutId) (l : Logger) : Store × Logger :=
  if b.console then
    let colored := (s.config b.config).coloredOutput
    let (s, id) := s.addWriter ⟨.console colored none, some layout⟩
    (s, l.addWriter id)
  else (s, l)

/-- Adds the writer of a file if there is to be one; the file is opened. -/
def addFile (b : Builder) (s : Store) (layout : LayoutId) (l : Logger) :
    Store × Except Fault Logger :=
  match (s.config b.config).logFile with
  | none => (s, .ok l)
  | some p =>
    match s.openFile p "a" "utf-8" (some layout) with
    | (s, .error fault) => (s, .error fault)
    | (s, .ok id) => (s, .ok (l.addWriter id))

/-- Builds a logger: the layout is made first, then the logger with its worker, then the writers of
the terminal, of the file and of the caller, and the filters at last. What was made remains if a
later part fails. -/
def build (b : Builder) (s : Store) : Store × Except Fault Logger :=
  match s.compile b.words (s.config b.config).pattern with
  | (s, .error fault) => (s, .error fault)
  | (s, .ok layout) =>
    let (s, l) := Logger.start s b.config
    let (s, l) := b.addConsole s layout l
    match b.addFile s layout l with
    | (s, .error fault) => (s, .error fault)
    | (s, .ok l) => (s, addFilters (b.writers.foldl Logger.addWriter l) b.filters)

end Builder

end LogLayout.Delivery
