import LogLayout.Proofs.Delivery.Building
import LogLayout.Proofs.Delivery.FileLines
import LogLayout.Proofs.Disk.Gaining

/-!
# What a failed build leaves behind

Building goes from part to part and takes nothing back. If the pattern is at fault, nothing else was
begun. If the file cannot be opened, the worker is running and directories may have been made. If a
filter is none, the file is open as well. So a failed build is not without effect, but it only adds:
nothing that lay on the disk is changed, and no file is emptied.

Results:
1. `compile_eq`, `start_eq`, `addConsole_eq`, `addFile_cases`: what each part does to the store.
2. `addFilters_eq_error`: filters fail only with what is no filter.
3. `build_leaves`: what is there after a failed build, by the part that failed;
   `failed_build_not_undone`, that it is not nothing.
-/

namespace LogLayout.Delivery

/-! ## Definitions -/

/-- How many workers the builder starts. -/
def Builder.startedWorkers (b : Builder) (s : Store) : Nat :=
  if (s.config b.config).asyncMode then 1 else 0

/-- The writer that the builder makes for the terminal, if there is to be one. -/
def Builder.consoleWriters (b : Builder) (s : Store) (layout : LayoutId) : List Writer :=
  if b.console then [⟨.console (s.config b.config).coloredOutput none, some layout⟩] else []

/-- The writers that are made for a log file: none without a file, and for a file one that writes
at its end. The file is there, and on the disk are new at most directories above it and the file,
which is then empty. -/
inductive IsOpened (d d' : Disk) (layout : LayoutId) : Option FilePath → List Writer → Prop
  | nothing : d' = d → IsOpened d d' layout none []
  | file {p : FilePath} {file : OpenFile} {content : List UInt8} :
      d'.locate p = .ok file.place → d'.content? file.place = some content →
      file.mode.access = .append →
      d.Gains (fun place node => d'.IsOnWay p.parent place node ∨
        place = file.place ∧ node = .file []) d' →
      IsOpened d d' layout (some p) [⟨.file (some file), some layout⟩]

/-- What a build that fails leaves behind, by the fault that it fails with. -/
inductive IsLeft (b : Builder) (s s' : Store) : Fault → Prop
  /-- The pattern has no layout: nothing was made, opened or started. -/
  | pattern {fault : Fault} :
      (Pattern.Formatter.ofValue b.words (s.config b.config).pattern).result = .error fault →
      s'.disk = s.disk → s'.workers = s.workers → s'.writers = s.writers → IsLeft b s s' fault
  /-- The file is not opened: on the disk are new at most directories above it. -/
  | file {p : FilePath} {fault : OpenFault} (layout : LayoutId) :
      (s.config b.config).logFile = some p → s.disk.Gains (s'.disk.IsOnWay p.parent) s'.disk →
      s'.workers = s.workers + b.startedWorkers s →
      s'.writers = s.writers ++ b.consoleWriters s layout → IsLeft b s s' (.opening fault)
  /-- Something is no filter: all but the filters was made. -/
  | filter {layout : LayoutId} {opened : List Writer} : none ∈ b.filters →
      IsOpened s.disk s'.disk layout (s.config b.config).logFile opened →
      s'.workers = s.workers + b.startedWorkers s →
      s'.writers = s.writers ++ b.consoleWriters s layout ++ opened → IsLeft b s s' .notAFilter

/-! ## 1. The parts of building -/

/-- Compiling adds notices, and a layout if it succeeds. -/
theorem compile_eq (s : Store) (table : Pattern.WordTable) (given : Value) :
    ∃ notices layouts, (s.compile table given).1 = { s with notices, layouts } := by
  obtain ⟨notices, warned⟩ := warnAll_eq s (Pattern.Formatter.ofValue table given).warnings
  rw [Store.compile, warned]
  split
  · exact ⟨notices, s.layouts, rfl⟩
  · exact ⟨notices, _, rfl⟩

theorem compile_eq_error {s s' : Store} {table : Pattern.WordTable} {given : Value} {fault : Fault}
    (failed : s.compile table given = (s', .error fault)) :
    (Pattern.Formatter.ofValue table given).result = .error fault := by
  rw [Store.compile] at failed
  split at failed
  · next stopped =>
    cases failed
    exact stopped
  · cases failed

theorem start_eq (b : Builder) (s : Store) :
    (Logger.start s b.config).1 = { s with workers := s.workers + b.startedWorkers s } := by
  rw [Logger.start, Builder.startedWorkers]
  split <;> rfl

theorem addConsole_eq (b : Builder) (s : Store) (layout : LayoutId) (l : Logger) :
    (b.addConsole s layout l).1 =
      { s with writers := s.writers ++ b.consoleWriters s layout } := by
  rw [Builder.addConsole, Builder.consoleWriters]
  split
  · rfl
  · rw [List.append_nil]

/-- The file of a builder is opened or not, which adds to the disk and, if it is, a writer, which
the logger gets. -/
theorem addFile_cases {b : Builder} {s s' : Store} {layout : LayoutId} {l : Logger}
    {outcome : Except Fault Logger} (added : b.addFile s layout l = (s', outcome)) :
    (∃ p fault, outcome = .error (.opening fault) ∧ (s.config b.config).logFile = some p ∧
        s' = { s with disk := s'.disk } ∧ s.disk.Gains (s'.disk.IsOnWay p.parent) s'.disk) ∨
      ∃ l' opened, outcome = .ok l' ∧
        IsOpened s.disk s'.disk layout (s.config b.config).logFile opened ∧
        s' = { s with disk := s'.disk, writers := s.writers ++ opened } ∧
        l'.writers = l.writers ++ List.range' s.writers.length opened.length := by
  rw [Builder.addFile] at added
  split at added
  · next missing =>
    cases added
    rw [missing]
    exact .inr ⟨l, [], rfl, .nothing rfl, by rw [List.append_nil], (List.append_nil _).symm⟩
  · next p set =>
    cases opening : s.disk.openFile p "a" "utf-8" with
    | mk disk result =>
    rw [Store.openFile, opening] at added
    have named := Text.PlainEncoding.utf8.ofName_name
    rcases Disk.gains_openFile (m := ⟨.append, false⟩) rfl rfl named opening with
      ⟨fault, rfl, gains⟩ | ⟨file, content, rfl, located, mode, there, gains⟩
    · cases added
      exact .inl ⟨p, fault, rfl, set, rfl, gains⟩
    · cases added
      rw [set]
      exact .inr ⟨_, _, rfl, .file located there (by rw [mode]) gains, rfl, rfl⟩

/-! ## 2. Filters -/

theorem addFilters_eq_error {l : Logger} {filters : List (Option Filter)} {fault : Fault}
    (failed : Builder.addFilters l filters = .error fault) :
    fault = .notAFilter ∧ none ∈ filters := by
  induction filters generalizing l with
  | nil => cases failed
  | cons f filters ih =>
    cases f with
    | none =>
      cases failed
      exact ⟨rfl, List.mem_cons_self⟩
    | some f =>
      obtain ⟨same, member⟩ := ih failed
      exact ⟨same, List.mem_cons_of_mem _ member⟩

/-! ## 3. Failed builds -/

/-- A build that fails leaves what its parts made before one of them failed. -/
theorem build_leaves {b : Builder} {s s' : Store} {fault : Fault}
    (failed : b.build s = (s', .error fault)) : IsEnlarged s s' ∧ IsLeft b s s' fault := by
  have enlarged := isEnlarged_build b s
  rw [failed] at enlarged
  refine ⟨enlarged, ?_⟩
  obtain ⟨notices, layouts, compiled⟩ := compile_eq s b.words (s.config b.config).pattern
  rw [Builder.build] at failed
  split at failed
  · next s₁ _ stopped =>
    rw [stopped] at compiled
    cases failed
    subst compiled
    exact .pattern (compile_eq_error stopped) rfl rfl rfl
  · next s₁ layout ended =>
    rw [ended] at compiled
    subst compiled
    -- The parts up to the terminal cannot fail, and none of them changes the configuration.
    dsimp only at failed
    split at failed
    · next s₂ _ added =>
      cases failed
      rw [addConsole_eq, start_eq] at added
      rcases addFile_cases added with ⟨p, cause, same, set, kept, gains⟩ | ⟨l', opened, done, -⟩
      · cases same
        exact .file layout set gains (by rw [kept]; rfl) (by rw [kept]; rfl)
      · cases done
    · next s₂ filed added =>
      obtain ⟨rfl, stopped⟩ := Prod.mk.inj failed
      obtain ⟨rfl, member⟩ := addFilters_eq_error stopped
      rw [addConsole_eq, start_eq] at added
      rcases addFile_cases added with ⟨p, cause, same, -⟩ | ⟨l', opened, -, isOpened, kept, -⟩
      · cases same
      · exact .filter member isOpened (by rw [kept]; rfl) (by rw [kept]; rfl)

/-- A store with a configuration for a file in a directory that is missing. -/
def deepStore : Store where
  surroundings := default
  configs := [{ pattern := .str "", logFile := some ⟨.here, ["logs".toList, "app.log".toList]⟩ }]

/-- A builder that is given something that is no filter. -/
def unfilteredBuilder : Builder where
  config := 0
  filters := [none]

/-- Whether an outcome is the fault of something that is no filter. -/
def lacksFilter : Except Fault Logger → Bool
  | .error .notAFilter => true
  | _ => false

theorem build_unfilteredBuilder :
    ∃ s', unfilteredBuilder.build deepStore = (s', .error .notAFilter) := by
  have refused : lacksFilter (unfilteredBuilder.build deepStore).2 = true := by decide +kernel
  unfold lacksFilter at refused
  split at refused
  · next same => exact ⟨_, Prod.ext rfl same⟩
  · cases refused

theorem build_leaves_unfilteredBuilder :
    ∃ s', unfilteredBuilder.build deepStore = (s', .error .notAFilter) ∧
      IsEnlarged deepStore s' ∧ IsLeft unfilteredBuilder deepStore s' .notAFilter := by
  obtain ⟨s', failed⟩ := build_unfilteredBuilder
  exact ⟨s', failed, build_leaves failed⟩

/-- A failed build is not undone: the worker is running, and the directory and the file are on the
disk, where nothing was before. -/
theorem failed_build_not_undone :
    ∃ s', unfilteredBuilder.build deepStore = (s', .error .notAFilter) ∧
      deepStore.workers = 0 ∧ s'.workers = 1 ∧
      deepStore.disk.node? ⟨false, ["logs".toList]⟩ = none ∧
      s'.disk.node? ⟨false, ["logs".toList]⟩ = some .directory ∧
      deepStore.disk.node? ⟨false, ["logs".toList, "app.log".toList]⟩ = none ∧
      s'.disk.node? ⟨false, ["logs".toList, "app.log".toList]⟩ = some (.file []) := by
  obtain ⟨s', failed⟩ := build_unfilteredBuilder
  obtain rfl : (unfilteredBuilder.build deepStore).1 = s' := congrArg Prod.fst failed
  exact ⟨_, failed, rfl, by decide +kernel, rfl, by decide +kernel, rfl, by decide +kernel⟩

end LogLayout.Delivery
