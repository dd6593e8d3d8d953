import LogLayout.Proofs.Delivery.Past

/-!
# Flushing and closing

Writing guards each writer from the failures of the others; flushing and closing do not. The writers
that can be flushed are flushed in order up to the first that fails, and its fault is the outcome;
those behind it are not reached. A logger that is shut down gives its writers up before it closes
them, so those that were not reached are never closed. A logger with a queue waits until that is
empty before it flushes any writer, for ever if there is no worker to empty it.

Results:
1. `isOperation_flush`, `isOperation_close`: one writer.
2. `untilFault_endsAt`: any list of writers is called up to the first that fails.
3. `flush_and_shutdown_end_at_fault`: what flushing and shutting down do, and
   `brokenWriter_hides_later`: a writer that fails keeps the ones behind it from both.
-/

namespace LogLayout.Delivery

/-! ## Definitions -/

/-- The calls of an operation on writers in order, without those that are not `able`: all of them,
or up to the first that fails. -/
inductive EndsAt (able : WriterId → Bool) (called : WriterId → Option Fault → Call) :
    List WriterId → List Call → Except Fault Unit → Prop
  | all (ids : List WriterId) :
      EndsAt able called ids ((ids.filter able).map fun id => called id none) (.ok ())
  | stops (before : List WriterId) {id : WriterId} (after : List WriterId) (fault : Fault) :
      able id = true →
      EndsAt able called (before ++ id :: after)
        (((before.filter able).map fun id => called id none) ++ [called id (some fault)])
        (.error fault)

/-- The writer of this number can be flushed. -/
def Store.canFlush (s : Store) (id : WriterId) : Bool := (s.writers[id]?).any Writer.canFlush

/-- The writer of this number can be closed. -/
def Store.canClose (s : Store) (id : WriterId) : Bool := (s.writers[id]?).any Writer.canClose

/-- An operation calls a writer that is able to take part, and does nothing to any other. -/
structure IsOperation (able : Store → WriterId → Bool) (called : WriterId → Option Fault → Call)
    (operation : Store → WriterId → Store × Option Fault) : Prop where
  performed : ∀ s id,
    able s id = true ∧ IsAfter s [called id (operation s id).2] [] (operation s id).1 ∨
      able s id = false ∧ operation s id = (s, none)
  stays : ∀ {s s' calls notices}, IsAfter s calls notices s' → able s' = able s

/-! ## 1. One writer -/

/-- Whether a writer of the kind can be flushed. -/
def WriterKind.canFlush : WriterKind → Bool
  | .custom c => c.flushFault.isSome
  | _ => true

/-- Whether a writer of the kind can be closed. -/
def WriterKind.canClose : WriterKind → Bool
  | .console _ => false
  | .file => true
  | .custom c => c.closeFault.isSome

theorem canFlush_eq (s : Store) (id : WriterId) :
    s.canFlush id = (s.kinds[id]?).any WriterKind.canFlush := by
  have kind (w : Writer) : w.kind.canFlush = w.canFlush := by
    cases sink : w.sink <;> simp [Writer.canFlush, Writer.kind, WriterKind.canFlush, sink]
  rw [Store.canFlush, Store.kinds, List.getElem?_map, Option.any_map]
  simp only [kind]

theorem canClose_eq (s : Store) (id : WriterId) :
    s.canClose id = (s.kinds[id]?).any WriterKind.canClose := by
  have kind (w : Writer) : w.kind.canClose = w.canClose := by
    cases sink : w.sink <;> simp [Writer.canClose, Writer.kind, WriterKind.canClose, sink]
  rw [Store.canClose, Store.kinds, List.getElem?_map, Option.any_map]
  simp only [kind]

/-- Putting the file of a writer back, or taking it away, is no call by itself. -/
theorem isAfter_setFile {s : Store} {id : WriterId} {file : OpenFile} {layout : Option LayoutId}
    (found : s.writers[id]? = some ⟨.file (some file), layout⟩) (disk : Disk)
    (handle : Option OpenFile) :
    IsAfter s [] [] ({ s with disk }.setWriter id ⟨.file handle, layout⟩) :=
  (isAfter_disk s disk).trans
    (isAfter_setWriter (s := { s with disk }) (kinds_getElem? found) ⟨.file handle, layout⟩ rfl)

theorem isOperation_flush : IsOperation Store.canFlush .flushed Store.flush where
  performed s id := by
    cases found : s.writers[id]? with
    | none => exact .inr (by simp [Store.canFlush, Store.flush, found])
    | some w =>
      obtain ⟨sink, layout⟩ := w
      simp only [Store.canFlush, Store.flush, found, Option.any_some, Writer.canFlush]
      cases sink with
      | console colored stream => exact .inl ⟨rfl, isAfter_note s _⟩
      | file handle =>
        cases handle with
        | none => exact .inl ⟨rfl, isAfter_note s _⟩
        | some file => exact .inl ⟨rfl, (isAfter_setFile found _ _).trans (isAfter_note _ _)⟩
      | custom c =>
        dsimp only
        cases able : c.flushFault with
        | none => exact .inr ⟨rfl, rfl⟩
        | some fault? => exact .inl ⟨rfl, isAfter_note s _⟩
  stays after := by
    funext id
    rw [canFlush_eq, canFlush_eq, after.kinds]

theorem isOperation_close : IsOperation Store.canClose .closed Store.close where
  performed s id := by
    cases found : s.writers[id]? with
    | none => exact .inr (by simp [Store.canClose, Store.close, found])
    | some w =>
      obtain ⟨sink, layout⟩ := w
      simp only [Store.canClose, Store.close, found, Option.any_some, Writer.canClose]
      cases sink with
      | console colored stream => exact .inr ⟨rfl, rfl⟩
      | file handle =>
        cases handle with
        | none => exact .inl ⟨rfl, isAfter_note s _⟩
        | some file => exact .inl ⟨rfl, (isAfter_setFile found _ _).trans (isAfter_note _ _)⟩
      | custom c =>
        dsimp only
        cases able : c.closeFault with
        | none => exact .inr ⟨rfl, rfl⟩
        | some fault? => exact .inl ⟨rfl, isAfter_note s _⟩
  stays after := by
    funext id
    rw [canClose_eq, canClose_eq, after.kinds]

/-! ## 2. Any list of writers -/

section
variable {able : WriterId → Bool} {called : WriterId → Option Fault → Call} {id : WriterId}
  {ids : List WriterId} {calls : List Call} {outcome : Except Fault Unit}

theorem EndsAt.skip (unable : able id = false) (ends : EndsAt able called ids calls outcome) :
    EndsAt able called (id :: ids) calls outcome := by
  have filtered (more : List WriterId) : (id :: more).filter able = more.filter able :=
    List.filter_cons_of_neg (by simp [unable])
  cases ends with
  | all => exact filtered ids ▸ .all (id :: ids)
  | stops before after fault takesPart =>
    exact filtered before ▸ .stops (id :: before) after fault takesPart

theorem EndsAt.cons (able_id : able id = true) (ends : EndsAt able called ids calls outcome) :
    EndsAt able called (id :: ids) (called id none :: calls) outcome := by
  have filtered (more : List WriterId) :
      ((id :: more).filter able).map (fun id => called id none) =
        called id none :: (more.filter able).map fun id => called id none := by
    rw [List.filter_cons_of_pos able_id, List.map_cons]
  cases ends with
  | all => exact filtered ids ▸ .all (id :: ids)
  | @stops before last after fault takesPart =>
    have longer : EndsAt able called ((id :: before) ++ last :: after) _ _ :=
      .stops (id :: before) after fault takesPart
    rw [filtered] at longer
    exact longer

/-- Calls other than writes offer nothing. -/
theorem EndsAt.offers (ends : EndsAt able called ids calls outcome)
    (silent : ∀ id fault?, (called id fault?).offer? = none) : offers calls = [] := by
  rw [Delivery.offers, List.filterMap_eq_nil_iff]
  intro call member
  cases ends with
  | all =>
    obtain ⟨id, -, rfl⟩ := List.mem_map.1 member
    exact silent id none
  | stops before after fault takesPart =>
    rcases List.mem_append.1 member with early | last
    · obtain ⟨id, -, rfl⟩ := List.mem_map.1 early
      exact silent id none
    · rw [List.mem_singleton.1 last]
      exact silent _ _

end

theorem untilFault_endsAt {able : Store → WriterId → Bool}
    {called : WriterId → Option Fault → Call} {operation : Store → WriterId → Store × Option Fault}
    (performs : IsOperation able called operation) (s : Store) (ids : List WriterId) :
    ∃ calls, EndsAt (able s) called ids calls (Logger.untilFault operation s ids).2 ∧
      IsAfter s calls [] (Logger.untilFault operation s ids).1 := by
  induction ids generalizing s with
  | nil => exact ⟨[], .all [], .refl s⟩
  | cons id ids ih =>
    rw [Logger.untilFault]
    rcases performs.performed s id with ⟨takesPart, first⟩ | ⟨unable, nothing⟩
    · cases result : operation s id with
      | mk s₁ fault? =>
      rw [result] at first
      cases fault? with
      | some fault => exact ⟨_, .stops [] ids fault takesPart, first⟩
      | none =>
        obtain ⟨calls, ends, others⟩ := ih s₁
        rw [performs.stays first] at ends
        exact ⟨_, ends.cons takesPart, first.trans others⟩
    · rw [nothing]
      obtain ⟨calls, ends, others⟩ := ih s
      exact ⟨calls, ends.skip unable, others⟩

/-! ## 3. Flushing and shutting down -/

/-- The worker's writes change nothing but the past, and are its only calls. -/
theorem isAfter_catchUp {l : Logger} {s : Store} (stored : ∀ id ∈ l.writers, id < s.kinds.length) :
    ∃ written notices, IsAfter s written notices (l.catchUp s).2 ∧
      (∀ call ∈ written, call.offer?.isSome = true) ∧ (l.catchUp s).1.writers = l.writers := by
  have idle : ∃ written notices, IsAfter s written notices s ∧
      (∀ call ∈ written, call.offer?.isSome = true) ∧ l.writers = l.writers :=
    ⟨[], [], .refl s, by simp, rfl⟩
  rw [Logger.catchUp]
  split
  · next p _ =>
    split
    · obtain ⟨written, notices, after, offered⟩ := isAfter_deliverAll stored p.contents
      refine ⟨written, notices, after, ?_, rfl⟩
      intro call member
      have offer := List.mem_map_of_mem (f := Call.offer?) member
      rw [offered] at offer
      obtain ⟨pair, -, same⟩ := List.mem_map.1 offer
      rw [← same]
      rfl
    · exact idle
  · exact idle

/-- The outcome and the store of an operation on the writers of a logger: what waits is written,
then the writers are called up to the first that fails. -/
def CallsUpToFault (able : WriterId → Bool) (called : WriterId → Option Fault → Call)
    (ids : List WriterId) (s : Store) (run : Store × Except Fault Unit) : Prop :=
  ∃ written calls, run.1.calls = s.calls ++ written ++ calls ∧
    (∀ call ∈ written, call.offer?.isSome = true) ∧ EndsAt able called ids calls run.2

theorem callsUpToFault {s s' : Store} {written : List Call} {notices : List Notice}
    (after : IsAfter s written notices s') (only : ∀ call ∈ written, call.offer?.isSome = true)
    {able : Store → WriterId → Bool} {called : WriterId → Option Fault → Call}
    {operation : Store → WriterId → Store × Option Fault}
    (performs : IsOperation able called operation) (ids : List WriterId) :
    CallsUpToFault (able s) called ids s (Logger.untilFault operation s' ids) := by
  obtain ⟨calls, ends, later⟩ := untilFault_endsAt performs s' ids
  rw [performs.stays after] at ends
  exact ⟨written, calls, by rw [later.calls, after.calls], only, ends⟩

/-- A logger without writers whose worker was told to end has nothing to shut down. -/
theorem shutdown_eq_self {l : Logger} (empty : l.writers = [])
    (ended : l.pipeline = l.pipeline.map Pipeline.stop) (s : Store) :
    l.shutdown s = (l, s, .ok ()) := by
  obtain ⟨config, writers, filters, pipeline, logged, dropped, processed⟩ := l
  subst empty
  cases pipeline with
  | none => rfl
  | some p =>
    have stopped : p.running = false := congrArg Pipeline.running (Option.some.inj ended)
    simp [Logger.shutdown, Logger.catchUp, Logger.hasWorker, stopped, Logger.untilFault, ← ended]

theorem shutdown_shutdown (l : Logger) (s : Store) :
    (l.shutdown s).1.shutdown (l.shutdown s).2.1 =
      ((l.shutdown s).1, (l.shutdown s).2.1, .ok ()) := by
  refine shutdown_eq_self rfl ?_ _
  show (l.catchUp s).1.pipeline.map Pipeline.stop =
    ((l.catchUp s).1.pipeline.map Pipeline.stop).map Pipeline.stop
  rw [Option.map_map]
  rfl

/-- What flushing does if it returns. -/
theorem callsUpToFault_flush {l : Logger} {s : Store} {flushed : Logger × Store × Except Fault Unit}
    (stored : ∀ id ∈ l.writers, id < s.kinds.length) (returns : l.flush s = some flushed) :
    CallsUpToFault s.canFlush .flushed l.writers s flushed.2 := by
  obtain ⟨written, notices, after, only, same⟩ := isAfter_catchUp stored
  simp only [Logger.flush, Option.ite_none_left_eq_some, Option.some.injEq] at returns
  obtain ⟨-, rfl⟩ := returns
  by_cases queued : (s.config l.config).asyncMode = true
  · rw [if_pos queued, ← same]
    exact callsUpToFault after only isOperation_flush _
  · rw [if_neg queued]
    exact callsUpToFault (.refl s) (by simp) isOperation_flush _

/-- Flushing calls the writers up to the first that fails, and so does shutting down, after which
the logger has no writers and shutting down again does nothing. Before it calls any writer, flushing
waits for ever if entries are queued for a worker that was told to end or cannot wait for them. -/
theorem flush_and_shutdown_end_at_fault {l : Logger} {s : Store}
    (stored : ∀ id ∈ l.writers, id < s.kinds.length) :
    (l.flush s = none ↔ (s.config l.config).asyncMode = true ∧
        ∃ p, l.pipeline = some p ∧ p.queue ≠ [] ∧
          ¬(p.running = true ∧ CanWait (s.config l.config))) ∧
      (∀ flushed, l.flush s = some flushed →
        CallsUpToFault s.canFlush .flushed l.writers s flushed.2) ∧
      CallsUpToFault s.canClose .closed l.writers s (l.shutdown s).2 ∧
      (l.shutdown s).1.shutdown (l.shutdown s).2.1 =
        ((l.shutdown s).1, (l.shutdown s).2.1, .ok ()) := by
  obtain ⟨written, notices, after, only, same⟩ := isAfter_catchUp stored
  refine ⟨Logger.flush_eq_none_iff, fun _ => callsUpToFault_flush stored, ?_, shutdown_shutdown l s⟩
  rw [← same]
  exact callsUpToFault after only isOperation_close _

/-- What the operating system says when nothing more can be stored. -/
def diskFull : Fault := .raised "OSError" "disk full"

/-- A store with a writer that can neither be flushed nor closed without a fault, and another
one. -/
def brokenStore : Store where
  surroundings := default
  configs := [.debugging]
  writers := [
    ⟨.custom { name := "Broken", flushFault := some fun _ => some diskFull
               closeFault := some fun _ => some diskFull }, none⟩,
    ⟨.custom { name := "Memory" }, none⟩]

/-- The logger of both writers. -/
def brokenLogger : Logger := { config := 0, writers := [0, 1] }

theorem flush_and_shutdown_of_brokenLogger :
    (∀ id ∈ brokenLogger.writers, id < brokenStore.kinds.length) ∧
      (∃ flushed, brokenLogger.flush brokenStore = some flushed ∧
        CallsUpToFault brokenStore.canFlush .flushed [0, 1] brokenStore flushed.2) ∧
      CallsUpToFault brokenStore.canClose .closed [0, 1] brokenStore
        (brokenLogger.shutdown brokenStore).2 := by
  have stored : ∀ id ∈ brokenLogger.writers, id < brokenStore.kinds.length := by decide
  obtain ⟨-, flushed, closed, -⟩ := flush_and_shutdown_end_at_fault stored
  exact ⟨stored, ⟨_, rfl, flushed _ rfl⟩, closed⟩

/-- The writer behind the broken one is neither flushed nor ever closed, and the fault is passed
on. -/
theorem brokenWriter_hides_later :
    let closed := brokenLogger.shutdown brokenStore
    (brokenStore.canFlush 1 = true ∧ brokenStore.canClose 1 = true) ∧
      (∃ flushed, brokenLogger.flush brokenStore = some flushed ∧
        flushed.2.1.calls = [.flushed 0 (some diskFull)] ∧ flushed.2.2 = .error diskFull) ∧
      (closed.2.1.calls = [.closed 0 (some diskFull)] ∧ closed.2.2 = .error diskFull) ∧
      (closed.1.shutdown closed.2.1).2.1.calls = [.closed 0 (some diskFull)] :=
  ⟨⟨rfl, rfl⟩, ⟨_, rfl, rfl, rfl⟩, ⟨rfl, rfl⟩, rfl⟩

end LogLayout.Delivery
