import LogLayout.Proofs.Delivery.Direct
import LogLayout.Proofs.Delivery.Ending

/-!
# Logging with a worker

A logger with a worker puts accepted entries into a queue, and the worker takes them out and writes
them in batches. The moves of both come in any order. When the worker decides to write, the batch is
emptied, and the write follows as a move of its own, so that messages may come in between. This
module says what is so after every move: the entries that were written, those about to be written,
those in the batch and those in the queue are together the entries that were kept, in the order of
their messages.

Results:
1. `isAccounted_log`: a message keeps the accounts, and is dropped only if the queue is full.
2. `isAccounted_step`: so does each of the other moves.
3. `isAccounted_runs`: and so does any run.
4. `isComplete_of_processed`, `isComplete_of_stop`: when all entries have been written.
5. `exists_drained`: a worker that goes on until nothing waits makes one of the runs; hence
   `offers_flush` and `offers_shutdown`, what a caller may rely on who waits for it.
-/

namespace LogLayout.Delivery

/-! ## Definitions -/

/-- What the worker is at. -/
inductive Phase
  /-- It waits for an entry. -/
  | waiting
  /-- It is about to write these entries. -/
  | writing (es : List Entry)
  /-- It was told to end, and is about to write its last entries. -/
  | leaving (es : List Entry)
  | ended
  /-- It could not wait, and has ended without writing what it had. -/
  | failed (fault : Fault)

/-- The entries of a write that is due. -/
def Phase.underWay : Phase → List Entry
  | writing es | leaving es => es
  | waiting | ended | failed _ => []

/-- Whether the worker found that it was told to end. -/
def Phase.hasLeft : Phase → Bool
  | leaving _ | ended => true
  | waiting | writing _ | failed _ => false

/-- A logger at work. -/
structure Run where
  logger : Logger
  store : Store
  phase : Phase := .waiting
  /-- The entries that passed threshold and filters, and whether each was dropped. -/
  passed : List (Entry × Bool) := []
  written : List Entry := []

/-- The entries that passed and were not dropped. -/
def Run.kept (x : Run) : List Entry := (x.passed.filter fun e => !e.2).map (·.1)

/-- For how many milliseconds the worker is to wait for an entry. -/
def Run.interval (x : Run) : Int := (x.store.config x.logger.config).flushInterval.toInt

/-- A new logger with writers. -/
def Run.start (s : Store) (config : ConfigId) (ids : List WriterId) : Run where
  logger := ids.foldl Logger.addWriter (Logger.start s config).2
  store := (Logger.start s config).1

/-- The entry of a call that passes threshold and filters. -/
def Logger.passes? (l : Logger) (s : Store) (level : Setting.Quantity) (call : Logger.Call) :
    Option Entry :=
  match level with
  | .number _ => none
  | .level level =>
    let e := (Message.mk level call).entry (s.config l.config)
    if call.surplus = [] ∧ (s.config l.config).minLevel.number ≤ level.number ∧
      (s.accepts e 0 l.filters).2 = true then some e else none

/-- A message is logged. -/
def Run.log (x : Run) (level : Setting.Quantity) (call : Logger.Call) : Run :=
  let next := x.logger.log x.store level call
  { x with
    logger := next.1
    store := next.2.1
    passed := x.passed ++ ((x.logger.passes? x.store level call).map fun e =>
      (e, decide (x.logger.dropped < next.1.dropped))).toList }

/-- The worker moves entries from queue and batch. -/
def Run.moving (x : Run) (p : Pipeline Entry) (phase : Phase) : Run :=
  { x with logger := { x.logger with pipeline := some p }, phase }

/-- The worker writes entries. -/
def Run.writing (x : Run) (es : List Entry) (phase : Phase) : Run :=
  let next := x.logger.writeBatch x.store es
  { x with logger := next.1, store := next.2, phase, written := x.written ++ es }

/-- The moves of callers and of the worker. -/
inductive Move
  | log (level : Setting.Quantity) (call : Logger.Call)
  | addFilter (f : Filter)
  /-- The writers are flushed. -/
  | flush
  /-- The worker is told to end. -/
  | stop
  /-- The worker takes an entry; `due` if it is time to write. -/
  | take (due : Bool)
  /-- The worker finds the queue empty for too long. -/
  | expire
  /-- The worker finds that it was told to end. -/
  | leave
  | write
  /-- The worker finds that it cannot wait for an entry. -/
  | fail

/-- The moves of the worker. -/
def Move.isWorker : Move → Bool
  | take _ | expire | leave | write | fail => true
  | log .. | addFilter _ | flush | stop => false

def Move.isLog : Move → Bool
  | log .. => true
  | _ => false

/-- One move. What the worker takes out of queue and batch it is then about to write; that is
nothing if the batch has room and writing is not due. -/
inductive Step (x : Run) : Move → Run → Prop
  | log (level : Setting.Quantity) (call : Logger.Call) :
      Step x (.log level call) (x.log level call)
  | addFilter (f : Filter) :
      Step x (.addFilter f)
        { x with logger := { x.logger with filters := x.logger.filters ++ [f] } }
  | flush :
      Step x .flush { x with store := (Logger.untilFault Store.flush x.store x.logger.writers).1 }
  | stop :
      Step x .stop { x with logger := { x.logger with pipeline := x.logger.pipeline.map .stop } }
  | take {p p' : Pipeline Entry} {es : List Entry} (due : Bool) :
      x.phase = .waiting → x.logger.pipeline = some p → waitFault? x.interval true = none →
      p.take? (x.store.config x.logger.config).batchSize.toInt due = some (p', es) →
      Step x (.take due) (x.moving p' (if es.isEmpty then .waiting else .writing es))
  | expire {p p' : Pipeline Entry} {es : List Entry} :
      x.phase = .waiting → x.logger.pipeline = some p → waitFault? x.interval false = none →
      p.expire? = some (p', es) →
      Step x .expire (x.moving p' (.writing es))
  | leave {p p' : Pipeline Entry} {es : List Entry} :
      x.phase = .waiting → x.logger.pipeline = some p → p.finish? = some (p', es) →
      Step x .leave (x.moving p' (.leaving es))
  | write {es : List Entry} : x.phase = .writing es → Step x .write (x.writing es .waiting)
  | writeLast {es : List Entry} : x.phase = .leaving es → Step x .write (x.writing es .ended)
  | fail {p : Pipeline Entry} {fault : Fault} :
      x.phase = .waiting → x.logger.pipeline = some p →
      waitFault? x.interval (!p.queue.isEmpty) = some fault →
      Step x .fail { x with phase := .failed fault }

/-- Moves one after the other. -/
inductive Runs : Run → List Move → Run → Prop
  | none {x : Run} : Runs x [] x
  | more {x y z : Run} {m : Move} {ms : List Move} : Step x m y → Runs y ms z → Runs x (m :: ms) z

/-- A logger of the configuration and the writers has a worker, and a full batch fits into its
queue. -/
structure CanRun (s : Store) (config : ConfigId) (ids : List WriterId) : Prop where
  queued : (s.config config).asyncMode = true
  batch : 0 < (s.config config).batchSize.toInt
  fits : (s.config config).batchSize.toInt ≤ (s.config config).queueSize.toInt
  stored : ∀ id ∈ ids, id < s.kinds.length

/-- What no move changes of a logger that was started for these writers. -/
structure IsSetUp (s : Store) (config : ConfigId) (ids : List WriterId) (x : Run)
    (p : Pipeline Entry) : Prop where
  pipeline : x.logger.pipeline = some p
  capacity : p.capacity = (s.config config).queueSize.toInt
  writers : x.logger.writers = ids
  configs : x.store.configs = s.configs
  kinds : x.store.kinds = s.kinds
  config : x.logger.config = config

/-- Where the entries are, and what the counters say of them. -/
structure IsAccounted (s : Store) (config : ConfigId) (ids : List WriterId) (x : Run)
    (p : Pipeline Entry) : Prop where
  contents : x.written ++ x.phase.underWay ++ p.batch ++ p.queue = x.kept
  queue : p.queue.length ≤ (s.config config).queueSize.toInt
  batch : p.batch.length < (s.config config).batchSize.toInt
  /-- Together they are never more than a full batch. -/
  underWay : x.phase.underWay.length + p.batch.length ≤ (s.config config).batchSize.toInt
  left : x.phase.hasLeft = true → p.running = false ∧ p.batch = []
  passed : x.logger.logged + x.logger.dropped = x.passed.length
  logged : x.logger.logged = x.kept.length
  processed : x.logger.processed = x.written.length
  offers : offers x.store.calls = offers s.calls ++ fanOut ids x.written

/-- Each of the writers was offered all entries that were kept. -/
structure IsComplete (s : Store) (ids : List WriterId) (x : Run) : Prop where
  written : x.written = x.kept
  offers : offers x.store.calls = offers s.calls ++ fanOut ids x.kept

/-! ## 1. One message -/

theorem entryFault?_eq_none {call : Logger.Call} (known : call.entryFault? = none) :
    call.surplus = [] := by
  rw [Logger.Call.entryFault?] at known
  split at known
  · simp at known
  · simpa using known

/-- A call that is faulty or below the threshold does nothing. -/
theorem log_idle {l : Logger} {s : Store} {level : Setting.Quantity} {call : Logger.Call}
    (idle : ∀ lv, level = .level lv → call.surplus = [] →
      lv.number < (s.config l.config).minLevel.number) :
    (l.log s level call).1 = l ∧ (l.log s level call).2.1 = s := by
  unfold Logger.log
  split
  · exact ⟨rfl, rfl⟩
  · dsimp only
    split
    · exact ⟨rfl, rfl⟩
    · next reaches =>
      split
      · exact ⟨rfl, rfl⟩
      · exact ⟨rfl, rfl⟩
      · next lv known =>
        have below := idle lv rfl (entryFault?_eq_none known)
        exact absurd (Int.ofNat_lt.2 below) reaches

/-- A call that does not pass calls at most filters; one that passes hands its entry over. -/
theorem log_cases (l : Logger) (s : Store) (level : Setting.Quantity) (call : Logger.Call) :
    (l.passes? s level call = none ∧ (l.log s level call).1 = l ∧
        ∃ calls notices, IsAfter s calls notices (l.log s level call).2.1 ∧ offers calls = []) ∨
      ∃ e s' calls notices, l.passes? s level call = some e ∧
        l.log s level call = l.handOver s' e ∧ IsAfter s calls notices s' ∧ offers calls = [] := by
  by_cases idle : ∀ lv, level = .level lv → call.surplus = [] →
      lv.number < (s.config l.config).minLevel.number
  · obtain ⟨same, stays⟩ := log_idle idle
    refine .inl ⟨?_, same, [], [], by rw [stays]; exact .refl s, rfl⟩
    cases level with
    | number n => rfl
    | level lv =>
      refine if_neg ?_
      rintro ⟨plain, reaches, -⟩
      exact absurd (idle lv rfl plain) (Nat.not_lt_of_le reaches)
  · simp only [Classical.not_forall, Nat.not_lt] at idle
    obtain ⟨lv, rfl, plain, reaches⟩ := idle
    obtain ⟨asked, verdicts, judging, -⟩ :=
      isAfter_accepts s ((Message.mk lv call).entry (s.config l.config)) 0 l.filters
    cases judged : s.accepts ((Message.mk lv call).entry (s.config l.config)) 0 l.filters with
    | mk s' keeps =>
    rw [judged] at judging
    have logged : l.log s (.level lv) call = _ := log_judged (m := ⟨lv, call⟩) plain reaches judged
    cases keeps with
    | false =>
      have stays : (l.log s (.level lv) call).2.1 = s' := congrArg (·.2.1) logged
      refine .inl ⟨?_, congrArg Prod.fst logged, asked, _, stays.symm ▸ judging, verdicts.offers⟩
      simp [Logger.passes?, judged]
    | true =>
      refine .inr ⟨_, s', asked, _, ?_, logged, judging, verdicts.offers⟩
      simp [Logger.passes?, judged, plain, reaches]

section
variable {s : Store} {config : ConfigId} {ids : List WriterId} {x : Run} {p : Pipeline Entry}

theorem IsSetUp.config_eq (setUp : IsSetUp s config ids x p) :
    x.store.config x.logger.config = s.config config := by
  rw [Store.config, Store.config, setUp.configs, setUp.config]

/-- The writers of the logger are in its store. -/
theorem IsSetUp.stored (can : CanRun s config ids) (setUp : IsSetUp s config ids x p) :
    ∀ id ∈ x.logger.writers, id < x.store.kinds.length := by
  rw [setUp.writers, setUp.kinds]
  exact can.stored

/-- Calls that offer nothing to writers leave the accounts as they are. -/
theorem isSetUp_of_isAfter (setUp : IsSetUp s config ids x p) {s' : Store} {calls : List Call}
    {notices : List Notice} (after : IsAfter x.store calls notices s') :
    IsSetUp s config ids { x with store := s' } p :=
  { setUp with
    configs := after.configs.trans setUp.configs
    kinds := after.kinds.trans setUp.kinds }

theorem isAccounted_of_isAfter (accounted : IsAccounted s config ids x p) {s' : Store}
    {calls : List Call} {notices : List Notice} (after : IsAfter x.store calls notices s')
    (silent : offers calls = []) : IsAccounted s config ids { x with store := s' } p :=
  { accounted with
    offers := by
      rw [after.calls, offers_append, silent, List.append_nil]
      exact accounted.offers }

/-- The queue has room unless it holds as many entries as it may. -/
theorem isFull_iff (can : CanRun s config ids) (setUp : IsSetUp s config ids x p) :
    p.isFull = true ↔ (s.config config).queueSize.toInt ≤ p.queue.length := by
  rw [Pipeline.isFull, setUp.capacity]
  simp [Int.lt_of_lt_of_le can.batch can.fits]

theorem isAccounted_keep (can : CanRun s config ids) (setUp : IsSetUp s config ids x p)
    (accounted : IsAccounted s config ids x p) {p' : Pipeline Entry} {e : Entry}
    (offered : p.offer? e = some p') :
    IsAccounted s config ids
      { x with
        logger := { x.logger with pipeline := some p', logged := x.logger.logged + 1 }
        passed := x.passed ++ [(e, false)] } p' := by
  obtain ⟨room, rfl⟩ := Pipeline.offer?_cases offered
  have short : p.queue.length < (s.config config).queueSize.toInt := by
    have full := isFull_iff can setUp
    rw [room] at full
    simpa using full
  have kept : Run.kept { x with passed := x.passed ++ [(e, false)] } = x.kept ++ [e] := by
    simp [Run.kept]
  refine { accounted with contents := ?_, queue := ?_, passed := ?_, logged := ?_ }
  · show x.written ++ x.phase.underWay ++ p.batch ++ (p.queue ++ [e]) =
      Run.kept { x with passed := x.passed ++ [(e, false)] }
    rw [kept, ← accounted.contents, List.append_assoc _ p.queue]
  · show ((p.queue ++ [e]).length : Int) ≤ _
    rw [List.length_append, List.length_singleton]
    omega
  · show x.logger.logged + 1 + x.logger.dropped = (x.passed ++ [(e, false)]).length
    rw [List.length_append, List.length_singleton, ← accounted.passed]
    omega
  · show x.logger.logged + 1 = (Run.kept { x with passed := x.passed ++ [(e, false)] }).length
    rw [kept, List.length_append, List.length_singleton, accounted.logged]

theorem isAccounted_drop (accounted : IsAccounted s config ids x p) (e : Entry) :
    IsAccounted s config ids
      { x with
        logger := { x.logger with dropped := x.logger.dropped + 1 }
        passed := x.passed ++ [(e, true)] } p := by
  have kept : Run.kept { x with passed := x.passed ++ [(e, true)] } = x.kept := by
    simp [Run.kept]
  refine { accounted with contents := ?_, passed := ?_, logged := ?_ }
  · show _ = Run.kept { x with passed := x.passed ++ [(e, true)] }
    rw [kept]
    exact accounted.contents
  · show x.logger.logged + (x.logger.dropped + 1) = (x.passed ++ [(e, true)]).length
    rw [List.length_append, List.length_singleton, ← accounted.passed]
    omega
  · show _ = (Run.kept { x with passed := x.passed ++ [(e, true)] }).length
    rw [kept]
    exact accounted.logged

/-- An entry is put into the queue, or dropped. -/
theorem handOver_queued {l : Logger} {s : Store} (queued : (s.config l.config).asyncMode = true)
    {p : Pipeline Entry} (has : l.pipeline = some p) (e : Entry) :
    l.handOver s e =
      match p.offer? e with
      | some p => ({ l with pipeline := some p, logged := l.logged + 1 }, s, .ok ())
      | none => ({ l with dropped := l.dropped + 1 }, s, .ok ()) := by
  rw [Logger.handOver, if_pos queued]
  split
  · next missing => exact absurd (missing.symm.trans has) (by simp)
  · next q found =>
    obtain rfl := Option.some.inj (found.symm.trans has)
    rfl

/-- A message keeps the accounts, and is dropped only if the queue is full. -/
theorem isAccounted_log (can : CanRun s config ids) (setUp : IsSetUp s config ids x p)
    (accounted : IsAccounted s config ids x p) (level : Setting.Quantity) (call : Logger.Call) :
    ∃ p', IsSetUp s config ids (x.log level call) p' ∧
      IsAccounted s config ids (x.log level call) p' ∧
      (x.logger.dropped < (x.log level call).logger.dropped →
        p.queue.length = (s.config config).queueSize.toInt) := by
  rcases log_cases x.logger x.store level call with
    ⟨unpassed, same, calls, notices, after, silent⟩ |
    ⟨e, s', calls, notices, passed, handed, after, silent⟩
  · have logged : x.log level call =
        { x with store := (x.logger.log x.store level call).2.1 } := by
      simp [Run.log, unpassed, same]
    rw [logged]
    exact ⟨p, isSetUp_of_isAfter setUp after, isAccounted_of_isAfter accounted after silent,
      fun more => absurd more (Nat.lt_irrefl _)⟩
  · have setUp' := isSetUp_of_isAfter setUp after
    have accounted' := isAccounted_of_isAfter accounted after silent
    have queued' : (s'.config x.logger.config).asyncMode = true := by
      rw [after.config, setUp.config_eq, can.queued]
    rw [handOver_queued queued' setUp.pipeline] at handed
    cases offered : p.offer? e with
    | some p' =>
      rw [offered] at handed
      have logged : x.log level call =
          { x with
            logger := { x.logger with pipeline := some p', logged := x.logger.logged + 1 }
            store := s', passed := x.passed ++ [(e, false)] } := by
        simp [Run.log, passed, handed]
      rw [logged]
      obtain ⟨-, same⟩ := Pipeline.offer?_cases offered
      refine ⟨p', { setUp' with pipeline := rfl, capacity := ?_ },
        isAccounted_keep can setUp' accounted' offered,
        fun more => absurd more (Nat.lt_irrefl _)⟩
      rw [same]
      exact setUp.capacity
    | none =>
      rw [offered] at handed
      have logged : x.log level call =
          { x with
            logger := { x.logger with dropped := x.logger.dropped + 1 }
            store := s', passed := x.passed ++ [(e, true)] } := by
        simp [Run.log, passed, handed]
      rw [logged]
      refine ⟨p, { setUp' with }, isAccounted_drop accounted' e, fun _ => ?_⟩
      have full : p.isFull = true := by simpa [Pipeline.offer?] using offered
      exact Int.le_antisymm accounted.queue ((isFull_iff can setUp).1 full)

/-! ## 2. Any move -/

theorem isSetUp_moving (setUp : IsSetUp s config ids x p) (p' : Pipeline Entry)
    (same : p'.capacity = p.capacity) (phase : Phase) :
    IsSetUp s config ids (x.moving p' phase) p' :=
  { setUp with
    pipeline := rfl
    capacity := same.trans setUp.capacity }

/-- The worker moves entries on, and those that leave queue and batch are to be written. -/
theorem isAccounted_moving (accounted : IsAccounted s config ids x p) (waits : x.phase = .waiting)
    {p' : Pipeline Entry} {phase : Phase}
    (contents : phase.underWay ++ p'.contents = p.contents)
    (queue : p'.queue.length ≤ p.queue.length)
    (batch : p'.batch.length < (s.config config).batchSize.toInt)
    (underWay : phase.underWay.length + p'.batch.length ≤ (s.config config).batchSize.toInt)
    (left : phase.hasLeft = true → p'.running = false ∧ p'.batch = []) :
    IsAccounted s config ids (x.moving p' phase) p' :=
  { accounted with
    contents := by
      have before := accounted.contents
      rw [waits, Phase.underWay, List.append_nil, List.append_assoc] at before
      show x.written ++ phase.underWay ++ p'.batch ++ p'.queue = x.kept
      rw [List.append_assoc, List.append_assoc, ← Pipeline.contents, contents]
      exact before
    queue := Int.le_trans (Int.ofNat_le.2 queue) accounted.queue
    batch := batch
    underWay := underWay
    left := left }

/-- The worker takes an entry. -/
theorem isAccounted_take (accounted : IsAccounted s config ids x p) (waits : x.phase = .waiting)
    {p' : Pipeline Entry} {es : List Entry} {due : Bool}
    (taken : p.take? (s.config config).batchSize.toInt due = some (p', es)) :
    IsAccounted s config ids (x.moving p' (if es.isEmpty then .waiting else .writing es)) p' := by
  have underWay : (if es.isEmpty then Phase.waiting else .writing es).underWay = es := by
    cases es <;> rfl
  have contents := Pipeline.take?_contents taken
  -- before the move the batch had room for one more entry, which makes it full at most
  have small := accounted.batch
  obtain ⟨a, queue, found, moved⟩ := Pipeline.take?_cases taken
  have shorter : p'.queue.length ≤ p.queue.length := by
    rw [found]
    rcases moved with ⟨rfl, -⟩ | ⟨-, rfl, -⟩ <;> exact Nat.le_succ _
  have bounds : p'.batch.length < (s.config config).batchSize.toInt ∧
      es.length + p'.batch.length ≤ (s.config config).batchSize.toInt := by
    rcases moved with ⟨rfl, rfl⟩ | ⟨room, rfl, rfl⟩ <;>
      simp only [List.length_append, List.length_nil, List.length_singleton] <;> omega
  refine isAccounted_moving accounted waits ?_ shorter bounds.1 ?_ ?_
  · rw [underWay, contents]
  · rw [underWay]
    exact bounds.2
  · cases es <;> simp [Phase.hasLeft]

/-- Entries that were to be written are written. -/
theorem isAccounted_writing (can : CanRun s config ids) (setUp : IsSetUp s config ids x p)
    (accounted : IsAccounted s config ids x p) {es : List Entry}
    (underWay : x.phase.underWay = es) (phase : Phase) (finished : phase.underWay = [])
    (left : phase.hasLeft = true → x.phase.hasLeft = true) :
    IsSetUp s config ids (x.writing es phase) p ∧
      IsAccounted s config ids (x.writing es phase) p := by
  obtain ⟨calls, notices, after, offered⟩ := isAfter_deliverAll (setUp.stored can) es
  refine ⟨{ setUp with
    configs := after.configs.trans setUp.configs
    kinds := after.kinds.trans setUp.kinds }, { accounted with
    contents := ?_, underWay := ?_, left := ?_, processed := ?_, offers := ?_ }⟩
  · show x.written ++ es ++ phase.underWay ++ p.batch ++ p.queue = x.kept
    rw [finished, List.append_nil, ← underWay]
    exact accounted.contents
  · show (phase.underWay.length : Int) + _ ≤ _
    have := accounted.underWay
    rw [finished, List.length_nil]
    omega
  · exact fun now => accounted.left (left now)
  · show x.logger.processed + es.length = (x.written ++ es).length
    rw [List.length_append, accounted.processed]
  · show Delivery.offers (x.store.deliverAll es x.logger.writers).calls = _
    rw [after.calls, offers_append, accounted.offers, offers_of_map offered, setUp.writers,
      List.append_assoc, ← fanOut_append]
    rfl

/-- Flushing writers offers them nothing. -/
theorem isAfter_untilFault_flush (s : Store) (ids : List WriterId) :
    ∃ calls, IsAfter s calls [] (Logger.untilFault Store.flush s ids).1 ∧ offers calls = [] := by
  obtain ⟨calls, ends, after⟩ := untilFault_endsAt isOperation_flush s ids
  exact ⟨calls, after, ends.offers fun _ _ => rfl⟩

/-- Each move keeps the accounts, and an entry is dropped only if the queue is full. -/
theorem isAccounted_step (can : CanRun s config ids) (setUp : IsSetUp s config ids x p)
    (accounted : IsAccounted s config ids x p) {m : Move} {y : Run} (step : Step x m y) :
    ∃ p', IsSetUp s config ids y p' ∧ IsAccounted s config ids y p' ∧
      (x.logger.dropped < y.logger.dropped →
        p.queue.length = (s.config config).queueSize.toInt) := by
  -- only messages are dropped: all other moves leave that counter as it is
  have steady : x.logger.dropped < x.logger.dropped →
      p.queue.length = (s.config config).queueSize.toInt :=
    fun more => absurd more (Nat.lt_irrefl _)
  have small := accounted.batch
  cases step with
  | log level call => exact isAccounted_log can setUp accounted level call
  | addFilter f => exact ⟨p, { setUp with }, { accounted with }, steady⟩
  | flush =>
    obtain ⟨calls, after, silent⟩ := isAfter_untilFault_flush x.store x.logger.writers
    exact ⟨p, isSetUp_of_isAfter setUp after, isAccounted_of_isAfter accounted after silent, steady⟩
  | stop =>
    refine ⟨p.stop, { setUp with pipeline := ?_ }, { accounted with left := ?_ }, steady⟩
    · show x.logger.pipeline.map Pipeline.stop = some p.stop
      rw [setUp.pipeline]
      rfl
    · exact fun left => ⟨rfl, (accounted.left left).2⟩
  | @take q p' es due waits has able taken =>
    obtain rfl : p = q := Option.some.inj (setUp.pipeline.symm.trans has)
    rw [setUp.config_eq] at taken
    have same : p'.capacity = p.capacity := by
      obtain ⟨_, _, -, ⟨rfl, -⟩ | ⟨-, rfl, -⟩⟩ := Pipeline.take?_cases taken <;> rfl
    exact ⟨p', isSetUp_moving setUp p' same _, isAccounted_take accounted waits taken, steady⟩
  | @expire q p' es waits has able expired =>
    obtain rfl : p = q := Option.some.inj (setUp.pipeline.symm.trans has)
    have contents := Pipeline.expire?_contents expired
    obtain ⟨-, rfl, rfl⟩ := Pipeline.expire?_cases expired
    refine ⟨_, isSetUp_moving setUp { p with batch := [] } rfl _,
      isAccounted_moving accounted waits contents (Nat.le_refl _) ?_ ?_
        (fun left => absurd left (by simp [Phase.hasLeft])), steady⟩
    · simp only [List.length_nil]
      omega
    · simp only [Phase.underWay, List.length_nil]
      omega
  | @leave q p' es waits has finished =>
    obtain rfl : p = q := Option.some.inj (setUp.pipeline.symm.trans has)
    have contents := Pipeline.finish?_contents finished
    obtain ⟨⟨told, -⟩, rfl, rfl⟩ := Pipeline.finish?_cases finished
    refine ⟨_, isSetUp_moving setUp { p with batch := [] } rfl _,
      isAccounted_moving accounted waits contents (Nat.le_refl _) ?_ ?_ (fun _ => ⟨told, rfl⟩),
      steady⟩
    · simp only [List.length_nil]
      omega
    · simp only [Phase.underWay, List.length_nil]
      omega
  | write writing =>
    have underWay := congrArg Phase.underWay writing
    obtain ⟨setUp', accounted'⟩ :=
      isAccounted_writing can setUp accounted underWay .waiting rfl (by simp [Phase.hasLeft])
    exact ⟨p, setUp', accounted', steady⟩
  | writeLast leaving =>
    have underWay := congrArg Phase.underWay leaving
    obtain ⟨setUp', accounted'⟩ :=
      isAccounted_writing can setUp accounted underWay .ended rfl (by simp [Phase.hasLeft, leaving])
    exact ⟨p, setUp', accounted', steady⟩
  | @fail q fault waits has cannot =>
    have idle : x.phase.underWay = [] := by rw [waits]; rfl
    refine ⟨p, { setUp with }, { accounted with contents := ?_, underWay := ?_, left := ?_ }, steady⟩
    · show x.written ++ [] ++ p.batch ++ p.queue = x.kept
      rw [← idle]
      exact accounted.contents
    · show ((([] : List Entry).length : Nat) : Int) + p.batch.length ≤ _
      rw [← idle]
      exact accounted.underWay
    · exact fun left => absurd left (by simp [Phase.hasLeft])

end

/-! ## 3. Any run -/

theorem foldl_addWriter (l : Logger) (ids : List WriterId) :
    ids.foldl Logger.addWriter l = { l with writers := l.writers ++ ids } := by
  induction ids generalizing l with
  | nil => simp
  | cons id ids ih =>
    rw [List.foldl_cons, ih]
    simp [Logger.addWriter]

section
variable {s : Store} {config : ConfigId} {ids : List WriterId} {x y : Run} {p : Pipeline Entry}
  {ms : List Move}

theorem isAccounted_start (can : CanRun s config ids) :
    ∃ p, IsSetUp s config ids (Run.start s config ids) p ∧
      IsAccounted s config ids (Run.start s config ids) p := by
  have started : Run.start s config ids =
      { logger :=
          { config, writers := ids
            pipeline := some { capacity := (s.config config).queueSize.toInt } }
        store := { s with workers := s.workers + 1 } } := by
    rw [Run.start, Logger.start, if_pos can.queued, foldl_addWriter]
    rfl
  have batch := can.batch
  have fits := can.fits
  rw [started]
  refine ⟨_, ⟨rfl, rfl, rfl, rfl, rfl, rfl⟩, ⟨rfl, ?_, ?_, ?_, ?_, rfl, rfl, rfl, ?_⟩⟩
  · simp only [List.length_nil]
    omega
  · simpa using batch
  · simp only [Phase.underWay, List.length_nil]
    omega
  · simp [Phase.hasLeft]
  · simp [fanOut]

theorem isAccounted_runs (can : CanRun s config ids) (setUp : IsSetUp s config ids x p)
    (accounted : IsAccounted s config ids x p) (runs : Runs x ms y) :
    ∃ p', IsSetUp s config ids y p' ∧ IsAccounted s config ids y p' := by
  induction runs generalizing p with
  | none => exact ⟨p, setUp, accounted⟩
  | more step _ ih =>
    obtain ⟨p', setUp', accounted', -⟩ := isAccounted_step can setUp accounted step
    exact ih setUp' accounted'

/-! ## 4. When everything is written -/

theorem isComplete_of_written (accounted : IsAccounted s config ids x p)
    (all : x.written = x.kept) : IsComplete s ids x := ⟨all, all ▸ accounted.offers⟩

/-- When as many entries were written as were logged, none is left. -/
theorem isComplete_of_processed (accounted : IsAccounted s config ids x p)
    (all : x.logger.logged ≤ x.logger.processed) : IsComplete s ids x := by
  have contents := accounted.contents
  rw [List.append_assoc, List.append_assoc] at contents
  have lengths := congrArg List.length contents
  rw [List.length_append, ← accounted.processed, ← accounted.logged] at lengths
  have rest := List.length_eq_zero_iff.1 (Nat.le_zero.1 (Nat.le_of_add_le_add_left (lengths ▸ all)))
  rw [rest, List.append_nil] at contents
  exact isComplete_of_written accounted contents

/-- When the worker has ended and nothing is queued, none is left. -/
theorem isComplete_of_ended (accounted : IsAccounted s config ids x p) (ended : x.phase = .ended)
    (empty : p.queue = []) : IsComplete s ids x := by
  have contents := accounted.contents
  rw [empty, (accounted.left (by rw [ended]; rfl)).2, ended] at contents
  simp only [Phase.underWay, List.append_nil] at contents
  exact isComplete_of_written accounted contents

/-- A move other than a message puts nothing into the queue of a worker that has left. -/
theorem queue_eq_nil_step {p' : Pipeline Entry} {m : Move} (has : x.logger.pipeline = some p)
    (has' : y.logger.pipeline = some p') (step : Step x m y) (quiet : m.isLog = false)
    (empty : x.phase.hasLeft = true → p.queue = []) (left : y.phase.hasLeft = true) :
    p'.queue = [] := by
  cases step with
  | log => simp [Move.isLog] at quiet
  | addFilter f =>
    obtain rfl : p = p' := Option.some.inj (has.symm.trans has')
    exact empty left
  | flush =>
    obtain rfl : p = p' := Option.some.inj (has.symm.trans has')
    exact empty left
  | stop =>
    have same : p.stop = p' := by simpa [has] using has'
    rw [← same]
    exact empty left
  | @take _ _ es =>
    cases es <;> simp [Run.moving, Phase.hasLeft] at left
  | expire => simp [Run.moving, Phase.hasLeft] at left
  | fail => simp [Phase.hasLeft] at left
  | leave _ _ finished =>
    obtain ⟨⟨-, none⟩, rfl, -⟩ := Pipeline.finish?_cases finished
    obtain rfl := Option.some.inj has'
    exact none
  | write => simp [Run.writing, Phase.hasLeft] at left
  | writeLast leaving =>
    obtain rfl : p = p' := Option.some.inj (has.symm.trans has')
    exact empty (by rw [leaving]; rfl)

/-- The worker leaves when the queue is empty, and only messages fill that again. -/
theorem queue_eq_nil_runs (can : CanRun s config ids) (setUp : IsSetUp s config ids x p)
    (accounted : IsAccounted s config ids x p) (runs : Runs x ms y)
    (quiet : ∀ m ∈ ms, m.isLog = false) (empty : x.phase.hasLeft = true → p.queue = []) :
    ∃ p', IsSetUp s config ids y p' ∧ IsAccounted s config ids y p' ∧
      (y.phase.hasLeft = true → p'.queue = []) := by
  induction runs generalizing p with
  | none => exact ⟨p, setUp, accounted, empty⟩
  | more step _ ih =>
    obtain ⟨p', setUp', accounted', -⟩ := isAccounted_step can setUp accounted step
    refine ih setUp' accounted' (fun m member => quiet m (by simp [member])) ?_
    exact queue_eq_nil_step setUp.pipeline setUp'.pipeline step (quiet _ (by simp)) empty

/-- A worker that is told to end, with no message after that, leaves nothing behind. -/
theorem isComplete_of_stop (can : CanRun s config ids) (setUp : IsSetUp s config ids x p)
    (accounted : IsAccounted s config ids x p) (running : p.running = true)
    (runs : Runs x (.stop :: ms) y) (quiet : ∀ m ∈ ms, m.isLog = false)
    (ended : y.phase = .ended) : IsComplete s ids y := by
  -- a worker that has not been told to end has not left
  have stays : x.phase.hasLeft = true → p.queue = [] := by
    intro left
    rw [(accounted.left left).1] at running
    exact absurd running (by simp)
  obtain ⟨p', -, accounted', empty⟩ :=
    queue_eq_nil_runs can setUp accounted runs (by simpa [Move.isLog] using quiet) stays
  exact isComplete_of_ended accounted' ended (empty (by rw [ended]; rfl))

end

/-! ## 5. What the worker does while a caller waits -/

/-- The run after the worker has gone on until nothing waits. -/
def Run.drained (x : Run) (p : Pipeline Entry) : Run :=
  { x with
    logger := (x.logger.move x.store p.drain).1
    store := (x.logger.move x.store p.drain).2
    written := x.written ++ p.contents }

theorem drained_eq_self {x : Run} {p : Pipeline Entry} (has : x.logger.pipeline = some p)
    (queue : p.queue = []) (batch : p.batch = []) : x.drained p = x := by
  have contents : p.contents = [] := by rw [Pipeline.contents, batch, queue, List.append_nil]
  have drained : p.drain = (p, []) := by
    obtain ⟨capacity, _, _, running⟩ := p
    subst queue batch
    rfl
  simp [Run.drained, Logger.move, Logger.writeBatch, Store.deliverAll, drained, contents, ← has]

/-- Writing some of the entries first makes no difference. -/
theorem drained_writing {x : Run} {p p' : Pipeline Entry} {es : List Entry}
    (waits : x.phase = .waiting) (contents : es ++ p'.contents = p.contents)
    (same : p'.drain.1 = p.drain.1) :
    ((x.moving p' (.writing es)).writing es .waiting).drained p' = x.drained p := by
  have drained : p.drain = (p'.drain.1, es ++ p'.contents) := by
    rw [same, contents]
    rfl
  simp [Run.drained, Run.moving, Run.writing, Logger.move, Logger.writeBatch, Store.deliverAll,
    drained, (Pipeline.drain_contents p').1, ← contents, waits, Nat.add_assoc]

/-- Writing changes neither what the writers are nor how long the worker is to wait. -/
theorem writing_stays {x : Run} (stored : ∀ id ∈ x.logger.writers, id < x.store.kinds.length)
    (es : List Entry) (phase : Phase) :
    (∀ id ∈ x.logger.writers, id < (x.writing es phase).store.kinds.length) ∧
      (x.writing es phase).interval = x.interval := by
  obtain ⟨calls, notices, after, -⟩ := isAfter_deliverAll stored es
  constructor
  · show ∀ id ∈ x.logger.writers, id < (x.store.deliverAll es x.logger.writers).kinds.length
    rwa [after.kinds]
  · show ((x.store.deliverAll es x.logger.writers).config x.logger.config).flushInterval.toInt = _
    rw [after.config]
    rfl

/-- A worker that can wait may write all that waits before anyone else moves. -/
theorem exists_drained {x : Run} {p : Pipeline Entry} (has : x.logger.pipeline = some p)
    (waits : x.phase = .waiting) (able : waitFault? x.interval false = none)
    (stored : ∀ id ∈ x.logger.writers, id < x.store.kinds.length) :
    ∃ ms, (∀ m ∈ ms, m.isWorker = true) ∧ Runs x ms (x.drained p) := by
  -- the worker takes one entry after the other, each as if writing were due; the first of these
  -- writes also takes along what the batch held before
  induction waiting : p.queue generalizing x p with
  | nil =>
    by_cases none : p.batch = []
    · refine ⟨[], by simp, ?_⟩
      rw [drained_eq_self has waiting none]
      exact .none
    · have expired : p.expire? = some ({ p with batch := [] }, p.batch) := by
        simp [Pipeline.expire?, waiting, none]
      let y := (x.moving { p with batch := [] } (.writing p.batch)).writing p.batch .waiting
      have settled : y.drained { p with batch := [] } = y := by
        refine drained_eq_self ?_ waiting ?_ <;> rfl
      refine ⟨[.expire, .write], by simp [Move.isWorker], ?_⟩
      rw [← drained_writing waits (Pipeline.expire?_contents expired) rfl, settled]
      exact .more (.expire waits has able expired) (.more (.write rfl) .none)
  | cons a queue ih =>
    have taken (size : Int) :
        p.take? size true = some ({ p with queue, batch := [] }, p.batch ++ [a]) := by
      simp [Pipeline.take?, waiting]
    obtain ⟨stored', same⟩ := writing_stays
      (x := x.moving { p with queue, batch := [] } (.writing (p.batch ++ [a]))) stored
      (p.batch ++ [a]) .waiting
    obtain ⟨ms, workers, runs⟩ :=
      ih (x := (x.moving { p with queue, batch := [] } (.writing (p.batch ++ [a]))).writing
        (p.batch ++ [a]) .waiting) rfl rfl (by rw [same]; exact able) stored' rfl
    refine ⟨.take true :: .write :: ms, by simpa [Move.isWorker] using workers, ?_⟩
    rw [← drained_writing waits (Pipeline.take?_contents (taken 0)) rfl]
    refine .more (.take true waits has (waitFault?_queued able) (taken _)) (.more (.write ?_) runs)
    simp [Run.moving]

section
variable {s : Store} {config : ConfigId} {ids : List WriterId} {x : Run} {p : Pipeline Entry}

theorem hasWorker_iff {l : Logger} {s : Store} (has : l.pipeline = some p) :
    l.hasWorker s = true ↔ p.running = true ∧ CanWait (s.config l.config) := by
  simp [Logger.hasWorker, has, waitFault?_eq_none_iff]

theorem catchUp_eq {l : Logger} {s : Store} (has : l.pipeline = some p)
    (awake : l.hasWorker s = true) : l.catchUp s = l.move s p.drain := by
  simp [Logger.catchUp, has, awake]

/-- Then nothing is left to write. -/
theorem isComplete_drained (can : CanRun s config ids) (setUp : IsSetUp s config ids x p)
    (accounted : IsAccounted s config ids x p) (waits : x.phase = .waiting)
    (awake : x.logger.hasWorker x.store = true) : IsComplete s ids (x.drained p) := by
  have able := waitFault?_eq_none_iff.2 ((hasWorker_iff setUp.pipeline).1 awake).2
  obtain ⟨ms, -, runs⟩ := exists_drained setUp.pipeline waits able (setUp.stored can)
  obtain ⟨p', setUp', accounted'⟩ := isAccounted_runs can setUp accounted runs
  have nothing : p'.batch = [] ∧ p'.queue = [] := by
    obtain rfl : p.drain.1 = p' := Option.some.inj setUp'.pipeline
    exact ⟨rfl, rfl⟩
  have contents := accounted'.contents
  have waits' : (x.drained p).phase = .waiting := waits
  rw [nothing.1, nothing.2, waits', Phase.underWay, List.append_nil, List.append_nil,
    List.append_nil] at contents
  exact isComplete_of_written accounted' contents

/-- The flush of a caller returns, and nothing is left to write. -/
theorem offers_flush (can : CanRun s config ids) (setUp : IsSetUp s config ids x p)
    (accounted : IsAccounted s config ids x p) (waits : x.phase = .waiting)
    (awake : x.logger.hasWorker x.store = true) :
    ∃ flushed, x.logger.flush x.store = some flushed ∧
      offers flushed.2.1.calls = offers s.calls ++ fanOut ids x.kept := by
  have complete := isComplete_drained can setUp accounted waits awake
  have queued : (x.store.config x.logger.config).asyncMode = true := by
    rw [setUp.config_eq, can.queued]
  have returns : x.logger.flush x.store = some ((x.drained p).logger,
      Logger.untilFault Store.flush (x.drained p).store (x.drained p).logger.writers) := by
    rw [Logger.flush, if_neg (by simp [Logger.isStuck, awake]), if_pos queued,
      catchUp_eq setUp.pipeline awake]
    rfl
  obtain ⟨calls, after, silent⟩ :=
    isAfter_untilFault_flush (x.drained p).store (x.drained p).logger.writers
  refine ⟨_, returns, ?_⟩
  rw [after.calls, offers_append, silent, List.append_nil]
  exact complete.offers

theorem offers_closed (s : Store) (ids : List WriterId) :
    offers (Logger.untilFault Store.close s ids).1.calls = offers s.calls := by
  obtain ⟨calls, ends, after⟩ := untilFault_endsAt isOperation_close s ids
  rw [after.calls, offers_append, ends.offers fun _ _ => rfl, List.append_nil]

theorem offers_shutdown (can : CanRun s config ids) (setUp : IsSetUp s config ids x p)
    (accounted : IsAccounted s config ids x p) (waits : x.phase = .waiting)
    (awake : x.logger.hasWorker x.store = true) :
    offers (x.logger.shutdown x.store).2.1.calls = offers s.calls ++ fanOut ids x.kept := by
  have closed : (x.logger.shutdown x.store).2.1 =
      (Logger.untilFault Store.close (x.drained p).store (x.drained p).logger.writers).1 := by
    rw [Logger.shutdown, catchUp_eq setUp.pipeline awake]
    rfl
  rw [closed, offers_closed]
  exact (isComplete_drained can setUp accounted waits awake).offers

end

end LogLayout.Delivery
