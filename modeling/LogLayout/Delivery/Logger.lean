import LogLayout.Delivery.Pipeline
import LogLayout.Delivery.Writer

/-!
# Loggers

A logger makes entries of the messages that reach its threshold, asks its filters, and hands the
entries to its writers, at once or by way of a pipeline and its worker. A failing filter lets the
entry pass and a failing writer does not keep the others from it; both are warnings. Flushing and
closing are not guarded in this way: the first failing writer ends them. Nor is the worker guarded
when it waits for an entry: it ends if it cannot wait as long as it is told to. Main statements:
`waitFault?_eq_none_iff`, how long it can wait, and `flush_eq_none_iff`, when flushing never returns.

Time is not part of the model. A worker that goes on gets through while a caller flushes or shuts
down.
-/

namespace LogLayout.Delivery

/-- Decides which entries are kept. What it comes to may depend on the calls before. -/
structure Filter where
  keeps : List Call → Entry → Except Fault Bool

/-- A logger. -/
structure Logger where
  config : ConfigId
  writers : List WriterId := []
  filters : List Filter := []
  /-- The entries on their way to the worker, if the logger was made with one. -/
  pipeline : Option (Pipeline Entry) := none
  logged : Nat := 0
  dropped : Nat := 0
  processed : Nat := 0

/-! ## Waiting for an entry -/

/-- The longest time for which a worker can wait, in milliseconds. -/
def longestWait : Int := 9223372036854

/-- The least whole number that is rounded to no double. -/
def beyondDoubles : Nat := Nat.pow 2 1024 - Nat.pow 2 970

/-- Why a worker cannot wait for an entry, which is to be for so many milliseconds. If an entry is
`queued` it need not wait, but it computes the time all the same. -/
def waitFault? (milliseconds : Int) (queued : Bool) : Option Fault :=
  if beyondDoubles ≤ milliseconds.natAbs then some .noDouble
  else if milliseconds < 0 then some .negativeWait
  else if !queued && longestWait < milliseconds then some .longWait
  else none

/-- A worker can wait as long as the configuration tells it to. -/
structure CanWait (c : Config) : Prop where
  least : 0 ≤ c.flushInterval.toInt
  most : c.flushInterval.toInt ≤ longestWait

theorem waitFault?_eq_none_iff {c : Config} :
    waitFault? c.flushInterval.toInt false = none ↔ CanWait c := by
  have below : longestWait.natAbs < beyondDoubles := by decide +kernel
  have both : CanWait c ↔ 0 ≤ c.flushInterval.toInt ∧ c.flushInterval.toInt ≤ longestWait :=
    ⟨fun can => ⟨can.least, can.most⟩, fun can => ⟨can.1, can.2⟩⟩
  simp only [waitFault?, Bool.not_false, Bool.true_and, both]
  grind

/-- A worker that can wait at all can take what is queued. -/
theorem waitFault?_queued {milliseconds : Int} (waits : waitFault? milliseconds false = none) :
    waitFault? milliseconds true = none := by
  simp only [waitFault?] at waits ⊢
  grind

namespace Logger

/-! ## Making a logger -/

/-- The logger of a configuration; one for queued entries starts a worker. -/
def start (s : Store) (config : ConfigId) : Store × Logger :=
  let c := s.config config
  if c.asyncMode then
    ({ s with workers := s.workers + 1 },
      { config, pipeline := some { capacity := c.queueSize.toInt } })
  else (s, { config })

/-- The name of the logger. -/
def name (l : Logger) (s : Store) : String := (s.config l.config).name

/-- Adds a writer. -/
def addWriter (l : Logger) (id : WriterId) : Logger := { l with writers := l.writers ++ [id] }

/-- Adds a filter; what is given may be none. -/
def addFilter (l : Logger) (filter : Option Filter) : Except Fault Logger :=
  match filter with
  | some f => .ok { l with filters := l.filters ++ [f] }
  | none => .error .notAFilter

end Logger

/-! ## Delivering entries -/

namespace Store

/-- Writes an entry to each of the writers; a failing one is a warning. -/
def deliver (s : Store) (e : Entry) : List WriterId → Store
  | [] => s
  | id :: ids =>
    let (s, outcome) := s.write id e
    let s := match outcome with
      | .ok _ => s
      | .error fault => s.warn (.writer fault.message)
    s.deliver e ids

/-- Writes entries in order. -/
def deliverAll (s : Store) (es : List Entry) (ids : List WriterId) : Store :=
  es.foldl (fun s e => s.deliver e ids) s

/-- Asks filters in order whether an entry is kept; those after one that refuses are not asked, and
a failing one is a warning. -/
def accepts (s : Store) (e : Entry) (number : Nat) : List Filter → Store × Bool
  | [] => (s, true)
  | f :: fs =>
    let verdict := f.keeps s.calls e
    let s := s.note (.asked number verdict)
    match verdict with
    | .ok false => (s, false)
    | .ok true => s.accepts e (number + 1) fs
    | .error fault => (s.warn (.filter fault.message)).accepts e (number + 1) fs

end Store

namespace Logger

/-- Writes a batch of entries. -/
def writeBatch (l : Logger) (s : Store) (es : List Entry) : Logger × Store :=
  ({ l with processed := l.processed + es.length }, s.deliverAll es l.writers)

/-- The worker makes a move: the logger keeps the pipeline and writes what the move says. -/
def move (l : Logger) (s : Store) (next : Pipeline Entry × List Entry) : Logger × Store :=
  { l with pipeline := some next.1 }.writeBatch s next.2

/-- Whether the worker takes entries: it was not told to end, and it did not fail when there was
none yet. -/
def hasWorker (l : Logger) (s : Store) : Bool :=
  l.pipeline.any (·.running) &&
    (waitFault? (s.config l.config).flushInterval.toInt false).isNone

/-- The worker goes on until nothing waits, unless it has ended. -/
def catchUp (l : Logger) (s : Store) : Logger × Store :=
  match l.pipeline with
  | some p => if l.hasWorker s then l.move s p.drain else (l, s)
  | none => (l, s)

/-- The worker takes an entry and gets no further, since a writer keeps it waiting. Until it goes
on, the entry stays in its batch. -/
def takeOnly (l : Logger) (s : Store) : Logger :=
  match l.pipeline with
  | some p =>
    if l.hasWorker s && p.batch.isEmpty then
      { l with pipeline := some (((p.take? 2 false).map (·.1)).getD p) }
    else l
  | none => l

/-- The worker gets its turn; it is `blocked` if one of the writers keeps it waiting. -/
def turn (l : Logger) (s : Store) (blocked : Bool) : Logger × Store :=
  if blocked then (l.takeOnly s, s) else l.catchUp s

/-! ## Logging -/

/-- What a caller says about the exception to attach. -/
inductive Attachment
  /-- Nothing, or false. -/
  | absent
  | exception (t : Throwable)
  /-- A row of which the second member is the exception. -/
  | row (members : List (Option Throwable))
  /-- Anything else asks for the exception being handled. -/
  | other

/-- The exception to attach; `current` is the one being handled. -/
def Attachment.throwable? (a : Attachment) (current : Option Throwable) : Option Throwable :=
  match a with
  | absent => none
  | exception t => some t
  | row members => (members[1]?).join
  | other => current

/-- Where a message is logged. -/
structure Caller where
  file : String
  line : Int
  function : String
  deriving Repr, Inhabited

/-- What a caller says of a message, besides its level. -/
structure Call where
  message : Value
  timestamp : Timestamp
  threadId : Value
  threadName : Value
  processId : Value
  fileName : Option Value := none
  lineNumber : Option Value := none
  functionName : Option Value := none
  extra : Value := .object []
  attachment : Attachment := .absent
  /-- The exception being handled. -/
  current : Option Throwable := none
  caller : Caller
  /-- The name of the operation that is called. -/
  operation : String := "log"
  /-- The names of whatever else the caller gives, which is too much. -/
  surplus : List String := []

/-- The entry of a message. With `located`, the place of the call stands for what is not said. -/
def Call.entry (c : Call) (level : Level) (loggerName : String) (located : Bool) : Entry :=
  let place := fun (given : Option Value) (captured default : Value) =>
    given.getD (if located then captured else default)
  { level, message := c.message.text, timestamp := c.timestamp, threadId := c.threadId
    threadName := c.threadName, processId := c.processId, loggerName := .str loggerName
    fileName := place c.fileName (.str c.caller.file) (.str "")
    lineNumber := place c.lineNumber (.int c.caller.line) (.int 0)
    functionName := place c.functionName (.str c.caller.function) (.str "")
    throwable := c.attachment.throwable? c.current, extra := c.extra }

/-- What is wrong with a call before its level counts: the message, or else the level, is given
twice. -/
def Call.fault? (c : Call) : Option Fault :=
  let own := ["self", "message"] ++ if c.operation = "log" then ["level"] else []
  match c.surplus.find? (own.contains ·) with
  | some name => some (.repeatedArgument c.operation name)
  | none => if c.surplus.contains "level" then some (.repeatedArgument "log" "level") else none

/-- Why a call makes no entry: a field that the logger sets is given again, or one that entries do
not have. -/
def Call.entryFault? (c : Call) : Option Fault :=
  match c.surplus.find? (["logger_name", "throwable"].contains ·) with
  | some name => some (.repeatedField name)
  | none => c.surplus.head?.map .unknownField

/-- Hands an accepted entry over: to the queue, or at once to the writers. -/
def handOver (l : Logger) (s : Store) (e : Entry) : Logger × Store × Except Fault Unit :=
  if (s.config l.config).asyncMode then
    match l.pipeline with
    | none => (l, s, .error .noQueue)
    | some p =>
      match p.offer? e with
      | some p => ({ l with pipeline := some p, logged := l.logged + 1 }, s, .ok ())
      | none => ({ l with dropped := l.dropped + 1 }, s, .ok ())
  else
    let (l, s) := l.writeBatch s [e]
    ({ l with logged := l.logged + 1 }, s, .ok ())

/-- Logs a message. A level given as a bare number counts for the threshold, but makes no entry. -/
def log (l : Logger) (s : Store) (level : Setting.Quantity) (call : Call) :
    Logger × Store × Except Fault Unit :=
  let c := s.config l.config
  match call.fault? with
  | some fault => (l, s, .error fault)
  | none =>
    if level.toInt < c.minLevel.number then (l, s, .ok ())
    else match call.entryFault?, level with
      | some fault, _ => (l, s, .error fault)
      | none, .number _ => (l, s, .error .notALevel)
      | none, .level level =>
        let e := call.entry level c.name c.captureLocation
        match s.accepts e 0 l.filters with
        | (s, false) => (l, s, .ok ())
        | (s, true) => l.handOver s e

/-! ## Flushing and ending -/

/-- Does an operation for writers in order, up to the first that fails. -/
def untilFault (operation : Store → WriterId → Store × Option Fault) (s : Store) :
    List WriterId → Store × Except Fault Unit
  | [] => (s, .ok ())
  | id :: ids =>
    match operation s id with
    | (s, some fault) => (s, .error fault)
    | (s, none) => untilFault operation s ids

/-- Whether entries are queued and there is no worker that takes them. -/
def isStuck (l : Logger) (s : Store) : Bool :=
  (s.config l.config).asyncMode && l.pipeline.any (!·.queue.isEmpty) && !l.hasWorker s

/-- Waits until nothing is queued any more, then flushes the writers. There is no outcome if the
wait never ends. -/
def flush (l : Logger) (s : Store) : Option (Logger × Store × Except Fault Unit) :=
  if l.isStuck s then none
  else
    let (l, s) := if (s.config l.config).asyncMode then l.catchUp s else (l, s)
    some (l, untilFault Store.flush s l.writers)

/-- Flushing never returns if entries are queued for a worker that was told to end or that cannot
wait as long as it is told to. -/
theorem flush_eq_none_iff {l : Logger} {s : Store} :
    l.flush s = none ↔ (s.config l.config).asyncMode = true ∧
      ∃ p, l.pipeline = some p ∧ p.queue ≠ [] ∧
        ¬(p.running = true ∧ CanWait (s.config l.config)) := by
  have stuck : l.flush s = none ↔ l.isStuck s = true := by simp [flush]
  rw [stuck, isStuck, hasWorker, ← waitFault?_eq_none_iff]
  cases l.pipeline with
  | none => simp
  | some p =>
    simp only [Option.some.injEq, exists_eq_left', Classical.not_and_iff_not_or_not]
    simp [and_assoc, Option.isSome_iff_ne_none]

/-- Ends the worker, which first writes all that waits, and closes the writers, which the logger
gives up. -/
def shutdown (l : Logger) (s : Store) : Logger × Store × Except Fault Unit :=
  let (l, s) := l.catchUp s
  let l := { l with pipeline := l.pipeline.map Pipeline.stop }
  ({ l with writers := [] }, untilFault Store.close s l.writers)

end Logger

end LogLayout.Delivery
