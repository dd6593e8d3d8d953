/-!
# The pipeline of a logger

Between a logger and its worker entries wait in a queue, and the worker gathers them in a batch
that it writes when it is full, when time is up, or when it ends. Each move of the worker says
which entries are to be written now. Main statements: `take?_contents`, `expire?_contents` and
`finish?_contents`, what is written and what waits is together what waited before, in order.
-/

namespace LogLayout

/-- The entries between a logger and its worker. -/
structure Pipeline (α : Type) where
  /-- The most entries in the queue; any number of them if this is not positive. -/
  capacity : Int
  queue : List α := []
  batch : List α := []
  /-- Whether the worker goes on when the queue is empty. -/
  running : Bool := true
  deriving Repr

namespace Pipeline

variable {α : Type}

/-- The entries that wait, the oldest first. -/
def contents (p : Pipeline α) : List α := p.batch ++ p.queue

/-- Whether the queue takes no more entries. -/
def isFull (p : Pipeline α) : Bool := 0 < p.capacity && p.capacity ≤ p.queue.length

/-- Puts an entry at the end of the queue, unless that is full. -/
def offer? (p : Pipeline α) (a : α) : Option (Pipeline α) :=
  if p.isFull then none else some { p with queue := p.queue ++ [a] }

/-- The worker takes the oldest entry of the queue into its batch, and writes the batch if it has
`size` entries then or if writing is due. -/
def take? (p : Pipeline α) (size : Int) (due : Bool) : Option (Pipeline α × List α) :=
  match p.queue with
  | [] => none
  | a :: queue =>
    let batch := p.batch ++ [a]
    if size ≤ batch.length || due then some ({ p with queue, batch := [] }, batch)
    else some ({ p with queue, batch }, [])

/-- The worker finds the queue empty for too long and writes its batch. -/
def expire? (p : Pipeline α) : Option (Pipeline α × List α) :=
  if p.queue.isEmpty && !p.batch.isEmpty then some ({ p with batch := [] }, p.batch) else none

/-- The worker is told to end once the queue is empty. -/
def stop (p : Pipeline α) : Pipeline α := { p with running := false }

/-- The worker ends and writes its batch. -/
def finish? (p : Pipeline α) : Option (Pipeline α × List α) :=
  if !p.running && p.queue.isEmpty then some ({ p with batch := [] }, p.batch) else none

/-- The worker goes on until nothing waits: what it writes, in order. -/
def drain (p : Pipeline α) : Pipeline α × List α :=
  ({ p with queue := [], batch := [] }, p.contents)

/-! ## Laws -/

theorem offer?_cases {p q : Pipeline α} {a : α} (h : p.offer? a = some q) :
    p.isFull = false ∧ q = { p with queue := p.queue ++ [a] } := by
  simp only [offer?, Option.ite_none_left_eq_some, Option.some.injEq] at h
  exact ⟨by simpa using h.1, h.2.symm⟩

/-- The worker writes its batch with the entry that it took, or there is room for more in the
batch. -/
theorem take?_cases {p q : Pipeline α} {size : Int} {due : Bool} {written : List α}
    (h : p.take? size due = some (q, written)) :
    ∃ a queue, p.queue = a :: queue ∧
      (q = { p with queue, batch := [] } ∧ written = p.batch ++ [a] ∨
        p.batch.length + 1 < size ∧ q = { p with queue, batch := p.batch ++ [a] } ∧
          written = []) := by
  unfold take? at h
  split at h
  · simp at h
  · next a queue found =>
    refine ⟨a, queue, found, ?_⟩
    dsimp only at h
    split at h <;> simp only [Option.some.injEq, Prod.mk.injEq] at h
    · exact .inl ⟨h.1.symm, h.2.symm⟩
    · next waits =>
      refine .inr ⟨?_, h.1.symm, h.2.symm⟩
      simp only [List.length_append, List.length_singleton, Bool.or_eq_true, decide_eq_true_eq,
        not_or] at waits
      omega

theorem take?_contents {p q : Pipeline α} {size : Int} {due : Bool} {written : List α}
    (h : p.take? size due = some (q, written)) : written ++ q.contents = p.contents := by
  obtain ⟨a, queue, found, ⟨rfl, rfl⟩ | ⟨-, rfl, rfl⟩⟩ := take?_cases h <;>
    simp [contents, found]

theorem expire?_cases {p q : Pipeline α} {written : List α} (h : p.expire? = some (q, written)) :
    (p.queue = [] ∧ p.batch ≠ []) ∧ q = { p with batch := [] } ∧ written = p.batch := by
  simp only [expire?, Option.ite_none_right_eq_some, Option.some.injEq, Prod.mk.injEq] at h
  exact ⟨by simpa using h.1, h.2.1.symm, h.2.2.symm⟩

theorem expire?_contents {p q : Pipeline α} {written : List α}
    (h : p.expire? = some (q, written)) : written ++ q.contents = p.contents := by
  obtain ⟨-, rfl, rfl⟩ := expire?_cases h
  simp [contents]

theorem finish?_cases {p q : Pipeline α} {written : List α} (h : p.finish? = some (q, written)) :
    (p.running = false ∧ p.queue = []) ∧ q = { p with batch := [] } ∧ written = p.batch := by
  simp only [finish?, Option.ite_none_right_eq_some, Option.some.injEq, Prod.mk.injEq] at h
  exact ⟨by simpa using h.1, h.2.1.symm, h.2.2.symm⟩

theorem finish?_contents {p q : Pipeline α} {written : List α}
    (h : p.finish? = some (q, written)) : written ++ q.contents = p.contents := by
  obtain ⟨-, rfl, rfl⟩ := finish?_cases h
  simp [contents]

theorem drain_contents (p : Pipeline α) : p.drain.2 = p.contents ∧ p.drain.1.contents = [] :=
  ⟨rfl, rfl⟩

end Pipeline

end LogLayout
