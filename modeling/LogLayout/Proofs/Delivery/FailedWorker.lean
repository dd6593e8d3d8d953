import LogLayout.Delivery.Builder
import LogLayout.Proofs.Delivery.Interleaving

/-!
# A worker that cannot wait

A worker waits for an entry for as long as the configuration says, and fails if the clock does not
count so far. Nobody is told: messages are accepted as before. What the worker had taken into its
batch and what is queued then or later is never written. Shutting down closes the writers without
it, and flushing never returns while anything is queued.

Results:
1. `failed_runs`: after the failure no move writes anything.
2. `unable_of_failed_runs`: a worker that can wait does not fail.
3. `hasFailed`: what is so after the failure.
4. `runs_isAccounted`: the accounts of any run of a new logger, with a failed worker and without, and
   `entries_lost_by_failed_worker`: an entry that no writer is offered.
-/

namespace LogLayout.Delivery

/-! ## Definitions -/

/-- What is so when the worker has failed: what it had in its batch and what is queued is never
offered to a writer. -/
structure HasFailed (s : Store) (config : ConfigId) (ids : List WriterId) (x : Run)
    (p : Pipeline Entry) : Prop where
  cause : ¬CanWait (s.config config)
  /-- No move brings the worker back. -/
  stays : ∀ ms y, Runs x ms y → y.phase = x.phase ∧ y.written = x.written
  complete_iff : IsComplete s ids x ↔ p.contents = []
  /-- Shutting down writes nothing either. -/
  shutdown : offers (x.logger.shutdown x.store).2.1.calls = offers s.calls ++ fanOut ids x.written
  flush : p.queue ≠ [] → x.logger.flush x.store = none

/-! ## 1. No move after the failure -/

variable {s : Store} {config : ConfigId} {ids : List WriterId} {x y : Run} {p : Pipeline Entry}
  {ms : List Move}

theorem failed_step {m : Move} {fault : Fault} (failed : x.phase = .failed fault)
    (step : Step x m y) : y.phase = .failed fault ∧ y.written = x.written := by
  cases step with
  | log | addFilter | flush | stop => exact ⟨failed, rfl⟩
  | take _ waits | expire waits | leave waits | write waits | writeLast waits | fail waits =>
    rw [failed] at waits
    cases waits

theorem failed_runs {fault : Fault} (failed : x.phase = .failed fault) (runs : Runs x ms y) :
    y.phase = .failed fault ∧ y.written = x.written := by
  induction runs with
  | none => exact ⟨failed, rfl⟩
  | more step _ ih =>
    obtain ⟨failed', same⟩ := failed_step failed step
    obtain ⟨still, further⟩ := ih failed'
    exact ⟨still, further.trans same⟩

/-! ## 2. The cause -/

/-- Only a worker that cannot wait fails. -/
theorem unable_of_failed_step {m : Move} {fault : Fault} (step : Step x m y)
    (failed : y.phase = .failed fault) :
    x.phase = .failed fault ∨ ¬CanWait (x.store.config x.logger.config) := by
  cases step with
  | log | addFilter | flush | stop => exact .inl failed
  | @take _ _ es => cases es <;> simp [Run.moving] at failed
  | expire | leave => simp [Run.moving] at failed
  | write | writeLast => simp [Run.writing] at failed
  | @fail p _ _ _ cannot =>
    -- a worker that can wait can take what is queued, too
    refine .inr fun can => ?_
    have able : waitFault? x.interval false = none := waitFault?_eq_none_iff.2 can
    cases empty : p.queue.isEmpty <;> simp [empty, able, waitFault?_queued able] at cannot

theorem unable_of_failed_runs (can : CanRun s config ids) (setUp : IsSetUp s config ids x p)
    (accounted : IsAccounted s config ids x p) (runs : Runs x ms y)
    (awake : ∀ fault, x.phase ≠ .failed fault) {fault : Fault} (failed : y.phase = .failed fault) :
    ¬CanWait (s.config config) := by
  induction runs generalizing p with
  | none => exact absurd failed (awake fault)
  | @more x y z m ms step _ ih =>
    obtain ⟨p', setUp', accounted', -⟩ := isAccounted_step can setUp accounted step
    by_cases now : ∃ fault, y.phase = .failed fault
    · obtain ⟨fault', failed'⟩ := now
      have unable := (unable_of_failed_step step failed').resolve_left (awake fault')
      rwa [setUp.config_eq] at unable
    · exact ih setUp' accounted' (fun fault' failed' => now ⟨fault', failed'⟩) failed

/-! ## 3. What is left -/

/-- A failed worker has left behind all that it did not write. -/
theorem isComplete_iff_of_failed (accounted : IsAccounted s config ids x p) {fault : Fault}
    (failed : x.phase = .failed fault) : IsComplete s ids x ↔ p.contents = [] := by
  have contents := accounted.contents
  rw [failed, Phase.underWay, List.append_nil, List.append_assoc, ← Pipeline.contents] at contents
  constructor
  · intro complete
    rw [← complete.written] at contents
    exact List.append_right_eq_self.1 contents
  · intro nothing
    rw [nothing, List.append_nil] at contents
    exact isComplete_of_written accounted contents

theorem hasFailed (can : CanRun s config ids) (setUp : IsSetUp s config ids x p)
    (accounted : IsAccounted s config ids x p) (unable : ¬CanWait (s.config config))
    {fault : Fault} (failed : x.phase = .failed fault) : HasFailed s config ids x p := by
  have asleep : x.logger.hasWorker x.store = false := by
    rw [Bool.eq_false_iff, Ne, hasWorker_iff setUp.pipeline, setUp.config_eq]
    exact fun awake => unable awake.2
  have idle : x.logger.catchUp x.store = (x.logger, x.store) := by
    simp [Logger.catchUp, setUp.pipeline, asleep]
  refine ⟨unable, ?_, isComplete_iff_of_failed accounted failed, ?_, ?_⟩
  · intro ms y runs
    rw [failed]
    exact failed_runs failed runs
  · rw [Logger.shutdown, idle]
    exact (offers_closed x.store x.logger.writers).trans accounted.offers
  · intro waiting
    refine Logger.flush_eq_none_iff.2 ?_
    rw [setUp.config_eq]
    exact ⟨can.queued, p, setUp.pipeline, waiting, fun awake => unable awake.2⟩

/-! ## 4. All of it -/

/-- After any moves the entries are accounted for. An entry is dropped only if the queue is full.
Each writer has been offered all entries that were kept as soon as as many were written as were
logged, and when the worker, told to end and without further messages, has ended; also by the
flush or shutdown of a caller for whom the worker goes on until nothing waits. A worker that is to
wait for too long fails, and then none of the entries that it has not written is ever written. -/
theorem runs_isAccounted (can : CanRun s config ids) (runs : Runs (Run.start s config ids) ms x) :
    ∃ p, x.logger.pipeline = some p ∧ IsAccounted s config ids x p ∧
      (∀ m y, Step x m y → x.logger.dropped < y.logger.dropped →
        p.queue.length = (s.config config).queueSize.toInt) ∧
      (x.logger.logged ≤ x.logger.processed → IsComplete s ids x) ∧
      (p.running = true → ∀ more y, Runs x (.stop :: more) y →
        (∀ m ∈ more, m.isLog = false) → y.phase = .ended → IsComplete s ids y) ∧
      (p.running = true → x.phase = .waiting → CanWait (s.config config) →
        (∃ flushed, x.logger.flush x.store = some flushed ∧
          offers flushed.2.1.calls = offers s.calls ++ fanOut ids x.kept) ∧
        offers (x.logger.shutdown x.store).2.1.calls = offers s.calls ++ fanOut ids x.kept) ∧
      (∀ fault, x.phase = .failed fault → HasFailed s config ids x p) := by
  obtain ⟨first, setUp₀, accounted₀⟩ := isAccounted_start can
  obtain ⟨p, setUp, accounted⟩ := isAccounted_runs can setUp₀ accounted₀ runs
  refine ⟨p, setUp.pipeline, accounted, ?_, isComplete_of_processed accounted, ?_, ?_, ?_⟩
  · intro m y step more
    obtain ⟨-, -, -, full⟩ := isAccounted_step can setUp accounted step
    exact full more
  · intro running more y later quiet ended
    exact isComplete_of_stop can setUp accounted running later quiet ended
  · intro running waits able
    have awake : x.logger.hasWorker x.store = true := by
      rw [hasWorker_iff setUp.pipeline, setUp.config_eq]
      exact ⟨running, able⟩
    exact ⟨offers_flush can setUp accounted waits awake,
      offers_shutdown can setUp accounted waits awake⟩
  · intro fault failed
    have unable := unable_of_failed_runs can setUp₀ accounted₀ runs (fun _ => nofun) failed
    exact hasFailed can setUp accounted unable failed

/-- A store with a configuration for a queue of one entry, and a writer. -/
def narrowStore : Store where
  surroundings := default
  configs := [{ queueSize := .number 1, batchSize := .number 1 }]
  writers := [⟨.custom { name := "Memory" }, none⟩]

/-- The second of two messages does not fit into the queue. -/
theorem runs_isAccounted_narrowStore :
    CanRun narrowStore 0 [0] ∧
      ∃ x, Runs (Run.start narrowStore 0 [0])
          [.log (.level .info) (exMessage "up").call, .log (.level .info) (exMessage "down").call,
            .take false, .write] x ∧
        (x.logger.logged = 1 ∧ x.logger.dropped = 1 ∧ x.logger.processed = 1) ∧
        (∃ p, IsAccounted narrowStore 0 [0] x p) ∧ IsComplete narrowStore [0] x := by
  have can : CanRun narrowStore 0 [0] := ⟨rfl, by decide, by decide, by decide⟩
  have able : CanWait (narrowStore.config 0) := ⟨by decide, by decide⟩
  have takes := waitFault?_queued (waitFault?_eq_none_iff.2 able)
  have runs : Runs (Run.start narrowStore 0 [0])
      [.log (.level .info) (exMessage "up").call, .log (.level .info) (exMessage "down").call,
        .take false, .write] _ :=
    .more (.log ..) (.more (.log ..)
      (.more (.take false rfl rfl takes rfl) (.more (.write rfl) .none)))
  obtain ⟨p, -, accounted, -, complete, -⟩ := runs_isAccounted can runs
  exact ⟨can, _, runs, ⟨rfl, rfl, rfl⟩, ⟨p, accounted⟩, complete (Nat.le_refl 1)⟩

/-- A store with a configuration by which a worker waits for three centuries, and a writer. -/
def patientStore : Store where
  surroundings := default
  configs := [{ flushInterval := .number 10000000000000 }]
  writers := [⟨.custom { name := "Memory" }, none⟩]

/-- A new logger with a queue of three entries, and then a builder that shares the configuration
lowers the size of the queue in it. -/
def loweredRun : Run :=
  let s : Store :=
    { surroundings := default
      configs := [{ queueSize := .number 3, batchSize := .number 1 }]
      writers := [⟨.custom { name := "Memory" }, none⟩] }
  let x := Run.start s 0 [0]
  { x with store := (Builder.step { config := 0 } x.store (.queueSize 1)).2 }

/-- An entry that is kept after the worker has failed is not offered to the writer when the logger is
shut down, and flushing waits for it for ever. And a queue that was made before the configuration was
changed holds more entries than the configuration says. -/
theorem entries_lost_by_failed_worker :
    ((patientStore.config 0).IsValid ∧ CanRun patientStore 0 [0] ∧
      ∃ x, Runs (Run.start patientStore 0 [0])
          [.fail, .log (.level .info) (exMessage "up").call, .stop] x ∧
        (x.phase = .failed .longWait ∧ x.kept.length = 1 ∧ ¬IsComplete patientStore [0] x) ∧
        offers (x.logger.shutdown x.store).2.1.calls = [] ∧ x.logger.flush x.store = none) ∧
    ∃ x p, Runs loweredRun
        [.log (.level .info) (exMessage "up").call, .take false,
          .log (.level .info) (exMessage "down").call,
          .log (.level .info) (exMessage "off").call] x ∧
      x.logger.pipeline = some p ∧ (x.store.config 0).IsValid ∧
      (x.store.config 0).queueSize.toInt < p.queue.length := by
  constructor
  · have can : CanRun patientStore 0 [0] := ⟨rfl, by decide, by decide, by decide⟩
    have unable : ¬CanWait (patientStore.config 0) := fun able => absurd able.most (by decide)
    have fails : waitFault? 10000000000000 false = some .longWait := by
      rw [waitFault?, if_neg (by decide +kernel), if_neg (by decide), if_pos (by decide)]
    have runs : Runs (Run.start patientStore 0 [0])
        [.fail, .log (.level .info) (exMessage "up").call, .stop] _ :=
      .more (.fail rfl rfl fails) (.more (.log ..) (.more .stop .none))
    obtain ⟨_, setUp₀, accounted₀⟩ := isAccounted_start can
    obtain ⟨p, setUp, accounted⟩ := isAccounted_runs can setUp₀ accounted₀ runs
    have left := hasFailed can setUp accounted unable rfl
    obtain rfl := Option.some.inj setUp.pipeline
    exact ⟨⟨by decide, by decide, by decide, by decide, rfl⟩, can, _, runs,
      ⟨rfl, rfl, mt left.complete_iff.1 (List.cons_ne_nil _ _)⟩, left.shutdown,
      left.flush (List.cons_ne_nil _ _)⟩
  · have able : CanWait (loweredRun.store.config 0) := ⟨by decide, by decide⟩
    have takes := waitFault?_queued (waitFault?_eq_none_iff.2 able)
    exact ⟨_, _, .more (.log ..) (.more (.take false rfl rfl takes rfl)
      (.more (.log ..) (.more (.log ..) .none))), rfl,
      ⟨by decide, by decide, by decide, by decide, rfl⟩, by decide⟩

end LogLayout.Delivery
