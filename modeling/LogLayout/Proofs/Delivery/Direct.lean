import LogLayout.Proofs.Delivery.Past

/-!
# Logging without a worker

A logger without a worker hands each accepted entry to its writers before the call ends. Filters and
writers may fail at any call of theirs. This module says what comes of any messages, logged one
after the other: no call fails, a failing filter lets the entry pass, a failing writer does not keep
the entry from the others, and every failure is warned of, once and in its place.

Results:
1. `log_direct`: what one message does to the store and to the counters.
2. `AreReports.offers`: the writers are offered the accepted entries and nothing else.
3. `logAll_direct`: what any number of messages do.
-/

namespace LogLayout.Delivery

/-! ## Definitions -/

/-- A message with its level. -/
structure Message where
  level : Level
  call : Logger.Call

/-- The entry of a message by a configuration. -/
def Message.entry (m : Message) (c : Config) : Entry :=
  m.call.entry m.level c.name c.captureLocation

/-- What comes of a message: what the filters and writers do, and its entry if that is accepted. -/
structure Report where
  occurrences : List Occurrence := []
  accepted : Option Entry := none

/-- The calls of filters and writers. -/
def Report.calls (r : Report) : List Call := r.occurrences.map (·.call)

/-- The notices of all occurrences. -/
def Report.notices (installed : Option Handler) (r : Report) : List Notice :=
  r.occurrences.flatMap (·.notices installed)

/-- The filters that were asked did not give notice of anything by themselves. -/
def quiet (asked : List Call) : List Occurrence := asked.map fun call => { call }

/-- What comes of a message after the calls in `past`. It is kept back by the threshold, or a filter
refuses it, or it is accepted and offered to the writers in order. -/
inductive IsReport (s : Store) (l : Logger) (past : List Call) (m : Message) : Report → Prop
  | below :
      m.level.number < (s.config l.config).minLevel.number → IsReport s l past m {}
  | refused {asked : List Call} :
      (s.config l.config).minLevel.number ≤ m.level.number →
      AreAsked 0 l.filters past (m.entry (s.config l.config)) asked →
      (∃ call ∈ asked, call.refuses = true) →
      IsReport s l past m { occurrences := quiet asked }
  | accepted {asked : List Call} {os : List Occurrence} :
      (s.config l.config).minLevel.number ≤ m.level.number →
      AreAsked 0 l.filters past (m.entry (s.config l.config)) asked →
      (∀ call ∈ asked, call.refuses = false) →
      AreOffers s (m.entry (s.config l.config)) (past ++ asked) l.writers os →
      IsReport s l past m ⟨quiet asked ++ os, some (m.entry (s.config l.config))⟩

/-- What comes of messages one after the other. -/
inductive AreReports (s : Store) (l : Logger) : List Call → List Message → List Report → Prop
  | nil {past : List Call} : AreReports s l past [] []
  | cons {past : List Call} {m : Message} {ms : List Message} {r : Report} {rs : List Report} :
      IsReport s l past m r → AreReports s l (past ++ r.calls) ms rs →
      AreReports s l past (m :: ms) (r :: rs)

/-- The accepted entries, the oldest first. -/
def acceptedOf (reports : List Report) : List Entry := reports.filterMap (·.accepted)

/-- The logger after so many more entries were accepted and written. -/
def Logger.counting (l : Logger) (n : Nat) : Logger :=
  { l with logged := l.logged + n, processed := l.processed + n }

/-- Logs messages one after the other: the logger and the store at the end, and how each call
ended. -/
def Logger.logAll (l : Logger) (s : Store) :
    List Message → Logger × Store × List (Except Fault Unit)
  | [] => (l, s, [])
  | m :: ms =>
    let (l, s, outcome) := l.log s (.level m.level) m.call
    let (l, s, outcomes) := l.logAll s ms
    (l, s, outcome :: outcomes)

/-- Messages are logged by a new logger with these reports: no call fails, the filters and writers
are called as reported and not otherwise, the notices are those of the occurrences, each accepted
entry is offered to each writer, and the accepted entries are counted. -/
structure IsDirectRun (s : Store) (l : Logger) (ms : List Message) (reports : List Report)
    (run : Logger × Store × List (Except Fault Unit)) : Prop where
  reported : AreReports s l s.calls ms reports
  outcomes : run.2.2 = ms.map fun _ => .ok ()
  calls : run.2.1.calls = s.calls ++ reports.flatMap Report.calls
  notices : run.2.1.notices = s.notices ++ reports.flatMap (·.notices s.installed)
  offers : offers run.2.1.calls = offers s.calls ++ fanOut l.writers (acceptedOf reports)
  logged : run.1.logged = (acceptedOf reports).length
  processed : run.1.processed = (acceptedOf reports).length
  dropped : run.1.dropped = 0

/-! ## 1. One message -/

theorem calls_quiet (asked : List Call) : (quiet asked).map (·.call) = asked := by
  rw [quiet, List.map_map]
  exact List.map_id asked

theorem notices_quiet (installed : Option Handler) (asked : List Call) :
    (quiet asked).flatMap (·.notices installed) =
      asked.flatMap fun call => Occurrence.notices installed { call } :=
  List.flatMap_map ..

/-- A message that reaches the threshold is judged by the filters. -/
theorem log_judged {l : Logger} {s s' : Store} {m : Message} {keeps : Bool}
    (plain : m.call.surplus = [])
    (reaches : (s.config l.config).minLevel.number ≤ m.level.number)
    (judged : s.accepts (m.entry (s.config l.config)) 0 l.filters = (s', keeps)) :
    l.log s (.level m.level) m.call =
      if keeps then l.handOver s' (m.entry (s.config l.config)) else (l, s', .ok ()) := by
  have sound : m.call.fault? = none := by simp [Logger.Call.fault?, plain]
  have known : m.call.entryFault? = none := by simp [Logger.Call.entryFault?, plain]
  rw [Message.entry] at judged
  simp only [Logger.log, sound, known, Setting.Quantity.toInt, Int.ofNat_lt,
    if_neg (Nat.not_lt_of_le reaches), judged]
  cases keeps <;> rfl

/-- Writing one entry at once, which then is counted. -/
theorem handOver_direct {l : Logger} {s : Store} (direct : (s.config l.config).asyncMode = false)
    (e : Entry) : l.handOver s e = (l.counting 1, s.deliver e l.writers, .ok ()) := by
  rw [Logger.handOver, direct]
  rfl

/-- A message of a logger without a worker: how the call ends, and what it does to the store and to
the counters. -/
theorem log_direct {l : Logger} {s : Store} (direct : (s.config l.config).asyncMode = false)
    (stored : ∀ id ∈ l.writers, id < s.kinds.length) {m : Message} (plain : m.call.surplus = []) :
    ∃ r s', IsReport s l s.calls m r ∧ IsAfter s r.calls (r.notices s.installed) s' ∧
      l.log s (.level m.level) m.call = (l.counting r.accepted.toList.length, s', .ok ()) := by
  by_cases below : m.level.number < (s.config l.config).minLevel.number
  · refine ⟨{}, s, .below below, .refl s, ?_⟩
    have sound : m.call.fault? = none := by simp [Logger.Call.fault?, plain]
    simp only [Logger.log, sound, Setting.Quantity.toInt, Int.ofNat_lt, if_pos below]
    rfl
  have reaches := Nat.le_of_not_lt below
  obtain ⟨asked, verdicts, judging, kept⟩ :=
    isAfter_accepts s (m.entry (s.config l.config)) 0 l.filters
  cases judged : s.accepts (m.entry (s.config l.config)) 0 l.filters with
  | mk s₁ keeps =>
  rw [judged] at judging kept
  have logged := log_judged plain reaches judged
  cases keeps with
  | false =>
    have refuses : ∃ call ∈ asked, call.refuses = true := by simpa using kept
    refine ⟨_, s₁, .refused reaches verdicts refuses, ?_, logged⟩
    rw [Report.calls, Report.notices, calls_quiet, notices_quiet]
    exact judging
  | true =>
    obtain ⟨os, offered, delivered⟩ :=
      isAfter_deliver (fun id member => judging.kinds ▸ stored id member)
        (m.entry (s.config l.config))
    rw [judging.calls] at offered
    have direct₁ : (s₁.config l.config).asyncMode = false := by rw [judging.config, direct]
    refine ⟨_, _, .accepted reaches verdicts (kept.1 rfl) (offered.of_isAfter judging), ?_,
      logged.trans (handOver_direct direct₁ _)⟩
    rw [Report.calls, Report.notices, List.map_append, List.flatMap_append, calls_quiet,
      notices_quiet]
    rw [judging.installed] at delivered
    exact judging.trans delivered

/-! ## 2. Offers -/

theorem AreAsked.offers {number : Nat} {filters : List Filter} {past asked : List Call} {e : Entry}
    (verdicts : AreAsked number filters past e asked) : offers asked = [] := by
  rw [Delivery.offers, List.filterMap_eq_nil_iff]
  intro call member
  obtain ⟨i, inside, rfl⟩ := List.getElem_of_mem member
  obtain ⟨f, -, same⟩ := verdicts.verdict i _ (List.getElem?_eq_getElem inside)
  rw [same]
  rfl

theorem IsReport.offers {s : Store} {l : Logger} {past : List Call} {m : Message} {r : Report}
    (reported : IsReport s l past m r) : offers r.calls = fanOut l.writers r.accepted.toList := by
  cases reported with
  | below => rfl
  | refused _ verdicts =>
    rw [Report.calls, calls_quiet, verdicts.offers]
    rfl
  | accepted _ verdicts _ offered =>
    rw [Report.calls, List.map_append, calls_quiet, offers_append, verdicts.offers,
      offers_of_map offered.map_offer?]
    rfl

theorem acceptedOf_cons (r : Report) (rs : List Report) :
    acceptedOf (r :: rs) = r.accepted.toList ++ acceptedOf rs := by
  rw [acceptedOf, acceptedOf, List.filterMap_cons]
  cases r.accepted <;> rfl

/-- The writers are offered the accepted entries, in order, and nothing else. -/
theorem AreReports.offers {s : Store} {l : Logger} {past : List Call} {ms : List Message}
    {reports : List Report} (reported : AreReports s l past ms reports) :
    offers (reports.flatMap Report.calls) = fanOut l.writers (acceptedOf reports) := by
  induction reported with
  | nil => rfl
  | cons first _ ih =>
    rw [List.flatMap_cons, offers_append, first.offers, ih, ← fanOut_append, acceptedOf_cons]

/-! ## 3. Any number of messages -/

/-- Reports are about kinds of writers, filters and threshold, which logging does not change. -/
theorem IsReport.of_isAfter {s s' : Store} {calls : List Call} {notices : List Notice}
    (after : IsAfter s calls notices s') {l : Logger} {n : Nat} {past : List Call} {m : Message}
    {r : Report} (reported : IsReport s' (l.counting n) past m r) : IsReport s l past m r := by
  have same : s'.config (l.counting n).config = s.config l.config := after.config _
  cases reported with
  | below below => exact .below (same ▸ below)
  | refused reaches verdicts refuses => exact .refused (same ▸ reaches) (same ▸ verdicts) refuses
  | accepted reaches verdicts keeps offered =>
    rw [same] at *
    exact .accepted reaches verdicts keeps (offered.of_isAfter after)

theorem AreReports.of_isAfter {s s' : Store} {calls : List Call} {notices : List Notice}
    (after : IsAfter s calls notices s') {l : Logger} {n : Nat} {past : List Call}
    {ms : List Message} {reports : List Report}
    (reported : AreReports s' (l.counting n) past ms reports) : AreReports s l past ms reports := by
  induction reported with
  | nil => exact .nil
  | cons first _ ih => exact .cons (first.of_isAfter after) ih

theorem Logger.counting_counting (l : Logger) (m n : Nat) :
    (l.counting m).counting n = l.counting (m + n) := by
  simp [Logger.counting, Nat.add_assoc]

theorem logAll_reported {l : Logger} {s : Store} (direct : (s.config l.config).asyncMode = false)
    (stored : ∀ id ∈ l.writers, id < s.kinds.length) {ms : List Message}
    (plain : ∀ m ∈ ms, m.call.surplus = []) :
    ∃ reports s', AreReports s l s.calls ms reports ∧
      IsAfter s (reports.flatMap Report.calls) (reports.flatMap (·.notices s.installed)) s' ∧
      l.logAll s ms = (l.counting (acceptedOf reports).length, s', ms.map fun _ => .ok ()) := by
  induction ms generalizing l s with
  | nil => exact ⟨[], s, .nil, .refl s, rfl⟩
  | cons m ms ih =>
    obtain ⟨r, s₁, first, after, logged⟩ := log_direct direct stored (plain m (by simp))
    have direct₁ : (s₁.config (l.counting r.accepted.toList.length).config).asyncMode = false := by
      rw [after.config]
      exact direct
    -- the other messages find the store after the first, with the same writers and filters
    obtain ⟨rs, s₂, others, later, loggedAll⟩ := ih direct₁
      (fun id member => after.kinds ▸ stored id member) fun m member => plain m (by simp [member])
    rw [after.installed] at later
    rw [after.calls] at others
    refine ⟨r :: rs, s₂, .cons first (others.of_isAfter after), after.trans later, ?_⟩
    rw [Logger.logAll, logged, acceptedOf_cons, List.length_append, ← Logger.counting_counting]
    simp only [loggedAll]
    rfl

/-- A new logger without a worker logs any messages: no call fails, whichever filters and writers
do. What comes of each message is as `IsReport` says. -/
theorem logAll_direct {s : Store} {config : ConfigId} (filters : List Filter)
    {writers : List WriterId} {ms : List Message}
    (direct : (s.config config).asyncMode = false)
    (stored : ∀ id ∈ writers, id < s.kinds.length) (plain : ∀ m ∈ ms, m.call.surplus = []) :
    let l : Logger := { config, writers, filters }
    ∃ reports, IsDirectRun s l ms reports (l.logAll s ms) := by
  intro l
  obtain ⟨reports, s', reported, after, loggedAll⟩ := logAll_reported (l := l) direct stored plain
  rw [loggedAll]
  refine ⟨reports, ⟨reported, rfl, after.calls, after.notices, ?_, ?_, ?_, rfl⟩⟩
  · rw [after.calls, offers_append, reported.offers]
  · exact Nat.zero_add _
  · exact Nat.zero_add _

/-- A store for a logger without a worker and two writers, of which the first fails each time. -/
def troubledStore : Store where
  surroundings := default
  configs := [.debugging]
  writers := [
    ⟨.custom { name := "Broken", writeFault := fun _ _ => some (.raised "OSError" "disk full") },
      none⟩,
    ⟨.custom { name := "Memory" }, none⟩]

/-- The first filter fails each time, the second refuses empty messages. -/
def troubledFilters : List Filter :=
  [⟨fun _ _ => .error (.raised "RuntimeError" "no rules")⟩, ⟨fun _ e => .ok (e.message ≠ "")⟩]

/-- A message for information. -/
def exMessage (text : String) : Message where
  level := .info
  call :=
    { message := .str text, timestamp := default, threadId := .int 1
      threadName := .str "main", processId := .int 2, caller := ⟨"app.py", 3, "run"⟩ }

theorem logAll_direct_troubled :
    let l : Logger := { config := 0, writers := [0, 1], filters := troubledFilters }
    let ms := [exMessage "", exMessage "up"]
    ((troubledStore.config 0).asyncMode = false ∧ (∀ id ∈ [0, 1], id < troubledStore.kinds.length) ∧
        ∀ m ∈ ms, m.call.surplus = []) ∧
      (∃ reports, IsDirectRun troubledStore l ms reports (l.logAll troubledStore ms)) ∧
      (l.logAll troubledStore ms).2.1.notices =
        [.printed "pattern_logger: Filter error: no rules\n",
          .printed "pattern_logger: Filter error: no rules\n",
          .printed "pattern_logger: Writer error: disk full\n"] ∧
      (l.logAll troubledStore ms).1.logged = 1 := by
  have plain : ∀ m ∈ [exMessage "", exMessage "up"], m.call.surplus = [] := by
    simp [exMessage]
  have stored : ∀ id ∈ [0, 1], id < troubledStore.kinds.length := by decide
  exact ⟨⟨rfl, stored, plain⟩, logAll_direct troubledFilters rfl stored plain, by decide +kernel,
    by decide +kernel⟩

end LogLayout.Delivery
