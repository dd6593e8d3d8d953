import LogLayout.Delivery.Logger

/-!
# What operations add to the past

The store keeps the calls of filters and writers and the notices for callers. Asking filters and
writing to writers only adds to both; what the loggers are made of stays. This module says for
these operations which calls and which notices they add.

Results:
1. `isAfter_write`: a writer is called once, and by itself it gives notice of failing directives
   only, or prints its line.
2. `isAfter_deliver`: each of the writers is offered the entry, whichever of them fail, and each
   failure is one warning.
3. `isAfter_accepts`: the filters are asked in order up to the first that refuses.
-/

namespace LogLayout.Delivery

/-! ## Definitions -/

/-- What stays the same of a writer. -/
inductive WriterKind
  /-- A terminal, with or without a stream of its own. -/
  | console (ownStream : Bool)
  | file
  | custom (c : CustomWriter)

/-- The kind of a writer. -/
def Writer.kind (w : Writer) : WriterKind :=
  match w.sink with
  | .console _ stream => .console stream.isSome
  | .file _ => .file
  | .custom c => .custom c

/-- The kinds of the writers, by their numbers. -/
def Store.kinds (s : Store) : List WriterKind := s.writers.map Writer.kind

/-- `s'` is `s` after these calls and notices. -/
structure IsAfter (s : Store) (calls : List Call) (notices : List Notice) (s' : Store) : Prop where
  configs : s'.configs = s.configs
  installed : s'.installed = s.installed
  kinds : s'.kinds = s.kinds
  calls : s'.calls = s.calls ++ calls
  notices : s'.notices = s.notices ++ notices

/-- What a writer of a kind gives notice of by itself while it is called: directives that fail, and
its line if it shares the stream that warnings are printed to. -/
inductive OwnNotice (installed : Option Handler) : WriterKind → Notice → Prop
  | rendering {kind : WriterKind} (word reason : String) :
      OwnNotice installed kind (report installed none (Warning.rendering word reason).message)
  | line (text : String) : OwnNotice installed (.console false) (.printed text)

/-- The warning that a failing call brings. -/
def Call.warning? : Call → Option Warning
  | .asked _ (.error fault) => some (.filter fault.message)
  | .wrote _ _ (.error fault) => some (.writer fault.message)
  | _ => none

/-- Whether a filter was asked and refused the entry. -/
def Call.refuses : Call → Bool
  | .asked _ (.ok false) => true
  | _ => false

/-- A call, and what the called component gave notice of by itself. -/
structure Occurrence where
  call : Call
  own : List Notice := []

/-- The notices of an occurrence: if the call failed, the warning of that comes last. -/
def Occurrence.notices (installed : Option Handler) (o : Occurrence) : List Notice :=
  o.own ++ (o.call.warning?.map fun w => report installed none w.message).toList

/-- The occurrence is that of offering the entry to the writer after the calls in `past`. A writer
of the caller's own fails when it says so. -/
structure IsOffer (s : Store) (past : List Call) (e : Entry) (id : WriterId) (o : Occurrence) :
    Prop where
  call : ∃ outcome, o.call = .wrote id e outcome ∧ ∀ c fault, s.kinds[id]? = some (.custom c) →
    c.writeFault past e = some fault → outcome = .error fault
  own : ∃ kind ∈ s.kinds[id]?, ∀ n ∈ o.own, OwnNotice s.installed kind n

/-- The entry is offered to each of the writers, in order. -/
inductive AreOffers (s : Store) (e : Entry) :
    List Call → List WriterId → List Occurrence → Prop
  | nil {past : List Call} : AreOffers s e past [] []
  | cons {past : List Call} {id : WriterId} {ids : List WriterId} {o : Occurrence}
      {os : List Occurrence} : IsOffer s past e id o → AreOffers s e (past ++ [o.call]) ids os →
      AreOffers s e past (id :: ids) (o :: os)

/-- The filters were asked for the entry, each for what it says after the calls that were made
before it, up to the first that refuses. The first of them has the number `number`. -/
structure AreAsked (number : Nat) (filters : List Filter) (past : List Call) (e : Entry)
    (asked : List Call) : Prop where
  verdict : ∀ (i : Nat) (call : Call), call ∈ asked[i]? → ∃ f ∈ filters[i]?,
    call = .asked (number + i) (f.keeps (past ++ asked.take i) e)
  stops : ∀ before call after, asked = before ++ call :: after → call.refuses = true → after = []
  all : (∀ call ∈ asked, call.refuses = false) → asked.length = filters.length

/-- The writer and the entry of a call that offers one. -/
def Call.offer? : Call → Option (WriterId × Entry)
  | .wrote id e _ => some (id, e)
  | _ => none

/-- The entries that were offered to writers, the oldest first. -/
def offers (calls : List Call) : List (WriterId × Entry) := calls.filterMap Call.offer?

/-- Each of the entries for each of the writers. -/
def fanOut (ids : List WriterId) (es : List Entry) : List (WriterId × Entry) :=
  es.flatMap fun e => ids.map fun id => (id, e)

/-! ## Steps of the past -/

theorem IsAfter.refl (s : Store) : IsAfter s [] [] s where
  configs := rfl
  installed := rfl
  kinds := rfl
  calls := (List.append_nil _).symm
  notices := (List.append_nil _).symm

theorem IsAfter.trans {s s' s'' : Store} {calls more : List Call} {notices others : List Notice}
    (first : IsAfter s calls notices s') (second : IsAfter s' more others s'') :
    IsAfter s (calls ++ more) (notices ++ others) s'' where
  configs := second.configs.trans first.configs
  installed := second.installed.trans first.installed
  kinds := second.kinds.trans first.kinds
  calls := by rw [second.calls, first.calls, List.append_assoc]
  notices := by rw [second.notices, first.notices, List.append_assoc]

theorem IsAfter.config {s s' : Store} {calls : List Call} {notices : List Notice}
    (after : IsAfter s calls notices s') (id : ConfigId) : s'.config id = s.config id := by
  rw [Store.config, Store.config, after.configs]

theorem isAfter_note (s : Store) (c : Call) : IsAfter s [c] [] (s.note c) where
  configs := rfl
  installed := rfl
  kinds := rfl
  calls := rfl
  notices := (List.append_nil _).symm

theorem isAfter_print (s : Store) (text : String) :
    IsAfter s [] [.printed text] (s.print text) where
  configs := rfl
  installed := rfl
  kinds := rfl
  calls := (List.append_nil _).symm
  notices := rfl

theorem isAfter_warn (s : Store) (w : Warning) :
    IsAfter s [] [report s.installed none w.message] (s.warn w) where
  configs := rfl
  installed := rfl
  kinds := rfl
  calls := (List.append_nil _).symm
  notices := rfl

theorem isAfter_warnAll (s : Store) (ws : List Warning) :
    IsAfter s [] (ws.map fun w => report s.installed none w.message) (s.warnAll ws) := by
  induction ws generalizing s with
  | nil => exact .refl s
  | cons w ws ih => exact (isAfter_warn s w).trans (ih (s.warn w))

/-- Disk and layouts are no part of the past. -/
theorem isAfter_disk (s : Store) (disk : Disk) : IsAfter s [] [] { s with disk } :=
  { IsAfter.refl s with }

theorem isAfter_layouts (s : Store) (layouts : List LineFormat) :
    IsAfter s [] [] { s with layouts } :=
  { IsAfter.refl s with }

theorem isAfter_setWriter {s : Store} {id : WriterId} {w : Writer}
    (found : s.kinds[id]? = some w.kind) (w' : Writer) (same : w'.kind = w.kind) :
    IsAfter s [] [] (s.setWriter id w') where
  configs := rfl
  installed := rfl
  kinds := by
    show (s.writers.set id w').map Writer.kind = s.kinds
    rw [List.map_set, same]
    apply List.ext_getElem?
    intro i
    rw [List.getElem?_set]
    split
    · next here =>
      subst here
      split
      · exact found.symm
      · next outside =>
        rw [List.length_map] at outside
        simp [Store.kinds, outside]
    · rfl
  calls := (List.append_nil _).symm
  notices := (List.append_nil _).symm

theorem kinds_getElem? {s : Store} {id : WriterId} {w : Writer} (found : s.writers[id]? = some w) :
    s.kinds[id]? = some w.kind := by
  rw [Store.kinds, List.getElem?_map, found]
  rfl

/-! ## 1. Writers -/

theorem renderSlots_rendering (s : Pattern.Surroundings) (e : Entry) (slots : List Pattern.Slot) :
    ∀ w ∈ (Pattern.renderSlots s e slots).2.warnings,
      ∃ word reason, w = .rendering word reason := by
  have own : ∀ (slot : Pattern.Slot), ∀ w ∈ (slot.warning? s e).toList,
      ∃ word reason, w = .rendering word reason := by
    intro slot w member
    rw [Option.mem_toList, Pattern.Slot.warning?] at member
    split at member
    · exact absurd member (by simp)
    · next f _ =>
      split at member
      · exact absurd member (by simp)
      · obtain ⟨fault, -, rfl⟩ := Option.map_eq_some_iff.1 member
        exact ⟨f.word, fault.message, rfl⟩
  induction slots with
  | nil => simp [Pattern.renderSlots, Warned.ok]
  | cons slot slots ih =>
    rw [Pattern.renderSlots]
    split
    · exact own slot
    · intro w member
      rcases List.mem_append.1 member with here | later
      · exact own slot w here
      · exact ih w later

/-- Warnings of formatting are those of directives that fail. -/
theorem format_rendering (f : LineFormat) (s : Pattern.Surroundings) (e : Entry) :
    ∀ w ∈ (f.format s e).2.warnings, ∃ word reason, w = .rendering word reason := by
  cases f with
  | layout l => exact renderSlots_rendering s e l.slots
  | custom past line => simp [LineFormat.format]

/-- Formatting an entry gives notice of the directives that fail. -/
theorem isAfter_format (s : Store) (kind : WriterKind) (layout : Option LayoutId) (e : Entry) :
    ∃ own, (∀ n ∈ own, OwnNotice s.installed kind n) ∧
      IsAfter s [] own (s.format layout e).1 := by
  unfold Store.format
  split
  · exact ⟨[], by simp, .refl s⟩
  · split
    · exact ⟨[], by simp, .refl s⟩
    · next id f found =>
      refine ⟨_, ?_, (isAfter_layouts s _).trans (isAfter_warnAll _ _)⟩
      intro n member
      obtain ⟨w, warned, rfl⟩ := List.mem_map.1 member
      obtain ⟨word, reason, rfl⟩ := format_rendering f s.surroundings e w warned
      exact .rendering word reason

theorem isAfter_writeLine {s : Store} {id : WriterId} {w : Writer}
    (found : s.kinds[id]? = some w.kind) (e : Entry) :
    ∃ own, (∀ n ∈ own, OwnNotice s.installed w.kind n) ∧
      IsAfter s [] own (s.writeLine id w e).1 := by
  obtain ⟨own, each, formatted⟩ := isAfter_format s w.kind w.layout e
  have stays : (s.format w.layout e).1.kinds[id]? = some w.kind := by rw [formatted.kinds, found]
  rw [Store.writeLine]
  split
  · exact ⟨[], by simp, .refl s⟩
  · next file sink =>
    have kind : w.kind = .file := by rw [Writer.kind, sink]
    split
    · next s' fault stopped =>
      rw [stopped] at formatted
      exact ⟨own, each, formatted⟩
    · next s' line finished =>
      rw [finished] at formatted stays
      refine ⟨own, each, ?_⟩
      let disk := (s'.disk.writeText file (line ++ "\n")).1.1
      -- the writer that is put back has another handle, but is still that of a file
      have placed := isAfter_setWriter (s := { s' with disk }) stays
        { w with sink := .file (some (s'.disk.writeText file (line ++ "\n")).1.2) } kind.symm
      simpa using (formatted.trans (isAfter_disk s' disk)).trans placed
  · next colored stream sink =>
    have kind : w.kind = .console stream.isSome := by rw [Writer.kind, sink]
    split
    · next s' fault stopped =>
      rw [stopped] at formatted
      exact ⟨own, each, formatted⟩
    · next s' line finished =>
      rw [finished] at formatted stays
      cases stream with
      | none =>
        refine ⟨own ++ [_], ?_, formatted.trans (isAfter_print s' _)⟩
        intro n member
        rcases List.mem_append.1 member with earlier | last
        · exact each n earlier
        · rw [List.mem_singleton.1 last, kind]
          exact .line _
      | some text =>
        let shown := if colored then colorLine e.level line else line
        have placed := isAfter_setWriter stays
          { w with sink := .console colored (some (text ++ shown ++ "\n")) } kind.symm
        exact ⟨own, each, by simpa using formatted.trans placed⟩
  · next c sink =>
    split
    · exact ⟨[], by simp, .refl s⟩
    · exact ⟨own, each, formatted⟩

/-- A writer of the caller's own fails when it says so. -/
theorem write_custom {s : Store} {id : WriterId} {c : CustomWriter} {e : Entry} {fault : Fault}
    (found : s.kinds[id]? = some (.custom c)) (fails : c.writeFault s.calls e = some fault) :
    (s.write id e).2 = .error fault := by
  rw [Store.kinds, List.getElem?_map, Option.map_eq_some_iff] at found
  obtain ⟨w, found, kind⟩ := found
  have sink : w.sink = .custom c := by
    rw [Writer.kind] at kind
    split at kind <;> simp_all
  simp [Store.write, found, Store.writeLine, sink, fails]

theorem isAfter_write {s : Store} {id : WriterId} (stored : id < s.kinds.length) (e : Entry) :
    ∃ own, (∃ kind ∈ s.kinds[id]?, ∀ n ∈ own, OwnNotice s.installed kind n) ∧
      IsAfter s [.wrote id e (s.write id e).2] own (s.write id e).1 := by
  rw [Store.kinds, List.length_map] at stored
  have found : s.writers[id]? = some s.writers[id] := List.getElem?_eq_getElem stored
  obtain ⟨own, each, written⟩ := isAfter_writeLine (kinds_getElem? found) e
  refine ⟨own, ⟨_, kinds_getElem? found, each⟩, ?_⟩
  rw [Store.write, found]
  simpa using written.trans (isAfter_note _ _)

/-! ## 2. Offering entries -/

theorem AreOffers.of_isAfter {s s' : Store} {calls past : List Call} {notices : List Notice}
    (after : IsAfter s calls notices s') {e : Entry} {ids : List WriterId} {os : List Occurrence}
    (offered : AreOffers s' e past ids os) : AreOffers s e past ids os := by
  induction offered with
  | nil => exact .nil
  | cons first _ ih =>
    refine .cons ⟨?_, ?_⟩ ih
    · rw [← after.kinds]
      exact first.call
    · rw [← after.kinds, ← after.installed]
      exact first.own

/-- An entry is offered to a writer; if that fails, the warning follows. -/
theorem isAfter_offer {s : Store} {id : WriterId} (stored : id < s.kinds.length) (e : Entry) :
    ∃ o, IsOffer s s.calls e id o ∧ IsAfter s [o.call] (o.notices s.installed)
      (match (s.write id e).2 with
        | .ok _ => (s.write id e).1
        | .error fault => (s.write id e).1.warn (.writer fault.message)) := by
  obtain ⟨own, each, written⟩ := isAfter_write stored e
  refine ⟨⟨.wrote id e (s.write id e).2, own⟩, ⟨⟨_, rfl, fun _ _ => write_custom⟩, each⟩, ?_⟩
  cases outcome : (s.write id e).2 with
  | ok line =>
    rw [outcome] at written
    simpa [Occurrence.notices, Call.warning?] using written
  | error fault =>
    rw [outcome] at written
    have warned := written.trans (isAfter_warn _ (.writer fault.message))
    rw [written.installed] at warned
    simpa [Occurrence.notices, Call.warning?] using warned

/-- Every writer is offered the entry, in order, whichever of them fail. -/
theorem isAfter_deliver {s : Store} {ids : List WriterId}
    (stored : ∀ id ∈ ids, id < s.kinds.length) (e : Entry) :
    ∃ os : List Occurrence, AreOffers s e s.calls ids os ∧
      IsAfter s (os.map (·.call)) (os.flatMap (·.notices s.installed)) (s.deliver e ids) := by
  induction ids generalizing s with
  | nil => exact ⟨[], .nil, .refl s⟩
  | cons id ids ih =>
    obtain ⟨o, offer, first⟩ := isAfter_offer (stored id (by simp)) e
    obtain ⟨os, offers, others⟩ := ih fun id member => first.kinds ▸ stored id (by simp [member])
    rw [first.installed] at others
    rw [first.calls] at offers
    exact ⟨o :: os, .cons offer (offers.of_isAfter first), first.trans others⟩

theorem offers_append (calls more : List Call) :
    offers (calls ++ more) = offers calls ++ offers more :=
  List.filterMap_append

theorem fanOut_append (ids : List WriterId) (es others : List Entry) :
    fanOut ids (es ++ others) = fanOut ids es ++ fanOut ids others :=
  List.flatMap_append

theorem fanOut_singleton (ids : List WriterId) (e : Entry) :
    fanOut ids [e] = ids.map fun id => (id, e) := by
  simp [fanOut]

theorem offers_of_map {calls : List Call} {offered : List (WriterId × Entry)}
    (each : calls.map Call.offer? = offered.map some) : offers calls = offered := by
  have all := congrArg (List.filterMap id) each
  rw [List.filterMap_map, List.filterMap_map] at all
  simpa [offers] using all

theorem AreOffers.map_offer? {s : Store} {e : Entry} {past : List Call} {ids : List WriterId}
    {os : List Occurrence} (offered : AreOffers s e past ids os) :
    (os.map (·.call)).map Call.offer? = (fanOut ids [e]).map some := by
  rw [fanOut_singleton]
  induction offered with
  | nil => rfl
  | cons first _ ih =>
    obtain ⟨outcome, call, -⟩ := first.call
    rw [List.map_cons, List.map_cons, List.map_cons, List.map_cons, ih, call]
    rfl

/-- Every entry is offered to every writer, in order, and nothing else is called. -/
theorem isAfter_deliverAll {s : Store} {ids : List WriterId}
    (stored : ∀ id ∈ ids, id < s.kinds.length) (es : List Entry) :
    ∃ calls notices, IsAfter s calls notices (s.deliverAll es ids) ∧
      calls.map Call.offer? = (fanOut ids es).map some := by
  induction es generalizing s with
  | nil => exact ⟨[], [], .refl s, rfl⟩
  | cons e es ih =>
    obtain ⟨os, each, first⟩ := isAfter_deliver stored e
    obtain ⟨calls, notices, others, offered⟩ := ih fun id member => first.kinds ▸ stored id member
    refine ⟨_, _, first.trans others, ?_⟩
    rw [List.map_append, each.map_offer?, offered, ← List.map_append, ← fanOut_append]
    rfl

/-! ## 3. Asking filters -/

theorem AreAsked.nil (number : Nat) (past : List Call) (e : Entry) :
    AreAsked number [] past e [] where
  verdict := by simp
  stops := by simp
  all := by simp

/-- A filter in front that refuses is the only one that is asked. -/
theorem AreAsked.refused {number : Nat} {f : Filter} {fs : List Filter} {past : List Call}
    {e : Entry} (verdict : f.keeps past e = .ok false) :
    AreAsked number (f :: fs) past e [.asked number (.ok false)] where
  verdict := by
    intro i call member
    cases i with
    | zero =>
      refine ⟨f, rfl, ?_⟩
      rw [List.take_zero, List.append_nil, verdict]
      exact (Option.some.inj member).symm
    | succ i => exact absurd member (by simp)
  stops := by
    intro before call after same _
    have lengths := congrArg List.length same
    simp only [List.length_cons, List.length_nil, List.length_append] at lengths
    exact List.length_eq_zero_iff.1 (by omega)
  all := fun none => absurd (none _ (List.mem_singleton_self _)) (by simp [Call.refuses])

/-- After a filter in front that does not refuse the others are asked. -/
theorem AreAsked.cons {number : Nat} {f : Filter} {fs : List Filter} {past asked : List Call}
    {e : Entry} (keeps : Call.refuses (.asked number (f.keeps past e)) = false)
    (others : AreAsked (number + 1) fs (past ++ [.asked number (f.keeps past e)]) e asked) :
    AreAsked number (f :: fs) past e (.asked number (f.keeps past e) :: asked) where
  verdict := by
    intro i call member
    cases i with
    | zero =>
      refine ⟨f, rfl, ?_⟩
      rw [List.take_zero, List.append_nil]
      exact (Option.some.inj member).symm
    | succ i =>
      obtain ⟨g, found, same⟩ := others.verdict i call (by simpa using member)
      refine ⟨g, by simpa using found, ?_⟩
      rw [same, List.take_succ_cons, List.append_assoc, List.singleton_append, Nat.add_right_comm,
        Nat.add_assoc]
  stops := by
    intro before call after same refuses
    cases before with
    | nil =>
      obtain ⟨rfl, -⟩ := List.cons.inj same
      rw [keeps] at refuses
      exact absurd refuses (by simp)
    | cons _ before => exact others.stops before call after (List.cons.inj same).2 refuses
  all := by
    intro none
    have longer := others.all fun call member => none call (by simp [member])
    rw [List.length_cons, List.length_cons, longer]

/-- The filters are asked in order up to the first that refuses, a failing one is a warning, and
the entry is kept exactly if none refuses. -/
theorem isAfter_accepts (s : Store) (e : Entry) (number : Nat) (filters : List Filter) :
    ∃ asked : List Call, AreAsked number filters s.calls e asked ∧
      IsAfter s asked (asked.flatMap fun call => Occurrence.notices s.installed { call })
        (s.accepts e number filters).1 ∧
      ((s.accepts e number filters).2 = true ↔ ∀ call ∈ asked, call.refuses = false) := by
  induction filters generalizing s number with
  | nil => exact ⟨[], .nil number s.calls e, .refl s, by simp [Store.accepts]⟩
  | cons f fs ih =>
    have noted := isAfter_note s (.asked number (f.keeps s.calls e))
    rw [Store.accepts]
    cases verdict : f.keeps s.calls e with
    | ok kept =>
      rw [verdict] at noted
      cases kept with
      | false =>
        refine ⟨_, .refused verdict, ?_, by simp [Call.refuses]⟩
        simpa [Occurrence.notices, Call.warning?] using noted
      | true =>
        obtain ⟨asked, others, after, kept⟩ := ih (s.note (.asked number (.ok true))) (number + 1)
        rw [noted.calls, ← verdict] at others
        refine ⟨_, .cons (by rw [verdict]; rfl) others, ?_, ?_⟩
        · rw [verdict]
          have joined := noted.trans after
          rw [noted.installed] at joined
          simpa [Occurrence.notices, Call.warning?] using joined
        · rw [List.forall_mem_cons, verdict]
          simpa [Call.refuses] using kept
    | error fault =>
      rw [verdict] at noted
      have warned := noted.trans (isAfter_warn _ (.filter fault.message))
      obtain ⟨asked, others, after, kept⟩ :=
        ih ((s.note (.asked number (.error fault))).warn (.filter fault.message)) (number + 1)
      rw [warned.calls, ← verdict, List.append_nil] at others
      refine ⟨_, .cons (by rw [verdict]; rfl) others, ?_, ?_⟩
      · rw [verdict]
        have joined := warned.trans after
        rw [warned.installed, noted.installed] at joined
        simpa [Occurrence.notices, Call.warning?] using joined
      · rw [List.forall_mem_cons, verdict]
        simpa [Call.refuses] using kept

end LogLayout.Delivery
