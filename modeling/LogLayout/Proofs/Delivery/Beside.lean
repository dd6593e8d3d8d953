import LogLayout.Delivery.Logger
import LogLayout.Proofs.Disk.SameBytes

/-!
# Two stores that a logger cannot tell apart

A store may have more layouts, writers and notices than another, and empty files that are missing
there. As long as a logger finds its own writers, their layouts and its settings in both, each of
its operations comes to the same in both, and the stores stay alike.

Results:
1. `IsBeside.write`: a writer writes the same line, with the same outcome.
2. `IsBeside.deliverAll`: entries are offered to the writers with the same outcomes.
3. `IsBeside.log`: a message is accepted or refused, handed over and counted in the same way.
-/

namespace LogLayout.Delivery

/-! ## Definitions -/

/-- The settings that a logger and its worker look at while they work. -/
structure Working where
  name : String
  minLevel : Level
  asyncMode : Bool
  batchSize : Setting.Quantity
  flushInterval : Setting.Quantity
  captureLocation : Bool

/-- The settings of a configuration that count for a logger at work. -/
def Working.ofConfig (c : Config) : Working :=
  ⟨c.name, c.minLevel, c.asyncMode, c.batchSize, c.flushInterval, c.captureLocation⟩

/-- The layouts of the writers are in the store. -/
def Store.KnowsLayouts (s : Store) : Prop :=
  ∀ w ∈ s.writers, ∀ n ∈ w.layout, n < s.layouts.length

/-- To a logger with this configuration and these writers `t` is like `s`: its settings are the same
in both, and `t` has what there is in `s`. -/
structure IsBeside (config : ConfigId) (ids : List WriterId) (s t : Store) : Prop where
  surroundings : t.surroundings = s.surroundings
  installed : t.installed = s.installed
  notices : s.notices.Sublist t.notices
  calls : t.calls = s.calls
  bytes : s.disk.SameBytes t.disk
  settings : Working.ofConfig (t.config config) = Working.ofConfig (s.config config)
  layouts : s.layouts <+: t.layouts
  writers : s.writers <+: t.writers
  /-- The writers of the logger are in the store. -/
  stored : ∀ id ∈ ids, id < s.writers.length
  known : s.KnowsLayouts

/-- Both stores after an operation are alike, and it came to the same. -/
def IsSame {α : Type} (config : ConfigId) (ids : List WriterId) (x y : Store × α) : Prop :=
  IsBeside config ids x.1 y.1 ∧ y.2 = x.2

theorem IsSame.parts {α : Type} {config : ConfigId} {ids : List WriterId} {x y : Store × α}
    (same : IsSame config ids x y) :
    ∃ s t a, x = (s, a) ∧ y = (t, a) ∧ IsBeside config ids s t :=
  ⟨x.1, y.1, x.2, rfl, by rw [← same.2], same.1⟩

/-! ## 1. Writers -/

theorem set_prefix_set {α : Type} {xs ys : List α} (front : xs <+: ys) {i : Nat}
    (inside : i < xs.length) (a : α) : xs.set i a <+: ys.set i a := by
  obtain ⟨rest, rfl⟩ := front
  rw [List.set_append_left _ _ inside]
  exact List.prefix_append _ _

section
variable {config : ConfigId} {ids : List WriterId} {s t : Store}
  (beside : IsBeside config ids s t)
include beside

theorem IsBeside.reportText (text : String) :
    IsBeside config ids (s.reportText text) (t.reportText text) :=
  { beside with
    notices := by
      rw [Store.reportText, Store.reportText, beside.installed]
      exact beside.notices.append (List.Sublist.refl _) }

theorem IsBeside.print (text : String) : IsBeside config ids (s.print text) (t.print text) :=
  { beside with notices := beside.notices.append (List.Sublist.refl _) }

theorem IsBeside.note (c : Call) : IsBeside config ids (s.note c) (t.note c) :=
  { beside with calls := congrArg (· ++ [c]) beside.calls }

theorem IsBeside.disks {disk disk' : Disk} (same : disk.SameBytes disk') :
    IsBeside config ids { s with disk } { t with disk := disk' } :=
  { beside with bytes := same }

theorem IsBeside.writer {id : WriterId} {w : Writer} (found : s.writers[id]? = some w) :
    t.writers[id]? = some w := by
  obtain ⟨inside, rfl⟩ := List.getElem?_eq_some_iff.1 found
  exact List.prefix_iff_getElem?.1 beside.writers id inside

theorem IsBeside.setLayout {n : LayoutId} (inside : n < s.layouts.length) (f : LineFormat) :
    IsBeside config ids { s with layouts := s.layouts.set n f }
      { t with layouts := t.layouts.set n f } := by
  refine { beside with layouts := set_prefix_set beside.layouts inside f, known := ?_ }
  intro w member n' uses
  show n' < (s.layouts.set n f).length
  rw [List.length_set]
  exact beside.known w member n' uses

theorem IsBeside.setWriter {id : WriterId} {w : Writer} (found : s.writers[id]? = some w)
    (w' : Writer) (same : w'.layout = w.layout) :
    IsBeside config ids (s.setWriter id w') (t.setWriter id w') := by
  obtain ⟨inside, here⟩ := List.getElem?_eq_some_iff.1 found
  refine { beside with writers := set_prefix_set beside.writers inside w', stored := ?_, known := ?_ }
  · intro id' member
    show id' < (s.writers.set id w').length
    rw [List.length_set]
    exact beside.stored id' member
  · intro w₁ member n uses
    rcases List.mem_or_eq_of_mem_set member with old | rfl
    · exact beside.known w₁ old n uses
    · rw [same] at uses
      exact beside.known w (here ▸ List.getElem_mem inside) n uses

end

theorem writers_warnAll (s : Store) (ws : List Warning) : (s.warnAll ws).writers = s.writers := by
  induction ws generalizing s with
  | nil => rfl
  | cons w ws ih => exact ih (s.warn w)

theorem writers_format (s : Store) (layout : Option LayoutId) (e : Entry) :
    (s.format layout e).1.writers = s.writers := by
  unfold Store.format
  split
  · rfl
  · split
    · rfl
    · exact writers_warnAll _ _

theorem IsBeside.warnAll {config : ConfigId} {ids : List WriterId} {s t : Store}
    (beside : IsBeside config ids s t) (ws : List Warning) :
    IsBeside config ids (s.warnAll ws) (t.warnAll ws) := by
  induction ws generalizing s t with
  | nil => exact beside
  | cons w ws ih => exact ih (beside.reportText w.message)

section
variable {config : ConfigId} {ids : List WriterId} {s t : Store}
  (beside : IsBeside config ids s t)
include beside

theorem IsBeside.format {layout : Option LayoutId} (known : ∀ n ∈ layout, n < s.layouts.length)
    (e : Entry) : IsSame config ids (s.format layout e) (t.format layout e) := by
  cases layout with
  | none => exact ⟨beside, rfl⟩
  | some n =>
    have inside := known n rfl
    have found := List.getElem?_eq_getElem inside
    have found' := List.prefix_iff_getElem?.1 beside.layouts n inside
    -- All that a field looks up outside of the entry is in the surroundings.
    have line : s.layouts[n].format t.surroundings e = s.layouts[n].format s.surroundings e := by
      rw [beside.surroundings]
    simp only [Store.format, found, found', line]
    exact ⟨(beside.setLayout inside _).warnAll _, rfl⟩

theorem IsBeside.writeLine {id : WriterId} {w : Writer} (found : s.writers[id]? = some w)
    (e : Entry) : IsSame config ids (s.writeLine id w e) (t.writeLine id w e) := by
  have found' : (s.format w.layout e).1.writers[id]? = some w := by rw [writers_format, found]
  obtain ⟨s₁, t₁, outcome, first, second, after⟩ :=
    (beside.format (beside.known w (List.mem_of_getElem? found)) e).parts
  rw [first] at found'
  cases sink : w.sink with
  | file handle =>
    cases handle with
    | none =>
      simp only [Store.writeLine, sink]
      exact ⟨beside, rfl⟩
    | some file =>
      simp only [Store.writeLine, sink, first, second]
      cases outcome with
      | error fault => exact ⟨after, rfl⟩
      | ok line =>
        obtain ⟨⟨same, file'⟩, ended⟩ := after.bytes.writeText file (line ++ "\n")
        dsimp only
        rw [file', ended]
        exact ⟨(after.disks same).setWriter found' _ rfl, rfl⟩
  | console colored stream =>
    simp only [Store.writeLine, sink, first, second]
    cases outcome with
    | error fault => exact ⟨after, rfl⟩
    | ok line =>
      cases stream with
      | none => exact ⟨after.print _, rfl⟩
      | some text => exact ⟨after.setWriter found' _ rfl, rfl⟩
  | custom c =>
    simp only [Store.writeLine, sink, first, second, beside.calls]
    cases c.writeFault s.calls e with
    | some fault => exact ⟨beside, rfl⟩
    | none => exact ⟨after, rfl⟩

theorem IsBeside.write {id : WriterId} (inside : id < s.writers.length) (e : Entry) :
    IsSame config ids (s.write id e) (t.write id e) := by
  have found := List.getElem?_eq_getElem inside
  obtain ⟨after, same⟩ := beside.writeLine found e
  simp only [Store.write, found, beside.writer found]
  rw [same]
  exact ⟨after.note _, rfl⟩

theorem IsBeside.flush {id : WriterId} (inside : id < s.writers.length) :
    IsSame config ids (s.flush id) (t.flush id) := by
  have found := List.getElem?_eq_getElem inside
  simp only [Store.flush, found, beside.writer found]
  cases sink : s.writers[id].sink with
  | console colored stream => exact ⟨beside.note _, rfl⟩
  | file handle =>
    cases handle with
    | none => exact ⟨beside.note _, rfl⟩
    | some file =>
      obtain ⟨same, file'⟩ := beside.bytes.flush file
      let w' : Writer := { s.writers[id] with sink := .file (some (s.disk.flush file).2) }
      dsimp only
      rw [file']
      exact ⟨((beside.disks same).setWriter found w' rfl).note _, rfl⟩
  | custom c =>
    cases flushFault : c.flushFault with
    | none =>
      simp only [flushFault]
      exact ⟨beside, rfl⟩
    | some fault? =>
      simp only [flushFault, beside.calls]
      exact ⟨beside.note _, rfl⟩

end

/-! ## 2. Entries -/

theorem IsBeside.deliver {config : ConfigId} {ids rest : List WriterId} {s t : Store}
    (beside : IsBeside config ids s t) (subset : rest ⊆ ids) (e : Entry) :
    IsBeside config ids (s.deliver e rest) (t.deliver e rest) := by
  induction rest generalizing s t with
  | nil => exact beside
  | cons id rest ih =>
    obtain ⟨member, subset⟩ := List.cons_subset.1 subset
    obtain ⟨after, same⟩ := beside.write (beside.stored id member) e
    simp only [Store.deliver, same]
    cases (s.write id e).2 with
    | ok line => exact ih after subset
    | error fault => exact ih (after.reportText _) subset

theorem IsBeside.deliverAll {config : ConfigId} {ids : List WriterId} {s t : Store}
    (beside : IsBeside config ids s t) (es : List Entry) :
    IsBeside config ids (s.deliverAll es ids) (t.deliverAll es ids) := by
  induction es generalizing s t with
  | nil => exact beside
  | cons e es ih => exact ih (beside.deliver (List.Subset.refl ids) e)

/-- The filters see the same calls before them. -/
theorem IsBeside.accepts {config : ConfigId} {ids : List WriterId} {s t : Store}
    (beside : IsBeside config ids s t) (e : Entry) (number : Nat) (filters : List Filter) :
    IsSame config ids (s.accepts e number filters) (t.accepts e number filters) := by
  induction filters generalizing s t number with
  | nil => exact ⟨beside, rfl⟩
  | cons f filters ih =>
    have asked := beside.note (.asked number (f.keeps s.calls e))
    simp only [Store.accepts, beside.calls]
    cases verdict : f.keeps s.calls e with
    | error fault =>
      rw [verdict] at asked
      exact ih (asked.reportText _) _
    | ok keeps =>
      rw [verdict] at asked
      cases keeps with
      | false => exact ⟨asked, rfl⟩
      | true => exact ih asked _

theorem IsBeside.flushAll {config : ConfigId} {ids rest : List WriterId} {s t : Store}
    (beside : IsBeside config ids s t) (subset : rest ⊆ ids) :
    IsSame config ids (Logger.untilFault Store.flush s rest)
      (Logger.untilFault Store.flush t rest) := by
  induction rest generalizing s t with
  | nil => exact ⟨beside, rfl⟩
  | cons id rest ih =>
    obtain ⟨member, subset⟩ := List.cons_subset.1 subset
    obtain ⟨s₁, t₁, fault?, first, second, after⟩ := (beside.flush (beside.stored id member)).parts
    simp only [Logger.untilFault, first, second]
    cases fault? with
    | some fault => exact ⟨after, rfl⟩
    | none => exact ih after subset

/-! ## 3. Messages -/

section
variable {l : Logger} {s t : Store} (beside : IsBeside l.config l.writers s t)
include beside

theorem IsBeside.handOver (e : Entry) :
    (l.handOver t e).1 = (l.handOver s e).1 ∧
      IsSame l.config l.writers (l.handOver s e).2 (l.handOver t e).2 := by
  have mode : (t.config l.config).asyncMode = (s.config l.config).asyncMode :=
    congrArg Working.asyncMode beside.settings
  unfold Logger.handOver
  rw [mode]
  split
  · split
    · exact ⟨rfl, beside, rfl⟩
    · split <;> exact ⟨rfl, beside, rfl⟩
  · exact ⟨rfl, beside.deliverAll [e], rfl⟩

theorem IsBeside.log (level : Setting.Quantity) (call : Logger.Call) :
    (l.log t level call).1 = (l.log s level call).1 ∧
      IsSame l.config l.writers (l.log s level call).2 (l.log t level call).2 := by
  have settings := beside.settings
  simp only [Working.ofConfig, Working.mk.injEq] at settings
  obtain ⟨name, threshold, -, -, -, location⟩ := settings
  unfold Logger.log
  dsimp only
  rw [name, threshold, location]
  split
  · exact ⟨rfl, beside, rfl⟩
  · split
    · exact ⟨rfl, beside, rfl⟩
    · split
      · exact ⟨rfl, beside, rfl⟩
      · exact ⟨rfl, beside, rfl⟩
      · next lv _ _ =>
        generalize call.entry lv (s.config l.config).name (s.config l.config).captureLocation = e
        obtain ⟨s₁, t₁, keeps, first, second, after⟩ := (beside.accepts e 0 l.filters).parts
        rw [first, second]
        cases keeps with
        | false => exact ⟨rfl, after, rfl⟩
        | true => exact after.handOver _

end

end LogLayout.Delivery
