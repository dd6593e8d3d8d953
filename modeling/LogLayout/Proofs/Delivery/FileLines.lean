import LogLayout.Delivery.Writer
import LogLayout.Proofs.Disk.Following
import LogLayout.Proofs.Text.PlainEncoding

/-!
# Lines in a file

A writer that was opened on a file adds one line for each entry, until it is closed. Between its
calls a part of the lines is held back, which is on the disk after each flush and after the close.
A call that fails adds nothing, and the calls after it go on as before.

Results:
1. `openFile_found`: opening a file that is there.
2. `writeText_line`: a line is added as a whole or not at all.
3. `perform_write`, `perform_flush`, `perform_close`: one call of an open writer;
   `performAll_closed`, any calls of a closed one.
4. `performAll_open`: a run of calls.
5. `file_holds_lines`: the file after a run that ends with a flush or a close.
-/

namespace LogLayout.Delivery

open Pattern (Surroundings)
open Text (PlainEncoding)

/-! ## Definitions -/

/-- A mode in which lines are written to a file that is there. -/
inductive LineMode
  | append
  | replace

/-- The text of the mode. -/
def LineMode.text : LineMode → String
  | append => "a"
  | replace => "w"

/-- What is left of the content of a file that is opened. -/
def LineMode.kept (m : LineMode) (content : List UInt8) : List UInt8 :=
  match m with
  | append => content
  | replace => []

/-- A call of a writer. -/
inductive WriterCall
  | write (e : Entry)
  | flush
  | close

/-- Makes a call of a writer: the fault that it ends in, if it does. -/
def Store.perform (s : Store) (id : WriterId) : WriterCall → Store × Option Fault
  | .write e =>
    match s.write id e with
    | (s, .ok _) => (s, none)
    | (s, .error fault) => (s, some fault)
  | .flush => s.flush id
  | .close => s.close id

/-- Makes calls of a writer one after another: how each of them ends. -/
def Store.performAll (s : Store) (id : WriterId) : List WriterCall → Store × List (Option Fault)
  | [] => (s, [])
  | call :: calls =>
    let (s, outcome) := s.perform id call
    let (s, outcomes) := s.performAll id calls
    (s, outcome :: outcomes)

/-- The way to format of a number. -/
def Store.lineFormat? (s : Store) (layout : Option LayoutId) : Option LineFormat :=
  layout.bind (s.layouts[·]?)

/-- The line of an entry, and the way to format the next one. -/
def nextLine (f : Option LineFormat) (s : Surroundings) (e : Entry) :
    Option LineFormat × Except Fault String :=
  match f with
  | none => (none, .ok e.text)
  | some f => (some (f.format s e).1, (f.format s e).2.result)

/-- What writing a line comes to: the fault that it ends in, and the bytes that it adds. -/
inductive Adds (encoding : PlainEncoding) :
    Except Fault String → Option Fault → List UInt8 → Prop
  | line {line : String} {bytes : List UInt8} : encoding.bytes? line = some bytes →
      Adds encoding (.ok line) none (bytes ++ [10])
  /-- A line with a character that the encoding lacks. -/
  | lacking {line : String} (fault : Fault) : encoding.bytes? line = none →
      Adds encoding (.ok line) (some fault) []
  | failed (fault : Fault) : Adds encoding (.error fault) (some fault) []

/-- How calls of a writer end, and the bytes that they add, if the lines are made by `f`. -/
inductive AreAdded (encoding : PlainEncoding) (s : Surroundings) :
    Option LineFormat → List WriterCall → List (Option Fault) → List UInt8 → Prop
  | nil {f : Option LineFormat} : AreAdded encoding s f [] [] []
  | write {f : Option LineFormat} {e : Entry} {calls : List WriterCall} {outcome : Option Fault}
      {outcomes : List (Option Fault)} {bytes more : List UInt8} :
      Adds encoding (nextLine f s e).2 outcome bytes →
      AreAdded encoding s (nextLine f s e).1 calls outcomes more →
      AreAdded encoding s f (.write e :: calls) (outcome :: outcomes) (bytes ++ more)
  | flush {f : Option LineFormat} {calls : List WriterCall} {outcomes : List (Option Fault)}
      {more : List UInt8} : AreAdded encoding s f calls outcomes more →
      AreAdded encoding s f (.flush :: calls) (none :: outcomes) more
  /-- Nothing that is called later adds anything or ends in a fault. -/
  | close {f : Option LineFormat} {calls : List WriterCall} :
      AreAdded encoding s f (.close :: calls) (none :: calls.map fun _ => none) []

/-- The writer is open on the file of the path, which has these bytes with those held back. -/
structure IsOpen (s : Store) (id : WriterId) (layout : Option LayoutId) (encoding : PlainEncoding)
    (p : FilePath) (file : OpenFile) (bytes : List UInt8) : Prop where
  writer : s.writers[id]? = some ⟨.file (some file), layout⟩
  located : s.disk.locate p = .ok file.place
  holds : s.disk.Holds file bytes
  writable : file.mode.isWritable = true
  encoding : file.encoding = encoding.encoding

/-- The writer is open on the file of the path or was closed. -/
def IsFileWriter (s : Store) (id : WriterId) (layout : Option LayoutId) (encoding : PlainEncoding)
    (p : FilePath) : Prop :=
  (∃ file bytes, IsOpen s id layout encoding p file bytes) ∨
    s.writers[id]? = some ⟨.file none, layout⟩

/-! ## 1. Opening -/

/-- A file that is there is opened. Its content is kept or removed, and lines go to the end. -/
theorem openFile_found {d : Disk} {p : FilePath} {content : List UInt8}
    (found : d.read p = .ok content) (m : LineMode) (encoding : PlainEncoding) :
    ∃ disk file, d.openFile p m.text encoding.name = (disk, .ok file) ∧
      disk.locate p = .ok file.place ∧ disk.Holds file (m.kept content) ∧
      file.mode.isWritable = true ∧ file.encoding = encoding.encoding := by
  obtain ⟨place, located, file⟩ := Disk.read_eq_ok_iff.1 found
  have named := Disk.names_ne_nil_of_content? file
  have above := Disk.makeDirectories_of_isDirectory (Disk.isDirectory_parent located)
  have free : (m.text.toList.contains '\x00' || encoding.name.toList.contains '\x00') = false := by
    cases m <;> cases encoding <;> decide
  rw [Disk.openFile, above]
  simp only [free, located, Bool.false_eq_true, if_false]
  cases m with
  | append =>
    have mode : Mode.ofText LineMode.append.text = .ok ⟨.append, false⟩ := rfl
    simp only [mode, Disk.openAt, Disk.prepare, Disk.node?_of_content? file,
      encoding.ofName_name, file]
    refine ⟨d, _, rfl, located, ⟨named, content, file, .inl rfl, ?_⟩, rfl, rfl⟩
    simp [OpenFile.pending, LineMode.kept]
  | replace =>
    have mode : Mode.ofText LineMode.replace.text = .ok ⟨.write, false⟩ := rfl
    simp only [mode, Disk.openAt, Disk.prepare, Disk.node?_of_content? file,
      encoding.ofName_name]
    refine ⟨_, _, rfl, (Disk.locate_putFile file [] p).trans located,
      ⟨named, [], Disk.content?_putFile d [] named, .inr rfl, ?_⟩, rfl, rfl⟩
    simp [OpenFile.pending, LineMode.kept]

/-! ## 2. Lines -/

/-- A line is added as a whole, or, if the encoding lacks a character of it, not at all. -/
theorem writeText_line {d : Disk} {f : OpenFile} {bytes : List UInt8} (holds : d.Holds f bytes)
    (writable : f.mode.isWritable = true) {encoding : PlainEncoding}
    (same : f.encoding = encoding.encoding) (line : String) :
    (∃ d' f' more, encoding.bytes? line = some more ∧
      d.writeText f (line ++ "\n") = ((d', f'), .ok ()) ∧ d'.Holds f' (bytes ++ (more ++ [10])) ∧
      (∀ p, d'.locate p = d.locate p) ∧ f'.place = f.place ∧ f'.mode = f.mode ∧
      f'.encoding = f.encoding) ∨
    (encoding.bytes? line = none ∧
      ∃ fault, d.writeText f (line ++ "\n") = ((d, f), .error (.encoding fault))) := by
  rw [Disk.writeText, writable, same]
  simp only [Bool.not_true, Bool.false_eq_true, if_false]
  rcases encoding.encode_plain f.state (line ++ "\n") with
    ⟨all, found, encoded⟩ | ⟨none, fault, encoded⟩
  · rw [encoding.bytes?_line, Option.map_eq_some_iff] at found
    obtain ⟨more, found, rfl⟩ := found
    simp only [encoded, encoding.mark_encoding, ite_self, List.nil_append]
    -- The mark is empty, so that it counts as written changes nothing in what the file holds.
    let marked : OpenFile := { f with encoding := encoding.encoding, unmarked := false }
    have kept : d.Holds marked bytes := ⟨holds.named, holds.stored⟩
    obtain ⟨place, mode, encoding⟩ :=
      OpenFile.eq_of_handle (Disk.handle_gather d marked (more ++ [10]))
    exact .inl ⟨_, _, more, found, rfl, kept.gather (more ++ [10]),
      kept.locate_gather (more ++ [10]), place, mode, encoding⟩
  · rw [encoding.bytes?_line, Option.map_eq_none_iff] at none
    simp only [encoded]
    exact .inr ⟨none, fault, by rw [← same]⟩

/-! ## 3. Calls -/

theorem warnAll_eq (s : Store) (ws : List Warning) :
    ∃ notices, s.warnAll ws = { s with notices } := by
  induction ws generalizing s with
  | nil => exact ⟨s.notices, rfl⟩
  | cons w ws ih => exact ih (s.warn w)

/-- Formatting makes the line and leaves everything but the way to format and the notices. -/
theorem format_eq (s : Store) (layout : Option LayoutId) (e : Entry) :
    ∃ layouts notices, s.format layout e =
      ({ s with layouts, notices }, (nextLine (s.lineFormat? layout) s.surroundings e).2) ∧
      ({ s with layouts, notices } : Store).lineFormat? layout =
        (nextLine (s.lineFormat? layout) s.surroundings e).1 := by
  unfold Store.format Store.lineFormat?
  cases layout with
  | none => exact ⟨s.layouts, s.notices, rfl, rfl⟩
  | some id =>
    cases found : s.layouts[id]? with
    | none => exact ⟨s.layouts, s.notices, by simp [found, nextLine], by simp [found, nextLine]⟩
    | some f =>
      obtain ⟨inside, -⟩ := List.getElem?_eq_some_iff.1 found
      obtain ⟨notices, warned⟩ := warnAll_eq
        { s with layouts := s.layouts.set id (f.format s.surroundings e).1 }
        (f.format s.surroundings e).2.warnings
      refine ⟨s.layouts.set id (f.format s.surroundings e).1, notices,
        by simp [found, nextLine, warned], ?_⟩
      simp only [Option.bind_some, List.getElem?_set_self inside, found, nextLine]

theorem IsOpen.setWriter {s : Store} {id : WriterId} {layout : Option LayoutId}
    {encoding : PlainEncoding} {p : FilePath} {file : OpenFile} {bytes : List UInt8}
    (isOpen : IsOpen s id layout encoding p file bytes) (w : Writer) :
    (s.setWriter id w).writers[id]? = some w := by
  obtain ⟨inside, -⟩ := List.getElem?_eq_some_iff.1 isOpen.writer
  simp [Store.setWriter, inside]

theorem perform_write {s : Store} {id : WriterId} {layout : Option LayoutId}
    {encoding : PlainEncoding} {p : FilePath} {file : OpenFile} {bytes : List UInt8}
    (isOpen : IsOpen s id layout encoding p file bytes) (e : Entry) :
    ∃ file' more,
      Adds encoding (nextLine (s.lineFormat? layout) s.surroundings e).2
        (s.perform id (.write e)).2 more ∧
      IsOpen (s.perform id (.write e)).1 id layout encoding p file' (bytes ++ more) ∧
      (s.perform id (.write e)).1.surroundings = s.surroundings ∧
      (s.perform id (.write e)).1.lineFormat? layout =
        (nextLine (s.lineFormat? layout) s.surroundings e).1 := by
  obtain ⟨layouts, notices, formatted, next⟩ := format_eq s layout e
  have written : s.write id e =
      let outcome := s.writeLine id ⟨.file (some file), layout⟩ e
      (outcome.1.note (.wrote id e outcome.2), outcome.2) := by
    rw [Store.write, isOpen.writer]
  rw [Store.perform, written, Store.writeLine]
  dsimp only
  rw [formatted]
  cases (nextLine (s.lineFormat? layout) s.surroundings e).2 with
  | error fault =>
    refine ⟨file, [], .failed fault, ?_, rfl, next⟩
    rw [List.append_nil]
    exact { isOpen with }
  | ok line =>
    rcases writeText_line isOpen.holds isOpen.writable isOpen.encoding line with
      ⟨disk, file', more, found, added, holds, located, place, mode, same⟩ | ⟨none, fault, refused⟩
    · simp only [added]
      refine ⟨file', more ++ [10], .line found, ?_, rfl, next⟩
      exact {
        writer := isOpen.setWriter _
        located := by rw [place]; exact (located p).trans isOpen.located
        holds
        writable := mode ▸ isOpen.writable
        encoding := same.trans isOpen.encoding }
    · simp only [refused]
      refine ⟨file, [], .lacking _ none, ?_, rfl, next⟩
      rw [List.append_nil]
      exact { isOpen with writer := isOpen.setWriter _ }

theorem perform_flush {s : Store} {id : WriterId} {layout : Option LayoutId}
    {encoding : PlainEncoding} {p : FilePath} {file : OpenFile} {bytes : List UInt8}
    (isOpen : IsOpen s id layout encoding p file bytes) :
    ∃ file', (s.perform id .flush).2 = none ∧
      IsOpen (s.perform id .flush).1 id layout encoding p file' bytes ∧
      (s.perform id .flush).1.disk.read p = .ok bytes ∧
      (s.perform id .flush).1.surroundings = s.surroundings ∧
      (s.perform id .flush).1.lineFormat? layout = s.lineFormat? layout := by
  obtain ⟨holds, content⟩ := isOpen.holds.flush
  obtain ⟨place, mode, same⟩ := OpenFile.eq_of_handle (Disk.handle_flush s.disk file)
  have located := (isOpen.holds.locate_flush p).trans isOpen.located
  rw [Store.perform, Store.flush, isOpen.writer]
  refine ⟨(s.disk.flush file).2, rfl, ?_, Disk.read_eq_ok_iff.2 ⟨_, located, content⟩, rfl, rfl⟩
  exact {
    writer := isOpen.setWriter _
    located := by rw [place]; exact located
    holds
    writable := mode ▸ isOpen.writable
    encoding := same.trans isOpen.encoding }

theorem perform_close {s : Store} {id : WriterId} {layout : Option LayoutId}
    {encoding : PlainEncoding} {p : FilePath} {file : OpenFile} {bytes : List UInt8}
    (isOpen : IsOpen s id layout encoding p file bytes) :
    (s.perform id .close).2 = none ∧
      (s.perform id .close).1.writers[id]? = some ⟨.file none, layout⟩ ∧
      (s.perform id .close).1.disk.read p = .ok bytes := by
  obtain ⟨-, content⟩ := isOpen.holds.flush
  have located := (isOpen.holds.locate_flush p).trans isOpen.located
  rw [Store.perform, Store.close, isOpen.writer]
  exact ⟨rfl, isOpen.setWriter _, Disk.read_eq_ok_iff.2 ⟨_, located, content⟩⟩

/-- A closed writer does nothing. -/
theorem perform_closed {s : Store} {id : WriterId} {layout : Option LayoutId}
    (closed : s.writers[id]? = some ⟨.file none, layout⟩) (call : WriterCall) :
    (s.perform id call).2 = none ∧ (s.perform id call).1.writers = s.writers ∧
      (s.perform id call).1.disk = s.disk := by
  cases call with
  | write e =>
    simp [Store.perform, Store.write, closed, Store.writeLine, Store.note]
  | flush => simp [Store.perform, Store.flush, closed, Store.note]
  | close => simp [Store.perform, Store.close, closed, Store.note]

theorem performAll_cons (s : Store) (id : WriterId) (call : WriterCall) (calls : List WriterCall) :
    s.performAll id (call :: calls) =
      (((s.perform id call).1.performAll id calls).1,
        (s.perform id call).2 :: ((s.perform id call).1.performAll id calls).2) := rfl

theorem performAll_closed {id : WriterId} {layout : Option LayoutId} (calls : List WriterCall) :
    ∀ {s : Store}, s.writers[id]? = some ⟨.file none, layout⟩ →
      (s.performAll id calls).2 = calls.map (fun _ => none) ∧
      (s.performAll id calls).1.writers = s.writers ∧ (s.performAll id calls).1.disk = s.disk := by
  induction calls with
  | nil => exact fun _ => ⟨rfl, rfl, rfl⟩
  | cons call calls ih =>
    intro s closed
    obtain ⟨outcome, writers, disk⟩ := perform_closed closed call
    obtain ⟨outcomes, laterWriters, laterDisk⟩ := ih (writers ▸ closed)
    rw [performAll_cons]
    exact ⟨by rw [outcome, outcomes, List.map_cons], laterWriters.trans writers,
      laterDisk.trans disk⟩

/-! ## 4. Runs -/

/-- A run on an open writer adds its lines to the file. They are on the disk after a flush or a
close, and from the first close on nothing changes. -/
theorem performAll_open {id : WriterId} {layout : Option LayoutId} {encoding : PlainEncoding}
    {p : FilePath} (calls : List WriterCall) :
    ∀ {s : Store} {file : OpenFile} {bytes : List UInt8},
      IsOpen s id layout encoding p file bytes →
      ∃ more, AreAdded encoding s.surroundings (s.lineFormat? layout) calls
          (s.performAll id calls).2 more ∧
        (calls.getLast? = some .flush ∨ calls.getLast? = some .close →
          (s.performAll id calls).1.disk.read p = .ok (bytes ++ more)) := by
  -- A writer stays open, on a file with the bytes added so far, until the first close. What it holds
  -- back reaches the disk with a flush or a close only, so only the last call tells what is there.
  induction calls with
  | nil => exact fun _ => ⟨[], .nil, by simp⟩
  | cons call calls ih =>
    intro s file bytes isOpen
    rw [performAll_cons]
    cases call with
    | write e =>
      obtain ⟨file', added, adds, stillOpen, same, next⟩ := perform_write isOpen e
      obtain ⟨more, run, content⟩ := ih stillOpen
      rw [same, next] at run
      refine ⟨added ++ more, .write adds run, fun last => ?_⟩
      rw [← List.append_assoc]
      cases calls with
      | nil => simp at last
      | cons call' calls => exact content (by simpa using last)
    | flush =>
      obtain ⟨file', outcome, stillOpen, now, same, next⟩ := perform_flush isOpen
      obtain ⟨more, run, content⟩ := ih stillOpen
      rw [same, next] at run
      rw [outcome]
      refine ⟨more, .flush run, fun last => ?_⟩
      cases calls with
      | nil =>
        cases run
        rw [List.append_nil]
        exact now
      | cons call' calls => exact content (by simpa using last)
    | close =>
      obtain ⟨outcome, closed, now⟩ := perform_close isOpen
      obtain ⟨outcomes, -, disk⟩ := performAll_closed calls closed
      rw [outcome, outcomes]
      refine ⟨[], .close, fun _ => ?_⟩
      rw [List.append_nil, disk]
      exact now

theorem IsFileWriter.perform {s : Store} {id : WriterId} {layout : Option LayoutId}
    {encoding : PlainEncoding} {p : FilePath} (writer : IsFileWriter s id layout encoding p)
    (call : WriterCall) : IsFileWriter (s.perform id call).1 id layout encoding p := by
  rcases writer with ⟨file, bytes, isOpen⟩ | closed
  · cases call with
    | write e =>
      obtain ⟨file', more, -, stillOpen, -⟩ := perform_write isOpen e
      exact .inl ⟨file', _, stillOpen⟩
    | flush =>
      obtain ⟨file', -, stillOpen, -⟩ := perform_flush isOpen
      exact .inl ⟨file', _, stillOpen⟩
    | close => exact .inr (perform_close isOpen).2.1
  · exact .inr ((perform_closed closed call).2.1 ▸ closed)

theorem IsFileWriter.close {s : Store} {id : WriterId} {layout : Option LayoutId}
    {encoding : PlainEncoding} {p : FilePath} (writer : IsFileWriter s id layout encoding p) :
    (s.perform id .close).1.writers[id]? = some ⟨.file none, layout⟩ := by
  rcases writer with ⟨file, bytes, isOpen⟩ | closed
  · exact (perform_close isOpen).2.1
  · exact (perform_closed closed .close).2.1 ▸ closed

/-- What follows a close changes neither the disk nor a writer. -/
theorem performAll_after_close {id : WriterId} {layout : Option LayoutId}
    {encoding : PlainEncoding} {p : FilePath} (before after : List WriterCall) :
    ∀ {s : Store}, IsFileWriter s id layout encoding p →
      (s.performAll id (before ++ .close :: after)).1.disk =
        (s.performAll id (before ++ [.close])).1.disk ∧
      (s.performAll id (before ++ .close :: after)).1.writers =
        (s.performAll id (before ++ [.close])).1.writers := by
  induction before with
  | nil =>
    intro s writer
    obtain ⟨-, writers, disk⟩ := performAll_closed after writer.close
    exact ⟨disk, writers⟩
  | cons call before ih => exact fun writer => ih (writer.perform call)

/-! ## 5. The file -/

/-- Whatever a file holds and whatever makes the lines, a writer that is opened on it to append or
to replace adds a line for each entry that is written before the first close and whose line can be
made and encoded, in the order of the calls, and nothing for any other. That is what the file holds,
after what was kept, whenever the last call was a flush or a close. A call ends in a fault only if
no line is added, and after a close none does and nothing changes. -/
theorem file_holds_lines {s : Store} {p : FilePath} {content : List UInt8}
    (found : s.disk.read p = .ok content) (m : LineMode) (encoding : PlainEncoding)
    (layout : Option LayoutId) :
    ∃ opened id, s.openFile p m.text encoding.name layout = (opened, .ok id) ∧
      ∀ calls, ∃ bytes,
        AreAdded encoding s.surroundings (s.lineFormat? layout) calls
          (opened.performAll id calls).2 bytes ∧
        (calls.getLast? = some .flush ∨ calls.getLast? = some .close →
          (opened.performAll id calls).1.disk.read p = .ok (m.kept content ++ bytes)) ∧
        ∀ before after, calls = before ++ .close :: after →
          (opened.performAll id calls).1.disk =
            (opened.performAll id (before ++ [.close])).1.disk ∧
          (opened.performAll id calls).1.writers =
            (opened.performAll id (before ++ [.close])).1.writers := by
  obtain ⟨disk, file, opening, located, holds, writable, same⟩ :=
    openFile_found found m encoding
  let opened : Store :=
    { s with disk, writers := s.writers ++ [⟨.file (some file), layout⟩] }
  have isOpen : IsOpen opened s.writers.length layout encoding p file (m.kept content) := {
    writer := by simp [opened]
    located
    holds
    writable
    encoding := same }
  refine ⟨opened, s.writers.length, by rw [Store.openFile, opening]; rfl, fun calls => ?_⟩
  obtain ⟨bytes, run, last⟩ := performAll_open calls isOpen
  refine ⟨bytes, run, last, ?_⟩
  rintro before after rfl
  exact performAll_after_close before after (.inl ⟨file, _, isOpen⟩)

/-- The path of a log file. -/
def exPath : FilePath := ⟨.here, ["app.log".toList]⟩

/-- A store with a log file of one line and a formatter that fails on empty messages. -/
def exStore : Store where
  surroundings := default
  disk := ⟨[(⟨false, ["app.log".toList]⟩, .file [0x6f, 10])]⟩
  layouts := [.custom [] fun _ e =>
    if e.message.isEmpty then .error (.raised "ValueError" "empty") else .ok e.message]

/-- Lines that are made, refused by the formatter or lacking in ASCII, and calls after a close. -/
def exCalls : List WriterCall :=
  let entry := fun message => { (default : Entry) with message }
  [.write (entry "a"), .write (entry ""), .write (entry "\u00e9"), .write (entry "b"), .close,
   .write (entry "c"), .flush]

theorem file_holds_lines_exStore :
    exStore.disk.read exPath = .ok [0x6f, 10] ∧
      ∃ opened id, exStore.openFile exPath "a" "ascii" (some 0) = (opened, .ok id) ∧
        ∃ bytes, AreAdded .ascii exStore.surroundings (exStore.lineFormat? (some 0)) exCalls
            (opened.performAll id exCalls).2 bytes ∧
          (opened.performAll id exCalls).1.disk.read exPath = .ok ([0x6f, 10] ++ bytes) := by
  have found : exStore.disk.read exPath = .ok [0x6f, 10] := rfl
  obtain ⟨opened, id, opening, runs⟩ := file_holds_lines found .append .ascii (some 0)
  obtain ⟨bytes, run, last, -⟩ := runs exCalls
  exact ⟨found, opened, id, opening, bytes, run, last (.inl rfl)⟩

/-- The lines that are made and encoded are in the file, each with its newline. -/
example : ((exStore.openFile exPath "a" "ascii" (some 0)).1.performAll 0 exCalls).1.disk.content?
    ⟨false, ["app.log".toList]⟩ = some [0x6f, 10, 0x61, 10, 0x62, 10] := by
  decide +kernel

end LogLayout.Delivery
