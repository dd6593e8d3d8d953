import LogLayout.Delivery.Store

/-!
# Writers

A writer makes a line of an entry and puts it on a terminal, into a file or to a component of the
caller. Each operation may end in a fault, which is given back and stops nothing by itself.
-/

namespace LogLayout.Delivery

namespace Writer

/-- The name of the writer's class. -/
def name (w : Writer) : String :=
  match w.sink with
  | .console .. => "ConsoleWriter"
  | .file _ => "FileWriter"
  | .custom c => c.name

/-- Whether the writer can be flushed. -/
def canFlush (w : Writer) : Bool :=
  match w.sink with
  | .custom c => c.flushFault.isSome
  | _ => true

/-- Whether the writer can be closed. -/
def canClose (w : Writer) : Bool :=
  match w.sink with
  | .console .. => false
  | .file _ => true
  | .custom c => c.closeFault.isSome

/-- Whether the writer is closed; nothing for a writer that cannot tell. -/
def closed? (w : Writer) : Option Bool :=
  match w.sink with
  | .file handle => some handle.isNone
  | _ => none

end Writer

/-- The line in the colour of the level. -/
def colorLine (l : Level) (line : String) : String := l.color ++ line ++ Level.resetColor

namespace Store

/-- Opens a file for a writer. Missing directories are made. -/
def openFile (s : Store) (p : FilePath) (mode encoding : String) (layout : Option LayoutId) :
    Store × Except Fault WriterId :=
  match s.disk.openFile p mode encoding with
  | (disk, .error fault) => ({ s with disk }, .error (.opening fault))
  | (disk, .ok file) =>
    let (s, id) := { s with disk }.addWriter ⟨.file (some file), layout⟩
    (s, .ok id)

/-- Puts the line of an entry where the writer puts its lines: the store, and what was written. -/
def writeLine (s : Store) (id : WriterId) (w : Writer) (e : Entry) : Store × Except Fault String :=
  match w.sink with
  | .file none => (s, .ok "")
  | .file (some file) =>
    match s.format w.layout e with
    | (s, .error fault) => (s, .error fault)
    | (s, .ok line) =>
      let ((disk, file), outcome) := s.disk.writeText file (line ++ "\n")
      ({ s with disk }.setWriter id { w with sink := .file (some file) },
        (outcome.map fun _ => line).mapError .writing)
  | .console colored stream =>
    match s.format w.layout e with
    | (s, .error fault) => (s, .error fault)
    | (s, .ok line) =>
      let line := if colored then colorLine e.level line else line
      match stream with
      | none => (s.print (line ++ "\n"), .ok line)
      | some text =>
        (s.setWriter id { w with sink := .console colored (some (text ++ line ++ "\n")) }, .ok line)
  | .custom c =>
    match c.writeFault s.calls e with
    | some fault => (s, .error fault)
    | none => s.format w.layout e

/-- Writes an entry to a writer, which may fail. -/
def write (s : Store) (id : WriterId) (e : Entry) : Store × Except Fault String :=
  match s.writers[id]? with
  | none => (s, .ok "")
  | some w =>
    let (s, outcome) := s.writeLine id w e
    (s.note (.wrote id e outcome), outcome)

/-- Flushes a writer that can be flushed. -/
def flush (s : Store) (id : WriterId) : Store × Option Fault :=
  match s.writers[id]? with
  | none => (s, none)
  | some w =>
    match w.sink with
    | .console .. | .file none => (s.note (.flushed id none), none)
    | .file (some file) =>
      let (disk, file) := s.disk.flush file
      ({ s with disk }.setWriter id { w with sink := .file (some file) } |>.note (.flushed id none),
        none)
    | .custom c =>
      match c.flushFault with
      | none => (s, none)
      | some fault? => (s.note (.flushed id (fault? s.calls)), fault? s.calls)

/-- Closes a writer that can be closed. A file is flushed first. -/
def close (s : Store) (id : WriterId) : Store × Option Fault :=
  match s.writers[id]? with
  | none => (s, none)
  | some w =>
    match w.sink with
    | .console .. => (s, none)
    | .file none => (s.note (.closed id none), none)
    | .file (some file) =>
      let (disk, _) := s.disk.flush file
      ({ s with disk }.setWriter id { w with sink := .file none } |>.note (.closed id none), none)
    | .custom c =>
      match c.closeFault with
      | none => (s, none)
      | some fault? => (s.note (.closed id (fault? s.calls)), fault? s.calls)

end Store

end LogLayout.Delivery
