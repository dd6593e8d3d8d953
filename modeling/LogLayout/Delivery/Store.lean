import LogLayout.Config
import LogLayout.Disk.OpenFile
import LogLayout.Pattern.Layout

/-!
# What loggers share

Configurations, layouts, writers and files may be used by several loggers, so they are kept in one
store and loggers refer to them by number. The store also keeps what callers can see of the past:
the notices for them and the calls of their components.
-/

namespace LogLayout.Delivery

open Pattern (Layout Surroundings)

/-- The number of a configuration in the store. -/
abbrev ConfigId := Nat

/-- The number of a way to format in the store. -/
abbrev LayoutId := Nat

/-- The number of a writer in the store. -/
abbrev WriterId := Nat

/-- A call of a filter or a writer, and how it ended. -/
inductive Call
  | asked (filter : Nat) (verdict : Except Fault Bool)
  | wrote (writer : WriterId) (entry : Entry) (outcome : Except Fault String)
  | flushed (writer : WriterId) (fault : Option Fault)
  | closed (writer : WriterId) (fault : Option Fault)

/-- A writer of the caller's own. What its operations come to may depend on the calls before. -/
structure CustomWriter where
  /-- The name of its class. -/
  name : String
  /-- The fault that writing an entry ends in. -/
  writeFault : List Call → Entry → Option Fault := fun _ _ => none
  /-- The fault that flushing ends in; nothing if the writer is not flushed. -/
  flushFault : Option (List Call → Option Fault) := some fun _ => none
  /-- The fault that closing ends in; nothing if the writer is not closed. -/
  closeFault : Option (List Call → Option Fault) := some fun _ => none

/-- Where a writer puts its lines. -/
inductive Sink
  /-- A terminal: the text of a stream of its own, or else the stream that warnings are printed
  to. -/
  | console (colored : Bool) (stream : Option String)
  /-- A file, unless it was closed. -/
  | file (handle : Option OpenFile)
  | custom (c : CustomWriter)

/-- How entries become lines. -/
inductive LineFormat
  | layout (l : Layout)
  /-- A component of the caller's own. What it makes of an entry may depend on those before. -/
  | custom (past : List Entry) (line : List Entry → Entry → Except Fault String)

/-- Formats an entry: the format afterwards, the warnings and the line. -/
def LineFormat.format (f : LineFormat) (s : Surroundings) (e : Entry) :
    LineFormat × Warned String :=
  match f with
  | layout l =>
    let (l, line) := l.format s e
    (layout l, line)
  | custom past line => (custom (past ++ [e]) line, ⟨[], line past e⟩)

/-- What entries are written to. -/
structure Writer where
  sink : Sink
  /-- How entries become lines; without a layout by their own text. -/
  layout : Option LayoutId := none

/-- What loggers share. -/
structure Store where
  surroundings : Surroundings
  /-- The handler of warnings, if one is installed. -/
  installed : Option Handler := none
  /-- What was reported or printed, the oldest first. -/
  notices : List Notice := []
  /-- The calls of filters and writers, the oldest first. -/
  calls : List Call := []
  disk : Disk := {}
  configs : List Config := []
  layouts : List LineFormat := []
  writers : List Writer := []
  /-- How many workers were started. -/
  workers : Nat := 0

namespace Store

/-! ## Parts -/

/-- The configuration of a number. -/
def config (s : Store) (id : ConfigId) : Config := s.configs.getD id {}

/-- Changes a configuration, for all who use it. -/
def changeConfig (s : Store) (id : ConfigId) (change : Config → Config) : Store :=
  { s with configs := s.configs.modify id change }

/-- Keeps a configuration. -/
def addConfig (s : Store) (c : Config) : Store × ConfigId :=
  ({ s with configs := s.configs ++ [c] }, s.configs.length)

/-- Keeps a way to format. -/
def addLayout (s : Store) (f : LineFormat) : Store × LayoutId :=
  ({ s with layouts := s.layouts ++ [f] }, s.layouts.length)

/-- Keeps a writer. -/
def addWriter (s : Store) (w : Writer) : Store × WriterId :=
  ({ s with writers := s.writers ++ [w] }, s.writers.length)

/-- Puts a writer in place of another. -/
def setWriter (s : Store) (id : WriterId) (w : Writer) : Store :=
  { s with writers := s.writers.set id w }

/-! ## Past -/

/-- Reports a text to the installed handler, or prints it. -/
def reportText (s : Store) (text : String) : Store :=
  { s with notices := s.notices ++ [report s.installed none text] }

/-- Reports a warning. -/
def warn (s : Store) (w : Warning) : Store := s.reportText w.message

/-- Reports warnings in order. -/
def warnAll (s : Store) (ws : List Warning) : Store := ws.foldl warn s

/-- Prints a text where warnings are printed. -/
def print (s : Store) (text : String) : Store :=
  { s with notices := s.notices ++ [.printed text] }

/-- Notes a call. -/
def note (s : Store) (c : Call) : Store := { s with calls := s.calls ++ [c] }

/-! ## Formatting -/

/-- The line of an entry by a layout; the layout remembers the failures that were reported. -/
def format (s : Store) (layout : Option LayoutId) (e : Entry) : Store × Except Fault String :=
  match layout with
  | none => (s, .ok e.text)
  | some id =>
    match s.layouts[id]? with
    | none => (s, .ok e.text)
    | some f =>
      let (f, line) := f.format s.surroundings e
      ({ s with layouts := s.layouts.set id f }.warnAll line.warnings, line.result)

/-- Makes a layout for a value given as a pattern. -/
def compile (s : Store) (table : Pattern.WordTable) (given : Value) :
    Store × Except Fault LayoutId :=
  let compiled := Pattern.Formatter.ofValue table given
  let s := s.warnAll compiled.warnings
  match compiled.result with
  | .error fault => (s, .error fault)
  | .ok formatter =>
    let (s, id) := s.addLayout (.layout formatter.layout)
    (s, .ok id)

end Store

end LogLayout.Delivery
