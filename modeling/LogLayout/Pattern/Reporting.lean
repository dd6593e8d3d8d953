import LogLayout.Pattern.Layout

/-!
# Compiling and formatting with a channel

A warning is reported the moment that it comes up, in the middle of the operation: it goes to the
handler of the operation, else to the installed one, else it is printed. What a handler does with a
warning may depend on all that was reported before. The operations are those of compiling and
formatting, step by step, with each warning passed on at its place.
-/

namespace LogLayout

/-- Something that receives warnings over a run. -/
structure Receiver where
  name : String
  /-- Why it fails on a text after these notices, if it does. -/
  failure : List Notice → String → Option String

/-- The receiver as it is for a text after these notices. -/
def Receiver.handler (r : Receiver) (past : List Notice) (text : String) : Handler :=
  ⟨r.name, r.failure past text⟩

/-- Where warnings go. -/
structure Channel where
  /-- What is installed for all operations. -/
  installed : Option Receiver := none
  /-- What is given to this operation. -/
  chosen : Option Receiver := none

/-- An operation that reports on its way to a result or a fault. -/
abbrev Reporting (α : Type) := ExceptT Fault (StateM (List Notice)) α

namespace Channel

/-- What becomes of a text after these notices. -/
def pass (c : Channel) (past : List Notice) (text : String) : Notice :=
  report (c.installed.map (·.handler past text)) (c.chosen.map (·.handler past text)) text

/-- Reports a text. -/
def tell (c : Channel) (text : String) : StateM (List Notice) Unit :=
  modify fun past => past ++ [c.pass past text]

/-- Reports a warning in an operation. -/
def warn (c : Channel) (w : Warning) : Reporting Unit := ExceptT.lift (c.tell w.message)

end Channel

namespace Pattern.Reporting

/-! ## Compiling -/

/-- The width rules of a directive; malformed ones are reported. -/
def compileModifiers (c : Channel) (modifiers : List Char) : Reporting Width := do
  if modifiers.isEmpty then return {}
  match widthNumerals? modifiers with
  | none =>
    c.warn (.modifiers (.ofList modifiers))
    return {}
  | some (least, most) =>
    let least ← widthNumber least
    let most ← widthNumber most
    return .ofNumbers least most

/-- The resolver that `make` gives for the option, and the option that is in use. A refused option
is reported before a resolver without an option is made. -/
def makeResolver (c : Channel) (make : Option String → Except BuildFault Resolver) (word : String)
    (option : Option String) : Reporting (Resolver × Option String) := do
  match make option with
  | .ok r => return (r, option)
  | .error (.failed fault) => throw fault
  | .error (.refused reason) =>
    c.warn (.refusedOption option word reason)
    match make none with
    | .ok r => return (r, none)
    | .error (.failed fault) => throw fault
    | .error (.refused reason) => throw (.option reason)

/-- The converter of a directive whose width rules are known; none if its word is unknown or
renders nothing. -/
def compileWord (c : Channel) (table : WordTable) (d : Directive) (width : Width) :
    Reporting (Option FieldConverter) := do
  let word := String.ofList d.word
  match table.lookup word with
  | none =>
    c.warn (.unknownWord word)
    return none
  | some target =>
    match target.maker with
    | .error given =>
      c.warn (.noResolver word given)
      return none
    | .ok make =>
      let (resolver, option) ← makeResolver c make word (usedOption d)
      return some ⟨word, target, resolver, width, option⟩

/-- The converter of a token. -/
def compileToken (c : Channel) (table : WordTable) : Token → Reporting (Option Converter)
  | .literal text => return some (.literal (.ofList text))
  | .directive d => do
    let width ← compileModifiers c d.modifiers
    let converter ← compileWord c table d width
    return converter.map .field

/-- The converters of tokens, in order. -/
def compileTokens (c : Channel) (table : WordTable) : List Token → Reporting (List Converter)
  | [] => return []
  | token :: tokens => do
    let converter ← compileToken c table token
    let converters ← compileTokens c table tokens
    return converter.toList ++ converters

/-- The chain of a pattern. -/
def compileText (c : Channel) (table : WordTable) (pattern : String) : Reporting Chain := do
  if pattern.isEmpty then return ⟨[.literal ""], ""⟩
  let converters ← compileTokens c table (scan pattern.toList)
  return ⟨converters, pattern⟩

/-- The chain of a value given as a pattern. -/
def compile (c : Channel) (table : WordTable) : Value → Reporting Chain
  | .null => compileText c table ""
  | .str s => compileText c table s
  | v => throw (.pattern v)

/-! ## Formatting

There is no handler of its own for formatting: its warnings go where the installed one says. -/

/-- Renders slots in order: the slots afterwards and the joined text. -/
def renderSlots (installed : Option Receiver) (s : Surroundings) (e : Entry) :
    List Slot → StateM (List Notice) (List Slot × Except Fault String)
  | [] => return ([], .ok "")
  | slot :: slots => do
    if let some w := slot.warning? s e then
      Channel.tell { installed } w.message
    match slot.converter.render s e with
    | .error fault => return (slot.after s e :: slots, .error fault)
    | .ok text =>
      let (slots, rest) ← renderSlots installed s e slots
      return (slot.after s e :: slots, rest.map (text ++ ·))

/-- Formats an entry: the layout afterwards and the line. -/
def format (installed : Option Receiver) (l : Layout) (s : Surroundings) (e : Entry) :
    StateM (List Notice) (Layout × Except Fault String) := do
  let (slots, line) ← renderSlots installed s e l.slots
  return ({ l with slots }, line)

/-- Formats entries one after another: their lines. -/
def formatAll (installed : Option Receiver) (s : Surroundings) :
    Layout → List Entry → StateM (List Notice) (List (Except Fault String))
  | _, [] => return []
  | l, e :: entries => do
    let (l, line) ← format installed l s e
    let lines ← formatAll installed s l entries
    return line :: lines

/-- A whole run: compiles the pattern and formats the entries with its chain, if there is one. -/
def run (c : Channel) (table : WordTable) (given : Value) (s : Surroundings)
    (entries : List Entry) :
    StateM (List Notice) (Except Fault Chain × List (Except Fault String)) := do
  match ← (compile c table given).run with
  | .error fault => return (.error fault, [])
  | .ok chain => return (.ok chain, ← formatAll c.installed s (.ofChain chain) entries)

end Pattern.Reporting

end LogLayout
