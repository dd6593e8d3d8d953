import LogLayout.Pattern.Compile

/-!
# Layouts

A layout is a chain in use. For each converter it remembers whether a failure to get its field was
reported, since that is done once only. Main statement: `format_result`, the line of an entry does
not depend on what was formatted before.
-/

namespace LogLayout.Pattern

/-- A converter and whether a failure of it was reported. -/
structure Slot where
  converter : Converter
  reported : Bool := false

/-- A chain in use. -/
structure Layout where
  slots : List Slot
  pattern : String := ""

namespace Layout

/-- The layout of a chain that was not used yet. -/
def ofChain (c : Chain) : Layout := ⟨c.converters.map fun converter => { converter }, c.pattern⟩

/-- The chain of a layout. -/
def chain (l : Layout) : Chain := ⟨l.slots.map (·.converter), l.pattern⟩

end Layout

/-- The warning that rendering the slot brings, if it fails for the first time. -/
def Slot.warning? (slot : Slot) (s : Surroundings) (e : Entry) : Option Warning :=
  match slot.converter with
  | .literal _ => none
  | .field f => if slot.reported then none else (f.failure? s e).map f.warning

/-- The slot after rendering. -/
def Slot.after (slot : Slot) (s : Surroundings) (e : Entry) : Slot :=
  { slot with reported := slot.reported || (slot.warning? s e).isSome }

/-- Renders slots in order: the slots afterwards, the warnings and the joined text. Those after a
slot that cannot be fitted are not rendered. -/
def renderSlots (s : Surroundings) (e : Entry) : List Slot → List Slot × Warned String
  | [] => ([], .ok "")
  | slot :: slots =>
    let warnings := (slot.warning? s e).toList
    match slot.converter.render s e with
    | .error fault => (slot.after s e :: slots, ⟨warnings, .error fault⟩)
    | .ok text =>
      let (slots, rest) := renderSlots s e slots
      (slot.after s e :: slots, ⟨warnings ++ rest.warnings, rest.result.map (text ++ ·)⟩)

namespace Layout

/-- Formats an entry: the layout afterwards, the warnings and the line. -/
def format (l : Layout) (s : Surroundings) (e : Entry) : Layout × Warned String :=
  let (slots, line) := renderSlots s e l.slots
  ({ l with slots }, line)

/-- The line that slots give is the one that their converters give. -/
theorem renderSlots_result (s : Surroundings) (e : Entry) (slots : List Slot) :
    (renderSlots s e slots).2.result =
      ((slots.mapM fun slot : Slot => slot.converter.render s e).map Text.concat) := by
  induction slots with
  | nil => rfl
  | cons slot slots ih =>
    rw [List.mapM_cons, renderSlots]
    cases slot.converter.render s e with
    | error fault => rfl
    | ok text =>
      simp only [ih]
      cases slots.mapM fun slot : Slot => slot.converter.render s e with
      | error fault => rfl
      | ok texts => simp [bind, Except.bind, pure, Except.pure, Except.map]

theorem format_result (l : Layout) (s : Surroundings) (e : Entry) :
    (l.format s e).2.result = l.chain.render s e := by
  simp only [format, renderSlots_result, Chain.render, chain, List.mapM_map]
  rfl

end Layout

/-! ## Formatters -/

/-- A layout made for a writer, with the pattern it was made for. -/
structure Formatter where
  /-- The text of the pattern. -/
  pattern : String
  /-- The formatter written out. -/
  text : String
  layout : Layout

/-- The pattern of a formatter that is given none. -/
def defaultPattern : String := "%m"

/-- The formatter for a value given as a pattern. -/
def Formatter.ofValue (table : WordTable) (given : Value) : Warned Formatter :=
  let given := match given with
    | .null => .str defaultPattern
    | v => v
  (compile table given).map fun chain =>
    ⟨given.text, "PatternFormatter(pattern='" ++ given.text ++ "')", .ofChain chain⟩

/-- The pattern of the simple formatter: the level and the message. -/
def simplePattern : String := "%p - %m"

/-- The formatter that writes the level and the message. -/
def Formatter.simple : Warned Formatter :=
  (compile defaultWords (.str simplePattern)).map fun chain =>
    ⟨simplePattern, "SimpleFormatter()", .ofChain chain⟩

end LogLayout.Pattern
