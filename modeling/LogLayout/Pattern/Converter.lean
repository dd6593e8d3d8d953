import LogLayout.Pattern.Resolver
import LogLayout.Pattern.Width
import LogLayout.Warning

/-!
# Converters and chains

A compiled pattern is a chain of converters. A literal converter copies its text; a field converter
renders one field and fits it. A field that cannot be got is rendered as empty text.
Main statement: `render_field`, rendering is resolving, writing out and fitting.
-/

namespace LogLayout.Pattern

/-- A directive as compiled. -/
structure FieldConverter where
  word : String
  target : Target
  resolver : Resolver
  width : Width
  /-- The option that is in use. -/
  option : Option String

/-- A part of a chain. -/
inductive Converter
  | literal (text : String)
  | field (f : FieldConverter)

/-- The text of a value that a resolver yields: the members of a list are lines. -/
def yieldedText : Value → String
  | .list vs | .tuple vs => "\n".intercalate (vs.map Value.text)
  | v => v.text

namespace FieldConverter

/-- Why the field of the entry cannot be got, if it cannot. -/
def failure? (f : FieldConverter) (s : Surroundings) (e : Entry) : Option Fault :=
  match f.resolver.resolve s e with
  | .ok _ => none
  | .error fault => some fault

/-- The text of the field before it is fitted; empty if it cannot be got. -/
def rawText (f : FieldConverter) (s : Surroundings) (e : Entry) : String :=
  match f.resolver.resolve s e with
  | .ok v => yieldedText v
  | .error _ => ""

/-- The warning for a field that cannot be got. -/
def warning (f : FieldConverter) (fault : Fault) : Warning := .rendering f.word fault.message

/-- The converter written with all its parts. -/
def text (f : FieldConverter) : String :=
  let option := match f.option with
    | none => "None"
    | some s => Text.quoted s
  "FieldConverter(word=" ++ Text.quoted f.word ++ ", kind=" ++ f.target.quote ++ ", resolver="
    ++ f.resolver.text ++ ", formatting=" ++ f.width.text ++ ", option=" ++ option ++ ")"

end FieldConverter

namespace Converter

/-- What the converter contributes to the line of an entry. -/
def render (c : Converter) (s : Surroundings) (e : Entry) : Except Fault String :=
  match c with
  | literal text => .ok text
  | field f => f.width.apply (f.rawText s e)

theorem render_field (f : FieldConverter) (s : Surroundings) (e : Entry) :
    (field f).render s e = f.width.apply (f.rawText s e) := rfl

/-- The converter written with all its parts. -/
def text : Converter → String
  | literal text => "LiteralConverter(text=" ++ Text.quoted text ++ ")"
  | field f => f.text

end Converter

/-- The converters of a pattern in order. -/
structure Chain where
  converters : List Converter
  pattern : String := ""

namespace Chain

/-- What may be put into a chain by hand. -/
inductive Item
  | converter (c : Converter)
  /-- Something that is no converter. -/
  | other (v : Value)

/-- The converter that an item is. -/
def Item.converter? : Item → Except Fault Converter
  | converter c => .ok c
  | other v => .error (.notAConverter v)

/-- A chain put together by hand. -/
def ofItems (items : List Item) (pattern : String) : Except Fault Chain := do
  return ⟨← items.mapM Item.converter?, pattern⟩

/-- Any change of a chain is refused. -/
def change (_ : Chain) : Except Fault Chain := .error .frozenChain

/-- The number of converters. -/
def length (c : Chain) : Nat := c.converters.length

/-- The first converter. -/
def head? (c : Chain) : Option Converter := c.converters.head?

/-- The converter at a position; negative positions count from the end. -/
def at? (c : Chain) (i : Int) : Except Fault Converter :=
  let place := if i < 0 then i + c.length else i
  if i < -Width.beyondTexts || Width.beyondTexts ≤ i then .error .noPosition
  else match if place < 0 then none else c.converters[place.toNat]? with
    | some converter => .ok converter
    | none => .error .noConverterAt

/-- The texts of the converters for an entry, joined, or the first fault. -/
def render (c : Chain) (s : Surroundings) (e : Entry) : Except Fault String := do
  return Text.concat (← c.converters.mapM (·.render s e))

/-- The chain written with its pattern and its length. -/
def text (c : Chain) : String :=
  "ConverterChain(pattern=" ++ Text.quoted c.pattern ++ ", converters=" ++ toString c.length ++ ")"

/-- Whether the converters at two positions are taken as equal: literals by their text, directives
only with themselves. -/
def same (c : Chain) (i j : Nat) : Bool :=
  match c.converters[i]?, c.converters[j]? with
  | some (.literal a), some (.literal b) => a = b
  | some (.field _), some (.field _) => i = j
  | _, _ => false

end Chain

end LogLayout.Pattern
