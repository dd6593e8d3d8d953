import LogLayout.Pattern.Converter
import LogLayout.Pattern.Modifiers
import LogLayout.Pattern.Token
import LogLayout.Warned

/-!
# Compiling a pattern

Each token becomes a converter. A directive with an unknown word is left out, malformed modifiers
and refused options do not count; each of these is a warning. Compiling stops only at a numeral
that is too long, at a resolver that is not made even without an option, and at a pattern that is
no text. Main statement: `compileTokens_append`.
-/

namespace LogLayout.Pattern

/-- The width rules of a directive; malformed ones are a warning. -/
def compileModifiers (modifiers : List Char) : Warned Width :=
  match Width.ofModifiers modifiers with
  | .ok (w, warnings) => ⟨warnings, .ok w⟩
  | .error fault => .fail fault

/-- The resolver that `make` gives for the option, and the option that is in use. If the option is
refused, that is a warning, and a resolver without an option is made. -/
def makeResolver (make : Option String → Except BuildFault Resolver) (word : String)
    (option : Option String) : Warned (Resolver × Option String) :=
  match make option with
  | .ok r => .ok (r, option)
  | .error (.failed fault) => .fail fault
  | .error (.refused reason) =>
    let warning := Warning.refusedOption option word reason
    match make none with
    | .ok r => ⟨[warning], .ok (r, none)⟩
    | .error (.failed fault) => ⟨[warning], .error fault⟩
    | .error (.refused reason) => ⟨[warning], .error (.option reason)⟩

/-- The option of a directive as a resolver gets it: blank text is none. -/
def usedOption (d : Directive) : Option String :=
  (d.option.filter (!·.isEmpty)).map String.ofList

/-- What makes the resolvers for a target, or the value that renders nothing. -/
def Target.maker : Target → Except Value (Option String → Except BuildFault Resolver)
  | field f => .ok f.resolver
  | custom c => .ok c.resolver
  | other v => .error v

/-- The converter of a directive whose width rules are known; none if its word is unknown or
renders nothing. -/
def compileWord (table : WordTable) (d : Directive) (width : Width) :
    Warned (Option FieldConverter) :=
  let word := String.ofList d.word
  match table.lookup word with
  | none => ⟨[.unknownWord word], .ok none⟩
  | some target =>
    match target.maker with
    | .error given => ⟨[.noResolver word given], .ok none⟩
    | .ok make =>
      (makeResolver make word (usedOption d)).map fun (resolver, option) =>
        some ⟨word, target, resolver, width, option⟩

/-- The converter of a token. -/
def compileToken (table : WordTable) : Token → Warned (Option Converter)
  | .literal text => .ok (some (.literal (.ofList text)))
  | .directive d =>
    (compileModifiers d.modifiers).andThen fun width =>
      (compileWord table d width).map (·.map .field)

/-- The converters of tokens, in order. -/
def compileTokens (table : WordTable) : List Token → Warned (List Converter)
  | [] => .ok []
  | token :: tokens =>
    (compileToken table token).andThen fun converter =>
      (compileTokens table tokens).map (converter.toList ++ ·)

theorem compileTokens_append (table : WordTable) (xs ys : List Token) :
    compileTokens table (xs ++ ys) =
      (compileTokens table xs).andThen fun cs => (compileTokens table ys).map (cs ++ ·) := by
  induction xs with
  | nil =>
    simp only [List.nil_append, compileTokens, Warned.ok, Warned.andThen, Warned.map]
    cases h : compileTokens table ys with
    | mk warnings result => cases result <;> simp [Except.map]
  | cons token xs ih =>
    simp only [List.cons_append, compileTokens, ih, Warned.andThen_assoc, Warned.map_andThen,
      Warned.andThen_map, Warned.map_map]
    congr 1
    funext converter
    congr 1
    funext cs
    simp [Function.comp_def, List.append_assoc]

/-- The chain of a pattern. The empty pattern has one empty literal. -/
def compileText (table : WordTable) (pattern : String) : Warned Chain :=
  if pattern.isEmpty then .ok ⟨[.literal ""], ""⟩
  else (compileTokens table (scan pattern.toList)).map fun converters => ⟨converters, pattern⟩

/-- The chain of a value given as a pattern: nothing counts as the empty pattern, and anything else
than text is refused. -/
def compile (table : WordTable) : Value → Warned Chain
  | .null => compileText table ""
  | .str s => compileText table s
  | v => .fail (.pattern v)

/-- The tokens of a value given as a pattern. -/
def scanValue : Value → Except Fault (List Token)
  | .str s => .ok (scan s.toList)
  | v => .error (.pattern v)

end LogLayout.Pattern
