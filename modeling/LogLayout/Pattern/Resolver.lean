import LogLayout.Pattern.Field

/-!
# Resolvers and word tables

A resolver gets the text of a field out of an entry. It is made for the option of a directive, and
its class may refuse the option. A word table says for each word which class makes the resolver:
that of a field or one of the caller's own.
-/

namespace LogLayout.Pattern

/-- What gets the text of a field out of an entry. -/
structure Resolver where
  /-- The name of its class. -/
  name : String
  option : Option String
  resolve : Surroundings → Entry → Except Fault Value

/-- The resolver written as its class with its option. -/
def Resolver.text (r : Resolver) : String :=
  let option := match r.option with
    | none => "None"
    | some s => Text.quoted s
  r.name ++ "(option=" ++ option ++ ")"

/-- Why no resolver is made. -/
inductive BuildFault
  /-- The option is at fault. -/
  | refused (reason : String)
  /-- Something else went wrong. -/
  | failed (fault : Fault)
  deriving Repr

/-- A class of resolvers of the caller's own. -/
structure ResolverClass where
  name : String
  make : Option String → Except BuildFault (Surroundings → Entry → Except Fault Value)

/-- What a word table has under a word. -/
inductive Target
  | field (f : Field)
  | custom (c : ResolverClass)
  /-- Something that renders nothing. -/
  | other (v : Value)

namespace Target

/-- The name of the class that makes the resolvers, if there is one. -/
def resolverName? : Target → Option String
  | field f => some f.resolverName
  | custom c => some c.name
  | other _ => none

/-- The target written so that its kind can be seen. -/
def quote : Target → String
  | field f => "<FieldKind." ++ f.name ++ ": '" ++ f.key ++ "'>"
  | custom c => "<class '" ++ c.name ++ "'>"
  | other v => v.quote

end Target

/-- The resolver of a field for an option. -/
def Field.resolver (f : Field) (option : Option String) : Except BuildFault Resolver :=
  match f with
  | .logger =>
    match segmentDepth option with
    | .ok depth => .ok ⟨f.resolverName, option, f.read option depth⟩
    | .error reason => .error (.refused reason)
  | _ => .ok ⟨f.resolverName, option, f.read option 0⟩

/-- The resolver of a class for an option. -/
def ResolverClass.resolver (c : ResolverClass) (option : Option String) :
    Except BuildFault Resolver :=
  (c.make option).map fun resolve => ⟨c.name, option, resolve⟩

/-- Words with what stands under them; the first entry of a word counts. -/
abbrev WordTable := List (String × Target)

/-- The table of the words that stand for fields. -/
def defaultWords : WordTable := Field.words.map fun entry => (entry.1, .field entry.2)

end LogLayout.Pattern
