import LogLayout.Throwable

/-!
# Kept reports

The lines of a logged exception are made when they are asked for the first time, and kept. Whoever
asks for them gets a list of their own, which they may change. Main statements: `Sheets.get_add` and
`Sheets.get_add_of_lt`, a further list leaves the others as they are, and `Sheets.get_change_of_ne`,
so does a change.
-/

namespace LogLayout

/-- The number of a list of lines. -/
abbrev SheetId := Nat

/-- The lists of lines that were made, in order. Whoever has the number of one can change it. -/
structure Sheets where
  all : List (List String) := []
  deriving Repr, DecidableEq, Inhabited

namespace Sheets

/-- The lines of a list. -/
def get (s : Sheets) (id : SheetId) : List String := s.all.getD id []

/-- One more list, with its number. -/
def add (s : Sheets) (lines : List String) : Sheets × SheetId := (⟨s.all ++ [lines]⟩, s.all.length)

/-- Other lines for a list. -/
def change (s : Sheets) (id : SheetId) (lines : List String) : Sheets := ⟨s.all.set id lines⟩

@[simp] theorem length_add (s : Sheets) (lines : List String) :
    (s.add lines).1.all.length = s.all.length + 1 := by
  simp [add]

@[simp] theorem length_change (s : Sheets) (id : SheetId) (lines : List String) :
    (s.change id lines).all.length = s.all.length := by
  simp [change]

@[simp] theorem get_add (s : Sheets) (lines : List String) :
    (s.add lines).1.get (s.add lines).2 = lines := by
  simp [add, get]

theorem get_add_of_lt {s : Sheets} {id : SheetId} (made : id < s.all.length)
    (lines : List String) : (s.add lines).1.get id = s.get id := by
  simp [add, get, List.getElem?_append_left made]

theorem get_change_of_ne {s : Sheets} {id other : SheetId} (different : other ≠ id)
    (lines : List String) : (s.change other lines).get id = s.get id := by
  simp [change, get, List.getElem?_set_ne different]

end Sheets

/-- An exception as an entry has it. -/
structure KeptReport where
  throwable : Throwable
  /-- The list of its lines, once it is made. -/
  kept : Option SheetId := none
  deriving Repr, Inhabited

namespace KeptReport

/-- Makes the list of lines if there is none. -/
def keep (r : KeptReport) (s : Sheets) : KeptReport × Sheets × SheetId :=
  match r.kept with
  | some id => (r, s, id)
  | none =>
    let (s, id) := s.add r.throwable.lines
    ({ r with kept := some id }, s, id)

/-- Makes a list with the same lines as the kept one, for whoever asks. -/
def read (r : KeptReport) (s : Sheets) : KeptReport × Sheets × SheetId :=
  let (r, s, id) := r.keep s
  let (s, copy) := s.add (s.get id)
  (r, s, copy)

end KeptReport

end LogLayout
