/-!
# File paths

A path is kept in a normal form: repeated slashes, components `.` and a trailing slash do not
count, while `..` is kept since what it leads to depends on the disk. Main statement:
`ofText_text`, the text of a path in normal form reads back as that path.
-/

namespace LogLayout

/-- Where a path starts. Exactly two leading slashes are a root of their own. -/
inductive FilePath.Root
  | here
  | slash
  | doubleSlash
  deriving Repr, DecidableEq, Inhabited

/-- A path in normal form. -/
structure FilePath where
  root : FilePath.Root := .here
  parts : List (List Char) := []
  deriving Repr, DecidableEq, Inhabited

namespace FilePath

/-- The text of the root. -/
def Root.chars : Root → List Char
  | .here => []
  | .slash => ['/']
  | .doubleSlash => ['/', '/']

/-- The root of a text, told by its leading slashes. -/
def rootOf : List Char → Root
  | '/' :: '/' :: '/' :: _ => .slash
  | '/' :: '/' :: _ => .doubleSlash
  | '/' :: _ => .slash
  | _ => .here

/-- Whether the component counts. -/
def isKept (part : List Char) : Bool := !part.isEmpty && part ≠ ['.']

/-- The path that a text writes. -/
def ofText (s : String) : FilePath :=
  ⟨rootOf s.toList, (s.toList.splitOn '/').filter isKept⟩

/-- The text of a path; one without any component is written as a point. -/
def text (p : FilePath) : String :=
  if p.root = .here && p.parts.isEmpty then "."
  else .ofList (p.root.chars ++ ['/'].intercalate p.parts)

/-! ## Normal form -/

/-- Every component counts and is a single one. -/
def IsNormal (p : FilePath) : Prop := ∀ part ∈ p.parts, isKept part = true ∧ '/' ∉ part

theorem intercalate_parts_head? {p : FilePath} (h : p.IsNormal) :
    (['/'].intercalate p.parts).head? ≠ some '/' := by
  unfold IsNormal at h
  cases parts : p.parts with
  | nil => simp
  | cons part rest =>
    obtain ⟨kept, single⟩ := h part (by simp [parts])
    cases part with
    | nil => simp [isKept] at kept
    | cons c cs =>
      simp only [List.mem_cons, not_or] at single
      cases rest <;> simpa [List.intercalate_cons_cons, eq_comm (a := c)] using single.1

theorem rootOf_append {cs : List Char} (r : Root) (h : cs.head? ≠ some '/') :
    rootOf (r.chars ++ cs) = r := by
  cases cs with
  | nil => cases r <;> rfl
  | cons c cs =>
    simp only [List.head?_cons, ne_eq, Option.some.injEq] at h
    cases r <;> simp [Root.chars, rootOf, h]

theorem splitOn_root_append (r : Root) (cs : List Char) :
    ((r.chars ++ cs).splitOn '/').filter isKept = (cs.splitOn '/').filter isKept := by
  cases r <;> simp [Root.chars, List.splitOn_cons_eq_if_modifyHead, isKept]

theorem ofText_text {p : FilePath} (h : p.IsNormal) : ofText p.text = p := by
  unfold text
  split
  · next here =>
    obtain ⟨root, parts⟩ := p
    simp only [Bool.and_eq_true, decide_eq_true_eq, List.isEmpty_iff] at here
    obtain ⟨rfl, rfl⟩ := here
    decide
  · have kept : p.parts.filter isKept = p.parts :=
      List.filter_eq_self.2 fun part member => (h part member).1
    have parts : ((['/'].intercalate p.parts).splitOn '/').filter isKept = p.parts := by
      by_cases none : p.parts = []
      · rw [none]; rfl
      · rw [List.splitOn_intercalate '/' (fun part member => (h part member).2) none, kept]
    simp only [ofText, String.toList_ofList, rootOf_append _ (intercalate_parts_head? h),
      splitOn_root_append, parts]

/-- Whether a NUL stands in the path. -/
def hasNul (p : FilePath) : Bool := p.parts.any (·.contains '\x00')

/-- The path without its last component. -/
def parent (p : FilePath) : FilePath := { p with parts := p.parts.dropLast }

end FilePath

end LogLayout
