/-!
# Lines of a text

A text is split at every newline, so it has one line more than newlines. Main statements:
`intercalate_lines`, joining the lines gives the text back, and `lines_intercalate`, lines that hold
no newline are found again.
-/

namespace LogLayout.Text

/-- No part holds the separator. -/
theorem not_mem_of_mem_splitOn {sep : Char} {cs part : List Char} (h : part ∈ cs.splitOn sep) :
    sep ∉ part := by
  induction cs generalizing part with
  | nil => simp_all
  | cons c cs ih =>
    rw [List.splitOn_cons_eq_if_modifyHead] at h
    split at h
    · rcases List.mem_cons.1 h with rfl | h
      · simp
      · exact ih h
    · next other =>
      cases found : cs.splitOn sep with
      | nil => exact absurd found (List.splitOn_ne_nil _ _)
      | cons first rest =>
        simp only [found, List.modifyHead_cons, List.mem_cons] at h ih
        rcases h with rfl | h
        · have unlike : c ≠ sep := by simpa using other
          simpa [eq_comm (a := sep), unlike] using ih (.inl rfl)
        · exact ih (.inr h)

/-- The lines of a text, without their newlines. -/
def lines (s : String) : List String := (s.toList.splitOn '\n').map String.ofList

theorem lines_ne_nil (s : String) : lines s ≠ [] := by
  simp [lines, List.splitOn_ne_nil]

theorem intercalate_lines (s : String) : "\n".intercalate (lines s) = s := by
  rw [← String.toList_inj, String.toList_intercalate]
  simp [lines, Function.comp_def]

theorem lines_intercalate {ls : List String} (nonempty : ls ≠ [])
    (single : ∀ line ∈ ls, '\n' ∉ line.toList) : lines ("\n".intercalate ls) = ls := by
  have parts : (['\n'].intercalate (ls.map String.toList)).splitOn '\n' = ls.map String.toList :=
    List.splitOn_intercalate '\n' (by simpa using single) (by simpa using nonempty)
  rw [lines, String.toList_intercalate]
  simpa [Function.comp_def] using congrArg (List.map String.ofList) parts

/-- Texts one after the other. -/
def concat (texts : List String) : String := texts.foldr (· ++ ·) ""

@[simp] theorem concat_nil : concat [] = "" := rfl

@[simp] theorem concat_cons (s : String) (texts : List String) :
    concat (s :: texts) = s ++ concat texts := rfl

/-- The text without the newlines at its end. -/
def dropTrailingNewlines (s : String) : String :=
  .ofList (s.toList.reverse.dropWhile (· == '\n')).reverse

end LogLayout.Text
