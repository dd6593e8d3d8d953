/-!
# Tables of entries

A table is a list of keys with their entries, and the first entry of a key counts. Main statement:
`lookup_filter`, the entries of other keys do not matter.
-/

namespace LogLayout

theorem lookup_filter {α β : Type} [BEq α] [LawfulBEq α] {p : α → Bool} {key : α}
    (kept : p key = true) (entries : List (α × β)) :
    (entries.filter (p ·.1)).lookup key = entries.lookup key := by
  induction entries with
  | nil => rfl
  | cons entry entries ih =>
    obtain ⟨first, value⟩ := entry
    by_cases same : key = first
    · subst same
      rw [List.filter_cons, if_pos kept, List.lookup_cons_self, List.lookup_cons_self]
    · have other : (key == first) = false := by simpa using same
      rw [List.filter_cons]
      split
      · rw [List.lookup_cons, List.lookup_cons, other, ih]
      · rw [List.lookup_cons, other, ih]

end LogLayout
