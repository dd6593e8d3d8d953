import LogLayout.Entry
import LogLayout.Proofs.Timestamp.IsoText

/-!
# Entries restored from objects

An entry that was written as an object is read back from it. The level comes back by its name and
the timestamp by its text; the other fields are handed over as they are. The exception is lost,
since the object only has the lines of its report.

Results:
1. `timestampOf_iso`, `levelNamed_name`: the two fields that are written as texts.
2. `restores_all_but_throwable`: the whole entry.
-/

namespace LogLayout

/-! ## Definitions -/

/-- The offset is a whole number of seconds. -/
def Timestamp.Offset.IsWhole (o : Timestamp.Offset) : Prop :=
  ∃ seconds : Int, o.microseconds = seconds * 1000000

namespace Entry

/-! ## 1. Fields written as texts -/

theorem isReadable_of_isWhole {o : Timestamp.Offset} (whole : o.IsWhole) : o.IsReadable := by
  obtain ⟨seconds, same⟩ := whole
  rw [Timestamp.Offset.IsReadable, same]
  omega

theorem timestampOf_iso {t : Timestamp} (readable : ∀ o ∈ t.offset, o.IsReadable) :
    timestampOf (.str t.iso) = .ok t := by
  simp only [timestampOf, Timestamp.ofIso_iso readable]

theorem levelNamed_name (l : Level) : levelNamed (.str l.name) = .ok l := by
  simp only [levelNamed, Level.ofName?_name]

/-! ## 2. The whole entry -/

/-- The object of an entry with its exception left out. -/
theorem toObject_without_throwable (e : Entry) :
    ({ e with throwable := none } : Entry).toObject =
      Value.putField e.toObject "throwable" .null := by
  simp [toObject, Value.putField]

/-- Reading the object of an entry gives the entry without its exception, whatever else it holds. So
the object of what was read is the same, but for the report. -/
theorem restores_all_but_throwable {e : Entry} (whole : ∀ o ∈ e.timestamp.offset, o.IsWhole) :
    ∃ restored, ofObject e.toObject = .ok restored ∧
      restored = { e with throwable := none } ∧
      restored.toObject = Value.putField e.toObject "throwable" .null := by
  refine ⟨{ e with throwable := none }, ?_, rfl, toObject_without_throwable e⟩
  have readable : ∀ o ∈ e.timestamp.offset, o.IsReadable :=
    fun o member => isReadable_of_isWhole (whole o member)
  simp [ofObject, toObject, required, List.lookup_cons, levelNamed_name, timestampOf_iso readable,
    bind, Except.bind, pure, Except.pure, Value.text]

/-- An entry from far away whose offset has seconds and whose fields hold what they like. -/
def exRemote : Entry where
  level := .critical
  message := "disk\nfull"
  timestamp := ⟨⟨987, 2, 28, by decide⟩, ⟨23, 59, 7, 0, by decide⟩, some ⟨-12615000000, by decide⟩⟩
  threadId := .null
  lineNumber := .str "seven"
  throwable := some { name := "OSError" }
  extra := .object [("level", .str "INFO")]

theorem restores_exRemote :
    (∀ o ∈ exRemote.timestamp.offset, o.IsWhole) ∧
      exRemote.timestamp.iso = "0987-02-28T23:59:07-03:30:15" ∧
      ∃ restored, ofObject exRemote.toObject = .ok restored ∧
        restored = { exRemote with throwable := none } ∧
        restored.toObject = Value.putField exRemote.toObject "throwable" .null := by
  have whole : ∀ o ∈ exRemote.timestamp.offset, o.IsWhole := by
    rintro o ⟨rfl⟩
    exact ⟨-12615, rfl⟩
  exact ⟨whole, by decide +kernel, restores_all_but_throwable whole⟩

end Entry

end LogLayout
