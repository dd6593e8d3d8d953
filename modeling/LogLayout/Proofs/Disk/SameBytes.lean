import LogLayout.Proofs.Disk.Gaining

/-!
# Disks with the same bytes

Writing to an open file looks at nothing of the disk but the bytes in the file, and a missing file
counts as an empty one. So two disks on which all files have the same bytes stay so when the same is
written to both. Opening a file to write at its end may make it and the directories above it, and
that changes no bytes either.

Results:
1. `SameBytes.writeText`, `SameBytes.flush`: the same is written to both disks, with the same
   outcome.
2. `sameBytes_openFile`: a file is opened to write at its end.
-/

namespace LogLayout.Disk

/-! ## Definitions -/

/-- The bytes of the file at a place; none if there is no file. -/
def bytes (d : Disk) (place : Place) : List UInt8 := (d.content? place).getD []

/-- All files have the same bytes on both disks. -/
def SameBytes (d d' : Disk) : Prop := ∀ place, d'.bytes place = d.bytes place

/-- Both disks have the same bytes after the same operation on an open file, and so has the file. -/
def IsAlike (x y : Disk × OpenFile) : Prop := x.1.SameBytes y.1 ∧ y.2 = x.2

/-! ## 1. Writing -/

theorem SameBytes.refl (d : Disk) : d.SameBytes d := fun _ => rfl

theorem SameBytes.trans {d d' d'' : Disk} (first : d.SameBytes d') (second : d'.SameBytes d'') :
    d.SameBytes d'' := fun place => (second place).trans (first place)

/-- No file can be put at a root. -/
theorem bytes_putFile (d : Disk) (place q : Place) (content : List UInt8) :
    (d.putFile place content).bytes q =
      if q = place ∧ place.names ≠ [] then content else d.bytes q := by
  by_cases root : place.names = []
  · -- `put` would add an entry here, which `node?` never looks up.
    have noFile : ∀ d' : Disk, d'.content? place = none := by simp [content?, node?, root]
    rw [if_neg (by simp [root])]
    by_cases here : q = place
    · simp only [here, bytes, noFile]
    · have apart : (q == place) = false := by simpa using here
      have others := lookup_filter (p := (· ≠ place)) (decide_eq_true here) d.nodes
      simp only [bytes, content?, node?, putFile, put, List.lookup_cons, apart, others]
  · by_cases here : q = place
    · rw [if_pos ⟨here, root⟩, here, bytes, content?_putFile d content root, Option.getD_some]
    · rw [if_neg (by simp [here]), bytes, content?_putFile_of_ne d content root here, bytes]

section
variable {d d' : Disk} (same : d.SameBytes d')
include same

theorem SameBytes.store (f : OpenFile) (bytes : List UInt8) :
    IsAlike (d.store f bytes) (d'.store f bytes) := by
  have content : (d'.content? f.place).getD [] = (d.content? f.place).getD [] := same f.place
  unfold Disk.store
  split
  · exact ⟨same, rfl⟩
  · dsimp only
    rw [content]
    refine ⟨fun place => ?_, rfl⟩
    rw [bytes_putFile, bytes_putFile, same place]

theorem SameBytes.pass (f : OpenFile) : IsAlike (d.pass f) (d'.pass f) := by
  unfold Disk.pass
  dsimp only
  split
  · exact ⟨same, rfl⟩
  · split <;> exact same.store _ _

theorem SameBytes.flush (f : OpenFile) : IsAlike (d.flush f) (d'.flush f) := same.store _ _

theorem SameBytes.passIf (f : OpenFile) (full : Prop) [Decidable full] :
    IsAlike (if full then d.pass f else (d, f)) (if full then d'.pass f else (d', f)) := by
  split
  · exact same.pass f
  · exact ⟨same, rfl⟩

theorem SameBytes.gather (f : OpenFile) (bytes : List UInt8) :
    IsAlike (d.gather f bytes) (d'.gather f bytes) := by
  unfold Disk.gather
  dsimp only
  obtain ⟨before, file⟩ := same.passIf f
    ((f.gathered ≠ [] && OpenFile.gatherLimit < f.gathered.length + bytes.length) = true)
  rw [file]
  exact before.passIf _ _

theorem SameBytes.writeText (f : OpenFile) (text : String) :
    IsAlike (d.writeText f text).1 (d'.writeText f text).1 ∧
      (d'.writeText f text).2 = (d.writeText f text).2 := by
  unfold Disk.writeText
  split
  · exact ⟨⟨same, rfl⟩, rfl⟩
  · split
    · exact ⟨⟨same, rfl⟩, rfl⟩
    · exact ⟨same.gather _ _, rfl⟩

end

/-! ## 2. Opening -/

/-- Directories and empty files that a disk gains bring no bytes. -/
theorem Gains.sameBytes {new : Place → Node → Prop} {d d' : Disk} (gains : d.Gains new d')
    (empty : ∀ place node, new place node → node = .directory ∨ node = .file []) :
    d.SameBytes d' := by
  intro place
  rw [bytes, bytes, content?, content?]
  rcases gains place with same | ⟨missing, node, added, isNew⟩
  · rw [same]
  · rw [missing, added]
    rcases empty place node isNew with rfl | rfl <;> rfl

theorem sameBytes_openAt (d : Disk) (place : Place) {m : Mode} (append : m.access = .append)
    (encoding : String) : d.SameBytes (d.openAt place m encoding).1 := by
  unfold openAt
  split
  · exact .refl d
  · next d' ready =>
    have kept := (gains_prepare append ready).2.sameBytes fun _ _ new => .inr new.2
    split <;> exact kept

/-- Opening a file to write at its end leaves the bytes of all files, also if it fails. -/
theorem sameBytes_openFile (d : Disk) (p : FilePath) {mode : String}
    (append : ∀ m, Mode.ofText mode = .ok m → m.access = .append) (encoding : String) :
    d.SameBytes (d.openFile p mode encoding).1 := by
  have above := (gains_makeDirectories d p.parent).sameBytes fun _ _ new => .inl new.1
  unfold openFile
  split
  · next made =>
    rw [made] at above
    exact above
  · next made =>
    rw [made] at above
    split
    · exact above
    · split
      · exact above
      · exact above
      · exact above
      · next m place read _ => exact above.trans (sameBytes_openAt _ place (append m read) encoding)

end LogLayout.Disk
