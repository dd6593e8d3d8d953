import LogLayout.Disk.Basic
import LogLayout.Text.Encoding

/-!
# Open files

A file is opened for one kind of access and with an encoding. What is written to it is held back:
texts are gathered, what was gathered is passed on to a block, and the block goes to the disk when
it would overflow. Flushing empties both, and the bytes go to the end of the file or to the place
that was reached before. Main statements: `Holds.gather` and `Holds.pass`, the content followed by
what is held back grows by what is gathered and by nothing else, and `Holds.flush`, flushing moves
all of it to the disk.
-/

namespace LogLayout

/-- What a file is opened for. -/
inductive Access
  /-- The file must be there and is not changed. -/
  | read
  /-- The file starts empty. -/
  | write
  /-- The file must not be there. -/
  | create
  /-- All is written at the end. -/
  | append
  deriving Repr, DecidableEq, Inhabited

/-- Why a text is no way to open a text file. -/
inductive ModeFault
  | unknown (text : String)
  | textAndBinary
  | severalAccesses
  | binary
  | noAccess
  deriving Repr, DecidableEq

/-- The wording of a fault. -/
def ModeFault.message : ModeFault → String
  | .unknown text => "invalid mode: '" ++ text ++ "'"
  | .textAndBinary => "can't have text and binary mode at once"
  | .severalAccesses => "must have exactly one of create/read/write/append mode"
  | .binary => "binary mode doesn't take an encoding argument"
  | .noAccess => "Must have exactly one of create/read/write/append mode and at most one plus"

/-- How a file is opened. -/
structure Mode where
  access : Access
  /-- Whether reading and writing are both allowed. -/
  updating : Bool := false
  deriving Repr, DecidableEq, Inhabited

namespace Mode

/-- The letters of the kinds of access. -/
def letters : List (Char × Access) :=
  [('x', .create), ('r', .read), ('w', .write), ('a', .append)]

/-- The mode that a text of letters writes: one of `letters`, and possibly `+` and `t`. Each letter
stands at most once. -/
def ofText (s : String) : Except ModeFault Mode :=
  let cs := s.toList
  let accesses := letters.filter fun entry => cs.contains entry.1
  if !(cs.all ("xrwa+tb".toList.contains ·) && cs.eraseDups.length = cs.length) then
    .error (.unknown s)
  else if cs.contains 't' && cs.contains 'b' then .error .textAndBinary
  else if cs.contains 'b' && accesses.length ≤ 1 then .error .binary
  else
    match accesses with
    | [] => .error .noAccess
    | [(_, access)] => .ok ⟨access, cs.contains '+'⟩
    | _ => .error .severalAccesses

/-- Whether a file so opened can be written. -/
def isWritable (m : Mode) : Bool := m.access ≠ .read || m.updating

end Mode

/-- A file in use. -/
structure OpenFile where
  place : Place
  mode : Mode
  encoding : Text.Encoding
  /-- Where the next bytes go, unless they go to the end. -/
  position : Nat := 0
  /-- Whether the mark that the encoding puts in front is still to come. -/
  unmarked : Bool := true
  /-- What the encoding keeps of the texts so far. -/
  state : Text.Encoding.State := {}
  /-- The bytes in the block. -/
  block : List UInt8 := []
  /-- The bytes of the texts that were gathered since. -/
  gathered : List UInt8 := []
  deriving Repr, DecidableEq, Inhabited

namespace OpenFile

/-- The bytes held back. -/
def pending (f : OpenFile) : List UInt8 := f.block ++ f.gathered

/-- How many bytes of texts are gathered. -/
def gatherLimit : Nat := 8192

/-- How many bytes the block holds. -/
def blockSize : Nat := 4096

end OpenFile

/-- Why a file is not opened. -/
inductive OpenFault
  | path (fault : PathFault)
  | mode (fault : ModeFault)
  | encoding (fault : Text.Encoding.NameFault)
  /-- A NUL stands in the text of the mode or in the name of the encoding. -/
  | nul
  deriving Repr, DecidableEq

/-- Why a text is not written to an open file. -/
inductive WriteFault
  | notWritable
  | encoding (fault : Text.Encoding.Fault)
  deriving Repr, DecidableEq

namespace Disk

/-- Makes the place ready for a file opened there. -/
def prepare (d : Disk) (place : Place) (m : Mode) : Except PathFault Disk :=
  match d.node? place, m.access with
  | none, .read => .error .notFound
  | none, _ => .ok (d.putFile place [])
  | some _, .create => .error .exists
  | some .directory, _ => .error .isDirectory
  | some (.file _), .write => .ok (d.putFile place [])
  | some (.file _), _ => .ok d

/-- Opens the file at a place. It is made or emptied before the encoding is looked up. -/
def openAt (d : Disk) (place : Place) (m : Mode) (encoding : String) :
    Disk × Except OpenFault OpenFile :=
  match d.prepare place m with
  | .error fault => (d, .error (.path fault))
  | .ok d =>
    match Text.Encoding.ofName encoding with
    | .error fault => (d, .error (.encoding fault))
    | .ok encoding =>
      let size := ((d.content? place).getD []).length
      let position := if m.access = .append then size else 0
      let state := if position = 0 then {} else Text.Encoding.State.resumed
      (d, .ok { place, mode := m, encoding, position, unmarked := position = 0, state })

/-- Opens a file. Missing directories are made first, then the mode is read and the path is
followed. That the mode tells no access is noticed only after a NUL in the path. -/
def openFile (d : Disk) (p : FilePath) (mode encoding : String) :
    Disk × Except OpenFault OpenFile :=
  match d.makeDirectories p.parent with
  | (d, .error fault) => (d, .error (.path fault))
  | (d, .ok ()) =>
    if mode.toList.contains '\x00' || encoding.toList.contains '\x00' then (d, .error .nul)
    else
      match Mode.ofText mode, d.locate p with
      | .error .noAccess, .error .nul => (d, .error (.path .nul))
      | .error fault, _ => (d, .error (.mode fault))
      | .ok _, .error fault => (d, .error (.path fault))
      | .ok m, .ok place => d.openAt place m encoding

/-- The content with `bytes` written over it from `position` on; a gap is filled with zeros. -/
def overwrite (content : List UInt8) (position : Nat) (bytes : List UInt8) : List UInt8 :=
  content.take position ++ List.replicate (position - content.length) 0 ++ bytes
    ++ content.drop (position + bytes.length)

/-- Writes bytes to the file. -/
def store (d : Disk) (f : OpenFile) (bytes : List UInt8) : Disk × OpenFile :=
  if bytes.isEmpty then (d, f)
  else
    let content := (d.content? f.place).getD []
    let start := if f.mode.access = .append then content.length else f.position
    (d.putFile f.place (overwrite content start bytes),
     { f with position := start + bytes.length })

/-- Passes on what was gathered. Bytes that the block has no room for go to the disk after those
in the block, unless they alone fill a block. -/
def pass (d : Disk) (f : OpenFile) : Disk × OpenFile :=
  let limit := OpenFile.blockSize
  if f.pending.length ≤ limit && f.gathered.length < limit then
    (d, { f with block := f.pending, gathered := [] })
  else if f.gathered.length ≤ limit then
    d.store { f with block := f.gathered, gathered := [] } f.block
  else d.store { f with block := [], gathered := [] } f.pending

/-- Writes the bytes held back to the file. -/
def flush (d : Disk) (f : OpenFile) : Disk × OpenFile :=
  d.store { f with block := [], gathered := [] } f.pending

/-- Adds bytes to those gathered, which are passed on before if there would be too many of them, and
after that as soon as there are enough. -/
def gather (d : Disk) (f : OpenFile) (bytes : List UInt8) : Disk × OpenFile :=
  let (d, f) :=
    if f.gathered ≠ [] && OpenFile.gatherLimit < f.gathered.length + bytes.length then d.pass f
    else (d, f)
  let f := { f with gathered := f.gathered ++ bytes }
  if OpenFile.gatherLimit ≤ f.gathered.length then d.pass f else (d, f)

/-- Writes a text to an open file. -/
def writeText (d : Disk) (f : OpenFile) (text : String) :
    (Disk × OpenFile) × Except WriteFault Unit :=
  if !f.mode.isWritable then ((d, f), .error .notWritable)
  else
    match f.encoding.encode f.state text.toList with
    | (.error fault, state) => ((d, { f with state }), .error (.encoding fault))
    | (.ok bytes, state) =>
      let mark := if f.unmarked then f.encoding.mark else []
      (d.gather { f with unmarked := false, state } (mark ++ bytes), .ok ())

/-! ## Laws -/

end Disk

/-- Whether what is written goes to the end of this content. -/
def OpenFile.IsAtEnd (f : OpenFile) (content : List UInt8) : Prop :=
  f.mode.access = .append ∨ f.position = content.length

/-- The file apart from the bytes that went through it. -/
def OpenFile.handle (f : OpenFile) : OpenFile :=
  { f with position := 0, block := [], gathered := [] }

theorem OpenFile.eq_of_handle {f f' : OpenFile} (same : f.handle = f'.handle) :
    f.place = f'.place ∧ f.mode = f'.mode ∧ f.encoding = f'.encoding := by
  simp only [handle, OpenFile.mk.injEq] at same
  exact ⟨same.1, same.2.1, same.2.2.1⟩

namespace Disk

/-- The file has these bytes: what lies on the disk and then what is held back. -/
structure Holds (d : Disk) (f : OpenFile) (bytes : List UInt8) : Prop where
  named : f.place.names ≠ []
  stored : ∃ content, d.content? f.place = some content ∧ f.IsAtEnd content ∧
    content ++ f.pending = bytes

theorem overwrite_length (content bytes : List UInt8) :
    overwrite content content.length bytes = content ++ bytes := by
  simp [overwrite]

theorem handle_store (d : Disk) (f : OpenFile) (bytes : List UInt8) :
    (d.store f bytes).2.handle = f.handle := by
  unfold store
  split <;> rfl

theorem pending_store (d : Disk) (f : OpenFile) (bytes : List UInt8) :
    (d.store f bytes).2.pending = f.pending := by
  unfold store
  split <;> rfl

/-- Bytes that are stored come after the content, and so do those that are stored after them. -/
theorem content?_store (d : Disk) {f : OpenFile} {content : List UInt8} (bytes : List UInt8)
    (named : f.place.names ≠ []) (found : d.content? f.place = some content)
    (atEnd : f.IsAtEnd content) :
    (d.store f bytes).1.content? f.place = some (content ++ bytes) ∧
      (d.store f bytes).2.IsAtEnd (content ++ bytes) := by
  have start : (if f.mode.access = .append then content.length else f.position) =
      content.length := by
    rcases atEnd with append | position
    · rw [if_pos append]
    · rw [position, ite_self]
  rw [store]
  split
  · next none =>
    rw [List.isEmpty_iff.1 none, List.append_nil]
    exact ⟨found, atEnd⟩
  · simp only [found, Option.getD_some, start, overwrite_length]
    refine ⟨content?_putFile d _ named, .inr ?_⟩
    simp

theorem holds_store {d : Disk} {f : OpenFile} {content : List UInt8} (bytes : List UInt8)
    (named : f.place.names ≠ []) (found : d.content? f.place = some content)
    (atEnd : f.IsAtEnd content) :
    (d.store f bytes).1.Holds (d.store f bytes).2 (content ++ (bytes ++ f.pending)) := by
  have place := (OpenFile.eq_of_handle (handle_store d f bytes)).1
  obtain ⟨stored, after⟩ := content?_store d bytes named found atEnd
  refine ⟨by rwa [place], content ++ bytes, by rwa [place], after, ?_⟩
  rw [pending_store, List.append_assoc]

theorem handle_pass (d : Disk) (f : OpenFile) : (d.pass f).2.handle = f.handle := by
  unfold pass
  dsimp only
  split
  · rfl
  · split <;> exact handle_store ..

/-- Passing on moves bytes from those held back to the disk. -/
theorem Holds.pass {d : Disk} {f : OpenFile} {bytes : List UInt8} (holds : d.Holds f bytes) :
    (d.pass f).1.Holds (d.pass f).2 bytes := by
  obtain ⟨content, found, atEnd, rfl⟩ := holds.stored
  unfold Disk.pass
  dsimp only
  split
  · exact ⟨holds.named, content, found, atEnd, by simp [OpenFile.pending]⟩
  · split
    · have moved := holds_store (f := { f with block := f.gathered, gathered := [] }) f.block
        holds.named found atEnd
      simpa [OpenFile.pending] using moved
    · have moved := holds_store (f := { f with block := [], gathered := [] }) f.pending
        holds.named found atEnd
      simpa [OpenFile.pending] using moved

theorem handle_flush (d : Disk) (f : OpenFile) : (d.flush f).2.handle = f.handle :=
  handle_store ..

/-- Flushing moves all bytes to the disk. -/
theorem Holds.flush {d : Disk} {f : OpenFile} {bytes : List UInt8} (holds : d.Holds f bytes) :
    (d.flush f).1.Holds (d.flush f).2 bytes ∧ (d.flush f).1.content? f.place = some bytes := by
  obtain ⟨content, found, atEnd, rfl⟩ := holds.stored
  have moved := holds_store (f := { f with block := [], gathered := [] }) f.pending
    holds.named found atEnd
  refine ⟨by simpa [Disk.flush, OpenFile.pending] using moved, ?_⟩
  exact (content?_store d (f := { f with block := [], gathered := [] }) f.pending holds.named
    found atEnd).1

theorem handle_passIf (d : Disk) (f : OpenFile) (full : Prop) [Decidable full] :
    (if full then d.pass f else (d, f)).2.handle = f.handle := by
  split
  · exact handle_pass d f
  · rfl

theorem Holds.passIf {d : Disk} {f : OpenFile} {bytes : List UInt8} (holds : d.Holds f bytes)
    (full : Prop) [Decidable full] :
    (if full then d.pass f else (d, f)).1.Holds (if full then d.pass f else (d, f)).2 bytes := by
  split
  · exact holds.pass
  · exact holds

theorem handle_gather (d : Disk) (f : OpenFile) (bytes : List UInt8) :
    (d.gather f bytes).2.handle = f.handle := by
  unfold gather
  dsimp only
  rw [handle_passIf]
  exact handle_passIf d f _

/-- Bytes that are gathered come last. -/
theorem Holds.append {d : Disk} {f : OpenFile} {bytes : List UInt8} (holds : d.Holds f bytes)
    (more : List UInt8) :
    d.Holds { f with gathered := f.gathered ++ more } (bytes ++ more) := by
  obtain ⟨content, found, atEnd, rfl⟩ := holds.stored
  exact ⟨holds.named, content, found, atEnd, by simp [OpenFile.pending]⟩

theorem Holds.gather {d : Disk} {f : OpenFile} {bytes : List UInt8} (holds : d.Holds f bytes)
    (more : List UInt8) : (d.gather f more).1.Holds (d.gather f more).2 (bytes ++ more) :=
  ((holds.passIf _).append more).passIf _

end Disk

end LogLayout
