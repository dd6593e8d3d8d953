import LogLayout.FilePath
import LogLayout.Lookup

/-!
# The disk

Files and directories by their place. A path is followed component by component and may fail at
any of them. Main statements: `content?_putFile` and `content?_putFile_of_ne`, a file that was put
has its new content and no other file changes.
-/

namespace LogLayout

/-- Where a file or directory lies: the root and the names that lead to it. -/
structure Place where
  absolute : Bool := false
  names : List (List Char) := []
  deriving Repr, DecidableEq, Inhabited

/-- What lies at a place. -/
inductive Node
  | file (content : List UInt8)
  | directory
  deriving Repr, DecidableEq, Inhabited

/-- All files and directories; the two roots are always there. -/
structure Disk where
  nodes : List (Place × Node) := []
  deriving Repr, Inhabited

/-- Why a path cannot be used. -/
inductive PathFault
  | notFound
  | exists
  | isDirectory
  | notADirectory
  /-- A name in the path, or the path as a whole, is too long. -/
  | tooLong
  /-- A NUL stands in the path. -/
  | nul
  deriving Repr, DecidableEq

namespace Disk

/-- What lies at a place. -/
def node? (d : Disk) (place : Place) : Option Node :=
  if place.names.isEmpty then some .directory else d.nodes.lookup place

/-- The content of the file at a place. -/
def content? (d : Disk) (place : Place) : Option (List UInt8) :=
  match d.node? place with
  | some (.file content) => some content
  | _ => none

/-- Puts a node at a place in place of what was there. -/
def put (d : Disk) (place : Place) (node : Node) : Disk :=
  ⟨(place, node) :: d.nodes.filter (·.1 ≠ place)⟩

/-- Puts a file with this content at a place. -/
def putFile (d : Disk) (place : Place) (content : List UInt8) : Disk := d.put place (.file content)

/-! ## Following a path -/

/-- How many bytes a name may have. -/
def nameLimit : Nat := 255

/-- How many bytes the text of a path may have. -/
def pathLimit : Nat := 4095

/-- Whether the name is too long for a disk. -/
def isLong (name : List Char) : Bool := nameLimit < (String.ofList name).utf8ByteSize

/-- Goes from the directory `here` along components, each of which must be a directory. -/
def follow (d : Disk) (here : Place) : List (List Char) → Except PathFault Place
  | [] => .ok here
  | part :: parts =>
    if part = ['.', '.'] then follow d { here with names := here.names.dropLast } parts
    else if isLong part then .error .tooLong
    else
      let next := { here with names := here.names ++ [part] }
      match d.node? next with
      | none => .error .notFound
      | some (.file _) => .error .notADirectory
      | some .directory => follow d next parts

/-- The place that a path leads to, whether or not something lies there. Only the last component
may be missing or a file. -/
def locate (d : Disk) (p : FilePath) : Except PathFault Place := do
  if p.hasNul then throw .nul
  if pathLimit < p.text.utf8ByteSize then throw .tooLong
  let start : Place := { absolute := p.root ≠ .here }
  match p.parts.getLast? with
  | none => return start
  | some name =>
    let directory ← d.follow start p.parts.dropLast
    if name = ['.', '.'] then return { directory with names := directory.names.dropLast }
    else if isLong name then throw .tooLong
    else return { directory with names := directory.names ++ [name] }

/-- The content of the file that a path leads to. -/
def read (d : Disk) (p : FilePath) : Except PathFault (List UInt8) := do
  let place ← d.locate p
  match d.node? place with
  | none => .error .notFound
  | some .directory => .error .isDirectory
  | some (.file content) => return content

/-- Gives the file that a path leads to a new content; the file is made if it is missing. -/
def write (d : Disk) (p : FilePath) (content : List UInt8) : Except PathFault Disk := do
  let place ← d.locate p
  match d.node? place with
  | some .directory => .error .isDirectory
  | _ => return d.putFile place content

/-- The places of all files and directories below the working directory. -/
def places (d : Disk) : List Place := (d.nodes.map (·.1)).filter (!·.absolute)

/-- The relative paths of all files and directories below the working directory, in order. -/
def listing (d : Disk) : List String :=
  (d.places.map fun p => String.ofList (['/'].intercalate p.names)).mergeSort fun a b => !(b < a)

/-! ## Making directories -/

/-- Makes one directory, whose parent must be there. -/
def makeDirectory (d : Disk) (p : FilePath) : Except PathFault Disk := do
  let place ← d.locate p
  match d.node? place with
  | none => return d.put place .directory
  | some _ => .error .exists

/-- Whether the path leads to a directory. -/
def isDirectory (d : Disk) (p : FilePath) : Bool :=
  match d.locate p with
  | .ok place => d.node? place == some .directory
  | .error _ => false

/-- Makes the directory unless it is there, and before it those above it that are missing. The
names are given from the last on. Directories that were made remain if a later one fails. -/
def makeDirectoriesReversed (d : Disk) (root : FilePath.Root) :
    List (List Char) → Disk × Except PathFault Unit
  | [] => (d, .ok ())
  | name :: above =>
    let p : FilePath := ⟨root, (name :: above).reverse⟩
    let settle := fun d' : Disk =>
      match d'.makeDirectory p with
      | .ok d'' => (d'', .ok ())
      | .error fault => (d', if d'.isDirectory p then .ok () else .error fault)
    match d.makeDirectory p with
    | .error .notFound =>
      match makeDirectoriesReversed d root above with
      | (d', .ok ()) => settle d'
      | (d', .error fault) => (d', .error fault)
    | _ => settle d

/-- Makes the directory and those above it, as far as they are missing. -/
def makeDirectories (d : Disk) (p : FilePath) : Disk × Except PathFault Unit :=
  d.makeDirectoriesReversed p.root p.parts.reverse

/-! ## Laws -/

theorem node?_put (d : Disk) (place q : Place) (node : Node) (h : place.names ≠ []) :
    (d.put place node).node? q = if q = place then some node else d.node? q := by
  by_cases hq : q = place
  · subst hq
    simp [node?, put, h]
  · have : (q == place) = false := by simpa using hq
    have others := lookup_filter (p := (· ≠ place)) (decide_eq_true hq) d.nodes
    simp only [node?, put, List.lookup_cons, this, others, hq, if_false]

theorem content?_putFile (d : Disk) {place : Place} (content : List UInt8) (h : place.names ≠ []) :
    (d.putFile place content).content? place = some content := by
  simp [content?, putFile, node?_put _ _ _ _ h]

theorem content?_putFile_of_ne (d : Disk) {place q : Place} (content : List UInt8)
    (h : place.names ≠ []) (hq : q ≠ place) :
    (d.putFile place content).content? q = d.content? q := by
  simp [content?, putFile, node?_put _ _ _ _ h, hq]

end Disk

end LogLayout
