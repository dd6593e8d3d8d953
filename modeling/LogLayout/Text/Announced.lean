import LogLayout.Text.Multibyte

/-!
# Encodings with announced runs

Characters other than those of ASCII stand in runs, each of one character set. An announcement opens
a run and ASCII closes it; what was announced holds on from one text to the next.
-/

namespace LogLayout.Text

/-- An encoding that announces runs. -/
inductive Announced
  | hz
  | iso2022Jp
  | iso2022Jp1
  | iso2022Jp2
  | iso2022JpX0213 (edition : Edition)
  | iso2022JpExt
  | iso2022Kr
  deriving Repr, DecidableEq, Inhabited

namespace Announced

/-- All of them. -/
def all : List Announced :=
  [hz, iso2022Jp, iso2022Jp1, iso2022Jp2, iso2022JpX0213 .first, iso2022JpX0213 .second,
   iso2022JpExt, iso2022Kr]

/-- The name that is tried as it stands. -/
def name : Announced → String
  | hz => "hz"
  | iso2022Jp => "iso2022_jp"
  | iso2022Jp1 => "iso2022_jp_1"
  | iso2022Jp2 => "iso2022_jp_2"
  | iso2022JpX0213 .first => "iso2022_jp_3"
  | iso2022JpX0213 .second => "iso2022_jp_2004"
  | iso2022JpExt => "iso2022_jp_ext"
  | iso2022Kr => "iso2022_kr"

/-- Further names, in which a point counts as an underscore, too. -/
def otherNames : Announced → List String
  | hz => ["hzgb", "hz_gb", "hz_gb_2312"]
  | iso2022Jp => ["csiso2022jp", "iso2022jp", "iso_2022_jp"]
  | iso2022Jp1 => ["iso2022jp_1", "iso_2022_jp_1"]
  | iso2022Jp2 => ["iso2022jp_2", "iso_2022_jp_2"]
  | iso2022JpX0213 .first => ["iso2022jp_3", "iso_2022_jp_3"]
  | iso2022JpX0213 .second => ["iso_2022_jp_2004", "iso2022jp_2004"]
  | iso2022JpExt => ["iso2022jp_ext", "iso_2022_jp_ext"]
  | iso2022Kr => ["csiso2022kr", "iso2022kr", "iso_2022_kr"]

/-- The pairs of characters that have a place together. -/
def pairs : Announced → List (Nat × List Char)
  | iso2022JpX0213 _ => joinedInFirstPlane
  | _ => []

/-- Whether the two characters are a pair. -/
def joins (a : Announced) (c d : Char) : Bool := (placeOfPair? a.pairs [c, d]).isSome

/-! ## Sets -/

/-- The character that begins most announcements. -/
def escape : Char := '\x1b'

/-- The bytes of a character whose place is found. -/
def fromPlace (place? : Char → Option Nat) : List Char → Option (List Nat)
  | [c] => (place? c).map (rowBytes 0x21)
  | _ => none

/-- The byte of a character of a set with single bytes. -/
def fromByte (byte? : Char → Option Nat) : List Char → Option (List Nat)
  | [c] => (byte? c).map ([·])
  | _ => none

/-- The sets in order of preference: what announces a run, and the bytes of a unit in it. -/
def sets (a : Announced) : List (List Char × (List Char → Option (List Nat))) :=
  let jisX0208 := ([escape, '$', 'B'], fromPlace CharacterSet.jisX0208.place?)
  let jisX0212 := ([escape, '$', '(', 'D'], fromPlace CharacterSet.jisX0212.place?)
  let roman := ([escape, '(', 'J'], fromByte romanByte?)
  match a with
  | hz => [(['~', '\x7b'], fromPlace CharacterSet.gb2312.place?)]
  | iso2022Jp => [jisX0208, roman]
  | iso2022Jp1 => [jisX0208, jisX0212, roman]
  | iso2022Jp2 =>
    [jisX0208, jisX0212, ([escape, '$', '(', 'C'], fromPlace CharacterSet.ksX1001.place?),
     ([escape, '$', '(', 'A'], fromPlace CharacterSet.gb2312.place?), roman]
  | iso2022JpX0213 e =>
    let first := [escape, '$', '(', if e = .first then 'O' else 'Q']
    [(first, fun pair => (placeOfPair? joinedInFirstPlane pair).map (rowBytes 0x21)), jisX0208,
     (first, fromPlace e.firstPlane?), ([escape, '$', '(', 'P'], fromPlace e.secondPlane?)]
  | iso2022JpExt =>
    [jisX0208, jisX0212, roman,
     ([escape, '(', 'I'], fromByte fun c => (kanaByte? c).map (· - 0x80))]
  | iso2022Kr => [(['\x0e'], fromPlace CharacterSet.ksX1001.place?)]

/-- What stands once before the first run. -/
def header : Announced → List Char
  | iso2022Kr => [escape, '$', ')', 'C']
  | _ => []

/-- What closes a run. -/
def closing : Announced → List Char
  | hz => ['~', '\x7d']
  | iso2022Kr => ['\x0f']
  | _ => [escape, '(', 'B']

/-- What announces ASCII where something else could have been announced before. -/
def asciiAnnouncement : Announced → List Char
  | hz => []
  | _ => [escape, '(', 'B']

/-- A character of ASCII outside of runs. One that begins announcements is written twice. -/
def asciiChar (a : Announced) (c : Char) : List Char :=
  if a = hz && c = '~' then [c, c] else [c]

/-! ## Runs -/

/-- What was announced. -/
structure Shift where
  /-- The announcement of the run that is open; nothing outside of runs. -/
  run : List Char := []
  /-- Whether the header was written. -/
  headed : Bool := false
  /-- Whether it is unknown what was announced for ASCII, as it is in the middle of a file. -/
  uncertain : Bool := false
  deriving Repr, DecidableEq, Inhabited

/-- The bytes of characters with small numbers. -/
def charBytes (cs : List Char) : List UInt8 := cs.map fun c => UInt8.ofNat c.toNat

/-- Writes a unit, if a set has it: its bytes after the announcements that it needs. -/
def write? (a : Announced) (s : Shift) (unit : List Char) : Option (List UInt8 × Shift) :=
  match unit with
  | [c] =>
    if c.toNat < 0x80 then
      let opening := if s.uncertain then a.asciiAnnouncement else []
      let closing := if s.run.isEmpty then [] else a.closing
      some (charBytes (opening ++ closing ++ a.asciiChar c),
        { s with run := [], uncertain := false })
    else fromSets [c]
  | pair => fromSets pair
where
  /-- The bytes of a unit in the first set that has it. Most sets take the place of ASCII, so that
  its announcement is out of date anyway. -/
  fromSets (unit : List Char) : Option (List UInt8 × Shift) :=
    a.sets.findSome? fun (announcement, code?) => (code? unit).map fun bytes =>
      let opening := if s.run = announcement then [] else announcement
      (charBytes ((if s.headed then [] else a.header) ++ opening) ++ bytes.map UInt8.ofNat,
        ⟨announcement, true, s.uncertain && a = iso2022Kr⟩)

/-- Writes units up to the first one that no set has: the bytes, the units left and what was
announced. -/
def writeUnits (a : Announced) (s : Shift) :
    List (List Char) → List UInt8 × List (List Char) × Shift
  | [] => ([], [], s)
  | unit :: rest =>
    match a.write? s unit with
    | none => ([], unit :: rest, s)
    | some (bytes, s) =>
      let (more, left, s) := writeUnits a s rest
      (bytes ++ more, left, s)

end Announced

end LogLayout.Text
