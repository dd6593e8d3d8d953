import LogLayout.Text.Announced
import LogLayout.Text.CodePageTable
import LogLayout.Text.HostName
import LogLayout.Text.Quoted
import LogLayout.Text.Utf7

/-!
# Encodings

A text becomes bytes, by most encodings character by character. An encoding may lack a character,
and a text is then refused as a whole. Three of the encodings start a file with a byte order mark,
and some announce runs of characters, which may concern later texts. Main statement:
`encode_of_isCharwise`, what the others write depends on the text only.
-/

namespace LogLayout.Text

/-- A way to write characters as bytes. -/
inductive Encoding
  | utf8
  | utf8Marked
  | utf16
  | utf16Little
  | utf16Big
  | utf32
  | utf32Little
  | utf32Big
  | utf7
  | punycode
  | hostName
  | ascii
  | latin1
  | page (p : CodePage)
  | multibyte (m : Multibyte)
  | announced (a : Announced)
  /-- ASCII, all other characters and the control characters by number. -/
  | escaped
  /-- Latin-1, all other characters by number. -/
  | lightlyEscaped
  /-- Refuses every text. -/
  | undefined
  deriving Repr, DecidableEq, Inhabited

namespace Encoding

/-! ## Names -/

/-- The names that are tried as they stand. -/
def standardNames : List (String × Encoding) :=
  [("utf_8", utf8), ("utf_8_sig", utf8Marked), ("utf_16", utf16), ("utf_16_le", utf16Little),
   ("utf_16_be", utf16Big), ("utf_32", utf32), ("utf_32_le", utf32Little), ("utf_32_be", utf32Big),
   ("utf_7", utf7), ("punycode", punycode), ("idna", hostName), ("ascii", ascii),
   ("latin_1", latin1), ("charmap", latin1), ("unicode_escape", escaped),
   ("raw_unicode_escape", lightlyEscaped), ("undefined", undefined)]
  ++ (CodePage.all.map fun p => (p.name, page p))
  ++ (Multibyte.all.map fun m => (m.name, multibyte m))
  ++ Announced.all.map fun a => (a.name, announced a)

/-- Further names, in which a point counts as an underscore, too. -/
def otherNames : List (String × Encoding) :=
  [("u8", utf8), ("utf", utf8), ("utf8", utf8), ("utf8_ucs2", utf8), ("utf8_ucs4", utf8),
   ("cp65001", utf8), ("u16", utf16), ("utf16", utf16), ("utf_16le", utf16Little),
   ("unicodelittleunmarked", utf16Little), ("utf_16be", utf16Big), ("unicodebigunmarked", utf16Big),
   ("u32", utf32), ("utf32", utf32), ("utf_32le", utf32Little), ("utf_32be", utf32Big),
   ("u7", utf7), ("utf7", utf7), ("unicode_1_1_utf_7", utf7),
   ("646", ascii), ("ansi_x3.4_1968", ascii), ("ansi_x3_4_1968", ascii), ("ansi_x3.4_1986", ascii),
   ("cp367", ascii), ("csascii", ascii), ("ibm367", ascii), ("iso646_us", ascii),
   ("iso_646.irv_1991", ascii), ("iso_ir_6", ascii), ("us", ascii), ("us_ascii", ascii),
   ("iso8859_1", latin1), ("8859", latin1), ("cp819", latin1), ("csisolatin1", latin1),
   ("ibm819", latin1), ("iso8859", latin1), ("iso_8859_1", latin1), ("iso_8859_1_1987", latin1),
   ("iso_ir_100", latin1), ("l1", latin1), ("latin", latin1), ("latin1", latin1)]
  ++ (CodePage.all.flatMap fun p => p.otherNames.map (·, page p))
  ++ (Multibyte.all.flatMap fun m => m.otherNames.map (·, multibyte m))
  ++ Announced.all.flatMap fun a => a.otherNames.map (·, announced a)

/-- Names of transformations that are no encodings of text, to be tried as they stand. -/
def standardTransformations : List String :=
  ["base64_codec", "bz2_codec", "hex_codec", "quopri_codec", "rot_13", "uu_codec", "zlib_codec"]

/-- Further names of transformations, in which a point counts as an underscore, too. -/
def otherTransformations : List String :=
  ["base64", "base_64", "bz2", "hex", "quopri", "quoted_printable", "quotedprintable", "rot13",
   "uu", "zip", "zlib"]

/-- A name in the form in which names are compared: letters in lower case, and each run of other
characters than letters, digits and points as one underscore between two of them. -/
def normalizeName (name : String) : String :=
  let kept := fun c : Char => c.isAlphanum || c = '.'
  let marked := name.toList.map fun c => if kept c then c.toLower else ' '
  let runs := marked.splitBy fun a b => (a = ' ') == (b = ' ')
  .ofList ([ '_' ].intercalate (runs.filter fun run => run.head? ≠ some ' '))

/-- The name with underscores for points. -/
def withoutPoints (name : String) : String := name.map fun c => if c = '.' then '_' else c

/-- Why a name is not that of an encoding. -/
inductive NameFault
  | unknown (name : String)
  | noTextEncoding (name : String)
  deriving Repr, DecidableEq

/-- The wording of a fault. -/
def NameFault.message : NameFault → String
  | unknown name => "unknown encoding: " ++ name
  | noTextEncoding name =>
    "'" ++ name ++ "' is not a text encoding; use codecs.open() to handle arbitrary codecs"

/-- The encoding of a name. One of the names is that of the surroundings, which use UTF-8, and is
known only as it stands. -/
def ofName (name : String) : Except NameFault Encoding :=
  let plain := normalizeName name
  let underscored := withoutPoints plain
  if name = "locale" then .ok utf8
  else match otherNames.lookup plain <|> otherNames.lookup underscored <|>
      standardNames.lookup plain with
    | some e => .ok e
    | none =>
      if standardTransformations.contains plain || otherTransformations.contains underscored then
        .error (.noTextEncoding name)
      else .error (.unknown name)

/-! ## Characters -/

/-- A character in ASCII. -/
def escapedChar (c : Char) : List Char :=
  if c = '\n' then ['\\', 'n']
  else if c = '\r' then ['\\', 'r']
  else if c = '\t' then ['\\', 't']
  else if c = '\\' then ['\\', '\\']
  else if ' ' ≤ c && c < '\x7f' then [c]
  else escapeCode c.toNat

/-- The bytes of ASCII characters. -/
def asciiBytes (cs : List Char) : List UInt8 := cs.map fun c => UInt8.ofNat c.toNat

/-- The bytes of a character, if the encoding has it. Where they depend on the neighbours they are
those of a text of this character alone. -/
def encodeChar? (e : Encoding) (c : Char) : Option (List UInt8) :=
  let n := c.toNat
  match e with
  | utf8 | utf8Marked => some (String.utf8EncodeChar c)
  | utf16 | utf16Little => some ((units16 n).flatMap (littleEndian 2))
  | utf16Big => some ((units16 n).flatMap fun unit => (littleEndian 2 unit).reverse)
  | utf32 | utf32Little => some (littleEndian 4 n)
  | utf32Big => some (littleEndian 4 n).reverse
  | utf7 => some (asciiBytes (Utf7.encode [c]))
  | punycode => some (asciiBytes (Punycode.encode [c]))
  | hostName => (HostName.encode [] [c]).1.toOption.map asciiBytes
  | ascii => if n < 0x80 then some [UInt8.ofNat n] else none
  | latin1 => if n < 0x100 then some [UInt8.ofNat n] else none
  | page p => (p.byte? c).map fun b => [UInt8.ofNat b]
  | multibyte m => m.unit? [c]
  | announced a => (a.write? {} [c]).map (·.1)
  | escaped => some (asciiBytes (escapedChar c))
  | lightlyEscaped =>
    some (if n < 0x100 then [UInt8.ofNat n] else asciiBytes (escapeCode n))
  | undefined => none

/-- The bytes that a new file starts with. -/
def mark : Encoding → List UInt8
  | utf8Marked => [0xef, 0xbb, 0xbf]
  | utf16 => [0xff, 0xfe]
  | utf32 => [0xff, 0xfe, 0, 0]
  | _ => []

/-! ## Texts -/

/-- Why a text is refused. -/
inductive Fault
  /-- The first characters that the encoding lacks: the name under which the encoding refuses them,
  the characters, their position and why. -/
  | lacking (encoding : String) (chars : List Char) (position : Nat) (reason : String)
  | label (fault : HostName.Fault)
  | undefined
  deriving Repr, DecidableEq

/-- How an encoding refuses a text. -/
structure Refusal where
  /-- The name of the encoding. -/
  name : String
  reason : String
  /-- Whether all characters of a run are refused together. -/
  together : Bool := false

/-- The refusal of an encoding with several bytes for a character. -/
def Refusal.ofSequence (name : String) : Refusal := ⟨name, "illegal multibyte sequence", false⟩

/-- How the encoding refuses a text. -/
def refusal : Encoding → Refusal
  | ascii => ⟨"ascii", "ordinal not in range(128)", true⟩
  | latin1 => ⟨"latin-1", "ordinal not in range(256)", true⟩
  | page _ => ⟨"charmap", "character maps to <undefined>", true⟩
  | multibyte m => .ofSequence m.name
  | announced a => .ofSequence a.name
  | _ => ⟨"utf-8", "surrogates not allowed", true⟩

/-- The wording of a refusal: a single character is shown by number, several by position. -/
def Fault.message : Fault → String
  | lacking encoding chars position reason =>
    let place := " in position " ++ toString position
    let which := match chars with
      | [c] => "character '" ++ .ofList (escapeCode c.toNat) ++ "'" ++ place
      | cs => "characters" ++ place ++ "-" ++ toString (position + cs.length - 1)
    "'" ++ encoding ++ "' codec can't encode " ++ which ++ ": " ++ reason
  | label fault => fault.message
  | undefined => "undefined encoding"

/-- Whether the encoding has the character. -/
def has (e : Encoding) (c : Char) : Bool := (e.encodeChar? c).isSome

/-- Whether the bytes of a character do not depend on its neighbours. -/
def isCharwise : Encoding → Bool
  | utf7 | punycode | hostName | announced _ | undefined => false
  | multibyte m => m.isCharwise
  | _ => true

/-- The fault for a text of which `left` begins with what the encoding lacks. -/
def lackingIn (e : Encoding) (cs left : List Char) : Fault :=
  let run := if e.refusal.together then left.takeWhile (!e.has ·) else left.take 1
  .lacking e.refusal.name run (cs.length - left.length) e.refusal.reason

/-- The bytes of a text character by character, unless the encoding lacks one. -/
def encodeChars (e : Encoding) (cs : List Char) : Except Fault (List UInt8) :=
  match cs.dropWhile e.has with
  | [] => .ok (cs.flatMap fun c => (e.encodeChar? c).getD [])
  | left => .error (e.lackingIn cs left)

/-- The bytes of a text unit by unit, unless the encoding lacks one. -/
def encodeUnits (m : Multibyte) (cs : List Char) : Except Fault (List UInt8) :=
  let us := units m.joins cs
  match us.dropWhile fun u => (m.unit? u).isSome with
  | [] => .ok (us.flatMap fun u => (m.unit? u).getD [])
  | left => .error ((multibyte m).lackingIn cs left.flatten)

/-- The bytes of a text in runs, unless the encoding lacks a character, and what was announced, also
if it lacks one. -/
def encodeRuns (a : Announced) (s : Announced.Shift) (cs : List Char) :
    Except Fault (List UInt8) × Announced.Shift :=
  match a.writeUnits s (units a.joins cs) with
  | (bytes, [], s) => (.ok bytes, s)
  | (_, left, s) => (.error ((announced a).lackingIn cs left.flatten), s)

/-- What an encoding keeps from one text for the next one. -/
structure State where
  /-- What was announced. -/
  shift : Announced.Shift := {}
  /-- The label that did not end. -/
  unfinished : List Char := []
  deriving Repr, DecidableEq, Inhabited

/-- What is kept where others wrote before. -/
def State.resumed : State := { shift := { uncertain := true } }

/-- The bytes of a text after others, and what is kept for the next one. -/
def encode (e : Encoding) (s : State) (cs : List Char) : Except Fault (List UInt8) × State :=
  match e with
  | utf7 => (.ok (asciiBytes (Utf7.encode cs)), s)
  | punycode => (.ok (asciiBytes (Punycode.encode cs)), s)
  | undefined => (.error .undefined, s)
  | hostName =>
    let (outcome, unfinished) := HostName.encode s.unfinished cs
    ((outcome.map asciiBytes).mapError .label, { s with unfinished })
  | announced a =>
    let (outcome, shift) := encodeRuns a s.shift cs
    (outcome, { s with shift })
  | multibyte m => (if m.isCharwise then e.encodeChars cs else encodeUnits m cs, s)
  | e => (e.encodeChars cs, s)

theorem encode_of_isCharwise {e : Encoding} (h : e.isCharwise = true) (s : State)
    (cs : List Char) : e.encode s cs = (e.encodeChars cs, s) := by
  cases e <;> simp_all [isCharwise, encode]

end Encoding

end LogLayout.Text
