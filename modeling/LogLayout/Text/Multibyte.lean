import LogLayout.Text.CharacterSet.Big5
import LogLayout.Text.CharacterSet.Gb2312
import LogLayout.Text.CharacterSet.HongKong
import LogLayout.Text.CharacterSet.JisX0208
import LogLayout.Text.CharacterSet.JisX0212
import LogLayout.Text.CharacterSet.JisX0213
import LogLayout.Text.CharacterSet.KsX1001
import LogLayout.Text.Hangul

/-!
# Encodings with one to eight bytes for a character

Characters of ASCII keep their byte, others have the bytes of their place in a character set. In
some sets a character and a mark after it have a place together, so that a text is split into units
of one or two characters first.
-/

namespace LogLayout.Text

/-! ## Units -/

/-- Splits a text into units: two characters that join, or one character. -/
def units (joins : Char → Char → Bool) : List Char → List (List Char)
  | [] => []
  | [c] => [[c]]
  | c :: d :: cs => if joins c d then [c, d] :: units joins cs else [c] :: units joins (d :: cs)

/-! ## Places as bytes -/

/-- Two bytes for a place in rows of 94, counted from a first byte on. -/
def rowBytes (first place : Nat) : List Nat := [first + place / 94, first + place % 94]

/-- Two bytes for a place in rows of 188; the first byte leaves out those of single characters, the
second one 7f. -/
def shiftedBytes (place : Nat) : List Nat :=
  let (row, cell) := (place / 188, place % 188)
  [row + (if row < 0x1f then 0x81 else 0xc1), cell + (if cell < 0x3f then 0x40 else 0x41)]

/-- Two bytes for a place in rows of the given width; the second one goes on from `next` after
7e. -/
def wideBytes (width next place : Nat) : List Nat :=
  let (row, cell) := (place / width, place % width)
  [0x81 + row, if cell < 0x3f then 0x40 + cell else next + (cell - 0x3f)]

/-- The byte of a narrow letter of the syllabary. -/
def kanaByte? (c : Char) : Option Nat :=
  if 0xff61 ≤ c.toNat && c.toNat ≤ 0xff9f then some (c.toNat - 0xfec0) else none

/-- The bytes of the marks that stand in place of the backslash and the tilde. -/
def romanByte? (c : Char) : Option Nat :=
  if c = '¥' then some 0x5c else if c = '‾' then some 0x7e else none

/-! ## JIS X 0213 -/

/-- An edition of JIS X 0213. -/
inductive Edition
  | first
  | second
  deriving Repr, DecidableEq, Inhabited

/-- The character at a place in the second plane where the editions differ. -/
def Edition.changed : Edition → Char
  | first => '鬝'
  | second => '鬜'

/-- Whether the character came with a later edition. -/
def Edition.precedes (e : Edition) (c : Char) : Bool :=
  e = .first && (CharacterSet.jisX0213Added.has c || c = Edition.changed .second)

/-- The place of a character that the first plane adds to JIS X 0208. -/
def Edition.firstPlane? (e : Edition) (c : Char) : Option Nat :=
  CharacterSet.jisX0213First.place? c <|>
    if e = .second then CharacterSet.jisX0213Added.place? c else none

/-- The place of a character in the second plane. -/
def Edition.secondPlane? (e : Edition) (c : Char) : Option Nat :=
  if c = e.changed then some 8674
  else CharacterSet.jisX0213Second.place? c

/-- The rows of the second plane that have characters, in order of the bytes in the shifted form. -/
def secondPlaneRows : List Nat :=
  [0, 7, 2, 3, 4, 11, 12, 13, 14] ++ (List.range 17).map (77 + ·)

/-- The place of a place in the second plane after the first plane. -/
def afterFirstPlane (place : Nat) : Nat :=
  (94 + secondPlaneRows.idxOf (place / 94)) * 94 + place % 94

/-- The pairs of characters with a place in the first plane. -/
def joinedInFirstPlane : List (Nat × List Char) :=
  [(368, ['か', '\u309a']), (369, ['き', '\u309a']), (370, ['く', '\u309a']),
   (371, ['け', '\u309a']), (372, ['こ', '\u309a']), (462, ['カ', '\u309a']),
   (463, ['キ', '\u309a']), (464, ['ク', '\u309a']), (465, ['ケ', '\u309a']),
   (466, ['コ', '\u309a']), (467, ['セ', '\u309a']), (468, ['ツ', '\u309a']),
   (469, ['ト', '\u309a']), (557, ['ㇷ', '\u309a']), (975, ['æ', '\u0300']),
   (979, ['ɔ', '\u0300']), (980, ['ɔ', '\u0301']), (981, ['ʌ', '\u0300']),
   (982, ['ʌ', '\u0301']), (983, ['ə', '\u0300']), (984, ['ə', '\u0301']),
   (985, ['ɚ', '\u0300']), (986, ['ɚ', '\u0301']), (1008, ['˩', '˥']), (1009, ['˥', '˩'])]

/-- The pairs of characters with a place in the Hong Kong supplement. -/
def joinedInHongKong : List (Nat × List Char) :=
  [(1133, ['Ê', '\u0304']), (1135, ['Ê', '\u030c']), (1164, ['ê', '\u0304']),
   (1166, ['ê', '\u030c'])]

/-- The place of a pair. -/
def placeOfPair? (pairs : List (Nat × List Char)) (pair : List Char) : Option Nat :=
  (pairs.find? (·.2 = pair)).map (·.1)

/-! ## Chinese -/

/-- The first and the last ideograph of the range that GBK covers. -/
def ideographs : Nat × Nat := (0x4e00, 0x9fa5)

/-- The characters of GB 2312 that GBK moves or lacks. -/
def movedInGbk : List Char := ['―', '・']

/-- The place in GBK. The ideographs that GB 2312 lacks come in order of their numbers, at first in
whole rows and then in the first halves of rows. -/
def gbkPlace? (c : Char) : Option Nat :=
  let n := c.toNat
  let standard := if movedInGbk.contains c then none else CharacterSet.gb2312.place? c
  CharacterSet.gbk.place? c <|> (standard.map fun p => (32 + p / 94) * 190 + 96 + p % 94) <|>
    if ideographs.1 ≤ n && n ≤ ideographs.2 then
      let rank := n - ideographs.1 - CharacterSet.gb2312.countIn ideographs.1 n
      let half := rank - 32 * 190
      some (if rank < 32 * 190 then rank else (41 + half / 96) * 190 + half % 96)
    else none

/-- How many characters from 80 on and before a number have two bytes in GB 18030. -/
def countTwoBytes (n : Nat) : Nat :=
  let standard := CharacterSet.gb2312.countIn 0x80 (min n ideographs.1)
    + CharacterSet.gb2312.countIn (ideographs.2 + 1) n
  CharacterSet.gbk.countIn 0x80 n + CharacterSet.gb18030.countIn 0x80 n + standard
    + (min n (ideographs.2 + 1) - ideographs.1) - movedInGbk.countP (·.toNat < n)

/-- The rank of a character among those with four bytes. The surrogates have none. -/
def rankOfFour (c : Char) : Nat :=
  let n := c.toNat
  if n < 0x10000 then n - 0x80 - (if n < 0xe000 then 0 else 0x800) - countTwoBytes n
  else 15 * 12600 + (n - 0x10000)

/-- The bytes of GB 18030. -/
def gb18030Bytes (c : Char) : List Nat :=
  match gbkPlace? c <|> CharacterSet.gb18030.place? c with
  | some place => wideBytes 190 0x80 place
  | none =>
    let rank := rankOfFour c
    [0x81 + rank / 12600, 0x30 + rank / 1260 % 10, 0x81 + rank / 10 % 126, 0x30 + rank % 10]

/-! ## Korean -/

/-- The bytes of a letter by number. The one after the last letter stands for a missing part. -/
def letterBytes (letter : Nat) : List Nat := [0xa4, 0xa1 + letter]

/-- A syllable that is spelled: a mark, then its three parts. -/
def spelledBytes (s : Syllable) : List Nat :=
  let initial := Syllable.initials.getD s.initial 0
  let final := if s.final = 0 then Syllable.letters else Syllable.finals.getD (s.final - 1) 0
  [Syllable.letters, initial, Syllable.consonants + s.vowel, final].flatMap letterBytes

/-- The bytes of a syllable that KS X 1001 lacks by its rank among them. -/
def furtherSyllableBytes (rank : Nat) : List Nat :=
  let cell := fun n => if n < 26 then 0x41 + n else if n < 52 then 0x47 + n else 0x4d + n
  let late := rank - 32 * 178
  if rank < 32 * 178 then [0x81 + rank / 178, cell (rank % 178)]
  else [0xa1 + late / 84, cell (late % 84)]

/-- Two bytes with five bits for each part of a syllable or of a letter, given by codes. -/
def composedBytes (initial vowel final : Nat) : List Nat :=
  let code := 0x8000 + initial * 1024 + vowel * 32 + final
  [code / 256, code % 256]

/-- The code of an initial consonant. -/
def initialCode (initial : Nat) : Nat := initial + 2

/-- The code of a vowel. -/
def vowelCode (vowel : Nat) : Nat := vowel + 3 + (vowel + 1) / 6 * 2

/-- The code of a final consonant. -/
def finalCode (final : Nat) : Nat := final + (if final < 17 then 1 else 2)

/-- The bytes of a single letter: its own code and those of two missing parts. -/
def composedLetterBytes (letter : Nat) : List Nat :=
  if Syllable.consonants ≤ letter then
    composedBytes 1 (vowelCode (letter - Syllable.consonants)) 1
  else if Syllable.initials.contains letter then
    composedBytes (initialCode (Syllable.initials.idxOf letter)) 2 1
  else composedBytes 1 2 (finalCode (Syllable.finals.idxOf letter + 1))

/-- The bytes that the composed form has for a place in KS X 1001. -/
def besideComposedBytes (place : Nat) : List Nat :=
  let row := place / 94 + (if place / 94 < 12 then 0x1b2 else 0x197)
  let cell := row % 2 * 94 + place % 94
  [row / 2, cell + (if cell < 0x4e then 0x31 else 0x43)]

/-! ## Encodings -/

/-- An encoding with several bytes for a character. -/
inductive Multibyte
  | shiftJis
  | codePage932
  | shiftJisX0213 (edition : Edition)
  | eucJp
  | eucJisX0213 (edition : Edition)
  | gb2312
  | gbk
  | gb18030
  | big5
  | codePage950
  | big5HongKong
  | eucKr
  | codePage949
  | johab
  deriving Repr, DecidableEq, Inhabited

namespace Multibyte

/-- All of them. -/
def all : List Multibyte :=
  [shiftJis, codePage932, shiftJisX0213 .first, shiftJisX0213 .second, eucJp, eucJisX0213 .first,
   eucJisX0213 .second, gb2312, gbk, gb18030, big5, codePage950, big5HongKong, eucKr, codePage949,
   johab]

/-- The name that is tried as it stands. -/
def name : Multibyte → String
  | shiftJis => "shift_jis"
  | codePage932 => "cp932"
  | shiftJisX0213 .first => "shift_jisx0213"
  | shiftJisX0213 .second => "shift_jis_2004"
  | eucJp => "euc_jp"
  | eucJisX0213 .first => "euc_jisx0213"
  | eucJisX0213 .second => "euc_jis_2004"
  | gb2312 => "gb2312"
  | gbk => "gbk"
  | gb18030 => "gb18030"
  | big5 => "big5"
  | codePage950 => "cp950"
  | big5HongKong => "big5hkscs"
  | eucKr => "euc_kr"
  | codePage949 => "cp949"
  | johab => "johab"

/-- Further names, in which a point counts as an underscore, too. -/
def otherNames : Multibyte → List String
  | shiftJis => ["csshiftjis", "shiftjis", "sjis", "s_jis", "x_mac_japanese"]
  | codePage932 => ["932", "ms932", "mskanji", "ms_kanji"]
  | shiftJisX0213 .first => ["shiftjisx0213", "sjisx0213", "s_jisx0213"]
  | shiftJisX0213 .second => ["shiftjis2004", "sjis_2004", "s_jis_2004"]
  | eucJp => ["eucjp", "ujis", "u_jis"]
  | eucJisX0213 .first => ["eucjisx0213"]
  | eucJisX0213 .second => ["jisx0213", "eucjis2004", "euc_jis2004"]
  | gb2312 =>
    ["chinese", "csiso58gb231280", "euc_cn", "euccn", "eucgb2312_cn", "gb2312_1980", "gb2312_80",
     "iso_ir_58", "x_mac_simp_chinese"]
  | gbk => ["936", "cp936", "ms936"]
  | gb18030 => ["gb18030_2000"]
  | big5 => ["big5_tw", "csbig5", "x_mac_trad_chinese"]
  | codePage950 => ["950", "ms950"]
  | big5HongKong => ["big5_hkscs", "hkscs"]
  | eucKr =>
    ["euckr", "korean", "ksc5601", "ks_c_5601", "ks_c_5601_1987", "ksx1001", "ks_x_1001",
     "x_mac_korean"]
  | codePage949 => ["949", "ms949", "uhc"]
  | johab => ["cp1361", "ms1361"]

/-- The pairs of characters that have a place together. -/
def pairs : Multibyte → List (Nat × List Char)
  | shiftJisX0213 _ | eucJisX0213 _ => joinedInFirstPlane
  | big5HongKong => joinedInHongKong
  | _ => []

/-- Whether the two characters are a pair. -/
def joins (m : Multibyte) (c d : Char) : Bool := (placeOfPair? m.pairs [c, d]).isSome

/-- The bytes of a pair by its place. -/
def pairBytes (m : Multibyte) (place : Nat) : List Nat :=
  match m with
  | shiftJisX0213 _ => shiftedBytes place
  | eucJisX0213 _ => rowBytes 0xa1 place
  | _ => wideBytes 157 0xa1 place

/-- The bytes of a character other than those of ASCII. -/
def wideChar? (m : Multibyte) (c : Char) : Option (List Nat) :=
  let n := c.toNat
  match m with
  | shiftJis =>
    ((kanaByte? c <|> romanByte? c).map ([·])) <|> (CharacterSet.jisX0208.place? c).map shiftedBytes
  | codePage932 =>
    if n = 0x80 then some [0x80]
    else if n = 0xf8f0 then some [0xa0]
    else if 0xf8f1 ≤ n && n ≤ 0xf8f3 then some [0xfd + (n - 0xf8f1)]
    else if 0xe000 ≤ n && n < 0xe000 + 1880 then some (shiftedBytes (8836 + (n - 0xe000)))
    else ((kanaByte? c).map ([·])) <|>
      (CharacterSet.jisX0208.place? c <|> CharacterSet.codePage932.place? c).map shiftedBytes
  | shiftJisX0213 e =>
    if c = '＼' then none
    else ((kanaByte? c <|> romanByte? c).map ([·])) <|>
      (CharacterSet.jisX0208.place? c <|> e.firstPlane? c).map shiftedBytes <|>
      (e.secondPlane? c).map (shiftedBytes <| afterFirstPlane ·)
  | eucJp =>
    ((romanByte? c).map ([·])) <|> ((kanaByte? c).map ([0x8e, ·])) <|>
      (CharacterSet.jisX0208.place? c).map (rowBytes 0xa1) <|>
      (CharacterSet.jisX0212.place? c).map (0x8f :: rowBytes 0xa1 ·)
  | eucJisX0213 e =>
    if c = '～' then some [0xa2, 0xb2]
    else if e.precedes c then none
    else ((kanaByte? c).map ([0x8e, ·])) <|>
      (CharacterSet.jisX0208.place? c <|> e.firstPlane? c).map (rowBytes 0xa1) <|>
      (e.secondPlane? c <|> CharacterSet.jisX0212.place? c).map (0x8f :: rowBytes 0xa1 ·)
  | gb2312 => (CharacterSet.gb2312.place? c).map (rowBytes 0xa1)
  | gbk => (gbkPlace? c).map (wideBytes 190 0x80)
  | gb18030 => some (gb18030Bytes c)
  | big5 => (CharacterSet.big5.place? c).map (wideBytes 157 0xa1)
  | codePage950 =>
    (CharacterSet.codePage950.place? c <|> CharacterSet.big5.place? c).map (wideBytes 157 0xa1)
  | big5HongKong =>
    (CharacterSet.hongKong.place? c <|> CharacterSet.big5.place? c).map (wideBytes 157 0xa1)
  | eucKr =>
    (CharacterSet.ksX1001.place? c).map (rowBytes 0xa1) <|> (Syllable.of? c).map spelledBytes
  | codePage949 =>
    (CharacterSet.ksX1001.place? c).map (rowBytes 0xa1) <|> (Syllable.of? c).map fun s =>
      furtherSyllableBytes (s.number - Syllable.firstNumber
        - CharacterSet.ksX1001.countIn Syllable.firstNumber s.number)
  | johab =>
    ((Syllable.of? c).map fun s =>
      composedBytes (initialCode s.initial) (vowelCode s.vowel) (finalCode s.final)) <|>
    (Syllable.letter? c).map composedLetterBytes <|>
    (CharacterSet.ksX1001.place? c).map besideComposedBytes

/-- The bytes of a character of ASCII. Two of them may stand among the wide ones. -/
def asciiChar (m : Multibyte) (c : Char) : List Nat :=
  match m, c with
  | shiftJisX0213 _, '\\' => [0x81, 0x5f]
  | shiftJisX0213 _, '~' => [0x81, 0xb0]
  | _, c => [c.toNat]

/-- The bytes of a unit, if the encoding has it. -/
def unit? (m : Multibyte) (unit : List Char) : Option (List UInt8) :=
  let bytes := match unit with
    | [c] => if c.toNat < 0x80 then some (m.asciiChar c) else m.wideChar? c
    | pair => (placeOfPair? m.pairs pair).map m.pairBytes
  bytes.map (·.map UInt8.ofNat)

/-- Whether each character is a unit of its own. -/
def isCharwise (m : Multibyte) : Bool := m.pairs.isEmpty

end Multibyte

end LogLayout.Text
