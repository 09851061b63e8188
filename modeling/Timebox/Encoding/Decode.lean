import Timebox.Encoding.Basic
import Timebox.Encoding.Index.SingleByte
import Timebox.Encoding.Index.Gbk
import Timebox.Encoding.Index.Gb18030
import Timebox.Encoding.Index.Big5
import Timebox.Encoding.Index.Korean
import Timebox.Encoding.Index.Jis0208
import Timebox.Encoding.Index.Jis0212
import Timebox.Text.Utf8

/-! # Decoding bytes into text

`Encoding.decode` reads a whole stream of bytes in an encoding. Every encoding reads the
stream from the front, one code at a time: a step looks at the next few bytes, gives the
characters of the code they start, and says how many bytes the code took. A byte that starts
no code, or a code without a character, gives the replacement character `U+FFFD`; when such
a code ends in a byte that could start the next code (an ASCII byte, mostly), the step takes
only the bytes before it, so that the next code is read whole.

* single-byte sets map each byte through their table;
* GBK and GB18030 read two-byte codes through the GBK index, and GB18030 also four-byte
  codes through its ranges; the byte `0x80` is the euro sign;
* Big5, EUC-KR, Shift_JIS and EUC-JP read two-byte codes through their indexes (EUC-JP
  also three-byte codes of JIS X 0212 and the half-width katakana); ISO-2022-JP switches
  between ASCII, katakana and the two JIS sets by escape sequences;
* UTF-8 replaces an ill-formed code by one replacement character for the longest start of
  it that could begin a well-formed code;
* UTF-16 joins surrogate pairs, and an odd last byte is one replacement character;
* `replacement` turns any stream, even an empty one, into one replacement character.
-/

namespace Timebox

namespace Encoding

/-- The replacement character. -/
def fffd : Char := Char.ofNat 0xFFFD

/-- A step of a decoder: from a state and the bytes left, the characters of the next code,
the number of bytes it took and the next state. -/
abbrev Step (σ : Type) := σ → List UInt8 → List Char × Nat × σ

/-- Reads all bytes by repeating a step from a state. A step that reports no bytes taken
still takes one, so the bytes run out after at most as many steps as there are bytes: that
many steps is the fuel. -/
def runSteps {σ : Type} (step : Step σ) (s : σ) (bytes : List UInt8) : List Char :=
  go bytes.length s bytes
where
  go : Nat → σ → List UInt8 → List Char
    | 0, _, _ => []
    | _, _, [] => []
    | fuel + 1, s, bs =>
      let (cs, n, s') := step s bs
      cs ++ go fuel s' (bs.drop (max n 1))

/-- An index read into an array of its characters. -/
def indexOf (text : String) : Array Char := text.toList.toArray

/-- The character at a place of an index; none beyond its end or where it has none. -/
def charAt? (index : Array Char) (i : Nat) : Option Char :=
  match index[i]? with
  | some c => if c = fffd then none else some c
  | none => none

/-- The character at a place of an index, the replacement character where it has none. -/
def charAt (index : Array Char) (i : Nat) : Char := (charAt? index i).getD fffd

/-- The character of an ASCII byte. -/
def ascii (b : UInt8) : Char := Char.ofNat b.toNat

/-! ### Single-byte sets -/

/-- The upper halves of the single-byte sets. -/
def Charset.upperHalf (c : Charset) : Array Char := indexOf c.upperHalfText

/-- The character of a byte in a single-byte set. -/
def Charset.charOf (c : Charset) (b : UInt8) : Char :=
  if b < 0x80 then ascii b else charAt c.upperHalf (b.toNat - 0x80)

/-! ### Chinese -/

/-- The GBK index. -/
def gbkIndex : Array Char := indexOf gbkIndexText

/-- The GB18030 ranges as `(pointer, code point)` pairs. -/
def gb18030Ranges : Array (Nat × Nat) :=
  ((gb18030RangesText.splitOn ",").filterMap fun part =>
    match part.splitOn ":" with
    | [p, c] => some (Text.hexValue p, Text.hexValue c)
    | _ => none).toArray

/-- The last range that starts at or before a pointer, searched by halving between `lo` and
`hi`, given that the range at `lo` starts at or before it. -/
def rangeBelow (p lo hi : Nat) : Nat × Nat :=
  if _h : lo + 1 < hi then
    let mid := (lo + hi) / 2
    match gb18030Ranges[mid]? with
    | some (start, _) =>
      if start ≤ p then rangeBelow p mid hi else rangeBelow p lo mid
    | none => rangeBelow p lo mid
  else (gb18030Ranges[lo]?).getD (0, 0x80)
termination_by hi - lo

/-- The code point of a four-byte GB18030 pointer, if it has one. -/
def gb18030CodePoint (p : Nat) : Option Nat :=
  if p < 39420 then
    let (start, cp) := rangeBelow p 0 gb18030Ranges.size
    some (cp + (p - start))
  else if 189000 ≤ p ∧ p < 189000 + 0x100000 then some (p - 189000 + 0x10000)
  else none

/-- A step of GBK, or of GB18030 when `fourByte` holds. -/
def gbkStep (fourByte : Bool) : Step Unit := fun _ bs =>
  match bs with
  | [] => ([], 1, ())
  | b0 :: rest =>
    if b0 < 0x80 then ([ascii b0], 1, ())
    else if b0 = 0x80 then (['€'], 1, ())
    else if b0 = 0xFF then ([fffd], 1, ())
    else
      let two (t : Nat) : List Char × Nat × Unit :=
        ([charAt gbkIndex ((b0.toNat - 0x81) * 190 + t)], 2, ())
      match rest with
      | [] => ([fffd], 1, ())
      | b1 :: rest =>
        if 0x40 ≤ b1 ∧ b1 < 0x7F then two (b1.toNat - 0x40)
        else if 0x80 ≤ b1 ∧ b1 < 0xFF then two (b1.toNat - 0x41)
        else if fourByte ∧ 0x30 ≤ b1 ∧ b1 < 0x40 then
          match rest with
          | b2 :: b3 :: _ =>
            if b2 < 0x81 ∨ b2 = 0xFF ∨ b3 < 0x30 ∨ 0x3A ≤ b3 then ([fffd], 1, ())
            else
              let p := (((b0.toNat - 0x81) * 10 + (b1.toNat - 0x30)) * 126 + (b2.toNat - 0x81)) * 10 +
                (b3.toNat - 0x30)
              match gb18030CodePoint p with
              | some cp => ([Char.ofNat cp], 4, ())
              | none => ([fffd], 1, ())
          | _ => ([fffd], 1, ())
        else ([fffd], 1, ())

/-- The Big5 index. -/
def big5Index : Array Char := indexOf big5IndexText

/-- The characters of a Big5 pointer: four pointers stand for a letter with two accents. -/
def big5Chars (i : Nat) : List Char :=
  if i = 1133 then ['Ê', Char.ofNat 0x304]
  else if i = 1135 then ['Ê', Char.ofNat 0x30C]
  else if i = 1164 then ['ê', Char.ofNat 0x304]
  else if i = 1166 then ['ê', Char.ofNat 0x30C]
  else [charAt big5Index i]

/-- A step of Big5. -/
def big5Step : Step Unit := fun _ bs =>
  match bs with
  | [] => ([], 1, ())
  | b0 :: rest =>
    if b0 < 0x80 then ([ascii b0], 1, ())
    else if b0 = 0x80 ∨ b0 = 0xFF then ([fffd], 1, ())
    else
      let lead := (b0.toNat - 0x81) * 157
      match rest with
      | [] => ([fffd], 1, ())
      | b1 :: _ =>
        if 0x40 ≤ b1 ∧ b1 < 0x7F then (big5Chars (lead + b1.toNat - 0x40), 2, ())
        else if 0xA1 ≤ b1 ∧ b1 < 0xFF then (big5Chars (lead + b1.toNat - 0x62), 2, ())
        else if b1 < 0x40 then ([fffd], 1, ())
        else ([fffd], 2, ())

/-! ### Korean -/

/-- The EUC-KR index. -/
def koreanIndex : Array Char := indexOf koreanIndexText

/-- Whether a trail byte may follow a lead byte in EUC-KR: below lead `0xC7`, the letters and
the upper half; from it on, `0xA1`–`0xFE` only. -/
def koreanTrail (b0 b1 : UInt8) : Bool :=
  if b0 < 0xC7 then (0x41 ≤ b1 && b1 < 0x5B) || (0x61 ≤ b1 && b1 < 0x7B) || (0x81 ≤ b1 && b1 < 0xFF)
  else 0xA1 ≤ b1 && b1 < 0xFF

/-- A step of EUC-KR. -/
def eucKrStep : Step Unit := fun _ bs =>
  match bs with
  | [] => ([], 1, ())
  | b0 :: rest =>
    if b0 < 0x80 then ([ascii b0], 1, ())
    else if b0 = 0x80 ∨ b0 = 0xFF then ([fffd], 1, ())
    else
      match rest with
      | [] => ([fffd], 1, ())
      | b1 :: _ =>
        let found := if koreanTrail b0 b1 then charAt? koreanIndex ((b0.toNat - 0x81) * 190 + b1.toNat - 0x41)
          else none
        match found with
        | some c => ([c], 2, ())
        | none => ([fffd], if b1 < 0x80 then 1 else 2, ())

/-! ### Japanese -/

/-- The JIS X 0208 index. -/
def jis0208Index : Array Char := indexOf jis0208IndexText

/-- The JIS X 0212 index. -/
def jis0212Index : Array Char := indexOf jis0212IndexText

/-- The half-width katakana of a byte `0xA1`–`0xDF`. -/
def halfWidthKatakana (b : UInt8) : Char := Char.ofNat (b.toNat + 0xFF61 - 0xA1)

/-- The JIS X 0208 place of a Shift_JIS code: the lead byte gives two rows, the trail byte
which of them and the cell. -/
def shiftJisPlace (b0 b1 : UInt8) : Option Nat :=
  let rowPair := 2 * (if b0 ≤ 0x9F then b0.toNat - 0x70 else b0.toNat - 0xB0) - 0x21
  if b1 < 0x40 ∨ b1 = 0x7F ∨ 0xFD ≤ b1 then none
  else if b1 < 0x7F then some ((rowPair - 1) * 94 + (b1.toNat - 0x40))
  else if b1 < 0x9F then some ((rowPair - 1) * 94 + (b1.toNat - 0x41))
  else some (rowPair * 94 + (b1.toNat - 0x9F))

/-- A step of Shift_JIS. -/
def shiftJisStep : Step Unit := fun _ bs =>
  match bs with
  | [] => ([], 1, ())
  | b0 :: rest =>
    if b0 < 0x80 then ([ascii b0], 1, ())
    else if b0 = 0x80 then (['\u0080'], 1, ())
    else if 0xA1 ≤ b0 ∧ b0 < 0xE0 then ([halfWidthKatakana b0], 1, ())
    else if (0x81 ≤ b0 ∧ b0 < 0xA0) ∨ (0xE0 ≤ b0 ∧ b0 < 0xFD) then
      match rest with
      | [] => ([fffd], 1, ())
      | b1 :: _ =>
        match shiftJisPlace b0 b1 with
        | some i => ([charAt jis0208Index i], 2, ())
        | none => ([fffd], if b1 < 0x80 then 1 else 2, ())
    else ([fffd], 1, ())

/-- Whether a byte is in the range `0xA1`–`0xFE` of the EUC sets. -/
def eucByte (b : UInt8) : Bool := 0xA1 ≤ b && b ≤ 0xFE

/-- A step of EUC-JP. -/
def eucJpStep : Step Unit := fun _ bs =>
  match bs with
  | [] => ([], 1, ())
  | b0 :: rest =>
    if b0 < 0x80 then ([ascii b0], 1, ())
    else if b0 = 0x8E then
      match rest with
      | [] => ([fffd], 1, ())
      | b1 :: _ =>
        if b1 < 0xA1 then ([fffd], 1, ())
        else if 0xDF < b1 then ([fffd], if b1 = 0xFF then 1 else 2, ())
        else ([halfWidthKatakana b1], 2, ())
    else if b0 = 0x8F then
      match rest with
      | b1 :: b2 :: _ =>
        if !eucByte b1 then ([fffd], 1, ())
        else if !eucByte b2 then ([fffd], 2, ())
        else ([charAt jis0212Index ((b1.toNat - 0xA1) * 94 + (b2.toNat - 0xA1))], 3, ())
      | [b1] => ([fffd], if 0xA1 ≤ b1 ∧ b1 < 0xFE then 2 else 1, ())
      | [] => ([fffd], 1, ())
    else if eucByte b0 then
      match rest with
      | [] => ([fffd], 1, ())
      | b1 :: _ =>
        if !eucByte b1 then ([fffd], 1, ())
        else ([charAt jis0208Index ((b0.toNat - 0xA1) * 94 + (b1.toNat - 0xA1))], 2, ())
    else ([fffd], 1, ())

/-- The sets ISO-2022-JP switches between. -/
inductive JisMode where
  | ascii
  | katakana
  | jis0208
  | jis0212
deriving DecidableEq, Repr, Inhabited

/-- The distance of a byte from `0x21`, as a byte. -/
def fromBang (b : UInt8) : Nat := (b - 0x21).toNat

/-- A step of ISO-2022-JP. An escape sequence that names no set is one replacement
character for its escape byte alone. -/
def iso2022JpStep : Step JisMode := fun mode bs =>
  match bs with
  | [] => ([], 1, mode)
  | b0 :: rest =>
    if 0x80 ≤ b0 then ([fffd], 1, mode)
    else if b0 = 0x1B then
      match rest with
      | b1 :: b2 :: more =>
        if b1 = 0x24 ∧ (b2 = 0x40 ∨ b2 = 0x42) then ([], 3, .jis0208)
        else if b1 = 0x24 ∧ b2 = 0x28 then
          match more with
          | b3 :: _ => if b3 = 0x44 then ([], 4, .jis0212) else ([fffd], 1, mode)
          | [] => ([fffd], 1, mode)
        else if b1 = 0x28 ∧ (b2 = 0x42 ∨ b2 = 0x4A) then ([], 3, .ascii)
        else if b1 = 0x28 ∧ b2 = 0x49 then ([], 3, .katakana)
        else ([fffd], 1, mode)
      | _ => ([fffd], 1, mode)
    else
      match mode with
      | .ascii => ([ascii b0], 1, mode)
      | .katakana =>
        if b0 < 0x21 ∨ 0x60 ≤ b0 then ([fffd], 1, mode)
        else ([Char.ofNat (b0.toNat + 0xFF61 - 0x21)], 1, mode)
      | _ =>
        if b0 = 0x0A then (['\n'], 1, .ascii)
        else
          match rest with
          | [] => ([fffd], 1, mode)
          | b1 :: _ =>
            let i := fromBang b0 * 94 + fromBang b1
            let index := if mode = .jis0208 then jis0208Index else jis0212Index
            ([charAt index i], 2, mode)

/-! ### UTF-8, UTF-16 and the rest -/

/-- The length of the UTF-8 code a byte starts and the range of the byte after it, or none
for a byte that starts no code. -/
def utf8Lead (b : UInt8) : Option (Nat × UInt8 × UInt8) :=
  if b < 0xC2 then none
  else if b < 0xE0 then some (2, 0x80, 0xBF)
  else if b = 0xE0 then some (3, 0xA0, 0xBF)
  else if b = 0xED then some (3, 0x80, 0x9F)
  else if b < 0xF0 then some (3, 0x80, 0xBF)
  else if b = 0xF0 then some (4, 0x90, 0xBF)
  else if b < 0xF4 then some (4, 0x80, 0xBF)
  else if b = 0xF4 then some (4, 0x80, 0x8F)
  else none

/-- Whether a byte continues a UTF-8 code. -/
def continues (b : UInt8) : Bool := 0x80 ≤ b ∧ b ≤ 0xBF

/-- A step of UTF-8: an ill-formed code is replaced by one replacement character for its
longest start that could begin a well-formed code, or for its first byte when there is none. -/
def utf8Step : Step Unit := fun _ bs =>
  match bs with
  | [] => ([], 1, ())
  | b0 :: rest =>
    if b0 < 0x80 then ([ascii b0], 1, ())
    else
      match utf8Lead b0, rest with
      | some (n, lo, hi), b1 :: rest =>
        if b1 < lo ∨ hi < b1 then ([fffd], 1, ())
        else if n = 2 then ([(Text.decodeFront bs).1], 2, ())
        else
          match rest with
          | b2 :: rest =>
            if !continues b2 then ([fffd], 2, ())
            else if n = 3 then ([(Text.decodeFront bs).1], 3, ())
            else
              match rest with
              | b3 :: _ => if continues b3 then ([(Text.decodeFront bs).1], 4, ()) else ([fffd], 3, ())
              | [] => ([fffd], 3, ())
          | [] => ([fffd], 2, ())
      | _, _ => ([fffd], 1, ())

/-- The code unit of two bytes in an order: big-endian when `big` holds. -/
def unit16 (big : Bool) (b0 b1 : UInt8) : Nat :=
  if big then b0.toNat * 256 + b1.toNat else b1.toNat * 256 + b0.toNat

/-- A step of UTF-16: a surrogate followed by a trailing surrogate is read as a pair (and is
one replacement character unless the first leads), any other surrogate is a replacement
character, and an odd last byte is one. -/
def utf16Step (big : Bool) : Step Unit := fun _ bs =>
  match bs with
  | b0 :: b1 :: rest =>
    let x := unit16 big b0 b1
    if x < 0xD800 ∨ 0xE000 ≤ x then ([Char.ofNat x], 2, ())
    else
      match rest with
      | b2 :: b3 :: _ =>
        let y := unit16 big b2 b3
        if 0xDC00 ≤ y ∧ y < 0xE000 then
          if x < 0xDC00 then ([Char.ofNat (0x10000 + (x - 0xD800) * 0x400 + (y - 0xDC00))], 4, ())
          else ([fffd], 4, ())
        else ([fffd], 2, ())
      | _ => ([fffd], 2, ())
  | _ => ([fffd], 1, ())

/-- A step of `x-user-defined`: the upper half is a run of private-use characters. -/
def userDefinedStep : Step Unit := fun _ bs =>
  match bs with
  | [] => ([], 1, ())
  | b :: _ => ([if b < 0x80 then ascii b else Char.ofNat (0xF780 + b.toNat - 0x80)], 1, ())

/-- A step of a single-byte set. -/
def singleByteStep (c : Charset) : Step Unit := fun _ bs =>
  match bs with
  | [] => ([], 1, ())
  | b :: _ => ([c.charOf b], 1, ())

/-- The characters of a stream of bytes in an encoding. -/
def decodeChars : Encoding → List UInt8 → List Char
  | .utf8, bs => runSteps utf8Step () bs
  | .singleByte c, bs => runSteps (singleByteStep c) () bs
  | .gbk, bs => runSteps (gbkStep false) () bs
  | .gb18030, bs => runSteps (gbkStep true) () bs
  | .big5, bs => runSteps big5Step () bs
  | .eucJp, bs => runSteps eucJpStep () bs
  | .iso2022Jp, bs => runSteps iso2022JpStep .ascii bs
  | .shiftJis, bs => runSteps shiftJisStep () bs
  | .eucKr, bs => runSteps eucKrStep () bs
  | .replacement, _ => [fffd]
  | .utf16be, bs => runSteps (utf16Step true) () bs
  | .utf16le, bs => runSteps (utf16Step false) () bs
  | .xUserDefined, bs => runSteps userDefinedStep () bs

/-- The text of a stream of bytes in an encoding. -/
def decode (e : Encoding) (bytes : List UInt8) : String := String.ofList (e.decodeChars bytes)

end Encoding

end Timebox
