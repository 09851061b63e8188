import Timebox.Text.Raw

/-! # How the base tools quote a text in a message

The core tools name an argument or a file in a message in one of three ways. All three work
on bytes, in the C locale, where only the bytes from the space to `~` are printable.

* `locale`: between single quotes; a single quote and a backslash get a backslash, the
  controls with a C escape letter get it (`\n`, `\t`, …), every other unprintable byte is a
  backslash and three octal digits (`\303`). Arguments read so, as in
  `'x': expected a numeric value`.
* `shellAlways`: as a shell reads it back, between single quotes; a single quote inside is
  written `'\''`, and unprintable bytes stand in `$'…'` pieces with the escapes above. A
  text whose only trouble is a single quote goes between double quotes instead. File names
  read so, as in `cannot remove 'x'`.
* `shell`: the same, but a text that a shell reads as it stands is not quoted, as in
  `x: No such file or directory`.
-/

namespace Timebox

namespace Text

namespace Quoting

/-- Whether a byte is printable in the C locale. -/
def printable (b : UInt8) : Bool := 0x20 ≤ b && b ≤ 0x7E

/-- The text of one byte. -/
def byteText (b : UInt8) : String := (Char.ofNat b.toNat).toString

/-- The letter of the C escape of a control byte, if it has one. -/
def escapeLetter? (b : UInt8) : Option Char :=
  if b = 7 then some 'a'
  else if b = 8 then some 'b'
  else if b = 12 then some 'f'
  else if b = 10 then some 'n'
  else if b = 13 then some 'r'
  else if b = 9 then some 't'
  else if b = 11 then some 'v'
  else none

/-- An unprintable byte after its backslash: its escape letter, or three octal digits. -/
def escapeBody (b : UInt8) : String :=
  match escapeLetter? b with
  | some c => c.toString
  | none =>
    let n := b.toNat
    String.ofList [Char.ofNat (48 + n / 64), Char.ofNat (48 + n / 8 % 8), Char.ofNat (48 + n % 8)]

/-- One byte between the quotes of `locale`. -/
def localeByte (b : UInt8) : String :=
  if b = 0x27 ∨ b = 0x5C then "\\" ++ byteText b
  else if printable b then byteText b
  else "\\" ++ escapeBody b

/-- A text between single quotes, with C escapes. -/
def locale (s : String) : String :=
  "'" ++ String.join ((Raw.toBytes s).map localeByte) ++ "'"

/-- The printable bytes that a shell reads otherwise than as themselves anywhere in a word:
the space, `! " $ & ' ( ) * ; < = > ? [ \ ^` the backquote and `|`. -/
def shellSpecials : List UInt8 :=
  [0x20, 0x21, 0x22, 0x24, 0x26, 0x27, 0x28, 0x29, 0x2A, 0x3B, 0x3C, 0x3D, 0x3E, 0x3F, 0x5B,
   0x5C, 0x5E, 0x60, 0x7C]

/-- Whether a byte at place `i` of a text of `n` bytes makes the text need quotes: an
unprintable byte, a special one, `#` or `~` in front, `{` or `}` alone. -/
def needsQuotes (n i : Nat) (b : UInt8) : Bool :=
  !printable b || shellSpecials.contains b ||
  ((b = 0x23 || b = 0x7E) && i = 0) || ((b = 0x7B || b = 0x7D) && n = 1)

/-- Whether a byte at place `i` of a text of `n` bytes stands as it is between double
quotes as well as between single quotes: a printable byte that is not special, the space,
the single quote, `#` or `~` in front, `{` or `}` alone. -/
def plainInBoth (n i : Nat) (b : UInt8) : Bool :=
  if b = 0x20 ∨ b = 0x27 then true
  else if b = 0x23 ∨ b = 0x7E then i = 0
  else if b = 0x7B ∨ b = 0x7D then n = 1
  else printable b && !shellSpecials.contains b

/-- The bytes between single quotes, given whether a `$'…'` piece is open: a single quote
is `'\''`, an unprintable byte is escaped inside a `$'…'` piece, and any other byte closes
an open piece first. -/
def singleQuoted : Bool → List UInt8 → String
  | _, [] => ""
  | inPiece, b :: bs =>
    if b = 0x27 then "'\\''" ++ singleQuoted false bs
    else if !printable b then
      (if inPiece then "" else "'$'") ++ "\\" ++ escapeBody b ++ singleQuoted true bs
    else (if inPiece then "''" else "") ++ byteText b ++ singleQuoted false bs

/-- A text quoted so that a shell reads it back: between double quotes when a single quote
is its only trouble, else between single quotes. -/
def shellAlways (s : String) : String :=
  let bytes := Raw.toBytes s
  let n := bytes.length
  let places := (List.range n).zip bytes
  if bytes.contains 0x27 ∧ places.all (fun (i, b) => plainInBoth n i b) then "\"" ++ s ++ "\""
  else "'" ++ singleQuoted false bytes ++ "'"

/-- A text as a shell reads it back: as it stands when that is already so, else as
`shellAlways` quotes it. -/
def shell (s : String) : String :=
  let bytes := Raw.toBytes s
  let n := bytes.length
  if n > 0 ∧ !((List.range n).zip bytes).any (fun (i, b) => needsQuotes n i b) then s
  else shellAlways s

/-- The bytes that bash's `%q` writes after a backslash wherever they stand: the tab, the
newline, the space and `! " $ & ' ( ) * , ; < > ? [ \ ] ^` the backquote, `{ | }`. -/
def backslashed : List UInt8 :=
  [0x09, 0x0A, 0x20, 0x21, 0x22, 0x24, 0x26, 0x27, 0x28, 0x29, 0x2A, 0x2C, 0x3B, 0x3C, 0x3E, 0x3F,
   0x5B, 0x5C, 0x5D, 0x5E, 0x60, 0x7B, 0x7C, 0x7D]

/-- One byte inside a `$'…'` text of bash's `%q`: the C escapes, with `\E` for the escape
character, a backslash before `\` and the single quote, three octal digits for any other
unprintable byte. -/
def ansiByte (b : UInt8) : String :=
  if b = 27 then "\\E"
  else if b = 0x5C ∨ b = 0x27 then "\\" ++ byteText b
  else if printable b then byteText b
  else "\\" ++ escapeBody b

/-- A text quoted as bash's `%q` quotes it: `''` when empty; in `$'…'` with escapes when it
holds an unprintable byte; else with a backslash before each byte that a shell reads
otherwise than as itself, a `#` in front, and a `~` in front or after `:` or `=`. -/
def backslash (s : String) : String :=
  let bytes := Raw.toBytes s
  if bytes.isEmpty then "''"
  else if bytes.any (fun b => !printable b) then "$'" ++ String.join (bytes.map ansiByte) ++ "'"
  else
    let prev := (0 : UInt8) :: bytes
    String.join (((List.range bytes.length).zip (bytes.zip prev)).map fun (i, b, p) =>
      let escaped := backslashed.contains b || (b = 0x23 && i = 0) ||
        (b = 0x7E && (i = 0 || p = 0x3A || p = 0x3D))
      (if escaped then "\\" else "") ++ byteText b)

end Quoting

end Text

end Timebox
