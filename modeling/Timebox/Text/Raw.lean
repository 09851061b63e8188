import Timebox.Text.Utf8

/-! # Bytes kept in text

Programs pass bytes around (arguments, variables, output caught from a command) that need
not be UTF-8. To hold them in a `String` without losing any, `Raw.ofBytes` reads each
well-formed UTF-8 sequence as its character and each other byte `b` as the character
`U+10FF00 + b` of the last private-use plane; `Raw.toBytes` writes them back. For bytes,
`toBytes (ofBytes bs) = bs`; for a text without characters of that last block,
`toBytes s` is its UTF-8.
-/

namespace Timebox

namespace Raw

/-- The first code point of the block that stands for lone bytes. -/
def base : Nat := 0x10FF00

/-- The character standing for a lone byte. -/
def charOf (b : UInt8) : Char := Char.ofNat (base + b.toNat)

/-- The text of bytes: well-formed UTF-8 as characters, every other byte as the character
standing for it. -/
def ofBytes (bytes : List UInt8) : String :=
  String.ofList (go bytes.length bytes)
where
  go : Nat → List UInt8 → List Char
    | 0, _ => []
    | _, [] => []
    | fuel + 1, b :: rest =>
      let (c, n) := Text.decodeFront (b :: rest)
      if c.toNat = 0xFFFD ∧ ¬((b :: rest).take 3 = [0xEF, 0xBF, 0xBD]) then charOf b :: go fuel rest
      else c :: go fuel ((b :: rest).drop n)

/-- The bytes of a text: UTF-8, with the characters standing for lone bytes written as
those bytes. -/
def toBytes (s : String) : List UInt8 :=
  s.toList.flatMap fun c =>
    if base ≤ c.toNat then [(c.toNat - base).toUInt8] else Text.utf8Bytes (String.singleton c)

end Raw

end Timebox
