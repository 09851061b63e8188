/-! # Decoding UTF-8 with replacement

Output of commands and byte slices are arbitrary bytes; where they are shown as text, each
well-formed UTF-8 sequence is its character and every byte that does not start one becomes
the replacement character `U+FFFD` on its own. A sequence is well formed when its first byte
announces its length, each following byte is a continuation byte, and the second byte keeps
the character out of the overlong forms, the surrogates and the range beyond `U+10FFFF`.

`validUtf8` says whether no replacement is needed.
-/

namespace Timebox

namespace Text

/-- Whether a byte continues a sequence. -/
def isContinuation (b : UInt8) : Bool := 0x80 ≤ b ∧ b ≤ 0xBF

/-- The bounds of the second byte after a lead byte of a multi-byte sequence. -/
def secondRange (lead : UInt8) : UInt8 × UInt8 :=
  if lead = 0xE0 then (0xA0, 0xBF)
  else if lead = 0xED then (0x80, 0x9F)
  else if lead = 0xF0 then (0x90, 0xBF)
  else if lead = 0xF4 then (0x80, 0x8F)
  else (0x80, 0xBF)

/-- The character at the front of the bytes and the number of bytes it takes; an ill-formed
front is the replacement character and one byte. -/
def decodeFront : List UInt8 → Char × Nat
  | [] => (Char.ofNat 0xFFFD, 1)
  | b :: rest =>
    let n := b.toNat
    if n < 0x80 then (Char.ofNat n, 1)
    else
      let len := if 0xC2 ≤ n ∧ n ≤ 0xDF then 2 else if 0xE0 ≤ n ∧ n ≤ 0xEF then 3
        else if 0xF0 ≤ n ∧ n ≤ 0xF4 then 4 else 0
      let (lo, hi) := secondRange b
      match len, rest with
      | 2, c1 :: _ =>
        if lo ≤ c1 ∧ c1 ≤ hi then (Char.ofNat ((n % 32) * 64 + c1.toNat % 64), 2)
        else (Char.ofNat 0xFFFD, 1)
      | 3, c1 :: c2 :: _ =>
        if lo ≤ c1 ∧ c1 ≤ hi ∧ isContinuation c2 then
          (Char.ofNat ((n % 16) * 4096 + (c1.toNat % 64) * 64 + c2.toNat % 64), 3)
        else (Char.ofNat 0xFFFD, 1)
      | 4, c1 :: c2 :: c3 :: _ =>
        if lo ≤ c1 ∧ c1 ≤ hi ∧ isContinuation c2 ∧ isContinuation c3 then
          (Char.ofNat ((n % 8) * 262144 + (c1.toNat % 64) * 4096 + (c2.toNat % 64) * 64 +
            c3.toNat % 64), 4)
        else (Char.ofNat 0xFFFD, 1)
      | _, _ => (Char.ofNat 0xFFFD, 1)

/-- The characters of the bytes, ill-formed bytes replaced one by one. -/
def decodeChars (bytes : List UInt8) : List Char :=
  go bytes.length bytes
where
  go : Nat → List UInt8 → List Char
    | 0, _ => []
    | _, [] => []
    | fuel + 1, bs =>
      let (c, n) := decodeFront bs
      c :: go fuel (bs.drop n)

/-- The text of the bytes, ill-formed bytes replaced one by one. -/
def decodeLossy (bytes : List UInt8) : String := String.ofList (decodeChars bytes)

/-- The UTF-8 bytes of a text. -/
def utf8Bytes (s : String) : List UInt8 := s.toUTF8.toList

/-- Whether the bytes are well-formed UTF-8. -/
def validUtf8 (bytes : List UInt8) : Bool := (String.fromUTF8? (ByteArray.mk bytes.toArray)).isSome

end Text

end Timebox
