import Timebox.Digest.Block

/-! # The MD5 message digest

`Digest.md5` hashes bytes to sixteen: the padded input (lengths least significant byte
first) is cut into blocks of 64 bytes, each read as sixteen words least significant byte
first, and each block goes through 64 steps that mix four words of state with one word of
the block, a constant and a rotation. The digest is the four words of state, least
significant byte first.
-/

namespace Timebox

namespace Digest

namespace Md5

/-- The four words of state. -/
structure State where
  a : UInt32
  b : UInt32
  c : UInt32
  d : UInt32

/-- The state before the first block. -/
def start : State := ⟨0x67452301, 0xEFCDAB89, 0x98BADCFE, 0x10325476⟩

/-- The constant added at each step: the first 32 bits of the sine of the step number
plus one, in radians, in absolute value. -/
def roundConstants : Array UInt32 := #[
  0xD76AA478, 0xE8C7B756, 0x242070DB, 0xC1BDCEEE, 0xF57C0FAF, 0x4787C62A,
  0xA8304613, 0xFD469501, 0x698098D8, 0x8B44F7AF, 0xFFFF5BB1, 0x895CD7BE,
  0x6B901122, 0xFD987193, 0xA679438E, 0x49B40821, 0xF61E2562, 0xC040B340,
  0x265E5A51, 0xE9B6C7AA, 0xD62F105D, 0x02441453, 0xD8A1E681, 0xE7D3FBC8,
  0x21E1CDE6, 0xC33707D6, 0xF4D50D87, 0x455A14ED, 0xA9E3E905, 0xFCEFA3F8,
  0x676F02D9, 0x8D2A4C8A, 0xFFFA3942, 0x8771F681, 0x6D9D6122, 0xFDE5380C,
  0xA4BEEA44, 0x4BDECFA9, 0xF6BB4B60, 0xBEBFBC70, 0x289B7EC6, 0xEAA127FA,
  0xD4EF3085, 0x04881D05, 0xD9D4D039, 0xE6DB99E5, 0x1FA27CF8, 0xC4AC5665,
  0xF4292244, 0x432AFF97, 0xAB9423A7, 0xFC93A039, 0x655B59C3, 0x8F0CCC92,
  0xFFEFF47D, 0x85845DD1, 0x6FA87E4F, 0xFE2CE6E0, 0xA3014314, 0x4E0811A1,
  0xF7537E82, 0xBD3AF235, 0x2AD7D2BB, 0xEB86D391]

/-- The rotation of each step: four per quarter of the steps, repeated four times. -/
def rotations : Array UInt32 :=
  ([[7, 12, 17, 22], [5, 9, 14, 20], [4, 11, 16, 23], [6, 10, 15, 21]].flatMap fun r =>
    r ++ r ++ r ++ r).toArray

/-- A word rotated left. -/
def rotl (x s : UInt32) : UInt32 := (x <<< s) ||| (x >>> (32 - s))

/-- One step: the mixing function and the word of the block by quarter, then the state
moved one place. -/
def step (m : Array UInt32) (q : State) (i : Nat) : State :=
  let (f, g) :=
    if i < 16 then ((q.b &&& q.c) ||| (~~~q.b &&& q.d), i)
    else if i < 32 then ((q.d &&& q.b) ||| (~~~q.d &&& q.c), (5 * i + 1) % 16)
    else if i < 48 then (q.b ^^^ q.c ^^^ q.d, (3 * i + 5) % 16)
    else (q.c ^^^ (q.b ||| ~~~q.d), 7 * i % 16)
  let f := f + q.a + roundConstants.getD i 0 + m.getD g 0
  { a := q.d, b := q.b + rotl f (rotations.getD i 0), c := q.b, d := q.c }

/-- The state after a block of 64 bytes. -/
def compress (q : State) (block : List UInt8) : State :=
  let m := ((chunks 4 block).map fun w => UInt32.ofNat (leWord w)).toArray
  let r := (List.range 64).foldl (step m) q
  { a := q.a + r.a, b := q.b + r.b, c := q.c + r.c, d := q.d + r.d }

end Md5

/-- The MD5 digest of bytes. -/
def md5 (bs : List UInt8) : List UInt8 :=
  let q := (chunks 64 (pad 64 8 false bs)).foldl Md5.compress Md5.start
  [q.a, q.b, q.c, q.d].flatMap fun w => leBytes 4 w.toNat

end Digest

end Timebox
