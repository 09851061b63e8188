/-! # Cyclic redundancy checks and simple sums

`Digest.posixCrc` is the checksum of the `cksum` utility: the remainder of the bytes,
followed by their count in as few little-endian bytes as it takes, divided by the
polynomial `0x04C11DB7`, most significant bit first, then complemented.

`Digest.bsdSum` and `Digest.sysvSum` are the two sums of the `sum` utility: a 16-bit sum
rotated right before each byte is added, and the plain sum of the bytes folded into 16
bits.
-/

namespace Timebox

namespace Digest

/-- The polynomial of the POSIX checksum. -/
def crcPolynomial : UInt32 := 0x04C11DB7

/-- One bit of the remainder shifted out, the polynomial subtracted when it was set. -/
def crcShift (r : UInt32) : UInt32 :=
  if r &&& 0x80000000 ≠ 0 then (r <<< 1) ^^^ crcPolynomial else r <<< 1

/-- The remainder after one byte. -/
def crcByte (r : UInt32) (b : UInt8) : UInt32 :=
  let x := r ^^^ (b.toUInt32 <<< 24)
  (List.range 8).foldl (fun x _ => crcShift x) x

/-- The bytes of a count, least significant first, as few as it takes. -/
def lengthBytes (n : Nat) : List UInt8 :=
  go (n + 1) n
where
  go : Nat → Nat → List UInt8
    | 0, _ => []
    | _, 0 => []
    | fuel + 1, k => (k % 256).toUInt8 :: go fuel (k / 256)

/-- The POSIX checksum of bytes. -/
def posixCrc (bs : List UInt8) : UInt32 :=
  let r := (bs ++ lengthBytes bs.length).foldl crcByte 0
  ~~~r

/-- The BSD sum of bytes: 16 bits, rotated right by one before each byte is added. -/
def bsdSum (bs : List UInt8) : Nat :=
  bs.foldl (fun s b => ((s >>> 1) + ((s &&& 1) <<< 15) + b.toNat) &&& 0xFFFF) 0

/-- The System V sum of bytes: their total folded into 16 bits. -/
def sysvSum (bs : List UInt8) : Nat :=
  let total := bs.foldl (fun s b => s + b.toNat) 0
  let r := (total &&& 0xFFFF) + (total >>> 16 &&& 0xFFFF)
  (r &&& 0xFFFF) + (r >>> 16)

end Digest

end Timebox
