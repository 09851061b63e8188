import Timebox.Digest.Block

/-! # The SHA-1 message digest

`Digest.sha1` hashes bytes to twenty: the padded input (lengths most significant byte
first) is cut into blocks of 64 bytes, each read as sixteen words most significant byte
first and stretched to eighty, each new word the rotation by one of four earlier ones
combined; eighty steps mix five words of state with them.
-/

namespace Timebox

namespace Digest

namespace Sha1

/-- A word rotated left. -/
def rotl (x s : UInt32) : UInt32 := (x <<< s) ||| (x >>> (32 - s))

/-- The eighty words of a block. -/
def schedule (block : List UInt8) : Array UInt32 :=
  let w := ((chunks 4 block).map fun b => UInt32.ofNat (beWord b)).toArray
  (List.range 64).foldl (fun w k =>
    let i := k + 16
    w.push (rotl (w.getD (i - 3) 0 ^^^ w.getD (i - 8) 0 ^^^ w.getD (i - 14) 0 ^^^ w.getD (i - 16) 0) 1)) w

/-- One step over the five words of state. -/
def step (w : Array UInt32) (s : Array UInt32) (i : Nat) : Array UInt32 :=
  let a := s.getD 0 0
  let b := s.getD 1 0
  let c := s.getD 2 0
  let d := s.getD 3 0
  let e := s.getD 4 0
  let (f, k) : UInt32 × UInt32 :=
    if i < 20 then ((b &&& c) ||| (~~~b &&& d), 0x5A827999)
    else if i < 40 then (b ^^^ c ^^^ d, 0x6ED9EBA1)
    else if i < 60 then ((b &&& c) ||| (b &&& d) ||| (c &&& d), 0x8F1BBCDC)
    else (b ^^^ c ^^^ d, 0xCA62C1D6)
  #[rotl a 5 + f + e + k + w.getD i 0, a, rotl b 30, c, d]

/-- The state after a block of 64 bytes. -/
def compress (s : Array UInt32) (block : List UInt8) : Array UInt32 :=
  let w := schedule block
  let r := (List.range 80).foldl (step w) s
  (s.zip r).map fun (x, y) => x + y

/-- The state before the first block. -/
def start : Array UInt32 := #[0x67452301, 0xEFCDAB89, 0x98BADCFE, 0x10325476, 0xC3D2E1F0]

end Sha1

/-- The SHA-1 digest of bytes. -/
def sha1 (bs : List UInt8) : List UInt8 :=
  let s := (chunks 64 (pad 64 8 true bs)).foldl Sha1.compress Sha1.start
  s.toList.flatMap fun w => beBytes 4 w.toNat

end Digest

end Timebox
