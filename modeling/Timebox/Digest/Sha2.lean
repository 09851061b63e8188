import Timebox.Digest.Block

/-! # The SHA-2 message digests

`Digest.sha256` and `Digest.sha224` work on 32-bit words and blocks of 64 bytes,
`Digest.sha512` and `Digest.sha384` on 64-bit words and blocks of 128 bytes. Each block is
read as sixteen words, most significant byte first, stretched to as many words as there are
steps (64 or 80) by mixing rotations of earlier words; each step mixes the eight words of
state with a word and a constant. The shorter digests start from other states and keep
only the first seven or six words.

The constants are the first bits of the fractional parts of the square roots (start
states) and cube roots (step constants) of the first primes.
-/

namespace Timebox

namespace Digest

namespace Sha2

/-- The step constants of the 32-bit digests. -/
def rounds256 : Array UInt32 := #[
  0x428A2F98, 0x71374491, 0xB5C0FBCF, 0xE9B5DBA5, 0x3956C25B, 0x59F111F1,
  0x923F82A4, 0xAB1C5ED5, 0xD807AA98, 0x12835B01, 0x243185BE, 0x550C7DC3,
  0x72BE5D74, 0x80DEB1FE, 0x9BDC06A7, 0xC19BF174, 0xE49B69C1, 0xEFBE4786,
  0x0FC19DC6, 0x240CA1CC, 0x2DE92C6F, 0x4A7484AA, 0x5CB0A9DC, 0x76F988DA,
  0x983E5152, 0xA831C66D, 0xB00327C8, 0xBF597FC7, 0xC6E00BF3, 0xD5A79147,
  0x06CA6351, 0x14292967, 0x27B70A85, 0x2E1B2138, 0x4D2C6DFC, 0x53380D13,
  0x650A7354, 0x766A0ABB, 0x81C2C92E, 0x92722C85, 0xA2BFE8A1, 0xA81A664B,
  0xC24B8B70, 0xC76C51A3, 0xD192E819, 0xD6990624, 0xF40E3585, 0x106AA070,
  0x19A4C116, 0x1E376C08, 0x2748774C, 0x34B0BCB5, 0x391C0CB3, 0x4ED8AA4A,
  0x5B9CCA4F, 0x682E6FF3, 0x748F82EE, 0x78A5636F, 0x84C87814, 0x8CC70208,
  0x90BEFFFA, 0xA4506CEB, 0xBEF9A3F7, 0xC67178F2]

/-- The start state of SHA-256. -/
def start256 : Array UInt32 := #[
  0x6A09E667, 0xBB67AE85, 0x3C6EF372, 0xA54FF53A, 0x510E527F, 0x9B05688C,
  0x1F83D9AB, 0x5BE0CD19]

/-- The start state of SHA-224. -/
def start224 : Array UInt32 := #[
  0xC1059ED8, 0x367CD507, 0x3070DD17, 0xF70E5939, 0xFFC00B31, 0x68581511,
  0x64F98FA7, 0xBEFA4FA4]

/-- The step constants of the 64-bit digests. -/
def rounds512 : Array UInt64 := #[
  0x428A2F98D728AE22, 0x7137449123EF65CD, 0xB5C0FBCFEC4D3B2F, 0xE9B5DBA58189DBBC,
  0x3956C25BF348B538, 0x59F111F1B605D019, 0x923F82A4AF194F9B, 0xAB1C5ED5DA6D8118,
  0xD807AA98A3030242, 0x12835B0145706FBE, 0x243185BE4EE4B28C, 0x550C7DC3D5FFB4E2,
  0x72BE5D74F27B896F, 0x80DEB1FE3B1696B1, 0x9BDC06A725C71235, 0xC19BF174CF692694,
  0xE49B69C19EF14AD2, 0xEFBE4786384F25E3, 0x0FC19DC68B8CD5B5, 0x240CA1CC77AC9C65,
  0x2DE92C6F592B0275, 0x4A7484AA6EA6E483, 0x5CB0A9DCBD41FBD4, 0x76F988DA831153B5,
  0x983E5152EE66DFAB, 0xA831C66D2DB43210, 0xB00327C898FB213F, 0xBF597FC7BEEF0EE4,
  0xC6E00BF33DA88FC2, 0xD5A79147930AA725, 0x06CA6351E003826F, 0x142929670A0E6E70,
  0x27B70A8546D22FFC, 0x2E1B21385C26C926, 0x4D2C6DFC5AC42AED, 0x53380D139D95B3DF,
  0x650A73548BAF63DE, 0x766A0ABB3C77B2A8, 0x81C2C92E47EDAEE6, 0x92722C851482353B,
  0xA2BFE8A14CF10364, 0xA81A664BBC423001, 0xC24B8B70D0F89791, 0xC76C51A30654BE30,
  0xD192E819D6EF5218, 0xD69906245565A910, 0xF40E35855771202A, 0x106AA07032BBD1B8,
  0x19A4C116B8D2D0C8, 0x1E376C085141AB53, 0x2748774CDF8EEB99, 0x34B0BCB5E19B48A8,
  0x391C0CB3C5C95A63, 0x4ED8AA4AE3418ACB, 0x5B9CCA4F7763E373, 0x682E6FF3D6B2B8A3,
  0x748F82EE5DEFB2FC, 0x78A5636F43172F60, 0x84C87814A1F0AB72, 0x8CC702081A6439EC,
  0x90BEFFFA23631E28, 0xA4506CEBDE82BDE9, 0xBEF9A3F7B2C67915, 0xC67178F2E372532B,
  0xCA273ECEEA26619C, 0xD186B8C721C0C207, 0xEADA7DD6CDE0EB1E, 0xF57D4F7FEE6ED178,
  0x06F067AA72176FBA, 0x0A637DC5A2C898A6, 0x113F9804BEF90DAE, 0x1B710B35131C471B,
  0x28DB77F523047D84, 0x32CAAB7B40C72493, 0x3C9EBE0A15C9BEBC, 0x431D67C49C100D4C,
  0x4CC5D4BECB3E42B6, 0x597F299CFC657E2A, 0x5FCB6FAB3AD6FAEC, 0x6C44198C4A475817]

/-- The start state of SHA-512. -/
def start512 : Array UInt64 := #[
  0x6A09E667F3BCC908, 0xBB67AE8584CAA73B, 0x3C6EF372FE94F82B, 0xA54FF53A5F1D36F1,
  0x510E527FADE682D1, 0x9B05688C2B3E6C1F, 0x1F83D9ABFB41BD6B, 0x5BE0CD19137E2179]

/-- The start state of SHA-384. -/
def start384 : Array UInt64 := #[
  0xCBBB9D5DC1059ED8, 0x629A292A367CD507, 0x9159015A3070DD17, 0x152FECD8F70E5939,
  0x67332667FFC00B31, 0x8EB44A8768581511, 0xDB0C2E0D64F98FA7, 0x47B5481DBEFA4FA4]

/-- A 32-bit word rotated right. -/
def rotr32 (x s : UInt32) : UInt32 := (x >>> s) ||| (x <<< (32 - s))

/-- A 64-bit word rotated right. -/
def rotr64 (x s : UInt64) : UInt64 := (x >>> s) ||| (x <<< (64 - s))

/-- The 64 words of a block of the 32-bit digests. -/
def schedule32 (block : List UInt8) : Array UInt32 :=
  let w := ((chunks 4 block).map fun b => UInt32.ofNat (beWord b)).toArray
  (List.range 48).foldl (fun w k =>
    let i := k + 16
    let x := w.getD (i - 15) 0
    let y := w.getD (i - 2) 0
    let s0 := rotr32 x 7 ^^^ rotr32 x 18 ^^^ (x >>> 3)
    let s1 := rotr32 y 17 ^^^ rotr32 y 19 ^^^ (y >>> 10)
    w.push (w.getD (i - 16) 0 + s0 + w.getD (i - 7) 0 + s1)) w

/-- The 80 words of a block of the 64-bit digests. -/
def schedule64 (block : List UInt8) : Array UInt64 :=
  let w := ((chunks 8 block).map fun b => UInt64.ofNat (beWord b)).toArray
  (List.range 64).foldl (fun w k =>
    let i := k + 16
    let x := w.getD (i - 15) 0
    let y := w.getD (i - 2) 0
    let s0 := rotr64 x 1 ^^^ rotr64 x 8 ^^^ (x >>> 7)
    let s1 := rotr64 y 19 ^^^ rotr64 y 61 ^^^ (y >>> 6)
    w.push (w.getD (i - 16) 0 + s0 + w.getD (i - 7) 0 + s1)) w

/-- One step of the 32-bit digests over the eight words of state. -/
def step32 (w : Array UInt32) (s : Array UInt32) (i : Nat) : Array UInt32 :=
  let a := s.getD 0 0
  let b := s.getD 1 0
  let c := s.getD 2 0
  let d := s.getD 3 0
  let e := s.getD 4 0
  let f := s.getD 5 0
  let g := s.getD 6 0
  let h := s.getD 7 0
  let t1 := h + (rotr32 e 6 ^^^ rotr32 e 11 ^^^ rotr32 e 25) + ((e &&& f) ^^^ (~~~e &&& g)) +
    rounds256.getD i 0 + w.getD i 0
  let t2 := (rotr32 a 2 ^^^ rotr32 a 13 ^^^ rotr32 a 22) + ((a &&& b) ^^^ (a &&& c) ^^^ (b &&& c))
  #[t1 + t2, a, b, c, d + t1, e, f, g]

/-- One step of the 64-bit digests over the eight words of state. -/
def step64 (w : Array UInt64) (s : Array UInt64) (i : Nat) : Array UInt64 :=
  let a := s.getD 0 0
  let b := s.getD 1 0
  let c := s.getD 2 0
  let d := s.getD 3 0
  let e := s.getD 4 0
  let f := s.getD 5 0
  let g := s.getD 6 0
  let h := s.getD 7 0
  let t1 := h + (rotr64 e 14 ^^^ rotr64 e 18 ^^^ rotr64 e 41) + ((e &&& f) ^^^ (~~~e &&& g)) +
    rounds512.getD i 0 + w.getD i 0
  let t2 := (rotr64 a 28 ^^^ rotr64 a 34 ^^^ rotr64 a 39) + ((a &&& b) ^^^ (a &&& c) ^^^ (b &&& c))
  #[t1 + t2, a, b, c, d + t1, e, f, g]

/-- The state of a 32-bit digest after a block of 64 bytes. -/
def compress32 (s : Array UInt32) (block : List UInt8) : Array UInt32 :=
  let r := (List.range 64).foldl (step32 (schedule32 block)) s
  (s.zip r).map fun (x, y) => x + y

/-- The state of a 64-bit digest after a block of 128 bytes. -/
def compress64 (s : Array UInt64) (block : List UInt8) : Array UInt64 :=
  let r := (List.range 80).foldl (step64 (schedule64 block)) s
  (s.zip r).map fun (x, y) => x + y

/-- The first `words` words of the final state of a 32-bit digest, as bytes. -/
def digest32 (start : Array UInt32) (words : Nat) (bs : List UInt8) : List UInt8 :=
  let s := (chunks 64 (pad 64 8 true bs)).foldl compress32 start
  (s.toList.take words).flatMap fun w => beBytes 4 w.toNat

/-- The first `words` words of the final state of a 64-bit digest, as bytes. -/
def digest64 (start : Array UInt64) (words : Nat) (bs : List UInt8) : List UInt8 :=
  let s := (chunks 128 (pad 128 16 true bs)).foldl compress64 start
  (s.toList.take words).flatMap fun w => beBytes 8 w.toNat

end Sha2

/-- The SHA-256 digest of bytes. -/
def sha256 (bs : List UInt8) : List UInt8 := Sha2.digest32 Sha2.start256 8 bs

/-- The SHA-224 digest of bytes. -/
def sha224 (bs : List UInt8) : List UInt8 := Sha2.digest32 Sha2.start224 7 bs

/-- The SHA-512 digest of bytes. -/
def sha512 (bs : List UInt8) : List UInt8 := Sha2.digest64 Sha2.start512 8 bs

/-- The SHA-384 digest of bytes. -/
def sha384 (bs : List UInt8) : List UInt8 := Sha2.digest64 Sha2.start384 6 bs

end Digest

end Timebox
