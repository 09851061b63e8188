/-! # Bytes cut into blocks and words

The block hashes all read their input the same way: the bytes, a byte `0x80`, as many zero
bytes as bring the length to `width` bytes short of a whole number of blocks, and the
length of the input in bits in those last `width` bytes (`pad`). The padded bytes are cut
into blocks (`chunks`) and each block into words, read most significant byte first
(`beWord`) or least significant byte first (`leWord`).
-/

namespace Timebox

namespace Digest

/-- The pieces of `n` elements of a list, the last one shorter when the length is not a
multiple of `n`. -/
def chunks {α : Type} (n : Nat) (xs : List α) : List (List α) :=
  go xs.length xs
where
  go : Nat → List α → List (List α)
    | 0, _ => []
    | _, [] => []
    | fuel + 1, ys => ys.take n :: go fuel (ys.drop n)

/-- The number that bytes spell, most significant first. -/
def beWord (bs : List UInt8) : Nat := bs.foldl (fun acc b => acc * 256 + b.toNat) 0

/-- The number that bytes spell, least significant first. -/
def leWord (bs : List UInt8) : Nat := bs.foldr (fun b acc => acc * 256 + b.toNat) 0

/-- The `width` bytes of a number, least significant first. -/
def leBytes (width n : Nat) : List UInt8 :=
  (List.range width).map fun i => (n / Nat.pow 256 i % 256).toUInt8

/-- The `width` bytes of a number, most significant first. -/
def beBytes (width n : Nat) : List UInt8 := (leBytes width n).reverse

/-- Bytes padded to whole blocks of `block` bytes, with the length in bits in the last
`width` bytes, most significant first when `big`. -/
def pad (block width : Nat) (big : Bool) (bs : List UInt8) : List UInt8 :=
  let n := bs.length
  let zeros := (2 * block - width - (n + 1) % block) % block
  let bits := if big then beBytes width (8 * n) else leBytes width (8 * n)
  bs ++ 0x80 :: List.replicate zeros 0 ++ bits

/-- Two hexadecimal digits, lower case, for each byte. -/
def hex (bs : List UInt8) : String :=
  let digit (k : Nat) : Char := if k < 10 then Char.ofNat (48 + k) else Char.ofNat (87 + k)
  String.ofList (bs.flatMap fun b => [digit (b.toNat / 16), digit (b.toNat % 16)])

theorem leBytes_length (width n : Nat) : (leBytes width n).length = width := by
  simp [leBytes]

end Digest

end Timebox
