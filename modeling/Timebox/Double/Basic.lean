/-! # Binary64 values by their bits

A `Double` is the 64-bit word of an IEEE 754 binary64 value. Its `shape` reads the word as
one of three kinds: not a number, an infinity, or a finite value `± mant · 2^exp`.

Every operation of the library on doubles goes through exact rational arithmetic:

* `ofRat` rounds a non-negative rational to the nearest double, a tie going to the even
  mantissa, and past the largest finite value to an infinity;
* `add`, `sub`, `mul`, `div` and `sqrt` compute the exact result of the finite operands and
  round it once with `ofRat`, so they are the correctly rounded operations of the standard;
* `round` is rounding to an integer with a half away from zero, `truncate` drops the fraction.

So no result depends on the platform's floating point unit or on Lean's `Float` printing.
-/

namespace Timebox

/-- An IEEE 754 binary64 value, kept as its bits. -/
structure Double where
  bits : UInt64
deriving DecidableEq, Repr, Inhabited

namespace Double

/-- The three kinds of binary64 values; a finite one is `± mant · 2^exp`. -/
inductive Shape where
  | nan
  | infinite (neg : Bool)
  | finite (neg : Bool) (mant : Nat) (exp : Int)
deriving DecidableEq, Repr

/-- Sign bit, eleven exponent bits and 52 fraction bits. -/
def shape (x : Double) : Shape :=
  let b := x.bits.toNat
  let neg := b / Nat.pow 2 63 = 1
  let biased : Nat := b / Nat.pow 2 52 % Nat.pow 2 11
  let frac : Nat := b % Nat.pow 2 52
  if biased = Nat.pow 2 11 - 1 then
    if frac = 0 then .infinite neg else .nan
  else if biased = 0 then .finite neg frac (-1074)
  else .finite neg (frac + Nat.pow 2 52) ((biased : Int) - 1075)

/-- The double with the given sign, biased exponent and fraction fields. -/
def ofFields (neg : Bool) (biased frac : Nat) : Double :=
  ⟨UInt64.ofNat ((if neg then Nat.pow 2 63 else 0) + biased * Nat.pow 2 52 + frac)⟩

def zero : Double := ofFields false 0 0
def negZero : Double := ofFields true 0 0
def inf : Double := ofFields false 2047 0
def negInf : Double := ofFields true 2047 0
/-- The quiet not-a-number that arithmetic produces. -/
def nan : Double := ofFields false 2047 1

def isNaN (x : Double) : Bool := x.shape == .nan

def isInf (x : Double) : Bool :=
  match x.shape with
  | .infinite _ => true
  | _ => false

def isFinite (x : Double) : Bool :=
  match x.shape with
  | .finite .. => true
  | _ => false

/-- The sign bit. -/
def signBit (x : Double) : Bool := x.bits.toNat / Nat.pow 2 63 = 1

/-- Flips the sign bit, also of zero and of a not-a-number. -/
def neg (x : Double) : Double := ⟨x.bits ^^^ (0x8000000000000000 : UInt64)⟩

/-- Clears the sign bit. -/
def abs (x : Double) : Double := ⟨x.bits &&& (0x7FFFFFFFFFFFFFFF : UInt64)⟩

/-- Whether the value is a zero of either sign. -/
def isZero (x : Double) : Bool :=
  match x.shape with
  | .finite _ 0 _ => true
  | _ => false

/-! ## Rounding an exact rational -/

/-- `n / d` rounded to the nearest natural, a tie going to the even one. -/
def roundHalfEven (n d : Nat) : Nat :=
  let q := n / d
  let r := n % d
  if 2 * r < d then q
  else if 2 * r > d then q + 1
  else if q % 2 = 0 then q else q + 1

/-- `⌊log₂ (num / den)⌋` for positive `num` and `den`. -/
def log2Floor (num den : Nat) : Int :=
  let l : Int := (Nat.log2 num : Int) - (Nat.log2 den : Int)
  let above := if l ≥ 0 then num ≥ den * Nat.pow 2 l.toNat else num * Nat.pow 2 (-l).toNat ≥ den
  if above then l else l - 1

/-- The double nearest to `± num / den`: ties go to the even mantissa, values beyond the
largest finite double become an infinity, and a zero keeps the sign. -/
def ofRat (neg : Bool) (num den : Nat) : Double :=
  if num = 0 ∨ den = 0 then ofFields neg 0 0
  else
    let l := log2Floor num den
    let q : Int := max (l - 52) (-1074)
    let m := if q ≥ 0 then roundHalfEven num (den * Nat.pow 2 q.toNat)
      else roundHalfEven (num * Nat.pow 2 (-q).toNat) den
    let (m, q) := if m = Nat.pow 2 53 then (Nat.pow 2 52, q + 1) else (m, q)
    if q > 971 then ofFields neg 2047 0
    else if m < Nat.pow 2 52 then ofFields neg 0 m
    else ofFields neg (q + 1075).toNat (m - Nat.pow 2 52)

/-- The single-precision value nearest to `± num / den`, as a double: 24 significant bits,
ties to the even significand, the smallest step `2^-149`, and values beyond the largest
single an infinity. -/
def ofRatSingle (neg : Bool) (num den : Nat) : Double :=
  if num = 0 ∨ den = 0 then ofFields neg 0 0
  else
    let e : Int := max (log2Floor num den - 23) (-149)
    let r := if e ≥ 0 then roundHalfEven num (den * Nat.pow 2 e.toNat)
      else roundHalfEven (num * Nat.pow 2 (-e).toNat) den
    let (r, e) := if r = Nat.pow 2 24 then (Nat.pow 2 23, e + 1) else (r, e)
    if e > 104 then ofFields neg 2047 0
    else if e ≥ 0 then ofRat neg (r * Nat.pow 2 e.toNat) 1
    else ofRat neg r (Nat.pow 2 (-e).toNat)

/-- The single-precision value nearest to the double, as a double. -/
def toSingle (x : Double) : Double :=
  match x.shape with
  | .nan | .infinite _ => x
  | .finite neg m q =>
    if m = 0 then x
    else if q ≥ 0 then ofRatSingle neg (m * Nat.pow 2 q.toNat) 1
    else ofRatSingle neg m (Nat.pow 2 (-q).toNat)

/-- The double nearest to an integer. -/
def ofInt (i : Int) : Double := ofRat (i < 0) i.natAbs 1

/-- The exact value of a finite double as sign, numerator and denominator. -/
def toRat? (x : Double) : Option (Bool × Nat × Nat) :=
  match x.shape with
  | .finite neg m e => some (neg, m * Nat.pow 2 e.toNat, Nat.pow 2 (-e).toNat)
  | _ => none

/-! ## Arithmetic -/

/-- The correctly rounded sum. Exact zero sums are `+0`, except that two negative zeros
add to `-0`. -/
def add (x y : Double) : Double :=
  match x.shape, y.shape with
  | .nan, _ => nan
  | _, .nan => nan
  | .infinite a, .infinite b => if a = b then x else nan
  | .infinite _, _ => x
  | _, .infinite _ => y
  | .finite a m e, .finite b n f =>
    if m = 0 ∧ n = 0 then (if a ∧ b then negZero else zero)
    else
      let lo := min e f
      let u : Int := (if a then -1 else 1) * ((m * Nat.pow 2 (e - lo).toNat : Nat) : Int)
      let v : Int := (if b then -1 else 1) * ((n * Nat.pow 2 (f - lo).toNat : Nat) : Int)
      let s := u + v
      if s = 0 then zero
      else if lo ≥ 0 then ofRat (s < 0) (s.natAbs * Nat.pow 2 lo.toNat) 1
      else ofRat (s < 0) s.natAbs (Nat.pow 2 (-lo).toNat)

def sub (x y : Double) : Double := add x y.neg

/-- The correctly rounded product. -/
def mul (x y : Double) : Double :=
  match x.shape, y.shape with
  | .nan, _ => nan
  | _, .nan => nan
  | .infinite a, .infinite b => if a = b then inf else negInf
  | .infinite a, .finite b n _ => if n = 0 then nan else if a = b then inf else negInf
  | .finite a m _, .infinite b => if m = 0 then nan else if a = b then inf else negInf
  | .finite a m e, .finite b n f =>
    let s := e + f
    if s ≥ 0 then ofRat (a != b) (m * n * Nat.pow 2 s.toNat) 1
    else ofRat (a != b) (m * n) (Nat.pow 2 (-s).toNat)

/-- The correctly rounded quotient. -/
def div (x y : Double) : Double :=
  match x.shape, y.shape with
  | .nan, _ => nan
  | _, .nan => nan
  | .infinite _, .infinite _ => nan
  | .infinite a, .finite b _ _ => if a = b then inf else negInf
  | .finite a _ _, .infinite b => if a = b then zero else negZero
  | .finite a m e, .finite b n f =>
    if n = 0 then (if m = 0 then nan else if a = b then inf else negInf)
    else
      let s := e - f
      if s ≥ 0 then ofRat (a != b) (m * Nat.pow 2 s.toNat) n
      else ofRat (a != b) m (n * Nat.pow 2 (-s).toNat)

/-- The integer square root, bit by bit from the top: the largest `r` with `r * r ≤ n`. -/
def isqrt (n : Nat) : Nat :=
  go (Nat.log2 n / 2 + 1) 0
where
  go : Nat → Nat → Nat
  | 0, r => r
  | k + 1, r =>
    let c := r + Nat.pow 2 k
    go k (if c * c ≤ n then c else r)

/-- The correctly rounded square root; of a negative value it is not a number. -/
def sqrt (x : Double) : Double :=
  match x.shape with
  | .nan => nan
  | .infinite false => inf
  | .infinite true => nan
  | .finite neg m e =>
    if m = 0 then x
    else if neg then nan
    else
      -- make the exponent even and give the root at least 56 significant bits
      let (m, e) := if e % 2 = 0 then (m, e) else (2 * m, e - 1)
      let k : Nat := 60
      let n := m * Nat.pow 4 k
      let r := isqrt n
      let half : Int := e / 2 - (k : Int)
      -- an inexact root lies strictly between `r` and `r + 1`; `r + 1/2` rounds the same way
      let (num, h) := if r * r = n then (r, half) else (2 * r + 1, half - 1)
      if h ≥ 0 then ofRat false (num * Nat.pow 2 h.toNat) 1 else ofRat false num (Nat.pow 2 (-h).toNat)

/-! ## Order -/

/-- The exact order of two non-NaN doubles, with the two zeros equal. -/
def compareExact (x y : Double) : Option Ordering :=
  match x.shape, y.shape with
  | .nan, _ => none
  | _, .nan => none
  | .infinite a, .infinite b =>
    some (if a = b then .eq else if a then .lt else .gt)
  | .infinite a, _ => some (if a then .lt else .gt)
  | _, .infinite b => some (if b then .gt else .lt)
  | .finite a m e, .finite b n f =>
    let lo := min e f
    let u : Int := (if a then -1 else 1) * ((m * Nat.pow 2 (e - lo).toNat : Nat) : Int)
    let v : Int := (if b then -1 else 1) * ((n * Nat.pow 2 (f - lo).toNat : Nat) : Int)
    some (compare u v)

/-- Equality as the standard defines it: a not-a-number equals nothing, `0 = -0`. -/
def eq (x y : Double) : Bool := x.compareExact y == some .eq

def lt (x y : Double) : Bool := x.compareExact y == some .lt

def le (x y : Double) : Bool :=
  match x.compareExact y with
  | some .lt | some .eq => true
  | _ => false

/-- The larger of two values, as a maximum that propagates a not-a-number and takes
`+0` over `-0`. -/
def max (x y : Double) : Double :=
  if x.isInf ∧ !x.signBit then x
  else if y.isInf ∧ !y.signBit then y
  else if x.isNaN then x
  else if y.isNaN then y
  else if x.isZero ∧ y.isZero then (if x.signBit then y else x)
  else if x.lt y then y else x

/-! ## Integers -/

/-- The value rounded to an integer, a half going away from zero; infinities and
not-a-number stay as they are. -/
def round (x : Double) : Double :=
  match x.shape with
  | .finite neg m e =>
    if e ≥ 0 then x
    else
      let d := Nat.pow 2 (-e).toNat
      let q := m / d
      let r := m % d
      let n := if 2 * r ≥ d then q + 1 else q
      ofRat neg n 1
  | _ => x

/-- The integer part of a finite value, the fraction dropped toward zero. -/
def truncate? (x : Double) : Option Int :=
  match x.shape with
  | .finite neg m e =>
    let n := if e ≥ 0 then m * Nat.pow 2 e.toNat else m / Nat.pow 2 (-e).toNat
    some (if neg then -(n : Int) else n)
  | _ => none

/-- The integer part as a 64-bit signed value; what is out of range or not finite gives the
most negative value, as the hardware conversion does. -/
def toInt64Trunc (x : Double) : Int :=
  match x.truncate? with
  | some i => if -Int.pow 2 63 ≤ i ∧ i < Int.pow 2 63 then i else -Int.pow 2 63
  | none => -Int.pow 2 63

end Double

end Timebox
