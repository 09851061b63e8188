import Timebox.Double.Text

/-! # Float layouts by conversion letter

`Double.layout verb prec single x` writes a float in one of the layouts that format
conversions name, with a precision or, when none is given, the shortest digits that read
back (of single precision when `single`):

* `e`, `E`: one digit, the point, `prec` digits, the exponent with a sign and two digits at
  least;
* `f`, `F`: positional with `prec` fraction digits;
* `g`, `G`: `prec` significant digits, exponential when the decimal exponent is below `-4`
  or not below the precision (six for the shortest digits), positional otherwise, with
  trailing zeros dropped;
* `b`: the integer significand, `p` and the binary exponent;
* `x`, `X`: a hexadecimal significand `1.hhh` (rounded to `prec` hexadecimal places, a half
  away from zero unless the kept digit is even) and the binary exponent.

Negative values, negative zero included, get a minus sign; infinities are `+Inf`, `-Inf` and
not-a-number is `NaN`. The fixed-precision digits are those of the exact binary value
rounded half to even.
-/

namespace Timebox

namespace Digits

/-- The digits without trailing zeros. -/
def trim (d : Digits) : Digits := ⟨(d.digits.reverse.dropWhile (· = '0')).reverse, d.point⟩

/-- The number of significant digits. -/
def count (d : Digits) : Nat := d.digits.length

/-- The general layout of digits counted to a precision: exponential when the exponent is
below `-4` or not below `eprec`. -/
def general (d : Digits) (prec : Nat) (eprec : Nat) (mark : Char) : String :=
  let x := d.point - 1
  if x < -4 ∨ x ≥ (eprec : Int) then
    let p := if prec > d.count then d.count else prec
    d.exponential (p - 1) mark 2
  else
    let p := if (prec : Int) > d.point then d.count else prec
    d.positional ((p : Int) - d.point).toNat

end Digits

namespace Double

/-- The significand and exponent of a finite value in the chosen precision, with the
significand's bit count: `m · 2^q` and `m < 2^(bits + 1)`. -/
def binaryForm (single : Bool) (m : Nat) (q : Int) : Nat × Int × Nat :=
  if single then
    let (m, q) := singleForm m q
    (m, q, 23)
  else (m, q, 52)

/-- Decimal digits of an exponent, at least two. -/
def exponentDigits (e : Nat) : String :=
  let ds := Nat.toDigits 10 e
  String.ofList (List.replicate (2 - ds.length) '0' ++ ds)

/-- The hexadecimal layout of `m · 2^q` with a significand of `bits` fraction bits. -/
def hexLayout (upper : Bool) (prec : Option Nat) (m : Nat) (q : Int) (bits : Nat) : String :=
  let hexDigit (n : Nat) : Char :=
    let c := "0123456789abcdef".toList.getD n '0'
    if upper then c.toUpper else c
  -- the significand with its leading bit at place 60
  let rec lift : Nat → Nat → Int → Nat × Int
    | 0, mm, e => (mm, e)
    | fuel + 1, mm, e =>
      if mm = 0 ∨ mm ≥ Nat.pow 2 60 then (mm, e) else lift fuel (mm * 2) (e - 1)
  let (mm, e) := lift 64 (m * Nat.pow 2 (60 - bits)) (if m = 0 then 0 else q + bits)
  let (mm, e) := match prec with
    | some p =>
      if p < 15 then
        let shift := p * 4
        let extra := (mm * Nat.pow 2 shift) % Nat.pow 2 60
        let kept := mm / Nat.pow 2 (60 - shift)
        let kept := if (extra ||| (kept % 2)) > Nat.pow 2 59 then kept + 1 else kept
        let mm := kept * Nat.pow 2 (60 - shift)
        if mm / Nat.pow 2 61 % 2 = 1 then (mm / 2, e + 1) else (mm, e)
      else (mm, e)
    | none => (mm, e)
  let lead := Nat.toDigits 10 (mm / Nat.pow 2 60 % 2)
  let rest := mm * 16 % Nat.pow 2 64
  let rec digitsOf : Nat → Nat → List Char
    | 0, _ => []
    | n + 1, r => hexDigit (r / Nat.pow 2 60 % 16) :: digitsOf n (r * 16 % Nat.pow 2 64)
  let rec shortestDigitsOf : Nat → Nat → List Char
    | 0, _ => []
    | n + 1, r => if r = 0 then [] else hexDigit (r / Nat.pow 2 60 % 16) :: shortestDigitsOf n (r * 16 % Nat.pow 2 64)
  let frac := match prec with
    | none => if rest = 0 then [] else '.' :: shortestDigitsOf 16 rest
    | some 0 => []
    | some p => '.' :: digitsOf p rest
  let expText := Nat.toDigits 10 e.natAbs
  let expText := List.replicate (2 - expText.length) '0' ++ expText
  String.ofList (['0', if upper then 'X' else 'x'] ++ lead ++ frac ++
    [if upper then 'P' else 'p', if e < 0 then '-' else '+'] ++ expText)

/-- The text of a finite value's magnitude, `m · 2^q`, in the layout of a conversion. -/
def finiteLayout (verb : Char) (prec : Option Nat) (single : Bool) (m : Nat) (q : Int) :
    String :=
  let shortest : Digits :=
    if single then Digits.ofDecimal (singleDecimal m q) else shortestDigits m q
  let mark := if verb = 'E' ∨ verb = 'G' then 'E' else 'e'
  if verb = 'e' ∨ verb = 'E' then
    match prec with
    | none => shortest.exponential (shortest.count - 1) mark 2
    | some p => (significantDigits m q (p + 1)).exponential p mark 2
  else if verb = 'f' ∨ verb = 'F' then
    match prec with
    | none => shortest.positional ((shortest.count : Int) - shortest.point).toNat
    | some p => (fixedDigits m q p).positional p
  else if verb = 'g' ∨ verb = 'G' then
    match prec with
    | none => shortest.general shortest.count 6 mark
    | some p =>
      let p := if p = 0 then 1 else p
      let d := (significantDigits m q p).trim
      let eprec := if p > d.count ∧ (d.count : Int) ≥ d.point then d.count else p
      d.general p eprec mark
  else if verb = 'b' then
    let (bm, bq, _) := binaryForm single m q
    let bq := if m = 0 then (if single then -149 else -1074) else bq
    String.ofList (Nat.toDigits 10 bm) ++ "p" ++ (if bq < 0 then "-" else "+") ++
      String.ofList (Nat.toDigits 10 bq.natAbs)
  else
    let (bm, bq, bits) := binaryForm single m q
    hexLayout (verb = 'X') prec bm bq bits

/-- A float in the layout of a conversion letter, with a precision or the shortest digits. -/
def layout (verb : Char) (prec : Option Nat) (single : Bool) (x : Double) : String :=
  match x.shape with
  | .nan => "NaN"
  | .infinite neg => if neg then "-Inf" else "+Inf"
  | .finite neg m q => (if neg then "-" else "") ++ finiteLayout verb prec single m q

end Double

end Timebox
