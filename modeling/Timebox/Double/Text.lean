import Timebox.Double.Shortest

/-! # Writing doubles as text

A decimal to be written is a `Digits` value: a string of significant digits and the place of
the decimal point (`0.d₁d₂… · 10^point`). Two layouts place them:

* `positional` writes the integer part (at least `0`) and a fixed number of fraction digits;
* `exponential` writes one digit, a fraction, a mark and a signed exponent of at least a
  given width.

The formats of the library choose digits and layout:

* `toShortest` (the general format with the shortest digits): exponential with two exponent
  digits when the decimal exponent is below `-4` or at least `6`;
* `toJsonText` (the JSON writer): positional from `1e-6` up to but excluding `1e21`, else
  exponential with a negative exponent written without padding; `toPaddedJsonText` pads
  it to two digits;
* `toFixed` and `toExponent` write a value rounded to a number of places; the rounding is
  to nearest on the exact binary value, a tie going to the even digit.
-/

namespace Timebox

/-- Significant digits and the place of the point: the value is `0.digits · 10^point`. -/
structure Digits where
  digits : List Char
  point : Int
deriving DecidableEq, Repr

namespace Digits

/-- The digits of a decimal number; zero has no digits. -/
def ofDecimal (d : Decimal) : Digits :=
  if d.digits = 0 then ⟨[], 0⟩
  else
    let s := Nat.toDigits 10 d.digits
    ⟨s, (s.length : Int) + d.exp⟩

/-- The digit at a place counted from the first significant digit, `0` outside. -/
def at? (d : Digits) (i : Int) : Char :=
  if i < 0 then '0' else (d.digits[i.toNat]?).getD '0'

/-- Integer part and `places` fraction digits. -/
def positional (d : Digits) (places : Nat) : String :=
  let intPart : List Char :=
    if d.point ≤ 0 then ['0']
    else (List.range d.point.toNat).map fun (i : Nat) => d.at? i
  let fracPart : List Char := (List.range places).map fun (i : Nat) => d.at? (d.point + i)
  String.ofList (if places = 0 then intPart else intPart ++ '.' :: fracPart)

/-- One digit, `places` fraction digits, the mark and the exponent with a sign and at least
`width` digits. -/
def exponential (d : Digits) (places : Nat) (mark : Char) (width : Nat) : String :=
  let first := d.at? 0
  let fracPart : List Char := (List.range places).map fun (i : Nat) => d.at? ((i : Int) + 1)
  let x : Int := if d.digits.isEmpty then 0 else d.point - 1
  let xs := Nat.toDigits 10 x.natAbs
  let xs := List.replicate (width - xs.length) '0' ++ xs
  String.ofList (first :: (if places = 0 then [] else '.' :: fracPart) ++
    mark :: (if x < 0 then '-' else '+') :: xs)

end Digits

namespace Double

/-- `"NaN"`, `"+Inf"` or `"-Inf"`. -/
def specialText (neg : Bool) (isNan : Bool) : String :=
  if isNan then "NaN" else if neg then "-Inf" else "+Inf"

/-- The shortest digits of a finite double. -/
def shortestDigits (m : Nat) (q : Int) : Digits := Digits.ofDecimal (shortestDecimal m q)

/-- The general format of given digits: exponential with two exponent digits when the
decimal exponent is below `-4` or at least `6`, otherwise positional with exactly the digits
needed. -/
def generalText (neg : Bool) (d : Digits) : String :=
  let sign := if neg then "-" else ""
  let x := d.point - 1
  let body :=
    if !d.digits.isEmpty ∧ (x < -4 ∨ x ≥ 6) then d.exponential (d.digits.length - 1) 'e' 2
    else d.positional (d.digits.length - d.point).toNat
  sign ++ body

/-- The general format with the shortest digits. -/
def toShortest (x : Double) : String :=
  match x.shape with
  | .nan => "NaN"
  | .infinite neg => specialText neg false
  | .finite neg m q => generalText neg (shortestDigits m q)

/-- The general format with the shortest digits of single precision, for a value that single
precision holds exactly. -/
def toShortestSingle (x : Double) : String :=
  match x.shape with
  | .nan => "NaN"
  | .infinite neg => specialText neg false
  | .finite neg m q => generalText neg (Digits.ofDecimal (singleDecimal m q))

/-- The JSON writers' text: positional from `1e-6` up to but excluding `1e21` (both bounds
in the value's precision), exponential outside, a negative exponent with at least
`negWidth` digits and a positive one with at least two; `single` for a value of single
precision, written with its own shortest digits. -/
def jsonTextWith (single : Bool) (negWidth : Nat) (x : Double) : String :=
  match x.shape with
  | .nan => "NaN"
  | .infinite neg => specialText neg false
  | .finite neg m q =>
    let d := if single then Digits.ofDecimal (singleDecimal m q) else shortestDigits m q
    let sign := if neg then "-" else ""
    let a := x.abs
    let lo := ofRat false 1 1000000
    let hi := ofRat false (Nat.pow 10 21) 1
    let (lo, hi) := if single then (lo.toSingle, hi.toSingle) else (lo, hi)
    let small := a.lt lo
    let large := hi.le a
    let body :=
      if m ≠ 0 ∧ (small ∨ large) then
        let width := if d.point - 1 < 0 then negWidth else 2
        d.exponential (d.digits.length - 1) 'e' width
      else d.positional (d.digits.length - d.point).toNat
    sign ++ body

/-- The JSON writer's text: a negative exponent without padding (`1e-7`). -/
def toJsonTextIn (single : Bool) (x : Double) : String := jsonTextWith single 1 x

/-- The text of a JSON writer that pads every exponent to two digits (`1e-07`). -/
def toPaddedJsonText (x : Double) : String := jsonTextWith false 2 x

/-- The JSON text of a double. -/
def toJsonText (x : Double) : String := toJsonTextIn false x

/-- The digits of `|x|` rounded to `places` fraction digits. -/
def fixedDigits (m : Nat) (q : Int) (places : Nat) : Digits :=
  let f := Decimal.frac m q places
  Digits.ofDecimal ⟨roundHalfEven f.1 f.2, -(places : Int)⟩

/-- The digits of `|x|` rounded to `sig ≥ 1` significant digits. -/
def significantDigits (m : Nat) (q : Int) (sig : Nat) : Digits :=
  if m = 0 then ⟨[], 0⟩
  else
    let e10 := Decimal.log10Floor m q
    let e := e10 - ((sig : Int) - 1)
    let f := Decimal.frac m q (-e)
    let n := roundHalfEven f.1 f.2
    Digits.ofDecimal ⟨n, e⟩

/-- Positional text with `places` fraction digits (`%.Nf`). -/
def toFixed (x : Double) (places : Nat) : String :=
  match x.shape with
  | .nan => "NaN"
  | .infinite neg => specialText neg false
  | .finite neg m q => (if neg then "-" else "") ++ (fixedDigits m q places).positional places

/-- Exponential text with `places` fraction digits (`%.Ne`). -/
def toExponent (x : Double) (places : Nat) (mark : Char) : String :=
  match x.shape with
  | .nan => "NaN"
  | .infinite neg => specialText neg false
  | .finite neg m q =>
    (if neg then "-" else "") ++ (significantDigits m q (places + 1)).exponential places mark 2

end Double

end Timebox
