import Timebox.Double.Basic

/-! # Reading doubles from text

The accepted text is a number literal of the usual programming-language grammar:

* an optional sign, then `inf` or `infinity` in any case; or `nan` in any case, unsigned;
* otherwise an optional sign and digits with at most one point; hexadecimal digits after a
  `0x` prefix, which then need a binary exponent `p±n`; decimal digits may have an exponent
  `e±n`;
* underscores may stand between digits, or between the prefix and a digit, nowhere else.

The value is exact until one final rounding to the nearest double (`Double.ofRat`), so the
result is correctly rounded. A finite text whose value rounds past the largest double reads
as an infinity and is reported out of range; one that rounds to zero reads as zero.
-/

namespace Timebox

namespace Double

/-- Why a text is not a double. -/
inductive ReadError where
  /-- The text is not a number literal. -/
  | invalid
  /-- The literal is finite but its value rounds to an infinity, which is kept. -/
  | range (value : Double)
deriving DecidableEq, Repr

/-- The value of a hexadecimal or decimal digit character in the given base. -/
def digitValue (base : Nat) (c : Char) : Option Nat :=
  if '0' ≤ c ∧ c ≤ '9' then some (c.toNat - '0'.toNat)
  else if base = 16 ∧ 'a' ≤ c.toLower ∧ c.toLower ≤ 'f' then some (c.toLower.toNat - 'a'.toNat + 10)
  else none

/-- How many leading characters of `s` agree with `word`, ignoring ASCII case. -/
def commonPrefixNoCase : List Char → List Char → Nat
  | c :: s, w :: ws => if c.toLower = w then commonPrefixNoCase s ws + 1 else 0
  | _, _ => 0

/-- The infinities and the not-a-number, spelled out. -/
def readSpecial (s : List Char) : Option Double :=
  let (neg, signed, rest) := match s with
    | '+' :: r => (false, true, r)
    | '-' :: r => (true, true, r)
    | r => (false, false, r)
  let n := commonPrefixNoCase rest "infinity".toList
  let n := if 3 < n ∧ n < 8 then 3 else n
  if (n = 3 ∨ n = 8) ∧ rest.length = n then some (if neg then negInf else inf)
  else if !signed ∧ commonPrefixNoCase rest "nan".toList = 3 ∧ rest.length = 3 then some nan
  else none

/-- Underscores are only allowed between digits, or between a base prefix and a digit. -/
def underscoresOk (s : List Char) : Bool :=
  let s := match s with
    | '+' :: r | '-' :: r => r
    | r => r
  let (hex, saw, body) : Bool × Char × List Char := match s with
    | '0' :: c :: r =>
      if c.toLower = 'b' ∨ c.toLower = 'o' ∨ c.toLower = 'x' then (c.toLower = 'x', '0', r)
      else (false, '^', s)
    | _ => (false, '^', s)
  let step (saw : Char) (c : Char) : Option Char :=
    if ('0' ≤ c ∧ c ≤ '9') ∨ (hex = true ∧ 'a' ≤ c.toLower ∧ c.toLower ≤ 'f') then some '0'
    else if c = '_' then (if saw = '0' then some '_' else none)
    else if saw = '_' then none
    else some '!'
  match body.foldlM step saw with
  | some last => last ≠ '_'
  | none => false

/-- The parts of a number literal: significant digits, their count, the place of the point
counted in digits, and an exponent in the literal's own base of exponents. -/
structure Literal where
  neg : Bool
  hex : Bool
  mant : Nat
  count : Nat
  point : Int
  exp : Int
  underscores : Bool
deriving Repr

/-- Reads the mantissa digits and point; returns the literal, whether a point and a digit
were seen, and the rest of the text. -/
def readMantissa (base : Nat) : List Char → Literal → Bool → Bool → Literal × Bool × Bool × List Char
  | [], lit, sawDot, sawDigits => (lit, sawDot, sawDigits, [])
  | c :: r, lit, sawDot, sawDigits =>
    if c = '_' then readMantissa base r { lit with underscores := true } sawDot sawDigits
    else if c = '.' then
      if sawDot then (lit, sawDot, sawDigits, c :: r)
      else readMantissa base r { lit with point := lit.count } true sawDigits
    else match digitValue base c with
      | some v =>
        -- leading zeros only move the point
        if v = 0 ∧ lit.count = 0 then readMantissa base r { lit with point := lit.point - 1 } sawDot true
        else readMantissa base r { lit with mant := lit.mant * base + v, count := lit.count + 1 }
          sawDot true
      | none => (lit, sawDot, sawDigits, c :: r)

/-- Reads exponent digits (and underscores), saturating at 10000. -/
def readExpDigits : List Char → Nat → Bool → Nat × Bool × List Char
  | [], e, u => (e, u, [])
  | c :: r, e, u =>
    if c = '_' then readExpDigits r e true
    else if '0' ≤ c ∧ c ≤ '9' then
      readExpDigits r (if e < 10000 then e * 10 + (c.toNat - '0'.toNat) else e) u
    else (e, u, c :: r)

/-- The literal of a whole text, if the text is one. -/
def readLiteral (s : List Char) : Option Literal := do
  let (neg, body) := match s with
    | '+' :: r => (false, r)
    | '-' :: r => (true, r)
    | r => (false, r)
  let (hex, digits) := match body with
    | '0' :: x :: c :: r => if x.toLower = 'x' then (true, c :: r) else (false, body)
    | _ => (false, body)
  let base := if hex then 16 else 10
  let start : Literal := ⟨neg, hex, 0, 0, 0, 0, false⟩
  let (lit, sawDot, sawDigits, rest) := readMantissa base digits start false false
  guard sawDigits
  let lit := if sawDot then lit else { lit with point := lit.count }
  let expChar := if hex then 'p' else 'e'
  let (lit, rest) ← match rest with
    | c :: r =>
      if c.toLower = expChar then
        let (eneg, r) := match r with
          | '+' :: r' => (false, r')
          | '-' :: r' => (true, r')
          | r' => (false, r')
        match r with
        | d :: _ =>
          if '0' ≤ d ∧ d ≤ '9' then
            let (e, u, r) := readExpDigits r 0 false
            let x : Int := if eneg then -(e : Int) else e
            let lit := { lit with exp := x }
            some ({ lit with underscores := lit.underscores || u }, r)
          else none
        | [] => none
      else if hex then none else some (lit, c :: r)
    | [] => if hex then none else some (lit, [])
  guard rest.isEmpty
  guard (!lit.underscores || underscoresOk s)
  pure lit

/-- The exact value of a literal: its sign, numerator and denominator. -/
def Literal.toRat (lit : Literal) : Bool × Nat × Nat :=
  if lit.hex then
    -- `mant · 16^(point - count) · 2^exp`
    let e : Int := 4 * (lit.point - lit.count) + lit.exp
    if e ≥ 0 then (lit.neg, lit.mant * Nat.pow 2 e.toNat, 1) else (lit.neg, lit.mant, Nat.pow 2 (-e).toNat)
  else
    let e : Int := lit.point - lit.count + lit.exp
    if e ≥ 0 then (lit.neg, lit.mant * Nat.pow 10 e.toNat, 1) else (lit.neg, lit.mant, Nat.pow 10 (-e).toNat)

/-- The exact value of a literal rounded to a double. -/
def Literal.toDouble (lit : Literal) : Double :=
  let (neg, num, den) := lit.toRat
  ofRat neg num den

/-- The exact value of a literal rounded to single precision. -/
def Literal.toSingle (lit : Literal) : Double :=
  let (neg, num, den) := lit.toRat
  ofRatSingle neg num den

/-- Reads a whole text as a double, or with `single` in single precision. -/
def readIn (single : Bool) (s : String) : Except ReadError Double :=
  let cs := s.toList
  match readSpecial cs with
  | some x => .ok x
  | none =>
    match readLiteral cs with
    | none => .error .invalid
    | some lit =>
      let x := if single then lit.toSingle else lit.toDouble
      if x.isInf then .error (.range x) else .ok x

/-- Reads a whole text as a double. -/
def read (s : String) : Except ReadError Double := readIn false s

end Double

end Timebox
