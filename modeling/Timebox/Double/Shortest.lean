import Timebox.Double.Basic

/-! # The shortest decimal that reads back

A positive finite double `m · 2^q` stands for every real that rounds to it: the interval from
halfway to its lower neighbour to halfway to its upper neighbour, with both ends included
when `m` is even (a tie reads back to the even mantissa). Below a power of two the lower
neighbour is twice as close.

`shortest` tries 1, 2, … 17 significant digits. On the grid of `p` digits the only
candidates are the value's two neighbours: if any grid point lies in the interval, the
neighbour on that side does too. The first grid with a hit wins; of two hits the nearer is
taken, and an exact tie goes to the even digit string. Seventeen digits always hit.

All comparisons are exact: a number `a · 2^i · 10^j` is the fraction `Scaled.frac a i j` of
two naturals.
-/

namespace Timebox

/-- A decimal number `digits · 10^exp`. -/
structure Decimal where
  digits : Nat
  exp : Int
deriving DecidableEq, Repr, Inhabited

namespace Decimal

/-- `a · 2^i · 10^j` as a numerator and a denominator. -/
def frac (a : Nat) (i j : Int) : Nat × Nat :=
  (a * Nat.pow 2 i.toNat * Nat.pow 10 j.toNat, Nat.pow 2 (-i).toNat * Nat.pow 10 (-j).toNat)

/-- The order of two fractions of naturals with positive denominators. -/
def fracCompare (x y : Nat × Nat) : Ordering := compare (x.1 * y.2) (y.1 * x.2)

/-- `⌊log₁₀ (m · 2^q)⌋` for positive `m`: an estimate from the binary length, then corrected
against the exact powers of ten. -/
def log10Floor (m : Nat) (q : Int) : Int :=
  let l2 : Int := (Nat.log2 m : Int) + q
  let est := l2 * 78913 / 262144
  let v := frac m q 0
  let est := if fracCompare (frac 1 0 est) v == .gt then est - 1 else est
  if fracCompare (frac 1 0 (est + 1)) v != .gt then est + 1 else est

/-- The number of decimal digits of a natural, at least one. -/
def numDigits (n : Nat) : Nat := (Nat.toDigits 10 n).length

/-- Drops trailing zero digits into the exponent. -/
def normalize (d : Decimal) : Decimal :=
  go (numDigits d.digits) d
where
  go : Nat → Decimal → Decimal
  | 0, d => d
  | k + 1, d =>
    if d.digits ≠ 0 ∧ d.digits % 10 = 0 then go k ⟨d.digits / 10, d.exp + 1⟩ else d

/-- The shortest decimal in the reading interval of the positive double `m · 2^q`, with
`boundary` true when the lower neighbour is twice as close. -/
def shortestOf (m : Nat) (q : Int) (boundary : Bool) : Decimal :=
  let inclusive := m % 2 = 0
  -- interval ends in units of `2^(q-2)`
  let lo := frac (4 * m - (if boundary then 1 else 2)) (q - 2) 0
  let hi := frac (4 * m + 2) (q - 2) 0
  let v2 := frac (2 * m) q 0
  let inside (d : Nat) (e : Int) : Bool :=
    let x := frac d 0 e
    let a := fracCompare x lo
    let b := fracCompare x hi
    (a == .gt || (a == .eq && inclusive)) && (b == .lt || (b == .eq && inclusive))
  let e10 := log10Floor m q
  let rec search : Nat → Nat → Decimal
    | 0, _ => ⟨m, 0⟩
    | fuel + 1, p =>
      let e := e10 - ((p : Int) - 1)
      let f := frac m q (-e)
      let dlo := f.1 / f.2
      let dhi := dlo + 1
      let okLo := inside dlo e
      let okHi := inside dhi e
      -- `2v` against the sum of the two neighbours decides which is nearer
      let near := fracCompare v2 (frac (dlo + dhi) 0 e)
      if okLo && okHi then
        if near == .lt then ⟨dlo, e⟩
        else if near == .gt then ⟨dhi, e⟩
        else if dlo % 2 = 0 then ⟨dlo, e⟩ else ⟨dhi, e⟩
      else if okLo then ⟨dlo, e⟩
      else if okHi then ⟨dhi, e⟩
      else if fuel = 0 then (if near == .gt then ⟨dhi, e⟩ else ⟨dlo, e⟩)
      else search fuel (p + 1)
  normalize (search 17 1)

end Decimal

namespace Double

/-- The shortest decimal that reads back as the magnitude of a finite double; zero is
`0 · 10^0`. -/
def shortestDecimal (m : Nat) (q : Int) : Decimal :=
  if m = 0 then ⟨0, 0⟩
  else Decimal.shortestOf m q (m = Nat.pow 2 52 ∧ q > -1074)

/-- A value `m · 2^q` that single precision holds exactly, rewritten with the significand and
exponent of single precision: 24 significant bits from the exponent `-126` on, the fixed
exponent `-149` below. -/
def singleForm (m : Nat) (q : Int) : Nat × Int :=
  let e := (Nat.log2 m : Int) + q
  let q' := if e ≥ -126 then e - 23 else -149
  if q ≥ q' then (m * Nat.pow 2 (q - q').toNat, q') else (m / Nat.pow 2 (q' - q).toNat, q')

/-- The shortest decimal that reads back to the same single-precision value. -/
def singleDecimal (m : Nat) (q : Int) : Decimal :=
  if m = 0 then ⟨0, 0⟩
  else
    let (m, q) := singleForm m q
    Decimal.shortestOf m q (m = Nat.pow 2 23 ∧ q > -149)

end Double

end Timebox
