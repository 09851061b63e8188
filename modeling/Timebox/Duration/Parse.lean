import Timebox.Duration.Basic

/-! # Reading durations in unit form

The unit form is an optional sign and one or more components `digits[.digits]unit`, as in
`1h30m`, `-1.5s` or `300ms`; a bare `0` is zero. The units are `ns`, `us` (also written with
the micro sign or the Greek mu), `ms`, `s`, `m` and `h`.

* Whole parts are exact; a whole part beyond `2^63` is refused.
* A fraction is scaled in double arithmetic: its digits as an integer, times the unit divided
  by the power of ten, truncated. So `1.9ns` is `1ns` and fractions of hours are exact to
  the nanosecond.
* The total must fit the signed 64-bit range; `-2^63` is allowed.

Errors name the whole text, quoted with every non-ASCII or control byte written `\xNN`.
-/

namespace Timebox

namespace Duration

/-- Quotes a text for an error message: `"` and `\` are escaped, and every byte of a
non-ASCII or control character is written as `\xNN`. -/
def quote (s : String) : String :=
  let hex (n : Nat) : Char := "0123456789abcdef".toList.getD n '0'
  let esc (c : Char) : List Char :=
    if c.toNat ≥ 0x80 ∨ c.toNat < 0x20 then
      (String.utf8EncodeChar c).flatMap fun b => ['\\', 'x', hex (b.toNat / 16), hex (b.toNat % 16)]
    else if c = '"' ∨ c = '\\' then ['\\', c]
    else [c]
  "\"" ++ String.ofList (s.toList.flatMap esc) ++ "\""

/-- Why a text is not a duration in unit form. -/
inductive UnitError where
  | invalid
  | missingUnit
  | unknownUnit (unit : String)
deriving DecidableEq, Repr

/-- The message for a text `orig` that failed to read. -/
def UnitError.message (e : UnitError) (orig : String) : String :=
  match e with
  | .invalid => "time: invalid duration " ++ quote orig
  | .missingUnit => "time: missing unit in duration " ++ quote orig
  | .unknownUnit u => "time: unknown unit " ++ quote u ++ " in duration " ++ quote orig

/-- Nanoseconds per unit. -/
def unitValue : String → Option Nat
  | "ns" => some 1
  | "us" => some 1000
  | "µs" => some 1000
  | "μs" => some 1000
  | "ms" => some 1000000
  | "s" => some 1000000000
  | "m" => some 60000000000
  | "h" => some 3600000000000
  | _ => none

def isDigit (c : Char) : Bool := '0' ≤ c ∧ c ≤ '9'

/-- Leading decimal digits as a natural, refusing values beyond `2^63`; returns the value,
whether any digit was read, and the rest. -/
def leadingInt : List Char → Nat → Bool → Option (Nat × Bool × List Char)
  | [], x, any => some (x, any, [])
  | c :: r, x, any =>
    if isDigit c then
      if x > Nat.pow 2 63 / 10 then none
      else
        let y := x * 10 + (c.toNat - '0'.toNat)
        if y > Nat.pow 2 63 then none else leadingInt r y true
    else some (x, any, c :: r)

/-- Leading fraction digits: the digits kept as an integer until one more would pass
`2^63`, their count, whether any digit was read, and the rest. -/
def leadingFraction : List Char → Nat → Nat → Bool → Bool → Nat × Nat × Bool × List Char
  | [], x, k, _, any => (x, k, any, [])
  | c :: r, x, k, full, any =>
    if isDigit c then
      if full then leadingFraction r x k true true
      else if x > (Nat.pow 2 63 - 1) / 10 then leadingFraction r x k true true
      else
        let y := x * 10 + (c.toNat - '0'.toNat)
        if y > Nat.pow 2 63 then leadingFraction r x k true true
        else leadingFraction r y (k + 1) false true
    else (x, k, any, c :: r)

/-- The nanoseconds of a fraction `f / 10^k` of a unit, computed in double arithmetic and
truncated. -/
def fractionNs (f k unit : Nat) : Nat :=
  let x := (Double.ofInt f).mul ((Double.ofInt unit).div (Double.ofInt (Int.pow 10 k)))
  (x.truncate?.getD 0).toNat

/-- Reads the components after the sign, adding up to `total`. -/
def components : Nat → List Char → Nat → Except UnitError Nat
  | 0, _, total => .ok total
  | _ + 1, [], total => .ok total
  | fuel + 1, c :: r, total => do
    if !(c = '.' ∨ isDigit c) then throw .invalid
    let (v, pre, rest) ← match leadingInt (c :: r) 0 false with
      | some x => pure x
      | none => throw .invalid
    let (f, k, post, rest) := match rest with
      | '.' :: r' => leadingFraction r' 0 0 false false
      | r' => (0, 0, false, r')
    if !pre ∧ !post then throw .invalid
    let unitChars := rest.takeWhile fun c => !(c = '.' ∨ isDigit c)
    let rest := rest.drop unitChars.length
    if unitChars.isEmpty then throw .missingUnit
    let u := String.ofList unitChars
    let unit ← match unitValue u with
      | some n => pure n
      | none => throw (.unknownUnit u)
    if v > Nat.pow 2 63 / unit then throw .invalid
    let v := v * unit
    let v := if f > 0 then v + fractionNs f k unit else v
    if v > Nat.pow 2 63 then throw .invalid
    let total := total + v
    if total > Nat.pow 2 63 then throw .invalid
    components fuel rest total

/-- Reads a duration in unit form. -/
def parseUnits (s : String) : Except UnitError Duration := do
  let cs := s.toList
  let (neg, cs) := match cs with
    | '-' :: r => (true, r)
    | '+' :: r => (false, r)
    | r => (false, r)
  if cs = ['0'] then return ⟨0⟩
  if cs.isEmpty then throw .invalid
  let total ← components (cs.length + 1) cs 0
  if neg then return ⟨-(total : Int)⟩
  if total > Nat.pow 2 63 - 1 then throw .invalid
  return ⟨total⟩

end Duration

end Timebox
