import Timebox.Double.Basic

/-! # Durations

A `Duration` is a signed count of nanoseconds in the 64-bit range. Its text (`toString`) is
the compact unit form:

* under a second the largest unit below it is used, with a fraction: `1.5µs`, `2ms`, `673ns`;
  zero is `0s`;
* from a second on: hours, minutes and seconds with a nine-digit fraction, leading zero
  units dropped, `1h0m0s`, `2m3.456789012s`;
* fractions never end in a zero digit, and a zero fraction has no point.

`seconds` is the value in seconds as a double: the whole seconds plus the nanosecond rest
divided by `1e9`, each step rounded as double arithmetic rounds.
-/

namespace Timebox

/-- A signed number of nanoseconds, kept in the signed 64-bit range. -/
structure Duration where
  ns : Int
deriving DecidableEq, Repr, Inhabited

namespace Duration

def nanosecond : Int := 1
def microsecond : Int := 1000
def millisecond : Int := 1000000
def second : Int := 1000000000
def minute : Int := 60 * second
def hour : Int := 60 * minute

/-- The largest and smallest durations. -/
def maxNs : Int := Int.pow 2 63 - 1
def minNs : Int := -Int.pow 2 63

/-- A count of nanoseconds reduced to the 64-bit range by wrapping around. -/
def wrap (i : Int) : Duration :=
  let r := i % Int.pow 2 64
  ⟨if r ≥ Int.pow 2 63 then r - Int.pow 2 64 else r⟩

/-- The decimal digits of a natural. -/
def digitText (n : Nat) : String := String.ofList (Nat.toDigits 10 n)

/-- `n` written as a quotient by `10^places` with the fraction's trailing zeros dropped, and
no point when the fraction is zero. -/
def fracText (n places : Nat) : String :=
  let q := n / Nat.pow 10 places
  let r := n % Nat.pow 10 places
  if r = 0 then digitText q
  else
    let ds := Nat.toDigits 10 r
    let ds := List.replicate (places - ds.length) '0' ++ ds
    let ds := (ds.reverse.dropWhile (· = '0')).reverse
    digitText q ++ "." ++ String.ofList ds

/-- The text of a magnitude in nanoseconds. -/
def magnitudeText (u : Nat) : String :=
  if u = 0 then "0s"
  else if u < 1000 then digitText u ++ "ns"
  else if u < 1000000 then fracText u 3 ++ "µs"
  else if u < 1000000000 then fracText u 6 ++ "ms"
  else
    let secs := u / 1000000000
    let sText := fracText (secs % 60 * 1000000000 + u % 1000000000) 9 ++ "s"
    let mins := secs / 60
    if mins = 0 then sText
    else
      let mText := digitText (mins % 60) ++ "m" ++ sText
      let hours := mins / 60
      if hours = 0 then mText else digitText hours ++ "h" ++ mText

/-- The compact unit text: `1h2m3.5s`, `1.5µs`, `-250ms`, `0s`. -/
def toString (d : Duration) : String :=
  (if d.ns < 0 then "-" else "") ++ magnitudeText d.ns.natAbs

instance : ToString Duration := ⟨toString⟩

/-- The duration in seconds: the whole seconds and the rest, each converted and added as
doubles. -/
def seconds (d : Duration) : Double :=
  let secs := d.ns.tdiv second
  let rest := d.ns.tmod second
  (Double.ofInt secs).add ((Double.ofInt rest).div (Double.ofInt second))

@[simp] theorem toString_zero : toString ⟨0⟩ = "0s" := rfl

end Duration

end Timebox
