import Timebox.Duration.Parse
import Timebox.Double.Read
import Timebox.Double.Text
import Timebox.Text.Space

/-! # Durations as seconds

The settings and the command line give durations either as a number of seconds (`2.5`) or in
unit form (`300ms`). This module reads both and writes the clock form.

* `ofSeconds` turns a number of seconds into nanoseconds: the product with `1e9` rounded as
  a double, then to an integer with a half away from zero, clamped to the 64-bit range.
* `read` trims white space; an empty text is refused; a text that is a number literal is
  seconds, where infinities and not-a-number are refused and so is a value whose nanoseconds
  leave the 64-bit range; any other text is read in unit form.
* `clockText` writes `hh:mm:ss`, or `hh:mm:ss.fff` when the seconds have a fraction of at
  least a millisecond. Hours and minutes are truncated quotients and the seconds are the
  double difference, so negative durations give texts such as `00:00:-1`.
-/

namespace Timebox

namespace Duration

/-- `2^63` as a double. -/
def twoPow63 : Double := Double.ofInt (Int.pow 2 63)

/-- A number of seconds as a duration, clamped to the 64-bit range. -/
def ofSeconds (f : Double) : Duration :=
  let ns := (f.mul (Double.ofInt second)).round
  if twoPow63.le ns then ⟨maxNs⟩
  else if ns.lt twoPow63.neg then ⟨minNs⟩
  else ⟨ns.toInt64Trunc⟩

/-- The largest duration in whole seconds, as the out-of-range message gives it. -/
def maxSecondsText : String := (Duration.mk maxNs).seconds.toFixed 0

/-- Why a text is not a duration. -/
inductive ReadError where
  | empty
  | notFinite (text : String)
  | outOfRange (text : String)
  | badUnits (text : String) (cause : UnitError)
deriving DecidableEq, Repr

def ReadError.message : ReadError → String
  | .empty => "empty duration"
  | .notFinite s => "invalid duration \"" ++ s ++ "\""
  | .outOfRange s =>
    "duration \"" ++ s ++ "\" out of range, the maximum is " ++ maxSecondsText ++ " seconds"
  | .badUnits s e => "invalid duration \"" ++ s ++ "\": " ++ e.message s

/-- Reads seconds or the unit form, after trimming white space. -/
def read (text : String) : Except ReadError Duration :=
  let s := Text.trimSpace text
  if s.isEmpty then .error .empty
  else match Double.read s with
    | .ok f =>
      if f.isNaN ∨ f.isInf then .error (.notFinite s)
      else
        let ns := (f.mul (Double.ofInt second)).round
        if twoPow63.le ns ∨ ns.lt twoPow63.neg then .error (.outOfRange s)
        else .ok (ofSeconds f)
    | .error _ =>
      match parseUnits s with
      | .ok d => .ok d
      | .error e => .error (.badUnits s e)

/-- An integer with a sign, its digits padded with zeros to a total width. -/
def zeroPadded (i : Int) (width : Nat) : String :=
  let ds := Nat.toDigits 10 i.natAbs
  let sign := if i < 0 then ['-'] else []
  String.ofList (sign ++ List.replicate (width - sign.length - ds.length) '0' ++ ds)

/-- A text with zeros put after its sign until it has a total width. -/
def zeroPadText (s : String) (width : Nat) : String :=
  let cs := s.toList
  let (sign, body) := match cs with
    | '-' :: r => (['-'], r)
    | r => ([], r)
  String.ofList (sign ++ List.replicate (width - cs.length) '0' ++ body)

/-- `hh:mm:ss`, or `hh:mm:ss.fff` when the fraction of the seconds is at least `0.001`. -/
def clockText (d : Duration) : String :=
  let h := d.ns.tdiv hour
  let m := d.ns.tdiv minute - h * 60
  let s := d.seconds.sub (Double.ofInt (h * 3600 + m * 60))
  let whole := s.toInt64Trunc
  let fraction := s.sub (Double.ofInt whole)
  if fraction.lt (Double.ofRat false 1 1000) then
    zeroPadded h 2 ++ ":" ++ zeroPadded m 2 ++ ":" ++ zeroPadded whole 2
  else
    zeroPadded h 2 ++ ":" ++ zeroPadded m 2 ++ ":" ++ zeroPadText (s.toFixed 3) 6

end Duration

end Timebox
