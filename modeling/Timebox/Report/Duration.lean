import Timebox.Duration.Seconds
import Timebox.Report.Value
import Timebox.Run.Outcome
import Timebox.Run.Frame

/-! # Answers about durations, states and frames

* a number of seconds answers its duration in nanoseconds and in unit form;
* a duration text answers the same and its seconds, or the error that reading it gave: the
  refusals of empty, infinite and out-of-range texts are messages of their own, and a text
  that is no unit form wraps the unit reader's error;
* a duration answers its clock text, a state number its name, a frame its text.
-/

namespace Timebox

namespace Duration

/-- The error value of a failed reading. -/
def ReadError.toFault (e : ReadError) : Fault :=
  match e with
  | .badUnits s cause => .wrap ("invalid duration \"" ++ s ++ "\"") (.plain (cause.message s))
  | _ => .fundamental e.message

/-- The duration in nanoseconds and in unit form. -/
def answer (d : Duration) : Json := .obj [("ns", .int d.ns), ("string", .str d.toString)]

/-- A duration text read: its nanoseconds, unit form and seconds, or the error. -/
def readAnswer (s : String) : Json :=
  match read s with
  | .ok d => .obj [("ns", .int d.ns), ("string", .str d.toString), ("seconds", Json.ofDouble d.seconds)]
  | .error e => e.toFault.answer

/-- The clock text of a duration. -/
def clockAnswer (d : Duration) : Json := .obj [("value", .str d.clockText)]

end Duration

/-- The name of a state number. -/
def State.answer (n : Int) : Json := .obj [("value", .str (State.nameOf n))]

/-- The text of a frame. -/
def Frame.answer (f : Frame) : Json := .obj [("value", .str f.text)]

end Timebox
