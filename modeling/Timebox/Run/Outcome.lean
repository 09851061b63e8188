import Timebox.Format.Value

/-! # Outcomes of a run

A run under a deadline ends in one of three states: the work returned before the deadline
with no error (`completed`), it returned or panicked before the deadline with an error
(`failed`), or the caller stopped waiting (`timedOut`). An `Outcome` holds the state, the
value, the error and how long the caller waited. The empty outcome, which a refused run
returns, has no state.

* `Outcome.result` is the value and error pair: the value when completed; the zero value of
  the result type and the work's error when failed; the zero value and a wrapped `timed out`
  sentinel naming the wait when timed out; an `empty outcome` error for the empty outcome.
* `Outcome.text` is `completed`, `failed: ` and the error's message, `timed out after ` and
  the wait, or `unknown`.
-/

namespace Timebox

/-- How a run ended. -/
inductive State where
  | completed
  | failed
  | timedOut
deriving DecidableEq, Repr, Inhabited

namespace State

def name : State → String
  | .completed => "completed"
  | .failed => "failed"
  | .timedOut => "timed_out"

/-- States by their number: `1`, `2` and `3`. -/
def ofInt? : Int → Option State
  | 1 => some .completed
  | 2 => some .failed
  | 3 => some .timedOut
  | _ => none

/-- The name of a state, `unknown` for a number that names none. -/
def nameOf (n : Int) : String := ((ofInt? n).map name).getD "unknown"

end State

/-- The result of one run: the state (none for the empty outcome), the value, the error and
the wait, for a result type `ty`. -/
structure Outcome where
  ty : Ty
  state : Option State
  value : Value
  err : Option Fault
  elapsed : Duration
deriving Inhabited

namespace Outcome

/-- The empty outcome. -/
def empty (ty : Ty) : Outcome := ⟨ty, none, Value.zero ty, none, ⟨0⟩⟩

/-- Whether reporting the outcome reads the message of an error that has none. -/
def unreadable (o : Outcome) : Bool := o.value.unreadable || o.err.any (·.unreadable)

def completed (ty : Ty) (v : Value) (elapsed : Duration) : Outcome :=
  ⟨ty, some .completed, v, none, elapsed⟩

def failed (ty : Ty) (e : Fault) (elapsed : Duration) : Outcome :=
  ⟨ty, some .failed, Value.zero ty, some e, elapsed⟩

def timedOut (ty : Ty) (elapsed : Duration) : Outcome :=
  ⟨ty, some .timedOut, Value.zero ty, none, elapsed⟩

def isCompleted (o : Outcome) : Bool := o.state = some .completed
def isFailed (o : Outcome) : Bool := o.state = some .failed
def isTimedOut (o : Outcome) : Bool := o.state = some .timedOut

/-- The name of the state, `unknown` for the empty outcome. -/
def stateName (o : Outcome) : String := (o.state.map State.name).getD "unknown"

/-- The value and error pair, the wait written as `elapsedText`. -/
def resultWith (o : Outcome) (elapsedText : String) : Value × Option Fault :=
  match o.state with
  | some .completed => (o.value, none)
  | some .failed => (Value.zero o.ty, o.err)
  | some .timedOut =>
    (Value.zero o.ty, some (.wrap ("gave up after " ++ elapsedText) (.sentinel .timedOut)))
  | none => (Value.zero o.ty, some (.fundamental "empty outcome"))

def result (o : Outcome) : Value × Option Fault := o.resultWith o.elapsed.toString

/-- The text of the outcome, the wait written as `elapsedText`. -/
def textWith (o : Outcome) (elapsedText : String) : String :=
  match o.state, o.err with
  | some .failed, some e => "failed: " ++ e.message
  | some .failed, none => "failed: <nil>"
  | some .timedOut, _ => "timed out after " ++ elapsedText
  | _, _ => o.stateName

def text (o : Outcome) : String := o.textWith o.elapsed.toString

theorem result_timedOut_isSentinel (ty : Ty) (d : Duration) :
    ∃ e, (timedOut ty d).result = (Value.zero ty, some e) ∧ e.isSentinel .timedOut = true :=
  ⟨_, rfl, by simp [Fault.isSentinel]⟩

end Outcome

end Timebox
