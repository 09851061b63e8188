import Timebox.Call.Act
import Timebox.Run.Outcome

/-! # The handoff between a caller and its worker

One run of a work under a deadline has two parties. The worker runs the work, records how
it ended, cancels its context and then tries to claim the result for the caller; the caller
waits for the worker or for its timer, and when the timer fires first it counts the call as
abandoned and tries to claim the call for itself. Both claims are a compare-and-swap on one
cell (`Phase`): from `running` to `finished` for the worker, to `abandoned` for the caller.
Exactly one of them succeeds.

* If the worker's claim succeeds, it closes `done`; the caller, woken by `done` (directly or
  after finding its own claim lost and reverting its count), settles the outcome from what
  the worker recorded: `completed` or `failed` when the work ended before the deadline,
  else `timedOut`.
* If the caller's claim succeeds, the caller cancels the context and gives up with
  `timedOut` without reading the record; the worker, when the work ends, finds its claim
  lost and reports the late end (`abandonedDone`) and uncounts the call.

Each party is a sequence of small steps, each enabled in one place of its program and
giving the effects it has outside the call (`Effect`): counting and uncounting the call in
the executor's wait group, moving the abandoned gauge, calling the work's cancel function
(which cancels its context only on an executor that cancels on timeout, `workCancelled`),
giving up (a warning, a metric and an event), settling (a metric), and reporting a late end
(a debug entry, a metric and an event). A step that is not enabled gives none.

The caller's first step is a select on `done` and the timer: once the timer has fired it
may take the timer's branch even when `done` is closed too. `Call.interleave` runs any
interleaving of the two parties' steps (`Turn`); the executor runs one of them.
-/

namespace Timebox

namespace Handoff

/-- The cell both parties claim. -/
inductive Phase where
  | running
  | finished
  | abandoned
deriving DecidableEq, Repr

/-- What the worker recorded when the work ended: its value, its error and the time. -/
structure Record where
  value : Value
  err : Option Fault
  finishedAt : Int

/-- Where the caller is. -/
inductive CallerAt where
  /-- Waiting for `done` or the timer. -/
  | waiting
  /-- The timer fired; the call is counted as abandoned. -/
  | counted
  /-- The abandoned gauge is raised. -/
  | marked
  /-- The caller's claim succeeded. -/
  | claimed
  /-- The caller's claim failed. -/
  | lost
  /-- The count is reverted. -/
  | uncounted
  /-- The gauge is reverted; waiting for `done`. -/
  | awaiting
  /-- `done` is closed; the record can be read. -/
  | settling
  /-- Returned the outcome. -/
  | returned (o : Outcome)

/-- Where the worker is. -/
inductive WorkerAt where
  | working
  | recorded
  | cancelled
  /-- The worker's claim failed: reporting the late end. -/
  | reporting
  /-- The late end is reported; the call is about to be uncounted. -/
  | reported
  | closing
  | exited
deriving DecidableEq, Repr

/-- An effect of a step outside the call. -/
inductive Effect where
  | count
  | uncount
  | gaugeUp
  | gaugeDown
  | cancel
  /-- The caller gave up at a time: a warning, a `timed_out` outcome metric, an event. -/
  | giveUp (now : Int)
  /-- The caller settled an outcome before the deadline: an outcome metric. -/
  | settle (o : Outcome)
  /-- The worker ended after the caller gave up: a debug entry, a metric, an event. -/
  | lateEnd (err : Option Fault)

/-- Whether an effect calls the work's cancel function. -/
def Effect.isCancel : Effect → Bool
  | .cancel => true
  | _ => false

/-- Whether the work's context is cancelled once these effects have happened. An executor
that does not cancel on timeout hands the work the caller's context itself, and its cancel
function does nothing; one that does hands it a child of the caller's context, cancelled by
the first call of its cancel function. -/
def workCancelled (cancelOnTimeout : Bool) (es : List Effect) : Bool :=
  cancelOnTimeout && es.any Effect.isCancel

/-- One call: what is fixed when it starts, the cell, the record and both parties. -/
structure Call where
  ty : Ty
  start : Int
  deadline : Int
  phase : Phase
  record : Option Record
  doneClosed : Bool
  caller : CallerAt
  worker : WorkerAt

/-- A call just started. -/
def Call.begin (ty : Ty) (start deadline : Int) : Call :=
  ⟨ty, start, deadline, .running, none, false, .waiting, .working⟩

/-- The outcome the caller settles from the record: before the deadline, the value or the
error; from the deadline on, timed out. -/
def settleOutcome (c : Call) (now : Int) : Outcome × Effect :=
  match c.record with
  | some r =>
    if r.finishedAt - c.start ≥ c.deadline then
      (Outcome.timedOut c.ty ⟨now - c.start⟩, .giveUp now)
    else
      let o := match r.err with
        | some e => Outcome.failed c.ty e ⟨now - c.start⟩
        | none => Outcome.completed c.ty r.value ⟨now - c.start⟩
      (o, .settle o)
  | none => (Outcome.timedOut c.ty ⟨now - c.start⟩, .giveUp now)

namespace Call

/-- The caller's steps at time `now`. `byTimer` tells whether the caller's select takes the
timer's branch: the timer has fired, and when `done` is closed as well the select may take
either branch. Without it the caller waits until `done` is closed. -/
def callerStep (c : Call) (byTimer : Bool) (now : Int) : Option (Call × List Effect) :=
  match c.caller with
  | .waiting =>
    if byTimer then some ({ c with caller := .counted }, [.count])
    else if c.doneClosed then some ({ c with caller := .settling }, [])
    else none
  | .counted => some ({ c with caller := .marked }, [.gaugeUp])
  | .marked =>
    if c.phase = .running then some ({ c with phase := .abandoned, caller := .claimed }, [])
    else some ({ c with caller := .lost }, [])
  | .claimed =>
    some ({ c with caller := .returned (Outcome.timedOut c.ty ⟨now - c.start⟩) },
      [.cancel, .giveUp now])
  | .lost => some ({ c with caller := .uncounted }, [.uncount])
  | .uncounted => some ({ c with caller := .awaiting }, [.gaugeDown])
  | .awaiting => if c.doneClosed then some ({ c with caller := .settling }, []) else none
  | .settling =>
    let (o, e) := settleOutcome c now
    some ({ c with caller := .returned o }, [e])
  | .returned _ => none

/-- The error the worker records for how the work ended: a panic becomes a panic error, an
exit without returning the `work exited` sentinel. -/
def endingRecord (ty : Ty) (now : Int) : Ending (Value × Option Fault) → Record
  | .returned (v, e) => ⟨v, e, now⟩
  | .panicked p => ⟨Value.zero ty, some (.panicked (Act.recovered p)), now⟩
  | .exited => ⟨Value.zero ty, some (.withStack (.sentinel .workExited)), now⟩

/-- The worker's steps. `ending` is how the work ends, needed only by the first step. -/
def workerStep (c : Call) (ending : Ending (Value × Option Fault)) (now : Int) :
    Option (Call × List Effect) :=
  match c.worker with
  | .working => some ({ c with record := some (endingRecord c.ty now ending), worker := .recorded }, [])
  | .recorded => some ({ c with worker := .cancelled }, [.cancel])
  | .cancelled =>
    if c.phase = .running then some ({ c with phase := .finished, worker := .closing }, [])
    else some ({ c with worker := .reporting }, [])
  | .reporting =>
    some ({ c with worker := .reported }, [.lateEnd ((c.record.map (·.err)).getD none)])
  | .reported => some ({ c with worker := .closing }, [.uncount])
  | .closing => some ({ c with doneClosed := true, worker := .exited }, [])
  | .exited => none

/-- The outcome the caller returned, if it has. -/
def returned? (c : Call) : Option Outcome :=
  match c.caller with
  | .returned o => some o
  | _ => none

end Call

/-- A turn of an interleaving of the two parties: a step of the caller, its select taking
the timer's branch when `byTimer`, or a step of the worker; each at a time. -/
inductive Turn where
  | caller (byTimer : Bool) (now : Int)
  | worker (now : Int)

namespace Call

/-- One turn, for a work that ends as `ending`; a party that cannot move lets its turn
pass. -/
def turn (ending : Ending (Value × Option Fault)) (c : Call) : Turn → Call × List Effect
  | .caller byTimer now => (c.callerStep byTimer now).getD (c, [])
  | .worker now => (c.workerStep ending now).getD (c, [])

/-- The call after an interleaving of turns, and the effects of their steps in order. -/
def interleave (ending : Ending (Value × Option Fault)) : Call → List Turn → Call × List Effect
  | c, [] => (c, [])
  | c, t :: ts =>
    let (c1, es1) := c.turn ending t
    let (c2, es2) := interleave ending c1 ts
    (c2, es1 ++ es2)

end Call

/-- Runs a party's steps while they are enabled, collecting their effects; `fuel` bounds the
steps. -/
def runWhile (step : Call → Option (Call × List Effect)) : Nat → Call → Call × List Effect
  | 0, c => (c, [])
  | fuel + 1, c =>
    match step c with
    | none => (c, [])
    | some (c1, es) =>
      let (c2, more) := runWhile step fuel c1
      (c2, es ++ more)

/-- The worker's steps all at once, as the work ends at `now`. -/
def workerRun (c : Call) (ending : Ending (Value × Option Fault)) (now : Int) : Call × List Effect :=
  runWhile (fun c => c.workerStep ending now) 8 c

/-- The caller's steps all at once at `now`, its select taking the timer's branch when
`byTimer`. -/
def callerRun (c : Call) (byTimer : Bool) (now : Int) : Call × List Effect :=
  runWhile (fun c => c.callerStep byTimer now) 10 c

end Handoff

end Timebox
