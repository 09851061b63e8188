import Timebox.Sync.WaitGroup
import Timebox.Json.Basic

/-! # Scripted sessions with a wait group

One caller drives a wait group: adding, marking a task done, reading the counter, waiting
with a timeout, and waiting without one. With nothing else running, a bounded wait returns
at once when the counter is zero and otherwise times out, and an unbounded wait on a
positive counter never returns, so a script may only wait when the counter is zero.
-/

namespace Timebox

namespace Session

/-- A step on a wait group. -/
inductive WaitStep where
  | add (delta : Int)
  | done
  | counter
  | waitTimeout (ms : Int)
  | wait

/-- The group after a step: adding and marking a task done change it; reading the counter
and taking the channel to wait on do not. -/
def WaitStep.apply (w : WaitGroup) : WaitStep → WaitGroup
  | .add d => w.add d
  | .done => w.done.1
  | .counter | .waitTimeout _ | .wait => w

/-- The group after the steps, in order. -/
def WaitStep.applyAll (w : WaitGroup) (steps : List WaitStep) : WaitGroup :=
  steps.foldl WaitStep.apply w

/-- The counter after each step and the step's result, if it has one; fails on a wait that
would never return. -/
def waitSteps : WaitGroup → List WaitStep → Except String (List (Int × Option Bool))
  | _, [] => .ok []
  | w, st :: rest =>
    let result : Option Bool := match st with
      | .done => some w.done.2
      | .waitTimeout _ => some (w.released w.waitChannel)
      | _ => none
    let w := WaitStep.apply w st
    match st with
    | .wait => if w.counter > 0 then .error "wait would block"
      else (waitSteps w rest).map ((w.counter, result) :: ·)
    | _ => (waitSteps w rest).map ((w.counter, result) :: ·)

/-- The answer of a wait group script. -/
def waitAnswer (steps : List WaitStep) : Except String Json :=
  (waitSteps WaitGroup.empty steps).map fun rs =>
    .obj [("steps", .arr (rs.map fun (c, r) =>
      .obj ([("counter", .int c)] ++ (r.map fun b => [("result", Json.bool b)]).getD [])))]

end Session

end Timebox
