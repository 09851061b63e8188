import Timebox.Metrics.Registry
import Timebox.Duration.Basic

/-! # The metrics of an executor

An executor counts its calls in five collectors of a registry:

* `executions_total{job, outcome}`: the calls that gave an outcome;
* `invalid_deadline_total`: the calls refused for their deadline;
* `wait_seconds{outcome}`: how long the callers waited for the outcomes;
* `abandoned_running`: the timed out works still running;
* `abandoned_finished_total{job}`: the timed out works that ended later.

Registering them takes back collectors already registered under these names with the same
help and labels; one of another kind, or with other help or labels, is refused, as for any
caller (`Registry.family`).
-/

namespace Timebox

namespace Metrics

/-- The places of an executor's collectors in its registry. -/
structure Collectors where
  executions : Nat
  invalidDeadline : Nat
  waitSeconds : Nat
  abandonedRunning : Nat
  abandonedFinished : Nat
deriving Repr

namespace Collectors

/-- Registers the collectors, in this order. -/
def make : Registry.Op Collectors := do
  let executions ← Registry.family .counter "executions_total" "Executions by job and outcome."
    ["job", "outcome"] []
  let invalidDeadline ← Registry.family .counter "invalid_deadline_total"
    "Calls rejected because of a non-positive deadline." [] []
  let waitSeconds ← Registry.family .histogram "wait_seconds" "Time the caller waited for an outcome."
    ["outcome"] defaultBounds
  let abandonedRunning ← Registry.family .gauge "abandoned_running"
    "Timed out executions still running in background." [] []
  let abandonedFinished ← Registry.family .counter "abandoned_finished_total"
    "Timed out executions that finished later, result discarded." ["job"] []
  pure ⟨executions, invalidDeadline, waitSeconds, abandonedRunning, abandonedFinished⟩

/-- Adds `x` to the series of a counter or gauge. -/
def bump (i : Nat) (values : List String) (x : Double) : Registry.Op Unit :=
  Registry.update i true values fun c s =>
    if c.kind = .counter then s.addCounter x else s.addGauge x

/-- A call gave an outcome after the caller waited `wait`. -/
def observeOutcome (c : Collectors) (job outcome : String) (wait : Duration) : Registry.Op Unit := do
  bump c.executions [job, outcome] (Double.ofInt 1)
  Registry.update c.waitSeconds true [outcome] fun col s => s.observe col.seriesBounds wait.seconds

/-- A call was refused for its deadline. -/
def rejectDeadline (c : Collectors) : Registry.Op Unit := bump c.invalidDeadline [] (Double.ofInt 1)

/-- A caller gave up waiting for a work that still runs. -/
def abandon (c : Collectors) : Registry.Op Unit := bump c.abandonedRunning [] (Double.ofInt 1)

/-- A caller that gave up found the work ended after all. -/
def revertAbandon (c : Collectors) : Registry.Op Unit := bump c.abandonedRunning [] (Double.ofInt (-1))

/-- A work that was given up on has ended. -/
def finishAbandoned (c : Collectors) (job : String) : Registry.Op Unit := do
  bump c.abandonedRunning [] (Double.ofInt (-1))
  bump c.abandonedFinished [job] (Double.ofInt 1)

end Collectors

end Metrics

end Timebox
