import Timebox.Metrics.Executor
import Timebox.Report.Metrics

/-! # Scripted sessions with a registry of metrics

A script registers collectors and changes their series. Each registration of a kind gives
back a collector, kept in a list by the script; a step that changes a series names a
collector by its place in that list. The answer of each step is the place of the collector
given back and whether the same collector was given back before, `ok`, or the message of a
panic; after the script, the registry is gathered.

* `register`: a counter, gauge or histogram family under a name of the registry's space;
* `change`: adds to a counter or gauge, sets a gauge, or observes a value in a histogram;
* `mustRegister`: registers a single counter under a full name, refusing only a conflict;
* `collectors`: registers an executor's collectors and reports one call of each kind.
-/

namespace Timebox

namespace Session

open Metrics

/-- How a step changes a series. -/
inductive Change where
  | inc
  | dec
  | add
  | set
  | observe
deriving DecidableEq

/-- A step of a registry script. -/
inductive RegistryStep where
  | register (kind : Kind) (name help : String) (labels : List String) (bounds : List Double)
  | change (how : Change) (index : Nat) (values : List String) (given : Bool) (value : Double)
  | mustRegister (name help : String)
  | collectors (job outcome : String) (wait : Int)

/-- The answer of a step. -/
inductive RegistryAnswer where
  | collector (index : Nat) (existing : Bool)
  | ok
  | panicked (msg : String)

/-- The series change of a step for a collector of a kind, or none when the kind has no
such change. -/
def seriesChange (how : Change) (kind : Kind) (x : Double) :
    Option (Collector → Series → Except String Series) :=
  match how, kind with
  | .inc, .counter => some fun _ => Series.addCounter (Double.ofInt 1)
  | .inc, .gauge => some fun _ => Series.addGauge (Double.ofInt 1)
  | .dec, .gauge => some fun _ => Series.addGauge (Double.ofInt (-1))
  | .add, .counter => some fun _ => Series.addCounter x
  | .add, .gauge => some fun _ => Series.addGauge x
  | .set, .gauge => some fun _ => Series.set x
  | .observe, .histogram => some fun c => Series.observe c.seriesBounds x
  | _, _ => none

/-- The single counter registered as such, with its one series. -/
def singleCounter (name help : String) : Collector :=
  ⟨.counter, false, ⟨name, help, [], []⟩, [], [⟨[], Double.zero, 0, Double.zero, []⟩]⟩

/-- Runs one registration or change as an answer. -/
def answerOf (op : Registry.Op RegistryAnswer) (r : Registry) : RegistryAnswer × Registry :=
  match op.run r with
  | .ok a r1 => (a, r1)
  | .error e r1 => (.panicked e, r1)

/-- Runs the steps; `given` lists the places of the collectors given back so far. Fails on a
step that names no collector or a change its collector cannot make. -/
def registrySteps : Registry → List Nat → List RegistryStep → Except String (Registry × List RegistryAnswer)
  | r, _, [] => .ok (r, [])
  | r, given, st :: rest =>
    match st with
    | .register kind name help labels bounds =>
      match (Registry.family kind name help labels bounds).run r with
      | .ok i r1 =>
        let a := RegistryAnswer.collector given.length (given.contains i)
        (registrySteps r1 (given ++ [i]) rest).map fun (r2, as) => (r2, a :: as)
      | .error e r1 => (registrySteps r1 given rest).map fun (r2, as) => (r2, .panicked e :: as)
    | .change how index values gv x =>
      match given[index]? with
      | none => .error ("no collector " ++ toString index)
      | some place =>
        match r.collectors[place]? with
        | none => .error ("no collector " ++ toString index)
        | some c =>
          match seriesChange how c.kind x with
          | none => .error ("collector " ++ toString index ++ " cannot make this change")
          | some f =>
            let (a, r1) := answerOf (do Registry.update place gv values f; pure .ok) r
            (registrySteps r1 given rest).map fun (r2, as) => (r2, a :: as)
    | .mustRegister name help =>
      let (a, r1) := answerOf (do let _ ← Registry.obtain (singleCounter name help); pure .ok) r
      (registrySteps r1 given rest).map fun (r2, as) => (r2, a :: as)
    | .collectors job outcome wait =>
      let op : Registry.Op RegistryAnswer := do
        let c ← Collectors.make
        c.observeOutcome job outcome ⟨wait⟩
        c.rejectDeadline
        c.abandon
        c.abandon
        c.revertAbandon
        c.finishAbandoned job
        pure .ok
      let (a, r1) := answerOf op r
      (registrySteps r1 given rest).map fun (r2, as) => (r2, a :: as)

/-- The document of a step's answer. -/
def RegistryAnswer.toJson : RegistryAnswer → Json
  | .collector i existing => .obj [("index", .int i), ("existing", .bool existing)]
  | .ok => .obj [("ok", .bool true)]
  | .panicked msg => .obj [("panic", .str msg)]

/-- The answer of a registry script: the step answers and the gathered families. -/
def registryAnswer (options : Options) (steps : List RegistryStep) : Except String Json :=
  (registrySteps (Registry.empty options) [] steps).map fun (r, as) =>
    .obj [("steps", .arr (as.map RegistryAnswer.toJson)), ("metrics", r.toJson false id)]

end Session

end Timebox
