import Timebox.Call.Func
import Timebox.Run.Outcome
import Timebox.Run.Frame

/-! # Jobs and binding functions to them

A `Work` is what a job runs: given its context, it ends with a value of the job's result
type and an error or none. A `Job` is a work with a name and the arguments it was given,
both kept only to describe the job when its caller gives up, together with the place it was
made (its caller). A job without work is refused before anything reads that place, so the
place is kept with the work: `Job.make` stamps it there.

`Binding.make ty callee` checks that a function can give an outcome of type `ty`: its results
must be none, one error, one value, or a value and an error, where the value's type is
assignable to `ty`. A function whose first parameter is a context receives the context of
the run there (`withContext`), and its other parameters take the arguments.

`Binding.bind` checks arguments against those parameters and gives the work that calls the
function and keeps the value result (the zero value of `ty` when there is none) and the
error result when it is not nil. `bind ty callee args` does both and names the job after
the function.
-/

namespace Timebox

/-- What a job runs: given its context, a value of the result type and an error or none. -/
structure Work where
  /-- The name of the function the work is, used when a job is given no name. -/
  name : String
  /-- Where the job that runs the work was made. -/
  site : Frame
  run : CallContext → Act (Value × Option Fault)

/-- A job: a name and arguments that describe it, and its work, if any. -/
structure Job where
  name : String
  args : List Value
  work : Option Work

namespace Job

/-- A job made at `site`; with no name, it is named after its work. -/
def make (name : String) (work : Option Work) (args : List Value) (site : Frame) : Job :=
  let name := if name.isEmpty then (work.map (·.name)).getD name else name
  ⟨name, args, work.map fun w => { w with site }⟩

/-- Where the job was made, as `file:line`. -/
def caller (j : Job) : String := ((j.work.map (·.site)).getD Frame.unknown).text

end Job

/-- A function checked to give outcomes of type `ty`, with the places of its value and
error results. -/
structure Binding where
  func : Func
  ty : Ty
  withContext : Bool
  valueIndex : Option Nat
  errorIndex : Option Nat

namespace Binding

/-- The places of the value and error results, or none for results that give no outcome. -/
def resultPlaces : List Ty → Option (Option Nat × Option Nat)
  | [] => some (none, none)
  | [.error] => some (none, some 0)
  | [_] => some (some 0, none)
  | [_, .error] => some (some 0, some 1)
  | _ => none

/-- The binding of a function for outcomes of type `ty`, or why it cannot give them. -/
def make (ty : Ty) (callee : Callee) : Except Fault Binding := do
  let f ← callee.resolve
  match resultPlaces f.outs with
  | none =>
    .error (.wrap (f.name ++ " returns " ++ toString f.outs.length ++ " value(s) of '" ++
      f.type.name ++ "'") (.sentinel .badSignature))
  | some (vi, ei) =>
    match vi.bind (f.outs[·]?) with
    | some t =>
      if t.assignableTo ty then .ok ⟨f, ty, f.acceptsContext, vi, ei⟩
      else .error (.wrap (f.name ++ " returns '" ++ t.name ++ "', not assignable to '" ++
        ty.name ++ "'") (.sentinel .badSignature))
    | none => .ok ⟨f, ty, f.acceptsContext, vi, ei⟩

/-- The outcome parts of a call's results: the value result, else the zero value, and the
error result when it is not nil. -/
def pick (b : Binding) (outs : List Value) : Value × Option Fault :=
  let value := match b.valueIndex.bind (outs[·]?) with
    | some v => v
    | none => Value.zero b.ty
  let err := match b.errorIndex.bind (outs[·]?) with
    | some (.error e) => some e
    | _ => none
  (value, err)

/-- The work that calls the function with checked arguments; a function's body sees the
context apart from its arguments. It is given to no job yet. -/
def work (b : Binding) (values : List Value) : Work :=
  ⟨b.func.name, Frame.unknown, fun ctx => (b.func.body ctx values).map b.pick⟩

/-- Checks arguments for the function and gives its work. -/
def bind (b : Binding) (args : List Value) : Except Failure Work :=
  (b.func.args (if b.withContext then 1 else 0) args).map b.work

end Binding

/-- The job made at `site` that calls a function with arguments, named after the function. -/
def bind (ty : Ty) (callee : Callee) (args : List Value) (site : Frame) : Except Failure Job :=
  match Binding.make ty callee with
  | .error e => .error (.error e)
  | .ok b => (b.bind args).map fun w => Job.make b.func.name (some w) args site

end Timebox
