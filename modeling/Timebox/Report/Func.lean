import Timebox.Report.Session

/-! # Functions, their arguments and bound jobs as JSON documents

* `funcInfo`: a function's name, type, parameter and result types, whether it takes a
  context and whether it is variadic; or why the value is not a function.
* `funcArgs`: the arguments as checked against the parameters from a skip on, each with the
  type it has as a parameter value (the parameter's type for a nil, else its own); with
  `call`, when nothing is skipped and no context is taken, also the results of calling the
  function with them. A failed check is an error answer; a panic, of the check or of the
  call, is a panic answer with the panic's text.
* `bindJob`: the job bound from a function and arguments, its name and arguments; with
  `run`, also the outcome of running it on a fresh executor named `bind` with a deadline of
  five seconds.
-/

namespace Timebox

namespace Report

/-- The answer of a panic that escapes: its value's text. -/
def escapedPanic (v : Value) : Json :=
  .obj [("error", .str "panic"), ("message", .str (Act.recovered v).show)]

/-- What a function is, or why the value is not one. -/
def funcInfo (c : Callee) : Json :=
  match c.resolve with
  | .error e => e.answer
  | .ok f =>
    .obj [("name", .str f.name), ("type", .str f.type.name),
      ("in", .arr (f.ins.map fun t => .str t.name)), ("out", .arr (f.outs.map fun t => .str t.name)),
      ("accept_context", .bool f.acceptsContext), ("variadic", .bool f.variadic)]

/-- Pairs each checked argument with the parameter type at its place. -/
def typedArgs (f : Func) (ps : List Ty) : Nat → List Value → List Json
  | _, [] => []
  | i, v :: vs =>
    let ty := match v.ty? with
      | some _ => v.typeName
      | none => ((Func.paramAt f.variadic ps i).map Ty.name).getD "nil"
    .obj [("type", .str ty), ("value", v.toJson)] :: typedArgs f ps (i + 1) vs

/-- The arguments checked from `skip` on, and with `call` the results of the call. -/
def funcArgs (c : Callee) (skip : Int) (args : List Value) (call : Bool) : Json :=
  match c.resolve with
  | .error e => e.answer
  | .ok f =>
    match f.args skip args with
    | .error (.error e) => e.answer
    | .error (.panic v) => escapedPanic v
    | .ok values =>
      let items := ("values", Json.arr (typedArgs f (f.ins.drop skip.toNat) 0 values))
      if call ∧ skip = 0 ∧ !f.acceptsContext then
        match (f.body CallContext.background values).finish 0 none with
        | some (_, .returned outs) =>
          if outs.any (·.unreadable) then escapedPanic Session.nilDereference
          else .obj [("out", .arr (outs.map Value.toJson)), items]
        | some (_, .panicked v) => escapedPanic v
        | some (_, .exited) => .obj [items]
        | none => .obj [items]
      else .obj [items]

/-- The job bound from a function and arguments; with `run`, also its outcome. -/
def bindJob (ty : Ty) (c : Callee) (args : List Value) (run : Bool) (ctx : Session.ContextKind) : Json :=
  match bind ty c args Frame.unknown with
  | .error (.error e) => e.answer
  | .error (.panic v) => escapedPanic v
  | .ok job =>
    let base := [("name", Json.str job.name), ("args", argsJson job.args)]
    if run then
      let exec := Executor.make "bind" "" false none false true
      let w : World := ⟨0, Metrics.Registry.empty ⟨"", "", []⟩, [], [], exec, Executor.fallback⟩
      let (_, r) := w.run .main ty (ctx.make 0) (some job) (5 * 1000000000)
      match r with
      | .ok o =>
        if o.unreadable then escapedPanic Session.nilDereference
        else .obj (base ++ [("outcome", outcome o)])
      | .error (.error e) => e.answer
      | .error (.panic v) => escapedPanic v
    else .obj base

end Report

end Timebox
