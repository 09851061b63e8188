import Timebox.Run.Executor

/-! # Scripted sessions with an executor

A session creates one executor and runs a script of steps against it, on one clock:

* `run` runs a job (or no job) under a deadline with a context; `mustRun` is the same but a
  refused run panics with its error;
* `execute` and `mustExecute` run a work on the default executor, with no context;
* `func` runs a work given as a function of no arguments, as job `func`;
* `bindRun` binds a function from the menu to arguments and runs the job;
* `wrap` checks a deadline and a function once, then calls the function through the
  executor with each list of arguments;
* `waitAbandoned` waits for the works the executor gave up on; `abandoned` reads their
  count.

Works are described by `WorkSpec`: an optional sleep, then returning a value and an error,
panicking, exiting, blocking forever, waiting for the context to be done, or reading its
error. A session without an executor (`nilExecutor`) runs jobs on the default executor, and
its steps that read the executor panic on the missing value.
-/

namespace Timebox

namespace Session

/-- How a described work ends after its sleep. -/
inductive WorkKind where
  | returns (value : Value) (err : Option Fault)
  | panics (v : Value)
  | exits
  | blocks
  | awaitsContext
  | readsContext

/-- A described work: a sleep in milliseconds, then its end. -/
structure WorkSpec where
  sleepMs : Int
  kind : WorkKind

/-- A value given for a result of type `ty`: kept when its type is assignable, else the zero
value. -/
def asResult (ty : Ty) (v : Value) : Value :=
  match v.ty? with
  | some t => if t.assignableTo ty then v else Value.zero ty
  | none => Value.zero ty

/-- The steps of a described work with results of type `ty`. -/
def WorkSpec.act (ty : Ty) (w : WorkSpec) : Act (Value × Option Fault) :=
  let body : Act (Value × Option Fault) := match w.kind with
    | .returns v e => .done (asResult ty v, e)
    | .panics v => .panic v
    | .exits => .exit
    | .blocks => .block
    | .awaitsContext => .await (.readErr fun e => .done (Value.zero ty, e))
    | .readsContext => .readErr fun e => .done (Value.zero ty, e)
  if w.sleepMs > 0 then .sleep (w.sleepMs * 1000000) body else body

/-- The name of the function a described work is: a closure, named after the code that
makes it. -/
def closureName : String := "main.work.func1"

/-- The work of a description. -/
def WorkSpec.work (ty : Ty) (w : WorkSpec) : Work := ⟨closureName, Frame.unknown, fun _ => w.act ty⟩

/-- Where a script's steps make their jobs: the script runs outside this library, so the
place is not known here. -/
def scriptSite : Frame := Frame.unknown

/-- The context a step names. -/
inductive ContextKind where
  | nil
  | canceled
  | value
  | background
deriving DecidableEq

/-- The context of a kind, made at time `now`. A nil context runs as the background one. -/
def ContextKind.make (k : ContextKind) (now : Int) : RunContext :=
  match k with
  | .canceled => ⟨[], some now⟩
  | .value => ⟨[("key", "from-ctx")], none⟩
  | .nil | .background => RunContext.background

/-- A step of a script. -/
inductive Step where
  | run (must : Bool) (name : String) (args : List Value) (work : Option WorkSpec) (nilJob : Bool)
      (deadline : Int) (ctx : ContextKind)
  | execute (must : Bool) (work : Option WorkSpec) (deadline : Int)
  | func (work : Option WorkSpec) (deadline : Int)
  | bindRun (fn : Callee) (args : List Value) (deadline : Int) (ctx : ContextKind)
  | wrap (fn : Callee) (deadline : Int) (calls : List (List Value)) (ctx : ContextKind)
  | waitAbandoned (timeoutMs : Int)
  | abandoned

/-- The result of one call through a wrapped function. -/
inductive CallResult where
  | outcome (o : Outcome)
  /-- The arguments were refused: the empty outcome and the error. -/
  | rejected (o : Outcome) (e : Fault)

/-- What a step gives. -/
inductive StepResult where
  /-- An outcome, with the job's name and arguments when the step reports them. -/
  | outcome (o : Outcome) (job : Option String) (args : Option (List Value))
  /-- A run refused with an error. -/
  | refused (e : Fault)
  | panicked (v : Value)
  | workNil
  | bindError (e : Fault)
  | wrapError (e : Fault)
  | calls (results : List CallResult)
  | waited (allFinished : Bool) (abandoned : Int)
  | abandoned (n : Int)

/-- How a session's executor is set up. -/
structure Setup where
  ty : Ty
  name : String
  cancelOnTimeout : Bool
  /-- The namespace and subsystem of a fresh registry, or none for no metrics. -/
  metrics : Option (String × String)
  events : Bool
  nilExecutor : Bool

/-- The panic of reading a missing executor. -/
def nilDereference : Value :=
  .error (.runtime "runtime.Error" "runtime error: invalid memory address or nil pointer dereference")

/-- The step result of a run. -/
def runResult (job : Option String) (args : Option (List Value)) (must : Bool) :
    Except Failure Outcome → StepResult
  | .ok o => .outcome o job args
  | .error (.error e) => if must then .panicked (.error e) else .refused e
  | .error (.panic v) => .panicked v

/-- The executor steps run on. -/
def target (s : Setup) : Which := if s.nilExecutor then .fallback else .main

/-- The calls of a wrapped function, one per argument list. -/
def wrapCalls (s : Setup) (b : Binding) (deadline : Int) (ctx : ContextKind) :
    World → List (List Value) → World × Except Value (List CallResult)
  | w, [] => (w, .ok [])
  | w, args :: rest =>
    match b.bind args with
    | .error (.panic v) => (w, .error v)
    | .error (.error e) =>
      let (w, more) := wrapCalls s b deadline ctx w rest
      (w, more.map (.rejected (Outcome.empty s.ty) e :: ·))
    | .ok work =>
      let job := Job.make b.func.name (some work) args scriptSite
      let (w, r) := w.run (target s) s.ty (ctx.make w.clock) (some job) deadline
      match r with
      | .error (.panic v) => (w, .error v)
      | .error (.error e) =>
        let (w, more) := wrapCalls s b deadline ctx w rest
        (w, more.map (.rejected (Outcome.empty s.ty) e :: ·))
      | .ok o =>
        let (w, more) := wrapCalls s b deadline ctx w rest
        (w, more.map (.outcome o :: ·))

/-- The result of the calls of a wrapped function: their results, or the panic that ended
them. -/
def StepResult.ofCalls : Except Value (List CallResult) → StepResult
  | .ok results => .calls results
  | .error v => .panicked v

/-- Runs one step. -/
def step (s : Setup) (w : World) : Step → World × StepResult
  | .run must name args work nilJob deadline ctx =>
    let job := if nilJob then none else some (Job.make name (work.map (·.work s.ty)) args scriptSite)
    let (w, r) := w.run (target s) s.ty (ctx.make w.clock) job deadline
    (w, runResult (job.map (·.name)) none must r)
  | .execute must work deadline =>
    let job := Job.make "" (work.map (·.work s.ty)) [] scriptSite
    let (w, r) := w.run .fallback s.ty RunContext.background (some job) deadline
    (w, runResult none none must r)
  | .func work deadline =>
    match work with
    | none => (w, .workNil)
    | some spec =>
      let job := Job.make "func" (some (spec.work s.ty)) [] scriptSite
      let (w, r) := w.run (target s) s.ty RunContext.background (some job) deadline
      (w, runResult none none false r)
  | .bindRun callee args deadline ctx =>
    match bind s.ty callee args scriptSite with
    | .error (.error e) => (w, .bindError e)
    | .error (.panic v) => (w, .panicked v)
    | .ok job =>
      let (w, r) := w.run (target s) s.ty (ctx.make w.clock) (some job) deadline
      (w, runResult (some job.name) (some job.args) false r)
  | .wrap callee deadline calls ctx =>
    if deadline ≤ 0 then
      (w, .wrapError (.wrap ("deadline must be positive, got " ++ (Duration.wrap deadline).toString)
        (.sentinel .invalidDeadline)))
    else
      match Binding.make s.ty callee with
      | .error e => (w, .wrapError e)
      | .ok b =>
        let (w, r) := wrapCalls s b deadline ctx w calls
        (w, .ofCalls r)
  | .waitAbandoned ms =>
    if s.nilExecutor then (w, .panicked nilDereference)
    else
      let (w, all) := w.waitAbandoned .main (ms * 1000000)
      (w, .waited all (w.abandoned .main))
  | .abandoned =>
    if s.nilExecutor then (w, .panicked nilDereference)
    else (w, .abandoned (w.abandoned .main))

/-- The result as it is reported: one whose outcome holds an error with no readable
message panics, as reading through a nil pointer does. -/
def StepResult.reportable : StepResult → StepResult
  | r@(.outcome o _ _) => if o.unreadable then .panicked nilDereference else r
  | r@(.calls rs) =>
    if rs.any (fun | .outcome o | .rejected o _ => o.unreadable) then .panicked nilDereference else r
  | r => r

/-- Runs the steps in order. -/
def steps (s : Setup) : World → List Step → World × List StepResult
  | w, [] => (w, [])
  | w, st :: rest =>
    let (w, r) := step s (w.advance w.clock) st
    let (w, more) := steps s w rest
    (w, r.reportable :: more)

/-- The world a session starts in, or the panic of registering the executor's metrics.
`caller` names the code creating the executor, used when it has no name. -/
def start (s : Setup) (caller : String) : Except String World := do
  let (registry, collectors) ← match s.metrics with
    | none => pure (Metrics.Registry.empty ⟨"", "", []⟩, none)
    | some (space, subsystem) =>
      match Metrics.Collectors.make.run (Metrics.Registry.empty ⟨space, subsystem, []⟩) with
      | .ok c r => pure (r, some c)
      | .error e _ => throw e
  let main := Executor.make s.name caller s.cancelOnTimeout collectors s.events true
  pure ⟨0, registry, [], [], main, Executor.fallback⟩

/-- What a whole session gives: its step results and the world at the end. -/
def runAll (s : Setup) (caller : String) (script : List Step) : Except String (World × List StepResult) := do
  let w ← start s caller
  let (w, results) := steps s w script
  pure (w.advance w.clock, results)

end Session

end Timebox
