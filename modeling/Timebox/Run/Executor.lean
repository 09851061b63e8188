import Timebox.Run.Handoff
import Timebox.Run.Bind
import Timebox.Metrics.Executor
import Timebox.Log.Entry
import Timebox.Event.Emitter
import Timebox.Sync.WaitGroup

/-! # Executors on a clock

An executor runs each job in a worker of its own and lets the caller wait at most the
deadline. It counts the calls whose caller gave up while the work still runs in a wait
group, so that they can be awaited later, and it reports through its log, its metrics and
its events.

Time is a clock in nanoseconds shared by everything in a `World`: the executor given to
callers (`main`), the default executor that calls without one use (`fallback`), the
registry of metrics, and the log entries and events observed. A run of a job

* is refused when the deadline is not positive (counted in `invalid_deadline_total`), then
  when there is no job or no work;
* otherwise starts the work `spawnNs` after the call, with the caller's context; the work's
  end follows from its steps and from when its context is done (`Act.finish`);
* when the work ends before the deadline, the worker's steps run at that time and the
  caller settles at once (`Handoff.workerRun`, then `Handoff.callerRun`);
* otherwise the timer fires at the deadline and the caller's steps run first: the caller
  gives up and, when the executor cancels on timeout, the work's context is done from then
  on. The work runs on; its worker's steps run when the clock reaches its end, and never
  when it does not end.

`advance` moves the clock, running the late ends of works on the way. `waitAbandoned`
waits until the executor's count drops to zero or the timeout passes.

The tie of a work ending exactly at the deadline goes to the timer, one of the orders in
which the two can happen.
-/

namespace Timebox

/-- The time from a call's start until its work begins: starting a worker takes time, so a
work never ends at the instant of its call, and a deadline of a nanosecond is always
missed. -/
def spawnNs : Int := 1000

/-- The context a caller runs a job with: the values it carries and when it is done. -/
structure RunContext where
  values : List (String × String)
  doneAt : Option Int
deriving Inhabited

/-- The context that carries nothing and is never done. -/
def RunContext.background : RunContext := ⟨[], none⟩

/-- How an executor is configured. -/
structure ExecutorParams where
  name : String
  cancelOnTimeout : Bool
  collectors : Option Metrics.Collectors
  events : Bool
  /-- Whether its log entries are observed. -/
  logged : Bool

/-- A call whose caller gave up while its work runs on: the job, the call, and when and how
the work ends, if it does. -/
structure Pending where
  job : Job
  call : Handoff.Call
  ends : Option (Int × Ending (Value × Option Fault))

/-- An executor: its configuration, its count of abandoned calls and their works. -/
structure Executor where
  params : ExecutorParams
  group : WaitGroup
  pending : List Pending

/-- A new executor. An empty name is replaced by `caller`, the name of the code creating it. -/
def Executor.make (name caller : String) (cancelOnTimeout : Bool)
    (collectors : Option Metrics.Collectors) (events logged : Bool) : Executor :=
  ⟨⟨if name.isEmpty then caller else name, cancelOnTimeout, collectors, events, logged⟩,
    WaitGroup.empty, []⟩

/-- The default executor. -/
def Executor.fallback : Executor := Executor.make "default" "" false none false false

/-- Which executor of a world. -/
inductive Which where
  | main
  | fallback
deriving DecidableEq

/-- Everything the runs of jobs change. -/
structure World where
  clock : Int
  registry : Metrics.Registry
  logs : List Log.Entry
  events : List Event
  main : Executor
  fallback : Executor

namespace World

/-- The executor chosen. -/
def exec (w : World) : Which → Executor
  | .main => w.main
  | .fallback => w.fallback

/-- The world with the chosen executor replaced. -/
def setExec (w : World) (which : Which) (e : Executor) : World :=
  match which with
  | .main => { w with main := e }
  | .fallback => { w with fallback := e }

/-- Updates the registry through the executor's collectors, if it has any; a panic of the
update is the message and the world with what the update did before it. -/
def metric (w : World) (which : Which) (f : Metrics.Collectors → Metrics.Registry.Op Unit) :
    Except (String × World) World :=
  match (w.exec which).params.collectors with
  | none => .ok w
  | some c =>
    match (f c).run w.registry with
    | .ok _ r => .ok { w with registry := r }
    | .error e r => .error (e, { w with registry := r })

/-- Adds a log entry of the executor, when its entries are observed. -/
def log (w : World) (which : Which) (level : Log.Level) (msg : String) (args : List Log.Arg) : World :=
  if (w.exec which).params.logged then
    { w with logs := w.logs ++ [Log.Logger.root.entry level msg args] }
  else w

/-- Publishes an event of the executor, when it has events. -/
def publish (w : World) (which : Which) (e : Event) : World :=
  if (w.exec which).params.events then { w with events := w.events ++ [e] } else w

/-- The arguments of the warning a caller logs when it gives up on `job` after waiting the
deadline: the executor's name, the job's name and arguments, the deadline and where the job
was made, each after its key. -/
def timeoutArgs (name : String) (job : Job) (deadline : Int) : List Log.Arg :=
  [.value (.str "executor"), .value (.str name), .value (.str "job"), .value (.str job.name),
    .value (.str "args"), .value (.slice .any job.args), .value (.str "deadline"),
    .value (.duration deadline), .value (.str "caller"), .value (.str job.caller)]

/-- The arguments of the debug entry of a late end of `job`, `elapsed` after its call began. -/
def lateEndArgs (name : String) (job : Job) (elapsed : Int) : List Log.Arg :=
  [.value (.str "executor"), .value (.str name), .value (.str "job"), .value (.str job.name),
    .value (.str "elapsed"), .value (.duration elapsed)]

/-- Applies one effect of a step of a call of `job` started at `start`. -/
def apply (w : World) (which : Which) (job : Job) (c : Handoff.Call) :
    Handoff.Effect → Except (String × World) World
  | .count =>
    let e := w.exec which
    .ok (w.setExec which { e with group := e.group.add 1 })
  | .uncount =>
    let e := w.exec which
    .ok (w.setExec which { e with group := e.group.done.1 })
  | .gaugeUp => w.metric which (·.abandon)
  | .gaugeDown => w.metric which (·.revertAbandon)
  | .cancel => .ok w
  | .giveUp now => do
    let name := (w.exec which).params.name
    let w := w.log which .warn "job timed out" (timeoutArgs name job c.deadline)
    let w ← w.metric which (·.observeOutcome job.name "timed_out" ⟨now - c.start⟩)
    pure (w.publish which (Event.timeout name job.name job.args ⟨c.deadline⟩ job.caller))
  | .settle o => w.metric which (·.observeOutcome job.name o.stateName o.elapsed)
  | .lateEnd err =>
    let name := (w.exec which).params.name
    let elapsed := ((c.record.map (·.finishedAt)).getD c.start) - c.start
    let w := w.log which .debug "abandoned job finished, result discarded"
      (lateEndArgs name job elapsed)
    let w := match w.metric which (·.finishAbandoned job.name) with
      | .ok w1 => w1
      | .error (_, w1) => w1
    .ok (w.publish which (Event.abandonedDone name job.name err))

/-- Applies the effects of steps in order. -/
def applyAll (w : World) (which : Which) (job : Job) (c : Handoff.Call) :
    List Handoff.Effect → Except (String × World) World
  | [] => .ok w
  | e :: es => do
    let w ← w.apply which job c e
    w.applyAll which job c es

/-- Runs the late end of a pending call: its worker's steps at the time its work ends. -/
def lateEnd (w : World) (which : Which) (p : Pending) : World :=
  match p.ends with
  | none => w
  | some (t, ending) =>
    let (c, es) := Handoff.workerRun p.call ending t
    match w.applyAll which p.job c es with
    | .ok w1 => w1
    | .error (_, w1) => w1

/-- The pending calls whose works end by `t`. -/
def endingBy (ps : List Pending) (t : Int) : List Pending × List Pending :=
  ps.partition fun p => match p.ends with
    | some (e, _) => e ≤ t
    | none => false

/-- Moves the clock to `t` (never back), running the late ends of works that end by then,
in the order of their ends. -/
def advance (w : World) (t : Int) : World :=
  let (mainDone, mainLeft) := endingBy w.main.pending t
  let (fallDone, fallLeft) := endingBy w.fallback.pending t
  let w := { w with main := { w.main with pending := mainLeft },
                    fallback := { w.fallback with pending := fallLeft } }
  let ends := (mainDone.map (Which.main, ·) ++ fallDone.map (Which.fallback, ·)).mergeSort
    fun a b => match a.2.ends, b.2.ends with
      | some (x, _), some (y, _) => x ≤ y
      | _, _ => true
  let w := ends.foldl (fun w (which, p) => w.lateEnd which p) w
  { w with clock := max w.clock t }

/-- The timer fires first: the caller gives up and the work runs on. -/
def runLate (w : World) (which : Which) (ty : Ty) (ctx : RunContext) (j : Job)
    (act : Act (Value × Option Fault)) (call : Handoff.Call) : World × Except Failure Outcome :=
  let tg := call.start + call.deadline
  let w := w.advance tg
  let (c1, es1) := Handoff.callerRun call true tg
  match w.applyAll which j c1 es1 with
  | .error (p, w) => (w, .error (.panic (.error (.plain p))))
  | .ok w =>
    let doneAt := if Handoff.workCancelled (w.exec which).params.cancelOnTimeout es1 then
      some (match ctx.doneAt with
        | some t => min t tg
        | none => tg)
      else ctx.doneAt
    let ends := act.finish (call.start + spawnNs) doneAt
    let e := w.exec which
    let w := w.setExec which { e with pending := e.pending ++ [⟨j, c1, ends⟩] }
    (w.advance w.clock, .ok ((c1.returned?).getD (Outcome.empty ty)))


/-- Runs a job on the chosen executor: the outcome, the error of a refused run, or the
panic of a metric that cannot be updated. -/
def run (w : World) (which : Which) (ty : Ty) (ctx : RunContext) (job : Option Job)
    (deadline : Int) : World × Except Failure Outcome :=
  if deadline ≤ 0 then
    match w.metric which (·.rejectDeadline) with
    | .error (p, w) => (w, .error (.panic (.error (.plain p))))
    | .ok w =>
      (w, .error (.error (.wrap ("deadline must be positive, got " ++ (Duration.wrap deadline).toString)
        (.sentinel .invalidDeadline))))
  else
    match job with
    | none => (w, .error (.error (.withStack (.sentinel .nilWork))))
    | some j =>
      match j.work with
      | none => (w, .error (.error (.withStack (.sentinel .nilWork))))
      | some work =>
        let t0 := w.clock
        let act := work.run ⟨ctx.values⟩
        let call := Handoff.Call.begin ty t0 deadline
        match act.finish (t0 + spawnNs) ctx.doneAt with
        | some (tf, ending) =>
          if tf < t0 + deadline then
            let w := w.advance tf
            let (c1, es1) := Handoff.workerRun call ending tf
            let (c2, es2) := Handoff.callerRun c1 false tf
            match w.applyAll which j c2 (es1 ++ es2) with
            | .error (p, w) => (w, .error (.panic (.error (.plain p))))
            | .ok w => (w, .ok ((c2.returned?).getD (Outcome.empty ty)))
          else w.runLate which ty ctx j act call
        | none => w.runLate which ty ctx j act call

/-- The count of the chosen executor's abandoned calls. -/
def abandoned (w : World) (which : Which) : Int := (w.exec which).group.counter

/-- Waits at most `timeout` nanoseconds for the chosen executor's abandoned works to end;
tells whether they all did. -/
def waitAbandoned (w : World) (which : Which) (timeout : Int) : World × Bool :=
  let e := w.exec which
  if e.group.counter ≤ 0 then (w, true)
  else
    let target := w.clock + max timeout 0
    let ends := e.pending.map fun p => p.ends.map (·.1)
    if ends.all fun t => match t with
      | some t => t ≤ target
      | none => false
    then
      let last := ends.foldl (fun acc t => max acc (t.getD acc)) w.clock
      let w := w.advance last
      (w, w.abandoned which ≤ 0)
    else (w.advance target, false)

/-! ## Calls at once

Many runs on one executor go on at the same time: each call's caller and worker take their
turns in any order among all the others' (`CallStep`). `runCalls` runs such an
interleaving, applying the effects of each step to the chosen executor as the run of a
single call does. -/

/-- A call on an executor: its job, how its work ends and its hand-off. -/
structure Flight where
  job : Job
  ending : Ending (Value × Option Fault)
  call : Handoff.Call

/-- A step of the calls on an executor: a caller starts a call, or a party of a call takes a
turn. -/
inductive CallStep where
  | begin (job : Job) (ty : Ty) (start deadline : Int) (ending : Ending (Value × Option Fault))
  | turn (i : Nat) (t : Handoff.Turn)

/-- One step of the calls on the chosen executor; a panic of a metric ends the step. -/
def stepCalls (which : Which) : World × List Flight → CallStep → World × List Flight
  | (w, calls), .begin job ty start deadline ending =>
    (w, calls ++ [⟨job, ending, Handoff.Call.begin ty start deadline⟩])
  | (w, calls), .turn i t =>
    match calls[i]? with
    | none => (w, calls)
    | some f =>
      let (c, es) := f.call.turn f.ending t
      let w := match w.applyAll which f.job c es with
        | .ok w => w
        | .error (_, w) => w
      (w, calls.set i { f with call := c })

/-- The world and the calls after steps in order. -/
def runCalls (which : Which) (s : World × List Flight) (steps : List CallStep) :
    World × List Flight :=
  steps.foldl (stepCalls which) s

end World

end Timebox
