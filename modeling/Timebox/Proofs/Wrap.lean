import Mathlib
import Timebox.Proofs.Executor
import Timebox.Session.Executor

/-! # A wrapped function is its binding, run call by call

`wrap` checks a deadline and a function once and gives a function that binds its
arguments and runs the job at each call; `bindRun` binds and runs in one step. With a
positive deadline the two agree exactly. A function that cannot be bound is refused by both
with the same error, and nothing runs. Otherwise each call of the wrapped function is the
binding and running of the same arguments: it leaves the same world (the same log entries,
events and metrics, naming the same job and arguments) and ends alike, call after call,
until a panic ends both (`wrapCalls_agree`).

A deadline that is not positive is where they part. `wrap` checks it first and refuses
with the invalid-deadline error before it looks at the function, counting nothing; binding
looks at the function and the arguments first, and only a job that binds reaches the run,
which refuses it and counts the refusal in the invalid-deadline counter.

The main statement is `wrap_refines_bindRun`.
-/

namespace Timebox.Session

open World

/-- A call of a wrapped function and a step that binds and runs the same arguments end
alike: with the same outcome, or refused with the same error. -/
inductive Agrees (ty : Ty) : CallResult → StepResult → Prop
  | outcome (o : Outcome) (job : Option String) (args : Option (List Value)) :
      Agrees ty (.outcome o) (.outcome o job args)
  | bindError (e : Fault) : Agrees ty (.rejected (Outcome.empty ty) e) (.bindError e)
  | refused (e : Fault) : Agrees ty (.rejected (Outcome.empty ty) e) (.refused e)

/-- Binding and running each list of arguments in turn, each as a step of its own, until
one panics. -/
def bindRuns (s : Setup) (callee : Callee) (deadline : Int) (ctx : ContextKind) :
    World → List (List Value) → World × List StepResult
  | w, [] => (w, [])
  | w, args :: rest =>
    match step s w (.bindRun callee args deadline ctx) with
    | (w, .panicked v) => (w, [.panicked v])
    | (w, r) =>
      let (w, more) := bindRuns s callee deadline ctx w rest
      (w, r :: more)

/-- The calls of a wrapped function end as the bindings and runs of their arguments: call
by call alike, and a panic ends both. -/
inductive CallsAgree (ty : Ty) : Except Value (List CallResult) → List StepResult → Prop
  | nil : CallsAgree ty (.ok []) []
  | panicked (v : Value) : CallsAgree ty (.error v) [.panicked v]
  | call {c : CallResult} {r : StepResult} {rs : Except Value (List CallResult)}
      {more : List StepResult} :
      Agrees ty c r → CallsAgree ty rs more → CallsAgree ty (rs.map (c :: ·)) (r :: more)

section Steps

variable (s : Setup) (w : World) (callee : Callee) (ctx : ContextKind)

/-- A function that cannot be bound is refused by binding, whatever the arguments and the
deadline, and nothing runs. -/
theorem bindRun_of_make_error {e : Fault} (h : Binding.make s.ty callee = .error e)
    (args : List Value) (d : Int) : step s w (.bindRun callee args d ctx) = (w, .bindError e) := by
  simp [step, bind, h]

theorem bindRuns_of_make_error {e : Fault} (h : Binding.make s.ty callee = .error e) (d : Int)
    (calls : List (List Value)) :
    bindRuns s callee d ctx w calls = (w, List.replicate calls.length (.bindError e)) := by
  induction calls with
  | nil => rfl
  | cons args rest ih =>
    simp [bindRuns, bindRun_of_make_error s w callee ctx h, ih, List.replicate_succ]

/-- With a positive deadline, a function that cannot be bound is refused by the wrap with
the same error. -/
theorem wrap_of_make_error {d : Int} (hd : 0 < d) {e : Fault}
    (h : Binding.make s.ty callee = .error e) (calls : List (List Value)) :
    step s w (.wrap callee d calls ctx) = (w, .wrapError e) := by
  simp [step, not_le.mpr hd, h]

/-- With a positive deadline, a function that binds is called through the executor with
each list of arguments. -/
theorem wrap_of_make_ok {d : Int} (hd : 0 < d) {b : Binding}
    (h : Binding.make s.ty callee = .ok b) (calls : List (List Value)) :
    step s w (.wrap callee d calls ctx) =
      ((wrapCalls s b d ctx w calls).1, .ofCalls (wrapCalls s b d ctx w calls).2) := by
  simp [step, not_le.mpr hd, h]

/-- A deadline that is not positive is refused by the wrap at once, whatever the function,
and nothing changes. -/
theorem wrap_of_nonpos {d : Int} (hd : d ≤ 0) (calls : List (List Value)) :
    ∃ e, step s w (.wrap callee d calls ctx) = (w, .wrapError e) ∧
      e.isSentinel .invalidDeadline = true :=
  ⟨_, by rw [step, if_pos hd], by simp [Fault.isSentinel]⟩

end Steps

/-- Each call of a wrapped function binds and runs its arguments as a step of binding and
running does: both leave the same world and end alike, call after call, and a panic ends
both. The induction is on the argument lists; each call splits on how the arguments bind
and how the run ends. -/
theorem wrapCalls_agree (s : Setup) (callee : Callee) (ctx : ContextKind) {b : Binding}
    (h : Binding.make s.ty callee = .ok b) (d : Int) :
    ∀ (w : World) (calls : List (List Value)),
      (wrapCalls s b d ctx w calls).1 = (bindRuns s callee d ctx w calls).1 ∧
      CallsAgree s.ty (wrapCalls s b d ctx w calls).2 (bindRuns s callee d ctx w calls).2 := by
  intro w calls
  induction calls generalizing w with
  | nil => exact ⟨rfl, .nil⟩
  | cons args rest ih =>
    cases hb : b.bind args with
    | error f =>
      cases f with
      | panic v =>
        have hstep : step s w (.bindRun callee args d ctx) = (w, .panicked v) := by
          simp [step, bind, h, hb, Except.map]
        simp only [wrapCalls, hb, bindRuns, hstep]
        exact ⟨trivial, .panicked v⟩
      | error e =>
        -- the arguments are refused: both go on from the same world
        have hstep : step s w (.bindRun callee args d ctx) = (w, .bindError e) := by
          simp [step, bind, h, hb, Except.map]
        obtain ⟨h1, h2⟩ := ih w
        simp only [wrapCalls, hb, bindRuns, hstep]
        exact ⟨h1, .call (.bindError e) h2⟩
    | ok work =>
      have hbind : bind s.ty callee args scriptSite =
          .ok (Job.make b.func.name (some work) args scriptSite) := by
        simp [bind, h, hb, Except.map]
      simp only [wrapCalls, hb, bindRuns, step, hbind]
      -- both run the same job, named after the function, on the same world
      generalize Job.make b.func.name (some work) args scriptSite = job
      rcases hrun : w.run (target s) s.ty (ctx.make w.clock) (some job) d with ⟨w1, r⟩
      obtain ⟨h1, h2⟩ := ih w1
      cases r with
      | error f =>
        cases f with
        | panic v =>
          simp only [runResult]
          exact ⟨trivial, .panicked v⟩
        | error e =>
          simp only [runResult, Bool.false_eq_true, if_false]
          exact ⟨h1, .call (.refused e) h2⟩
      | ok o =>
        simp only [runResult]
        exact ⟨h1, .call (.outcome o _ _) h2⟩

/-- **A wrapped function refines binding and running.** For every session, world, function,
deadline, argument lists and context:

* with a positive deadline, a function that cannot be bound is refused by the wrap with the
  error every binding of it gives, and nothing runs; a function that binds is called once
  per argument list, each call ending as binding and running the same arguments does and
  leaving the same world, with the same log entries, events and metrics (`CallsAgree`),
  until a panic ends both;
* with a deadline that is not positive, the wrap refuses with the invalid-deadline error,
  whatever the function, and changes nothing; binding and running refuses with the
  binding's error, changing nothing, when the function or the arguments do not bind, and
  otherwise with the invalid-deadline error, counting it once in the invalid-deadline
  counter when the executor has collectors that fit the registry. -/
theorem wrap_refines_bindRun (s : Setup) (w : World) (callee : Callee) (d : Int)
    (calls : List (List Value)) (ctx : ContextKind) :
    (0 < d →
      (∀ e, Binding.make s.ty callee = .error e →
        step s w (.wrap callee d calls ctx) = (w, .wrapError e) ∧
        bindRuns s callee d ctx w calls = (w, List.replicate calls.length (.bindError e))) ∧
      (∀ b, Binding.make s.ty callee = .ok b → ∃ res,
        step s w (.wrap callee d calls ctx) = ((bindRuns s callee d ctx w calls).1, .ofCalls res) ∧
        CallsAgree s.ty res (bindRuns s callee d ctx w calls).2)) ∧
    (d ≤ 0 →
      (∃ e, step s w (.wrap callee d calls ctx) = (w, .wrapError e) ∧
        e.isSentinel .invalidDeadline = true) ∧
      ∀ args,
        (∀ e, bind s.ty callee args scriptSite = .error (.error e) →
          step s w (.bindRun callee args d ctx) = (w, .bindError e)) ∧
        (w.Fitted (target s) → ∀ job, bind s.ty callee args scriptSite = .ok job →
          ∃ e w', step s w (.bindRun callee args d ctx) = (w', .refused e) ∧
            e.isSentinel .invalidDeadline = true ∧
            ((w.exec (target s)).params.collectors = none → w' = w) ∧
            ∀ c, (w.exec (target s)).params.collectors = some c → ∃ r,
              w' = { w with registry := r } ∧
              r.valueOf c.invalidDeadline [] =
                (w.registry.valueOf c.invalidDeadline []).add (Double.ofInt 1))) := by
  refine ⟨fun hd => ⟨fun e he => ?_, fun b hb => ?_⟩, fun hd => ⟨wrap_of_nonpos s w callee ctx hd calls,
    fun args => ⟨fun e he => by simp [step, he], fun hw job hj => ?_⟩⟩⟩
  · exact ⟨wrap_of_make_error s w callee ctx hd he calls,
      bindRuns_of_make_error s w callee ctx he d calls⟩
  · obtain ⟨h1, h2⟩ := wrapCalls_agree s callee ctx hb d w calls
    exact ⟨_, by rw [wrap_of_make_ok s w callee ctx hd hb, h1], h2⟩
  · -- the job reaches the run, which refuses the deadline and counts it
    obtain ⟨⟨e, he, hs, -⟩, hnone, hsome⟩ :=
      run_refused w (target s) s.ty (ctx.make w.clock) (some job) hw hd
    have hstep : step s w (.bindRun callee args d ctx) =
        ((w.run (target s) s.ty (ctx.make w.clock) (some job) d).1, .refused e) := by
      simp only [step, hj, he, runResult, Bool.false_eq_true, if_false]
    refine ⟨e, _, hstep, hs, hnone, fun c hc => ?_⟩
    obtain ⟨r, hr, hv, -⟩ := hsome c hc
    exact ⟨r, hr, hv⟩

/-- At a zero deadline the two paths refuse nil for different reasons: the wrap for the
deadline, binding for not being a function. -/
theorem wrap_bindRun_refusals_differ :
    let s : Setup := ⟨.string, "w", false, none, false, false⟩
    let w : World := ⟨0, Metrics.Registry.empty default, [], [], Executor.fallback,
      Executor.fallback⟩
    ∃ e e', step s w (.wrap .nil 0 [[]] .background) = (w, .wrapError e) ∧
      step s w (.bindRun .nil [] 0 .background) = (w, .bindError e') ∧
      e.isSentinel .invalidDeadline = true ∧ e.isSentinel .notFunc = false ∧
      e'.isSentinel .invalidDeadline = false ∧ e'.isSentinel .notFunc = true := by
  intro s w
  refine ⟨_, _, rfl, rfl, ?_, ?_, ?_, ?_⟩ <;> simp [Fault.isSentinel]

end Timebox.Session
