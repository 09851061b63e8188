import Timebox.Value.Basic

/-! # What a work does over time

A work runs on its own and its caller only sees how and when it ends. `Act α` describes a
work that ends with an `α`:

* `done a`, `panic v`, `exit`: it returns `a`, panics with `v`, or exits its thread without
  returning;
* `sleep ns next`: it sleeps, then goes on (a sleep cannot be interrupted);
* `block`: it never ends;
* `await next`: it waits until its context is done, then goes on;
* `readErr next`: it reads its context's error (`context canceled` once the context is
  done, none before) and goes on with it;
* `race ns next`: it waits `ns` (for ever when none) or until its context is done,
  whichever comes first, and goes on knowing how long it waited when the context cut the
  wait short (none when it waited it out), as a process that is killed when its context
  is done.

`Act.finish a now doneAt` runs a work started at `now` whose context is done from `doneAt`
on (never, when `doneAt` is none), and gives the time it ends and how, or none when it never
ends. Time is counted in nanoseconds.
-/

namespace Timebox

/-- A work that ends with an `α`. -/
inductive Act (α : Type) where
  | done (a : α)
  | panic (v : Value)
  | exit
  | sleep (ns : Int) (next : Act α)
  | block
  | await (next : Act α)
  | readErr (next : Option Fault → Act α)
  | race (ns : Option Int) (next : Option Int → Act α)

/-- How a work ended. -/
inductive Ending (α : Type) where
  | returned (a : α)
  | panicked (v : Value)
  | exited

namespace Act

variable {α β : Type}

/-- What recovering a panic with value `v` gives: a panic with nil is reported as the
run-time error of panicking with nil. -/
def recovered (v : Value) : Value :=
  match v with
  | .nil => .error (.runtime "*runtime.PanicNilError" "runtime error: panic called with nil argument")
  | v => v

/-- The work with its result mapped. -/
def map (f : α → β) : Act α → Act β
  | .done a => .done (f a)
  | .panic v => .panic v
  | .exit => .exit
  | .sleep ns next => .sleep ns (map f next)
  | .block => .block
  | .await next => .await (map f next)
  | .readErr next => .readErr fun e => map f (next e)
  | .race ns next => .race ns fun c => map f (next c)

/-- The work, then the work that its result chooses. -/
def bind (a : Act α) (f : α → Act β) : Act β :=
  match a with
  | .done x => f x
  | .panic v => .panic v
  | .exit => .exit
  | .sleep ns next => .sleep ns (bind next f)
  | .block => .block
  | .await next => .await (bind next f)
  | .readErr next => .readErr fun e => bind (next e) f
  | .race ns next => .race ns fun c => bind (next c) f

/-- The error of a context at a time: canceled once it is done. -/
def errAt (now : Int) (doneAt : Option Int) : Option Fault :=
  match doneAt with
  | some t => if t ≤ now then some (.sentinel .contextCanceled) else none
  | none => none

/-- When a wait of `ns` (for ever when none) started at `now` is cut short by a context
done from `doneAt` on: the context must be done before the wait would end. -/
def cutAt (ns : Option Int) (now : Int) (doneAt : Option Int) : Option Int :=
  match doneAt with
  | some t =>
    match ns with
    | some d => if t < now + max d 0 then some (max now t) else none
    | none => some (max now t)
  | none => none

/-- When and how a work started at `now` ends, its context done from `doneAt` on. -/
def finish : Act α → Int → Option Int → Option (Int × Ending α)
  | .done a, now, _ => some (now, .returned a)
  | .panic v, now, _ => some (now, .panicked v)
  | .exit, now, _ => some (now, .exited)
  | .sleep ns next, now, doneAt => finish next (now + max ns 0) doneAt
  | .block, _, _ => none
  | .await next, now, doneAt =>
    match doneAt with
    | some t => finish next (max now t) doneAt
    | none => none
  | .readErr next, now, doneAt => finish (next (errAt now doneAt)) now doneAt
  | .race ns next, now, doneAt =>
    match cutAt ns now doneAt with
    | some t => finish (next (some (t - now))) t doneAt
    | none =>
      match ns with
      | some d => finish (next none) (now + max d 0) doneAt
      | none => none

/-- A cut of a wait never comes before the wait starts. -/
theorem le_of_cutAt (ns : Option Int) (now : Int) (doneAt : Option Int) (t : Int)
    (h : cutAt ns now doneAt = some t) : now ≤ t := by
  unfold cutAt at h
  split at h
  · split at h
    · split at h
      · simp at h; omega
      · simp at h
    · simp at h; omega
  · simp at h

@[simp] theorem finish_block (now : Int) (doneAt : Option Int) :
    (Act.block : Act α).finish now doneAt = none := rfl

/-- A work never ends before it starts. -/
theorem start_le_of_finish (a : Act α) (now : Int) (doneAt : Option Int) (t : Int)
    (e : Ending α) (h : a.finish now doneAt = some (t, e)) : now ≤ t := by
  induction a generalizing now with
  | done => simp [finish] at h; omega
  | panic => simp [finish] at h; omega
  | exit => simp [finish] at h; omega
  | sleep ns next ih =>
    have := ih (now + max ns 0) h
    omega
  | block => simp [finish] at h
  | await next ih =>
    cases hd : doneAt with
    | none => simp [finish, hd] at h
    | some d =>
      simp only [finish, hd] at h
      have := ih (max now d) (by rw [hd]; exact h)
      omega
  | readErr next ih => exact ih _ now h
  | race ns next ih =>
    unfold finish at h
    split at h
    · rename_i t ht
      have := le_of_cutAt ns now doneAt t ht
      have := ih _ _ h
      omega
    · split at h
      · have := ih _ _ h
        omega
      · simp at h

end Act

end Timebox
