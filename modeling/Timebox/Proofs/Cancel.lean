import Mathlib
import Timebox.Proofs.Abandoned
import Timebox.Proofs.Outcome
import Timebox.Proofs.Executor

/-! # When the work's context is cancelled

The work's cancel function is called in two places: by the caller, when its claim on the
call wins and it gives up, and by the worker, right after the work returns and before the
worker tries its own claim. It cancels anything only on an executor that cancels on timeout
(`Handoff.workCancelled`); on any other the work runs with the caller's context itself.

Each call of the cancel function among the effects of an interleaving is one of those two
moves (`cancels_interleave`): the count is whether the caller gave up plus whether the
worker is past its cancel. Hence:

* before the work returns, its context is cancelled only if the caller's claim won and the
  caller returned timed out;
* a call whose cell the worker's claim wins (completed, failed, or timed out because the work
  ended at the deadline or after it) never has its context cancelled while the work runs, at
  any point of the interleaving;
* once the worker is past its cancel, the context is cancelled on an executor that cancels
  on timeout.

On the executor's clock, a run that ends completed or failed was decided by the work run
under the caller's own context. The main statement is `cancel_only_on_abandon`.
-/

namespace Timebox.Handoff

/-- How many times the effects call the work's cancel function. -/
def cancels (es : List Effect) : Nat := es.countP Effect.isCancel

/-- The caller has returned. -/
def CallerAt.hasReturned : CallerAt → Bool
  | .returned _ => true
  | _ => false

/-- The caller gave up on the call: its claim won and it returned, calling cancel on its
way. -/
def Call.gaveUp (c : Call) : Bool := decide (c.phase = .abandoned) && c.caller.hasReturned

/-- The worker is past the cancel it calls once the work returns. -/
def WorkerAt.pastCancel : WorkerAt → Bool
  | .working | .recorded => false
  | _ => true

/-- The calls of the cancel function a call has made, read from where its parties are. -/
def Call.cancelsMade (c : Call) : Nat := c.gaveUp.toNat + c.worker.pastCancel.toNat

@[simp] theorem cancels_nil : cancels [] = 0 := rfl

@[simp] theorem cancels_append (es fs : List Effect) :
    cancels (es ++ fs) = cancels es + cancels fs := List.countP_append

/-- Settling does not cancel. -/
@[simp] theorem isCancel_settleOutcome (c : Call) (now : Int) :
    (settleOutcome c now).2.isCancel = false := by
  unfold settleOutcome
  split
  · split <;> rfl
  · rfl

theorem workCancelled_iff {b : Bool} {es : List Effect} :
    workCancelled b es = true ↔ b = true ∧ 0 < cancels es := by
  simp [workCancelled, cancels, List.countP_pos_iff]

variable {c c' : Call} {es : List Effect} {now : Int} {ending : Ending (Value × Option Fault)}

/-- The cancel function is called by two moves: the caller's give-up, once its claim won,
and the worker's cancel once the work returned. -/
theorem cancels_move (hi : Consistent ending c) (hm : Move ending now c c' es) :
    c'.cancelsMade = c.cancelsMade + cancels es := by
  rcases hm with hm | hm
  · cases hm with
    | giveUp hc =>
      have hp := hi.abandoned_of_claimed hc
      simp [Call.cancelsMade, Call.gaveUp, CallerAt.hasReturned, hp, hc, cancels,
        Effect.isCancel, List.countP_cons]
      omega
    | settle hc =>
      -- a caller that settles lost the cell, so its return is no give-up
      have hp := hi.finished_of_settles (.inr (.inr (.inr hc)))
      simp [Call.cancelsMade, Call.gaveUp, CallerAt.hasReturned, hp, hc, cancels]
    | _ => simp [Call.cancelsMade, Call.gaveUp, CallerAt.hasReturned, cancels, Effect.isCancel, *]
  · cases hm with
    | claim hw hp =>
      -- while the cell is unclaimed the caller has not returned
      rcases (hi.running hp).2 with h | h | h <;>
        simp [Call.cancelsMade, Call.gaveUp, CallerAt.hasReturned, WorkerAt.pastCancel, hp, hw,
          h, cancels]
    | _ => simp [Call.cancelsMade, Call.gaveUp, WorkerAt.pastCancel, cancels, Effect.isCancel, *]

/-- The cancels of an interleaving are counted by where it leaves the caller and the
worker. -/
theorem cancels_interleave (ending : Ending (Value × Option Fault)) (ty : Ty) (start deadline : Int)
    (ts : List Turn) :
    ((Call.begin ty start deadline).interleave ending ts).1.cancelsMade =
      cancels ((Call.begin ty start deadline).interleave ending ts).2 := by
  have h := interleave_inv (fun c es => c.cancelsMade = cancels es)
    (fun hi hp hm => by rw [cancels_move hi hm, hp, cancels_append])
    (consistent_begin ending ty start deadline)
    (show (Call.begin ty start deadline).cancelsMade = cancels [] from rfl) ts
  simpa using h

/-- A call the caller abandoned stays abandoned along any interleaving. -/
theorem phase_interleave_abandoned (ending : Ending (Value × Option Fault))
    (h : c.phase = .abandoned) (ts : List Turn) :
    (c.interleave ending ts).1.phase = .abandoned := by
  induction ts generalizing c with
  | nil => exact h
  | cons t ts ih => exact ih (phase_turn_abandoned h t)

/-- A call whose worker has not returned from the work has cancelled only if its caller gave
up. -/
theorem gaveUp_of_cancels (hw : c.worker = .working) (h : 0 < c.cancelsMade) :
    c.gaveUp = true := by
  cases hg : c.gaveUp
  · simp [Call.cancelsMade, hw, WorkerAt.pastCancel, hg] at h
  · rfl

/-- A caller that gave up returned timed out: its claim won the cell. -/
theorem Consistent.gaveUp_returned (hi : Consistent ending c) (h : c.gaveUp = true) :
    c.phase = .abandoned ∧ ∃ now, c.caller = .returned (Outcome.timedOut c.ty ⟨now - c.start⟩) := by
  simp only [Call.gaveUp, Bool.and_eq_true, decide_eq_true_eq] at h
  obtain ⟨hp, hr⟩ := h
  cases hc : c.caller with
  | returned o =>
    rcases hi.returned hc with ⟨-, now, rfl⟩ | ⟨hf, -⟩
    · exact ⟨hp, now, rfl⟩
    · rw [hp] at hf; cases hf
  | _ => rw [hc] at hr; cases hr

/-- **The work's context is cancelled only on abandonment.** For every way the work ends,
every interleaving of the caller's and the worker's steps and every point at which the timer
fires, on an executor that cancels on timeout or not:

* on one that does not, the work's context is never cancelled: it is the caller's own;
* before the work returns, its context is cancelled only if the caller's claim won and the
  caller returned timed out;
* when the worker's claim wins the cell (the call ends completed, failed, or timed out
  because the work ended at the deadline or after it), the context is not cancelled at any
  point of the interleaving at which the work has not returned;
* once the worker is past the cancel it calls when the work returns, the context is
  cancelled on an executor that cancels on timeout;
* on the executor's clock, a run with a positive deadline that ends completed or failed was
  decided by the work ending before the deadline under the caller's own context. -/
theorem cancel_only_on_abandon (cancelOnTimeout : Bool) (ending : Ending (Value × Option Fault))
    (ty : Ty) (start deadline : Int) (turns : List Turn) :
    let run := (Call.begin ty start deadline).interleave ending turns
    let upTo (k : Nat) := (Call.begin ty start deadline).interleave ending (turns.take k)
    (cancelOnTimeout = false → workCancelled cancelOnTimeout run.2 = false) ∧
    (run.1.worker = .working → workCancelled cancelOnTimeout run.2 = true →
      run.1.phase = .abandoned ∧ ∃ now, run.1.caller = .returned (Outcome.timedOut ty ⟨now - start⟩)) ∧
    (run.1.phase = .finished → ∀ k, (upTo k).1.worker = .working →
      workCancelled cancelOnTimeout (upTo k).2 = false) ∧
    (run.1.worker.pastCancel = true → workCancelled cancelOnTimeout run.2 = cancelOnTimeout) ∧
    (∀ (w : World) (which : Which) (ctx : RunContext) (j : Job) (work : Work), w.Fitted which →
      0 < deadline → j.work = some work → ∀ o, (w.run which ty ctx (some j) deadline).2 = .ok o →
      o.state ≠ some .timedOut → ∃ tf e,
        (work.run ⟨ctx.values⟩).finish (w.clock + spawnNs) ctx.doneAt = some (tf, e) ∧
        tf - w.clock < deadline) := by
  intro run upTo
  have hi : Consistent ending run.1 :=
    consistent_interleave (consistent_begin ending ty start deadline) turns
  have hty : run.1.ty = ty := (fixed_interleave _ ending turns).1
  have hstart : run.1.start = start := (fixed_interleave _ ending turns).2.1
  have hcount : run.1.cancelsMade = cancels run.2 := cancels_interleave ending ty start deadline turns
  refine ⟨fun hf => by simp [workCancelled, hf], fun hw hc => ?_, fun hp k hw => ?_,
    fun hpast => ?_, ?_⟩
  · -- the work has not returned, so only the caller's give-up can have cancelled
    have hpos := (workCancelled_iff.mp hc).2
    rw [← hcount] at hpos
    obtain ⟨hp, now, ho⟩ := hi.gaveUp_returned (gaveUp_of_cancels hw hpos)
    exact ⟨hp, now, by rw [ho, hty, hstart]⟩
  · -- the turns up to `k`, then the rest: a prefix abandoned would leave the call abandoned
    have hsplit := @interleave_append ending (Call.begin ty start deadline)
      (turns.take k) (turns.drop k)
    rw [List.take_append_drop] at hsplit
    have hna : (upTo k).1.phase ≠ .abandoned := fun ha => by
      have h := phase_interleave_abandoned ending ha (turns.drop k)
      rw [← congrArg Prod.fst hsplit] at h
      change run.1.phase = .abandoned at h
      rw [hp] at h
      cases h
    have hk : (upTo k).1.cancelsMade = cancels (upTo k).2 :=
      cancels_interleave ending ty start deadline (turns.take k)
    have hzero : (upTo k).1.cancelsMade = 0 := by
      simp [Call.cancelsMade, Call.gaveUp, hna, hw, WorkerAt.pastCancel]
    rw [hzero] at hk
    exact Bool.eq_false_iff.mpr fun h => by
      have := (workCancelled_iff.mp h).2
      omega
  · have hpos : 0 < cancels run.2 := by
      rw [← hcount]
      simp [Call.cancelsMade, hpast]
    cases cancelOnTimeout with
    | false => simp [workCancelled]
    | true => exact workCancelled_iff.mpr ⟨rfl, hpos⟩
  · intro w which ctx j work hw hd hj o ho hnt
    obtain ⟨o', ho', -, hs⟩ := World.run_settles w which ty ctx hw hd j hj
    rw [ho] at ho'
    cases ho'
    revert hs
    cases (work.run ⟨ctx.values⟩).finish (w.clock + spawnNs) ctx.doneAt with
    | none => exact fun hs => absurd hs hnt
    | some p =>
      obtain ⟨tf, e⟩ := p
      -- a run whose work ends at the deadline or after it is timed out
      exact fun hs => ⟨tf, e, rfl, by_contra fun hlt => hnt (hs.1 hlt)⟩

end Timebox.Handoff
