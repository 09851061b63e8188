import Mathlib
import Timebox.Proofs.Handoff

/-! # How a run ends

Whatever the work does and however the caller's and the worker's steps interleave, the
outcome a caller returns is decided by three things: whether the worker's claim on the call
won, whether the work ended strictly before the deadline, and how the work ended.

* It is completed, with the work's value, exactly when the worker's claim won, the work
  ended before the deadline and returned no error.
* It is failed exactly when the worker's claim won and the work ended before the deadline
  with an error: the error it returned, unchanged; the value it panicked with, recovered
  (a panic with nil as the run-time error of panicking with nil); or the `work exited`
  sentinel when it exited without returning.
* It is timed out otherwise: the caller's claim won, or the work ended at the deadline or
  after it.

The classification is `Outcome.Settles`; every interleaving settles by it
(`settles_interleave`).
-/

namespace Timebox.Handoff

variable {c : Call} {now : Int} {r : Record}

/-- Settling from a record: timed out from the deadline on, else the error or the value. -/
theorem settleOutcome_of_record (hr : c.record = some r) :
    (settleOutcome c now).1 =
      if r.finishedAt - c.start ≥ c.deadline then Outcome.timedOut c.ty ⟨now - c.start⟩
      else match r.err with
        | some e => Outcome.failed c.ty e ⟨now - c.start⟩
        | none => Outcome.completed c.ty r.value ⟨now - c.start⟩ := by
  simp only [settleOutcome, hr]
  split <;> rfl

@[simp] theorem endingRecord_returned (ty : Ty) (t : Int) (v : Value) (e : Option Fault) :
    Call.endingRecord ty t (.returned (v, e)) = ⟨v, e, t⟩ := rfl

@[simp] theorem endingRecord_panicked (ty : Ty) (t : Int) (p : Value) :
    Call.endingRecord ty t (.panicked p) =
      ⟨Value.zero ty, some (.panicked (Act.recovered p)), t⟩ := rfl

@[simp] theorem endingRecord_exited (ty : Ty) (t : Int) :
    Call.endingRecord ty t .exited =
      ⟨Value.zero ty, some (.withStack (.sentinel .workExited)), t⟩ := rfl

theorem endingRecord_inj {ty : Ty} {t t' : Int} {ending : Ending (Value × Option Fault)}
    (h : Call.endingRecord ty t ending = Call.endingRecord ty t' ending) : t = t' := by
  simpa using congrArg Record.finishedAt h

end Timebox.Handoff

namespace Timebox

/-- How an outcome is settled, from whether the work ended before the deadline with the
worker's claim winning (`inTime`) and how the work ended: timed out unless in time; else
completed with the value returned without an error, or failed with the error returned, with
the value panicked with, recovered, or with the `work exited` sentinel. -/
def Outcome.Settles (o : Outcome) (inTime : Prop) (ending : Ending (Value × Option Fault)) : Prop :=
  (¬ inTime → o.state = some .timedOut) ∧
  (inTime → match ending with
    | .returned (v, none) => o.state = some .completed ∧ o.value = v
    | .returned (_, some e) => o.state = some .failed ∧ o.err = some e
    | .panicked p => o.state = some .failed ∧ o.err = some (.panicked (Act.recovered p))
    | .exited => o.state = some .failed ∧ o.err = some (.withStack (.sentinel .workExited)))

namespace Outcome.Settles

variable {o : Outcome} {P Q : Prop} {ending : Ending (Value × Option Fault)}

theorem congr (h : o.Settles P ending) (hpq : P ↔ Q) : o.Settles Q ending :=
  ⟨fun hq => h.1 (hpq.not.mpr hq), fun hq => h.2 (hpq.mpr hq)⟩

/-- A timed-out outcome is settled for any work that did not end in time. -/
theorem of_timedOut (ho : o.state = some .timedOut) (hp : ¬ P) : o.Settles P ending :=
  ⟨fun _ => ho, fun h => absurd h hp⟩

/-- A settled outcome has exactly one state. -/
theorem state_isSome (h : o.Settles P ending) : o.state.isSome := by
  by_cases hp : P
  · have h2 := h.2 hp
    split at h2 <;> simp [h2.1]
  · simp [h.1 hp]

end Outcome.Settles

namespace Handoff

variable {c : Call} {ending : Ending (Value × Option Fault)} {t : Int}

/-- Settling from what the worker recorded: in time exactly when the work ended strictly
before the deadline. -/
theorem settleOutcome_settles (hr : c.record = some (Call.endingRecord c.ty t ending)) (now : Int) :
    (settleOutcome c now).1.Settles (t - c.start < c.deadline) ending := by
  rw [settleOutcome_of_record hr, endingRecord_finishedAt]
  refine ⟨fun h => by rw [if_pos (by omega)]; rfl, fun h => ?_⟩
  rw [if_neg (by omega)]
  cases ending with
  | returned r =>
    obtain ⟨v, e⟩ := r
    cases e <;> simp [Outcome.completed, Outcome.failed]
  | panicked p => simp [Outcome.failed]
  | exited => simp [Outcome.failed]

/-- What a caller returned is settled by whether the worker's claim won with the work ending
before the deadline, and by how the work ended. -/
theorem returned_outcome (hi : Consistent ending c) {o : Outcome} (ho : c.caller = .returned o) :
    o.Settles (c.phase = .finished ∧
      ∃ t, c.record = some (Call.endingRecord c.ty t ending) ∧ t - c.start < c.deadline) ending := by
  rcases hi.returned ho with ⟨hp, now, rfl⟩ | ⟨hp, now, r, hr, hre, rfl⟩
  · -- the caller's claim won: timed out, whatever the worker recorded
    refine Outcome.Settles.of_timedOut rfl fun ⟨hf, _⟩ => ?_
    rw [hp] at hf
    cases hf
  · -- the worker's claim won: the outcome is settled from its record
    refine (settleOutcome_settles (hr.trans (congrArg some hre)) now).congr ⟨fun hlt => ?_, ?_⟩
    · exact ⟨hp, r.finishedAt, by rw [hr, ← hre], hlt⟩
    · rintro ⟨-, t, ht, hlt⟩
      rw [hr, hre] at ht
      rwa [← endingRecord_inj (Option.some.inj ht)] at hlt

/-- **Every interleaving.** Whatever the turns of the caller and the worker, and whenever
the timer fires, an outcome the caller returns is settled by whether the worker's claim won
with the work ending before the deadline, and by how the work ended. -/
theorem settles_interleave (ending : Ending (Value × Option Fault)) (ty : Ty) (start deadline : Int)
    (turns : List Turn) {o : Outcome}
    (ho : ((Call.begin ty start deadline).interleave ending turns).1.caller = .returned o) :
    let c := ((Call.begin ty start deadline).interleave ending turns).1
    o.Settles (c.phase = .finished ∧
      ∃ t, c.record = some (Call.endingRecord ty t ending) ∧ t - start < deadline) ending := by
  intro c
  have h := returned_outcome (consistent_interleave (consistent_begin ending ty start deadline) turns) ho
  obtain ⟨hty, hstart, hdl⟩ := fixed_interleave (Call.begin ty start deadline) ending turns
  rw [hty, hstart, hdl] at h
  exact h

end Handoff

end Timebox
