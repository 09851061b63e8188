import Mathlib
import Timebox.Proofs.Handoff

/-! # Counting abandoned calls

An executor counts its abandoned calls twice: in a wait group, which `WaitAbandoned` waits
on, and in the `abandoned_running` gauge. A call holds a unit of each over windows of its
caller's and its worker's programs:

* the count, from the caller's `Add(1)` until its claim wins, or, when it loses, until it
  reverts with `Done`; and when the caller's claim won, until the worker's `Done` at the end
  of its late end (`Call.countHeld`);
* the gauge, from the caller's mark until its claim wins, or, when it loses, until it
  reverts the mark; and when the caller's claim won, until the worker reports the late end
  (`Call.gaugeHeld`).

Each move of either party changes what the call holds by exactly what its effects do to the
wait group and to the gauge (`held_move`), and a call never holds more than one unit of
each. The executor-wide statements are assembled from this in `Timebox.Proofs.Accounting`.
-/

namespace Timebox.Handoff

/-- The caller holds a count in the wait group: it has added it and neither won its claim
nor reverted. -/
def CallerAt.holdsCount : CallerAt → Bool
  | .counted | .marked | .lost => true
  | _ => false

/-- The caller holds a unit of the gauge: it has marked the call and neither won its claim
nor reverted the mark. -/
def CallerAt.holdsGauge : CallerAt → Bool
  | .marked | .lost | .uncounted => true
  | _ => false

/-- The worker has not yet made its final `Done`. -/
def WorkerAt.beforeDone : WorkerAt → Bool
  | .closing | .exited => false
  | _ => true

/-- The worker has not yet reported a late end. -/
def WorkerAt.beforeReport : WorkerAt → Bool
  | .reported | .closing | .exited => false
  | _ => true

/-- The units of the wait group's counter a call holds. -/
def Call.countHeld (c : Call) : Nat :=
  c.caller.holdsCount.toNat + (decide (c.phase = .abandoned) && c.worker.beforeDone).toNat

/-- The units of the abandoned gauge a call holds. -/
def Call.gaugeHeld (c : Call) : Nat :=
  c.caller.holdsGauge.toNat + (decide (c.phase = .abandoned) && c.worker.beforeReport).toNat

/-- An effect that touches neither the wait group nor the gauge. -/
def Effect.isQuiet : Effect → Bool
  | .cancel | .giveUp _ | .settle _ => true
  | _ => false

@[simp] theorem isQuiet_settleOutcome (c : Call) (now : Int) :
    (settleOutcome c now).2.isQuiet = true := by
  unfold settleOutcome
  split
  · split <;> rfl
  · rfl

variable {c c' : Call} {es : List Effect} {now : Int} {ending : Ending (Value × Option Fault)}

namespace Consistent

variable (hi : Consistent ending c)
include hi

/-- A caller that holds a count or a gauge unit has not won the cell. -/
theorem not_abandoned_of_holds (h : c.caller.holdsCount = true ∨ c.caller.holdsGauge = true) :
    c.phase ≠ .abandoned := by
  intro hp
  have hg := hi.abandoned hp
  rcases hg with hg | ⟨_, hg⟩ <;> rcases h with h | h <;> rw [hg] at h <;> cases h

theorem countHeld_le_one : c.countHeld ≤ 1 := by
  unfold Call.countHeld
  cases hh : c.caller.holdsCount
  · cases (decide (c.phase = .abandoned) && c.worker.beforeDone) <;> simp
  · simp [hi.not_abandoned_of_holds (.inl hh)]

theorem gaugeHeld_le_one : c.gaugeHeld ≤ 1 := by
  unfold Call.gaugeHeld
  cases hh : c.caller.holdsGauge
  · cases (decide (c.phase = .abandoned) && c.worker.beforeReport) <;> simp
  · simp [hi.not_abandoned_of_holds (.inr hh)]

end Consistent

/-- How the effects of one step change the units a call holds: the caller's `Add(1)` adds a
count and a `Done` gives one back; the mark adds a gauge unit, and the revert of the mark or
the report of a late end gives it back; a step whose effects are all quiet touches
neither. -/
inductive Held (c c' : Call) : List Effect → Prop
  | count : c'.countHeld = c.countHeld + 1 → c'.gaugeHeld = c.gaugeHeld → Held c c' [.count]
  | uncount : c.countHeld = c'.countHeld + 1 → c'.gaugeHeld = c.gaugeHeld → Held c c' [.uncount]
  | gaugeUp : c'.countHeld = c.countHeld → c'.gaugeHeld = c.gaugeHeld + 1 → Held c c' [.gaugeUp]
  | gaugeDown {e : Effect} : (e = .gaugeDown ∨ ∃ err, e = .lateEnd err) →
      c'.countHeld = c.countHeld → c.gaugeHeld = c'.gaugeHeld + 1 → Held c c' [e]
  | quiet {es : List Effect} : (∀ e ∈ es, e.isQuiet = true) →
      c'.countHeld = c.countHeld → c'.gaugeHeld = c.gaugeHeld → Held c c' es

/-- **What one move holds.** Each move changes the units a call holds by exactly what its
effects do. -/
theorem held_move (hi : Consistent ending c) (hm : Move ending now c c' es) : Held c c' es := by
  rcases hm with hm | hm
  · cases hm with
    | timer hc =>
      exact .count (by simp [Call.countHeld, CallerAt.holdsCount, hc]; omega)
        (by simp [Call.gaugeHeld, CallerAt.holdsGauge, hc])
    | mark hc =>
      exact .gaugeUp (by simp [Call.countHeld, CallerAt.holdsCount, hc])
        (by simp [Call.gaugeHeld, CallerAt.holdsGauge, hc]; omega)
    | revert hc =>
      exact .uncount (by simp [Call.countHeld, CallerAt.holdsCount, hc]; omega)
        (by simp [Call.gaugeHeld, CallerAt.holdsGauge, hc])
    | unmark hc =>
      exact .gaugeDown (.inl rfl) (by simp [Call.countHeld, CallerAt.holdsCount, hc])
        (by simp [Call.gaugeHeld, CallerAt.holdsGauge, hc]; omega)
    | claim hc hp =>
      -- the caller's claim moves its units to the worker, which has not tried its claim
      refine .quiet (by simp) ?_ ?_
      all_goals rcases (hi.running hp).1 with h | h | h <;>
        simp [Call.countHeld, Call.gaugeHeld, CallerAt.holdsCount, CallerAt.holdsGauge,
          WorkerAt.beforeDone, WorkerAt.beforeReport, hc, hp, h]
    | settle hc =>
      exact .quiet (by simp) (by simp [Call.countHeld, CallerAt.holdsCount, hc])
        (by simp [Call.gaugeHeld, CallerAt.holdsGauge, hc])
    | _ =>
      exact .quiet (by simp [Effect.isQuiet]) (by simp [Call.countHeld, CallerAt.holdsCount, *])
        (by simp [Call.gaugeHeld, CallerAt.holdsGauge, *])
  · cases hm with
    | report hw =>
      have hp := hi.abandoned_of_reporting (.inl hw)
      exact .gaugeDown (.inr ⟨_, rfl⟩) (by simp [Call.countHeld, WorkerAt.beforeDone, hw])
        (by simp [Call.gaugeHeld, WorkerAt.beforeReport, hw, hp])
    | uncount hw =>
      have hp := hi.abandoned_of_reporting (.inr hw)
      exact .uncount (by simp [Call.countHeld, WorkerAt.beforeDone, hw, hp])
        (by simp [Call.gaugeHeld, WorkerAt.beforeReport, hw])
    | claim hw hp =>
      exact .quiet (by simp) (by simp [Call.countHeld, hp]) (by simp [Call.gaugeHeld, hp])
    | _ =>
      exact .quiet (by simp [Effect.isQuiet]) (by simp [Call.countHeld, WorkerAt.beforeDone, *])
        (by simp [Call.gaugeHeld, WorkerAt.beforeReport, *])

/-- A turn holds what its move does; a turn that passes holds what it held. -/
theorem held_turn (hi : Consistent ending c) (t : Turn) :
    Held c (c.turn ending t).1 (c.turn ending t).2 := by
  rcases turn_cases c ending t with h | ⟨now, hm⟩
  · rw [h]
    exact .quiet (by simp) rfl rfl
  · exact held_move hi hm

/-- An `uncount` is made only by a move that gives back a count the call held. -/
theorem Held.countHeld_pos (hh : Held c c' es) (hu : Effect.uncount ∈ es) : 0 < c.countHeld := by
  cases hh with
  | uncount h _ => omega
  | quiet hq _ _ => cases hq _ hu
  | gaugeDown he _ _ =>
    simp only [List.mem_singleton] at hu
    rcases he with he | ⟨_, he⟩ <;> rw [he] at hu <;> cases hu
  | count | gaugeUp => simp at hu

/-! ### What stays -/

/-- A move leaves the cell as it is, or claims it while it is `running`. -/
theorem phase_move (hm : Move ending now c c' es) : c'.phase = c.phase ∨ c.phase = .running := by
  rcases hm with hm | hm <;> cases hm <;> simp_all

/-- A call the caller abandoned stays abandoned. -/
theorem phase_turn_abandoned (h : c.phase = .abandoned) (t : Turn) :
    (c.turn ending t).1.phase = .abandoned := by
  rcases turn_cases c ending t with ht | ⟨now, hm⟩
  · rw [ht]; exact h
  · rcases phase_move hm with hp | hp
    · rw [hp]; exact h
    · rw [h] at hp; cases hp

theorem beforeDone_eq_false {w : WorkerAt} :
    w.beforeDone = false ↔ w = .closing ∨ w = .exited := by
  cases w <;> simp [WorkerAt.beforeDone]

/-- A worker past its final `Done` stays past it. -/
theorem beforeDone_move (h : c.worker.beforeDone = false) (hm : Move ending now c c' es) :
    c'.worker.beforeDone = false := by
  rcases hm with hm | hm <;> cases hm <;> simp_all [WorkerAt.beforeDone]

theorem beforeDone_turn (h : c.worker.beforeDone = false) (t : Turn) :
    (c.turn ending t).1.worker.beforeDone = false := by
  rcases turn_cases c ending t with ht | ⟨now, hm⟩
  · rw [ht]; exact h
  · exact beforeDone_move h hm

/-! ### Calls that hold nothing, and calls that hold alike -/

/-- A call whose caller returned, and whose worker made its final `Done` when the caller
won, holds no count. -/
theorem countHeld_eq_zero {o : Outcome} (hc : c.caller = .returned o)
    (hw : c.phase = .abandoned → c.worker.beforeDone = false) : c.countHeld = 0 := by
  unfold Call.countHeld
  by_cases hp : c.phase = .abandoned
  · simp [CallerAt.holdsCount, hc, hp, hw hp]
  · simp [CallerAt.holdsCount, hc, hp]

/-- An abandoned call that holds no count has a worker past its final `Done`. -/
theorem beforeDone_of_countHeld (h : c.countHeld = 0) (hp : c.phase = .abandoned) :
    c.worker.beforeDone = false := by
  unfold Call.countHeld at h
  simp only [hp, decide_true, Bool.true_and, Nat.add_eq_zero_iff, Bool.toNat_eq_zero] at h
  exact h.2

/-- The caller is between its `Add(1)` and the end of the branch its claim took. -/
def CallerAt.inAbandonWindow : CallerAt → Bool
  | .counted | .marked | .claimed | .lost | .uncounted => true
  | _ => false

/-- The worker is inside its report of a late end. -/
def WorkerAt.inLateEnd : WorkerAt → Bool
  | .reporting | .reported => true
  | _ => false

theorem holdsCount_eq_holdsGauge {a : CallerAt} (h : a.inAbandonWindow = false) :
    a.holdsCount = a.holdsGauge := by
  cases a <;> simp_all [CallerAt.inAbandonWindow, CallerAt.holdsCount, CallerAt.holdsGauge]

theorem beforeDone_eq_beforeReport {w : WorkerAt} (h : w.inLateEnd = false) :
    w.beforeDone = w.beforeReport := by
  cases w <;> simp_all [WorkerAt.inLateEnd, WorkerAt.beforeDone, WorkerAt.beforeReport]

/-- Outside the caller's abandon window and the worker's report, a call holds as many
counts as gauge units. -/
theorem countHeld_eq_gaugeHeld (hc : c.caller.inAbandonWindow = false)
    (hw : c.worker.inLateEnd = false) : c.countHeld = c.gaugeHeld := by
  unfold Call.countHeld Call.gaugeHeld
  rw [holdsCount_eq_holdsGauge hc, beforeDone_eq_beforeReport hw]

end Timebox.Handoff
