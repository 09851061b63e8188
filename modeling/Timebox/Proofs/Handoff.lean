import Mathlib
import Timebox.Run.Handoff

/-! # The hand-off of one call under every interleaving

The caller and the worker of one call each run a short program of steps (`Call.callerStep`,
`Call.workerStep`); `Call.interleave` runs any interleaving of them. This module proves what
every interleaving agrees on.

* **Moves.** `CallerMove` and `WorkerMove` say, place by place, everything one step of a
  party can do: the guard it needs, the call after it and its effects. `callerStep_move`
  and `workerStep_move` are the only lemmas that open the step functions.
* **The invariant.** `Consistent ending c` ties the cell, the record, `done` and the places
  of both parties together: while the cell is unclaimed neither party has tried its claim;
  once the worker's claim won, the worker is past the work and the caller settles from the
  record; once the caller's claim won, the caller gives up without reading it. Every move
  keeps it (`Consistent.callerMove`, `Consistent.workerMove`), so every interleaving does
  (`consistent_interleave`).
* **Late ends.** `lateEnds` counts the reports of a late end among effects. One move adds
  one exactly when the worker, having lost the cell, reports (`lateEnds_interleave`), and
  the report carries the recorded error.

The main statement is `handoff_agreement`.
-/

namespace Timebox.Handoff

/-! ### What one step can do -/

/-- One step of the caller at time `now`, by the place it is at. -/
inductive CallerMove (now : Int) : Call → Call → List Effect → Prop
  | timer {c : Call} : c.caller = .waiting → CallerMove now c { c with caller := .counted } [.count]
  | wake {c : Call} : c.caller = .waiting → c.doneClosed = true →
      CallerMove now c { c with caller := .settling } []
  | mark {c : Call} : c.caller = .counted → CallerMove now c { c with caller := .marked } [.gaugeUp]
  | claim {c : Call} : c.caller = .marked → c.phase = .running →
      CallerMove now c { c with phase := .abandoned, caller := .claimed } []
  | lose {c : Call} : c.caller = .marked → c.phase ≠ .running →
      CallerMove now c { c with caller := .lost } []
  | giveUp {c : Call} : c.caller = .claimed →
      CallerMove now c { c with caller := .returned (Outcome.timedOut c.ty ⟨now - c.start⟩) }
        [.cancel, .giveUp now]
  | revert {c : Call} : c.caller = .lost → CallerMove now c { c with caller := .uncounted } [.uncount]
  | unmark {c : Call} : c.caller = .uncounted →
      CallerMove now c { c with caller := .awaiting } [.gaugeDown]
  | awake {c : Call} : c.caller = .awaiting → c.doneClosed = true →
      CallerMove now c { c with caller := .settling } []
  | settle {c : Call} : c.caller = .settling →
      CallerMove now c { c with caller := .returned (settleOutcome c now).1 } [(settleOutcome c now).2]

/-- One step of the worker at time `now`, for a work that ends as `ending`. -/
inductive WorkerMove (ending : Ending (Value × Option Fault)) (now : Int) :
    Call → Call → List Effect → Prop
  | finish {c : Call} : c.worker = .working →
      WorkerMove ending now c
        { c with record := some (Call.endingRecord c.ty now ending), worker := .recorded } []
  | cancel {c : Call} : c.worker = .recorded →
      WorkerMove ending now c { c with worker := .cancelled } [.cancel]
  | claim {c : Call} : c.worker = .cancelled → c.phase = .running →
      WorkerMove ending now c { c with phase := .finished, worker := .closing } []
  | lose {c : Call} : c.worker = .cancelled → c.phase ≠ .running →
      WorkerMove ending now c { c with worker := .reporting } []
  | report {c : Call} : c.worker = .reporting →
      WorkerMove ending now c { c with worker := .reported }
        [.lateEnd ((c.record.map (·.err)).getD none)]
  | uncount {c : Call} : c.worker = .reported →
      WorkerMove ending now c { c with worker := .closing } [.uncount]
  | close {c : Call} : c.worker = .closing →
      WorkerMove ending now c { c with doneClosed := true, worker := .exited } []

/-- One step of either party. -/
inductive Move (ending : Ending (Value × Option Fault)) (now : Int) (c c' : Call)
    (es : List Effect) : Prop
  | caller : CallerMove now c c' es → Move ending now c c' es
  | worker : WorkerMove ending now c c' es → Move ending now c c' es

variable {c c' : Call} {es : List Effect} {now : Int} {ending : Ending (Value × Option Fault)}

theorem callerStep_move {byTimer : Bool} (h : c.callerStep byTimer now = some (c', es)) :
    CallerMove now c c' es := by
  cases hc : c.caller with
  | waiting =>
    cases byTimer with
    | true =>
      simp only [Call.callerStep, hc, if_true, Option.some.injEq, Prod.mk.injEq] at h
      obtain ⟨rfl, rfl⟩ := h
      exact .timer hc
    | false =>
      by_cases hd : c.doneClosed = true
      · simp only [Call.callerStep, hc, Bool.false_eq_true, if_false, if_pos hd,
          Option.some.injEq, Prod.mk.injEq] at h
        obtain ⟨rfl, rfl⟩ := h
        exact .wake hc hd
      · simp [Call.callerStep, hc, hd] at h
  | counted =>
    simp only [Call.callerStep, hc, Option.some.injEq, Prod.mk.injEq] at h
    obtain ⟨rfl, rfl⟩ := h
    exact .mark hc
  | marked =>
    simp only [Call.callerStep, hc] at h
    split at h
    · cases h; exact .claim hc ‹_›
    · cases h; exact .lose hc ‹_›
  | claimed =>
    simp only [Call.callerStep, hc, Option.some.injEq, Prod.mk.injEq] at h
    obtain ⟨rfl, rfl⟩ := h
    exact .giveUp hc
  | lost =>
    simp only [Call.callerStep, hc, Option.some.injEq, Prod.mk.injEq] at h
    obtain ⟨rfl, rfl⟩ := h
    exact .revert hc
  | uncounted =>
    simp only [Call.callerStep, hc, Option.some.injEq, Prod.mk.injEq] at h
    obtain ⟨rfl, rfl⟩ := h
    exact .unmark hc
  | awaiting =>
    simp only [Call.callerStep, hc] at h
    split at h
    · cases h; exact .awake hc ‹_›
    · cases h
  | settling =>
    simp only [Call.callerStep, hc, Option.some.injEq, Prod.mk.injEq] at h
    obtain ⟨rfl, rfl⟩ := h
    exact .settle hc
  | returned o => simp [Call.callerStep, hc] at h

theorem workerStep_move (h : c.workerStep ending now = some (c', es)) :
    WorkerMove ending now c c' es := by
  cases hw : c.worker with
  | working =>
    simp only [Call.workerStep, hw, Option.some.injEq, Prod.mk.injEq] at h
    obtain ⟨rfl, rfl⟩ := h
    exact .finish hw
  | recorded =>
    simp only [Call.workerStep, hw, Option.some.injEq, Prod.mk.injEq] at h
    obtain ⟨rfl, rfl⟩ := h
    exact .cancel hw
  | cancelled =>
    simp only [Call.workerStep, hw] at h
    split at h
    · cases h; exact .claim hw ‹_›
    · cases h; exact .lose hw ‹_›
  | reporting =>
    simp only [Call.workerStep, hw, Option.some.injEq, Prod.mk.injEq] at h
    obtain ⟨rfl, rfl⟩ := h
    exact .report hw
  | reported =>
    simp only [Call.workerStep, hw, Option.some.injEq, Prod.mk.injEq] at h
    obtain ⟨rfl, rfl⟩ := h
    exact .uncount hw
  | closing =>
    simp only [Call.workerStep, hw, Option.some.injEq, Prod.mk.injEq] at h
    obtain ⟨rfl, rfl⟩ := h
    exact .close hw
  | exited => simp [Call.workerStep, hw] at h

/-- A turn is a move of one party, or passes when that party cannot move. -/
theorem turn_cases (c : Call) (ending : Ending (Value × Option Fault)) (t : Turn) :
    c.turn ending t = (c, []) ∨ ∃ now, Move ending now c (c.turn ending t).1 (c.turn ending t).2 := by
  cases t with
  | caller byTimer now =>
    cases h : c.callerStep byTimer now with
    | none => left; simp [Call.turn, h]
    | some r =>
      obtain ⟨c', es⟩ := r
      simp only [Call.turn, h, Option.getD_some]
      exact .inr ⟨now, .caller (callerStep_move h)⟩
  | worker now =>
    cases h : c.workerStep ending now with
    | none => left; simp [Call.turn, h]
    | some r =>
      obtain ⟨c', es⟩ := r
      simp only [Call.turn, h, Option.getD_some]
      exact .inr ⟨now, .worker (workerStep_move h)⟩

/-! ### The invariant -/

/-- The worker has not yet tried its claim. -/
def WorkerAt.Unclaimed (w : WorkerAt) : Prop := w = .working ∨ w = .recorded ∨ w = .cancelled

/-- The caller has not yet tried its claim. -/
def CallerAt.Unclaimed (a : CallerAt) : Prop := a = .waiting ∨ a = .counted ∨ a = .marked

/-- The caller gave up, or is about to: a timed out outcome that reads nothing the worker
wrote. -/
def CallerAt.GaveUp (a : CallerAt) (ty : Ty) (start : Int) : Prop :=
  a = .claimed ∨ ∃ now, a = .returned (Outcome.timedOut ty ⟨now - start⟩)

/-- The caller did not claim the call, and what it returned it settled from the record. -/
def CallerAt.Settles (a : CallerAt) (c : Call) : Prop :=
  a ≠ .claimed ∧ ∀ o, a = .returned o → ∃ now, o = (settleOutcome c now).1

/-- How the cell, the record, `done` and the places of both parties fit together in every
state an interleaving reaches, for a work that ends as `ending`. -/
structure Consistent (ending : Ending (Value × Option Fault)) (c : Call) : Prop where
  /-- The record is written exactly when the work has ended. -/
  recorded : c.record = none ↔ c.worker = .working
  /-- What is recorded is how the work ended, at the time it did. -/
  record_eq : ∀ r, c.record = some r → r = Call.endingRecord c.ty r.finishedAt ending
  /-- `done` is closed exactly when the worker has exited. -/
  closed : c.doneClosed = true ↔ c.worker = .exited
  /-- The caller reads the record only once `done` is closed. -/
  settling : c.caller = .settling → c.doneClosed = true
  /-- While the cell is unclaimed, neither party has tried its claim. -/
  running : c.phase = .running → c.worker.Unclaimed ∧ c.caller.Unclaimed
  /-- Once the worker's claim won, the worker is past the work and closes `done` or has
  closed it, and the caller settles from the record. -/
  finished : c.phase = .finished → (c.worker = .closing ∨ c.worker = .exited) ∧ c.caller.Settles c
  /-- Once the caller's claim won, the caller gives up. -/
  abandoned : c.phase = .abandoned → c.caller.GaveUp c.ty c.start

@[simp] theorem endingRecord_finishedAt (ty : Ty) (t : Int) :
    (Call.endingRecord ty t ending).finishedAt = t := by
  cases ending <;> rfl

/-- Settling reads the record, the type, the start and the deadline of the call, nothing
else. -/
theorem settleOutcome_congr {d : Call} (hr : d.record = c.record) (ht : d.ty = c.ty)
    (hs : d.start = c.start) (hd : d.deadline = c.deadline) :
    settleOutcome d now = settleOutcome c now := by
  simp only [settleOutcome, hr, ht, hs, hd]

/-- Settling from a call reads only its record, type, start and deadline. -/
theorem CallerAt.Settles.congr {a : CallerAt} {d : Call} (hr : d.record = c.record)
    (ht : d.ty = c.ty) (hs : d.start = c.start) (hd : d.deadline = c.deadline)
    (h : a.Settles c) : a.Settles d := by
  refine ⟨h.1, fun o ho => ?_⟩
  obtain ⟨t, rfl⟩ := h.2 o ho
  exact ⟨t, congrArg Prod.fst (settleOutcome_congr hr ht hs hd).symm⟩

theorem consistent_begin (ending : Ending (Value × Option Fault)) (ty : Ty) (start deadline : Int) :
    Consistent ending (Call.begin ty start deadline) where
  recorded := by simp [Call.begin]
  record_eq := by simp [Call.begin]
  closed := by simp [Call.begin]
  settling := by simp [Call.begin]
  running := fun _ => ⟨.inl rfl, .inl rfl⟩
  finished := by simp [Call.begin]
  abandoned := by simp [Call.begin]

namespace Consistent

variable (hi : Consistent ending c)
include hi

theorem not_abandoned_of_unclaimed (h : c.caller.Unclaimed) : c.phase ≠ .abandoned := by
  intro hp
  rcases hi.abandoned hp with hc | ⟨t, hc⟩ <;>
    rcases h with h | h | h <;> rw [h] at hc <;> cases hc

theorem abandoned_of_claimed (h : c.caller = .claimed) : c.phase = .abandoned := by
  cases hp : c.phase with
  | running => rcases (hi.running hp).2 with h' | h' | h' <;> rw [h] at h' <;> cases h'
  | finished => exact absurd h (hi.finished hp).2.1
  | abandoned => rfl

/-- A caller past a lost claim, or woken by `done`, is on the worker's side of the cell. -/
theorem finished_of_settles (h : c.caller = .lost ∨ c.caller = .uncounted ∨
    c.caller = .awaiting ∨ c.caller = .settling) : c.phase = .finished := by
  cases hp : c.phase with
  | running => rcases (hi.running hp).2 with h' | h' | h' <;> rcases h with h | h | h | h <;>
      rw [h] at h' <;> cases h'
  | finished => rfl
  | abandoned =>
    rcases hi.abandoned hp with h' | ⟨t, h'⟩ <;> rcases h with h | h | h | h <;>
      rw [h] at h' <;> cases h'

/-- A worker reporting a late end lost the cell to the caller. -/
theorem abandoned_of_reporting (h : c.worker = .reporting ∨ c.worker = .reported) :
    c.phase = .abandoned := by
  cases hp : c.phase with
  | running =>
    rcases (hi.running hp).1 with h' | h' | h' <;> rcases h with h | h <;> rw [h] at h' <;>
      cases h'
  | finished =>
    rcases (hi.finished hp).1 with h' | h' <;> rcases h with h | h <;> rw [h] at h' <;> cases h'
  | abandoned => rfl

/-- The caller moves to `a`, a place that fits the cell as it is. -/
theorem setCaller (a : CallerAt) (hs : a = .settling → c.doneClosed = true)
    (hr : c.phase = .running → a.Unclaimed) (hf : c.phase = .finished → a.Settles c)
    (ha : c.phase = .abandoned → a.GaveUp c.ty c.start) :
    Consistent ending { c with caller := a } where
  recorded := hi.recorded
  record_eq := hi.record_eq
  closed := hi.closed
  settling := hs
  running := fun hp => ⟨(hi.running hp).1, hr hp⟩
  finished := fun hp => ⟨(hi.finished hp).1, (hf hp).congr rfl rfl rfl rfl⟩
  abandoned := ha

/-- Every move of the caller keeps the invariant. -/
theorem callerMove (hm : CallerMove now c c' es) : Consistent ending c' := by
  cases hm with
  | timer hc =>
    have ha := hi.not_abandoned_of_unclaimed (.inl hc)
    exact hi.setCaller _ (fun h => by cases h) (fun _ => .inr (.inl rfl))
      (fun _ => ⟨by simp, fun o h => by cases h⟩) (fun h => absurd h ha)
  | wake hc hd =>
    have ha := hi.not_abandoned_of_unclaimed (.inl hc)
    -- `done` is closed, so the worker has exited and the cell is claimed
    have hr : c.phase ≠ .running := fun hp => by
      rcases (hi.running hp).1 with h | h | h <;> rw [hi.closed.mp hd] at h <;> cases h
    exact hi.setCaller _ (fun _ => hd) (fun h => absurd h hr)
      (fun _ => ⟨by simp, fun o h => by cases h⟩) (fun h => absurd h ha)
  | mark hc =>
    have ha := hi.not_abandoned_of_unclaimed (.inr (.inl hc))
    exact hi.setCaller _ (fun h => by cases h) (fun _ => .inr (.inr rfl))
      (fun _ => ⟨by simp, fun o h => by cases h⟩) (fun h => absurd h ha)
  | claim hc hp =>
    exact { recorded := hi.recorded, record_eq := hi.record_eq, closed := hi.closed
            settling := fun h => by cases h
            running := fun h => by cases h
            finished := fun h => by cases h
            abandoned := fun _ => .inl rfl }
  | lose hc hp =>
    have ha := hi.not_abandoned_of_unclaimed (.inr (.inr hc))
    exact hi.setCaller _ (fun h => by cases h) (fun h => absurd h hp)
      (fun _ => ⟨by simp, fun o h => by cases h⟩) (fun h => absurd h ha)
  | giveUp hc =>
    have hp := hi.abandoned_of_claimed hc
    exact hi.setCaller _ (fun h => by cases h) (fun h => by rw [hp] at h; cases h)
      (fun h => by rw [hp] at h; cases h) (fun _ => .inr ⟨now, rfl⟩)
  | revert hc =>
    have hp := hi.finished_of_settles (.inl hc)
    exact hi.setCaller _ (fun h => by cases h) (fun h => by rw [hp] at h; cases h)
      (fun _ => ⟨by simp, fun o h => by cases h⟩) (fun h => by rw [hp] at h; cases h)
  | unmark hc =>
    have hp := hi.finished_of_settles (.inr (.inl hc))
    exact hi.setCaller _ (fun h => by cases h) (fun h => by rw [hp] at h; cases h)
      (fun _ => ⟨by simp, fun o h => by cases h⟩) (fun h => by rw [hp] at h; cases h)
  | awake hc hd =>
    have hp := hi.finished_of_settles (.inr (.inr (.inl hc)))
    exact hi.setCaller _ (fun _ => hd) (fun h => by rw [hp] at h; cases h)
      (fun _ => ⟨by simp, fun o h => by cases h⟩) (fun h => by rw [hp] at h; cases h)
  | settle hc =>
    have hp := hi.finished_of_settles (.inr (.inr (.inr hc)))
    exact hi.setCaller _ (fun h => by cases h) (fun h => by rw [hp] at h; cases h)
      (fun _ => ⟨by simp, fun o h => ⟨now, (CallerAt.returned.inj h).symm⟩⟩)
      (fun h => by rw [hp] at h; cases h)

theorem record_ne_none (h : c.worker ≠ .working) : c.record ≠ none :=
  fun hr => h (hi.recorded.mp hr)

/-- A worker past the work has written the record. -/
theorem exists_record (h : c.worker ≠ .working) : ∃ r, c.record = some r :=
  Option.ne_none_iff_exists'.mp (hi.record_ne_none h)

theorem doneClosed_false (h : c.worker ≠ .exited) : c.doneClosed = false := by
  cases hd : c.doneClosed with
  | false => rfl
  | true => exact absurd (hi.closed.mp hd) h

/-- The worker moves from one place past the work to another, before `done` is closed. -/
theorem setWorker (w : WorkerAt) (hw : c.worker ≠ .working) (hw' : w ≠ .working)
    (hx : c.worker ≠ .exited) (hx' : w ≠ .exited) (hr : c.phase = .running → w.Unclaimed)
    (hf : c.phase = .finished → w = .closing ∨ w = .exited) :
    Consistent ending { c with worker := w } where
  recorded := by simp [hi.record_ne_none hw, hw']
  record_eq := hi.record_eq
  closed := by simp [hi.doneClosed_false hx, hx']
  settling := fun h => absurd (hi.closed.mp (hi.settling h)) hx
  running := fun hp => ⟨hr hp, (hi.running hp).2⟩
  finished := fun hp => ⟨hf hp, (hi.finished hp).2.congr rfl rfl rfl rfl⟩
  abandoned := hi.abandoned

/-- Every move of the worker keeps the invariant. -/
theorem workerMove (hm : WorkerMove ending now c c' es) : Consistent ending c' := by
  cases hm with
  | finish hw =>
    have hd := hi.doneClosed_false (by rw [hw]; simp)
    exact { recorded := by simp
            record_eq := fun r h => by cases h; simp
            closed := by simp [hd]
            settling := fun h => by rw [hi.settling h] at hd; cases hd
            running := fun hp => ⟨.inr (.inl rfl), (hi.running hp).2⟩
            finished := fun hp => by
              rcases (hi.finished hp).1 with h | h <;> rw [hw] at h <;> cases h
            abandoned := hi.abandoned }
  | cancel hw =>
    refine hi.setWorker _ (by rw [hw]; simp) (by simp) (by rw [hw]; simp) (by simp)
      (fun _ => .inr (.inr rfl)) (fun hp => ?_)
    rcases (hi.finished hp).1 with h | h <;> rw [hw] at h <;> cases h
  | claim hw hp =>
    have hd := hi.doneClosed_false (by rw [hw]; simp)
    exact { recorded := by simp [hi.record_ne_none (by rw [hw]; simp)]
            record_eq := hi.record_eq
            closed := by simp [hd]
            settling := fun h => by rw [hi.settling h] at hd; cases hd
            running := fun h => by cases h
            finished := fun _ => ⟨.inl rfl, by
              refine ⟨fun h => ?_, fun o h => ?_⟩ <;>
                rcases (hi.running hp).2 with h' | h' | h' <;> rw [h] at h' <;> cases h'⟩
            abandoned := fun h => by cases h }
  | lose hw hp =>
    refine hi.setWorker _ (by rw [hw]; simp) (by simp) (by rw [hw]; simp) (by simp)
      (fun h => absurd h hp) (fun hf => ?_)
    rcases (hi.finished hf).1 with h | h <;> rw [hw] at h <;> cases h
  | report hw =>
    refine hi.setWorker _ (by rw [hw]; simp) (by simp) (by rw [hw]; simp) (by simp)
      (fun hp => ?_) (fun hf => ?_)
    · rcases (hi.running hp).1 with h | h | h <;> rw [hw] at h <;> cases h
    · rcases (hi.finished hf).1 with h | h <;> rw [hw] at h <;> cases h
  | uncount hw =>
    refine hi.setWorker _ (by rw [hw]; simp) (by simp) (by rw [hw]; simp) (by simp)
      (fun hp => ?_) (fun _ => .inl rfl)
    rcases (hi.running hp).1 with h | h | h <;> rw [hw] at h <;> cases h
  | close hw =>
    exact { recorded := by simp [hi.record_ne_none (by rw [hw]; simp)]
            record_eq := hi.record_eq
            closed := by simp
            settling := fun _ => rfl
            running := fun hp => by
              rcases (hi.running hp).1 with h | h | h <;> rw [hw] at h <;> cases h
            finished := fun hp => ⟨.inr rfl, (hi.finished hp).2.congr rfl rfl rfl rfl⟩
            abandoned := hi.abandoned }

/-- A caller that has returned returned either a timed out outcome, its claim having won,
or the outcome it settled from the record the worker wrote, the worker's claim having won. -/
theorem returned {o : Outcome} (h : c.caller = .returned o) :
    (c.phase = .abandoned ∧ ∃ now, o = Outcome.timedOut c.ty ⟨now - c.start⟩) ∨
    (c.phase = .finished ∧ ∃ now r, c.record = some r ∧
      r = Call.endingRecord c.ty r.finishedAt ending ∧ o = (settleOutcome c now).1) := by
  cases hp : c.phase with
  | running => rcases (hi.running hp).2 with h' | h' | h' <;> rw [h] at h' <;> cases h'
  | finished =>
    obtain ⟨r, hr⟩ := hi.exists_record (by
      rcases (hi.finished hp).1 with h' | h' <;> rw [h'] <;> simp)
    obtain ⟨now, rfl⟩ := (hi.finished hp).2.2 o h
    exact .inr ⟨rfl, now, r, hr, hi.record_eq r hr, rfl⟩
  | abandoned =>
    rcases hi.abandoned hp with h' | ⟨now, h'⟩ <;> rw [h] at h'
    · cases h'
    · exact .inl ⟨rfl, now, CallerAt.returned.inj h'⟩

theorem move (hm : Move ending now c c' es) : Consistent ending c' := by
  cases hm with
  | caller hm => exact hi.callerMove hm
  | worker hm => exact hi.workerMove hm

/-- Every turn keeps the invariant. -/
theorem turn (t : Turn) : Consistent ending (c.turn ending t).1 := by
  rcases turn_cases c ending t with h | ⟨now, hm⟩
  · rw [h]; exact hi
  · exact hi.move hm

end Consistent

@[simp] theorem interleave_nil : c.interleave ending [] = (c, []) := rfl

@[simp] theorem interleave_cons (t : Turn) (ts : List Turn) :
    c.interleave ending (t :: ts) =
      (((c.turn ending t).1.interleave ending ts).1,
        (c.turn ending t).2 ++ ((c.turn ending t).1.interleave ending ts).2) := rfl

/-- What is fixed when a call starts stays: its result type, start and deadline. -/
theorem fixed_move (hm : Move ending now c c' es) :
    c'.ty = c.ty ∧ c'.start = c.start ∧ c'.deadline = c.deadline := by
  rcases hm with hm | hm <;> cases hm <;> exact ⟨rfl, rfl, rfl⟩

theorem fixed_turn (c : Call) (ending : Ending (Value × Option Fault)) (t : Turn) :
    (c.turn ending t).1.ty = c.ty ∧
    (c.turn ending t).1.start = c.start ∧ (c.turn ending t).1.deadline = c.deadline := by
  rcases turn_cases c ending t with h | ⟨now, hm⟩
  · rw [h]; exact ⟨rfl, rfl, rfl⟩
  · exact fixed_move hm

theorem fixed_interleave (c : Call) (ending : Ending (Value × Option Fault)) (ts : List Turn) :
    (c.interleave ending ts).1.ty = c.ty ∧
    (c.interleave ending ts).1.start = c.start ∧
    (c.interleave ending ts).1.deadline = c.deadline := by
  induction ts generalizing c with
  | nil => exact ⟨rfl, rfl, rfl⟩
  | cons t ts ih =>
    obtain ⟨h1, h2, h3⟩ := fixed_turn c ending t
    obtain ⟨g1, g2, g3⟩ := ih (c.turn ending t).1
    exact ⟨g1.trans h1, g2.trans h2, g3.trans h3⟩

/-- The invariant holds in every state an interleaving reaches. -/
theorem consistent_interleave (hi : Consistent ending c) (ts : List Turn) :
    Consistent ending (c.interleave ending ts).1 := by
  induction ts generalizing c with
  | nil => exact hi
  | cons t ts ih => exact ih (hi.turn t)

/-- The turns of two lists in a row: the second list goes on from where the first left the
call. -/
theorem interleave_append (c : Call) (ts us : List Turn) :
    c.interleave ending (ts ++ us) =
      (((c.interleave ending ts).1.interleave ending us).1,
        (c.interleave ending ts).2 ++ ((c.interleave ending ts).1.interleave ending us).2) := by
  induction ts generalizing c with
  | nil => rfl
  | cons t ts ih => simp [ih, List.append_assoc]

/-- What every move keeps of a call and of the effects made so far, every interleaving
keeps. -/
theorem interleave_inv (P : Call → List Effect → Prop)
    (hmove : ∀ {c c' : Call} {es es' : List Effect} {now : Int}, Consistent ending c →
      P c es → Move ending now c c' es' → P c' (es ++ es'))
    (hi : Consistent ending c) {es : List Effect} (hp : P c es) (ts : List Turn) :
    P (c.interleave ending ts).1 (es ++ (c.interleave ending ts).2) := by
  induction ts generalizing c es with
  | nil => simpa using hp
  | cons t ts ih =>
    have hstep : P (c.turn ending t).1 (es ++ (c.turn ending t).2) := by
      rcases turn_cases c ending t with h | ⟨now, hm⟩
      · rw [h, List.append_nil]; exact hp
      · exact hmove hi hp hm
    rw [interleave_cons, ← List.append_assoc]
    exact ih (hi.turn t) hstep

/-! ### Late ends -/

/-- Whether an effect reports a late end. -/
def Effect.isLateEnd : Effect → Bool
  | .lateEnd _ => true
  | _ => false

/-- How many late ends the effects report. -/
def lateEnds (es : List Effect) : Nat := es.countP Effect.isLateEnd

/-- The worker is past the report it makes when it loses the cell. -/
def WorkerAt.pastReport : WorkerAt → Bool
  | .reported | .closing | .exited => true
  | _ => false

/-- The worker lost the cell and is past its report of the late end. -/
def Call.reportedLate (c : Call) : Bool := decide (c.phase = .abandoned) && c.worker.pastReport

/-- Where the caller is does not change what the worker has reported. -/
@[simp] theorem reportedLate_setCaller (a : CallerAt) :
    ({ c with caller := a } : Call).reportedLate = c.reportedLate := rfl

@[simp] theorem lateEnds_nil : lateEnds [] = 0 := rfl

@[simp] theorem lateEnds_append (es fs : List Effect) :
    lateEnds (es ++ fs) = lateEnds es + lateEnds fs := List.countP_append

/-- Settling reports no late end. -/
@[simp] theorem isLateEnd_settleOutcome (c : Call) (now : Int) :
    (settleOutcome c now).2.isLateEnd = false := by
  unfold settleOutcome
  split
  · split <;> rfl
  · rfl

/-- A late end is reported by one move: the worker's report after it lost the cell. -/
theorem lateEnds_move (hi : Consistent ending c) (hm : Move ending now c c' es) :
    c'.reportedLate.toNat = c.reportedLate.toNat + lateEnds es := by
  rcases hm with hm | hm
  · cases hm with
    | claim hc hp =>
      rcases (hi.running hp).1 with h | h | h <;>
        simp [Call.reportedLate, WorkerAt.pastReport, hp, h, lateEnds]
    | settle hc => simp [lateEnds]
    | _ => simp [lateEnds, Effect.isLateEnd]
  · cases hm with
    | report hw =>
      have hp := hi.abandoned_of_reporting (.inl hw)
      simp [Call.reportedLate, WorkerAt.pastReport, hp, hw, lateEnds, Effect.isLateEnd]
    | _ => simp [Call.reportedLate, WorkerAt.pastReport, lateEnds, Effect.isLateEnd, *]

/-- The late ends of an interleaving are counted by where it leaves the worker. -/
theorem lateEnds_interleave (hi : Consistent ending c) (ts : List Turn) :
    (c.interleave ending ts).1.reportedLate.toNat =
      c.reportedLate.toNat + lateEnds (c.interleave ending ts).2 := by
  have h := interleave_inv (fun c' es => c'.reportedLate.toNat = c.reportedLate.toNat + lateEnds es)
    (fun hi' hp hm => by rw [lateEnds_move hi' hm, hp, lateEnds_append, Nat.add_assoc])
    hi (show c.reportedLate.toNat = c.reportedLate.toNat + lateEnds [] from rfl) ts
  simpa using h

/-! ### What a late end carries -/

/-- Once written, the record stays. -/
theorem record_move (hi : Consistent ending c) {r : Record} (hr : c.record = some r)
    (hm : Move ending now c c' es) : c'.record = some r := by
  rcases hm with hm | hm
  · cases hm <;> exact hr
  · cases hm with
    | finish hw => rw [hi.recorded.mpr hw] at hr; cases hr
    | _ => exact hr

theorem record_turn (hi : Consistent ending c) {r : Record} (hr : c.record = some r)
    (t : Turn) : (c.turn ending t).1.record = some r := by
  rcases turn_cases c ending t with h | ⟨now, hm⟩
  · rw [h]; exact hr
  · exact record_move hi hr hm

theorem record_interleave (hi : Consistent ending c) {r : Record} (hr : c.record = some r)
    (ts : List Turn) : (c.interleave ending ts).1.record = some r := by
  induction ts generalizing c with
  | nil => exact hr
  | cons t ts ih => exact ih (hi.turn t) (record_turn hi hr t)

/-- A late end reported by a move carries the error the worker recorded. -/
theorem lateEnd_move (hi : Consistent ending c)
    (hm : Move ending now c c' es) {err : Option Fault}
    (he : Effect.lateEnd err ∈ es) : ∃ r, c.record = some r ∧ err = r.err := by
  rcases hm with hm | hm
  · cases hm with
    | settle hc =>
      simp only [List.mem_singleton] at he
      have := isLateEnd_settleOutcome c now
      rw [← he] at this
      cases this
    | _ => simp at he
  · cases hm with
    | report hw =>
      obtain ⟨r, hr⟩ := hi.exists_record (by rw [hw]; simp)
      simp only [List.mem_singleton, Effect.lateEnd.injEq] at he
      exact ⟨r, hr, by rw [he, hr]; rfl⟩
    | _ => simp at he

/-- Every late end of an interleaving carries the error the worker recorded. -/
theorem lateEnd_interleave (hi : Consistent ending c) (ts : List Turn) {err : Option Fault}
    (he : Effect.lateEnd err ∈ (c.interleave ending ts).2) :
    ∃ r, (c.interleave ending ts).1.record = some r ∧ err = r.err := by
  -- every late end made so far carries the record, and a move keeps the record
  have h := interleave_inv
    (fun c' es => ∀ err, Effect.lateEnd err ∈ es → ∃ r, c'.record = some r ∧ err = r.err)
    (fun hi' hp hm err he => by
      rcases List.mem_append.mp he with he | he
      · obtain ⟨r, hr, rfl⟩ := hp err he
        exact ⟨r, record_move hi' hr hm, rfl⟩
      · obtain ⟨r, hr, rfl⟩ := lateEnd_move hi' hm he
        exact ⟨r, record_move hi' hr hm, rfl⟩)
    hi (show ∀ err, Effect.lateEnd err ∈ ([] : List Effect) → _ from fun _ he => by simp at he) ts
  exact h err (by simpa using he)

/-! ### The agreement -/

/-- **Hand-off agreement.** For every way the work ends, every interleaving of the caller's
and the worker's steps and every point at which the timer fires:

* exactly one claim on the cell wins: none before a party tries its claim, and one once the
  caller has returned or the worker has exited;
* when the worker's claim wins, no late end is ever reported, and the caller returns what it
  settles from the record the worker wrote when the work ended;
* when the caller's claim wins, the caller returns timed out without reading the record, and
  the late end is reported exactly once, after the work ended, with the work's error;
* the caller reads the record only once `done` is closed, after the worker wrote it;
* a caller whose claim lost waits only for `done`: the work has ended and the worker only
  has `done` left to close. -/
theorem handoff_agreement (ending : Ending (Value × Option Fault)) (ty : Ty)
    (start deadline : Int) (turns : List Turn) :
    let run := (Call.begin ty start deadline).interleave ending turns
    ((∃ o, run.1.caller = .returned o) ∨ run.1.worker = .exited → run.1.phase ≠ .running) ∧
    (run.1.phase = .finished → lateEnds run.2 = 0 ∧
      ∀ o, run.1.caller = .returned o → ∃ t now,
        run.1.record = some (Call.endingRecord ty t ending) ∧ o = (settleOutcome run.1 now).1) ∧
    (run.1.phase = .abandoned →
      (∀ o, run.1.caller = .returned o → ∃ now, o = Outcome.timedOut ty ⟨now - start⟩) ∧
      lateEnds run.2 = run.1.worker.pastReport.toNat ∧
      ∀ err, Effect.lateEnd err ∈ run.2 → ∃ t,
        run.1.record = some (Call.endingRecord ty t ending) ∧
          err = (Call.endingRecord ty t ending).err) ∧
    (run.1.caller = .settling → run.1.doneClosed = true ∧
      ∃ t, run.1.record = some (Call.endingRecord ty t ending)) ∧
    (run.1.caller = .lost ∨ run.1.caller = .uncounted ∨ run.1.caller = .awaiting →
      run.1.phase = .finished ∧ (run.1.worker = .closing ∨ run.1.worker = .exited)) := by
  intro run
  have hi : Consistent ending run.1 := consistent_interleave (consistent_begin ending ty start deadline) turns
  have hty : run.1.ty = ty := (fixed_interleave _ ending turns).1
  have hstart : run.1.start = start := (fixed_interleave _ ending turns).2.1
  have hcount : run.1.reportedLate.toNat = lateEnds run.2 := by
    have := lateEnds_interleave (consistent_begin ending ty start deadline) turns
    simp only [Call.reportedLate, Call.begin, reduceCtorEq, decide_false, Bool.false_and,
      Bool.toNat_false, Nat.zero_add] at this
    exact this
  -- the record, once the work has ended, is how it ended
  have hrec (r : Record) (hr : run.1.record = some r) :
      run.1.record = some (Call.endingRecord ty r.finishedAt ending) := by
    rw [hr, ← hty, ← hi.record_eq r hr]
  have hwrote (hw : run.1.worker ≠ .working) :
      ∃ t, run.1.record = some (Call.endingRecord ty t ending) := by
    obtain ⟨r, hr⟩ := hi.exists_record hw
    exact ⟨r.finishedAt, hrec r hr⟩
  refine ⟨?_, fun hp => ⟨?_, ?_⟩, fun hp => ⟨?_, ?_, ?_⟩, fun hs => ⟨hi.settling hs, ?_⟩, ?_⟩
  · rintro (⟨o, ho⟩ | hx) hp
    · rcases (hi.running hp).2 with h | h | h <;> rw [ho] at h <;> cases h
    · rcases (hi.running hp).1 with h | h | h <;> rw [hx] at h <;> cases h
  · rw [← hcount]
    simp [Call.reportedLate, hp]
  · intro o ho
    obtain ⟨t, hr⟩ := hwrote (by rcases (hi.finished hp).1 with h | h <;> rw [h] <;> simp)
    obtain ⟨now, rfl⟩ := (hi.finished hp).2.2 o ho
    exact ⟨t, now, hr, rfl⟩
  · intro o ho
    rcases hi.abandoned hp with h | ⟨now, h⟩
    · rw [ho] at h; cases h
    · rw [ho] at h
      exact ⟨now, by rw [CallerAt.returned.inj h, hty, hstart]⟩
  · rw [← hcount]
    simp [Call.reportedLate, hp]
  · intro err he
    obtain ⟨r, hr, rfl⟩ := lateEnd_interleave (consistent_begin ending ty start deadline) turns he
    refine ⟨r.finishedAt, hrec r hr, ?_⟩
    rw [hi.record_eq r hr, hty, endingRecord_finishedAt]
  · exact hwrote (by rw [hi.closed.mp (hi.settling hs)]; simp)
  · intro hl
    have hp := hi.finished_of_settles (by rcases hl with h | h | h <;> simp [h])
    exact ⟨hp, (hi.finished hp).1⟩

end Timebox.Handoff
