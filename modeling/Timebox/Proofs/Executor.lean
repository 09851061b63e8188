import Mathlib
import Timebox.Run.Executor
import Timebox.Proofs.Metrics
import Timebox.Proofs.Outcome
import Timebox.Proofs.Double
import Timebox.Session.Executor

/-! # Runs on an executor: what they keep and what they return

Running jobs changes the clock, the counts, the logs, the events and the series of the
metrics, and nothing else: the executors' configurations and the collectors registered stay
as they were (`World.Keeps`). So collectors registered as `Collectors.make` registers them
keep fitting the registry (`World.Fitted`), and then no effect of a caller's or a worker's
step panics (`applyAll_ok`). A session whose metrics make valid names starts in such a world,
with every series at zero (`session_start_metered`).
-/

namespace Timebox.World

open Metrics Registry

/-- What running jobs never changes: the executors' configurations and the collectors
registered. -/
structure Keeps (w w' : World) : Prop where
  shapes : w'.registry.shapes = w.registry.shapes
  main : w'.main.params = w.main.params
  fallback : w'.fallback.params = w.fallback.params

namespace Keeps

variable {w w1 w2 : World}

theorem refl (w : World) : Keeps w w := ⟨rfl, rfl, rfl⟩

theorem trans (h1 : Keeps w w1) (h2 : Keeps w1 w2) : Keeps w w2 :=
  ⟨h2.shapes.trans h1.shapes, h2.main.trans h1.main, h2.fallback.trans h1.fallback⟩

theorem exec (h : Keeps w w1) (which : Which) : (w1.exec which).params = (w.exec which).params := by
  cases which
  · exact h.main
  · exact h.fallback

end Keeps

/-- The world an application of effects leaves, whether a metric panics or not. -/
def left : Except (String × World) World → World
  | .ok w => w
  | .error (_, w) => w

@[simp] theorem left_ok (w : World) : left (.ok w) = w := rfl

theorem left_bind (x : Except (String × World) World) (f : World → Except (String × World) World) :
    left (x >>= f) = match x with
      | .ok w => left (f w)
      | .error (_, w) => w := by
  cases x <;> rfl

theorem keeps_log (w : World) (which : Which) (level : Log.Level) (msg : String)
    (args : List Log.Arg) : Keeps w (w.log which level msg args) := by
  unfold log
  split
  · exact ⟨rfl, rfl, rfl⟩
  · exact Keeps.refl w

theorem keeps_publish (w : World) (which : Which) (e : Event) :
    Keeps w (w.publish which e) := by
  unfold publish
  split
  · exact ⟨rfl, rfl, rfl⟩
  · exact Keeps.refl w

theorem keeps_setExec (w : World) (which : Which) {e : Executor}
    (he : e.params = (w.exec which).params) : Keeps w (w.setExec which e) := by
  cases which
  · exact ⟨rfl, he, rfl⟩
  · exact ⟨rfl, rfl, he⟩

theorem keeps_metric (w : World) (which : Which) {f : Collectors → Op Unit}
    (hf : ∀ c, KeepsShapes (f c)) : Keeps w (left (w.metric which f)) := by
  unfold metric
  split
  · exact Keeps.refl w
  · rename_i c _
    have hs := hf c w.registry
    unfold after at hs
    split <;> rename_i h <;> rw [h] at hs <;> exact ⟨hs, rfl, rfl⟩

theorem keeps_metric_publish (w : World) (which : Which) {f : Collectors → Op Unit}
    (hf : ∀ c, KeepsShapes (f c)) (e : World → Event) :
    Keeps w (left (w.metric which f >>= fun w1 => pure (w1.publish which (e w1)))) := by
  have hm := keeps_metric w which hf
  rw [left_bind]
  split
  · rename_i w1 h
    rw [h] at hm
    exact hm.trans (keeps_publish _ _ _)
  · rename_i w1 h
    rw [h] at hm
    exact hm

/-- No effect of a step changes the executors' configurations or the collectors. -/
theorem keeps_apply (w : World) (which : Which) (job : Job) (c : Handoff.Call)
    (e : Handoff.Effect) : Keeps w (left (w.apply which job c e)) := by
  cases e with
  | count | uncount => exact keeps_setExec w which rfl
  | gaugeUp => exact keeps_metric w which fun _ => Collectors.keepsShapes_bump _ _ _
  | gaugeDown => exact keeps_metric w which fun _ => Collectors.keepsShapes_bump _ _ _
  | cancel => exact Keeps.refl w
  | giveUp now =>
    exact (keeps_log w which _ _ _).trans (keeps_metric_publish _ which
      (fun cs => Collectors.keepsShapes_observeOutcome cs _ _ _) _)
  | settle o => exact keeps_metric w which fun cs => Collectors.keepsShapes_observeOutcome cs _ _ _
  | lateEnd err =>
    exact (keeps_log w which _ _ _).trans ((keeps_metric _ which
      fun cs => Collectors.keepsShapes_finishAbandoned cs _).trans (keeps_publish _ _ _))

theorem keeps_applyAll (w : World) (which : Which) (job : Job) (c : Handoff.Call)
    (es : List Handoff.Effect) : Keeps w (left (w.applyAll which job c es)) := by
  induction es generalizing w with
  | nil => exact Keeps.refl w
  | cons e es ih =>
    have h1 := keeps_apply w which job c e
    simp only [applyAll, left_bind]
    split
    · rename_i w1 h
      rw [h] at h1
      exact h1.trans (ih w1)
    · rename_i w1 h
      rw [h] at h1
      exact h1

theorem keeps_lateEnd (w : World) (which : Which) (p : Pending) : Keeps w (w.lateEnd which p) := by
  unfold lateEnd
  split
  · exact Keeps.refl w
  · exact keeps_applyAll w which p.job _ _

/-- Moving the clock runs late ends only. -/
theorem keeps_advance (w : World) (t : Int) : Keeps w (w.advance t) := by
  have hfold : ∀ (ends : List (Which × Pending)) (w : World),
      Keeps w (ends.foldl (fun w e => w.lateEnd e.1 e.2) w) := by
    intro ends
    induction ends with
    | nil => exact Keeps.refl
    | cons e ends ih => exact fun w => (keeps_lateEnd w e.1 e.2).trans (ih _)
  unfold advance
  cases endingBy w.main.pending t
  cases endingBy w.fallback.pending t
  dsimp only
  exact ⟨(hfold _ _).shapes, (hfold _ _).main, (hfold _ _).fallback⟩

/-- The chosen executor's collectors, if it has any, fit the registry. -/
def Fitted (w : World) (which : Which) : Prop :=
  ∀ c, (w.exec which).params.collectors = some c → c.Fits w.registry

section Fitted

variable {w w' : World} {which : Which}

theorem Fitted.of_keeps (hw : w.Fitted which) (h : Keeps w w') : w'.Fitted which := by
  intro c hc
  rw [h.exec which] at hc
  exact (hw c hc).of_shapes h.shapes

theorem metric_ok (hw : w.Fitted which) {f : Collectors → Op Unit}
    (hf : ∀ c, c.Fits w.registry → ∃ r', (f c).run w.registry = .ok () r') :
    ∃ w', w.metric which f = .ok w' := by
  unfold metric
  split
  · exact ⟨w, rfl⟩
  · rename_i c hc
    obtain ⟨r', h⟩ := hf c (hw c hc)
    exact ⟨_, by rw [h]⟩

theorem metric_publish_ok (hw : w.Fitted which) {f : Collectors → Op Unit}
    (hf : ∀ c, c.Fits w.registry → ∃ r', (f c).run w.registry = .ok () r') (e : World → Event) :
    ∃ w', (w.metric which f >>= fun w1 => pure (w1.publish which (e w1))) = .ok w' := by
  obtain ⟨w1, h⟩ := metric_ok hw hf
  exact ⟨_, by rw [h]; rfl⟩

/-- Under collectors that fit, no effect of a step panics. -/
theorem apply_ok (hw : w.Fitted which) (job : Job) (c : Handoff.Call) (e : Handoff.Effect) :
    ∃ w', w.apply which job c e = .ok w' := by
  cases e with
  | count | uncount | cancel | lateEnd _ => exact ⟨_, rfl⟩
  | gaugeUp => exact metric_ok hw fun _ hc => hc.abandon_ok
  | gaugeDown => exact metric_ok hw fun _ hc => hc.revertAbandon_ok
  | giveUp now =>
    dsimp only [apply]
    exact metric_publish_ok (hw.of_keeps (keeps_log _ _ _ _ _)) (fun _ hc => hc.observeOutcome_ok _ _ _) _
  | settle o => exact metric_ok hw fun _ hc => hc.observeOutcome_ok _ _ _

/-- Under collectors that fit, no effects of steps panic. -/
theorem applyAll_ok (hw : w.Fitted which) (job : Job) (c : Handoff.Call) (es : List Handoff.Effect) :
    ∃ w', w.applyAll which job c es = .ok w' := by
  induction es generalizing w with
  | nil => exact ⟨w, rfl⟩
  | cons e es ih =>
    obtain ⟨w1, h1⟩ := apply_ok hw job c e
    have hk : Keeps w w1 := by simpa [h1] using keeps_apply w which job c e
    obtain ⟨w2, h2⟩ := ih (hw.of_keeps hk)
    exact ⟨w2, by simp only [applyAll, h1]; exact h2⟩

theorem applyAll_ne_error (hw : w.Fitted which) {job : Job} {c : Handoff.Call}
    {es : List Handoff.Effect} (e : String × World) : w.applyAll which job c es ≠ .error e := by
  obtain ⟨w', h⟩ := applyAll_ok hw job c es
  rw [h]
  exact fun h => by cases h

end Fitted

/-- **Starting a session with metrics.** When the namespace and subsystem make every
collector's name valid, a session starts at time zero with nothing written, on a main executor
made from the setup, whose wait group is empty and whose collectors fit a registry in which
every series reads zero. -/
theorem session_start_metered (s : Session.Setup) (caller : String) {space subsystem : String}
    (hm : s.metrics = some (space, subsystem))
    (hv : ∀ n ∈ Collectors.names, validMetricName (fullName space subsystem n) = true) :
    ∃ w c, Session.start s caller = .ok w ∧ w.clock = 0 ∧ w.logs = [] ∧ w.events = [] ∧
      w.main = Executor.make s.name caller s.cancelOnTimeout (some c) s.events true ∧
      w.fallback = Executor.fallback ∧ (∀ x, w.Fitted x) ∧
      ∀ i vs, w.registry.valueOf i vs = Double.zero := by
  obtain ⟨c, r, h⟩ := Collectors.make_run_of_valid hv
  obtain ⟨-, hfit, hzero⟩ := Collectors.make_ok_spec h
  have hs : Session.start s caller = .ok ⟨0, r, [], [],
      Executor.make s.name caller s.cancelOnTimeout (some c) s.events true, Executor.fallback⟩ := by
    unfold Session.start
    rw [hm]
    dsimp only
    rw [h]
    rfl
  refine ⟨_, c, hs, rfl, rfl, rfl, rfl, rfl, ?_, hzero⟩
  rintro (_ | _) c' hc
  · cases hc
    exact hfit
  · cases hc

/-! ### The steps a run takes -/

section Run

open Handoff

/-- A worker whose work ends before the timer fires takes all its steps when it ends: it
records how the work ended, cancels, claims the call and closes `done`. -/
theorem workerRun_begin (ty : Ty) (t0 d tf : Int) (ending : Ending (Value × Option Fault)) :
    workerRun (Call.begin ty t0 d) ending tf =
      (⟨ty, t0, d, .finished, some (Call.endingRecord ty tf ending), true, .waiting, .exited⟩,
        [.cancel]) := rfl

/-- The caller then finds `done` closed and settles from the record. -/
theorem callerRun_finished (ty : Ty) (t0 d now : Int) (r : Record) :
    callerRun ⟨ty, t0, d, .finished, some r, true, .waiting, .exited⟩ false now =
      (⟨ty, t0, d, .finished, some r, true,
          .returned (settleOutcome ⟨ty, t0, d, .finished, some r, true, .settling, .exited⟩ now).1,
          .exited⟩,
        [(settleOutcome ⟨ty, t0, d, .finished, some r, true, .settling, .exited⟩ now).2]) := rfl

/-- When the timer fires first, the caller takes all its steps then: it counts the call,
marks it abandoned, claims it and gives up. -/
theorem callerRun_timer (ty : Ty) (t0 d tg : Int) :
    callerRun (Call.begin ty t0 d) true tg =
      (⟨ty, t0, d, .abandoned, none, false, .returned (Outcome.timedOut ty ⟨tg - t0⟩), .working⟩,
        [.count, .gaugeUp, .cancel, .giveUp tg]) := rfl

variable {w : World} {which : Which} (ty : Ty) (ctx : RunContext)

/-- A run whose timer fires first returns a timed-out outcome after waiting the deadline. -/
theorem runLate_ok (hw : w.Fitted which) (j : Job) (act : Act (Value × Option Fault))
    (t0 d : Int) :
    (w.runLate which ty ctx j act (Call.begin ty t0 d)).2 = .ok (Outcome.timedOut ty ⟨d⟩) := by
  unfold runLate
  dsimp only
  rw [callerRun_timer]
  simp only [Call.begin]
  obtain ⟨w1, h⟩ := applyAll_ok (hw.of_keeps (keeps_advance w (t0 + d))) j
    ⟨ty, t0, d, .abandoned, none, false, .returned (Outcome.timedOut ty ⟨t0 + d - t0⟩), .working⟩
    [.count, .gaugeUp, .cancel, .giveUp (t0 + d)]
  simp only [h, Call.returned?, Option.getD_some]
  rw [add_sub_cancel_left]

/-- A run whose work ends before the deadline returns the outcome settled from how it
ended. -/
theorem run_inTime (hw : w.Fitted which) {d : Int} (hd : 0 < d) {j : Job} {work : Work}
    (hj : j.work = some work) {tf : Int} {ending : Ending (Value × Option Fault)}
    (hf : (work.run ⟨ctx.values⟩).finish (w.clock + spawnNs) ctx.doneAt = some (tf, ending))
    (hlt : tf < w.clock + d) :
    ∃ o, (w.run which ty ctx (some j) d).2 = .ok o ∧ o.Settles (tf - w.clock < d) ending := by
  unfold run
  simp only [if_neg (not_le.mpr hd), hj, hf, if_pos hlt]
  rw [workerRun_begin]
  dsimp only
  rw [callerRun_finished]
  dsimp only
  split
  · rename_i p w1 h
    exact absurd h (applyAll_ne_error (hw.of_keeps (keeps_advance w tf)) _)
  · exact ⟨_, rfl, settleOutcome_settles rfl tf⟩

/-- A run whose work does not end before the deadline is timed out after waiting the
deadline. -/
theorem run_late (hw : w.Fitted which) {d : Int} (hd : 0 < d) {j : Job} {work : Work}
    (hj : j.work = some work)
    (hlate : ∀ tf ending, (work.run ⟨ctx.values⟩).finish (w.clock + spawnNs) ctx.doneAt =
      some (tf, ending) → w.clock + d ≤ tf) :
    (w.run which ty ctx (some j) d).2 = .ok (Outcome.timedOut ty ⟨d⟩) := by
  unfold run
  simp only [if_neg (not_le.mpr hd), hj]
  split
  · rename_i tf ending hf
    rw [if_neg (not_lt.mpr (hlate tf ending hf))]
    exact runLate_ok ty ctx hw j _ _ _
  · exact runLate_ok ty ctx hw j _ _ _

/-- A run with a deadline that is not positive is refused once the refusal is counted. -/
theorem run_nonpos {d : Int} (hd : d ≤ 0) {w' : World}
    (h : w.metric which (·.rejectDeadline) = .ok w') (job : Option Job) :
    w.run which ty ctx job d = (w', .error (.error (.wrap ("deadline must be positive, got " ++
      (Duration.wrap d).toString) (.sentinel .invalidDeadline)))) := by
  simp only [run, if_pos hd, h]

end Run

/-- A run refused for its deadline fails with the invalid-deadline sentinel, counts the
refusal when the executor has collectors, and changes nothing else. -/
theorem run_refused (w : World) (which : Which) (ty : Ty) (ctx : RunContext)
    (job : Option Job) {d : Int} (hw : w.Fitted which) (hd : d ≤ 0) :
    let res := w.run which ty ctx job d
    (∃ e, res.2 = .error (.error e) ∧ e.isSentinel .invalidDeadline = true ∧
        e.isSentinel .timedOut = false) ∧
      ((w.exec which).params.collectors = none → res.1 = w) ∧
      ∀ c, (w.exec which).params.collectors = some c → ∃ r, res.1 = { w with registry := r } ∧
        r.valueOf c.invalidDeadline [] =
          (w.registry.valueOf c.invalidDeadline []).add (Double.ofInt 1) ∧
        ∀ i vs, (i ≠ c.invalidDeadline ∨ vs ≠ []) → r.seriesOf i vs = w.registry.seriesOf i vs := by
  intro res
  have hsent : ∀ w', w.metric which (·.rejectDeadline) = .ok w' →
      ∃ e, (w.run which ty ctx job d).2 = .error (.error e) ∧
        e.isSentinel .invalidDeadline = true ∧ e.isSentinel .timedOut = false := by
    intro w' h
    rw [run_nonpos ty ctx hd h]
    exact ⟨_, rfl, by simp [Fault.isSentinel], by simp [Fault.isSentinel]⟩
  cases hc : (w.exec which).params.collectors with
  | none =>
    have h : w.metric which (·.rejectDeadline) = .ok w := by simp only [metric, hc]
    refine ⟨hsent w h, fun _ => by simp only [res, run_nonpos ty ctx hd h], fun c hc' => ?_⟩
    cases hc'
  | some c =>
    obtain ⟨r, hr, hv, hframe⟩ := (hw c hc).rejectDeadline_spec
    have h : w.metric which (·.rejectDeadline) = .ok { w with registry := r } := by
      simp only [metric, hc, hr]
    refine ⟨hsent _ h, (fun hn => by cases hn), fun c' hc' => ?_⟩
    cases hc'
    exact ⟨r, by simp only [res, run_nonpos ty ctx hd h], hv, hframe⟩

/-- A run with no job or no work fails with the nil-work sentinel and changes nothing. -/
theorem run_nilWork (w : World) (which : Which) (ty : Ty) (ctx : RunContext)
    {job : Option Job} {d : Int} (hd : 0 < d)
    (hnil : job = none ∨ ∃ j, job = some j ∧ j.work = none) :
    w.run which ty ctx job d = (w, .error (.error (.withStack (.sentinel .nilWork)))) := by
  rcases hnil with rfl | ⟨j, rfl, hj⟩
  · simp only [run, if_neg (not_le.mpr hd)]
  · simp only [run, if_neg (not_le.mpr hd), hj]

/-- A run of a job with work returns an outcome, settled by when and how the work ends. -/
theorem run_settles (w : World) (which : Which) (ty : Ty) (ctx : RunContext) {d : Int}
    (hw : w.Fitted which) (hd : 0 < d) (j : Job) {work : Work} (hwk : j.work = some work) :
    ∃ o, (w.run which ty ctx (some j) d).2 = .ok o ∧ o.state.isSome ∧
      match (work.run ⟨ctx.values⟩).finish (w.clock + spawnNs) ctx.doneAt with
      | some (tf, ending) => o.Settles (tf - w.clock < d) ending
      | none => o.state = some .timedOut := by
  cases hf : (work.run ⟨ctx.values⟩).finish (w.clock + spawnNs) ctx.doneAt with
  | none =>
    refine ⟨_, run_late ty ctx hw hd hwk fun tf e h => ?_, rfl, rfl⟩
    rw [hf] at h
    cases h
  | some p =>
    obtain ⟨tf, ending⟩ := p
    by_cases hlt : tf < w.clock + d
    · obtain ⟨o, ho, hs⟩ := run_inTime ty ctx hw hd hwk hf hlt
      exact ⟨o, ho, hs.state_isSome, hs⟩
    · -- the work ends at or after the deadline: the timer's branch is taken
      refine ⟨_, run_late ty ctx hw hd hwk fun tf' e' h => ?_, rfl,
        Outcome.Settles.of_timedOut rfl (by omega)⟩
      rw [hf] at h
      cases h
      omega

/-- **How a run ends.** On an executor whose collectors, if it has any, fit the registry:

* a deadline that is not positive is refused with an error that is the invalid-deadline
  sentinel and not the timed-out one. The work is not started and nothing is logged: the
  world changes only by one more count in the counter of refused calls, when the executor
  has collectors, and not at all when it has none;
* otherwise a missing job, or a job without work, is refused with the nil-work sentinel,
  changing nothing;
* otherwise the run returns an outcome and no error. When the work ends, at `tf` and as
  `ending`, the outcome is settled (`Outcome.Settles`) by whether it ended strictly before the
  deadline and by how it ended; when it never ends, the outcome is timed out.

And under every interleaving of a call's caller and worker, whenever the timer fires, an
outcome the caller returns is settled by whether the worker's claim won with the work ending
before the deadline, and by how the work ended. -/
theorem run_outcome (w : World) (which : Which) (ty : Ty) (ctx : RunContext) (job : Option Job)
    (d : Int) (hw : w.Fitted which) :
    let res := w.run which ty ctx job d
    (d ≤ 0 →
      (∃ e, res.2 = .error (.error e) ∧ e.isSentinel .invalidDeadline = true ∧
        e.isSentinel .timedOut = false) ∧
      ((w.exec which).params.collectors = none → res.1 = w) ∧
      ∀ c, (w.exec which).params.collectors = some c → ∃ r, res.1 = { w with registry := r } ∧
        r.valueOf c.invalidDeadline [] =
          (w.registry.valueOf c.invalidDeadline []).add (Double.ofInt 1) ∧
        ∀ i vs, (i ≠ c.invalidDeadline ∨ vs ≠ []) → r.seriesOf i vs = w.registry.seriesOf i vs) ∧
    (0 < d → (job = none ∨ ∃ j, job = some j ∧ j.work = none) →
      res.1 = w ∧ ∃ e, res.2 = .error (.error e) ∧ e.isSentinel .nilWork = true) ∧
    (0 < d → ∀ j work, job = some j → j.work = some work → ∃ o, res.2 = .ok o ∧ o.state.isSome ∧
      match (work.run ⟨ctx.values⟩).finish (w.clock + spawnNs) ctx.doneAt with
      | some (tf, ending) => o.Settles (tf - w.clock < d) ending
      | none => o.state = some .timedOut) ∧
    (∀ ending start turns o,
      ((Handoff.Call.begin ty start d).interleave ending turns).1.caller = .returned o →
      let c := ((Handoff.Call.begin ty start d).interleave ending turns).1
      o.Settles (c.phase = .finished ∧
        ∃ t, c.record = some (Handoff.Call.endingRecord ty t ending) ∧ t - start < d) ending) := by
  intro res
  refine ⟨fun hd => run_refused w which ty ctx job hw hd, fun hd hnil => ?_,
    fun hd j work hj hwk => ?_,
    fun ending start turns o ho => Handoff.settles_interleave ending ty start d turns ho⟩
  · have hrun := run_nilWork w which ty ctx hd hnil
    refine ⟨by simp only [res, hrun], .withStack (.sentinel .nilWork), by simp only [res, hrun], ?_⟩
    simp [Fault.isSentinel]
  · subst hj
    exact run_settles w which ty ctx hw hd j hwk

/-- A session of string jobs on an executor named `jobs` that writes its entries, publishes
its events and has metrics under the namespace `deadline` and the subsystem `executor`. -/
def meteredSetup : Session.Setup := ⟨.string, "jobs", false, some ("deadline", "executor"), true, false⟩

/-- The session of `meteredSetup` starts with collectors on its main executor, an empty wait
group, its collectors fitting a registry in which every series reads zero. -/
theorem meteredSetup_start :
    ∃ w c, Session.start meteredSetup "main" = .ok w ∧ (w.exec .main).params.collectors = some c ∧
      (w.exec .main).group = WaitGroup.empty ∧ (∀ x, w.Fitted x) ∧
      ∀ i vs, w.registry.valueOf i vs = Double.zero := by
  obtain ⟨w, c, hs, -, -, -, hmain, -, hw, hzero⟩ :=
    session_start_metered meteredSetup "main" rfl (by decide +kernel)
  refine ⟨w, c, hs, ?_, ?_, hw, hzero⟩
  · rw [exec, hmain]
    rfl
  · rw [exec, hmain]
    rfl

/-- In a session with metrics, a job whose work returns at once completes with its value under
a deadline of a second, and a zero deadline is refused with the invalid-deadline sentinel after
one count of a refused call. -/
theorem run_outcome_metered :
    let job : Job := ⟨"job", [], some ⟨"work", .unknown, fun _ => .done (.str "ok", none)⟩⟩
    ∃ w c, Session.start meteredSetup "main" = .ok w ∧ (w.exec .main).params.collectors = some c ∧
      (∃ o, (w.run .main .string .background (some job) 1000000000).2 = .ok o ∧
        o.state = some .completed ∧ o.value = .str "ok") ∧
      (∃ e, (w.run .main .string .background (some job) 0).2 = .error (.error e) ∧
        e.isSentinel .invalidDeadline = true) ∧
      (w.run .main .string .background (some job) 0).1.registry.valueOf c.invalidDeadline [] =
        Double.ofInt 1 := by
  intro job
  obtain ⟨w, c, hs, hc, -, hw, hzero⟩ := meteredSetup_start
  -- a deadline of a second: the work returns when it is spawned, well within it
  obtain ⟨o, ho, -, hset⟩ :=
    (run_outcome w .main .string .background (some job) 1000000000 (hw .main)).2.2.1
      (by norm_num) job _ rfl rfl
  have hset' : o.Settles (w.clock + spawnNs - w.clock < 1000000000) (.returned (.str "ok", none)) :=
    hset
  obtain ⟨hst, hval⟩ := hset'.2 (by simp [spawnNs])
  -- a zero deadline: refused, with one more count of a refused call from zero
  obtain ⟨⟨e, he, hse, -⟩, -, hcount⟩ :=
    (run_outcome w .main .string .background (some job) 0 (hw .main)).1 le_rfl
  obtain ⟨r, hr, hv, -⟩ := hcount c hc
  refine ⟨w, c, hs, hc, ⟨o, ho, hst, hval⟩, ⟨e, he, hse⟩, ?_⟩
  rw [hr, hv, hzero, Double.zero_add_ofInt (by decide)]

end Timebox.World
