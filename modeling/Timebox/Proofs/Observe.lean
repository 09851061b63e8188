import Mathlib
import Timebox.Proofs.Accounting
import Timebox.Proofs.LogFields

/-! # Each call is observed once

A call on an executor is observed through three channels: a warning `job timed out` in the
executor's log, an event on the timeout topic, and one more in the counter of executions,
in the series of the job's name and the outcome's state. A give-up (`Effect.giveUp`) does
all three, counting `timed_out`; a settle before the deadline (`Effect.settle`) counts its
outcome's state and does nothing else. The caller makes exactly one of them, on the step
that returns: the states counted along an interleaving are the state of the outcome the
caller returned, and the give-ups are one exactly when that outcome is timed out
(`observed_interleave`). This holds whichever branch gave up: the caller's claim winning,
or a settle that finds the work ended at the deadline or after it.

On the world, `Shows` follows what effects make visible: the entries written, the events
published on the timeout topic and the counter of executions. The worker's steps make none
of the three, so the late ends that moving the clock runs, on either executor, show
nothing (`shows_advance`). The only other entry an executor writes is the debug entry of a
late end, which names the executor, the job and the time taken and not how the work ended:
the work's error or panic is never written.

The main statement is `World.observed_once`.
-/

namespace Timebox

namespace Handoff

/-- Whether an effect is a give-up or a settle, the two effects that observe a call. -/
def Effect.observes : Effect → Bool
  | .giveUp _ | .settle _ => true
  | _ => false

/-- Whether an effect gives up: a warning, a count of `timed_out` and a timeout event. -/
def Effect.isGiveUp : Effect → Bool
  | .giveUp _ => true
  | _ => false

/-- The states an effect counts in the counter of executions. -/
def Effect.observed : Effect → List String
  | .giveUp _ => [State.timedOut.name]
  | .settle o => [o.stateName]
  | _ => []

/-- How many times the effects give up. -/
def giveUps (es : List Effect) : Nat := es.countP Effect.isGiveUp

/-- The states the effects count, in order. -/
def observed (es : List Effect) : List String := es.flatMap Effect.observed

/-- The state a caller counted on returning. -/
def CallerAt.observed : CallerAt → List String
  | .returned o => [o.stateName]
  | _ => []

/-- Whether a caller returned timed out, as a number. -/
def CallerAt.timeouts : CallerAt → Nat
  | .returned o => o.isTimedOut.toNat
  | _ => 0

@[simp] theorem giveUps_nil : giveUps [] = 0 := rfl

@[simp] theorem giveUps_append (es fs : List Effect) :
    giveUps (es ++ fs) = giveUps es + giveUps fs := List.countP_append

@[simp] theorem observed_nil : observed [] = [] := rfl

@[simp] theorem observed_append (es fs : List Effect) :
    observed (es ++ fs) = observed es ++ observed fs := List.flatMap_append

/-- Settling counts the state of the outcome it settles, and gives up exactly when that
outcome is timed out. -/
theorem settleOutcome_observed (c : Call) (now : Int) :
    (settleOutcome c now).2.observed = [(settleOutcome c now).1.stateName] ∧
      (settleOutcome c now).2.isGiveUp = (settleOutcome c now).1.isTimedOut := by
  unfold settleOutcome
  split
  · split
    · exact ⟨rfl, rfl⟩
    · -- before the deadline the outcome is completed or failed, by the recorded error
      split <;> exact ⟨rfl, rfl⟩
  · exact ⟨rfl, rfl⟩

theorem giveUps_settle (c : Call) (now : Int) :
    giveUps [(settleOutcome c now).2] = (settleOutcome c now).1.isTimedOut.toNat := by
  simp [giveUps, List.countP_cons, (settleOutcome_observed c now).2]
  cases (settleOutcome c now).1.isTimedOut <;> rfl

theorem observed_settle (c : Call) (now : Int) :
    observed [(settleOutcome c now).2] = [(settleOutcome c now).1.stateName] := by
  simp [observed, (settleOutcome_observed c now).1]

variable {c c' : Call} {es : List Effect} {now : Int} {ending : Ending (Value × Option Fault)}

/-- The caller's step that returns observes the call once, with the state it returns; no
other step of either party observes it. -/
theorem observed_move (hm : Move ending now c c' es) :
    c'.caller.observed = c.caller.observed ++ observed es ∧
      c'.caller.timeouts = c.caller.timeouts + giveUps es := by
  rcases hm with hm | hm
  · cases hm with
    | giveUp hc =>
      simp [CallerAt.observed, CallerAt.timeouts, hc, observed, giveUps, Effect.observed,
        Effect.isGiveUp, Outcome.timedOut, Outcome.stateName, Outcome.isTimedOut, State.name]
    | settle hc =>
      refine ⟨by simp [CallerAt.observed, hc, observed_settle], ?_⟩
      simp [CallerAt.timeouts, hc, giveUps_settle]
    | _ => simp [CallerAt.observed, CallerAt.timeouts, observed, giveUps, Effect.observed,
      Effect.isGiveUp, *]
  · cases hm <;> simp [observed, giveUps, Effect.observed, Effect.isGiveUp]

/-- Along any interleaving, the effects observe the call exactly as the caller returned:
once, with the outcome's state, and with a give-up exactly when it is timed out. -/
theorem observed_interleave (ending : Ending (Value × Option Fault)) (ty : Ty)
    (start deadline : Int) (ts : List Turn) :
    ((Call.begin ty start deadline).interleave ending ts).1.caller.observed =
        observed ((Call.begin ty start deadline).interleave ending ts).2 ∧
      ((Call.begin ty start deadline).interleave ending ts).1.caller.timeouts =
        giveUps ((Call.begin ty start deadline).interleave ending ts).2 := by
  have h := interleave_inv
    (fun c es => c.caller.observed = observed es ∧ c.caller.timeouts = giveUps es)
    (fun _ hp hm => by
      obtain ⟨h1, h2⟩ := observed_move hm
      rw [h1, h2, hp.1, hp.2, observed_append, giveUps_append]
      exact ⟨rfl, rfl⟩)
    (consistent_begin ending ty start deadline)
    (show (Call.begin ty start deadline).caller.observed = observed [] ∧
      (Call.begin ty start deadline).caller.timeouts = giveUps [] from ⟨rfl, rfl⟩) ts
  simpa using h

/-- Every effect of a party's run is an effect of one of its steps. -/
theorem runWhile_effects {step : Call → Option (Call × List Effect)} {P : Effect → Prop}
    (h : ∀ c c' es, step c = some (c', es) → ∀ e ∈ es, P e) :
    ∀ fuel c, ∀ e ∈ (runWhile step fuel c).2, P e := by
  intro fuel
  induction fuel with
  | zero => intro c e he; simp [runWhile] at he
  | succ n ih =>
    intro c e he
    simp only [runWhile] at he
    split at he
    · simp at he
    · rename_i c1 es hs
      rcases List.mem_append.mp he with he | he
      · exact h c c1 es hs e he
      · exact ih c1 e he

/-- The worker never observes a call. -/
theorem observes_workerRun (c : Call) (ending : Ending (Value × Option Fault)) (now : Int) :
    ∀ e ∈ (workerRun c ending now).2, e.observes = false := by
  refine runWhile_effects (fun c c' es h => ?_) 8 c
  cases workerStep_move h <;> simp [Effect.observes]

end Handoff

namespace World

open Metrics Registry Handoff

/-- The warning a caller writes when it gives up on `job` after waiting `deadline` on the
executor named `executor`: its fields are the executor's name, the job's name and
arguments, the deadline and the place the job was made. -/
def timeoutWarning (executor : String) (job : Job) (deadline : Int) : Log.Entry :=
  ⟨.warn, "job timed out", "",
    [("executor", .value (.str executor)), ("job", .value (.str job.name)),
      ("args", .value (.slice .any job.args)), ("deadline", .value (.duration deadline)),
      ("caller", .value (.str job.caller))]⟩

/-- The debug entry of the late end of a job named `job` on the executor named `executor`,
`elapsed` after its call began: how the work ended is not among its fields. -/
def lateEndEntry (executor job : String) (elapsed : Int) : Log.Entry :=
  ⟨.debug, "abandoned job finished, result discarded", "",
    [("executor", .value (.str executor)), ("job", .value (.str job)),
      ("elapsed", .value (.duration elapsed))]⟩

theorem entry_timeoutArgs (executor : String) (job : Job) (deadline : Int) :
    Log.Logger.root.entry .warn "job timed out" (timeoutArgs executor job deadline) =
      timeoutWarning executor job deadline := by
  have h : timeoutArgs executor job deadline = Log.keyValues [("executor", .str executor),
      ("job", .str job.name), ("args", .slice .any job.args), ("deadline", .duration deadline),
      ("caller", .str job.caller)] := rfl
  rw [Log.Logger.entry, h, Log.parseFields_keyValues]
  rfl

theorem entry_lateEndArgs (executor : String) (job : Job) (elapsed : Int) :
    Log.Logger.root.entry .debug "abandoned job finished, result discarded"
        (lateEndArgs executor job elapsed) = lateEndEntry executor job.name elapsed := by
  have h : lateEndArgs executor job elapsed = Log.keyValues [("executor", .str executor),
      ("job", .str job.name), ("elapsed", .duration elapsed)] := rfl
  rw [Log.Logger.entry, h, Log.parseFields_keyValues]
  rfl

/-- An entry written while a call of `job` with `deadline` runs on the executor named
`executor`: the warning of its give-up, or the debug entry of a late end of any job on any
executor. -/
def Written (executor : String) (job : Job) (deadline : Int) (e : Log.Entry) : Prop :=
  e = timeoutWarning executor job deadline ∨ ∃ x j elapsed, e = lateEndEntry x j elapsed

/-- What effects that give up `gaveUp` times and count the states `counted` for a call of
`job` with `deadline` show on the chosen executor, going from `w` to `w'`: they keep the
configurations and the collectors; every entry they write is `Written`, and the warnings
among them are the give-ups' warnings when the executor's entries are observed; the events
they publish on the timeout topic are the give-ups' events when it has events; and each
series of its counter of executions grows by one for each state counted under its labels. -/
structure Shows (which : Which) (job : Job) (deadline : Int) (gaveUp : Nat)
    (counted : List String) (w w' : World) : Prop where
  keeps : Keeps w w'
  logs : ∃ added, w'.logs = w.logs ++ added ∧
    (∀ e ∈ added, Written (w.exec which).params.name job deadline e) ∧
    added.filter (·.level = .warn) =
      if (w.exec which).params.logged then
        List.replicate gaveUp (timeoutWarning (w.exec which).params.name job deadline)
      else []
  events : ∃ added, w'.events = w.events ++ added ∧
    added.filter (·.topic = Event.timeoutTopic) =
      if (w.exec which).params.events then
        List.replicate gaveUp (Event.timeout (w.exec which).params.name job.name job.args
          ⟨deadline⟩ job.caller)
      else []
  executions : ∀ c, (w.exec which).params.collectors = some c → ∀ vs,
    w'.registry.valueOf c.executions vs =
      (·.add (Double.ofInt 1))^[(counted.map ([job.name, ·])).count vs]
        (w.registry.valueOf c.executions vs)

variable {w w1 w2 w3 : World} {which which' : Which} {job : Job} {d : Int}

namespace Shows

theorem refl (which : Which) (job : Job) (d : Int) (w : World) : Shows which job d 0 [] w w where
  keeps := Keeps.refl w
  logs := ⟨[], by simp, by simp, by simp⟩
  events := ⟨[], by simp, by simp⟩
  executions _ _ _ := rfl

/-- Effects applied one after the other show what each shows. -/
theorem trans {g1 g2 : Nat} {c1 c2 : List String} (h1 : Shows which job d g1 c1 w1 w2)
    (h2 : Shows which job d g2 c2 w2 w3) : Shows which job d (g1 + g2) (c1 ++ c2) w1 w3 where
  keeps := h1.keeps.trans h2.keeps
  logs := by
    obtain ⟨a1, hl1, hw1, hf1⟩ := h1.logs
    obtain ⟨a2, hl2, hw2, hf2⟩ := h2.logs
    rw [h1.keeps.exec which] at hw2 hf2
    refine ⟨a1 ++ a2, by rw [hl2, hl1, List.append_assoc], fun e he => ?_, ?_⟩
    · rcases List.mem_append.mp he with he | he
      · exact hw1 e he
      · exact hw2 e he
    · rw [List.filter_append, hf1, hf2]
      split <;> simp
  events := by
    obtain ⟨a1, he1, hf1⟩ := h1.events
    obtain ⟨a2, he2, hf2⟩ := h2.events
    rw [h1.keeps.exec which] at hf2
    refine ⟨a1 ++ a2, by rw [he2, he1, List.append_assoc], ?_⟩
    rw [List.filter_append, hf1, hf2]
    split <;> simp
  executions c hc vs := by
    have hc2 : (w2.exec which).params.collectors = some c := by rw [h1.keeps.exec which]; exact hc
    rw [h2.executions c hc2, h1.executions c hc vs, ← Function.iterate_add_apply,
      List.map_append, List.count_append, Nat.add_comm]

/-- A change that writes nothing, publishes nothing and leaves the counter of executions
as it was shows nothing. -/
theorem of_frame (hk : Keeps w w') (hl : w'.logs = w.logs) (he : w'.events = w.events)
    (hx : ∀ c, (w.exec which).params.collectors = some c → ∀ vs,
      w'.registry.valueOf c.executions vs = w.registry.valueOf c.executions vs) :
    Shows which job d 0 [] w w' where
  keeps := hk
  logs := ⟨[], by simp [hl], by simp, by simp⟩
  events := ⟨[], by simp [he], by simp⟩
  executions c hc vs := hx c hc vs

end Shows

@[simp] theorem logs_log (w : World) (which : Which) (level : Log.Level) (msg : String)
    (args : List Log.Arg) : (w.log which level msg args).logs =
      w.logs ++ if (w.exec which).params.logged then [Log.Logger.root.entry level msg args]
        else [] := by
  unfold log
  split <;> simp [*]

@[simp] theorem events_log (w : World) (which : Which) (level : Log.Level) (msg : String)
    (args : List Log.Arg) : (w.log which level msg args).events = w.events := by
  unfold log
  split <;> rfl

@[simp] theorem logs_publish (w : World) (which : Which) (e : Event) :
    (w.publish which e).logs = w.logs := by
  unfold publish
  split <;> rfl

@[simp] theorem events_publish (w : World) (which : Which) (e : Event) :
    (w.publish which e).events = w.events ++ if (w.exec which).params.events then [e] else [] := by
  unfold publish
  split <;> simp [*]

@[simp] theorem exec_registry (w : World) (r : Registry) (which : Which) :
    ({ w with registry := r } : World).exec which = w.exec which := by
  cases which <;> rfl

@[simp] theorem logs_setExec (w : World) (which : Which) (e : Executor) :
    (w.setExec which e).logs = w.logs := by
  cases which <;> rfl

@[simp] theorem events_setExec (w : World) (which : Which) (e : Executor) :
    (w.setExec which e).events = w.events := by
  cases which <;> rfl

/-- A metric whose update succeeds on collectors that fit changes the registry only; what
holds of each registry it can leave holds of the one it leaves. -/
theorem metric_spec (hw : w.Fitted which) {f : Collectors → Op Unit}
    (hf : ∀ c, c.Fits w.registry → ∃ r, (f c).run w.registry = .ok () r) (Q : Registry → Prop)
    (h0 : (w.exec which).params.collectors = none → Q w.registry)
    (h : ∀ c r, (w.exec which).params.collectors = some c → (f c).run w.registry = .ok () r →
      Q r) :
    ∃ r, w.metric which f = .ok { w with registry := r } ∧ Q r := by
  cases hc : (w.exec which).params.collectors with
  | none => exact ⟨w.registry, by simp only [metric, hc], h0 hc⟩
  | some c =>
    obtain ⟨r, hr⟩ := hf c (hw c hc)
    exact ⟨r, metric_of_ok hc hr, h c r hc hr⟩

theorem iterate_count_singleton (x : Double) (l vs : List String) :
    (·.add (Double.ofInt 1))^[[l].count vs] x = if vs = l then x.add (Double.ofInt 1) else x := by
  by_cases h : vs = l
  · simp [h]
  · simp [h, Ne.symm h]

/-- A metric of either executor leaves the chosen executor's counter of executions as it
was, when its update keeps that counter apart on collectors that fit. -/
theorem metric_apart (hw : w.Fitted which) (hw' : w.Fitted which') {f : Collectors → Op Unit}
    (hf : ∀ c, c.Fits w.registry → ∃ r, (f c).run w.registry = .ok () r)
    (hx : ∀ (c c' : Collectors) (r : Registry), c.Fits w.registry → c'.Fits w.registry →
      (f c').run w.registry = .ok () r →
      ∀ vs, r.valueOf c.executions vs = w.registry.valueOf c.executions vs) :
    ∃ r, w.metric which' f = .ok { w with registry := r } ∧
      ∀ c, (w.exec which).params.collectors = some c → ∀ vs,
        r.valueOf c.executions vs = w.registry.valueOf c.executions vs :=
  metric_spec hw' hf _ (fun _ _ _ _ => rfl)
    (fun c' r hc' hr c hc => hx c c' r (hw c hc) (hw' c' hc') hr)

/-- Observing an outcome on the chosen executor adds one to its counter of executions in the
series of the job and the outcome's state, and to no other. -/
theorem metric_observe (hw : w.Fitted which) (name st : String) (wait : Duration) :
    ∃ r, w.metric which (·.observeOutcome name st wait) = .ok { w with registry := r } ∧
      ∀ col, (w.exec which).params.collectors = some col → ∀ vs,
        r.valueOf col.executions vs = if vs = [name, st] then
          (w.registry.valueOf col.executions vs).add (Double.ofInt 1)
        else w.registry.valueOf col.executions vs :=
  metric_spec hw (fun _ hf => hf.observeOutcome_ok name st wait) _
    (fun hn col hc => by rw [hn] at hc; cases hc)
    (fun col r hc hr col' hc' => by
      rw [hc] at hc'
      cases hc'
      exact (hw col hc).observeOutcome_executions hr)

/-! ### One effect -/

/-- An effect that does not observe a call, on either executor, shows nothing of the
chosen one, when both executors' collectors fit. -/
theorem shows_apply_unobserved (hw : w.Fitted which) (hw' : w.Fitted which') (job' : Job)
    (c : Call) {e : Effect} (he : e.observes = false) :
    Shows which job d 0 [] w (left (w.apply which' job' c e)) := by
  have hk := keeps_apply w which' job' c e
  cases e with
  | count | uncount =>
    exact Shows.of_frame hk (by simp [apply]) (by simp [apply]) fun _ _ _ => by simp [apply]
  | cancel => exact Shows.refl which job d w
  | gaugeUp =>
    obtain ⟨r, hm, hr⟩ := metric_apart hw hw' (fun _ hf => hf.abandon_ok)
      fun _ _ _ hf hf' h => hf.abandon_executions hf' h
    simp only [apply, hm, left_ok] at hk ⊢
    exact Shows.of_frame hk rfl rfl hr
  | gaugeDown =>
    obtain ⟨r, hm, hr⟩ := metric_apart hw hw' (fun _ hf => hf.revertAbandon_ok)
      fun _ _ _ hf hf' h => hf.revertAbandon_executions hf' h
    simp only [apply, hm, left_ok] at hk ⊢
    exact Shows.of_frame hk rfl rfl hr
  | giveUp | settle => cases he
  | lateEnd err =>
    -- a debug entry of the late end, a late-end metric, an event on another topic
    have hk1 := keeps_log w which' .debug "abandoned job finished, result discarded"
      (lateEndArgs (w.exec which').params.name job'
        (((c.record.map (·.finishedAt)).getD c.start) - c.start))
    obtain ⟨r, hm, hr⟩ := metric_apart (hw.of_keeps hk1) (hw'.of_keeps hk1)
      (fun _ hf => hf.finishAbandoned_ok job'.name)
      fun _ _ _ hf hf' h => hf.finishAbandoned_executions hf' h
    simp only [exec_log, registry_log] at hr
    simp only [apply, hm, left_ok] at hk ⊢
    refine ⟨hk, ⟨if (w.exec which').params.logged then
        [lateEndEntry (w.exec which').params.name job'.name
          (((c.record.map (·.finishedAt)).getD c.start) - c.start)] else [], ?_, ?_, ?_⟩,
      ⟨if (w.exec which').params.events then
        [Event.abandonedDone (w.exec which').params.name job'.name err] else [], ?_, ?_⟩,
      fun c hc vs => by simp only [registry_publish]; exact hr c hc vs⟩
    · simp [entry_lateEndArgs]
    · intro x hx
      split at hx
      · exact .inr ⟨_, _, _, List.mem_singleton.mp hx⟩
      · cases hx
    · split <;> simp [lateEndEntry]
    · simp only [events_publish, exec_registry]
      simp
    · split <;> simp [Event.abandonedDone, Event.abandonedDoneTopic, Event.timeoutTopic]

/-- A give-up writes its warning, counts `timed_out` and publishes its event; a settle
counts its outcome's state; every other effect shows nothing. -/
theorem shows_apply (hw : w.Fitted which) (job : Job) (c : Call) (e : Effect) :
    Shows which job c.deadline (giveUps [e]) (observed [e]) w (left (w.apply which job c e)) := by
  have hk := keeps_apply w which job c e
  cases e with
  | giveUp now =>
    -- the warning, then the count of `timed_out`, then the event
    have hk1 := keeps_log w which .warn "job timed out"
      (timeoutArgs (w.exec which).params.name job c.deadline)
    obtain ⟨r, hm, hr⟩ := metric_observe (hw.of_keeps hk1) job.name "timed_out" ⟨now - c.start⟩
    simp only [exec_log, registry_log] at hr
    simp only [apply, hm, left_ok_bind, left_pure] at hk ⊢
    refine ⟨hk, ⟨if (w.exec which).params.logged then
        [timeoutWarning (w.exec which).params.name job c.deadline] else [], ?_, ?_, ?_⟩,
      ⟨if (w.exec which).params.events then
        [Event.timeout (w.exec which).params.name job.name job.args ⟨c.deadline⟩
          job.caller] else [], ?_, ?_⟩,
      fun col hc vs => ?_⟩
    · simp [entry_timeoutArgs]
    · intro x hx
      split at hx
      · exact .inl (List.mem_singleton.mp hx)
      · cases hx
    · split <;> simp [timeoutWarning, giveUps, Effect.isGiveUp]
    · simp only [events_publish, exec_registry]
      simp
    · split <;> simp [giveUps, Effect.isGiveUp, Event.timeout]
    · simp only [registry_publish]
      rw [hr col hc vs]
      exact (iterate_count_singleton _ _ vs).symm
  | settle o =>
    obtain ⟨r, hm, hr⟩ := metric_observe hw job.name o.stateName o.elapsed
    simp only [apply, hm, left_ok] at hk ⊢
    refine ⟨hk, ⟨[], by simp, by simp, by simp [giveUps, Effect.isGiveUp]⟩,
      ⟨[], by simp, by simp [giveUps, Effect.isGiveUp]⟩, fun col hc vs => ?_⟩
    rw [hr col hc vs]
    exact (iterate_count_singleton _ _ vs).symm
  | count | uncount | gaugeUp | gaugeDown | cancel | lateEnd _ =>
    exact shows_apply_unobserved hw hw job c rfl

/-! ### Effects in order, late ends and runs -/

/-- The effects of steps of a call show together what each shows. -/
theorem shows_applyAll (hw : w.Fitted which) (job : Job) (c : Call) (es : List Effect) :
    Shows which job c.deadline (giveUps es) (observed es) w (left (w.applyAll which job c es)) := by
  induction es generalizing w with
  | nil => exact Shows.refl which job c.deadline w
  | cons e es ih =>
    obtain ⟨w1, h1⟩ := apply_ok hw job c e
    have hs1 := shows_apply hw job c e
    rw [h1, left_ok] at hs1
    have hs := hs1.trans (ih (hw.of_keeps hs1.keeps))
    rw [← giveUps_append, ← observed_append, List.singleton_append] at hs
    simp only [applyAll, h1]
    exact hs

theorem shows_applyAll_ok {c : Call} {es : List Effect} (hw : w.Fitted which)
    (h : w.applyAll which job c es = .ok w') :
    Shows which job c.deadline (giveUps es) (observed es) w w' := by
  simpa [h] using shows_applyAll hw job c es

/-- Effects that do not observe a call, on either executor, show nothing of the chosen
one. -/
theorem shows_applyAll_unobserved (hw : w.Fitted which) (hw' : w.Fitted which') (job' : Job)
    (c : Call) {es : List Effect} (hes : ∀ e ∈ es, e.observes = false) :
    Shows which job d 0 [] w (left (w.applyAll which' job' c es)) := by
  induction es generalizing w with
  | nil => exact Shows.refl which job d w
  | cons e es ih =>
    obtain ⟨w1, h1⟩ := apply_ok hw' job' c e
    have hs1 : Shows which job d 0 [] w (left (w.apply which' job' c e)) :=
      shows_apply_unobserved hw hw' job' c (hes e List.mem_cons_self)
    rw [h1, left_ok] at hs1
    have hs := hs1.trans (ih (hw.of_keeps hs1.keeps) (hw'.of_keeps hs1.keeps)
      fun e he => hes e (List.mem_cons_of_mem _ he))
    simp only [applyAll, h1]
    exact hs

/-- The late end of a call, on either executor, shows nothing: only its worker's steps
run. -/
theorem shows_lateEnd (hw : ∀ x, w.Fitted x) (which' : Which) (p : Pending) :
    Shows which job d 0 [] w (w.lateEnd which' p) := by
  unfold lateEnd
  split
  · exact Shows.refl which job d w
  · rename_i t ending _
    exact shows_applyAll_unobserved (hw which) (hw which') p.job _
      (observes_workerRun p.call ending t)

/-- Setting both executors' pending calls shows nothing. -/
theorem shows_setPending (w : World) (m f : List Pending) :
    Shows which job d 0 [] w
      { w with main := { w.main with pending := m }, fallback := { w.fallback with pending := f } } :=
  Shows.of_frame ⟨rfl, rfl, rfl⟩ rfl rfl fun _ _ _ => rfl

/-- Setting the clock shows nothing more. -/
theorem Shows.setClock {g : Nat} {c : List String} (h : Shows which job d g c w w1) (x : Int) :
    Shows which job d g c w { w1 with clock := x } := by
  have h2 : Shows which job d 0 [] w1 { w1 with clock := x } :=
    Shows.of_frame ⟨rfl, rfl, rfl⟩ rfl rfl fun _ _ _ => rfl
  simpa using h.trans h2

/-- Moving the clock shows nothing: it takes the calls that end out of the pending ones,
runs their late ends and sets the clock. -/
theorem shows_advance (hw : ∀ x, w.Fitted x) (t : Int) :
    Shows which job d 0 [] w (w.advance t) := by
  have hfold : ∀ (ends : List (Which × Pending)) (w : World), (∀ x, w.Fitted x) →
      Shows which job d 0 [] w (ends.foldl (fun w e => w.lateEnd e.1 e.2) w) := by
    intro ends
    induction ends with
    | nil => exact fun w _ => Shows.refl which job d w
    | cons e ends ih =>
      intro w hw
      have h1 : Shows which job d 0 [] w (w.lateEnd e.1 e.2) := shows_lateEnd hw e.1 e.2
      exact h1.trans (ih _ fun x => (hw x).of_keeps h1.keeps)
  unfold advance
  cases endingBy w.main.pending t
  cases endingBy w.fallback.pending t
  dsimp only
  refine Shows.setClock ?_ _
  refine (shows_setPending w _ _).trans (hfold _ _ ?_)
  exact fun x => (hw x).of_keeps ⟨rfl, rfl, rfl⟩

/-- A run whose timer fires first gives up once: one warning, one count of `timed_out`,
one timeout event. -/
theorem shows_runLate (hw : ∀ x, w.Fitted x) (ty : Ty) (ctx : RunContext) (j : Job)
    (act : Act (Value × Option Fault)) (t0 d : Int) :
    Shows which j d 1 [State.timedOut.name] w
      (w.runLate which ty ctx j act (Call.begin ty t0 d)).1 := by
  unfold runLate
  dsimp only
  rw [callerRun_timer]
  simp only [Call.begin]
  have ha : Shows which j d 0 [] w (w.advance (t0 + d)) := shows_advance hw (t0 + d)
  obtain ⟨w1, h⟩ := applyAll_ok ((hw which).of_keeps ha.keeps) j
    ⟨ty, t0, d, .abandoned, none, false, .returned (Outcome.timedOut ty ⟨t0 + d - t0⟩), .working⟩
    [.count, .gaugeUp, .cancel, .giveUp (t0 + d)]
  have hb := shows_applyAll_ok ((hw which).of_keeps ha.keeps) h
  simp only [h]
  -- the call is left pending, then the clock moves on
  refine (ha.trans hb).trans ((Shows.of_frame ?_ ?_ ?_ ?_).trans (shows_advance ?_ _))
  · exact keeps_setExec w1 which rfl
  · exact logs_setExec _ _ _
  · exact events_setExec _ _ _
  · exact fun _ _ _ => by rw [registry_setExec]
  · exact fun x => ((hw x).of_keeps (ha.keeps.trans hb.keeps)).of_keeps (keeps_setExec w1 which rfl)

/-- A run with a positive deadline of a job with work observes the call once, by the
outcome it returns. -/
theorem shows_run (hw : ∀ x, w.Fitted x) (ty : Ty) (ctx : RunContext) (hd : 0 < d) {j : Job}
    {work : Work} (hj : j.work = some work) :
    ∃ o, (w.run which ty ctx (some j) d).2 = .ok o ∧
      Shows which j d o.isTimedOut.toNat [o.stateName] w (w.run which ty ctx (some j) d).1 := by
  have hlate : ∀ act, ∃ o, (w.runLate which ty ctx j act (Call.begin ty w.clock d)).2 = .ok o ∧
      Shows which j d o.isTimedOut.toNat [o.stateName] w
        (w.runLate which ty ctx j act (Call.begin ty w.clock d)).1 :=
    fun act => ⟨_, runLate_ok ty ctx (hw which) j act w.clock d,
      shows_runLate hw ty ctx j act w.clock d⟩
  unfold run
  simp only [if_neg (not_le.mpr hd), hj]
  split
  · rename_i tf ending _
    split
    · -- the work ends before the deadline: the worker's steps, then the caller settles
      rw [workerRun_begin]
      dsimp only
      rw [callerRun_finished]
      dsimp only
      have ha : Shows which j d 0 [] w (w.advance tf) := shows_advance hw tf
      split
      · rename_i p w1 h
        exact absurd h (applyAll_ne_error ((hw which).of_keeps ha.keeps) _)
      · rename_i w1 h
        have hb := shows_applyAll_ok ((hw which).of_keeps ha.keeps) h
        refine ⟨_, rfl, ?_⟩
        simp only [Call.returned?, Option.getD_some]
        rw [giveUps_append, observed_append, giveUps_settle, observed_settle,
          show giveUps [Effect.cancel] = 0 from rfl, show observed [Effect.cancel] = [] from rfl] at hb
        simpa using ha.trans hb
    · exact hlate _
  · exact hlate _

/-- One call on an executor taking its turns: its flight follows the interleaving, and the
world shows what the interleaving's effects show. -/
theorem shows_runCalls_one (hw : w.Fitted which) (f : Flight) (ts : List Turn) :
    (runCalls which (w, [f]) (ts.map (.turn 0))).2 =
        [{ f with call := (f.call.interleave f.ending ts).1 }] ∧
      Shows which f.job f.call.deadline (giveUps (f.call.interleave f.ending ts).2)
        (observed (f.call.interleave f.ending ts).2) w
        (runCalls which (w, [f]) (ts.map (.turn 0))).1 := by
  induction ts generalizing w f with
  | nil => exact ⟨rfl, Shows.refl which f.job f.call.deadline w⟩
  | cons t ts ih =>
    -- the first turn, then the rest from the call it leaves
    have hd : (f.call.turn f.ending t).1.deadline = f.call.deadline := (fixed_turn _ _ t).2.2
    have hs1 := shows_applyAll hw f.job (f.call.turn f.ending t).1 (f.call.turn f.ending t).2
    obtain ⟨h2, hs2⟩ := ih (hw.of_keeps hs1.keeps) { f with call := (f.call.turn f.ending t).1 }
    dsimp only at h2 hs2
    rw [hd] at hs1 hs2
    simp only [List.map_cons, runCalls_cons]
    rw [stepCalls_turn (show [f][0]? = some f from rfl) t]
    refine ⟨h2, ?_⟩
    rw [interleave_cons, giveUps_append, observed_append]
    exact hs1.trans hs2

/-- What a call of `job` with `deadline` whose caller returned `o` leaves to be seen on the
chosen executor, going from `w` to `w'`: every entry written is `Written`, and the warnings
among them are the warning of the give-up when `o` is timed out and the executor's entries
are observed, and none otherwise; the events published on the timeout topic are the
give-up's event when `o` is timed out and the executor has events, and none otherwise; and
its counter of executions grows by one in the series of the job and `o`'s state, and in no
other. -/
structure ObservedOnce (which : Which) (job : Job) (deadline : Int) (o : Outcome)
    (w w' : World) : Prop where
  logs : ∃ added, w'.logs = w.logs ++ added ∧
    (∀ e ∈ added, Written (w.exec which).params.name job deadline e) ∧
    added.filter (·.level = .warn) =
      if (w.exec which).params.logged && o.isTimedOut then
        [timeoutWarning (w.exec which).params.name job deadline]
      else []
  events : ∃ added, w'.events = w.events ++ added ∧
    added.filter (·.topic = Event.timeoutTopic) =
      if (w.exec which).params.events && o.isTimedOut then
        [Event.timeout (w.exec which).params.name job.name job.args ⟨deadline⟩ job.caller]
      else []
  executions : ∀ c, (w.exec which).params.collectors = some c → ∀ vs,
    w'.registry.valueOf c.executions vs =
      if vs = [job.name, o.stateName] then
        (w.registry.valueOf c.executions vs).add (Double.ofInt 1)
      else w.registry.valueOf c.executions vs

/-- Effects that count the state of `o`, giving up exactly when `o` is timed out, observe
the call once. -/
theorem Shows.observedOnce {o : Outcome} (h : Shows which job d o.isTimedOut.toNat [o.stateName] w w') :
    ObservedOnce which job d o w w' := by
  obtain ⟨added, hl, hwr, hf⟩ := h.logs
  obtain ⟨evs, he, hfe⟩ := h.events
  refine ⟨⟨added, hl, hwr, ?_⟩, ⟨evs, he, ?_⟩, fun c hc vs => ?_⟩
  · rw [hf]
    cases o.isTimedOut <;> cases (w.exec which).params.logged <;> rfl
  · rw [hfe]
    cases o.isTimedOut <;> cases (w.exec which).params.events <;> rfl
  · rw [h.executions c hc vs]
    exact iterate_count_singleton _ _ vs

/-- **Each call is observed once.** On a world whose executors' collectors, if they have
any, fit the registry:

* a run of a job with work and a positive deadline returns an outcome `o`;
* that run, and any interleaving of the steps of a call of the job on the chosen executor
  whose caller returns `o`, observe the call once (`ObservedOnce`): when `o` is timed out,
  whether the caller's claim won or it settled a work that ended at the deadline or after
  it, exactly one warning `job timed out` naming the executor, the job's name and arguments,
  the deadline and the place the job was made, when the executor's entries are observed,
  exactly one timeout event with the same five values, when it has events, and one more
  `timed_out` in the counter of executions of the job; when `o` is completed or failed, no
  warning, no timeout event, and one more count of its state;
* no other entry is written than the debug entry of a late end, which does not hold how the
  work ended, so the work's error or panic is never written. -/
theorem observed_once (w : World) (which : Which) (hw : ∀ x, w.Fitted x) (job : Job) (ty : Ty)
    (d : Int) :
    (0 < d → ∀ (ctx : RunContext) (work : Work), job.work = some work →
      ∃ o, (w.run which ty ctx (some job) d).2 = .ok o ∧
        ObservedOnce which job d o w (w.run which ty ctx (some job) d).1) ∧
    (∀ (ending : Ending (Value × Option Fault)) (start : Int) (turns : List Turn) (o : Outcome),
      ((Call.begin ty start d).interleave ending turns).1.caller = .returned o →
      ObservedOnce which job d o w
        (runCalls which (w, []) (.begin job ty start d ending :: turns.map (.turn 0))).1) := by
  refine ⟨fun hd ctx work hj => ?_, fun ending start turns o ho => ?_⟩
  · obtain ⟨o, ho, hs⟩ := shows_run hw ty ctx hd hj
    exact ⟨o, ho, hs.observedOnce⟩
  · -- the effects observe the call as its caller returned
    obtain ⟨hobs, hto⟩ := observed_interleave ending ty start d turns
    rw [ho] at hobs hto
    have hs := (shows_runCalls_one (hw which) ⟨job, ending, Call.begin ty start d⟩ turns).2
    dsimp only at hs
    rw [← hobs, ← hto] at hs
    simp only [runCalls_cons, stepCalls_begin, List.nil_append]
    exact hs.observedOnce

/-- In a session with metrics, a call whose timer fires first is observed once, timed out,
and the counter of executions reads one timed-out execution of the job. -/
theorem observed_once_metered :
    let job : Job := ⟨"job", [], none⟩
    let steps : List CallStep :=
      .begin job .string 0 1 .exited :: (List.replicate 4 (.caller true 1)).map (.turn 0)
    ∃ w c, Session.start meteredSetup "main" = .ok w ∧ (w.exec .main).params.collectors = some c ∧
      ((Call.begin .string 0 1).interleave .exited (List.replicate 4 (.caller true 1))).1.caller =
        .returned (Outcome.timedOut .string ⟨1⟩) ∧
      ObservedOnce .main job 1 (Outcome.timedOut .string ⟨1⟩) w (runCalls .main (w, []) steps).1 ∧
      (runCalls .main (w, []) steps).1.registry.valueOf c.executions ["job", "timed_out"] =
        Double.ofInt 1 := by
  intro job steps
  obtain ⟨w, c, hs, hc, -, hw, hzero⟩ := meteredSetup_start
  have ho : ((Call.begin .string 0 1).interleave .exited (List.replicate 4 (.caller true 1))).1.caller =
      .returned (Outcome.timedOut .string ⟨1⟩) := rfl
  have hobs := (observed_once w .main hw job .string 1).2 .exited 0 _ _ ho
  refine ⟨w, c, hs, hc, ho, hobs, ?_⟩
  have hvs : ["job", "timed_out"] = [job.name, (Outcome.timedOut .string ⟨1⟩).stateName] := rfl
  rw [hobs.executions c hc, if_pos hvs, hzero, Double.zero_add_ofInt (by decide)]

end World

end Timebox
