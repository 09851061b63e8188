import Mathlib
import Timebox.Proofs.Abandoned
import Timebox.Proofs.Executor
import Timebox.Proofs.Double
import Timebox.Proofs.WaitGroup

/-! # Abandoned-call accounting on one executor

Any number of calls run on one executor at once, their callers' and workers' steps
interleaved in any order (`World.runCalls`). In every state:

* the executor's wait group counts exactly the units the calls hold (`Call.countHeld`): the
  callers between their `Add(1)` and the end of their claim or its revert, and the calls
  whose caller won the cell while their worker has not made its final `Done`;
* so every `Done` finds the counter positive, the counter never drops below zero, and it is
  zero once every caller returned and every worker whose caller won made its `Done`;
* the `abandoned_running` gauge counts the units of the gauge the calls hold
  (`Call.gaugeHeld`), exactly, as a double; where no caller is inside its abandon window and
  no worker inside its report of a late end, that is the wait group's counter;
* a waiter on the wait group that is released has seen every call abandoned when it began
  waiting end its late end.

Each move of a call changes what it holds by what its effects do (`Held`, from
`Timebox.Proofs.Abandoned`); here the executor is shown to apply exactly those effects to
its wait group and its gauge, whatever its collectors, and `Accounted` is kept by every
step. The main statement is `abandoned_accounting`.
-/

namespace Timebox

open Session Handoff Metrics

namespace Handoff

/-- What an effect does to the executor's wait group. -/
def Effect.groupStep : Effect → WaitStep
  | .count => .add 1
  | .uncount => .done
  | _ => .counter

/-- What an effect adds to the gauge of abandoned works. -/
def Effect.gaugeDelta : Effect → Int
  | .gaugeUp => 1
  | .gaugeDown | .lateEnd _ => -1
  | _ => 0

/-- What the effects of one move do to the wait group: a single count or uncount, or
nothing. -/
def groupStepOf : List Effect → WaitStep
  | [e] => e.groupStep
  | _ => .counter

theorem Effect.groupStep_of_isQuiet {e : Effect} (h : e.isQuiet = true) :
    e.groupStep = .counter := by
  cases e <;> simp_all [Effect.isQuiet, Effect.groupStep]

theorem Effect.gaugeDelta_of_isQuiet {e : Effect} (h : e.isQuiet = true) : e.gaugeDelta = 0 := by
  cases e <;> simp_all [Effect.isQuiet, Effect.gaugeDelta]

theorem groupStepOf_quiet {es : List Effect} (h : ∀ e ∈ es, e.isQuiet = true) :
    groupStepOf es = .counter := by
  match es, h with
  | [], _ => rfl
  | [e], h => exact Effect.groupStep_of_isQuiet (h e (by simp))
  | _ :: _ :: _, _ => rfl

end Handoff

/-! ### What one effect does to the executor -/

namespace World

variable {w : World} {which : Which}

@[simp] theorem exec_setExec (w : World) (which : Which) (e : Executor) :
    (w.setExec which e).exec which = e := by
  cases which <;> rfl

@[simp] theorem exec_log (w : World) (which which' : Which) (level : Log.Level) (msg : String)
    (args : List Log.Arg) : (w.log which level msg args).exec which' = w.exec which' := by
  unfold log
  split <;> rfl

@[simp] theorem registry_log (w : World) (which : Which) (level : Log.Level) (msg : String)
    (args : List Log.Arg) : (w.log which level msg args).registry = w.registry := by
  unfold log
  split <;> rfl

@[simp] theorem exec_publish (w : World) (which which' : Which) (e : Event) :
    (w.publish which e).exec which' = w.exec which' := by
  unfold publish
  split <;> rfl

@[simp] theorem registry_publish (w : World) (which : Which) (e : Event) :
    (w.publish which e).registry = w.registry := by
  unfold publish
  split <;> rfl

@[simp] theorem exec_left_metric (w : World) (which which' : Which)
    (f : Collectors → Registry.Op Unit) :
    (left (w.metric which f)).exec which' = w.exec which' := by
  unfold metric
  split
  · rfl
  · split <;> rfl

/-- A metric that succeeds leaves the world with the registry it made. -/
theorem metric_of_ok {c : Collectors} (hc : (w.exec which).params.collectors = some c)
    {f : Collectors → Registry.Op Unit} {r : Registry} (h : (f c).run w.registry = .ok () r) :
    w.metric which f = .ok { w with registry := r } := by
  simp only [metric, hc, h]

@[simp] theorem exec_left_metric_publish (w : World) (which which' : Which)
    (f : Collectors → Registry.Op Unit) (e : World → Event) :
    (left (w.metric which f >>= fun w1 => pure (w1.publish which (e w1)))).exec which' =
      w.exec which' := by
  rw [left_bind]
  have h := exec_left_metric w which which' f
  split <;> rename_i w1 hm <;> rw [hm] at h
  · exact (exec_publish _ _ _ _).trans h
  · exact h

/-- Only a count or an uncount changes the chosen executor's wait group. -/
theorem group_apply (w : World) (which : Which) (job : Job) (c : Handoff.Call)
    (e : Handoff.Effect) :
    ((left (w.apply which job c e)).exec which).group =
      WaitStep.apply (w.exec which).group e.groupStep := by
  cases e with
  | count | uncount => simp [apply, left, WaitStep.apply, Effect.groupStep]
  | gaugeUp | gaugeDown | settle _ =>
    exact congrArg Executor.group (exec_left_metric w which which _)
  | cancel => rfl
  | giveUp now =>
    dsimp only [apply]
    exact congrArg Executor.group
      ((exec_left_metric_publish _ which which _ _).trans (exec_log _ _ _ _ _ _))
  | lateEnd err =>
    exact congrArg Executor.group ((exec_publish _ _ _ _).trans
      ((exec_left_metric _ which which _).trans (exec_log _ _ _ _ _ _)))

@[simp] theorem registry_setExec (w : World) (which : Which) (e : Executor) :
    (w.setExec which e).registry = w.registry := by
  cases which <;> rfl

@[simp] theorem left_ok_bind (w : World) (f : World → Except (String × World) World) :
    left (.ok w >>= f) = left (f w) := rfl

@[simp] theorem left_pure (w : World) : left (pure w) = w := rfl

/-- A metric that succeeds after a log entry: the log entry is no concern of the metric. -/
theorem metric_log_of_ok {c : Collectors} (hc : (w.exec which).params.collectors = some c)
    {f : Collectors → Registry.Op Unit} {r : Registry} (h : (f c).run w.registry = .ok () r)
    (level : Log.Level) (msg : String) (args : List Log.Arg) :
    (w.log which level msg args).metric which f =
      .ok { w.log which level msg args with registry := r } := by
  apply metric_of_ok
  · rw [exec_log]; exact hc
  · rw [registry_log]; exact h

/-- Under collectors that fit, the gauge of abandoned works moves by what an effect adds to
it, and by nothing else. -/
theorem gauge_apply (hw : w.Fitted which) {c : Collectors}
    (hc : (w.exec which).params.collectors = some c) (job : Job) (call : Handoff.Call)
    (e : Handoff.Effect) :
    (left (w.apply which job call e)).registry.valueOf c.abandonedRunning [] =
      if e.gaugeDelta = 0 then w.registry.valueOf c.abandonedRunning []
      else (w.registry.valueOf c.abandonedRunning []).add (Double.ofInt e.gaugeDelta) := by
  have hf := hw c hc
  cases e with
  | count | uncount => simp [apply, left, Effect.gaugeDelta]
  | cancel => simp [apply, left, Effect.gaugeDelta]
  | gaugeUp =>
    obtain ⟨r, h⟩ := hf.abandon_ok
    simp only [apply, metric_of_ok hc h, left_ok, Effect.gaugeDelta]
    exact hf.abandon_value h
  | gaugeDown =>
    obtain ⟨r, h⟩ := hf.revertAbandon_ok
    simp only [apply, metric_of_ok hc h, left_ok, Effect.gaugeDelta]
    exact hf.revertAbandon_value h
  | settle o =>
    obtain ⟨r, h⟩ := hf.observeOutcome_ok job.name o.stateName o.elapsed
    have hm : w.metric which (·.observeOutcome job.name o.stateName o.elapsed) = _ :=
      metric_of_ok hc h
    simp only [apply, hm, left_ok, Effect.gaugeDelta, if_pos]
    exact hf.observeOutcome_value h
  | giveUp now =>
    obtain ⟨r, h⟩ := hf.observeOutcome_ok job.name "timed_out" ⟨now - call.start⟩
    dsimp only [apply]
    rw [metric_log_of_ok hc h]
    simp only [left_ok_bind, left_pure, registry_publish, Effect.gaugeDelta, if_pos]
    exact hf.observeOutcome_value h
  | lateEnd err =>
    obtain ⟨r, h⟩ := hf.finishAbandoned_ok job.name
    dsimp only [apply]
    rw [metric_log_of_ok hc h]
    simp only [left_ok, registry_publish, Effect.gaugeDelta]
    exact hf.finishAbandoned_value h

theorem applyAll_singleton (w : World) (which : Which) (job : Job) (c : Handoff.Call)
    (e : Handoff.Effect) : w.applyAll which job c [e] = w.apply which job c e := by
  simp only [applyAll]
  cases w.apply which job c e <;> rfl

/-- Quiet effects leave the wait group as it is, also when a metric among them panics. -/
theorem group_applyAll_quiet (w : World) (which : Which) (job : Job) (c : Handoff.Call)
    {es : List Handoff.Effect} (h : ∀ e ∈ es, e.isQuiet = true) :
    ((left (w.applyAll which job c es)).exec which).group = (w.exec which).group := by
  induction es generalizing w with
  | nil => rfl
  | cons e es ih =>
    have he : ((left (w.apply which job c e)).exec which).group = (w.exec which).group := by
      rw [group_apply, Effect.groupStep_of_isQuiet (h e (by simp))]
      rfl
    simp only [applyAll]
    rw [left_bind]
    cases ha : w.apply which job c e with
    | ok w1 =>
      rw [ha, left_ok] at he
      exact (ih w1 fun e' he' => h e' (by simp [he'])).trans he
    | error p =>
      obtain ⟨_, w1⟩ := p
      rw [ha] at he
      exact he

/-- Under collectors that fit, quiet effects leave the gauge of abandoned works as it is. -/
theorem gauge_applyAll_quiet (hw : w.Fitted which) {c : Collectors}
    (hc : (w.exec which).params.collectors = some c) (job : Job) (call : Handoff.Call)
    {es : List Handoff.Effect} (h : ∀ e ∈ es, e.isQuiet = true) :
    (left (w.applyAll which job call es)).registry.valueOf c.abandonedRunning [] =
      w.registry.valueOf c.abandonedRunning [] := by
  induction es generalizing w with
  | nil => rfl
  | cons e es ih =>
    obtain ⟨w1, ha⟩ := apply_ok hw job call e
    have hk : Keeps w w1 := by simpa [ha] using keeps_apply w which job call e
    have he := gauge_apply hw hc job call e
    rw [ha, left_ok, Effect.gaugeDelta_of_isQuiet (h e (by simp)), if_pos rfl] at he
    simp only [applyAll, ha, left_ok_bind]
    rw [ih (hw.of_keeps hk) (by rw [hk.exec which]; exact hc) fun e' he' => h e' (by simp [he'])]
    exact he

/-- What the effects of one move do to the wait group. -/
theorem group_applyAll_held (w : World) (which : Which) (job : Job) {c0 c : Handoff.Call}
    {es : List Handoff.Effect} (hh : Held c0 c es) :
    ((left (w.applyAll which job c es)).exec which).group =
      WaitStep.apply (w.exec which).group (groupStepOf es) := by
  cases hh with
  | quiet hq _ _ =>
    rw [group_applyAll_quiet w which job c hq, groupStepOf_quiet hq]
    rfl
  | _ =>
    rw [applyAll_singleton, group_apply]
    rfl

/-- A gauge read exactly as `G` moves to exactly `G ± 1` while it stays below `2^53`. -/
theorem ofInt_add_unit {G G' : Nat} {d : Int} (hd : d = 1 ∨ d = -1) (hs : (G' : Int) = G + d)
    (hb : G + 1 < 2 ^ 53) : (Double.ofInt G).add (Double.ofInt d) = Double.ofInt G' := by
  rw [Double.add_ofInt (by omega) (by omega) (by omega), hs]

/-- What the effects of one move do to the gauge, read exactly: it moves with the gauge
units the call holds. -/
theorem gauge_applyAll_held (hw : w.Fitted which) {c : Collectors}
    (hc : (w.exec which).params.collectors = some c) (job : Job) {c0 call : Handoff.Call}
    {es : List Handoff.Effect} (hh : Held c0 call es) {G G' : Nat}
    (hv : w.registry.valueOf c.abandonedRunning [] = Double.ofInt G)
    (hs : G' + c0.gaugeHeld = G + call.gaugeHeld) (hb : G + 1 < 2 ^ 53) :
    (left (w.applyAll which job call es)).registry.valueOf c.abandonedRunning [] =
      Double.ofInt G' := by
  cases hh with
  | quiet hq _ h2 =>
    rw [gauge_applyAll_quiet hw hc job call hq, hv, show G' = G by omega]
  | count _ h2 | uncount _ h2 =>
    rw [applyAll_singleton, gauge_apply hw hc]
    simp only [Effect.gaugeDelta, ↓reduceIte]
    rw [hv, show G' = G by omega]
  | gaugeUp _ h2 =>
    have hd : Effect.gaugeUp.gaugeDelta = 1 := rfl
    rw [applyAll_singleton, gauge_apply hw hc, hd, if_neg (by decide), hv]
    exact ofInt_add_unit (.inl rfl) (by omega) hb
  | @gaugeDown e he _ h2 =>
    have hd : e.gaugeDelta = -1 := by rcases he with rfl | ⟨_, rfl⟩ <;> rfl
    rw [applyAll_singleton, gauge_apply hw hc, hd, if_neg (by decide), hv]
    exact ofInt_add_unit (.inr rfl) (by omega) hb

end World

/-! ### What one move does to the counter -/

namespace WaitGroup

/-- Adding one to a counter within 64 bits is exact. -/
theorem next_succ {n : Int} (h0 : 0 ≤ n) (h : n + 1 < 2 ^ 63) : next n 1 = n + 1 := by
  unfold next
  dsimp only
  rw [wrap64_of_lt (by omega) h]
  split <;> omega

/-- The counter after the wait-group call of one move, when it counted what the calls held:
it counts what they hold after it. -/
theorem counter_held {g : WaitGroup} (hg : g.WellFormed) {n n' : Nat} (hn : g.counter = n)
    (hb : n + 1 < 2 ^ 63) {c0 c : Call} {es : List Effect} (hh : Held c0 c es)
    (hs : n' + c0.countHeld = n + c.countHeld) :
    (WaitStep.apply g (groupStepOf es)).counter = n' := by
  cases hh with
  | count h1 _ =>
    show (g.add 1).counter = n'
    rw [add_counter, hn, next_succ (by omega) (by omega)]
    omega
  | uncount h1 _ =>
    show g.done.1.counter = n'
    rw [hg.done_spec.2.1 (hg.done_spec.1.mpr (by omega)), hn]
    omega
  | gaugeUp h1 _ =>
    show g.counter = n'
    omega
  | gaugeDown he h1 _ =>
    rcases he with rfl | ⟨_, rfl⟩ <;>
    · show g.counter = n'
      omega
  | quiet hq h1 _ =>
    rw [groupStepOf_quiet hq]
    show g.counter = n'
    omega

end WaitGroup

namespace World

/-! ### Calls in flight -/

/-- The units of the wait group's counter the calls in flight hold. -/
def countsHeld (calls : List Flight) : Nat := (calls.map (·.call.countHeld)).sum

/-- The units of the abandoned gauge the calls in flight hold. -/
def gaugesHeld (calls : List Flight) : Nat := (calls.map (·.call.gaugeHeld)).sum

theorem le_countsHeld {calls : List Flight} {i : Nat} {f : Flight} (hf : calls[i]? = some f) :
    f.call.countHeld ≤ countsHeld calls :=
  List.le_sum_of_mem (List.mem_map_of_mem (List.mem_of_getElem? hf))

/-- The counts held, read as the two sets of calls that hold them: those whose caller added
its count and neither won its claim nor reverted, and those the caller won whose worker has
not made its final `Done`. -/
theorem countsHeld_eq (calls : List Flight) :
    countsHeld calls = calls.countP (·.call.caller.holdsCount) +
      calls.countP (fun f => decide (f.call.phase = .abandoned) && f.call.worker.beforeDone) := by
  induction calls with
  | nil => rfl
  | cons f calls ih =>
    simp only [countsHeld, List.map_cons, List.sum_cons, List.countP_cons] at ih ⊢
    rw [ih]
    unfold Call.countHeld
    cases f.call.caller.holdsCount <;>
      cases (decide (f.call.phase = .abandoned) && f.call.worker.beforeDone) <;> simp <;> omega

/-- Replacing one call in flight changes a sum over the calls by what changes at it. -/
theorem sum_set (g : Flight → Nat) : ∀ {calls : List Flight} {i : Nat} {f : Flight},
    calls[i]? = some f → ∀ f', ((calls.set i f').map g).sum + g f = (calls.map g).sum + g f'
  | [], _, _, h, _ => by simp at h
  | _ :: _, 0, _, h, f' => by
    simp only [List.getElem?_cons_zero, Option.some.injEq] at h
    subst h
    simp only [List.set_cons_zero, List.map_cons, List.sum_cons]
    omega
  | _ :: _, i + 1, _, h, f' => by
    simp only [List.getElem?_cons_succ] at h
    have := sum_set g h f'
    simp only [List.set_cons_succ, List.map_cons, List.sum_cons]
    omega

/-- Calls that each hold at most one unit hold at most one unit each, together. -/
theorem sum_le_length (g : Flight → Nat) {calls : List Flight} (h : ∀ f ∈ calls, g f ≤ 1) :
    (calls.map g).sum ≤ calls.length := by
  have := List.sum_le_card_nsmul (calls.map g) 1 (by simpa using h)
  simpa using this

@[simp] theorem stepCalls_begin (w : World) (which : Which) (calls : List Flight) (job : Job)
    (ty : Ty) (start deadline : Int) (ending : Ending (Value × Option Fault)) :
    stepCalls which (w, calls) (.begin job ty start deadline ending) =
      (w, calls ++ [⟨job, ending, Call.begin ty start deadline⟩]) := rfl

theorem stepCalls_none {calls : List Flight} {i : Nat} (hf : calls[i]? = none) (t : Turn) :
    stepCalls which (w, calls) (.turn i t) = (w, calls) := by
  simp only [stepCalls, hf]

theorem stepCalls_turn {calls : List Flight} {i : Nat} {f : Flight} (hf : calls[i]? = some f)
    (t : Turn) :
    stepCalls which (w, calls) (.turn i t) =
      (left (w.applyAll which f.job (f.call.turn f.ending t).1 (f.call.turn f.ending t).2),
        calls.set i { f with call := (f.call.turn f.ending t).1 }) := by
  simp only [stepCalls, hf]
  rfl

theorem length_stepCalls (which : Which) (s : World × List Flight) (st : CallStep) :
    (stepCalls which s st).2.length ≤ s.2.length + 1 := by
  obtain ⟨w, calls⟩ := s
  cases st with
  | begin => simp
  | turn i t =>
    cases hf : calls[i]? with
    | none => rw [stepCalls_none hf]; simp
    | some f => rw [stepCalls_turn hf]; simp

/-- A run adds at most one call a step. -/
theorem length_le_runCalls (which : Which) (s : World × List Flight) (steps : List CallStep) :
    (runCalls which s steps).2.length ≤ s.2.length + steps.length := by
  induction steps generalizing s with
  | nil => exact Nat.le_add_right _ _
  | cons st steps ih =>
    have h1 := ih (stepCalls which s st)
    have h2 := length_stepCalls which s st
    simp only [runCalls, List.foldl_cons, List.length_cons] at h1 ⊢
    omega

@[simp] theorem runCalls_nil (which : Which) (s : World × List Flight) :
    runCalls which s [] = s := rfl

@[simp] theorem runCalls_cons (which : Which) (s : World × List Flight) (st : CallStep)
    (steps : List CallStep) :
    runCalls which s (st :: steps) = runCalls which (stepCalls which s st) steps := rfl

theorem runCalls_append (which : Which) (s : World × List Flight) (xs ys : List CallStep) :
    runCalls which s (xs ++ ys) = runCalls which (runCalls which s xs) ys :=
  List.foldl_append

/-- A step of the calls keeps what running jobs keeps. -/
theorem keeps_stepCalls (which : Which) (w : World) (calls : List Flight) (st : CallStep) :
    Keeps w (stepCalls which (w, calls) st).1 := by
  cases st with
  | begin => exact Keeps.refl w
  | turn i t =>
    cases hf : calls[i]? with
    | none => rw [stepCalls_none hf]; exact Keeps.refl w
    | some f => rw [stepCalls_turn hf]; exact keeps_applyAll w which f.job _ _

theorem keeps_runCalls (which : Which) (s : World × List Flight) (steps : List CallStep) :
    Keeps s.1 (runCalls which s steps).1 := by
  induction steps generalizing s with
  | nil => exact Keeps.refl s.1
  | cons st steps ih => exact (keeps_stepCalls which s.1 s.2 st).trans (ih _)

/-- The calls a step leaves do not depend on the world: the world only takes their effects. -/
theorem calls_stepCalls (which : Which) (w w' : World) (calls : List Flight) (st : CallStep) :
    (stepCalls which (w, calls) st).2 = (stepCalls which (w', calls) st).2 := by
  cases st with
  | begin => rfl
  | turn i t =>
    cases hf : calls[i]? with
    | none => rw [stepCalls_none hf, stepCalls_none hf]
    | some f => rw [stepCalls_turn hf, stepCalls_turn hf]

theorem calls_runCalls (which : Which) (w w' : World) (calls : List Flight)
    (steps : List CallStep) :
    (runCalls which (w, calls) steps).2 = (runCalls which (w', calls) steps).2 := by
  induction steps generalizing w w' calls with
  | nil => rfl
  | cons st steps ih =>
    simp only [runCalls_cons]
    rw [← Prod.eta (stepCalls which (w, calls) st), ← Prod.eta (stepCalls which (w', calls) st),
      calls_stepCalls which w w']
    exact ih _ _ _

/-! ### The invariant -/

/-- How the chosen executor accounts for the calls in flight on it: its wait group counts
exactly the units of the counter the calls hold, and its gauge, when it has collectors,
reads exactly the gauge units they hold. -/
structure Accounted (which : Which) (s : World × List Flight) : Prop where
  fitted : s.1.Fitted which
  consistent : ∀ f ∈ s.2, Consistent f.ending f.call
  wellFormed : (s.1.exec which).group.WellFormed
  counter : (s.1.exec which).group.counter = countsHeld s.2
  gauge : ∀ c, (s.1.exec which).params.collectors = some c →
    s.1.registry.valueOf c.abandonedRunning [] = Double.ofInt (gaugesHeld s.2)

namespace Accounted

variable {calls : List Flight}

theorem countsHeld_le (h : Accounted which (w, calls)) : countsHeld calls ≤ calls.length :=
  sum_le_length _ fun f hf => (h.consistent f hf).countHeld_le_one

theorem gaugesHeld_le (h : Accounted which (w, calls)) : gaugesHeld calls ≤ calls.length :=
  sum_le_length _ fun f hf => (h.consistent f hf).gaugeHeld_le_one

/-- A call that begins holds nothing. -/
theorem begin (h : Accounted which (w, calls)) (job : Job) (ty : Ty) (start deadline : Int)
    (ending : Ending (Value × Option Fault)) :
    Accounted which (w, calls ++ [⟨job, ending, Call.begin ty start deadline⟩]) where
  fitted := h.fitted
  consistent := by
    intro f hf
    rcases List.mem_append.mp hf with hf | hf
    · exact h.consistent f hf
    · rw [List.mem_singleton.mp hf]
      exact consistent_begin ending ty start deadline
  wellFormed := h.wellFormed
  counter := by
    rw [h.counter]
    simp [countsHeld, Call.countHeld, Call.begin, CallerAt.holdsCount]
  gauge := fun c hc => by
    rw [h.gauge c hc]
    simp [gaugesHeld, Call.gaugeHeld, Call.begin, CallerAt.holdsGauge]

/-- A turn of one call keeps the accounting: the executor applies exactly the effects that
change what the call holds. -/
theorem turn (h : Accounted which (w, calls)) (hn : calls.length + 1 < 2 ^ 53) {i : Nat}
    {f : Flight} (hf : calls[i]? = some f) (t : Turn) :
    Accounted which (stepCalls which (w, calls) (.turn i t)) := by
  rw [stepCalls_turn hf]
  have hi := h.consistent f (List.mem_of_getElem? hf)
  have hh := held_turn hi t
  have hk := keeps_applyAll w which f.job (f.call.turn f.ending t).1 (f.call.turn f.ending t).2
  have hcount : countsHeld (calls.set i { f with call := (f.call.turn f.ending t).1 }) +
      f.call.countHeld = countsHeld calls + (f.call.turn f.ending t).1.countHeld :=
    sum_set (·.call.countHeld) hf _
  have hgauge : gaugesHeld (calls.set i { f with call := (f.call.turn f.ending t).1 }) +
      f.call.gaugeHeld = gaugesHeld calls + (f.call.turn f.ending t).1.gaugeHeld :=
    sum_set (·.call.gaugeHeld) hf _
  have hcl := h.countsHeld_le
  have hgl := h.gaugesHeld_le
  refine ⟨h.fitted.of_keeps hk, ?_, ?_, ?_, ?_⟩
  · intro f' hf'
    rcases List.mem_or_eq_of_mem_set hf' with hf' | rfl
    · exact h.consistent f' hf'
    · exact hi.turn t
  · dsimp only
    rw [group_applyAll_held w which f.job hh]
    exact h.wellFormed.apply _
  · dsimp only
    rw [group_applyAll_held w which f.job hh]
    exact WaitGroup.counter_held h.wellFormed h.counter (by dsimp only; omega) hh hcount
  · intro c hc
    have hc' : (w.exec which).params.collectors = some c := by rw [← hk.exec which]; exact hc
    exact gauge_applyAll_held h.fitted hc' f.job hh (h.gauge c hc') hgauge (by dsimp only; omega)

/-- Every step keeps the accounting while the calls stay below `2^53`. -/
theorem step {s : World × List Flight} (h : Accounted which s) (hn : s.2.length + 1 < 2 ^ 53)
    (st : CallStep) : Accounted which (stepCalls which s st) := by
  obtain ⟨w, calls⟩ := s
  cases st with
  | begin job ty start deadline ending => exact h.begin job ty start deadline ending
  | turn i t =>
    cases hf : calls[i]? with
    | none => rw [stepCalls_none hf]; exact h
    | some f => exact h.turn hn hf t

/-- Every run keeps the accounting while the calls stay below `2^53`. -/
theorem run {s : World × List Flight} (h : Accounted which s) (steps : List CallStep)
    (hn : s.2.length + steps.length < 2 ^ 53) : Accounted which (runCalls which s steps) := by
  induction steps generalizing s with
  | nil => exact h
  | cons st steps ih =>
    have hl := length_stepCalls which s st
    simp only [List.length_cons] at hn
    exact ih (h.step (by omega) st) (by omega)

end Accounted

/-- A fresh executor, with its gauge at zero, accounts for no calls. -/
theorem accounted_start (hw : w.Fitted which) (hg : (w.exec which).group = WaitGroup.empty)
    (hz : ∀ c, (w.exec which).params.collectors = some c →
      w.registry.valueOf c.abandonedRunning [] = Double.zero) :
    Accounted which (w, []) where
  fitted := hw
  consistent := by simp
  wellFormed := hg ▸ WaitGroup.wellFormed_empty
  counter := by rw [hg]; rfl
  gauge := fun c hc => (hz c hc).trans Double.ofInt_zero.symm

/-! ### What the wait group sees -/

/-- The wait-group call a step of the calls makes. -/
def groupStepAt (s : World × List Flight) : CallStep → WaitStep
  | .begin .. => .counter
  | .turn i t => match s.2[i]? with
    | none => .counter
    | some f => groupStepOf (f.call.turn f.ending t).2

/-- The wait-group calls a run of the calls makes, in order. -/
def groupSteps (which : Which) : World × List Flight → List CallStep → List WaitStep
  | _, [] => []
  | s, st :: sts => groupStepAt s st :: groupSteps which (stepCalls which s st) sts

theorem length_groupSteps (which : Which) : ∀ (s : World × List Flight) (steps : List CallStep),
    (groupSteps which s steps).length = steps.length
  | _, [] => rfl
  | s, st :: steps => by simp [groupSteps, length_groupSteps which _ steps]

theorem groupSteps_take (which : Which) : ∀ (s : World × List Flight) (steps : List CallStep)
    (k : Nat), (groupSteps which s steps).take k = groupSteps which s (steps.take k)
  | _, [], _ => by simp [groupSteps]
  | _, _ :: _, 0 => by simp [groupSteps]
  | s, st :: steps, k + 1 => by simp [groupSteps, groupSteps_take which _ steps k]

theorem group_stepCalls {s : World × List Flight} (h : Accounted which s) (st : CallStep) :
    ((stepCalls which s st).1.exec which).group =
      WaitStep.apply (s.1.exec which).group (groupStepAt s st) := by
  obtain ⟨w, calls⟩ := s
  cases st with
  | begin => rfl
  | turn i t =>
    cases hf : calls[i]? with
    | none =>
      rw [stepCalls_none hf]
      simp only [groupStepAt, hf]
      rfl
    | some f =>
      rw [stepCalls_turn hf]
      simp only [groupStepAt, hf]
      exact group_applyAll_held w which f.job
        (held_turn (h.consistent f (List.mem_of_getElem? hf)) t)

/-- Along a run, the wait group takes exactly the calls the steps make. -/
theorem group_runCalls {s : World × List Flight} (h : Accounted which s) (steps : List CallStep)
    (hn : s.2.length + steps.length < 2 ^ 53) :
    ((runCalls which s steps).1.exec which).group =
      WaitStep.applyAll (s.1.exec which).group (groupSteps which s steps) := by
  induction steps generalizing s with
  | nil => rfl
  | cons st steps ih =>
    have hl := length_stepCalls which s st
    simp only [List.length_cons] at hn
    rw [runCalls_cons, ih (h.step (by omega) st) (by omega), group_stepCalls h st]
    rfl

/-! ### What stays of a call in flight -/

section Stable

variable {P : Flight → Prop}
  (hP : ∀ f t, P f → P { f with call := (f.call.turn f.ending t).1 })
include hP

/-- What every turn keeps of a call in flight, every step keeps: the call stays at its place
and only its own turns move it. -/
theorem stepCalls_stable {s : World × List Flight} {i : Nat} {f : Flight} (hf : s.2[i]? = some f)
    (hp : P f) (st : CallStep) : ∃ f', (stepCalls which s st).2[i]? = some f' ∧ P f' := by
  obtain ⟨w, calls⟩ := s
  obtain ⟨hi, -⟩ := List.getElem?_eq_some_iff.mp hf
  cases st with
  | begin job ty start deadline ending =>
    exact ⟨f, by rw [stepCalls_begin, List.getElem?_append_left hi]; exact hf, hp⟩
  | turn j t =>
    cases hg : calls[j]? with
    | none => exact ⟨f, by rw [stepCalls_none hg]; exact hf, hp⟩
    | some g =>
      rw [stepCalls_turn hg]
      by_cases hji : j = i
      · subst hji
        obtain rfl : g = f := Option.some.inj (hg.symm.trans hf)
        exact ⟨_, by simp [hi], hP g t hp⟩
      · exact ⟨f, by rw [List.getElem?_set, if_neg hji]; exact hf, hp⟩

theorem runCalls_stable {s : World × List Flight} {i : Nat} {f : Flight} (hf : s.2[i]? = some f)
    (hp : P f) (steps : List CallStep) :
    ∃ f', (runCalls which s steps).2[i]? = some f' ∧ P f' := by
  induction steps generalizing s f with
  | nil => exact ⟨f, hf, hp⟩
  | cons st steps ih =>
    obtain ⟨f1, hf1, hp1⟩ := stepCalls_stable hP hf hp st
    exact ih hf1 hp1

end Stable

/-- **A released waiter saw the late ends.** A waiter that took the wait group's channel in
an accounted state and is released after a run has seen every call then abandoned make its
final `Done`: at the end of the run its worker is past it. -/
theorem Accounted.released {s : World × List Flight} (h : Accounted which s)
    (steps : List CallStep) (hn : s.2.length + steps.length < 2 ^ 53)
    (hr : ((runCalls which s steps).1.exec which).group.released
      (s.1.exec which).group.waitChannel = true)
    {i : Nat} {f : Flight} (hf : s.2[i]? = some f) (hp : f.call.phase = .abandoned) :
    ∃ f', (runCalls which s steps).2[i]? = some f' ∧ f'.call.worker.beforeDone = false := by
  rw [group_runCalls h steps hn] at hr
  obtain ⟨k, hk, hz⟩ := (WaitGroup.released_iff h.wellFormed _).mp hr
  rw [length_groupSteps] at hk
  have hnk : s.2.length + (steps.take k).length < 2 ^ 53 := by simp; omega
  rw [groupSteps_take, ← group_runCalls h _ hnk] at hz
  -- when the counter reached zero the call, still abandoned, held no count
  obtain ⟨fk, hfk, hpk⟩ : ∃ f', (runCalls which s (steps.take k)).2[i]? = some f' ∧
      f'.call.phase = .abandoned :=
    runCalls_stable (fun f t hp => phase_turn_abandoned hp t) hf hp _
  have h0 : fk.call.countHeld = 0 := by
    have hc := (h.run _ hnk).counter
    have hle := le_countsHeld hfk
    omega
  -- and its worker, past its `Done` then, stays past it
  obtain ⟨f', hf', hd⟩ := runCalls_stable (fun f t hd => beforeDone_turn hd t) hfk
    (beforeDone_of_countHeld h0 hpk) (steps.drop k)
  rw [← runCalls_append, List.take_append_drop] at hf'
  exact ⟨f', hf', hd⟩

/-- Outside the callers' abandon windows and the workers' reports, the gauge units held are
the counts held. -/
theorem gaugesHeld_eq_countsHeld {calls : List Flight}
    (h : ∀ f ∈ calls,
      f.call.caller.inAbandonWindow = false ∧ f.call.worker.inLateEnd = false) :
    gaugesHeld calls = countsHeld calls := by
  unfold gaugesHeld countsHeld
  congr 1
  exact List.map_congr_left fun f hf => (countHeld_eq_gaugeHeld (h f hf).1 (h f hf).2).symm

/-- Once every caller returned and every worker whose caller won made its final `Done`, the
calls hold no count. -/
theorem countsHeld_eq_zero {calls : List Flight}
    (h : ∀ f ∈ calls, (∃ o, f.call.caller = .returned o) ∧
      (f.call.phase = .abandoned → f.call.worker = .closing ∨ f.call.worker = .exited)) :
    countsHeld calls = 0 := by
  refine List.sum_eq_zero_iff.mpr fun n hn => ?_
  obtain ⟨f, hf, rfl⟩ := List.mem_map.mp hn
  obtain ⟨⟨o, ho⟩, hw⟩ := h f hf
  exact countHeld_eq_zero ho fun hp => beforeDone_eq_false.mpr (hw hp)

/-- **Abandoned-call accounting on one executor.** Any number of calls run on a fresh
executor whose gauge of abandoned works reads zero, their callers' and workers' steps
interleaved in any order. After every run of fewer than `2^53` steps:

* `Abandoned()` is exactly the number of calls whose caller has added its count and neither
  won its claim nor reverted, plus the number of calls the caller won whose worker has not
  made the `Done` at the end of its late end; so it is never negative, and no `Done` is
  lost;
* the next `Done` of any call meets a positive counter, so the floor at zero never acts;
* it is zero once every caller returned and every worker whose caller won is past its `Done`;
* the gauge reads `Abandoned()` exactly wherever no caller is between its `Add(1)` and the
  end of the branch its claim took, and no worker inside its report of a late end;
* a `WaitAbandoned` that took its channel after the first `k` steps and is released by the
  end has seen every call abandoned at that point make its final `Done`.

The first set is the calls whose caller holds a count (`CallerAt.holdsCount`); a caller
that won its claim never reverts, and its call is counted in the second set. The executor
runs only these calls, so its collectors serve no other executor. -/
theorem abandoned_accounting (w : World) (which : Which) (hw : w.Fitted which)
    (hg : (w.exec which).group = WaitGroup.empty)
    (hz : ∀ c, (w.exec which).params.collectors = some c →
      w.registry.valueOf c.abandonedRunning [] = Double.zero)
    (steps : List CallStep) (hn : steps.length < 2 ^ 53) :
    let s := runCalls which (w, []) steps
    s.1.abandoned which = ↑(s.2.countP (·.call.caller.holdsCount) +
      s.2.countP (fun f => decide (f.call.phase = .abandoned) && f.call.worker.beforeDone)) ∧
    (∀ (i : Nat) (f : Flight) (t : Turn), s.2[i]? = some f →
      Effect.uncount ∈ (f.call.turn f.ending t).2 →
      0 < s.1.abandoned which) ∧
    ((∀ f ∈ s.2, (∃ o, f.call.caller = .returned o) ∧
        (f.call.phase = .abandoned → f.call.worker = .closing ∨ f.call.worker = .exited)) →
      s.1.abandoned which = 0) ∧
    (∀ c, (s.1.exec which).params.collectors = some c →
      (∀ f ∈ s.2, f.call.caller.inAbandonWindow = false ∧ f.call.worker.inLateEnd = false) →
      s.1.registry.valueOf c.abandonedRunning [] = Double.ofInt (s.1.abandoned which)) ∧
    ∀ k, (s.1.exec which).group.released
        ((runCalls which (w, []) (steps.take k)).1.exec which).group.waitChannel = true →
      ∀ (i : Nat) (f : Flight), (runCalls which (w, []) (steps.take k)).2[i]? = some f →
        f.call.phase = .abandoned →
        ∃ f', s.2[i]? = some f' ∧ (f'.call.worker = .closing ∨ f'.call.worker = .exited) := by
  intro s
  have h0 := accounted_start hw hg hz
  have h : Accounted which s := h0.run steps (by simpa using hn)
  have hc : s.1.abandoned which = countsHeld s.2 := h.counter
  refine ⟨hc.trans (by rw [countsHeld_eq]), ?_, ?_, ?_, ?_⟩
  · -- the move that uncounts gives back a count its call holds
    intro i f t hf hu
    have hp := (held_turn (h.consistent f (List.mem_of_getElem? hf)) t).countHeld_pos hu
    have hle := le_countsHeld hf
    omega
  · intro hall
    rw [hc, countsHeld_eq_zero hall]
    rfl
  · intro c hcl hq
    rw [h.gauge c hcl, hc, gaugesHeld_eq_countsHeld hq]
  · -- the waiter's state is the one after the first `k` steps, from which the rest runs
    intro k hr i f hf hp
    have hk : (runCalls which (w, []) (steps.take k)).2.length + (steps.drop k).length <
        2 ^ 53 := by
      have := length_le_runCalls which (w, []) (steps.take k)
      simp at this ⊢
      omega
    have hs : s = runCalls which (runCalls which (w, []) (steps.take k)) (steps.drop k) := by
      rw [← runCalls_append, List.take_append_drop]
    rw [hs] at hr ⊢
    obtain ⟨f', hf', hd⟩ := (h0.run _ (by simp; omega)).released _ hk hr hf hp
    exact ⟨f', hf', beforeDone_eq_false.mp hd⟩

/-- In a session with metrics, a call whose caller's timer fires first, once the caller has
returned, is counted once as abandoned, and the gauge reads it. -/
theorem abandoned_accounting_metered :
    let steps : List CallStep :=
      .begin ⟨"job", [], none⟩ .string 0 1 .exited :: List.replicate 4 (.turn 0 (.caller true 1))
    ∃ w c, Session.start meteredSetup "main" = .ok w ∧ (w.exec .main).params.collectors = some c ∧
      (runCalls .main (w, []) steps).1.abandoned .main = 1 ∧
      (runCalls .main (w, []) steps).1.registry.valueOf c.abandonedRunning [] = Double.ofInt 1 := by
  intro steps
  obtain ⟨w, c, hs, hc, hg, hw, hzero⟩ := meteredSetup_start
  have h := abandoned_accounting w .main (hw .main) hg (fun _ _ => hzero _ _) steps (by decide)
  -- the calls are those of the same steps in any world, here one without collectors
  have hcalls : (runCalls .main (w, []) steps).2 = (runCalls .main
      (⟨0, Registry.empty default, [], [], Executor.fallback, Executor.fallback⟩, []) steps).2 :=
    calls_runCalls .main _ _ [] steps
  have hn : (runCalls .main (w, []) steps).1.abandoned .main = 1 := by
    rw [h.1, hcalls]
    decide
  have hc' : ((runCalls .main (w, []) steps).1.exec .main).params.collectors = some c := by
    rw [(keeps_runCalls .main (w, []) steps).exec .main]
    exact hc
  refine ⟨w, c, hs, hc, hn, ?_⟩
  rw [h.2.2.2.1 c hc' (by rw [hcalls]; decide), hn]

end World

end Timebox
