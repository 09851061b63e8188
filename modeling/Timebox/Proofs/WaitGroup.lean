import Mathlib
import Timebox.Session.WaitGroup

/-! # The wait group's representation invariant

Every sequence of calls on a wait group (adding any delta, marking a task done, reading the
counter, taking the channel to wait on), in whatever order goroutines make them under the
group's lock, leaves it well formed (`WellFormed`):

* the counter is between zero and the largest 64-bit integer;
* a channel is open exactly while the counter is positive, and it is one the group made;
* every other channel the group made is closed, and none is closed twice.

From this, `done` lowers a positive counter by exactly one and reports whether it did
(`done_spec`), and a waiter is never left behind (`released_iff`): a waiter holding the
channel it took is released exactly when the counter has reached zero since it took it, also
when the group is raised again at once and later waiters take a new channel.

The main statement is `waitGroup_wellFormed`.
-/

namespace Timebox.WaitGroup

open Session

/-! ### Sums in 64 bits -/

theorem wrap64_of_lt {i : Int} (h0 : 0 ≤ i) (h : i < 2 ^ 63) : wrap64 i = i := by
  have hp : Int.pow 2 64 = 2 ^ 64 := rfl
  have hq : Int.pow 2 63 = 2 ^ 63 := rfl
  have hm : i % 2 ^ 64 = i := Int.emod_eq_of_lt h0 (by omega)
  simp only [wrap64, hp, hq, hm]
  split <;> omega

theorem wrap64_lt (i : Int) : wrap64 i < 2 ^ 63 := by
  have hp : Int.pow 2 64 = 2 ^ 64 := rfl
  have hq : Int.pow 2 63 = 2 ^ 63 := rfl
  have hm : i % 2 ^ 64 < 2 ^ 64 := Int.emod_lt_of_pos i (by norm_num)
  simp only [wrap64, hp, hq]
  split <;> omega

theorem next_lt (before delta : Int) : next before delta < 2 ^ 63 := by
  have := wrap64_lt (before + delta)
  unfold next
  dsimp only
  split <;> omega

/-- Lowering a counter that is positive and within 64 bits by one is exact. -/
theorem next_pred {n : Int} (h0 : 0 < n) (h : n < 2 ^ 63) : next n (-1) = n - 1 := by
  have hw : wrap64 (n + -1) = n - 1 := by rw [wrap64_of_lt (by omega) (by omega)]; omega
  unfold next
  dsimp only
  rw [hw]
  split <;> omega

/-! ### What adding does -/

/-- Adding rises from zero with a new channel, falls to zero closing the open one, or only
moves the counter. -/
theorem add_cases (w : WaitGroup) (d : Int) :
    (w.counter ≤ 0 ∧ 0 < next w.counter d ∧
      w.add d = { w with counter := next w.counter d, drained := some w.made, made := w.made + 1 }) ∨
    (0 < w.counter ∧ next w.counter d = 0 ∧
      w.add d = { w with counter := 0, drained := none, closed := w.drained.toList ++ w.closed }) ∨
    (¬ (w.counter ≤ 0 ∧ 0 < next w.counter d) ∧ ¬ (0 < w.counter ∧ next w.counter d = 0) ∧
      w.add d = { w with counter := next w.counter d }) := by
  unfold add
  by_cases h1 : w.counter ≤ 0 ∧ next w.counter d > 0
  · exact .inl ⟨h1.1, h1.2, by rw [if_pos h1]⟩
  · by_cases h2 : w.counter > 0 ∧ next w.counter d = 0
    · exact .inr (.inl ⟨h2.1, h2.2, by rw [if_neg h1, if_pos h2, h2.2]⟩)
    · exact .inr (.inr ⟨h1, h2, by rw [if_neg h1, if_neg h2]⟩)

/-! ### The invariant -/

/-- A wait group's representation invariant. Channels are numbered in the order they are
made, so the channels made so far are those below `made`. -/
structure WellFormed (w : WaitGroup) : Prop where
  counter_nonneg : 0 ≤ w.counter
  counter_lt : w.counter < 2 ^ 63
  /-- A channel is held exactly while the counter is positive. -/
  drained_iff : w.drained.isSome ↔ 0 < w.counter
  drained_made : ∀ ch, w.drained = some ch → ch < w.made
  /-- The held channel is open. -/
  drained_open : ∀ ch, w.drained = some ch → ch ∉ w.closed
  closed_made : ∀ ch ∈ w.closed, ch < w.made
  /-- Every channel made and no longer held is closed. -/
  closed_all : ∀ ch < w.made, w.drained ≠ some ch → ch ∈ w.closed
  /-- No channel is closed twice. -/
  nodup : w.closed.Nodup

theorem wellFormed_empty : WellFormed empty where
  counter_nonneg := le_refl _
  counter_lt := by norm_num [empty]
  drained_iff := by simp [empty]
  drained_made := by simp [empty]
  drained_open := by simp [empty]
  closed_made := by simp [empty]
  closed_all := by simp [empty]
  nodup := List.nodup_nil

namespace WellFormed

variable {w : WaitGroup} (hw : WellFormed w)
include hw

theorem drained_none (h : w.drained = none) : w.counter = 0 := by
  have := hw.drained_iff
  have := hw.counter_nonneg
  simp only [h, Option.isSome_none, Bool.false_eq_true, false_iff] at *
  omega

theorem exists_drained (h : 0 < w.counter) : ∃ ch, w.drained = some ch :=
  Option.isSome_iff_exists.mp (hw.drained_iff.mpr h)

/-- Adding keeps the invariant. -/
theorem add (d : Int) : WellFormed (w.add d) := by
  have hlt := next_lt w.counter d
  have hnn := next_nonneg w.counter d
  rcases add_cases w d with ⟨h0, hpos, he⟩ | ⟨hpos, hz, he⟩ | ⟨hr, hf, he⟩ <;> rw [he]
  · -- the counter rises from zero: no channel was held, a new one is made
    have hn : w.drained = none := by
      cases hd : w.drained with
      | none => rfl
      | some ch => have := hw.drained_iff.mp (by simp [hd]); omega
    refine ⟨hnn, hlt, by simp [hpos], by simp, fun ch h => ?_, fun ch h => ?_,
      fun ch h hne => ?_, hw.nodup⟩
    · cases h; exact fun hc => absurd (hw.closed_made _ hc) (lt_irrefl _)
    · exact Nat.lt_succ_of_lt (hw.closed_made ch h)
    · have hlt' : ch < w.made := by
        rcases Nat.lt_succ_iff_lt_or_eq.mp h with h | rfl
        · exact h
        · exact absurd rfl hne
      exact hw.closed_all ch hlt' (by simp [hn])
  · -- the counter falls to zero: the held channel is closed, once
    obtain ⟨d0, hd⟩ := hw.exists_drained hpos
    refine ⟨le_refl _, by norm_num, by simp, by simp, by simp, fun ch h => ?_,
      fun ch h _ => ?_, ?_⟩
    · simp only [hd, Option.toList_some, List.singleton_append, List.mem_cons] at h
      rcases h with rfl | h
      · exact hw.drained_made _ hd
      · exact hw.closed_made ch h
    · simp only [hd, Option.toList_some, List.singleton_append, List.mem_cons]
      by_cases hc : ch = d0
      · exact .inl hc
      · exact .inr (hw.closed_all ch h (by rw [hd]; simpa using Ne.symm hc))
    · simp only [hd, Option.toList_some, List.singleton_append]
      exact List.nodup_cons.mpr ⟨hw.drained_open d0 hd, hw.nodup⟩
  · -- the counter moves and stays on the same side of zero
    have hiff : w.drained.isSome ↔ 0 < next w.counter d := by
      rw [hw.drained_iff]
      have := hw.counter_nonneg
      constructor
      · intro h; by_contra hn; exact hf ⟨h, by omega⟩
      · intro h; by_contra hn; exact hr ⟨by omega, h⟩
    exact ⟨hnn, hlt, hiff, hw.drained_made, hw.drained_open, hw.closed_made, hw.closed_all,
      hw.nodup⟩

theorem done : WellFormed w.done.1 := by
  unfold WaitGroup.done
  split
  · exact hw
  · exact hw.add (-1)

/-- `done` lowers a positive counter by exactly one and says so; at zero it changes
nothing. -/
theorem done_spec : (w.done.2 = true ↔ 0 < w.counter) ∧
    (w.done.2 = true → w.done.1.counter = w.counter - 1) ∧ (w.done.2 = false → w.done.1 = w) := by
  unfold WaitGroup.done
  split
  · exact ⟨by simp; omega, by simp, fun _ => rfl⟩
  · rename_i h
    refine ⟨by simp; omega, fun _ => ?_, by simp⟩
    rw [add_counter, next_pred (by omega) hw.counter_lt]

/-- Adding closes at most the held channel, which is open. -/
theorem add_closed (d : Int) : (w.add d).closed = w.closed ∨
    ∃ ch, w.drained = some ch ∧ ch ∉ w.closed ∧ (w.add d).closed = ch :: w.closed := by
  rcases add_cases w d with ⟨-, -, he⟩ | ⟨hpos, -, he⟩ | ⟨-, -, he⟩ <;> rw [he]
  · exact .inl rfl
  · obtain ⟨ch, hd⟩ := hw.exists_drained hpos
    exact .inr ⟨ch, hd, hw.drained_open ch hd, by simp [hd]⟩
  · exact .inl rfl

/-- A call closes at most the held channel, which is open. -/
theorem apply_closed (st : WaitStep) : (WaitStep.apply w st).closed = w.closed ∨
    ∃ ch, w.drained = some ch ∧ ch ∉ w.closed ∧ (WaitStep.apply w st).closed = ch :: w.closed := by
  cases st with
  | add d => exact hw.add_closed d
  | done =>
    simp only [WaitStep.apply, WaitGroup.done]
    split
    · exact .inl rfl
    · exact hw.add_closed (-1)
  | counter | waitTimeout _ | wait => exact .inl rfl

/-- While a channel is held, a call either drains the counter and closes that channel, or
keeps both. -/
theorem apply_drained {ch : Nat} (hd : w.drained = some ch) (st : WaitStep) :
    ((WaitStep.apply w st).counter = 0 ∧ ch ∈ (WaitStep.apply w st).closed) ∨
      (0 < (WaitStep.apply w st).counter ∧ (WaitStep.apply w st).drained = some ch) := by
  have hpos : 0 < w.counter := hw.drained_iff.mp (by simp [hd])
  have hadd (d : Int) : ((w.add d).counter = 0 ∧ ch ∈ (w.add d).closed) ∨
      (0 < (w.add d).counter ∧ (w.add d).drained = some ch) := by
    have hnn := next_nonneg w.counter d
    rcases add_cases w d with ⟨h0, -, -⟩ | ⟨-, hz, he⟩ | ⟨-, hf, he⟩
    · omega
    · rw [he]; exact .inl ⟨rfl, by simp [hd]⟩
    · rw [he]
      exact .inr ⟨lt_of_le_of_ne hnn (fun h => hf ⟨hpos, h.symm⟩), hd⟩
  cases st with
  | add d => exact hadd d
  | done =>
    simp only [WaitStep.apply, WaitGroup.done, if_neg (not_le.mpr hpos)]
    exact hadd (-1)
  | counter | waitTimeout _ | wait => exact .inr ⟨hpos, hd⟩

theorem apply (st : WaitStep) : WellFormed (WaitStep.apply w st) := by
  cases st with
  | add d => exact hw.add d
  | done => exact hw.done
  | counter | waitTimeout _ | wait => exact hw

end WellFormed

@[simp] theorem applyAll_nil (w : WaitGroup) : WaitStep.applyAll w [] = w := rfl

@[simp] theorem applyAll_cons (w : WaitGroup) (st : WaitStep) (sts : List WaitStep) :
    WaitStep.applyAll w (st :: sts) = WaitStep.applyAll (WaitStep.apply w st) sts := rfl

/-- Every sequence of calls keeps the invariant. -/
theorem WellFormed.applyAll {w : WaitGroup} (hw : WellFormed w) (sts : List WaitStep) :
    WellFormed (WaitStep.applyAll w sts) := by
  induction sts generalizing w with
  | nil => exact hw
  | cons st sts ih => exact ih (hw.apply st)

theorem closed_applyAll {w : WaitGroup} (hw : WellFormed w) {ch : Nat} (hc : ch ∈ w.closed)
    (sts : List WaitStep) : ch ∈ (WaitStep.applyAll w sts).closed := by
  induction sts generalizing w with
  | nil => exact hc
  | cons st sts ih =>
    refine ih (hw.apply st) ?_
    rcases hw.apply_closed st with h | ⟨_, _, _, h⟩ <;> rw [h]
    · exact hc
    · exact List.mem_cons_of_mem _ hc

/-- **No lost wake-up.** A waiter that takes the channel to wait on is released, after any
later calls, exactly when the counter has been zero at some point since it took it. -/
theorem released_iff {w : WaitGroup} (hw : WellFormed w) (later : List WaitStep) :
    (WaitStep.applyAll w later).released w.waitChannel = true ↔
      ∃ k ≤ later.length, (WaitStep.applyAll w (later.take k)).counter = 0 := by
  cases hd : w.drained with
  | none =>
    -- nothing to wait for: the counter is zero already
    simp only [waitChannel, hd, released, true_iff]
    exact ⟨0, Nat.zero_le _, by simpa using hw.drained_none hd⟩
  | some ch =>
    simp only [waitChannel, hd, released, List.contains_iff_mem]
    induction later generalizing w with
    | nil =>
      have hpos : 0 < w.counter := hw.drained_iff.mp (by simp [hd])
      simp only [applyAll_nil, hw.drained_open ch hd, false_iff, not_exists, not_and]
      intro k hk
      simp only [List.length_nil, Nat.le_zero] at hk
      subst hk
      simp only [List.take_zero, applyAll_nil]
      omega
    | cons st sts ih =>
      have hpos : 0 < w.counter := hw.drained_iff.mp (by simp [hd])
      rcases hw.apply_drained hd st with ⟨hz, hc⟩ | ⟨hpos', hd'⟩
      · -- this call drains the counter and closes the waiter's channel
        simp only [applyAll_cons, closed_applyAll (hw.apply st) hc sts, true_iff]
        exact ⟨1, by simp, by simpa using hz⟩
      · -- the channel is still held: the waiter is released later or never
        rw [applyAll_cons, ih (hw.apply st) hd']
        constructor
        · rintro ⟨k, hk, h⟩
          exact ⟨k + 1, by simp; omega, by simpa using h⟩
        · rintro ⟨k, hk, h⟩
          cases k with
          | zero => simp at h; omega
          | succ k => exact ⟨k, by simp at hk; omega, by simpa using h⟩

/-! ### Every sequence of calls -/

/-- **The wait group's representation invariant.** After any sequence of calls from a fresh
group, serialized by its lock:

* the counter is a non-negative 64-bit integer;
* a channel is held exactly while the counter is positive, and it is one the group made and
  has not closed;
* every channel the group made and no longer holds is closed, and none was closed twice;
* the next call closes at most the held channel, which is open;
* `done` reports whether the counter was positive and then lowers it by exactly one;
* a waiter taking its channel now is released after any later calls exactly when the counter
  has reached zero since then. A bounded wait is released when the counter reached zero
  before its timer fired: the same statement for the calls made before the timer fired. -/
theorem waitGroup_wellFormed (sts : List WaitStep) :
    let w := WaitStep.applyAll empty sts
    0 ≤ w.counter ∧ w.counter < 2 ^ 63 ∧
    (w.drained.isSome ↔ 0 < w.counter) ∧
    (∀ ch, w.drained = some ch → ch < w.made ∧ ch ∉ w.closed) ∧
    (∀ ch < w.made, w.drained ≠ some ch → ch ∈ w.closed) ∧ w.closed.Nodup ∧
    (∀ st, (WaitStep.apply w st).closed = w.closed ∨
      ∃ ch, w.drained = some ch ∧ ch ∉ w.closed ∧ (WaitStep.apply w st).closed = ch :: w.closed) ∧
    ((w.done.2 = true ↔ 0 < w.counter) ∧ (w.done.2 = true → w.done.1.counter = w.counter - 1) ∧
      (w.done.2 = false → w.done.1 = w)) ∧
    ∀ later, (WaitStep.applyAll w later).released w.waitChannel = true ↔
      ∃ k ≤ later.length, (WaitStep.applyAll w (later.take k)).counter = 0 := by
  intro w
  have hw : WellFormed w := wellFormed_empty.applyAll sts
  exact ⟨hw.counter_nonneg, hw.counter_lt, hw.drained_iff,
    fun ch h => ⟨hw.drained_made ch h, hw.drained_open ch h⟩, hw.closed_all, hw.nodup,
    hw.apply_closed, hw.done_spec, released_iff hw⟩

end Timebox.WaitGroup
