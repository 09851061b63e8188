import Mathlib
import Timebox.Proofs.WaitGroup

/-! # The wait group's counter against the integers

The counter is a 64-bit integer, and adding computes the sum in that width before the floor
at zero. Over the integers a step would leave `idealStep`: adding `d` gives `max 0 (c + d)`
and `done` lowers a positive counter by one. The two agree exactly until an add's sum
reaches `2 ^ 63`: that sum wraps around to a negative number, the floor sets the counter to
zero, and a positive counter falling to zero closes the held channel, releasing every
waiter.

* `apply_counter_eq_ideal_iff`: one call agrees with the integers exactly when it is not an
  add whose sum reaches `2 ^ 63`.
* `counter_exact_iff`: along any sequence of calls with 64-bit deltas, the counters after
  every prefix are the integer ones exactly when no add's sum reaches `2 ^ 63` (`NoWrap`);
  and a positive add lowers the counter, and closes the held channel, exactly when its sum
  wraps.
* `add_one_after_max_releases`: adding the largest 64-bit integer and then one leaves the
  counter at zero where the integers give `2 ^ 63`, and releases the waiter in between.
-/

namespace Timebox.WaitGroup

open Session

/-- The counter after a call, computed over the integers with no word size. -/
def idealStep (c : Int) : WaitStep → Int
  | .add d => max 0 (c + d)
  | .done => if 0 < c then c - 1 else c
  | .counter | .waitTimeout _ | .wait => c

/-- Whether a call's sum leaves the 64-bit range: an add whose sum reaches `2 ^ 63`. -/
def Wraps (c : Int) : WaitStep → Prop
  | .add d => 2 ^ 63 ≤ c + d
  | .done | .counter | .waitTimeout _ | .wait => False

/-- No add of the calls, made from the counter `c` over the integers, has a sum that reaches
`2 ^ 63`. -/
def NoWrap : Int → List WaitStep → Prop
  | _, [] => True
  | c, st :: sts => ¬ Wraps c st ∧ NoWrap (idealStep c st) sts

/-- A call whose delta is a 64-bit integer, as the language's `int` is. -/
def fits64 : WaitStep → Bool
  | .add d => -2 ^ 63 ≤ d && d < 2 ^ 63
  | .done | .counter | .waitTimeout _ | .wait => true

/-! ### Sums in 64 bits -/

/-- A sum in the signed 64-bit range is its own wrapping. -/
theorem wrap64_eq_self {i : Int} (h0 : -2 ^ 63 ≤ i) (h : i < 2 ^ 63) : wrap64 i = i := by
  have hp : Int.pow 2 64 = 2 ^ 64 := rfl
  have hq : Int.pow 2 63 = 2 ^ 63 := rfl
  simp only [wrap64, hp, hq]
  rcases lt_or_ge i 0 with hn | hn
  · -- a negative sum sits in the upper half of the unsigned range
    have hm : i % 2 ^ 64 = i + 2 ^ 64 := by
      rw [show i = (i + 2 ^ 64) + (-1) * 2 ^ 64 by ring, Int.add_mul_emod_self_right,
        Int.emod_eq_of_lt (by omega) (by omega)]
      ring
    rw [hm]
    split <;> omega
  · exact wrap64_of_lt hn h

/-- A sum past the largest 64-bit integer, as two such numbers give, wraps to a negative
one. -/
theorem wrap64_of_ge {i : Int} (h0 : 2 ^ 63 ≤ i) (h : i < 2 ^ 64) : wrap64 i = i - 2 ^ 64 := by
  have hp : Int.pow 2 64 = 2 ^ 64 := rfl
  have hq : Int.pow 2 63 = 2 ^ 63 := rfl
  have hm : i % 2 ^ 64 = i := Int.emod_eq_of_lt (by omega) h
  simp only [wrap64, hp, hq, hm]
  split <;> omega

/-- From a counter in range, adding a 64-bit delta gives the integer counter exactly when the
sum stays below `2 ^ 63`, and zero when it does not. -/
theorem next_eq_ideal_iff {c d : Int} (hc : 0 ≤ c) (hc' : c < 2 ^ 63) (hd : -2 ^ 63 ≤ d)
    (hd' : d < 2 ^ 63) : next c d = max 0 (c + d) ↔ c + d < 2 ^ 63 := by
  unfold next
  rcases lt_or_ge (c + d) (2 ^ 63) with hs | hs
  · simp only [wrap64_eq_self (by omega) hs, hs, iff_true]
    split <;> omega
  · simp only [wrap64_of_ge hs (by omega)]
    constructor
    · intro h; split at h <;> omega
    · intro h; omega

/-! ### One call -/

/-- A call leaves the integer counter exactly when it is not an add whose sum wraps. -/
theorem apply_counter_eq_ideal_iff {w : WaitGroup} (hw : WellFormed w) {st : WaitStep}
    (hst : fits64 st = true) :
    (WaitStep.apply w st).counter = idealStep w.counter st ↔ ¬ Wraps w.counter st := by
  have h0 := hw.counter_nonneg
  have h1 := hw.counter_lt
  cases st with
  | add d =>
    simp only [fits64, Bool.and_eq_true, decide_eq_true_eq] at hst
    simp only [WaitStep.apply, add_counter, idealStep, Wraps, not_le]
    exact next_eq_ideal_iff h0 h1 hst.1 hst.2
  | done =>
    simp only [WaitStep.apply, idealStep, Wraps, not_false_eq_true, iff_true]
    by_cases hp : 0 < w.counter
    · simp only [WaitGroup.done, if_neg (not_le.mpr hp), add_counter, next_pred hp h1, if_pos hp]
    · simp only [WaitGroup.done, if_pos (not_lt.mp hp), if_neg hp]
  | counter | waitTimeout _ | wait => simp [WaitStep.apply, idealStep, Wraps]

/-! ### Every sequence of calls -/

/-- The counters after every prefix of the calls are the integer ones exactly when no add's
sum wraps. The induction follows the calls, carrying the group's invariant and, while the
two agree, the integer counter as the group's own. -/
theorem scanl_counter_eq_iff {w : WaitGroup} (hw : WellFormed w) (sts : List WaitStep)
    (hfit : ∀ st ∈ sts, fits64 st = true) :
    (sts.scanl WaitStep.apply w).map (·.counter) = sts.scanl idealStep w.counter ↔
      NoWrap w.counter sts := by
  induction sts generalizing w with
  | nil => simp [NoWrap]
  | cons st sts ih =>
    have hst := hfit st (by simp)
    have hrest : ∀ s ∈ sts, fits64 s = true := fun s hs => hfit s (by simp [hs])
    simp only [List.scanl_cons, List.map_cons, List.cons.injEq, true_and, NoWrap]
    by_cases hwr : Wraps w.counter st
    · -- the call wraps: the counters part at once, at the head of the rest
      have hne : (WaitStep.apply w st).counter ≠ idealStep w.counter st :=
        fun h => (apply_counter_eq_ideal_iff hw hst).mp h hwr
      simp only [hwr, not_true_eq_false, false_and, iff_false]
      cases sts <;> simp [hne]
    · -- the call agrees: go on from the state it leaves
      have heq := (apply_counter_eq_ideal_iff hw hst).mpr hwr
      rw [← heq, ih (hw.apply st) hrest]
      simp [hwr]

/-- Adding a positive 64-bit delta to a well-formed group lowers its counter exactly when the
sum wraps, and then closes the held channel: otherwise the channels stay as they were. -/
theorem add_pos_lowers_iff {w : WaitGroup} (hw : WellFormed w) {d : Int} (hd : 0 < d)
    (hd' : d < 2 ^ 63) :
    ((w.add d).counter < w.counter ↔ 2 ^ 63 ≤ w.counter + d) ∧
      ((w.add d).closed ≠ w.closed ↔ 2 ^ 63 ≤ w.counter + d) := by
  have h0 := hw.counter_nonneg
  have h1 := hw.counter_lt
  have hiff := next_eq_ideal_iff h0 h1 (by omega) hd'
  have hnn := next_nonneg w.counter d
  rcases lt_or_ge (w.counter + d) (2 ^ 63) with hs | hs
  · -- no wrap: the counter rises and no channel closes
    have hn : next w.counter d = w.counter + d := by rw [hiff.mpr hs]; omega
    refine ⟨by rw [add_counter, hn]; omega, ?_⟩
    rcases add_cases w d with ⟨-, -, he⟩ | ⟨-, hz, -⟩ | ⟨-, -, he⟩
    · simp only [he, ne_eq, not_true_eq_false, false_iff, not_le]; omega
    · omega
    · simp only [he, ne_eq, not_true_eq_false, false_iff, not_le]; omega
  · -- the sum wraps: the counter falls to zero from a positive value
    have hn : next w.counter d = 0 := by
      unfold next
      simp only [wrap64_of_ge hs (by omega)]
      split <;> omega
    have hpos : 0 < w.counter := by omega
    obtain ⟨ch, hch⟩ := hw.exists_drained hpos
    refine ⟨by rw [add_counter, hn]; omega, ?_⟩
    rcases add_cases w d with ⟨h, -, -⟩ | ⟨-, -, he⟩ | ⟨-, hf, -⟩
    · omega
    · simp only [he, hch, Option.toList_some, List.singleton_append, ne_eq, List.cons_ne_self,
        not_false_eq_true, true_iff]
      omega
    · exact absurd ⟨hpos, hn⟩ hf

/-- **The counter has no wraparound exactly when no sum reaches `2 ^ 63`.** Along any
sequence of calls from a fresh group whose deltas are 64-bit integers:

* the counters after every prefix equal the ones computed over the integers (adding gives
  `max 0 (c + d)`, `done` lowers a positive counter by one) exactly when no add's sum reaches
  `2 ^ 63`;
* at the end, adding a positive 64-bit delta lowers the counter exactly when the sum reaches
  `2 ^ 63`, and exactly then closes the channel that waiters hold. -/
theorem counter_exact_iff (sts : List WaitStep) (hfit : ∀ st ∈ sts, fits64 st = true) :
    ((sts.scanl WaitStep.apply empty).map (·.counter) = sts.scanl idealStep 0 ↔
      NoWrap 0 sts) ∧
    ∀ d, 0 < d → d < 2 ^ 63 →
      let w := WaitStep.applyAll empty sts
      ((w.add d).counter < w.counter ↔ 2 ^ 63 ≤ w.counter + d) ∧
        ((w.add d).closed ≠ w.closed ↔ 2 ^ 63 ≤ w.counter + d) :=
  ⟨scanl_counter_eq_iff wellFormed_empty sts hfit,
    fun _ hd hd' => add_pos_lowers_iff (wellFormed_empty.applyAll sts) hd hd'⟩

/-- The calls of the largest delta and then one fit the language's `int`, and their counters
part from the integer ones at the second add. -/
theorem counter_exact_max_then_one :
    (∀ st ∈ [WaitStep.add (2 ^ 63 - 1), .add 1], fits64 st = true) ∧
      (([WaitStep.add (2 ^ 63 - 1), .add 1].scanl WaitStep.apply empty).map (·.counter) =
          [WaitStep.add (2 ^ 63 - 1), .add 1].scanl idealStep 0 ↔
        NoWrap 0 [WaitStep.add (2 ^ 63 - 1), .add 1]) :=
  have hfit : ∀ st ∈ [WaitStep.add (2 ^ 63 - 1), .add 1], fits64 st = true := by decide
  ⟨hfit, (counter_exact_iff _ hfit).1⟩

/-- **A positive add can release the waiters.** Adding the largest 64-bit integer to a fresh
group and then one leaves the counter at zero where the integers give `2 ^ 63`, and a
waiter that took its channel after the first add is released. -/
theorem add_one_after_max_releases :
    ([WaitStep.add (2 ^ 63 - 1), .add 1].scanl WaitStep.apply empty).map (·.counter) =
        [0, 2 ^ 63 - 1, 0] ∧
      [WaitStep.add (2 ^ 63 - 1), .add 1].scanl idealStep 0 = [0, 2 ^ 63 - 1, 2 ^ 63] ∧
      (WaitStep.applyAll empty [.add (2 ^ 63 - 1), .add 1]).released
        (WaitStep.applyAll empty [.add (2 ^ 63 - 1)]).waitChannel = true := by
  refine ⟨?_, ?_, ?_⟩ <;> decide

end Timebox.WaitGroup
