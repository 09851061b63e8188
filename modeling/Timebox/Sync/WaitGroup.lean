/-! # A wait group with a readable counter

A wait group counts outstanding tasks. Unlike the standard one, its counter can be read, a
wait can be bounded in time, lowering it below zero sets it to zero instead of failing, and it
can be raised again right after it drained while earlier waiters still wait.

Waiters wait on a channel: the group makes a new channel each time the counter rises from
zero and closes it each time the counter falls back to zero. Channels are numbered in the
order they are made; `drained` is the one currently open, if any, and `closed` lists those
closed so far.

The counter is a 64-bit integer: `add` computes the sum in that width, so a sum beyond the
largest value wraps around to a negative one, which the floor then sets to zero.
-/

namespace Timebox

/-- A wait group's state. -/
structure WaitGroup where
  counter : Int
  /-- The open channel that closes when the counter next reaches zero. -/
  drained : Option Nat
  /-- How many channels have been made. -/
  made : Nat
  /-- The channels closed so far, the latest first. -/
  closed : List Nat
deriving DecidableEq, Repr

namespace WaitGroup

/-- A fresh group: counter zero, no channel. -/
def empty : WaitGroup := ⟨0, none, 0, []⟩

/-- A sum in the 64-bit signed range, wrapped as the machine does. -/
def wrap64 (i : Int) : Int :=
  let m := i % Int.pow 2 64
  if m ≥ Int.pow 2 63 then m - Int.pow 2 64 else m

/-- The counter after adding `delta` to `before`: the 64-bit sum, or zero below zero. -/
def next (before delta : Int) : Int :=
  let sum := wrap64 (before + delta)
  if sum < 0 then 0 else sum

/-- Adds to the counter; a result below zero becomes zero. A rise from zero makes a new
channel; a fall to zero closes the open one. -/
def add (w : WaitGroup) (delta : Int) : WaitGroup :=
  let after := next w.counter delta
  if w.counter ≤ 0 ∧ after > 0 then
    { w with counter := after, drained := some w.made, made := w.made + 1 }
  else if w.counter > 0 ∧ after = 0 then
    { w with counter := after, drained := none, closed := w.drained.toList ++ w.closed }
  else { w with counter := after }

/-- Lowers the counter by one when it is positive, and tells whether it was. -/
def done (w : WaitGroup) : WaitGroup × Bool :=
  if w.counter ≤ 0 then (w, false) else (w.add (-1), true)

/-- The channel a waiter waits on: none when the counter is already zero. -/
def waitChannel (w : WaitGroup) : Option Nat := w.drained

/-- Whether a waiter holding `ch` is released: its channel has been closed. -/
def released (w : WaitGroup) (ch : Option Nat) : Bool :=
  match ch with
  | none => true
  | some c => w.closed.contains c

theorem next_nonneg (before delta : Int) : 0 ≤ next before delta := by
  unfold next
  dsimp only
  split <;> omega

theorem add_counter (w : WaitGroup) (delta : Int) : (w.add delta).counter = next w.counter delta := by
  unfold add
  dsimp only
  split
  · rfl
  · split <;> rfl

/-- The counter never goes below zero. -/
theorem add_counter_nonneg (w : WaitGroup) (delta : Int) : 0 ≤ (w.add delta).counter := by
  rw [add_counter]
  exact next_nonneg _ _

end WaitGroup

end Timebox
