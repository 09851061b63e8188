/-! # The order of entries in reports

Reports list their entries (log entries, events, handler calls) in the order an insertion
sort leaves them in when each comparison reads the keys of two *positions* of the list as it
was before sorting: the keys stay where they were while the entries move. On keys that are
already in order nothing moves; on others the result need not be sorted.

Because the keys never move, whether the entry at position `j` is swapped with the one at
`j - 1` depends on the keys alone. Step `i` of the sort therefore moves the entry at `i`
down by the length of the strictly descending run of keys that ends at `i` (`descent`),
shifting the entries it passes up by one (`moveDown`).
-/

namespace Timebox

namespace Report

/-- The length of the strictly descending run of keys that ends at position `j`: how far
step `j` of the sort moves its entry down. -/
def descent (keys : List String) : Nat → Nat
  | 0 => 0
  | j + 1 => if keys.getD (j + 1) "" < keys.getD j "" then descent keys j + 1 else 0

/-- The list with the entry at position `i` moved down by `d` places. -/
def moveDown {α : Type} (xs : List α) (i d : Nat) : List α :=
  match xs.drop i with
  | x :: post => xs.take (i - d) ++ x :: ((xs.drop (i - d)).take d ++ post)
  | [] => xs

/-- The entries in the order the sort by position keys leaves them in; `keys` holds the key
of each position before sorting. -/
def arrange {α : Type} (keys : List String) (xs : List α) : List α :=
  (List.range xs.length).foldl (fun acc i => moveDown acc i (descent keys i)) xs

/-- The first step never moves anything. -/
theorem descent_zero (keys : List String) : descent keys 0 = 0 := rfl

/-- Moving an entry down by no places leaves the list as it is. -/
theorem moveDown_zero {α : Type} (xs : List α) (i : Nat) : moveDown xs i 0 = xs := by
  unfold moveDown
  split
  · rename_i x post h
    have hx := List.take_append_drop i xs
    rw [h] at hx
    simp only [Nat.sub_zero, List.take_zero, List.nil_append]
    exact hx
  · rfl

end Report

end Timebox
