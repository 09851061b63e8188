/-! # Call sites

A job records where it was made, as a frame of the call stack: the function, the file and
the line. A frame beyond the stack is unknown: it names no file, and its function is
`unknown`. Its text is `file:line`, or the function's name for a frame without a file.
-/

namespace Timebox

/-- A frame of the call stack. -/
structure Frame where
  function : String
  file : String
  line : Nat
deriving DecidableEq, Repr, Inhabited

namespace Frame

/-- The frame of a place outside the stack. -/
def unknown : Frame := ⟨"unknown", "", 0⟩

/-- The frame `skip` places above the innermost one of a stack, unknown beyond it. -/
def lookup (stack : List Frame) (skip : Nat) : Frame := stack.getD skip unknown

/-- `file:line`, or the function's name when the file is not known. -/
def text (f : Frame) : String :=
  if f.file = "" then f.function else f.file ++ ":" ++ toString f.line

theorem text_lookup_beyond (stack : List Frame) (skip : Nat) (h : stack.length ≤ skip) :
    (lookup stack skip).text = "unknown" := by
  simp [lookup, List.getD_eq_getElem?_getD, List.getElem?_eq_none h, unknown, text]

end Frame

end Timebox
