import Timebox.Number.Factor
import Timebox.Program.Options

/-! # factor

`factor` writes each number it is given (as arguments, or as the words of its input),
a colon and its prime factors in increasing order, each as often as it divides the number.
A number is decimal digits, after spaces and one `+`, written back without them; anything
else is told as `'x' is not a valid positive integer` and makes the exit code 1.
-/

namespace Timebox

namespace Program

open Printf (quoteArg)

/-- The line of a number and its prime factors. -/
def factorLine (n : Nat) : String :=
  toString n ++ ":" ++ String.join ((Number.factors n).map fun p => " " ++ toString p) ++ "\n"

/-- The number a word of `factor` stands for, if it is one. -/
def factorNumber? (word : String) : Option Nat :=
  let cs := word.toList.dropWhile (· = ' ')
  let cs := match cs with
    | '+' :: rest => rest
    | _ => cs
  if !cs.isEmpty ∧ cs.all Char.isDigit then
    some (cs.foldl (fun n c => 10 * n + (c.toNat - 48)) 0)
  else none

/-- The `factor` of the core tools. -/
def factor (inv : Invocation) : Effect :=
  match Options.scan inv.name 1 [] inv.args with
  | .error e => e
  | .ok (_, ops) =>
    let words := if !ops.isEmpty then ops
      else (wordsOf (fun b => b = 32 ∨ b = 9 ∨ b = 10) inv.stdin).map Raw.ofBytes
    words.foldl (fun (e : Effect) w =>
      match factorNumber? w with
      | some n => e.say (factorLine n)
      | none => { e.complain (inv.name ++ ": " ++ quoteArg w ++ " is not a valid positive integer") with code := 1 }) {}

end Program

end Timebox
