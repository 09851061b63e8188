import Timebox.Double.Read
import Timebox.Value.Basic

/-! # Reading numbers from text

The readers of integers, booleans and floats, each giving a value and, on failure, the
reason recorded in a number error (`Fault.number`):

* `parseUint s base bits`: digits in a base from 2 to 36, or with base 0 a prefix chooses
  it (`0b`, `0o`, `0x`, or a leading `0` for octal) and underscores may separate digits. A
  value beyond the bit size stops the reading at once with the largest value and `value out
  of range`; any other character is `invalid syntax`.
* `parseInt s base bits`: an optional sign, then the unsigned reading; a magnitude beyond the
  signed range gives the nearest bound and `value out of range`.
* `atoi s`: a decimal `int`; short texts are read digit by digit, others as `parseInt`.
* `parseBool s`: `1 t T TRUE true True` and `0 f F FALSE false False`.
* `parseFloat s bits`: a float literal or a special name, rounded to single precision when
  `bits = 32`; an infinite result is `value out of range`.
-/

namespace Timebox

namespace Numbers

def invalidSyntax : String := "invalid syntax"
def outOfRange : String := "value out of range"

/-- The ASCII lower case of a character as the readers compare it. -/
def lower (c : Char) : Char := Char.ofNat (c.toNat ||| 0x20)

/-- The value of a digit in bases up to 36, or none. -/
def digitOf (c : Char) : Option Nat :=
  if '0' ≤ c ∧ c ≤ '9' then some (c.toNat - '0'.toNat)
  else if 'a' ≤ lower c ∧ lower c ≤ 'z' then some ((lower c).toNat - 'a'.toNat + 10)
  else none

/-- Reads digits into `n`, stopping at the first overflow beyond `maxVal`. -/
def readDigits (base maxVal : Nat) (base0 : Bool) : List Char → Nat → Bool →
    Except (Nat × String) (Nat × Bool)
  | [], n, underscores => .ok (n, underscores)
  | c :: cs, n, underscores =>
    if c = '_' ∧ base0 then readDigits base maxVal base0 cs n true
    else match digitOf c with
      | none => .error (0, invalidSyntax)
      | some d =>
        if d ≥ base then .error (0, invalidSyntax)
        else if n ≥ (Nat.pow 2 64 - 1) / base + 1 then .error (maxVal, outOfRange)
        else
          let n1 := n * base + d
          if n1 ≥ Nat.pow 2 64 ∨ n1 > maxVal then .error (maxVal, outOfRange)
          else readDigits base maxVal base0 cs n1 underscores

/-- An unsigned integer: the value, and the reason when it failed. -/
def parseUint (s : String) (base bits : Int) : Nat × Option String :=
  let cs := s.toList
  if cs.isEmpty then (0, some invalidSyntax)
  else
    let base0 := base = 0
    let choice : Option (Nat × List Char) :=
      if 2 ≤ base ∧ base ≤ 36 then some (base.toNat, cs)
      else if base = 0 then
        match cs with
        | '0' :: c :: rest@(_ :: _) =>
          if lower c = 'b' then some (2, rest)
          else if lower c = 'o' then some (8, rest)
          else if lower c = 'x' then some (16, rest)
          else some (8, c :: rest)
        | '0' :: rest => some (8, rest)
        | _ => some (10, cs)
      else none
    match choice with
    | none => (0, some ("invalid base " ++ toString base))
    | some (b, digits) =>
      let bits := if bits = 0 then 64 else bits
      if bits < 0 ∨ bits > 64 then (0, some ("invalid bit size " ++ toString bits))
      else
        match readDigits b (Nat.pow 2 bits.toNat - 1) base0 digits 0 false with
        | .error (v, reason) => (v, some reason)
        | .ok (n, underscores) =>
          if underscores ∧ !Double.underscoresOk cs then (0, some invalidSyntax) else (n, none)

/-- A signed integer: the value, and the reason when it failed. -/
def parseInt (s : String) (base bits : Int) : Int × Option String :=
  let cs := s.toList
  if cs.isEmpty then (0, some invalidSyntax)
  else
    let (neg, rest) := match cs with
      | '+' :: r => (false, r)
      | '-' :: r => (true, r)
      | r => (false, r)
    match parseUint (String.ofList rest) base bits with
    | (_, some reason) =>
      if reason = outOfRange then
        let bits := if bits = 0 then 64 else bits
        let cutoff : Nat := Nat.pow 2 (bits.toNat - 1)
        if neg then (-(cutoff : Int), some outOfRange) else ((cutoff : Int) - 1, some outOfRange)
      else (0, some reason)
    | (un, none) =>
      let bits := if bits = 0 then 64 else bits
      let cutoff : Nat := Nat.pow 2 (bits.toNat - 1)
      if !neg ∧ un ≥ cutoff then ((cutoff : Int) - 1, some outOfRange)
      else if neg ∧ un > cutoff then (-(cutoff : Int), some outOfRange)
      else (if neg then -(un : Int) else un, none)

/-- A decimal `int`. -/
def atoi (s : String) : Int × Option String :=
  let n := s.utf8ByteSize
  if 0 < n ∧ n < 19 then
    let cs := s.toList
    let (neg, body) := match cs with
      | '-' :: r => (true, r)
      | '+' :: r => (false, r)
      | r => (false, r)
    if body.isEmpty then (0, some invalidSyntax)
    else if body.all fun c => '0' ≤ c ∧ c ≤ '9' then
      let v : Nat := body.foldl (fun acc c => acc * 10 + (c.toNat - '0'.toNat)) 0
      (if neg then -(v : Int) else v, none)
    else (0, some invalidSyntax)
  else parseInt s 10 0

/-- A boolean. -/
def parseBool (s : String) : Bool × Option String :=
  if s = "1" ∨ s = "t" ∨ s = "T" ∨ s = "TRUE" ∨ s = "true" ∨ s = "True" then (true, none)
  else if s = "0" ∨ s = "f" ∨ s = "F" ∨ s = "FALSE" ∨ s = "false" ∨ s = "False" then (false, none)
  else (false, some invalidSyntax)

/-- A float, in single precision when `bits = 32`. -/
def parseFloat (s : String) (bits : Int) : Double × Option String :=
  match Double.readIn (bits = 32) s with
  | .ok x => (x, none)
  | .error (.range x) => (x, some outOfRange)
  | .error .invalid => (Double.zero, some invalidSyntax)

/-- The error of a failed reading by a named function. -/
def failure (fn text : String) (reason : Option String) : Option Fault :=
  reason.map (.number fn text ·)

end Numbers

end Timebox
