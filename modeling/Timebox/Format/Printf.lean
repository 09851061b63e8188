import Timebox.Format.Value

/-! # Format strings

`sprintf fmt args` writes the format text with each conversion replaced by the text of its
operand. A conversion is `%`, flags among `#0+- `, an optional operand index `[n]`, a width
(digits or `*`, taken from an integer operand), a precision (`.` and digits or `*`) and a
letter. The operands are used in order, or from the index on.

The failures are written into the text: `%!v(MISSING)` when the operands ran out,
`%!v(BADINDEX)` for an index out of range, `%!(BADWIDTH)` and `%!(BADPREC)` for a `*` whose
operand is no integer of at most a million, `%!(NOVERB)` for a format that ends inside a
conversion, and `%!(EXTRA type=value, …)` for operands left over when no index was used.

`errorf` reads `%w` as `%v` of an error operand and records which operands it wrapped.
`sprint` writes the operands' default texts, a space between two operands when neither is
a text.
-/

namespace Timebox

namespace Format

/-- Operands beyond a million are refused as widths and precisions. -/
def tooLarge (n : Int) : Bool := n > 1000000 ∨ n < -1000000

/-- Leading decimal digits: the number, whether there was a digit, and the rest. A number
that grows too large takes the rest of the text. -/
def readNumber : List Char → Nat → Bool → Option Nat × List Char
  | [], n, seen => (if seen then some n else none, [])
  | c :: cs, n, seen =>
    if '0' ≤ c ∧ c ≤ '9' then
      if tooLarge n then (none, [])
      else readNumber cs (n * 10 + (c.toNat - '0'.toNat)) true
    else (if seen then some n else none, c :: cs)

/-- Reads the flags of a conversion. -/
def readFlags : List Char → Spec → Spec × List Char
  | [], f => (f, [])
  | c :: cs, f =>
    if c = '#' then readFlags cs { f with sharp := true }
    else if c = '0' then readFlags cs { f with zero := !f.minus }
    else if c = '+' then readFlags cs { f with plus := true }
    else if c = '-' then readFlags cs { f with minus := true, zero := false }
    else if c = ' ' then readFlags cs { f with space := true }
    else (f, c :: cs)

/-- An operand index `[n]` at the front: `none` when there is none; otherwise the
zero-based index if it reads (or `none` inside) and the rest. -/
def readIndex : List Char → Option (Option Int × List Char)
  | '[' :: cs =>
    if cs.length < 2 then some (none, cs)
    else
      match cs.findIdx? (· = ']') with
      | some i =>
        let inner := cs.take i
        let rest := cs.drop (i + 1)
        match readNumber inner 0 false with
        | (some n, []) => some (some ((n : Int) - 1), rest)
        | _ => some (none, rest)
      | none => some (none, cs)
  | _ => none

/-- The integer value of an operand used as a width or precision. -/
def intOperand : Value → Option Int
  | .int _ i => some i
  | .duration ns => some ns
  | _ => none

/-- The state of writing a format: the text so far, the next operand, whether an index was
used, and the operands that `%w` wrapped. -/
structure Printer where
  out : String := ""
  argNum : Nat := 0
  reordered : Bool := false
  wrapped : List Nat := []

/-- Moves to an operand index at the front of the text: the new state, the rest, whether
an index was read, and whether it was good. -/
def Printer.index (p : Printer) (cs : List Char) (numArgs : Nat) :
    Printer × List Char × Bool × Bool :=
  match readIndex cs with
  | none => (p, cs, false, true)
  | some (some i, rest) =>
    if 0 ≤ i ∧ i < numArgs then ({ p with argNum := i.toNat, reordered := true }, rest, true, true)
    else ({ p with reordered := true }, rest, true, false)
  | some (none, rest) => ({ p with reordered := true }, rest, false, false)

/-- A `*` operand: its value if it is an integer of at most a million, and the next
operand. -/
def starOperand (args : List Value) (argNum : Nat) : Option Int × Nat :=
  match args[argNum]? with
  | some v =>
    match intOperand v with
    | some n => (if tooLarge n then none else some n, argNum + 1)
    | none => (none, argNum + 1)
  | none => (none, argNum)

/-- The operands left over, as `type=value`. -/
def extraText (args : List Value) : String :=
  "%!(EXTRA " ++ String.intercalate ", " (args.map fun v =>
    match v with
    | .nil => "<nil>"
    | _ => v.typeName ++ "=" ++ v.render {} 'v' true) ++ ")"

/-- The text of one operand under a letter; `wrapErrs` when `%w` may wrap an error. -/
def operandText (wrapErrs : Bool) (f : Spec) (verb : Char) (v : Value) : String :=
  if verb = 'w' then
    match v with
    | .error _ => if wrapErrs then v.render f 'v' true else v.badVerb f 'w'
    | .nil => "%!w(<nil>)"
    | _ => v.badVerb f 'w'
  else v.render f verb true

/-- Writes one conversion whose flags, width and precision are read, at the letter. -/
def Printer.convert (wrapErrs : Bool) (args : List Value) (p : Printer) (f : Spec)
    (good : Bool) (verb : Char) : Printer :=
  if verb = '%' then { p with out := p.out ++ "%" }
  else if !good then { p with out := p.out ++ "%!" ++ verb.toString ++ "(BADINDEX)" }
  else match args[p.argNum]? with
    | none => { p with out := p.out ++ "%!" ++ verb.toString ++ "(MISSING)" }
    | some v =>
      let wrapped := if verb = 'w' then p.wrapped ++ [p.argNum] else p.wrapped
      let f := if verb = 'v' ∨ verb = 'w' then
          { f with sharpV := f.sharp, sharp := false, plusV := f.plus, plus := false }
        else f
      { p with out := p.out ++ operandText wrapErrs f verb v, argNum := p.argNum + 1,
               wrapped := wrapped }

/-- Writes the format from a conversion's flags on, then the rest of the format. -/
def Printer.run (wrapErrs : Bool) (args : List Value) : Nat → Printer → List Char → Printer
  | 0, p, _ => p
  | _ + 1, p, [] => p
  | fuel + 1, p, cs =>
    let lit := cs.takeWhile (· ≠ '%')
    let p := { p with out := p.out ++ String.ofList lit }
    match cs.drop lit.length with
    | [] => p
    | _ :: cs =>
      let (f, cs) := readFlags cs {}
      -- an index, then a width
      let (p, cs, afterIndex, good) := p.index cs args.length
      let (p, f, cs, afterIndex, good) :=
        match cs with
        | '*' :: rest =>
          let (w, argNum) := starOperand args p.argNum
          let p := { p with argNum := argNum }
          match w with
          | some n =>
            let f := if n < 0 then { f with width := some n.natAbs, minus := true, zero := false }
              else { f with width := some n.toNat }
            (p, f, rest, false, good)
          | none => ({ p with out := p.out ++ "%!(BADWIDTH)" }, f, rest, false, good)
        | _ =>
          match readNumber cs 0 false with
          | (some n, rest) => (p, { f with width := some n }, rest, afterIndex, good && !afterIndex)
          | (none, rest) => (p, f, rest, afterIndex, good)
      -- a precision
      let (p, f, cs, afterIndex, good) :=
        match cs with
        | '.' :: rest@(_ :: _) =>
          let good := good && !afterIndex
          let (p, rest, afterIndex, good') := p.index rest args.length
          let good := good && good'
          match rest with
          | '*' :: rest =>
            let (w, argNum) := starOperand args p.argNum
            let p := { p with argNum := argNum }
            match w with
            | some n =>
              if n < 0 then ({ p with out := p.out ++ "%!(BADPREC)" }, { f with prec := none },
                rest, false, good)
              else (p, { f with prec := some n.toNat }, rest, false, good)
            | none => ({ p with out := p.out ++ "%!(BADPREC)" }, { f with prec := none }, rest,
                false, good)
          | _ =>
            match readNumber rest 0 false with
            | (some n, rest) => (p, { f with prec := some n }, rest, afterIndex, good)
            | (none, rest) => (p, { f with prec := some 0 }, rest, afterIndex, good)
        | _ => (p, f, cs, afterIndex, good)
      let (p, cs, good) :=
        if afterIndex then (p, cs, good)
        else
          let (p, cs, _, good') := p.index cs args.length
          (p, cs, good && good')
      match cs with
      | [] => { p with out := p.out ++ "%!(NOVERB)" }
      | verb :: cs => Printer.run wrapErrs args fuel (p.convert wrapErrs args f good verb) cs

/-- The text of a format over its operands, and the operands that `%w` wrapped. -/
def printf (wrapErrs : Bool) (format : String) (args : List Value) : String × List Nat :=
  let cs := format.toList
  let p := Printer.run wrapErrs args (cs.length + 1) {} cs
  let out := if !p.reordered ∧ p.argNum < args.length then p.out ++ extraText (args.drop p.argNum)
    else p.out
  (out, p.wrapped)

/-- The text of a format over its operands. -/
def sprintf (format : String) (args : List Value) : String := (printf false format args).1

/-- The error that a format makes: a plain message without `%w`, otherwise a message that
wraps the error operands of its `%w` conversions (in operand order when an index was
used, each operand once). -/
def errorf (format : String) (args : List Value) : Fault :=
  let (msg, wrapped) := printf true format args
  let reordered := wrapped.mergeSort (· ≤ ·)
  let indices := if wrapped.length ≤ 1 then wrapped else reordered.eraseDups
  let errs := indices.filterMap fun (i : Nat) =>
    match (args[i]? : Option Value) with
    | some (.error e) => some e
    | _ => none
  .formatted msg wrapped.length errs

/-- Whether an operand is a text, which `sprint` writes without spaces around it. -/
def isText : Value → Bool
  | .str _ => true
  | _ => false

/-- The default texts of the operands, a space between two operands when neither is a
text. -/
def sprint (args : List Value) : String :=
  let rec go : List Value → Bool → Bool → String
    | [], _, _ => ""
    | v :: vs, first, prevText =>
      let sep := if !first ∧ !isText v ∧ !prevText then " " else ""
      sep ++ v.render {} 'v' true ++ go vs false (isText v)
  go args true false

end Format

end Timebox
