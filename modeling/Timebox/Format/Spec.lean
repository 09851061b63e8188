import Timebox.Double.Layout
import Timebox.Text.Quote

/-! # Conversions of one operand

A conversion such as `%-8.3f` carries flags, a width and a precision (`Spec`). This module
writes the basic operands under a spec:

* `pad`: a text shorter than the width gets spaces on the left, on the right with `-`, or
  zeros on the left with `0`;
* `integer`: a magnitude in a base, zero-extended to the precision (or, with `0` and no
  precision, to the width), with the `#` prefix (`0b`, `0`, `0x`), then the sign; a zero
  precision and a zero value give an empty number;
* `char`, `quotedChar`, `codePoint`: an integer as the character it encodes, as a quoted
  character literal, or as `U+hhhh`;
* `text`, `quoted`, `hexText`: a text cut to the precision, quoted, or as hexadecimal bytes;
* `float`: a float in the layout of its conversion letter, with the sign rules: `+` shows a
  plus, a space a blank; zero padding goes between the sign and the digits; infinities and
  not-a-number are never zero padded, and not-a-number has a sign only when asked for.
-/

namespace Timebox

namespace Format

/-- The flags, width and precision of one conversion. `plusV` and `sharpV` are the `+` and
`#` flags of a `v` conversion, which ask for field names and literal syntax. -/
structure Spec where
  plus : Bool := false
  minus : Bool := false
  sharp : Bool := false
  space : Bool := false
  zero : Bool := false
  plusV : Bool := false
  sharpV : Bool := false
  width : Option Nat := none
  prec : Option Nat := none
deriving DecidableEq, Repr, Inhabited

namespace Spec

/-- `n` padding characters: zeros under the `0` flag, spaces otherwise. -/
def padding (f : Spec) (n : Nat) : String :=
  String.ofList (List.replicate n (if f.zero then '0' else ' '))

/-- The text padded to the width. -/
def pad (f : Spec) (s : String) : String :=
  match f.width with
  | none => s
  | some w =>
    let n := s.length
    if n ≥ w then s
    else if f.minus then s ++ String.ofList (List.replicate (w - n) ' ')
    else f.padding (w - n) ++ s

/-- The spec without zero padding. -/
def noZero (f : Spec) : Spec := { f with zero := false }

/-- Digits of a natural in a base, hexadecimal letters in upper case on request. -/
def digitsIn (base : Nat) (upper : Bool) (u : Nat) : List Char :=
  let ds := Nat.toDigits base u
  if upper then ds.map Char.toUpper else ds

/-- An integer of sign `neg` and magnitude `u` in a base; `octalMark` writes the `0o`
prefix. -/
def integer (f : Spec) (neg : Bool) (u base : Nat) (upper octalMark : Bool) : String :=
  if f.prec = some 0 ∧ u = 0 then f.noZero.pad ""
  else
    let prec : Nat := match f.prec with
      | some p => p
      | none =>
        match f.width with
        | some w => if f.zero then w - (if neg ∨ f.plus ∨ f.space then 1 else 0) else 0
        | none => 0
    let ds := digitsIn base upper u
    let ds := List.replicate (prec - ds.length) '0' ++ ds
    let ds :=
      if f.sharp then
        if base = 2 then '0' :: 'b' :: ds
        else if base = 8 then (if ds.head? = some '0' then ds else '0' :: ds)
        else if base = 16 then '0' :: (if upper then 'X' else 'x') :: ds
        else ds
      else ds
    let ds := if octalMark then '0' :: 'o' :: ds else ds
    let ds := if neg then '-' :: ds else if f.plus then '+' :: ds
      else if f.space then ' ' :: ds else ds
    f.noZero.pad (String.ofList ds)

/-- The character of a code point; a code point beyond the range or a surrogate is the
replacement character. -/
def charOf (u : Nat) : Char :=
  if u > 0x10FFFF ∨ (0xD800 ≤ u ∧ u ≤ 0xDFFF) then Char.ofNat 0xFFFD else Char.ofNat u

def char (f : Spec) (u : Nat) : String := f.pad (charOf u).toString

/-- A quoted character literal: between backquotes with `#` when possible, in ASCII with
`+`. -/
def quotedChar (f : Spec) (u : Nat) : String :=
  let c := charOf u
  if f.sharp ∧ Text.canBackquote c.toString then f.pad (String.ofList ['`', c, '`'])
  else if f.plus then f.pad (Text.quoteCharAscii c)
  else f.pad (Text.quoteChar c)

/-- `U+` and at least four upper-case hexadecimal digits; with `#` and a printable character
also the character quoted. -/
def codePoint (f : Spec) (u : Nat) : String :=
  let prec := match f.prec with
    | some p => if p > 4 then p else 4
    | none => 4
  let ds := digitsIn 16 true u
  let ds := List.replicate (prec - ds.length) '0' ++ ds
  let tail :=
    if f.sharp ∧ u ≤ 0x10FFFF ∧ Text.isPrint (Char.ofNat u) then
      String.ofList [' ', Char.ofNat 39, Char.ofNat u, Char.ofNat 39]
    else ""
  f.noZero.pad ("U+" ++ String.ofList ds ++ tail)

/-- The text cut to the precision, counted in characters. -/
def truncate (f : Spec) (s : String) : String :=
  match f.prec with
  | some p => String.ofList (s.toList.take p)
  | none => s

def text (f : Spec) (s : String) : String := f.pad (f.truncate s)

/-- A quoted text: between backquotes with `#` when possible, in ASCII with `+`. -/
def quoted (f : Spec) (s : String) : String :=
  let s := f.truncate s
  if f.sharp ∧ Text.canBackquote s then f.pad ("`" ++ s ++ "`")
  else if f.plus then f.pad (Text.quoteAscii s)
  else f.pad (Text.quote s)

/-- Bytes as pairs of hexadecimal digits, at most as many bytes as the precision; with a
space flag the pairs are separated, and with `#` each pair (or the whole) gets `0x`. -/
def hexBytes (f : Spec) (upper : Bool) (bytes : List Nat) : String :=
  let bytes := match f.prec with
    | some p => bytes.take p
    | none => bytes
  let n := bytes.length
  if n = 0 then
    match f.width with
    | some w => f.padding w
    | none => ""
  else
    let mark := if upper then "0X" else "0x"
    let pair (b : Nat) : String :=
      let ds := digitsIn 16 upper b
      String.ofList (List.replicate (2 - ds.length) '0' ++ ds)
    let body :=
      if f.space then
        String.intercalate " " (bytes.map fun b => (if f.sharp then mark else "") ++ pair b)
      else (if f.sharp then mark else "") ++ String.join (bytes.map pair)
    let w := body.length
    match f.width with
    | some wid =>
      if wid > w then
        if f.minus then body ++ f.padding (wid - w) else f.padding (wid - w) ++ body
      else body
    | none => body

/-- The bytes of a text in hexadecimal. -/
def hexText (f : Spec) (upper : Bool) (s : String) : String :=
  f.hexBytes upper (s.toUTF8.toList.map UInt8.toNat)

def bool (f : Spec) (b : Bool) : String := f.pad (if b then "true" else "false")

/-- With `#`: keep the point and pad to the significant digits of the precision. -/
def sharpen (verb : Char) (prec : Option Nat) (sign : Char) (body : String) : String :=
  let digits : Int :=
    if verb = 'v' ∨ verb = 'g' ∨ verb = 'G' ∨ verb = 'x' then
      match prec with
      | some p => p
      | none => 6
    else 0
  let cs := body.toList
  let isExp (c : Char) : Bool :=
    c = 'p' ∨ c = 'P' ∨ ((c = 'e' ∨ c = 'E') ∧ ¬(verb = 'x' ∨ verb = 'X'))
  let num := cs.takeWhile (fun c => !isExp c)
  let tail := cs.drop num.length
  let hasPoint := num.contains '.'
  let significant := (num.filter (· ≠ '.')).dropWhile (· = '0')
  let digits := digits - significant.length
  let (num, digits) :=
    if hasPoint then (num, digits)
    else if num = ['0'] then (num ++ ['.'], digits - 1)
    else (num ++ ['.'], digits)
  String.ofList (sign :: num ++ List.replicate digits.toNat '0' ++ tail)

/-- A float under a conversion letter with its default precision (`none` for the shortest
digits). -/
def float (f : Spec) (verb : Char) (dflt : Option Nat) (single : Bool) (x : Double) : String :=
  let prec := match f.prec with
    | some p => some p
    | none => dflt
  let layoutVerb := if verb = 'v' then 'g' else verb
  let text := Double.layout layoutVerb prec single x
  let (sign, body) := match text.toList with
    | '-' :: r => ('-', String.ofList r)
    | '+' :: r => ('+', String.ofList r)
    | r => ('+', String.ofList r)
  let sign := if f.space ∧ sign = '+' ∧ ¬f.plus then ' ' else sign
  if body = "Inf" ∨ body = "NaN" then
    let out := if body = "NaN" ∧ ¬f.space ∧ ¬f.plus then body else sign.toString ++ body
    f.noZero.pad out
  else
    let num := if f.sharp ∧ verb ≠ 'b' then sharpen verb prec sign body
      else sign.toString ++ body
    if f.plus ∨ sign ≠ '+' then
      match f.width with
      | some w =>
        if f.zero ∧ w > num.length then
          String.ofList (num.toList.take 1) ++ f.padding (w - num.length) ++
            String.ofList (num.toList.drop 1)
        else f.pad num
      | none => num
    else f.pad (String.ofList (num.toList.drop 1))

end Spec

end Format

end Timebox
