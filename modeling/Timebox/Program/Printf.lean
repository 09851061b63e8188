import Timebox.Double.Text
import Timebox.Double.Read
import Timebox.Text.Raw
import Timebox.Text.Quoting

/-! # The printf utility

`Printf.run rules format args` writes a format the way the `printf` utility does: plain
bytes as they are, backslash escapes as the bytes they stand for, and each conversion `%…`
with the next argument, read as text, integer or floating-point number as the conversion
asks. When arguments are left after the format, it is written again with them, as long as
it takes any. A missing argument is the empty text, or zero.

The utility of the core tools and the one built into the shell differ in a few points,
collected in `Printf.Rules`: which escapes the format takes, how warnings read, whether
length modifiers may stand before a conversion letter, and the floating-point format
numbers are read into: the core tools' utility reads them with 64 significant bits (the
extended format), the shell's with the 53 of binary64. Both
read integers as the C library does: blanks first, a sign, then decimal digits, `0x` and
hexadecimal digits, or `0` and octal digits; an argument that starts with a quote is the
code of the byte after it. A warning about a number argument makes the run fail in the
end, but writing goes on with the value read; text after a character constant only draws a
warning; an unknown conversion stops the run at once.
-/

namespace Timebox

namespace Printf

/-- What the printf utilities differ in. -/
structure Rules where
  /-- Whether the format takes `\x`, `\u`, `\U`, `\e` and `\"`. -/
  wideEscapes : Bool
  /-- Whether a text after a character constant draws a warning. -/
  warnAfterConstant : Bool
  /-- The warning of an argument that holds no number. -/
  notNumber : String → String
  /-- The warning of an argument with more after its number. -/
  partlyNumber : String → String
  /-- The warning of a number out of range. -/
  outOfRange : String → String
  /-- The error of an unknown conversion, given the conversion's text. -/
  badConversion : String → String
  /-- The error of a format that ends in a conversion with no letter, given the conversion's
  text, if it differs from an unknown conversion. -/
  missingConversion : Option (String → String)
  /-- Whether numbers are read with 64 significant bits, as opposed to 53. -/
  extended : Bool
  /-- Whether `\c` in the format itself ends all output; in an argument of `%b` it always
  does. -/
  stopInFormat : Bool
  /-- Whether an unknown escape is written with its letter; otherwise the backslash is
  written alone and the letter is read again. -/
  keepsUnknown : Bool
  /-- Whether length modifiers (`l`, `L`, `h`, `j`, `t`, `z`) may stand before a conversion
  letter, where they mean nothing. -/
  modifiers : Bool
  /-- Whether `%q` writes its argument quoted for the shell, as bash does. -/
  quoting : Bool := false
  /-- Whether a number out of range makes the run fail. -/
  rangeFails : Bool := true
  /-- The exit status of a run stopped by an error in its format. -/
  fatalStatus : Nat := 1

/-- An argument as the core tools quote it in a message: between single quotes, with C
escapes. -/
def quoteArg (s : String) : String := Text.Quoting.locale s

/-- The rules of the core tools' `printf`. -/
def coreRules : Rules where
  wideEscapes := true
  warnAfterConstant := true
  notNumber s := quoteArg s ++ ": expected a numeric value"
  partlyNumber s := quoteArg s ++ ": value not completely converted"
  outOfRange s := quoteArg s ++ ": Numerical result out of range"
  badConversion d := d ++ ": invalid conversion specification"
  missingConversion := none
  extended := true
  stopInFormat := true
  keepsUnknown := true
  modifiers := true

/-- The rules of the shell's `printf`. -/
def shellRules : Rules where
  wideEscapes := false
  warnAfterConstant := false
  notNumber s := s ++ ": expected numeric value"
  partlyNumber s := s ++ ": not completely converted"
  outOfRange s := s ++ ": Numerical result out of range"
  badConversion d := d ++ ": invalid directive"
  missingConversion := some fun _ => "missing format character"
  extended := false
  stopInFormat := false
  keepsUnknown := false
  modifiers := false
  fatalStatus := 2

/-- How bash reports an argument that is not a number: as an octal or hexadecimal number when
it starts so. -/
def invalidNumber (s : String) : String :=
  match s.toList with
  | '0' :: c :: _ =>
    if c.isDigit then s ++ ": invalid octal number"
    else if c = 'x' then s ++ ": invalid hex number"
    else s ++ ": invalid number"
  | _ => s ++ ": invalid number"

/-- The rules of bash's `printf`. -/
def bashRules : Rules where
  wideEscapes := true
  warnAfterConstant := false
  notNumber := invalidNumber
  partlyNumber := invalidNumber
  outOfRange s := "warning: " ++ s ++ ": Numerical result out of range"
  badConversion d := "`" ++ (d.toList.getLast?.getD '%').toString ++ "': invalid format character"
  missingConversion := some fun d => "`" ++ d ++ "': missing format character"
  extended := true
  stopInFormat := false
  keepsUnknown := true
  modifiers := true
  quoting := true
  rangeFails := false

/-- What writing a format did: the bytes written, the warnings in order, whether the run
fails, and the error that stopped it, if one did. -/
structure Result where
  out : List UInt8 := []
  warnings : List String := []
  failed : Bool := false
  fatal : Option String := none
  /-- Whether a `\c` ended all output. -/
  stopped : Bool := false
deriving Inhabited

/-! ### Bytes and digits -/

/-- The byte of a character code below 256. -/
def byte (n : Nat) : UInt8 := n.toUInt8

/-- Whether a byte is an octal digit. -/
def isOctal (b : UInt8) : Bool := 0x30 ≤ b && b ≤ 0x37

/-- The value of a hexadecimal digit byte. -/
def hexValue? (b : UInt8) : Option Nat :=
  if 0x30 ≤ b ∧ b ≤ 0x39 then some (b.toNat - 0x30)
  else if 0x61 ≤ b ∧ b ≤ 0x66 then some (b.toNat - 0x61 + 10)
  else if 0x41 ≤ b ∧ b ≤ 0x46 then some (b.toNat - 0x41 + 10)
  else none

/-- Up to `n` octal digits at the front: their value and the rest. -/
def octalRun : Nat → List UInt8 → Nat → Nat × List UInt8
  | 0, bs, v => (v, bs)
  | _, [], v => (v, [])
  | n + 1, b :: bs, v => if isOctal b then octalRun n bs (v * 8 + (b.toNat - 0x30)) else (v, b :: bs)

/-- Up to `n` hexadecimal digits at the front: their value, their count and the rest. -/
def hexRun : Nat → List UInt8 → Nat → Nat → Nat × Nat × List UInt8
  | 0, bs, v, k => (v, k, bs)
  | _, [], v, k => (v, k, [])
  | n + 1, b :: bs, v, k =>
    match hexValue? b with
    | some d => hexRun n bs (v * 16 + d) (k + 1)
    | none => (v, k, b :: bs)

/-- The byte a letter escape stands for. -/
def letterEscape (wide : Bool) (b : UInt8) : Option UInt8 :=
  if b = 0x5C then some 0x5C
  else if b = 0x61 then some 7
  else if b = 0x62 then some 8
  else if b = 0x66 then some 12
  else if b = 0x6E then some 10
  else if b = 0x72 then some 13
  else if b = 0x74 then some 9
  else if b = 0x76 then some 11
  else if wide ∧ b = 0x65 then some 27
  else if wide ∧ b = 0x22 then some 0x22
  else none

/-- What an escape after a backslash gave: bytes, and whether it ended all output. -/
structure Escape where
  bytes : List UInt8
  stop : Bool
  rest : List UInt8
  /-- The error of an escape that cannot be read. -/
  fatal : Option String := none

/-- Reads the escape after a backslash. In an argument of `%b` (`octalZero`), octal escapes
start with a `0` that is not counted among their three digits. -/
def escape (rules : Rules) (octalZero : Bool) : List UInt8 → Escape
  | [] => ⟨[0x5C], false, [], none⟩
  | b :: bs =>
    if b = 0x63 ∧ (octalZero ∨ rules.stopInFormat) then ⟨[], true, bs, none⟩
    else if isOctal b then
      let digits := if octalZero ∧ b = 0x30 then bs else b :: bs
      let (v, rest) := octalRun 3 digits 0
      ⟨[byte (v % 256)], false, rest, none⟩
    else if rules.wideEscapes ∧ b = 0x78 then
      let (v, k, rest) := hexRun 2 bs 0 0
      if k = 0 then ⟨[], false, rest, some "missing hexadecimal number in escape"⟩
      else ⟨[byte v], false, rest, none⟩
    else if rules.wideEscapes ∧ (b = 0x75 ∨ b = 0x55) then
      let n := if b = 0x75 then 4 else 8
      let (v, k, rest) := hexRun n bs 0 0
      if k < n then ⟨[], false, rest, some "missing hexadecimal number in escape"⟩
      else ⟨Raw.toBytes (String.singleton (Char.ofNat v)), false, rest, none⟩
    else
      match letterEscape rules.wideEscapes b with
      | some e => ⟨[e], false, bs, none⟩
      | none => if rules.keepsUnknown then ⟨[0x5C, b], false, bs, none⟩ else ⟨[0x5C], false, b :: bs, none⟩

/-- The bytes of an argument of `%b`: its escapes read, up to a `\c`. -/
def escapedText (rules : Rules) (bs : List UInt8) : List UInt8 × Bool × Option String :=
  go bs.length bs []
where
  go : Nat → List UInt8 → List UInt8 → List UInt8 × Bool × Option String
    | 0, _, acc => (acc, false, none)
    | _, [], acc => (acc, false, none)
    | fuel + 1, b :: rest, acc =>
      if b = 0x5C then
        let e := escape rules true rest
        if e.fatal.isSome then (acc, false, e.fatal)
        else if e.stop then (acc ++ e.bytes, true, none)
        else go fuel e.rest (acc ++ e.bytes)
      else go fuel rest (acc ++ [b])

/-! ### Reading numbers -/

/-- Whether a character is a blank the C library skips before a number. -/
def isCBlank (c : Char) : Bool :=
  c = ' ' ∨ c = '\t' ∨ c = '\n' ∨ c = '\r' ∨ c.toNat = 11 ∨ c.toNat = 12

/-- The digits of a base at the front: their value, their count and the rest. -/
def digitRun (base : Nat) : List Char → Nat → Nat → Nat × Nat × List Char
  | [], v, k => (v, k, [])
  | c :: cs, v, k =>
    match Double.digitValue base c with
    | some d => digitRun base cs (v * base + d) (k + 1)
    | none => (v, k, c :: cs)

/-- An integer read at the front of a text as the C library reads one: its sign, its
magnitude, whether it had digits, and what follows. -/
def readInteger (s : List Char) : Bool × Nat × Bool × List Char :=
  let t := s.dropWhile isCBlank
  let (neg, t) := match t with
    | '-' :: r => (true, r)
    | '+' :: r => (false, r)
    | r => (false, r)
  match t with
  | '0' :: x :: h :: r =>
    if (x = 'x' ∨ x = 'X') ∧ (Double.digitValue 16 h).isSome then
      let (v, _, rest) := digitRun 16 (h :: r) 0 0
      (neg, v, true, rest)
    else
      let (v, _, rest) := digitRun 8 (x :: h :: r) 0 0
      (neg, v, true, rest)
  | '0' :: r =>
    let (v, _, rest) := digitRun 8 r 0 0
    (neg, v, true, rest)
  | r =>
    let (v, k, rest) := digitRun 10 r 0 0
    (neg, v, k > 0, rest)

/-- The largest signed 64-bit integer. -/
def intMax : Int := 9223372036854775807

/-- Two to the 64th. -/
def wordSize : Nat := 18446744073709551616

/-- The warning a number argument draws, given what was read: none for a whole number. -/
def numberWarning (rules : Rules) (arg : String) (hadDigits : Bool) (rest : List Char)
    (overflow : Bool) : Option String :=
  if overflow then some (rules.outOfRange arg)
  else if rest.isEmpty then none
  else if !hadDigits then (if arg.isEmpty then none else some (rules.notNumber arg))
  else some (rules.partlyNumber arg)

/-- A character constant: an argument that starts with a quote and has a byte after it. -/
def charConstant? (arg : String) : Option (Nat × String) :=
  match Raw.toBytes arg with
  | q :: b :: rest => if q = 0x22 ∨ q = 0x27 then some (b.toNat, Text.decodeLossy rest) else none
  | _ => none

/-- A message about an argument: its text, and whether it makes the run fail in the end. -/
structure Notice where
  text : String
  fails : Bool := true

/-- The notice of a number argument, which makes the run fail unless only its range is wrong
and the rules let that pass. -/
def numberNotice (rules : Rules) (arg : String) (hadDigits : Bool) (rest : List Char)
    (overflow : Bool) : Option Notice :=
  (numberWarning rules arg hadDigits rest overflow).map fun t =>
    { text := t, fails := !overflow || rules.rangeFails }

/-- The notice of text after a character constant, if the rules give one: a warning only, the
run does not fail for it. -/
def constantNotice (rules : Rules) (rest : String) : Option Notice :=
  if rules.warnAfterConstant ∧ !rest.isEmpty then
    some { text := "warning: " ++ rest ++ ": character(s) following character constant have been ignored",
           fails := false }
  else none

/-- A signed integer argument, or with `unsigned` one taken modulo 2^64, and the notice it
draws. -/
def intArg (rules : Rules) (unsigned : Bool) (arg : String) : Int × Option Notice :=
  match charConstant? arg with
  | some (v, rest) => (v, constantNotice rules rest)
  | none =>
    let (neg, mag, hadDigits, rest) := readInteger arg.toList
    let rest := if hadDigits then rest else arg.toList
    if unsigned then
      let outOfRange := mag ≥ wordSize
      let v : Int := if outOfRange then wordSize - 1 else if neg ∧ mag > 0 then wordSize - mag else mag
      (v, numberNotice rules arg hadDigits rest outOfRange)
    else
      let outOfRange := if neg then (mag : Int) > intMax + 1 else (mag : Int) > intMax
      let v : Int := if outOfRange then (if neg then -intMax - 1 else intMax) else if neg then -(mag : Int) else mag
      (v, numberNotice rules arg hadDigits rest outOfRange)

/-- The front of a text after `0x` that reads as a hexadecimal floating-point number, its
binary exponent made explicit, and the rest; none when it has no digit. -/
def hexFront? (u : List Char) : Option (List Char × List Char) :=
  let isHex (c : Char) : Bool := c.isDigit || "abcdefABCDEF".contains c
  let intPart := u.takeWhile isHex
  let afterInt := u.drop intPart.length
  let (frac, afterFrac) := match afterInt with
    | '.' :: r => let f := r.takeWhile isHex; ('.' :: f, r.drop f.length)
    | r => ([], r)
  if intPart.isEmpty ∧ frac.length ≤ 1 then none
  else
    let (exp, rest) := match afterFrac with
      | e :: r =>
        if e = 'p' ∨ e = 'P' then
          let (es, r2) := match r with
            | '-' :: r2 => (['-'], r2)
            | '+' :: r2 => (['+'], r2)
            | r2 => ([], r2)
          let ds := r2.takeWhile Char.isDigit
          if ds.isEmpty then (['p', '0'], afterFrac) else ('p' :: es ++ ds, r2.drop ds.length)
        else (['p', '0'], afterFrac)
      | [] => (['p', '0'], [])
    some (intPart ++ frac ++ exp, rest)

/-- The longest front of a text that reads as a floating-point number, and the rest; a
hexadecimal one (`0x1.8p1`) is given with its binary exponent. -/
def floatFront (s : List Char) : List Char × List Char :=
  let t := s.dropWhile isCBlank
  let (sign, u) := match t with
    | '-' :: r => (['-'], r)
    | '+' :: r => ([], r)
    | r => ([], r)
  let lower := u.map Char.toLower
  let hex := match u with
    | '0' :: x :: r => if x = 'x' ∨ x = 'X' then hexFront? r else none
    | _ => none
  if let some (front, rest) := hex then (sign ++ ['0', 'x'] ++ front, rest)
  else if lower.take 8 = "infinity".toList then (sign ++ "inf".toList, u.drop 8)
  else if lower.take 3 = "inf".toList then (sign ++ "inf".toList, u.drop 3)
  else if lower.take 3 = "nan".toList then (sign ++ "nan".toList, u.drop 3)
  else
    let intPart := u.takeWhile Char.isDigit
    let afterInt := u.drop intPart.length
    let (frac, afterFrac) := match afterInt with
      | '.' :: r => let f := r.takeWhile Char.isDigit; ('.' :: f, r.drop f.length)
      | r => ([], r)
    if intPart.isEmpty ∧ frac.length ≤ 1 then ([], s)
    else
      let (exp, rest) := match afterFrac with
        | e :: r =>
          if e = 'e' ∨ e = 'E' then
            let (es, r2) := match r with
              | '-' :: r2 => (['-'], r2)
              | '+' :: r2 => (['+'], r2)
              | r2 => ([], r2)
            let ds := r2.takeWhile Char.isDigit
            if ds.isEmpty then ([], afterFrac) else (e :: es ++ ds, r2.drop ds.length)
          else ([], afterFrac)
        | [] => ([], [])
      (sign ++ intPart ++ frac ++ exp, rest)

/-- A floating-point number as the utility holds it: not a number, an infinity, or the
finite value `± m · 2^q`, each with its sign. -/
inductive LongFloat where
  | nan (neg : Bool)
  | inf (neg : Bool)
  | finite (neg : Bool) (m : Nat) (q : Int)
deriving Inhabited

/-- The number of a double, with a sign. -/
def LongFloat.ofDouble (neg : Bool) (x : Double) : LongFloat :=
  match x.shape with
  | .nan => .nan neg
  | .infinite _ => .inf neg
  | .finite _ m q => .finite neg m q

/-- The finite value nearest to `num / den` with 64 significant bits, ties going to the even
significand and the smallest step `2^-16445`: the significand and exponent, or none past
the largest finite value of the extended format. -/
def roundExtended (num den : Nat) : Option (Nat × Int) :=
  if num = 0 ∨ den = 0 then some (0, 0)
  else
    let l := Double.log2Floor num den
    let q : Int := max (l - 63) (-16445)
    let m := if q ≥ 0 then Double.roundHalfEven num (den * Nat.pow 2 q.toNat)
      else Double.roundHalfEven (num * Nat.pow 2 (-q).toNat) den
    let (m, q) := if m = Nat.pow 2 64 then (Nat.pow 2 63, q + 1) else (m, q)
    if q > 16320 then none else some (m, q)

/-- The number of a front found by `floatFront`, in the rules' format, and whether it lies
past the largest finite value. -/
def readNum (rules : Rules) (text : String) : LongFloat × Bool :=
  let (neg, body) := match text.toList with
    | '-' :: r => (true, r)
    | r => (false, r)
  if body = "inf".toList then (.inf neg, false)
  else if body = "nan".toList then (.nan neg, false)
  else if rules.extended then
    match Double.readLiteral body with
    | some lit =>
      let (_, num, den) := lit.toRat
      match roundExtended num den with
      | some (m, q) => (.finite neg m q, false)
      | none => (.inf neg, true)
    | none => (.finite neg 0 0, false)
  else
    match Double.read (String.ofList body) with
    | .ok x => (LongFloat.ofDouble neg x, false)
    | .error (.range _) => (.inf neg, true)
    | .error _ => (.finite neg 0 0, false)

/-- A floating-point argument and the notice it draws. -/
def floatArg (rules : Rules) (arg : String) : LongFloat × Option Notice :=
  match charConstant? arg with
  | some (v, rest) => ((readNum rules (toString v)).1, constantNotice rules rest)
  | none =>
    let (front, rest) := floatFront arg.toList
    let text := String.ofList (if front.getLast? = some '.' then front.dropLast else front)
    let (v, overflow) := if front.isEmpty then (LongFloat.finite false 0 0, false) else readNum rules text
    (v, numberNotice rules arg (!front.isEmpty) rest overflow)

/-! ### Writing one conversion -/

/-- A conversion's flags, width and precision. -/
structure Spec where
  left : Bool := false
  plus : Bool := false
  space : Bool := false
  alt : Bool := false
  zero : Bool := false
  width : Nat := 0
  precision : Option Nat := none
deriving Inhabited

/-- Bytes padded to the width: on the right when left-justified, else on the left. -/
def pad (s : Spec) (bs : List UInt8) : List UInt8 :=
  let fill := List.replicate (s.width - bs.length) 0x20
  if s.left then bs ++ fill else fill ++ bs

/-- A number's sign, prefix and digits padded to the width, with zeros after the prefix
when asked and allowed. -/
def padNumber (s : Spec) (zeroAllowed : Bool) (pre : String) (digits : String) : List UInt8 :=
  let body := Raw.toBytes pre ++ Raw.toBytes digits
  if s.zero ∧ !s.left ∧ zeroAllowed ∧ body.length < s.width then
    Raw.toBytes pre ++ List.replicate (s.width - body.length) 0x30 ++ Raw.toBytes digits
  else pad s body

/-- The digits of a natural in a base, in lower or upper case. -/
def digitsIn (base : Nat) (upper : Bool) (n : Nat) : String :=
  let ds := Nat.toDigits base n
  String.ofList (if upper then ds.map Char.toUpper else ds)

/-- An integer conversion (`d`, `i`, `u`, `o`, `x`, `X`) of a value. -/
def integerText (s : Spec) (conv : Char) (v : Int) : List UInt8 :=
  let base := if conv = 'o' then 8 else if conv = 'x' ∨ conv = 'X' then 16 else 10
  let mag := v.natAbs
  let raw := digitsIn base (conv = 'X') mag
  let raw := if s.precision = some 0 ∧ mag = 0 then "" else raw
  let prec := s.precision.getD 1
  let digits := String.ofList (List.replicate (prec - raw.length) '0') ++ raw
  let digits := if conv = 'o' ∧ s.alt ∧ !digits.startsWith "0" then "0" ++ digits else digits
  let pre :=
    if conv = 'd' ∨ conv = 'i' then
      if v < 0 then "-" else if s.plus then "+" else if s.space then " " else ""
    else if s.alt ∧ mag ≠ 0 ∧ conv = 'x' then "0x"
    else if s.alt ∧ mag ≠ 0 ∧ conv = 'X' then "0X"
    else ""
  padNumber s s.precision.isNone pre digits

/-- Trailing zeros of a fraction dropped, and the point with them when nothing is left. -/
def trimFraction (t : String) : String :=
  if t.contains '.' then
    let cs := (t.toList.reverse.dropWhile (· = '0')).reverse
    String.ofList (if cs.getLast? = some '.' then cs.dropLast else cs)
  else t

/-- The text of a finite non-negative value in the C library's `%e` form. -/
def exponentText (m : Nat) (q : Int) (places : Nat) (upper : Bool) : String :=
  (Double.significantDigits m q (places + 1)).exponential places (if upper then 'E' else 'e') 2

/-- The text of a finite non-negative value in `%g` form with `p` significant digits. -/
def generalText (s : Spec) (m : Nat) (q : Int) (p : Nat) (upper : Bool) : String :=
  let p := if p = 0 then 1 else p
  let d := Double.significantDigits m q p
  let x : Int := if d.digits.isEmpty then 0 else d.point - 1
  let t := if x < -4 ∨ x ≥ (p : Int) then exponentText m q (p - 1) upper
    else (Double.fixedDigits m q (p - 1 - x).toNat).positional (p - 1 - x).toNat
  if s.alt then t
  else if x < -4 ∨ x ≥ (p : Int) then
    match t.splitOn (if upper then "E" else "e") with
    | [mant, e] => trimFraction mant ++ (if upper then "E" else "e") ++ e
    | _ => t
  else trimFraction t

/-- The leading hexadecimal digit, the fraction, its count of hexadecimal digits and the
exponent of `m · 2^q` in the C library's hexadecimal form: one leading bit and 52 fraction
bits for binary64, four leading bits and 60 fraction bits for the extended format; zero has
the exponent 0. -/
def hexParts (extended : Bool) (m : Nat) (q : Int) : Nat × Nat × Nat × Int :=
  if m = 0 then (0, 0, if extended then 15 else 13, 0)
  else if extended then (m / Nat.pow 2 60, m % Nat.pow 2 60, 15, q + 60)
  else (m / Nat.pow 2 52, m % Nat.pow 2 52, 13, q + 52)

/-- The hexadecimal digits of `frac` as `n` digits, the most significant first. -/
def hexDigitsOf (frac n : Nat) : List Nat := (List.range n).reverse.map fun k => frac / Nat.pow 16 k % 16

/-- Digits of a base-16 number plus one, and whether the sum carried out of them. -/
def incrementDigits (ds : List Nat) : List Nat × Bool :=
  ds.foldr (fun d (acc, carry) =>
    if !carry then (d :: acc, false)
    else if d = 15 then (0 :: acc, true)
    else ((d + 1) :: acc, false)) ([], true)

/-- The hexadecimal form after its `0x`: the leading digit, the fraction's digits without
trailing zeros (or rounded to the precision, half to even, a carry out of the leading
digit `f` making it `1` four binary places up), and the binary exponent in decimal. -/
def hexBody (upper alt : Bool) (prec : Option Nat) (lead frac n : Nat) (e : Int) : String :=
  let ds := (((hexDigitsOf frac n).reverse.dropWhile (· = 0))).reverse
  let (lead, ds, e) := match prec with
    | none => (lead, ds, e)
    | some p =>
      if p < ds.length then
        let last := if p > 0 then ds.getD (p - 1) 0 else lead
        let nxt := ds.getD p 0
        let more := nxt % 8 ≠ 0 ∨ p + 1 < ds.length
        let kept := ds.take p
        if nxt ≥ 8 ∧ (last % 2 = 1 ∨ more) then
          let (kept, carry) := incrementDigits kept
          if !carry then (lead, kept, e)
          else if lead < 15 then (lead + 1, kept, e)
          else (1, kept, e + 4)
        else (lead, kept, e)
      else (lead, ds ++ List.replicate (p - ds.length) 0, e)
  let digit (d : Nat) : Char :=
    let c := "0123456789abcdef".toList.getD d '0'
    if upper then c.toUpper else c
  String.ofList (digit lead :: (if ds.isEmpty ∧ !alt then [] else '.' :: ds.map digit)) ++
    (if upper then "P" else "p") ++ (if e < 0 then "-" else "+") ++ toString e.natAbs

/-- A floating-point conversion (`f`, `F`, `e`, `E`, `g`, `G`, `a`, `A`) of a number. -/
def floatText (rules : Rules) (s : Spec) (conv : Char) (x : LongFloat) : List UInt8 :=
  let upper := conv = 'F' ∨ conv = 'E' ∨ conv = 'G' ∨ conv = 'A'
  let places := s.precision.getD 6
  let sign (neg : Bool) : String := if neg then "-" else if s.plus then "+" else if s.space then " " else ""
  match x with
  | .nan neg => padNumber s false (sign neg) (if upper then "NAN" else "nan")
  | .inf neg => padNumber s false (sign neg) (if upper then "INF" else "inf")
  | .finite neg m q =>
    if conv = 'a' ∨ conv = 'A' then
      let (lead, frac, n, e) := hexParts rules.extended m q
      padNumber s true (sign neg ++ (if upper then "0X" else "0x")) (hexBody upper s.alt s.precision lead frac n e)
    else
      let body := if conv = 'f' ∨ conv = 'F' then (Double.fixedDigits m q places).positional places
        else if conv = 'e' ∨ conv = 'E' then exponentText m q places upper
        else generalText s m q places upper
      let body := if s.alt ∧ places = 0 ∧ (conv = 'f' ∨ conv = 'F') then body ++ "." else body
      padNumber s true (sign neg) body

/-! ### Writing a format -/

/-- The state of writing a format: the arguments left, how many this pass took, and the
result so far. -/
structure State where
  args : List String
  taken : Nat := 0
  res : Result := {}

namespace State

/-- The next argument, if any is left. -/
def next (st : State) : Option String × State :=
  match st.args with
  | a :: rest => (some a, { st with args := rest, taken := st.taken + 1 })
  | [] => (none, st)

/-- The state with bytes written. -/
def emit (st : State) (bs : List UInt8) : State := { st with res := { st.res with out := st.res.out ++ bs } }

/-- The state with a notice given; a failing one makes the run fail. -/
def warn (st : State) (w : Option Notice) : State :=
  match w with
  | some w => { st with res := { st.res with warnings := st.res.warnings ++ [w.text],
                                             failed := st.res.failed || w.fails } }
  | none => st

/-- The state stopped by an error. -/
def fail (st : State) (msg : String) : State :=
  { st with res := { st.res with fatal := some msg, failed := true } }

/-- Whether writing has ended. -/
def ended (st : State) : Bool := st.res.fatal.isSome || st.res.stopped

end State

/-- Reads the flags of a conversion. -/
def readFlags : List UInt8 → Spec → Spec × List UInt8
  | [], s => (s, [])
  | b :: bs, s =>
    if b = 0x2D then readFlags bs { s with left := true }
    else if b = 0x2B then readFlags bs { s with plus := true }
    else if b = 0x20 then readFlags bs { s with space := true }
    else if b = 0x23 then readFlags bs { s with alt := true }
    else if b = 0x30 then readFlags bs { s with zero := true }
    else if b = 0x27 then readFlags bs s
    else (s, b :: bs)

/-- Decimal digits at the front: their value and the rest. -/
def decimalRun : List UInt8 → Nat → Nat × List UInt8
  | [], v => (v, [])
  | b :: bs, v => if 0x30 ≤ b ∧ b ≤ 0x39 then decimalRun bs (v * 10 + (b.toNat - 0x30)) else (v, b :: bs)

/-- A width or precision given by `*`: the next argument as an integer. -/
def starValue (rules : Rules) (st : State) : Int × State :=
  match st.next with
  | (some a, st) => let (v, w) := intArg rules false a; (v, st.warn w)
  | (none, st) => (0, st)

/-- Writes one conversion, its `%` and flags read, with the text of the conversion so far
(for messages) and the rest of the format after its letter. -/
def convert (rules : Rules) (st : State) (spec : Spec) (conv : Char) (text : String) : State :=
  if conv = 's' then
    let (a, st) := st.next
    let bs := Raw.toBytes (a.getD "")
    let bs := match spec.precision with
      | some p => bs.take p
      | none => bs
    st.emit (pad spec bs)
  else if conv = 'b' then
    let (a, st) := st.next
    let (bs, stop, fatal) := escapedText rules (Raw.toBytes (a.getD ""))
    match fatal with
    | some f => st.fail f
    | none =>
      let st := st.emit (pad spec bs)
      if stop then { st with res := { st.res with stopped := true } } else st
  else if rules.quoting ∧ conv = 'q' then
    let (a, st) := st.next
    let bs := Raw.toBytes (Text.Quoting.backslash (a.getD ""))
    let bs := match spec.precision with
      | some p => bs.take p
      | none => bs
    st.emit (pad spec bs)
  else if conv = 'c' then
    let (a, st) := st.next
    let bs := (Raw.toBytes (a.getD "")).take 1
    st.emit (pad spec (if bs.isEmpty ∧ a.isSome then [] else bs))
  else if conv = 'd' ∨ conv = 'i' ∨ conv = 'u' ∨ conv = 'o' ∨ conv = 'x' ∨ conv = 'X' then
    let (a, st) := st.next
    let (v, w) := match a with
      | some a => intArg rules (conv ≠ 'd' ∧ conv ≠ 'i') a
      | none => (0, none)
    (st.warn w).emit (integerText spec conv v)
  else if conv = 'f' ∨ conv = 'F' ∨ conv = 'e' ∨ conv = 'E' ∨ conv = 'g' ∨ conv = 'G' ∨
      conv = 'a' ∨ conv = 'A' then
    let (a, st) := st.next
    let (v, w) := match a with
      | some a => floatArg rules a
      | none => (LongFloat.finite false 0 0, none)
    (st.warn w).emit (floatText rules spec conv v)
  else st.fail (rules.badConversion text)

/-- Writes the format once from its bytes, at most `fuel` steps. -/
def pass (rules : Rules) : Nat → State → List UInt8 → State
  | 0, st, _ => st
  | _, st, [] => st
  | fuel + 1, st, b :: rest =>
    if st.ended then st
    else if b = 0x5C then
      let e := escape rules false rest
      match e.fatal with
      | some f => st.fail f
      | none =>
        let st := st.emit e.bytes
        if e.stop then { st with res := { st.res with stopped := true } } else pass rules fuel st e.rest
    else if b = 0x25 then
      match rest with
      | 0x25 :: more => pass rules fuel (st.emit [0x25]) more
      | [] =>
        st.fail (match rules.missingConversion with
          | some f => f "%"
          | none => rules.badConversion "%")
      | _ =>
        let (spec, r1) := readFlags rest {}
        let (spec, st, r2) := match r1 with
          | 0x2A :: r => let (v, st) := starValue rules st
            ({ spec with width := v.natAbs, left := spec.left || v < 0 }, st, r)
          | r => let (v, r) := decimalRun r 0; ({ spec with width := v }, st, r)
        let (spec, st, r3) := match r2 with
          | 0x2E :: 0x2A :: r => let (v, st) := starValue rules st
            ({ spec with precision := if v < 0 then none else some v.toNat }, st, r)
          | 0x2E :: r => let (v, r) := decimalRun r 0; ({ spec with precision := some v }, st, r)
          | r => (spec, st, r)
        let r4 := if !rules.modifiers then r3
          else r3.dropWhile fun c => c = 0x6C ∨ c = 0x4C ∨ c = 0x68 ∨ c = 0x6A ∨ c = 0x74 ∨ c = 0x7A
        match r4 with
        | [] =>
          let text := Text.decodeLossy (0x25 :: rest)
          st.fail (match rules.missingConversion with
            | some f => f text
            | none => rules.badConversion text)
        | c :: more =>
          let text := Text.decodeLossy (0x25 :: rest.take (rest.length - more.length))
          let st := convert rules st spec (Char.ofNat c.toNat) text
          pass rules fuel st more
    else pass rules fuel (st.emit [b]) rest

/-- Writes a format over arguments: again while arguments are left and the format takes
some. -/
def run (rules : Rules) (format : String) (args : List String) : Result :=
  go (args.length + 1) { args }
where
  go : Nat → State → Result
    | 0, st => st.res
    | fuel + 1, st =>
      let st := pass rules (Raw.toBytes format).length.succ { st with taken := 0 } (Raw.toBytes format)
      if st.ended ∨ st.taken = 0 ∨ st.args.isEmpty then st.res else go fuel st

end Printf

end Timebox
