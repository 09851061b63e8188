import Timebox.Program.Tools

/-! # Sequences of numbers

`seq [-f format] [-s separator] [-w] [first [step]] last` writes the numbers from `first`
(1 by default) by `step` (1 by default) while they do not pass `last`, between separators
(a newline by default) and with a newline after the last.

* When the operands are written with digits only, the step is at most 200, and neither a
  format nor equal widths are asked for and the separator is one byte, the numbers are
  counted exactly, however large.
* Otherwise the operands are values of the extended floating-point format (64 significant
  bits), read as the C library reads them, and the `i`-th number is `first + i · step`,
  the product and the sum each rounded to that format. The number just past `last` is
  still written when it is written the same as `last` and not as the number before it.
* Without `-f`, the numbers have as many decimals as `first` and `step` are written with
  (`%.2Lf`); with `-w`, they are padded with zeros to the widest of `first` and `last`;
  when the decimals of an operand cannot be told from its text (a hexadecimal fraction) the
  format is `%Lg`.
* A format of `-f` has exactly one conversion, of `e`, `f`, `g` or `a` (either case).

Misuse is reported as `seq: missing operand` and the like, with the usage hint; a bad
format as `seq: format '%d' has unknown %d directive`, without it.
-/

namespace Timebox

namespace Program

namespace Sequence

open Printf (quoteArg LongFloat Spec)

/-- How the numbers are written. -/
structure Settings where
  format : Option String := none
  separator : String := "\n"
  equalWidth : Bool := false

/-- The long options, each with whether it takes a value. -/
def longOptions : List (String × Bool) :=
  [("format", true), ("separator", true), ("equal-width", false), ("help", false), ("version", false)]

/-- The settings with an option and its value set. -/
def Settings.set (s : Settings) (name : String) (value : String) : Settings :=
  if name = "format" then { s with format := some value }
  else if name = "separator" then { s with separator := value }
  else if name = "equal-width" then { s with equalWidth := true }
  else s

/-- Whether an argument is a negative number rather than options: `-` then a digit or `.`. -/
def looksNegative (a : String) : Bool :=
  match a.toList with
  | '-' :: c :: _ => c = '.' || c.isDigit
  | _ => false

/-- Reads a cluster of short options after its `-`: `-w`, `-sSEP`, `-f FORMAT`; the settings
and the arguments after the cluster and its value. -/
def shortCluster : List Char → List String → Settings → Except String (Settings × List String)
  | [], rest, s => .ok (s, rest)
  | c :: cs, rest, s =>
    if c = 'w' then shortCluster cs rest { s with equalWidth := true }
    else if c = 'f' ∨ c = 's' then
      let name := if c = 'f' then "format" else "separator"
      if !cs.isEmpty then .ok (s.set name (String.ofList cs), rest)
      else
        match rest with
        | v :: more => .ok (s.set name v, more)
        | [] => .error ("option requires an argument -- '" ++ c.toString ++ "'")
    else .error ("invalid option -- '" ++ c.toString ++ "'")

/-- Reads a long option after its `--`: the settings and the arguments after it and its
value. -/
def longOption (a : String) (body : List Char) (rest : List String) (s : Settings) :
    Except String (Settings × List String) :=
  let name := String.ofList (body.takeWhile (· ≠ '='))
  let inline := if body.contains '=' then some (String.ofList ((body.dropWhile (· ≠ '=')).drop 1)) else none
  let exact := longOptions.filter (·.1 = name)
  let found := if exact.isEmpty then longOptions.filter (·.1.startsWith name) else exact
  match found with
  | [(full, takes)] =>
    if takes then
      match inline, rest with
      | some v, _ => .ok (s.set full v, rest)
      | none, v :: more => .ok (s.set full v, more)
      | none, [] => .error ("option '--" ++ full ++ "' requires an argument")
    else if inline.isSome then .error ("option '--" ++ full ++ "' doesn't allow an argument")
    else .ok (s.set full "", rest)
  | [] => .error ("unrecognized option '" ++ a ++ "'")
  | _ => .error ("option '" ++ a ++ "' is ambiguous")

/-- Reads the options in front of the operands, at most `fuel` of them; they end at `--`,
at the first argument that is not an option, and at a negative number. -/
def readOptions : Nat → List String → Settings → Except String (Settings × List String)
  | 0, args, s => .ok (s, args)
  | _, [], s => .ok (s, [])
  | fuel + 1, a :: rest, s =>
    if a = "--" then .ok (s, rest)
    else if looksNegative a then .ok (s, a :: rest)
    else
      let step := match a.toList with
        | '-' :: '-' :: body => some (longOption a body rest s)
        | '-' :: c :: cs => some (shortCluster (c :: cs) rest s)
        | _ => none
      match step with
      | some (.ok (s, rest)) => readOptions fuel rest s
      | some (.error e) => .error e
      | none => .ok (s, a :: rest)

/-! ### Values of the extended format -/

/-- A value as a signed significand and a binary exponent, when it is finite. -/
def finiteParts? : LongFloat → Option (Int × Int)
  | .finite neg m q => some (if neg then -(m : Int) else m, q)
  | _ => none

/-- The value `s · 2^q` rounded to the extended format. -/
def ofExact (s q : Int) : LongFloat :=
  if s = 0 then .finite false 0 0
  else
    let num := s.natAbs * Nat.pow 2 (max q 0).toNat
    let den := Nat.pow 2 (max (-q) 0).toNat
    match Printf.roundExtended num den with
    | some (m, e) => .finite (s < 0) m e
    | none => .inf (s < 0)

/-- Two finite values over one exponent: their significands scaled to the smaller one. -/
def align (a b : Int × Int) : Int × Int × Int :=
  let q := min a.2 b.2
  (a.1 * Int.pow 2 (a.2 - q).toNat, b.1 * Int.pow 2 (b.2 - q).toNat, q)

/-- The sum of two values, rounded. -/
def add (x y : LongFloat) : LongFloat :=
  match finiteParts? x, finiteParts? y with
  | some a, some b => let (u, v, q) := align a b; ofExact (u + v) q
  | none, _ => x
  | _, none => y

/-- A value times a count, rounded. -/
def scale (i : Nat) (x : LongFloat) : LongFloat :=
  match finiteParts? x with
  | some (s, q) => ofExact (s * i) q
  | none => if i = 0 then .finite false 0 0 else x

/-- Whether one value is less than another; infinities at the ends. -/
def less (x y : LongFloat) : Bool :=
  match x, y with
  | .inf true, .inf true => false
  | .inf true, _ => true
  | _, .inf false => !(match x with | .inf false => true | _ => false)
  | .inf false, _ => false
  | _, .inf true => false
  | _, _ =>
    match finiteParts? x, finiteParts? y with
    | some a, some b => let (u, v, _) := align a b; u < v
    | _, _ => false

/-- Whether two values are equal. -/
def same (x y : LongFloat) : Bool := !less x y && !less y x

/-! ### Operands -/

/-- An operand: its value, the width of its text, and its number of decimals, unknown for a
hexadecimal fraction. -/
structure Operand where
  value : LongFloat
  width : Int := 0
  precision : Option Nat := none

/-- The value of a whole text read as a number, if the text is one and it is in range. -/
def valueOf? (text : String) : Option LongFloat :=
  let (front, rest) := Printf.floatFront text.toList
  if front.isEmpty ∨ !rest.isEmpty then none
  else
    let body := String.ofList (if front.getLast? = some '.' then front.dropLast else front)
    match Printf.readNum Printf.coreRules body with
    | (_, true) => none
    | (v, false) => some v

/-- The width and decimals of an operand's text: the digits it shows, counting a `0` before
a leading point and the digits its exponent adds. -/
def measure (arg : String) (v : LongFloat) : Operand :=
  let cs := arg.toList.dropWhile fun c => Printf.isCBlank c || c = '+'
  let point := cs.findIdx? (· = '.')
  let precision : Option Nat := if point.isNone ∧ !cs.contains 'p' then some 0 else none
  let finite := match v with | .finite .. => true | _ => false
  if cs.contains 'x' ∨ cs.contains 'X' ∨ !finite then { value := v, precision }
  else
    let len : Int := cs.length
    let (width, precision, fraction) : Int × Option Nat × Nat := match point with
      | some p =>
        let fraction := ((cs.drop (p + 1)).takeWhile fun c => c ≠ 'e' ∧ c ≠ 'E').length
        let before := cs.take p
        let adjust : Int := if fraction = 0 then -1
          else if before.isEmpty ∨ !((before.getLast?.map Char.isDigit).getD false) then 1 else 0
        (len + adjust, some fraction, fraction)
      | none => (len, precision, 0)
    match cs.findIdx? (fun c => c = 'e' ∨ c = 'E') with
    | none => { value := v, width, precision }
    | some e =>
      let expText := String.ofList (cs.drop (e + 1))
      let exponent : Int := match expText.toList with
        | '-' :: ds => -((String.ofList (ds.takeWhile Char.isDigit)).toNat! : Int)
        | '+' :: ds => ((String.ofList (ds.takeWhile Char.isDigit)).toNat! : Int)
        | ds => ((String.ofList (ds.takeWhile Char.isDigit)).toNat! : Int)
      let p := precision.getD 0
      let precision : Nat := if exponent < 0 then p + exponent.natAbs else p - min p exponent.toNat
      let width := width - (len - e)
      if exponent < 0 then
        let width := match point with
          | some pt => if e = pt + 1 then width + 1 else width
          | none => width + 1
        { value := v, width := width + exponent.natAbs, precision := some precision }
      else
        let width := if point.isSome ∧ precision = 0 ∧ fraction > 0 then width - 1 else width
        { value := v, width := width + (exponent.toNat - min fraction exponent.toNat), precision := some precision }

/-- An operand read from its text, or the message of why it is not a number. -/
def Operand.read (arg : String) : Except String Operand :=
  match valueOf? arg with
  | none => .error ("invalid floating point argument: " ++ quoteArg arg)
  | some (.nan _) => .error ("invalid " ++ quoteArg "not-a-number" ++ " argument: " ++ quoteArg arg)
  | some v => .ok (measure arg v)

/-! ### Formats -/

/-- A format of one conversion: the text before it, its flags, width and precision, its
letter, and the text after it; `%%` in the texts stands for `%`. -/
structure Format where
  before : String := ""
  spec : Spec := {}
  conv : Char := 'g'
  after : String := ""

/-- The text before the conversion, `%%` read as `%`, and the rest after the conversion's
`%`; none when there is no conversion. -/
def splitDirective : List Char → List Char → Option (List Char × List Char)
  | [], _ => none
  | '%' :: '%' :: r, acc => splitDirective r ('%' :: acc)
  | '%' :: r, acc => some (acc.reverse, r)
  | c :: r, acc => splitDirective r (c :: acc)

/-- The text after the conversion with `%%` read as `%`; none when it holds another
conversion. -/
def plainRest : List Char → Option (List Char)
  | [] => some []
  | '%' :: '%' :: r => (plainRest r).map ('%' :: ·)
  | '%' :: _ => none
  | c :: r => (plainRest r).map (c :: ·)

/-- The flags of a conversion as a spec, and the rest. -/
def readFlags : List Char → Spec → Spec × List Char
  | [], s => (s, [])
  | c :: r, s =>
    if c = '-' then readFlags r { s with left := true }
    else if c = '+' then readFlags r { s with plus := true }
    else if c = ' ' then readFlags r { s with space := true }
    else if c = '#' then readFlags r { s with alt := true }
    else if c = '0' then readFlags r { s with zero := true }
    else if c.toNat = 39 then readFlags r s
    else (s, c :: r)

/-- A format of `-f`, or the message of what is wrong with it. -/
def Format.read (fmt : String) : Except String Format :=
  let named := "format " ++ quoteArg fmt
  match splitDirective fmt.toList [] with
  | none => .error (named ++ " has no % directive")
  | some (before, rest) =>
    let (spec, r) := readFlags rest {}
    let ws := r.takeWhile Char.isDigit
    let r := r.drop ws.length
    let spec := { spec with width := (String.ofList ws).toNat! }
    let (spec, r) := match r with
      | '.' :: r' =>
        let ps := r'.takeWhile Char.isDigit
        ({ spec with precision := some (String.ofList ps).toNat! }, r'.drop ps.length)
      | _ => (spec, r)
    let r := match r with
      | 'L' :: r' => r'
      | _ => r
    match r with
    | [] => .error (named ++ " ends in %")
    | c :: more =>
      if !"efgaEFGA".toList.contains c then .error (named ++ " has unknown %" ++ c.toString ++ " directive")
      else
        match plainRest more with
        | none => .error (named ++ " has too many % directives")
        | some after => .ok { before := String.ofList before, spec, conv := c, after := String.ofList after }

/-- The format `seq` chooses without `-f`: as many decimals as `first` and `step` have,
padded with zeros to a common width with `-w`; `%Lg` when the decimals are unknown. -/
def defaultFormat (first step last : Operand) (equalWidth : Bool) : Format :=
  match first.precision, step.precision, last.precision with
  | some pf, some ps, some pl =>
    let prec := max pf ps
    if equalWidth then
      let firstWidth : Int := first.width + (prec - pf : Int) + (if pf = 0 ∧ prec > 0 then 1 else 0)
      let lastWidth : Int := last.width + ((prec : Int) - pl) +
        (if pl > 0 ∧ prec = 0 then -1 else if pl = 0 ∧ prec > 0 then 1 else 0)
      let width := (max firstWidth lastWidth).toNat
      { spec := { zero := true, width, precision := some prec }, conv := 'f' }
    else { spec := { precision := some prec }, conv := 'f' }
  | _, _, _ => { conv := 'g' }

/-- The text of a value in a format. -/
def Format.text (f : Format) (x : LongFloat) : String :=
  f.before ++ Raw.ofBytes (Printf.floatText Printf.coreRules f.spec f.conv x) ++ f.after

/-! ### Writing the numbers -/

/-- Whether a value lies past the last one, in the direction of the step. -/
def past (step last x : LongFloat) : Bool :=
  if less step (.finite false 0 0) then less x last else less last x

/-- The texts of the numbers after the first, from the `i`-th on, given the text of the one
before; at most `fuel` of them. -/
def following (f : Format) (first step last : LongFloat) : Nat → Nat → String → List String
  | 0, _, _ => []
  | fuel + 1, i, previous =>
    let x := add first (scale i step)
    let text := f.text x
    if past step last x then
      -- the number just past the end, written as the end and not as the number before
      match valueOf? text with
      | some v => if same v last ∧ text ≠ previous then [text] else []
      | none => []
    else text :: following f first step last fuel (i + 1) text

/-- The most numbers written: more than any run that ends in time. -/
def limit : Nat := 1000000

/-- The whole numbers from `a` to `b` by `step`, counted exactly. -/
def wholeRun (a b step : Nat) : List String :=
  if b < a ∨ step = 0 then []
  else (List.range ((b - a) / step + 1)).map fun i => toString (a + i * step)

/-- Whether a text is digits only. -/
def allDigits (s : String) : Bool := !s.isEmpty && s.all Char.isDigit

/-- The texts of the numbers, or the message of a bad operand or format with whether it
takes the usage hint. -/
def numbers (s : Settings) (ops : List String) : Except (String × Bool) (List String) := do
  let (firstText, stepText, lastText) := match ops with
    | [l] => (none, none, l)
    | [f, l] => (some f, none, l)
    | [f, st, l] => (some f, some st, l)
    | _ => (none, none, "")
  let format ← match s.format with
    | some f => (Format.read f).map some |>.mapError (·, false)
    | none => pure none
  let stepSmall := match stepText with
    | some st => allDigits st && 0 < st.toNat! && st.toNat! ≤ 200
    | none => true
  let fast := allDigits (firstText.getD "1") && allDigits lastText && stepSmall && !s.equalWidth &&
    s.format.isNone && s.separator.length == 1
  if fast then
    pure (wholeRun (firstText.getD "1").toNat! lastText.toNat! ((stepText.getD "1").toNat!))
  else
    let readOp (t : String) : Except (String × Bool) Operand := (Operand.read t).mapError (·, true)
    let first ← match firstText with
      | some t => readOp t
      | none => pure { value := ofExact 1 0, width := 1, precision := some 0 }
    let step ← match stepText with
      | some t =>
        let op ← readOp t
        if same op.value (.finite false 0 0) then throw ("invalid Zero increment value: " ++ quoteArg t, true)
        else pure op
      | none => pure { value := ofExact 1 0, width := 1, precision := some 0 }
    let last ← readOp lastText
    let f := format.getD (defaultFormat first step last s.equalWidth)
    if past step.value last.value first.value then pure []
    else
      let text := f.text first.value
      pure (text :: following f first.value step.value last.value limit 1 text)

end Sequence

open Sequence in
/-- `seq`. -/
def seq (inv : Invocation) : Effect :=
  match readOptions (inv.args.length + 1) inv.args {} with
  | .error msg => usageError inv.name msg
  | .ok (s, ops) =>
    if ops.isEmpty then usageError inv.name "missing operand"
    else if ops.length > 3 then usageError inv.name ("extra operand " ++ Printf.quoteArg (ops.getD 3 ""))
    else if s.format.isSome ∧ s.equalWidth then
      usageError inv.name "format string may not be specified when printing equal width strings"
    else
      match numbers s ops with
      | .error (msg, true) => usageError inv.name msg
      | .error (msg, false) => ({ code := 1 } : Effect).complain (inv.name ++ ": " ++ msg)
      | .ok [] => {}
      | .ok items => ({} : Effect).say (s.separator.intercalate items ++ "\n")

end Program

end Timebox
