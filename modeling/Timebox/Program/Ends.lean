import Timebox.Program.Options

/-! # The ends of files: `head` and `tail`

`head` writes the first ten lines of each file, `tail` the last ten.

* `-n N` counts lines and `-c N` bytes; the last one given wins. `N` is a size as the core
  tools read one (`2k` is 2048) below 2⁶⁴.
* `head -n -N` writes all but the last `N`; `tail -n +N` writes from the `N`-th on, so
  `+0` and `+1` both write everything.
* `-z` ends lines with a zero byte.
* With several files each is headed `==> name <==`, after an empty line from the second
  on. `-q` drops the headers, `-v` asks for them even for one file, and the last one
  given wins.
* A first argument such as `-3`, `-3c` or `-2q` (for `tail` also `+3`, `-3f`) gives the
  count and letters the old way. A digit option anywhere else is refused: `head` says
  `invalid trailing option -- 3`, `tail` says `option used in invalid context -- 3`.
* `tail -f` follows its files, so with a file it never ends.

A file that cannot be opened is reported without a header; a directory gets its header,
then `error reading 'd': Is a directory`. Either way the exit code is 1.
-/

namespace Timebox

namespace Program

namespace Ends

open Options (Spec)

/-- The part of each file that is written, and how. -/
structure Cut where
  /-- Lines are counted (else bytes). -/
  lines : Bool := true
  count : Nat := 10
  /-- `head`: all but the last `count`; `tail`: from the `count`-th on. -/
  other : Bool := false
  /-- Lines end with a zero byte. -/
  zero : Bool := false
  /-- Headers always (`some true`), never (`some false`), or for several files. -/
  headers : Option Bool := none
  /-- `tail -f`: the files are followed after their end. -/
  follow : Bool := false

/-- A failure that ends the tool: the message, exit code 1. -/
def failure (msg : String) : Effect := { ({} : Effect).complain msg with code := 1 }

/-- The counts the tools take are below 2⁶⁴. -/
def countBound : Nat := Nat.pow 2 64

/-- A count as `-n` and `-c` read it, or the tool's complaint. -/
def readCount (name : String) (lines : Bool) (text : String) : Except Effect Nat :=
  let what := name ++ ": invalid number of " ++ (if lines then "lines" else "bytes") ++ ": " ++
    Printf.quoteArg text
  match sizeValue? text with
  | none => .error (failure what)
  | some n =>
    if n < countBound then .ok n
    else .error (failure (what ++ ": Value too large for defined data type"))

/-- The digit options, which only the old first argument may use; each is keyed by its
digit. -/
def digitSpecs : List Spec :=
  (List.range 10).map fun d =>
    let c := Char.ofNat (48 + d)
    { key := c.toString, letter := some c }

/-- Whether a setting is a digit option. -/
def isDigitKey (key : String) : Bool := key.length = 1 && key.all Char.isDigit

/-- The options of `head`, in the order the tool lists its long names. -/
def headSpecs : List Spec :=
  [{ key := "c", letter := some 'c', long := some "bytes", value := true },
   { key := "n", letter := some 'n', long := some "lines", value := true },
   { key := "pipe", long := some "-presume-input-pipe" },
   { key := "q", letter := some 'q', long := some "quiet" },
   { key := "q", long := some "silent" },
   { key := "v", letter := some 'v', long := some "verbose" },
   { key := "z", letter := some 'z', long := some "zero-terminated" },
   { key := "help", long := some "help" },
   { key := "version", long := some "version" }] ++ digitSpecs

/-- The options of `tail`, in the order the tool lists its long names. -/
def tailSpecs : List Spec :=
  [{ key := "c", letter := some 'c', long := some "bytes", value := true },
   { key := "follow", long := some "follow", optional := true },
   { key := "n", letter := some 'n', long := some "lines", value := true },
   { key := "stats", long := some "max-unchanged-stats", value := true },
   { key := "inotify", long := some "-disable-inotify" },
   { key := "pid", long := some "pid", value := true },
   { key := "pipe", long := some "-presume-input-pipe" },
   { key := "q", letter := some 'q', long := some "quiet" },
   { key := "retry", long := some "retry" },
   { key := "q", long := some "silent" },
   { key := "s", letter := some 's', long := some "sleep-interval", value := true },
   { key := "v", letter := some 'v', long := some "verbose" },
   { key := "z", letter := some 'z', long := some "zero-terminated" },
   { key := "help", long := some "help" },
   { key := "version", long := some "version" },
   { key := "f", letter := some 'f' },
   { key := "F", letter := some 'F' }] ++ digitSpecs

/-- The old first argument of `head`: `-` and digits, then letters among `cbkmlqvz`
(`b`, `k`, `m` count bytes in blocks of 512, 1024 or 1024²). None when it is not one. -/
def headOld (name : String) (arg : String) : Option (Except Effect Cut) :=
  match arg.toList with
  | '-' :: d :: rest =>
    if !d.isDigit then none
    else
      let digits := d :: rest.takeWhile Char.isDigit
      let letters := rest.drop (digits.length - 1)
      let step (acc : Except Effect (Cut × Option Char)) (c : Char) : Except Effect (Cut × Option Char) :=
        acc.bind fun (cut, unit) =>
          if c = 'c' then .ok ({ cut with lines := false }, none)
          else if c = 'b' ∨ c = 'k' ∨ c = 'm' then .ok ({ cut with lines := false }, some c)
          else if c = 'l' then .ok ({ cut with lines := true }, unit)
          else if c = 'q' then .ok ({ cut with headers := some false }, unit)
          else if c = 'v' then .ok ({ cut with headers := some true }, unit)
          else if c = 'z' then .ok ({ cut with zero := true }, unit)
          else .error (usageError name ("invalid trailing option -- " ++ c.toString))
      some <| (letters.foldl step (.ok ({}, none))).bind fun (cut, unit) =>
        (readCount name cut.lines (String.ofList (digits ++ unit.toList))).map fun count =>
          { cut with count }
  | _ => none

/-- The settings of `head` applied in order to a cut; a digit option is refused. -/
def headSettings (name : String) (cut : Cut) : List Options.Setting → Except Effect Cut
  | [] => .ok cut
  | (key, v) :: rest =>
    let value := v.getD ""
    if key = "c" ∨ key = "n" then
      let lines := key = "n"
      let other := value.startsWith "-"
      let text := if other then String.ofList (value.toList.drop 1) else value
      (readCount name lines text).bind fun count =>
        headSettings name { cut with lines, other, count } rest
    else if key = "q" then headSettings name { cut with headers := some false } rest
    else if key = "v" then headSettings name { cut with headers := some true } rest
    else if key = "z" then headSettings name { cut with zero := true } rest
    else if isDigitKey key then .error (usageError name ("invalid trailing option -- " ++ key))
    else headSettings name cut rest

/-- Whether a value is a number of seconds `tail -s` takes: digits with maybe a point and
an exponent, not negative. -/
def secondsValid (s : String) : Bool :=
  let cs := match s.toList.dropWhile Printf.isCBlank with
    | '+' :: r => r
    | r => r
  let whole := cs.takeWhile Char.isDigit
  let cs := cs.drop whole.length
  let (frac, cs) := match cs with
    | '.' :: r => (r.takeWhile Char.isDigit, r.drop (r.takeWhile Char.isDigit).length)
    | r => ([], r)
  let mantissa := !(whole.isEmpty ∧ frac.isEmpty)
  let expOk := match cs with
    | [] => true
    | e :: r =>
      (e = 'e' ∨ e = 'E') ∧
        (let r := match r with
          | '+' :: q => q
          | '-' :: q => q
          | q => q
         !r.isEmpty ∧ r.all Char.isDigit)
  mantissa ∧ expOk

/-- Whether a value is a plain count: blanks and a `+` may lead, then digits. -/
def plainCount (s : String) : Bool :=
  let cs := match s.toList.dropWhile Printf.isCBlank with
    | '+' :: r => r
    | r => r
  !cs.isEmpty ∧ cs.all Char.isDigit

/-- The settings of `tail` applied in order to a cut, with whether `--retry` and `--pid`
were given; a digit option is refused. -/
def tailSettings (name : String) (acc : Cut × Bool × Bool) :
    List Options.Setting → Except Effect (Cut × Bool × Bool)
  | [] => .ok acc
  | (key, v) :: rest =>
    let (cut, retry, pid) := acc
    let value := v.getD ""
    if key = "c" ∨ key = "n" then
      let lines := key = "n"
      let other := value.startsWith "+" || cut.other
      let text := if value.startsWith "-" then String.ofList (value.toList.drop 1) else value
      (readCount name lines text).bind fun count =>
        tailSettings name ({ cut with lines, other, count }, retry, pid) rest
    else if key = "f" then tailSettings name ({ cut with follow := true }, retry, pid) rest
    else if key = "F" then tailSettings name ({ cut with follow := true }, true, pid) rest
    else if key = "follow" then
      let modes := ["descriptor", "name"].filter fun m => m.startsWith value
      if v.isNone ∨ (modes.length = 1 ∧ value ≠ "") then
        tailSettings name ({ cut with follow := true }, retry, pid) rest
      else if value ≠ "" ∧ modes.isEmpty then
        .error { failure (name ++ ": invalid argument " ++ Printf.quoteArg value ++ " for '--follow'")
          |>.complain "Valid arguments are:" |>.complain "  - 'descriptor'" |>.complain "  - 'name'"
          |>.complain (tryHelp name) with code := 1 }
      else
        .error { failure (name ++ ": ambiguous argument " ++ Printf.quoteArg value ++ " for '--follow'")
          |>.complain "Valid arguments are:" |>.complain "  - 'descriptor'" |>.complain "  - 'name'"
          |>.complain (tryHelp name) with code := 1 }
    else if key = "retry" then tailSettings name (cut, true, pid) rest
    else if key = "pid" then
      if plainCount value then tailSettings name (cut, retry, true) rest
      else .error (failure (name ++ ": invalid PID: " ++ Printf.quoteArg value))
    else if key = "stats" then
      if plainCount value then tailSettings name acc rest
      else .error (failure (name ++ ": invalid maximum number of unchanged stats between opens: " ++
        Printf.quoteArg value))
    else if key = "s" then
      if secondsValid value then tailSettings name acc rest
      else .error (failure (name ++ ": invalid number of seconds: " ++ Printf.quoteArg value))
    else if key = "q" then tailSettings name ({ cut with headers := some false }, retry, pid) rest
    else if key = "v" then tailSettings name ({ cut with headers := some true }, retry, pid) rest
    else if key = "z" then tailSettings name ({ cut with zero := true }, retry, pid) rest
    else if isDigitKey key then .error (failure (name ++ ": option used in invalid context -- " ++ key))
    else tailSettings name acc rest

/-- The old first argument of `tail`: `+` or `-`, digits (ten when there are none), then
maybe `b` (blocks of 512), `c` or `l`, then maybe `f`. It is taken only with at most one
file after it (or `--` and one file). None when it is not one. -/
def tailOld (name : String) (args : List String) : Option (Except Effect Cut) :=
  let shape := match args with
    | [_] => true
    | [_, b] => !(b.startsWith "-" ∧ b.length > 1) || b = "--"
    | [_, "--", _] => true
    | _ => false
  match args with
  | arg :: _ =>
    match arg.toList with
    | sign :: rest =>
      let fromStart := sign = '+'
      let short := rest = [] ∨ rest = ['c']
      if !shape ∨ !(sign = '+' ∨ sign = '-') ∨ (sign = '-' ∧ short) then none
      else
        let digits := rest.takeWhile Char.isDigit
        let more := rest.drop digits.length
        let (lines, blocks, more) := match more with
          | 'b' :: r => (false, true, r)
          | 'c' :: r => (false, false, r)
          | 'l' :: r => (true, false, r)
          | r => (true, false, r)
        let (follow, more) := match more with
          | 'f' :: r => (true, r)
          | r => (false, r)
        if !more.isEmpty then none
        else
          let scale := if blocks then 512 else 1
          let count := if digits.isEmpty then 10 * scale else (String.ofList digits).toNat! * scale
          if count < countBound then some (.ok { lines, count, other := fromStart, follow })
          else some (.error (failure (name ++ ": invalid number: " ++ Printf.quoteArg arg ++
            ": Numerical result out of range")))
    | [] => none
  | [] => none

/-- The items of bytes: its lines (each with its end byte, the last maybe without), or
its bytes one by one. -/
def items (cut : Cut) (bs : List UInt8) : List (List UInt8) :=
  if !cut.lines then bs.map ([·])
  else go (if cut.zero then 0 else 10) bs.length bs []
where
  go (stop : UInt8) : Nat → List UInt8 → List UInt8 → List (List UInt8)
    | 0, _, cur => if cur.isEmpty then [] else [cur.reverse]
    | _, [], cur => if cur.isEmpty then [] else [cur.reverse]
    | fuel + 1, b :: rest, cur =>
      if b = stop then (b :: cur).reverse :: go stop fuel rest [] else go stop fuel rest (b :: cur)

/-- What `head` keeps of a file. -/
def headPart (cut : Cut) (bs : List UInt8) : List UInt8 :=
  if !cut.lines then (if cut.other then bs.take (bs.length - cut.count) else bs.take cut.count)
  else
    let xs := items cut bs
    (if cut.other then xs.take (xs.length - cut.count) else xs.take cut.count).flatten

/-- What `tail` keeps of a file. -/
def tailPart (cut : Cut) (bs : List UInt8) : List UInt8 :=
  if !cut.lines then (if cut.other then bs.drop (cut.count - 1) else bs.drop (bs.length - cut.count))
  else
    let xs := items cut bs
    (if cut.other then xs.drop (cut.count - 1) else xs.drop (xs.length - cut.count)).flatten

/-- Writes the part of each file, with headers when asked for or when there are several. -/
def writeAll (inv : Invocation) (cut : Cut) (part : Cut → List UInt8 → List UInt8)
    (ops : List String) : Effect :=
  let ops := if ops.isEmpty then ["-"] else ops
  let headers := cut.headers.getD (ops.length > 1)
  let isInput (op : String) : Bool := op = "-" ∨ (inv.cwd.resolve op).stream? = some 0
  let (e, _, _) := ops.foldl (fun (acc : Effect × Bool × Bool) op =>
    let (e, first, used) := acc
    let shown := if op = "-" then "standard input" else op
    let header := (if first then "" else "\n") ++ "==> " ++ shown ++ " <==\n"
    -- the standard input is read once: a second `-` finds it at its end
    let read := if isInput op ∧ used then .ok [] else readOperand inv op
    let used := used || isInput op
    match read with
    | .error .isDirectory =>
      let e := if headers then e.say header else e
      ({ e.complain (inv.name ++ ": error reading " ++ Text.Quoting.shellAlways shown ++ ": " ++
          errnoText .isDirectory) with code := 1 }, !headers && first, used)
    | .error err =>
      ({ e.complain (inv.name ++ ": cannot open " ++ Text.Quoting.shellAlways shown ++
          " for reading: " ++ errnoText err) with code := 1 }, first, used)
    | .ok bs =>
      let e := if headers then e.say header else e
      (e.put 1 (part cut bs), !headers && first, used)) ({}, true, false)
  e

end Ends

open Ends in
/-- `head`. -/
def head (inv : Invocation) : Effect :=
  let (start, args) := match inv.args with
    | a :: rest => match headOld inv.name a with
      | some r => (r, rest)
      | none => (.ok {}, inv.args)
    | [] => (.ok {}, [])
  match start with
  | .error e => e
  | .ok cut =>
    let r := Options.read headSpecs args
    match headSettings inv.name cut r.settings with
    | .error e => e
    | .ok cut =>
      match r.fault with
      | some f => usageError inv.name f.message
      | none => writeAll inv cut headPart r.operands

open Ends in
/-- `tail`. -/
def tail (inv : Invocation) : Effect :=
  match tailOld inv.name inv.args with
  | some (.error e) => e
  | some (.ok cut) =>
    let ops := match inv.args.drop 1 with
      | "--" :: rest => rest
      | rest => rest
    let e := writeAll inv cut tailPart ops
    if cut.follow ∧ ops.any (· ≠ "-") then { e with sleep := none } else e
  | none =>
    let r := Options.read tailSpecs inv.args
    match tailSettings inv.name ({}, false, false) r.settings with
    | .error e => e
    | .ok (cut, retry, pid) =>
      match r.fault with
      | some f => usageError inv.name f.message
      | none =>
        let warn := if retry ∧ !cut.follow then
          ({} : Effect).complain (inv.name ++ ": warning: --retry ignored; --retry is useful only when following")
          else {}
        let warn := if pid ∧ !cut.follow then
          warn.complain (inv.name ++ ": warning: PID ignored; --pid=PID is useful only when following")
          else warn
        let e := writeAll inv cut tailPart r.operands
        let e := { e with writes := warn.writes ++ e.writes }
        if cut.follow ∧ r.operands.any (· ≠ "-") then { e with sleep := none } else e

end Program

end Timebox
