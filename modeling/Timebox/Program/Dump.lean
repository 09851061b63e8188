import Timebox.Program.Options

/-! # Dumping bytes: `od`

`od` writes its input in blocks of sixteen bytes (`-w`), each line led by the offset of its
first byte, in octal by default (`-A d`, `-A x`, `-A n` for none). Each output type (`-t`)
writes its own line for the block:

* `o`, `x`, `d`, `u` with a size of 1, 2, 4 or 8 bytes (`C`, `S`, `I`, `L`), read in the
  machine's order (`--endian`): octal and hexadecimal are written with all their digits,
  decimals without padding;
* `f` with a size of 4, 8 or 16 bytes (`F`, `D`, `L`): the shortest text that reads back
  to the same value;
* `c` for characters, with C escapes and octal for the unprintable bytes, and `a` for the
  names of the control characters;
* a `z` after a type adds the printable bytes of the block between `>` and `<`.

Each field stands right-aligned in a column as wide as its type needs, and the columns of
all the types of a block share one width, so the lines line up. A block equal to the one
before is written as `*` unless `-v`. The last line is the offset after the input. The old
letters `-b`, `-c`, `-d`, `-o`, `-s`, `-x` and the others name types too, and without any
the type is `o2`. `-j` skips bytes first and `-N` reads at most so many; `-S n` writes
instead the strings of at least `n` printable bytes ended by a zero byte.
-/

namespace Timebox

namespace Program

namespace Dump

open Options (Spec)

/-- The options of `od`: the long names in the order the tool lists them, the letters
after. Each long name has its own key, so that a message can name the option as given. -/
def specs : List Spec :=
  [{ key := "--skip-bytes", long := some "skip-bytes", value := true },
   { key := "--address-radix", long := some "address-radix", value := true },
   { key := "--read-bytes", long := some "read-bytes", value := true },
   { key := "--format", long := some "format", value := true },
   { key := "v", long := some "output-duplicates" },
   { key := "--strings", long := some "strings", optional := true },
   { key := "traditional", long := some "traditional" },
   { key := "--width", long := some "width", optional := true },
   { key := "endian", long := some "endian", value := true },
   { key := "help", long := some "help" },
   { key := "version", long := some "version" },
   { key := "-A", letter := some 'A', value := true },
   { key := "-j", letter := some 'j', value := true },
   { key := "-N", letter := some 'N', value := true },
   { key := "-S", letter := some 'S', value := true },
   { key := "-t", letter := some 't', value := true },
   { key := "v", letter := some 'v' },
   { key := "-w", letter := some 'w', optional := true }] ++
  ("aBbcDdeFfHhIiLlOosXx".toList.map fun c => { key := String.singleton c, letter := some c })

/-- How the fields of a type are written. -/
inductive Kind where
  | signed | unsigned | octal | hex | float | named | char
deriving DecidableEq

/-- An output type: its kind, the bytes of one field, and whether the printable bytes
follow the block. -/
structure Field where
  kind : Kind
  size : Nat
  trailer : Bool := false

/-- The width of a field's column. -/
def Field.width (f : Field) : Nat :=
  let pick (xs : List Nat) : Nat :=
    match f.size with
    | 1 => xs.getD 0 0
    | 2 => xs.getD 1 0
    | 4 => xs.getD 2 0
    | _ => xs.getD 3 0
  match f.kind with
  | .signed => pick [4, 6, 11, 20]
  | .unsigned => pick [3, 5, 10, 20]
  | .octal => pick [3, 6, 11, 22]
  | .hex => pick [2, 4, 8, 16]
  | .float => if f.size = 4 then 15 else if f.size = 8 then 24 else 29
  | .named | .char => 3

/-- Reads a type string (`x1z`, `cx2`, `fD`, …) into its types, or the complaints. -/
def readTypes (name : String) (text : String) : Except String (List Field) :=
  go (text.length + 1) text.toList []
where
  size (cs : List Char) (integral : Bool) : Except String (Nat × List Char) :=
    let ds := cs.takeWhile Char.isDigit
    if !ds.isEmpty then
      let n := (String.ofList ds).toNat!
      let fine := if integral then n = 1 ∨ n = 2 ∨ n = 4 ∨ n = 8 else n = 4 ∨ n = 8 ∨ n = 16
      if fine then .ok (n, cs.drop ds.length)
      else .error (name ++ ": invalid type string " ++ Printf.quoteArg text ++ ";\nthis system doesn't provide a " ++
        toString n ++ "-byte " ++ (if integral then "integral" else "floating point") ++ " type")
    else
      match integral, cs with
      | true, 'C' :: r => .ok (1, r)
      | true, 'S' :: r => .ok (2, r)
      | true, 'I' :: r => .ok (4, r)
      | true, 'L' :: r => .ok (8, r)
      | false, 'F' :: r => .ok (4, r)
      | false, 'D' :: r => .ok (8, r)
      | false, 'L' :: r => .ok (16, r)
      | true, r => .ok (4, r)
      | false, r => .ok (8, r)
  go : Nat → List Char → List Field → Except String (List Field)
    | 0, _, acc => .ok acc
    | _, [], acc => .ok acc
    | fuel + 1, c :: rest, acc =>
      let finish (kind : Kind) (n : Nat) (rest : List Char) : Except String (List Field) :=
        match rest with
        | 'z' :: more => go fuel more (acc ++ [{ kind, size := n, trailer := true }])
        | more => go fuel more (acc ++ [{ kind, size := n }])
      let sized (kind : Kind) (integral : Bool) : Except String (List Field) :=
        (size rest integral).bind fun (n, more) => finish kind n more
      if c = 'a' then finish .named 1 rest
      else if c = 'c' then finish .char 1 rest
      else if c = 'd' then sized .signed true
      else if c = 'u' then sized .unsigned true
      else if c = 'o' then sized .octal true
      else if c = 'x' then sized .hex true
      else if c = 'f' then sized .float false
      else .error (name ++ ": invalid character '" ++ c.toString ++ "' in type string " ++ Printf.quoteArg text)

/-- The type string an old option letter stands for. -/
def letterType (c : String) : Option String :=
  [("a", "a"), ("b", "o1"), ("c", "c"), ("d", "u2"), ("e", "fD"), ("f", "fF"), ("h", "x2"),
   ("i", "dI"), ("l", "dL"), ("o", "o2"), ("s", "d2"), ("x", "x2"), ("B", "o2"), ("D", "u4"),
   ("F", "fD"), ("H", "x4"), ("I", "dL"), ("L", "dL"), ("O", "o4"), ("X", "x4")].lookup c

/-- The multiplier of a suffix letter of a byte count. -/
def suffixValue (c : Char) : Option Nat :=
  if c = 'b' then some 512
  else if c = 'k' ∨ c = 'K' then some 1024
  else if c = 'm' ∨ c = 'M' then some (Nat.pow 1024 2)
  else if c = 'G' then some (Nat.pow 1024 3)
  else if c = 'T' then some (Nat.pow 1024 4)
  else if c = 'P' then some (Nat.pow 1024 5)
  else if c = 'E' then some (Nat.pow 1024 6)
  else if c = 'Z' then some (Nat.pow 1024 7)
  else if c = 'Y' then some (Nat.pow 1024 8)
  else if c = 'R' then some (Nat.pow 1024 9)
  else if c = 'Q' then some (Nat.pow 1024 10)
  else none

/-- Why a byte count cannot be read. -/
inductive CountFault where
  | invalid | suffix | large

/-- A byte count as `-j`, `-N` and `-S` read it: blanks may lead, then a number in
hexadecimal after `0x`, octal after `0`, else decimal, then a suffix (`b`, `k`, `M`, …,
maybe followed by `B` for powers of 1000 or `iB`). -/
def readCount (s : String) : Except CountFault Nat :=
  let cs := (s.toList.dropWhile Printf.isCBlank)
  if cs.head? = some '-' then .error .invalid
  else
    let cs := match cs with
      | '+' :: r => r
      | r => r
    let (base, body) := match cs with
      | '0' :: x :: r => if (x = 'x' ∨ x = 'X') ∧ (r.head?.map Char.isHexDigit).getD false then (16, r) else (8, cs)
      | '0' :: _ => (8, cs)
      | _ => (10, cs)
    let digitOf (c : Char) : Option Nat :=
      if c.isDigit then some (c.toNat - 48)
      else if 'a' ≤ c ∧ c ≤ 'f' then some (c.toNat - 87)
      else if 'A' ≤ c ∧ c ≤ 'F' then some (c.toNat - 55)
      else none
    let ds := body.takeWhile fun c => match digitOf c with
      | some d => d < base
      | none => false
    let rest := body.drop ds.length
    let n := ds.foldl (fun v c => v * base + (digitOf c).getD 0) 0
    let start : Except CountFault Nat :=
      if !ds.isEmpty then .ok n
      else match rest with
        | c :: _ => if (suffixValue c).isSome then .ok 1 else .error .invalid
        | [] => .error .invalid
    start.bind fun n =>
      let total : Except CountFault Nat :=
        match rest with
        | [] => .ok n
        | c :: more =>
          match suffixValue c with
          | none => .error .suffix
          | some k =>
            let power := if c = 'b' then 1 else (suffixValue c).getD 1
            let thousand := (List.range 11).find? (fun i => Nat.pow 1024 i = power)
            if more = [] ∨ more = ['i', 'B'] then .ok (n * k)
            else if more = ['B'] ∨ more = ['D'] then
              .ok (n * (if c = 'b' then 512 else Nat.pow 1000 (thousand.getD 0)))
            else .error .suffix
      total.bind fun v => if v ≥ Nat.pow 2 64 then .error .large else .ok v

/-- The message of a byte count that cannot be read, naming the option as given. -/
def countMessage (tool option arg : String) : CountFault → String
  | .invalid => tool ++ ": invalid " ++ option ++ " argument " ++ Printf.quoteArg arg
  | .suffix => tool ++ ": invalid suffix in " ++ option ++ " argument " ++ Printf.quoteArg arg
  | .large => tool ++ ": " ++ option ++ " argument " ++ Printf.quoteArg arg ++ " too large"

/-- An offset in the old form `[+]offset[b]`: octal, or hexadecimal after `0x`; `b`
multiplies by 512 and `B` by 1024. -/
def oldOffset? (s : String) : Option Nat :=
  let cs := match s.toList with
    | '+' :: r => r
    | r => r
  if s.isEmpty then none
  else
    let (cs, scale) := match cs.reverse with
      | 'b' :: r => (r.reverse, 512)
      | 'B' :: r => (r.reverse, 1024)
      | _ => (cs, 1)
    -- a point asks for decimal, but the point itself is then refused
    let (cs, base) :=
      if cs.contains '.' then ([], 10)
      else match cs with
        | '0' :: x :: r => if x = 'x' ∨ x = 'X' then (r, 16) else (cs, 8)
        | _ => (cs, 8)
    let digitOf (c : Char) : Option Nat :=
      if c.isDigit then some (c.toNat - 48)
      else if 'a' ≤ c ∧ c ≤ 'f' then some (c.toNat - 87)
      else if 'A' ≤ c ∧ c ≤ 'F' then some (c.toNat - 55)
      else none
    if cs.isEmpty ∨ !cs.all (fun c => match digitOf c with
        | some d => d < base
        | none => false) then none
    else some (scale * cs.foldl (fun v c => v * base + (digitOf c).getD 0) 0)

/-! ### Writing fields -/

/-- The names `a` gives the bytes up to the space. -/
def controlNames : List String :=
  ["nul", "soh", "stx", "etx", "eot", "enq", "ack", "bel", "bs", "ht", "nl", "vt", "ff", "cr",
   "so", "si", "dle", "dc1", "dc2", "dc3", "dc4", "nak", "syn", "etb", "can", "em", "sub", "esc",
   "fs", "gs", "rs", "us", "sp"]

/-- A byte as `c` writes it. -/
def charText (b : Nat) : String :=
  if b = 0 then "\\0" else if b = 7 then "\\a" else if b = 8 then "\\b" else if b = 12 then "\\f"
  else if b = 10 then "\\n" else if b = 13 then "\\r" else if b = 9 then "\\t" else if b = 11 then "\\v"
  else if 32 ≤ b ∧ b < 127 then String.singleton (Char.ofNat b)
  else
    let o := Nat.toDigits 8 b
    String.ofList (List.replicate (3 - o.length) '0' ++ o)

/-- A byte as `a` writes it: the name of its low seven bits. -/
def namedText (b : Nat) : String :=
  let c := b % 128
  if c = 127 then "del" else if c ≤ 32 then controlNames.getD c "" else String.singleton (Char.ofNat c)

/-- A binary floating-point format: the bits of its significand, the exponent of its
smallest step, and the significant digits its shortest text starts from and ends at. -/
structure Binary where
  bits : Nat
  least : Int
  start : Nat
  bound : Nat

/-- The three formats `f` reads. -/
def single : Binary := { bits := 24, least := -149, start := 6, bound := 9 }
def double : Binary := { bits := 53, least := -1074, start := 15, bound := 17 }
def extended : Binary := { bits := 64, least := -16445, start := 18, bound := 21 }

/-- The value nearest to `num / den` in a format, ties to the even significand. -/
def Binary.nearest (f : Binary) (num den : Nat) : Nat × Int :=
  if num = 0 then (0, 0)
  else
    let l := Double.log2Floor num den
    let q : Int := max (l - ((f.bits : Int) - 1)) f.least
    let m := if q ≥ 0 then Double.roundHalfEven num (den * Nat.pow 2 q.toNat)
      else Double.roundHalfEven (num * Nat.pow 2 (-q).toNat) den
    if m = Nat.pow 2 f.bits then (Nat.pow 2 (f.bits - 1), q + 1) else (m, q)

/-- Whether `a · 2^p` and `b · 2^r` are the same value. -/
def sameValue (a : Nat) (p : Int) (b : Nat) (r : Int) : Bool :=
  let low := min p r
  a * Nat.pow 2 (p - low).toNat = b * Nat.pow 2 (r - low).toNat

/-- The value of decimal digits. -/
def digitsValue (d : Digits) : Nat × Nat :=
  let n := d.digits.foldl (fun v c => v * 10 + (c.toNat - 48)) 0
  let e : Int := d.point - d.digits.length
  if e ≥ 0 then (n * Nat.pow 10 e.toNat, 1) else (n, Nat.pow 10 (-e).toNat)

/-- The shortest `%g` text of `m · 2^q` that reads back to it in a format, starting from
the format's usual digits (from one digit below the smallest normal value). -/
def shortest (f : Binary) (m : Nat) (q : Int) : String :=
  let first := if m * Nat.pow 2 (q - f.least).toNat < Nat.pow 2 (f.bits - 1) then 1 else f.start
  go (f.bound + 1) first
where
  go : Nat → Nat → String
    | 0, p => Printf.generalText {} m q p false
    | fuel + 1, p =>
      let d := Double.significantDigits m q p
      let (num, den) := digitsValue d
      let (m2, q2) := f.nearest num den
      if p ≥ f.bound ∨ sameValue m q m2 q2 then Printf.generalText {} m q p false else go fuel (p + 1)

/-- The number little-endian or big-endian bytes stand for. -/
def numberOf (big : Bool) (bs : List Nat) : Nat :=
  (if big then bs else bs.reverse).foldl (fun v b => v * 256 + b) 0

/-- The text of a float field. -/
def floatText (size : Nat) (v : Nat) : String :=
  let signed (neg : Bool) (s : String) : String := if neg then "-" ++ s else s
  if size = 4 then
    let neg := v / Nat.pow 2 31 % 2 = 1
    let e : Nat := v / Nat.pow 2 23 % 256
    let frac := v % Nat.pow 2 23
    if e = 255 then signed neg (if frac = 0 then "inf" else "nan")
    else if e = 0 then (if frac = 0 then signed neg "0" else signed neg (shortest single frac (-149)))
    else signed neg (shortest single (frac + Nat.pow 2 23) ((e : Int) - 150))
  else if size = 8 then
    let neg := v / Nat.pow 2 63 % 2 = 1
    let e : Nat := v / Nat.pow 2 52 % 2048
    let frac := v % Nat.pow 2 52
    if e = 2047 then signed neg (if frac = 0 then "inf" else "nan")
    else if e = 0 then (if frac = 0 then signed neg "0" else signed neg (shortest double frac (-1074)))
    else signed neg (shortest double (frac + Nat.pow 2 52) ((e : Int) - 1075))
  else
    let mant := v % Nat.pow 2 64
    let neg := v / Nat.pow 2 79 % 2 = 1
    let e : Nat := v / Nat.pow 2 64 % 32768
    if e = 32767 then signed neg (if mant = Nat.pow 2 63 then "inf" else "nan")
    else if e = 0 then (if mant = 0 then signed neg "0" else signed neg (shortest extended mant (-16445)))
    else if mant < Nat.pow 2 63 then signed neg "nan"
    else signed neg (shortest extended mant ((e : Int) - 16446))

/-- The text of one field of a type. -/
def fieldText (big : Bool) (f : Field) (bs : List Nat) : String :=
  let v := numberOf big bs
  let zeros (s : String) : String := String.ofList (List.replicate (f.width - s.length) '0') ++ s
  match f.kind with
  | .octal => zeros (String.ofList (Nat.toDigits 8 v))
  | .hex => zeros (String.ofList (Nat.toDigits 16 v))
  | .unsigned => toString v
  | .signed => toString (if v ≥ Nat.pow 2 (8 * f.size - 1) then (v : Int) - Int.pow 2 (8 * f.size) else v)
  | .float => floatText f.size v
  | .char => charText (bs.headD 0)
  | .named => namedText (bs.headD 0)

/-- Text right-aligned in a width. -/
def rightAlign (w : Nat) (s : String) : String := String.ofList (List.replicate (w - s.length) ' ') ++ s

/-- The fields of a block for one type: `fields` columns of which the last `blank` are left
out, the `pad` spaces shared among the columns as the tool shares them. -/
def fieldsLine (big : Bool) (f : Field) (perBlock pad : Nat) (block : List Nat) (blank : Nat) : String :=
  let fields := perBlock / f.size
  let shown := fields - blank
  let cells := (List.range shown).map fun k => block.drop (k * f.size) |>.take f.size
  (cells.zip (List.range shown)).foldl (fun (acc : String × Nat) (cell, k) =>
    let i := fields - k
    let nextPad := pad * (i - 1) / fields
    let w := acc.2 - nextPad + f.width
    (acc.1 ++ rightAlign w (fieldText big f cell), nextPad)) ("", pad) |>.1

/-- An offset in a radix, padded with zeros. -/
def offsetText (radix : Nat) (n : Nat) : String :=
  let ds := Nat.toDigits radix n
  let w := if radix = 16 then 6 else 7
  String.ofList (List.replicate (w - ds.length) '0' ++ ds)

/-- What a dump is asked to do. -/
structure Plan where
  types : List Field
  /-- The radix of the offsets; none for no offsets. -/
  radix : Option Nat := some 8
  perBlock : Nat := 16
  big : Bool := false
  repeats : Bool := false

/-- The lines of a block of which `n` bytes were read, the rest being zeros: a line per type,
the first led by the offset, each showing the values that start within the bytes read. -/
def Plan.block (p : Plan) (offset : Nat) (pads : List Nat) (block : List Nat) (n : Nat) : String :=
  let lead := match p.radix with
    | some r => offsetText r offset
    | none => ""
  let blankLead := String.ofList (List.replicate lead.length ' ')
  String.join <| ((p.types.zip pads).zip (List.range p.types.length)).map fun ((f, pad), i) =>
    let blank := (p.perBlock - n) / f.size
    let body := fieldsLine p.big f p.perBlock pad block blank
    let trailer :=
      if f.trailer then
        let fields := p.perBlock / f.size
        rightAlign (blank * f.width + pad * blank / fields) "" ++ "  >" ++
          String.ofList ((block.take n).map fun b => if 32 ≤ b ∧ b < 127 then Char.ofNat b else '.') ++ "<"
      else ""
    (if i = 0 then lead else blankLead) ++ body ++ trailer ++ "\n"

/-- The least common multiple of the sizes of the types. -/
def lcmOf (types : List Field) : Nat := types.foldl (fun l f => Nat.lcm l f.size) 1

/-- The dump of bytes from an offset: the blocks, `*` for repeated ones, then the offset
after them. -/
def Plan.dump (p : Plan) (start : Nat) (bs : List Nat) : String :=
  let widest := p.types.foldl (fun w f => max w ((f.width + 1) * (p.perBlock / f.size))) 0
  let pads := p.types.map fun f => widest - f.width * (p.perBlock / f.size)
  let l := lcmOf p.types
  let blocks := go bs.length bs
  let (out, _, _) := (blocks.zip (List.range blocks.length)).foldl
    (fun (acc : String × Option (List Nat) × Bool) (blk, i) =>
      let (out, prev, starred) := acc
      let n := blk.length
      if !p.repeats ∧ prev = some blk ∧ n = p.perBlock then
        (if starred then acc else (out ++ "*\n", prev, true))
      else
        let width := l * ((n + l - 1) / l)
        let padded := blk ++ List.replicate (width - n) 0
        (out ++ p.block (start + i * p.perBlock) pads padded n, some blk, false)) ("", none, false)
  let last := match p.radix with
    | some r => offsetText r (start + bs.length) ++ "\n"
    | none => ""
  out ++ last
where
  go : Nat → List Nat → List (List Nat)
    | 0, _ => []
    | _, [] => []
    | fuel + 1, rest => rest.take p.perBlock :: go fuel (rest.drop p.perBlock)

/-- The strings of at least `least` printable bytes ended by a zero byte, each on a line
led by its offset. -/
def strings (radix : Option Nat) (least : Nat) (start : Nat) (bs : List Nat) : String :=
  let printable (b : Nat) : Bool := 32 ≤ b ∧ b < 127
  let (out, _, _) := (bs.zip (List.range bs.length)).foldl
    (fun (acc : String × List Nat × Nat) (b, i) =>
      let (out, run, from_) := acc
      if b = 0 then
        if run.length ≥ least then
          let lead := match radix with
            | some r => offsetText r (start + from_) ++ " "
            | none => ""
          (out ++ lead ++ String.ofList (run.reverse.map Char.ofNat) ++ "\n", [], i + 1)
        else (out, [], i + 1)
      else if printable b then (out, b :: run, if run.isEmpty then i else from_)
      else (out, [], i + 1)) ("", [], 0)
  out

end Dump

open Dump in
/-- `od`. -/
def od (inv : Invocation) : Effect :=
  match Options.scan inv.name 1 specs inv.args with
  | .error e => e
  | .ok (settings, ops) =>
    let fail (msg : String) : Effect := { ({} : Effect).complain msg with code := 1 }
    -- the settings in order: types, complaints, and the other choices
    let step (acc : Except Effect (Plan × List String × Option Nat × Option Nat × Option Nat × Option Nat × Bool))
        (s : Options.Setting) :=
      acc.bind fun (plan, errs, skip, limit, width, least, modern) =>
        let (key, v) := s
        let value := v.getD ""
        -- a fatal complaint comes after the type strings refused before it
        let stop (lines : List String) : Effect := { ((errs ++ lines).foldl Effect.complain {}) with code := 1 }
        let count (option : String) : Except Effect Nat :=
          match readCount value with
          | .ok n => .ok n
          | .error f => .error (stop [countMessage inv.name option value f])
        let addTypes (text : String) :=
          match readTypes inv.name text with
          | .ok ts => .ok ({ plan with types := plan.types ++ ts }, errs, skip, limit, width, least, modern)
          | .error m => .ok (plan, errs ++ [m], skip, limit, width, least, modern)
        if key = "-A" ∨ key = "--address-radix" then
          match value.toList.head? with
          | some 'd' => .ok ({ plan with radix := some 10 }, errs, skip, limit, width, least, true)
          | some 'o' => .ok ({ plan with radix := some 8 }, errs, skip, limit, width, least, true)
          | some 'x' => .ok ({ plan with radix := some 16 }, errs, skip, limit, width, least, true)
          | some 'n' => .ok ({ plan with radix := none }, errs, skip, limit, width, least, true)
          | c => .error (stop [inv.name ++ ": invalid output address radix '" ++ (c.map Char.toString).getD "" ++
              "'; it must be one character from [doxn]"])
        else if key = "-j" ∨ key = "--skip-bytes" then
          (count key).map fun n => (plan, errs, some n, limit, width, least, true)
        else if key = "-N" ∨ key = "--read-bytes" then
          (count key).map fun n => (plan, errs, skip, some n, width, least, true)
        else if key = "-S" ∨ key = "--strings" then
          if v.isNone then .ok (plan, errs, skip, limit, width, some 3, true)
          else (count key).map fun n => (plan, errs, skip, limit, width, some n, true)
        else if key = "-t" ∨ key = "--format" then
          (addTypes value).map fun (p, e, s, l, w, st, _) => (p, e, s, l, w, st, true)
        else if key = "v" then .ok ({ plan with repeats := true }, errs, skip, limit, width, least, true)
        else if key = "-w" ∨ key = "--width" then
          if v.isNone then .ok (plan, errs, skip, limit, some 32, least, true)
          else
            let cs := value.toList.dropWhile Printf.isCBlank
            if !cs.isEmpty ∧ cs.all Char.isDigit ∧ (String.ofList cs).toNat! > 0 then
              .ok (plan, errs, skip, limit, some (String.ofList cs).toNat!, least, true)
            else .error (stop [inv.name ++ ": invalid " ++ key ++ " argument " ++ Printf.quoteArg value])
        else if key = "endian" then
          let found := ["little", "big"].filter (·.startsWith value)
          if value ≠ "" ∧ found.length = 1 then
            .ok ({ plan with big := found = ["big"] }, errs, skip, limit, width, least, true)
          else
            .error (stop [inv.name ++ ": " ++ (if found.isEmpty then "invalid" else "ambiguous") ++
                " argument " ++ Printf.quoteArg value ++ " for '--endian'", "Valid arguments are:", "  - 'little'",
                "  - 'big'", tryHelp inv.name])
        else
          match letterType key with
          | some t => addTypes t
          | none => .ok (plan, errs, skip, limit, width, least, modern)
    match settings.foldl step (.ok ({ types := [] }, [], none, none, none, none, false)) with
    | .error e => e
    | .ok (plan, errs, skip, limit, width, least, modern) =>
      if !errs.isEmpty then { (errs.foldl Effect.complain {}) with code := 1 }
      else if least.isSome ∧ !plan.types.isEmpty then fail (inv.name ++ ": no type may be specified when dumping strings")
      else
        -- the old form: a last operand that is an offset
        let (ops, skip) :=
          if modern then (ops, skip)
          else match ops with
            | [a] => if a.startsWith "+" then
                (match oldOffset? a with
                  | some o => ([], some o)
                  | none => (ops, skip)) else (ops, skip)
            | [f, a] => if a.startsWith "+" ∨ (a.toList.head?.map Char.isDigit).getD false then
                (match oldOffset? a with
                  | some o => ([f], some o)
                  | none => (ops, skip)) else (ops, skip)
            | _ => (ops, skip)
        let plan := if plan.types.isEmpty then { plan with types := [{ kind := .octal, size := 2 }] } else plan
        let l := lcmOf plan.types
        let (warn, perBlock) : Effect × Nat := match width with
          | some w =>
            if w % l = 0 then ({}, w)
            else (({} : Effect).complain (inv.name ++ ": warning: invalid width " ++ toString w ++ "; using " ++
              toString l ++ " instead"), l)
          | none => ({}, if l < 16 then l * (16 / l) else l)
        let plan := { plan with perBlock }
        let ops := if ops.isEmpty then ["-"] else ops
        let (e, input, opened, _) := ops.foldl (fun (acc : Effect × List UInt8 × Bool × Bool) op =>
          let (e, input, opened, used) := acc
          let isInput := op = "-" ∨ (inv.cwd.resolve op).stream? = some 0
          let read := if isInput ∧ used then .ok [] else readOperand inv op
          let used := used || isInput
          match read with
          | .ok bs => (e, input ++ bs, true, used)
          | .error .isDirectory =>
            ({ e.complain (inv.name ++ ": " ++ Text.Quoting.shell op ++ ": Is a directory") with code := 1 },
              input, true, used)
          | .error err =>
            ({ e.complain (inv.name ++ ": " ++ Text.Quoting.shell op ++ ": " ++ errnoText err) with code := 1 },
              input, opened, used)) (warn, [], false, false)
        if !opened then e
        else
          let start := skip.getD 0
          if start > input.length then
            { e.complain (inv.name ++ ": cannot skip past end of combined input") with code := 1 }
          else
            let bs := (input.drop start).map (·.toNat)
            let bs := match limit with
              | some n => bs.take n
              | none => bs
            match least with
            | some k => e.say (strings plan.radix k start bs)
            | none => e.say (plan.dump start bs)

end Program

end Timebox
