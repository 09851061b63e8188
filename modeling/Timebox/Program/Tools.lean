import Timebox.Process.Basic
import Timebox.Program.Printf
import Timebox.Text.Space

/-! # The small tools of the base system

Each tool is a function from an `Invocation` (its name as called, its arguments, its
environment, its standard input and the files it sees) to an `Effect`: what it writes to
its standard output (descriptor 1) and standard error (2), in order, how long it sleeps,
and its exit code. They behave as the core tools do in the C locale:

* `echo` writes its arguments with a space between and a newline after; `-n` drops the
  newline, `-e` reads backslash escapes;
* `printf` writes a format (`Printf.run`);
* `head` and `tail` write the first or last lines or bytes;
* `tr` translates, deletes or squeezes bytes of sets;
* `wc` counts lines, words and bytes;
* `sleep` sleeps the sum of its intervals;
* `printenv`, `true` and `false`.

A message names the tool as it was called: `/usr/bin/cat: x: No such file or directory`.
-/

namespace Timebox

namespace Program

open Process
open Printf (quoteArg)

/-- What a tool is given. -/
structure Invocation where
  name : String
  args : List String
  env : Env := []
  stdin : List UInt8 := []
  /-- The standard input is a file of the disk (not a pipe or a terminal). -/
  stdinFile : Bool := false
  disk : Disk := {}
  cwd : Place := .tree []

/-- What a tool does: its writes in order, how long it sleeps (none: for ever), its exit
code, and the files after it when it wrote some. -/
structure Effect where
  writes : List (Nat × List UInt8) := []
  sleep : Option Int := some 0
  code : Nat := 0
  disk : Option Disk := none
deriving Inhabited

namespace Effect

/-- The effect with bytes written to a descriptor. -/
def put (e : Effect) (fd : Nat) (bs : List UInt8) : Effect :=
  if bs.isEmpty then e else { e with writes := e.writes ++ [(fd, bs)] }

/-- The effect with text written to the standard output. -/
def say (e : Effect) (s : String) : Effect := e.put 1 (Raw.toBytes s)

/-- The effect with a line of error written. -/
def complain (e : Effect) (s : String) : Effect := e.put 2 (Raw.toBytes (s ++ "\n"))

end Effect

/-- The text of bytes written as lines. -/
def bytesOf (s : String) : List UInt8 := Raw.toBytes s

/-- The usage hint after a wrong call. -/
def tryHelp (name : String) : String := "Try '" ++ name ++ " --help' for more information."

/-- A wrong call: the message, the usage hint, exit code 1. -/
def usageError (name msg : String) : Effect :=
  ({} : Effect).complain (name ++ ": " ++ msg) |>.complain (tryHelp name) |> fun e => { e with code := 1 }

/-- The message of a file that cannot be read. -/
def errnoText : Errno → String
  | .noEntry => "No such file or directory"
  | .isDirectory => "Is a directory"
  | .notDirectory => "Not a directory"
  | .permission => "Permission denied"
  | .exists => "File exists"
  | .notEmpty => "Directory not empty"

/-- Reads an operand: `-` and the device of the standard input are the standard input,
else a file from the current directory. -/
def readOperand (inv : Invocation) (path : String) : Except Errno (List UInt8) :=
  if path = "-" ∨ (inv.cwd.resolve path).stream? = some 0 then .ok inv.stdin
  else inv.disk.read (inv.cwd.resolve path)

/-! ### echo -/

/-- The bytes of an argument with the escapes of `echo -e` read, and whether a `\c` ended
the output. -/
def echoEscapes (bs : List UInt8) : List UInt8 × Bool :=
  go bs.length bs []
where
  go : Nat → List UInt8 → List UInt8 → List UInt8 × Bool
    | 0, _, acc => (acc, false)
    | _, [], acc => (acc, false)
    | fuel + 1, b :: rest, acc =>
      if b = 0x5C then
        match rest with
        | [] => (acc ++ [b], false)
        | c :: more =>
          if c = 0x63 then (acc, true)
          else if c = 0x78 then
            let (v, k, r) := Printf.hexRun 2 more 0 0
            if k = 0 then go fuel more (acc ++ [0x5C, c]) else go fuel r (acc ++ [Printf.byte v])
          else if c = 0x30 then
            let (v, r) := Printf.octalRun 3 more 0
            go fuel r (acc ++ [Printf.byte (v % 256)])
          else if Printf.isOctal c then
            let (v, r) := Printf.octalRun 3 rest 0
            go fuel r (acc ++ [Printf.byte (v % 256)])
          else
            match Printf.letterEscape true c with
            | some e => go fuel more (acc ++ [e])
            | none => go fuel more (acc ++ [0x5C, c])
      else go fuel rest (acc ++ [b])

/-- Whether an argument is a cluster of `echo` options: `-` and only `n`, `e`, `E`. -/
def isEchoOptions (a : String) : Bool :=
  a.length > 1 && a.startsWith "-" && (a.toList.drop 1).all fun c => c = 'n' || c = 'e' || c = 'E'

/-- The options of `echo` at the front: whether a newline ends the output, whether escapes
are read, and the arguments after them. -/
def echoOptions : List String → Bool → Bool → Bool × Bool × List String
  | [], nl, esc => (nl, esc, [])
  | a :: rest, nl, esc =>
    if isEchoOptions a then
      let (nl, esc) := (a.toList.drop 1).foldl (fun (nl, esc) c =>
        if c = 'n' then (false, esc) else if c = 'e' then (nl, true) else (nl, false)) (nl, esc)
      echoOptions rest nl esc
    else (nl, esc, a :: rest)

/-- The help of `echo`, naming it as it was called. -/
def echoHelp (name : String) : String :=
  "Usage: " ++ name ++ " [SHORT-OPTION]... [STRING]...\n  or:  " ++ name ++ " LONG-OPTION\n" ++
  "Echo the STRING(s) to standard output.\n\n" ++
  "  -n             do not output the trailing newline\n" ++
  "  -e             enable interpretation of backslash escapes\n" ++
  "  -E             disable interpretation of backslash escapes (default)\n" ++
  "      --help        display this help and exit\n" ++
  "      --version     output version information and exit\n\n" ++
  "If -e is in effect, the following sequences are recognized:\n\n" ++
  "  \\\\      backslash\n  \\a      alert (BEL)\n  \\b      backspace\n" ++
  "  \\c      produce no further output\n  \\e      escape\n  \\f      form feed\n" ++
  "  \\n      new line\n  \\r      carriage return\n  \\t      horizontal tab\n" ++
  "  \\v      vertical tab\n  \\0NNN   byte with octal value NNN (1 to 3 digits)\n" ++
  "  \\xHH    byte with hexadecimal value HH (1 to 2 digits)\n\n" ++
  "NOTE: your shell may have its own version of echo, which usually supersedes\n" ++
  "the version described here.  Please refer to your shell's documentation\n" ++
  "for details about the options it supports.\n\n" ++
  "NOTE: printf(1) is a preferred alternative,\n" ++
  "which does not have issues outputting option-like strings.\n\n" ++
  "GNU coreutils online help: <https://www.gnu.org/software/coreutils/>\n" ++
  "Report any translation bugs to <https://translationproject.org/team/>\n" ++
  "Full documentation <https://www.gnu.org/software/coreutils/echo>\n" ++
  "or available locally via: info '(coreutils) echo invocation'\n"

/-- The `echo` of the core tools. Its one argument `--help` asks for its help, unless
`POSIXLY_CORRECT` is set. -/
def echo (inv : Invocation) : Effect :=
  let (nl, esc, args) := echoOptions inv.args true false
  if inv.args = ["--help"] ∧ (inv.env.lookup "POSIXLY_CORRECT").isNone then
    ({} : Effect).say (echoHelp inv.name)
  else if !esc then ({} : Effect).say (" ".intercalate args ++ if nl then "\n" else "")
  else
    let (pieces, stopped) := args.foldl (fun (acc : List (List UInt8) × Bool) a =>
      if acc.2 then acc
      else
        let (bs, stop) := echoEscapes (bytesOf a)
        (acc.1 ++ [bs], stop)) ([], false)
    let body := (pieces.intersperse [0x20]).flatten
    ({} : Effect).put 1 (if stopped then body else body ++ (if nl then [10] else []))

/-! ### printf -/

/-- The `printf` of the core tools. -/
def printf (inv : Invocation) : Effect :=
  let args := match inv.args with
    | "--" :: rest => rest
    | a => a
  match args with
  | [] => usageError inv.name "missing operand"
  | fmt :: rest =>
    let r := Printf.run Printf.coreRules fmt rest
    let e := ({} : Effect).put 1 r.out
    let e := r.warnings.foldl (fun e w => e.complain (inv.name ++ ": " ++ w)) e
    let e := match r.fatal with
      | some f => e.complain (inv.name ++ ": " ++ f)
      | none => e
    { e with code := if r.failed then 1 else 0 }

/-! ### Options -/

/-- Arguments split into option letters (from clusters such as `-ns`) and operands; after
`--`, everything is an operand; `-` alone is an operand. Long options are kept whole. -/
def splitOptions (args : List String) : List String × List String :=
  go args.length args [] []
where
  go : Nat → List String → List String → List String → List String × List String
    | 0, _, opts, ops => (opts, ops)
    | _, [], opts, ops => (opts, ops)
    | fuel + 1, a :: rest, opts, ops =>
      if a = "--" then (opts, ops ++ rest)
      else if a.startsWith "--" then go fuel rest (opts ++ [a]) ops
      else if a.startsWith "-" ∧ a.length > 1 then
        go fuel rest (opts ++ (a.toList.drop 1).map String.singleton) ops
      else go fuel rest opts (ops ++ [a])

/-- The first option not among the allowed ones, as the error of a wrong call. -/
def badOption (name : String) (allowed : List String) (opts : List String) : Option Effect :=
  match opts.find? (fun o => !allowed.contains o) with
  | some o =>
    if o.startsWith "--" then some (usageError name ("unrecognized option '" ++ o ++ "'"))
    else some (usageError name ("invalid option -- '" ++ o ++ "'"))
  | none => none

/-! ### cat, head, tail -/

/-- Lines of bytes, each with its newline when it has one. -/
def linesOf (bs : List UInt8) : List (List UInt8) :=
  go bs.length bs []
where
  go : Nat → List UInt8 → List UInt8 → List (List UInt8)
    | 0, _, cur => if cur.isEmpty then [] else [cur]
    | _, [], cur => if cur.isEmpty then [] else [cur]
    | fuel + 1, b :: rest, cur =>
      if b = 10 then (cur ++ [b]) :: go fuel rest [] else go fuel rest (cur ++ [b])

/-- The words of bytes: the runs of bytes between separators. -/
def wordsOf (sep : UInt8 → Bool) (bs : List UInt8) : List (List UInt8) :=
  go bs.length (bs.dropWhile sep)
where
  go : Nat → List UInt8 → List (List UInt8)
    | 0, _ => []
    | _, [] => []
    | fuel + 1, rest =>
      let w := rest.takeWhile (!sep ·)
      w :: go fuel ((rest.drop w.length).dropWhile sep)

/-- The power of the multiplier a size suffix letter stands for, with 512 for `b`. -/
def suffixPower (c : Char) : Option Nat :=
  if c = 'k' ∨ c = 'K' then some 1
  else if c = 'm' ∨ c = 'M' then some 2
  else if c = 'G' then some 3
  else if c = 'T' then some 4
  else if c = 'P' then some 5
  else if c = 'E' then some 6
  else if c = 'Z' then some 7
  else if c = 'Y' then some 8
  else if c = 'R' then some 9
  else if c = 'Q' then some 10
  else none

/-- A size as the core tools read one: blanks and a `+` may lead, then digits (one when
there are none but a suffix follows) and a suffix: `b` for 512, a letter of `suffixPower`
for that power of 1024, or of 1000 when `B` follows it (`iB` keeps 1024). None when it is
not one. -/
def sizeValue? (s : String) : Option Nat :=
  let cs := match s.toList.dropWhile Printf.isCBlank with
    | '+' :: r => r
    | r => r
  let ds := cs.takeWhile Char.isDigit
  let rest := cs.drop ds.length
  let n := if ds.isEmpty then 1 else (String.ofList ds).toNat!
  if ds.isEmpty ∧ rest.isEmpty then none
  else
    match rest with
    | [] => some n
    | ['b'] => some (n * 512)
    | c :: more =>
      match suffixPower c with
      | none => none
      | some k =>
        if more = [] ∨ more = ['i', 'B'] then some (n * Nat.pow 1024 k)
        else if more = ['B'] ∨ more = ['D'] then some (n * Nat.pow 1000 k)
        else none

/-- A number right-aligned in a width. -/
def alignRight (w : Nat) (n : Nat) : String :=
  let s := toString n
  String.ofList (List.replicate (w - s.length) ' ') ++ s

/-! ### sleep -/

/-- The nanoseconds of an interval of `sleep`: a number that is not negative, with an
optional unit `s`, `m`, `h` or `d`, rounded up to a nanosecond; none when the text is no
interval, and `some none` for an infinite one. -/
def interval? (s : String) : Option (Option Int) :=
  let (front, rest) := Printf.floatFront s.toList
  let scale : Option Nat := match rest with
    | [] => some 1
    | ['s'] => some 1
    | ['m'] => some 60
    | ['h'] => some 3600
    | ['d'] => some 86400
    | _ => none
  match scale with
  | none => none
  | some scale =>
    let body := match front with
      | '-' :: r => r
      | r => r
    let neg := front.head? = some '-'
    if body = "inf".toList then (if neg then none else some none)
    else if body = "nan".toList ∨ body.isEmpty then none
    else
      let body := if body.getLast? = some '.' then body.dropLast else body
      match Double.readLiteral body with
      | none => none
      | some lit =>
        let (_, numer, denom) := lit.toRat
        if neg ∧ numer > 0 then none
        else some (some ((numer * scale * 1000000000 + denom - 1) / denom : Nat))

/-- The `sleep` of the core tools. -/
def sleep (inv : Invocation) : Effect :=
  if inv.args.isEmpty then usageError inv.name "missing operand"
  else
    match inv.args.find? (fun a => (interval? a).isNone) with
    | some bad => usageError inv.name ("invalid time interval " ++ quoteArg bad)
    | none =>
      let total := inv.args.foldl (fun (acc : Option Int) a =>
        match acc, interval? a with
        | some t, some (some n) => some (t + n)
        | _, _ => none) (some 0)
      { sleep := total }

/-! ### Small ones -/

/-- The last part of a path, trailing slashes dropped, and a suffix taken off it. -/
def baseNameOf (path suffix : String) : String :=
  let cs := (path.toList.reverse.dropWhile (· = '/')).reverse
  if cs.isEmpty then (if path.isEmpty then "" else "/")
  else
    let b := String.ofList (cs.reverse.takeWhile (· ≠ '/')).reverse
    if suffix ≠ "" ∧ b ≠ suffix ∧ b.endsWith suffix then String.ofList (b.toList.take (b.length - suffix.length)) else b

/-- The directory part of a path, as `dirname` writes it. -/
def dirNameOf (path : String) : String :=
  let cs := (path.toList.reverse.dropWhile (· = '/')).reverse
  if cs.isEmpty then (if path.startsWith "/" then "/" else ".")
  else
    let dir := (cs.reverse.dropWhile (· ≠ '/')).reverse
    if dir.isEmpty then "."
    else
      let d := (dir.reverse.dropWhile (· = '/')).reverse
      if d.isEmpty then "/" else String.ofList d

/-- The `printenv` of the core tools. -/
def printenv (inv : Invocation) : Effect :=
  if inv.args.isEmpty then inv.env.foldl (fun e (k, v) => e.say (k ++ "=" ++ v ++ "\n")) {}
  else
    inv.args.foldl (fun e k =>
      match inv.env.lookup k with
      | some v => e.say (v ++ "\n")
      | none => { e with code := 1 }) {}

end Program

end Timebox
