import Timebox.Process.Basic
import Timebox.Shell.Script
import Timebox.Text.Raw
import Timebox.Shell.BashArith

/-! # The state of a running shell

A `Proc` is everything a running shell holds: its variables (which of them are exported),
its positional parameters and name, the status of the last command, its options and
functions, its working directory, where each of its descriptors writes (`Sink`), the input
left to read, the files it sees, and what it has done so far: the time spent and the
chunks of output written. A command ends with a `Flow`, which says how the commands after
it go on: in order, or leaving the shell, a loop or a function.

Writing goes through the descriptor's sink: the standard output or error of the shell's
process, the capture of a command substitution or pipe, a file, or nowhere. A message of
the shell itself reads `name: line: text`, as in `sh: 1: x: not found`.
-/

namespace Timebox

namespace Shell

open Process

/-- Where a descriptor writes. -/
inductive Sink where
  | stdout
  | stderr
  /-- The pipe to the shell itself: a command substitution or the next command of a
  pipeline reads it. -/
  | capture
  | file (p : Place)
  | null
deriving DecidableEq, Repr, Inhabited

/-- Whether a sink is one of the outputs of the shell's own process. -/
def Sink.isOutput : Sink → Bool
  | .stdout | .stderr => true
  | _ => false

/-- How the commands after a command go on. -/
inductive Flow where
  /-- In order. -/
  | next
  /-- The shell ends, with the status. -/
  | exit (s : Status)
  /-- `break n`: out of the n innermost loops. -/
  | breakOut (n : Nat)
  /-- `continue n`: on with the next round of the n-th innermost loop. -/
  | continueAt (n : Nat)
  /-- `return`: out of the function. -/
  | returned
  /-- The shell's process was killed by a signal, also when a subshell sent it. -/
  | killed (s : Signal)
  /-- In bash, an expansion failed: the rest of the complete command is dropped, and the
  shell goes on with the next one, unless it is a subshell, which ends. -/
  | discard
deriving Inhabited

/-- The language a shell speaks: the POSIX language of the Debian Almquist shell, or bash,
with its extensions and its own messages. -/
inductive Dialect where
  | dash
  | bash
deriving DecidableEq, Repr, Inhabited

/-- A variable as it was before a function made it local: its value, its elements when it
was an array, and whether it was an integer variable. -/
structure Saved where
  name : String
  value : Option String
  elems : Option (List (Nat × String)) := none
  integer : Bool := false
deriving Inhabited

/-- A running shell. -/
structure Proc where
  /-- `$0`, which names the shell in its messages. -/
  name : String
  params : List String := []
  vars : List (String × String) := []
  exported : List String := []
  /-- The variables that cannot be set or unset any more. -/
  readonlyVars : List String := []
  /-- Inside a function: the variables made local to it, with the values they had before. -/
  locals : Option (List Saved) := none
  /-- `$?`. -/
  status : Nat := 0
  pid : Nat := 1000
  /-- How many processes it has started, which numbers them. -/
  spawned : Nat := 0
  errexit : Bool := false
  nounset : Bool := false
  noglob : Bool := false
  /-- `-x`: each simple command is written to the standard error before it runs. -/
  xtrace : Bool := false
  /-- Inside a condition, where a failing command does not end the shell under `-e`. -/
  guarded : Bool := false
  functions : List (String × Cmd) := []
  /-- The actions of `trap` by condition: 0 for the end of the shell, else a signal's number;
  an empty action ignores the signal. -/
  traps : List (Nat × String) := []
  /-- The signals the shell was sent whose trap has not run yet. -/
  pending : List Nat := []
  cwd : Place := .tree []
  /-- The permission bits that new files do not get (`umask`), `022` at the start. -/
  mask : Nat := 18
  /-- The descriptors open for writing; an absent one is closed. -/
  sinks : List (Nat × Sink) := [(1, .stdout), (2, .stderr)]
  input : List UInt8 := []
  /-- The standard input is a file of the disk (not a pipe or a terminal). -/
  inputFile : Bool := false
  disk : Disk := {}
  clock : Int := 0
  chunks : List Chunk := []
  captured : List UInt8 := []
  /-- The line of the command being run. -/
  line : Nat := 1
  /-- The shell waits for ever: a command never ends. -/
  stuck : Bool := false
  /-- When the last background command ends. -/
  background : Int := 0
  /-- When the processes it started ran, from when to when. -/
  holders : List (Int × Int) := []
  /-- The status of the last command substitution of the command being expanded. -/
  substituted : Option Nat := none
  /-- The signal that killed the last command, for the message the shell writes. -/
  signaled : Option Signal := none
  dialect : Dialect := .dash
  /-- Whether the shell is a subshell or the shell of a command substitution. -/
  forked : Bool := false
  /-- Whether the last failed expansion was of a parameter that is not set, which ends bash
  with status 127; bash drops only the rest of the command after other failures. -/
  fatalFault : Bool := false
  /-- The arrays (bash): the elements of each by index, in increasing order. A name is a
  variable or an array, never both. -/
  arrays : List (String × List (Nat × String)) := []
  /-- The variables whose values are evaluated as arithmetic when set (bash's `-i`). -/
  integers : List String := []
  /-- Where the text being run comes from, as bash names it for the functions defined in it:
  `environment` for a command string, `main` for the standard input, else the file. -/
  origin : String := ""
  /-- The name bash's messages give instead of the shell's, inside a function or a sourced
  file: where that text came from. -/
  errorName : Option String := none
  /-- The origin of each function (bash). -/
  functionOrigins : List (String × String) := []
  /-- Whether a file read by `.` is running, which `return` may leave. -/
  sourced : Bool := false
deriving Inhabited

/-- The time after which a run counts as one that never ends. -/
def horizon : Int := 3600 * 1000000000

namespace Proc

/-- Bytes written to a sink at a time, by a process started at `origin`. -/
def putAt (sh : Proc) (time origin : Int) (sink : Option Sink) (bs : List UInt8) : Proc :=
  if bs.isEmpty then sh
  else
    match sink with
    | some .stdout => { sh with chunks := sh.chunks ++ [⟨time, 1, bs, origin⟩] }
    | some .stderr => { sh with chunks := sh.chunks ++ [⟨time, 2, bs, origin⟩] }
    | some .capture => { sh with captured := sh.captured ++ bs }
    | some (.file p) =>
      match sh.disk.write p bs true with
      | .ok d => { sh with disk := d }
      | .error _ => sh
    | some .null | none => sh

/-- Bytes written to a descriptor now. -/
def put (sh : Proc) (fd : Nat) (bs : List UInt8) : Proc :=
  sh.putAt sh.clock sh.clock (sh.sinks.lookup fd) bs

/-- Text written to a descriptor now. -/
def say (sh : Proc) (fd : Nat) (s : String) : Proc := sh.put fd (Raw.toBytes s)

/-- Whether the shell speaks bash. -/
def isBash (sh : Proc) : Bool := sh.dialect = .bash

/-- A message of the shell on its standard error: its name, the line, the text; bash says
`line` before the number. -/
def warn (sh : Proc) (msg : String) : Proc :=
  let who := if sh.isBash then sh.errorName.getD sh.name else sh.name
  sh.say 2 (who ++ ": " ++ (if sh.isBash then "line " else "") ++ toString sh.line ++ ": " ++ msg ++ "\n")

/-- The elements of an array with one set. -/
def setIndex (elems : List (Nat × String)) (i : Nat) (v : String) : List (Nat × String) :=
  let kept := elems.filter (·.1 ≠ i)
  kept.filter (·.1 < i) ++ [(i, v)] ++ kept.filter (·.1 > i)

/-- The value of a name's own variable: a variable's value, or the element 0 of an array. -/
def plain? (sh : Proc) (n : String) : Option String :=
  match sh.vars.lookup n with
  | some v => some v
  | none => (sh.arrays.lookup n).bind (·.lookup 0)

/-- A name split into the array's name and the text of its subscript, `x[i]`. -/
def splitSubscript (n : String) : String × Option String :=
  match n.splitOn "[" with
  | base :: rest =>
    if rest.isEmpty ∨ !n.endsWith "]" then (n, none)
    else (base, some (String.ofList ("[".intercalate rest).toList.dropLast))
  | [] => (n, none)

/-- The index an element's subscript stands for in an array: its arithmetic value, counted
from the end when negative; none when it lies before the start. -/
def indexOf? (sh : Proc) (elems : List (Nat × String)) (sub : String) : Option Nat :=
  let v : Int := match BashArith.eval sub sh.plain? with
    | .ok (x, _) => x
    | .error _ => 0
  if v ≥ 0 then some v.toNat
  else
    let top : Int := match elems.getLast? with
      | some (i, _) => i + 1
      | none => 0
    if top + v ≥ 0 then some (top + v).toNat else none

/-- The value of a variable, or of an element of an array named `x[i]`. -/
def get? (sh : Proc) (n : String) : Option String :=
  match splitSubscript n with
  | (base, some sub) =>
    match sh.arrays.lookup base with
    | some elems => (sh.indexOf? elems sub).bind fun i => elems.lookup i
    | none => if sh.indexOf? [] sub = some 0 then sh.vars.lookup base else none
  | (base, none) => sh.plain? base

/-- A value as an integer variable keeps it: its arithmetic value. -/
def integerValue (sh : Proc) (v : String) : String :=
  match BashArith.eval v sh.plain? with
  | .ok (x, _) => toString x
  | .error _ => "0"

/-- The shell with a variable set, or an element of an array named `x[i]` (a variable of
that name becomes the array's element 0). -/
def assign (sh : Proc) (n v : String) : Proc :=
  match splitSubscript n with
  | (base, some sub) =>
    let v := if sh.integers.contains base then sh.integerValue v else v
    let elems := match sh.arrays.lookup base with
      | some es => es
      | none => match sh.vars.lookup base with
        | some old => [(0, old)]
        | none => []
    match sh.indexOf? elems sub with
    | some i =>
      { sh with vars := sh.vars.filter (·.1 ≠ base),
                arrays := (base, setIndex elems i v) :: sh.arrays.filter (·.1 ≠ base) }
    | none => sh
  | (base, none) =>
    let v := if sh.integers.contains base then sh.integerValue v else v
    match sh.arrays.lookup base with
    | some elems => { sh with arrays := sh.arrays.map fun (k, es) => if k = base then (k, setIndex elems 0 v) else (k, es) }
    | none => { sh with vars := Env.set sh.vars base v }

/-- The shell with the variables an arithmetic expression assigned set in order, up to one
that is read-only, which is named then. -/
def assignArith (sh : Proc) (assigned : List (String × Int)) : Proc × Option String :=
  assigned.foldl (fun (acc : Proc × Option String) (n, x) =>
    match acc with
    | (s, some bad) => (s, some bad)
    | (s, none) =>
      let base := (splitSubscript n).1
      if s.readonlyVars.contains base then (s, some base) else (s.assign n (toString x), none)) (sh, none)

/-- The shell with an array set to values, indexed from 0. -/
def setArray (sh : Proc) (n : String) (values : List String) : Proc :=
  let v := if sh.integers.contains n then values.map sh.integerValue else values
  { sh with vars := sh.vars.filter (·.1 ≠ n),
            arrays := (n, (List.range v.length).zip v) :: sh.arrays.filter (·.1 ≠ n) }

/-- The shell with values added after the last element of an array; a variable of that
name becomes the array's element 0. -/
def appendArray (sh : Proc) (n : String) (values : List String) : Proc :=
  let v := if sh.integers.contains n then values.map sh.integerValue else values
  let elems := match sh.arrays.lookup n with
    | some es => es
    | none => match sh.vars.lookup n with
      | some old => [(0, old)]
      | none => []
  let top := match elems.getLast? with
    | some (i, _) => i + 1
    | none => 0
  { sh with vars := sh.vars.filter (·.1 ≠ n),
            arrays := (n, elems ++ ((List.range v.length).map (· + top)).zip v) :: sh.arrays.filter (·.1 ≠ n) }

/-- The values of an array in order of index; a variable is an array of one value. -/
def arrayValues (sh : Proc) (n : String) : List String :=
  match sh.arrays.lookup n with
  | some elems => elems.map (·.2)
  | none => (sh.vars.lookup n).toList

/-- The indices of an array in order. -/
def arrayIndices (sh : Proc) (n : String) : List Nat :=
  match sh.arrays.lookup n with
  | some elems => elems.map (·.1)
  | none => if (sh.vars.lookup n).isSome then [0] else []

/-- The shell with a variable unset, or an element of an array named `x[i]`. -/
def unset (sh : Proc) (n : String) : Proc :=
  match splitSubscript n with
  | (base, some sub) =>
    match sh.arrays.lookup base with
    | some elems =>
      match sh.indexOf? elems sub with
      | some i => { sh with arrays := sh.arrays.map fun (k, es) => if k = base then (k, es.filter (·.1 ≠ i)) else (k, es) }
      | none => sh
    | none => if sh.indexOf? [] sub = some 0 then { sh with vars := sh.vars.filter (·.1 ≠ base) } else sh
  | (base, none) =>
    { sh with vars := sh.vars.filter (·.1 ≠ base), exported := sh.exported.filter (· ≠ base),
              arrays := sh.arrays.filter (·.1 ≠ base), integers := sh.integers.filter (· ≠ base) }

/-- A variable as it is now, to be put back later. -/
def save (sh : Proc) (n : String) : Saved :=
  { name := n, value := sh.vars.lookup n, elems := sh.arrays.lookup n, integer := sh.integers.contains n }

/-- The shell with a variable put back as it was saved. -/
def restore (sh : Proc) (s : Saved) : Proc :=
  let sh := { sh with integers := sh.integers.filter (· ≠ s.name) ++ (if s.integer then [s.name] else []) }
  match s.elems, s.value with
  | some es, _ =>
    { sh with vars := sh.vars.filter (·.1 ≠ s.name), arrays := (s.name, es) :: sh.arrays.filter (·.1 ≠ s.name) }
  | none, some v => { sh with vars := Env.set sh.vars s.name v, arrays := sh.arrays.filter (·.1 ≠ s.name) }
  | none, none =>
    { sh with vars := sh.vars.filter (·.1 ≠ s.name), exported := sh.exported.filter (· ≠ s.name),
              arrays := sh.arrays.filter (·.1 ≠ s.name) }

/-- The shell as a subshell starts: the traps that run actions are gone, those that ignore
a signal stay. -/
def clearTraps (sh : Proc) : Proc := { sh with traps := sh.traps.filter (·.2.isEmpty), pending := [] }

/-- The shell with a variable exported. -/
def exportVar (sh : Proc) (n : String) : Proc :=
  if sh.exported.contains n then sh else { sh with exported := sh.exported ++ [n] }

/-- The environment the shell gives a program: its exported variables that are set. -/
def environment (sh : Proc) : Env := sh.vars.filter fun (k, _) => sh.exported.contains k

/-- The field separators: `IFS`, a blank, tab and newline when unset. -/
def separators (sh : Proc) : List Char := ((sh.get? "IFS").getD " \t\n").toList

/-- The directories of the search path. -/
def searchDirs (sh : Proc) : List String :=
  ((sh.get? "PATH").getD "/usr/local/sbin:/usr/local/bin:/usr/sbin:/usr/bin:/sbin:/bin").splitOn ":"

/-- What a program run by the shell did, taken in: its output written to the shell's
descriptors at the times it was written, its time added, its files kept; when it was given
the shell's own outputs, it and the processes it started hold them open while they run. -/
def absorb (sh : Proc) (r : Ran) : Proc :=
  let start := sh.clock
  let sh := { sh with disk := r.disk }
  let sh := r.chunks.foldl (fun (acc : Proc) c => acc.putAt (start + c.time) start (acc.sinks.lookup c.fd) c.bytes) sh
  let ends := if r.status.isNone then horizon else start + r.elapsed
  let held := if sh.sinks.any (·.2.isOutput) then
      (start, ends) :: r.holders.map fun (a, b) => (start + a, start + b)
    else []
  { sh with clock := start + r.elapsed, stuck := sh.stuck || r.status.isNone,
            holders := sh.holders ++ held }

/-- The run of the shell's process when it ends with a status (none: it never ends): its
chunks in the order of their times, its time, and the processes it started, its
background commands among them. -/
def finish (sh : Proc) (status : Option Status) : Ran :=
  { chunks := sh.chunks.mergeSort (fun a b => decide (a.time ≤ b.time)),
    elapsed := sh.clock,
    status := if sh.stuck then none else status,
    disk := sh.disk,
    holders := sh.holders }

end Proc

end Shell

end Timebox
