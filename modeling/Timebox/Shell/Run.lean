import Timebox.Shell.Builtin
import Timebox.Shell.Parse
import Timebox.Shell.Arith
import Timebox.Shell.Brace
import Timebox.Shell.BashArith
import Timebox.Shell.BashBuiltin
import Timebox.Program.Tools
import Timebox.Program.Grep
import Timebox.Program.Lines
import Timebox.Program.Expr
import Timebox.Program.Listing
import Timebox.Program.Sed
import Timebox.Program.Files
import Timebox.Program.Encode
import Timebox.Program.Sums
import Timebox.Program.Numbers
import Timebox.Program.Paths
import Timebox.Program.Xargs
import Timebox.Program.Sequence
import Timebox.Program.Concatenate
import Timebox.Program.Names
import Timebox.Program.Ends
import Timebox.Program.Count
import Timebox.Program.Translate
import Timebox.Program.Dump

/-! # Running scripts and programs

`Machine.run fuel path inv pid` is what a process of a program does on the machine: a
shell (`sh`, `dash`, `bash`) runs its script, `env` runs a program in another
environment, and the small tools of `Program.Tools` do their work. A file written on the
disk and made runnable is a script: its `#!` line names the program that runs it, and
without one the shell runs it. A shell reads its
script one complete command at a time (`Parse.next`) and runs each before it reads the
next, as a POSIX shell does:

* a simple command expands its words (parameters, command substitutions, arithmetic,
  field splitting, pathname patterns), applies its redirections, and runs a function, a
  command of the shell itself, or a program found through `PATH` (`name: not found`,
  status 127; `Permission denied`, 126); a program killed by a signal makes the shell
  write the signal's name (`Killed`) and gives status 128 plus its number;
* a pipeline runs its commands side by side, each reading what the one before wrote;
* subshells, command substitutions and background commands run on a copy of the shell.

The fuel bounds the depth of the run and the rounds of every loop; a run out of fuel, or
past an hour of its clock, counts as one that never ends.
-/

namespace Timebox

namespace Shell

open Process

/-- A tool's effect as the run of its process. -/
def effectRan (e : Program.Effect) (d : Disk) : Ran :=
  { chunks := e.writes.map fun (fd, bs) => ⟨0, fd, bs, 0⟩,
    elapsed := e.sleep.getD 0,
    status := e.sleep.map fun _ => .exited e.code,
    disk := e.disk.getD d }

/-- The run so far of a process that starts programs one after another and waits for
each: what was written, when, the disk, and how the programs went. -/
structure Series where
  chunks : List Chunk := []
  clock : Int := 0
  disk : Disk
  holders : List (Int × Int) := []
  /-- The exit code the process stopped early with, if it did. -/
  stop : Option Nat := none
  /-- Whether some program ended with a code other than 0. -/
  failed : Bool := false
  /-- Whether some program never ends. -/
  endless : Bool := false
  spawned : Nat := 0

namespace Series

/-- The series with text written by the process itself, now. -/
def say (s : Series) (fd : Nat) (text : String) : Series :=
  { s with chunks := s.chunks ++ [⟨s.clock, fd, Raw.toBytes text, s.clock⟩] }

/-- The series after a program started now has run. -/
def absorb (s : Series) (r : Ran) : Series :=
  let start := s.clock
  { s with
    chunks := s.chunks ++ r.chunks.map fun c => { c with time := start + c.time, origin := start },
    clock := start + r.elapsed,
    disk := r.disk,
    holders := s.holders ++ (start, start + r.elapsed) :: r.holders.map fun (a, b) => (start + a, start + b),
    endless := s.endless || r.status.isNone,
    spawned := s.spawned + 1 }

/-- The run of the process when it ends with an exit code. -/
def finish (s : Series) (code : Nat) : Ran :=
  { chunks := s.chunks, elapsed := s.clock, status := if s.endless then none else some (.exited code),
    disk := s.disk, holders := s.holders }

end Series

/-- The run of a process that never ends and writes nothing. -/
def foreverRan (d : Disk) : Ran := { chunks := [], elapsed := 0, status := none, disk := d }

/-- The tools of the base system by name. -/
def toolOf? (name : String) : Option (Program.Invocation → Program.Effect) :=
  if name = "echo" then some Program.echo
  else if name = "printf" then some Program.printf
  else if name = "cat" then some Program.cat
  else if name = "head" then some Program.head
  else if name = "tail" then some Program.tail
  else if name = "tr" then some Program.tr
  else if name = "wc" then some Program.wc
  else if name = "od" then some Program.od
  else if name = "sleep" then some Program.sleep
  else if name = "basename" then some Program.basename
  else if name = "dirname" then some Program.dirname
  else if name = "printenv" then some Program.printenv
  else if name = "seq" then some Program.seq
  else if name = "false" then some fun _ => { code := 1 }
  else if name = "grep" then some Program.grep
  else if name = "sed" then some Program.sed
  else if name = "sort" then some Program.sort
  else if name = "uniq" then some Program.uniq
  else if name = "cut" then some Program.cut
  else if name = "tee" then some Program.tee
  else if name = "tac" then some Program.tac
  else if name = "yes" then some Program.yes
  else if name = "expr" then some Program.expr
  else if name = "ls" ∨ name = "dir" then some Program.ls
  else if name = "uname" then some Program.uname
  else if name = "mkdir" then some Program.mkdir
  else if name = "touch" then some Program.touch
  else if name = "rm" then some Program.rm
  else if name = "rmdir" then some Program.rmdir
  else if name = "cp" then some Program.cp
  else if name = "mv" then some Program.mv
  else if name = "chmod" then some Program.chmod
  else if name = "base64" then some (Program.radixTool .base64)
  else if name = "base32" then some (Program.radixTool .base32)
  else if name = "cksum" then some Program.cksum
  else if name = "sum" then some Program.sum
  else if name = "md5sum" then some (Program.digestTool .md5)
  else if name = "sha1sum" then some (Program.digestTool .sha1)
  else if name = "sha224sum" then some (Program.digestTool .sha224)
  else if name = "sha256sum" then some (Program.digestTool .sha256)
  else if name = "sha384sum" then some (Program.digestTool .sha384)
  else if name = "sha512sum" then some (Program.digestTool .sha512)
  else if name = "factor" then some Program.factor
  else if name = "rev" then some Program.rev
  else if name = "egrep" then some fun inv => Program.grep { inv with args := "-E" :: inv.args }
  else if name = "fgrep" then some fun inv => Program.grep { inv with args := "-F" :: inv.args }
  else none

/-- The last part of a path. -/
def lastPart (path : String) : String := (path.splitOn "/").getLastD path

/-- The interpreter line of a script, `#!` then a program and at most one argument, the
rest of the line, with blanks around them dropped. -/
def interpreterLine (bs : List UInt8) : Option (String × Option String) :=
  match bs with
  | 0x23 :: 0x21 :: rest =>
    let blank (c : Char) : Bool := c = ' ' ∨ c = '\t'
    let line := (Raw.ofBytes (rest.takeWhile (· ≠ 10))).toList.dropWhile blank
    let prog := line.takeWhile (!blank ·)
    let arg := ((line.drop prog.length).dropWhile blank).reverse.dropWhile blank |>.reverse
    some (String.ofList prog, if arg.isEmpty then none else some (String.ofList arg))
  | _ => none

/-- The shells of the machine. -/
def shellNames : List String := ["sh", "dash", "bash", "rbash"]

/-- The message of a failed redirection. -/
def redirErrno (creating : Bool) : Errno → String
  | .noEntry | .notDirectory => if creating then "Directory nonexistent" else "No such file"
  | .isDirectory => "Is a directory"
  | .permission => "Permission denied"
  | .exists => "File exists"
  | .notEmpty => "Directory not empty"

/-- The options of a shell's command line: the shell with them set, whether `-c` was
given, and the operands; or the option that is not one. -/
def shellOptions : Nat → List String → Proc → Bool → Except String (Proc × Bool × List String)
  | 0, args, sh, c => .ok (sh, c, args)
  | _, [], sh, c => .ok (sh, c, [])
  | fuel + 1, a :: rest, sh, c =>
    if a = "--" ∨ a = "-" then .ok (sh, c, rest)
    else if (a.startsWith "-" ∨ a.startsWith "+") ∧ a.length > 1 then
      let on := a.startsWith "-"
      let letters := a.toList.drop 1
      if letters = ['o'] then
        match rest with
        | name :: more =>
          match optionLetter? name with
          | some l => match sh.setOption l on with
            | some sh => shellOptions fuel more sh c
            | none => .error ("Illegal option -o " ++ name)
          | none => .error ("Illegal option -o " ++ name)
        | [] => .ok (sh, c, [])
      else
        let step (acc : Except String (Proc × Bool)) (l : Char) : Except String (Proc × Bool) :=
          acc.bind fun (sh, c) =>
            if l = 'c' then .ok (sh, true)
            else if l = 'l' then .ok (sh, c)
            else match sh.setOption l on with
              | some sh => .ok (sh, c)
              | none => .error ("Illegal option -" ++ l.toString)
        match letters.foldl step (.ok (sh, c)) with
        | .ok (sh, c) => shellOptions fuel rest sh c
        | .error e => .error e
    else .ok (sh, c, a :: rest)

/-- The shell with a descriptor writing to a sink. -/
def Proc.setSink (sh : Proc) (fd : Nat) (s : Sink) : Proc :=
  { sh with sinks := (fd, s) :: sh.sinks.filter (·.1 ≠ fd) }

/-- The shell with the descriptors and, when a redirection changed it, the input of
another shell: what a command's redirections changed, undone. -/
def Proc.restoreFrom (sh saved : Proc) (input : Bool) : Proc :=
  { sh with sinks := saved.sinks, input := if input then saved.input else sh.input,
            inputFile := if input then saved.inputFile else sh.inputFile }

/-- The shell after a subshell: the files, time, output and processes of the subshell,
everything else its own, with the status. -/
def Proc.after (sh child : Proc) (code : Nat) : Proc :=
  { sh with disk := child.disk, clock := child.clock, chunks := child.chunks,
            captured := child.captured, stuck := child.stuck, background := child.background,
            spawned := child.spawned, status := code, signaled := child.signaled,
            holders := child.holders }

/-- The line `-x` writes for a simple command: the `PS4` prompt, then its assignments and
words as expanded, separated by blanks. -/
def Proc.traceLine (sh : Proc) (vals : List (String × String)) (fields : List String) : String :=
  (sh.get? "PS4").getD "+ " ++ " ".intercalate (vals.map (fun (k, v) => k ++ "=" ++ v) ++ fields) ++ "\n"

/-- The shell after writing the trace of a simple command, when `-x` is on, to the standard
error it had before the command's redirections (`saved`). -/
def Proc.traced (sh saved : Proc) (vals : List (String × String)) (fields : List String) : Proc :=
  if sh.xtrace then sh.putAt sh.clock sh.clock (saved.sinks.lookup 2) (Raw.toBytes (saved.traceLine vals fields))
  else sh

/-- The status a flow leaves. -/
def Flow.status (f : Flow) (sh : Proc) : Nat :=
  match f with
  | .exit s => s.code
  | .killed s => 128 + s.number
  | .discard => 1
  | _ => sh.status

/-- How the shell goes on after an expansion failed: the Almquist shell ends with status 2;
bash ends with status 127 after a parameter that is not set, and drops the rest of the
command after any other fault. -/
def Proc.expansionFailed (sh : Proc) : Flow × Proc :=
  if !sh.isBash then (.exit (.exited 2), sh)
  else if sh.fatalFault then
    let code := if sh.forked then 1 else 127
    (.exit (.exited code), { sh with status := code, fatalFault := false })
  else (.discard, { sh with status := 1 })

/-- The shell with its variables of an assignment list set. -/
def Proc.assignAll (sh : Proc) (vals : List (String × String)) : Proc :=
  vals.foldl (fun (s : Proc) (n, v) => s.assign n v) sh

/-- The shell with the variables of an assignment list as they are in another shell. -/
def Proc.restoreVars (sh saved : Proc) (vals : List (String × String)) : Proc :=
  vals.foldl (fun (s : Proc) (n, _) =>
    match saved.get? n with
    | some v => s.assign n v
    | none => { s with vars := s.vars.filter (·.1 ≠ n) }) sh

/-- The value of a parameter: special ones, positional ones and variables; none when
unset. -/
def Proc.param? (sh : Proc) (name : String) : Option String :=
  if name = "#" then some (toString sh.params.length)
  else if name = "?" then some (toString sh.status)
  else if name = "$" then some (toString sh.pid)
  else if name = "!" then none
  else if name = "-" then
    some (String.ofList ((if sh.errexit then ['e'] else []) ++ (if sh.noglob then ['f'] else []) ++
      (if sh.nounset then ['u'] else [])))
  else if name = "0" then some sh.name
  else if name = "@" ∨ name = "*" then some (" ".intercalate sh.params)
  else if isNumber name then
    if name.toNat! = 0 then some sh.name else sh.params[name.toNat! - 1]?
  else sh.get? name

/-- The bits of several values, as `$@` and `$*` give the parameters: each value a field,
or, for a quoted `*`, all joined by the first separator. -/
def Proc.multi (sh : Proc) (vs : List String) (star : Bool) (quoted : Bool) : List Bit :=
  if quoted then
    if !star then ((vs.map (Bit.ofText · true false)).intersperse [.cut]).flatten
    else
      let sep := match sh.get? "IFS" with
        | none => " "
        | some s => String.ofList (s.toList.take 1)
      Bit.ofText (sep.intercalate vs) true false
  else ((vs.map (Bit.ofText · false true)).intersperse [.cut]).flatten

/-- What a parameter stands for: one value (none when unset), or several, as `$@`, `$*`,
`${x[@]}` and `${x[*]}` do, with whether they join as `*` does. -/
inductive ParamValue where
  | one (v : Option String)
  | many (vs : List String) (star : Bool)

/-- What a parameter stands for; in bash `x[@]` and `x[*]` are the elements of an array,
`!x` the parameter that `x` names, and `!x[@]` the indices of an array. -/
def Proc.paramValue (sh : Proc) (name : String) : ParamValue :=
  let forName (n : String) : ParamValue :=
    if n = "@" then .many sh.params false
    else if n = "*" then .many sh.params true
    else
      match Proc.splitSubscript n with
      | (base, some "@") => if sh.isBash then .many (sh.arrayValues base) false else .one (sh.param? n)
      | (base, some "*") => if sh.isBash then .many (sh.arrayValues base) true else .one (sh.param? n)
      | _ => .one (sh.param? n)
  if sh.isBash ∧ name.startsWith "!" ∧ name.length > 1 then
    let inner := String.ofList (name.toList.drop 1)
    match Proc.splitSubscript inner with
    | (base, some "@") => .many ((sh.arrayIndices base).map toString) false
    | (base, some "*") => .many ((sh.arrayIndices base).map toString) true
    | _ =>
      match sh.param? inner with
      | some target => forName target
      | none => .one none
  else forName name

/-- A value with the first (or every) character that matches a pattern (any character,
without one) put in upper (or lower) case. -/
def changeCase (upper all : Bool) (p : Pattern) (v : String) : String :=
  let fits (c : Char) : Bool := p.isEmpty || p.matches (String.singleton c)
  let conv (c : Char) : Char := if upper then c.toUpper else c.toLower
  match v.toList with
  | [] => ""
  | c :: rest =>
    if all then String.ofList ((c :: rest).map fun d => if fits d then conv d else d)
    else String.ofList ((if fits c then conv c else c) :: rest)

/-- A value with the first (or every) character that matches a pattern (any character,
without one) in the other case. -/
def toggleCase (all : Bool) (p : Pattern) (v : String) : String :=
  let fits (c : Char) : Bool := p.isEmpty || p.matches (String.singleton c)
  let swap (c : Char) : Char := if c.isUpper then c.toLower else if c.isLower then c.toUpper else c
  match v.toList with
  | [] => ""
  | c :: rest =>
    if all then String.ofList ((c :: rest).map fun d => if fits d then swap d else d)
    else String.ofList ((if fits c then swap c else c) :: rest)

/-- The end of the longest match of a pattern that starts at place `i` of characters, if
any. -/
def longestMatch (p : Pattern) (cs : List Char) (i : Nat) (mustEnd : Bool) : Option Nat :=
  let ends := (List.range (cs.length + 1 - i)).reverse.map (· + i)
  let ends := if mustEnd then ends.take 1 else ends
  ends.find? fun j => p.matches (String.ofList ((cs.drop i).take (j - i)))

/-- A replacement with each unquoted `&` standing for the text matched. -/
def replacementText (rep : Pattern) (matched : String) : String :=
  String.join (rep.map fun (c, q) => if c = '&' ∧ !q then matched else String.singleton c)

/-- A value with matches of a pattern replaced: the first, every one (not overlapping, from
the left), one at the start, or one at the end; the longest match is taken. -/
def replaceMatches (p : Pattern) (mode : ReplaceMode) (rep : Pattern) (v : String) : String :=
  let cs := v.toList
  let piece (i j : Nat) : String := String.ofList ((cs.drop i).take (j - i))
  match mode with
  | .atStart =>
    match longestMatch p cs 0 false with
    | some j => replacementText rep (piece 0 j) ++ String.ofList (cs.drop j)
    | none => v
  | .atEnd =>
    match (List.range (cs.length + 1)).find? fun i => p.matches (piece i cs.length) with
    | some i => String.ofList (cs.take i) ++ replacementText rep (piece i cs.length)
    | none => v
  | .first =>
    if p.isEmpty then v
    else
      match (List.range (cs.length + 1)).findSome? fun i =>
          (longestMatch p cs i false).bind fun j => if j > i then some (i, j) else none with
      | some (i, j) => String.ofList (cs.take i) ++ replacementText rep (piece i j) ++ String.ofList (cs.drop j)
      | none => v
  | .every =>
    if p.isEmpty then v
    else
      let rec go : Nat → Nat → String → String
        | 0, _, acc => acc
        | fuel + 1, i, acc =>
          if i ≥ cs.length then acc
          else
            match longestMatch p cs i false with
            | some j => if j > i then go fuel j (acc ++ replacementText rep (piece i j))
              else go fuel (i + 1) (acc ++ piece i (i + 1))
            | none => go fuel (i + 1) (acc ++ piece i (i + 1))
      go (cs.length + 1) 0 ""

/-- The part of a list from `offset` on, at most `length` long, as bash's `${x:o:l}` takes
it: a negative offset counts from the end, a negative length leaves that many out at the
end; none when the end comes before the start. -/
def sliceList {α : Type} (xs : List α) (offset : Int) (length : Option Int) : Option (List α) :=
  let n : Int := xs.length
  let start := if offset < 0 then n + offset else offset
  if start < 0 ∨ start > n then some []
  else
    let rest := xs.drop start.toNat
    match length with
    | none => some rest
    | some l =>
      if l ≥ 0 then some (rest.take l.toNat)
      else
        let stop := n + l
        if stop < start then none else some (rest.take (stop - start).toNat)

/-- Whether a parameter counts as missing for an operator: unset, or empty with the
colon. -/
def missing (colon : Bool) : Option String → Bool
  | none => true
  | some v => colon && v.isEmpty

/-- The value of a variable in arithmetic: its number, zero when unset or no number. -/
def Proc.arithValue (sh : Proc) (n : String) : Int :=
  match sh.get? n with
  | none => 0
  | some v =>
    let t := Text.trimSpace v
    if t.startsWith "-" then -((Arith.numeral? (String.ofList (t.toList.drop 1))).getD 0)
    else (Arith.numeral? t).getD 0

/-- The bits of an operator's word inside an unquoted or quoted expansion: unquoted, what
is not quoted inside it is split too. -/
def argBits (quoted : Bool) (bs : List Bit) : List Bit :=
  (if quoted then [Bit.mark] else []) ++ bs.map fun
    | .char c cq sp => .char c cq (sp || (!quoted && !cq))
    | b => b

/-- Text with its trailing newlines dropped, as a command substitution gives it. -/
def dropNewlines (s : String) : String := String.ofList (s.toList.reverse.dropWhile (· = '\n')).reverse

/-- Where a command name leads: the path of the program, or the message and status of a
name that leads nowhere. -/
def Proc.locate (sh : Proc) (name : String) : Except (String × Nat) String :=
  if name.contains '/' then
    match sh.kindOf name with
    | .file _ true => .ok name
    | .file _ false => .error (name ++ ": Permission denied", 126)
    | .directory => .error (name ++ (if sh.isBash then ": Is a directory" else ": Permission denied"), 126)
    | _ => .error (name ++ (if sh.isBash then ": No such file or directory" else ": not found"), 127)
  else
    match sh.findProgram name with
    | some p => .ok p
    | none => .error (name ++ (if sh.isBash then ": command not found" else ": not found"), 127)

/-- The environment of a program the shell starts: its exported variables with the
command's assignments over them. -/
def Proc.childEnv (sh : Proc) (vals : List (String × String)) : Env :=
  vals.foldl (fun env (n, v) => Env.set env n v) sh.environment

/-- The program a name leads to for `env`: through the given search path. -/
def envLocate (env : Env) (disk : Disk) (cwd : Place) (name : String) : Option String :=
  let ok (p : String) : Bool := match disk.kind (cwd.resolve p) with
    | .file _ true => true
    | _ => false
  if name.contains '/' then (if ok name then some name else none)
  else ((env.lookup "PATH").getD "/bin:/usr/bin").splitOn ":" |>.map (fun d => (if d.isEmpty then "." else d) ++ "/" ++ name)
    |>.find? ok

/-- The options and assignments of `env` applied to an environment, and the command after
them. -/
def envArgs : Nat → List String → Env → Env × List String
  | 0, args, env => (env, args)
  | _, [], env => (env, [])
  | fuel + 1, a :: rest, env =>
    if a = "-i" ∨ a = "-" ∨ a = "--ignore-environment" then envArgs fuel rest []
    else if a = "-u" then
      match rest with
      | n :: more => envArgs fuel more (env.filter (·.1 ≠ n))
      | [] => (env, [])
    else if a = "--" then (env, rest)
    else if a.contains '=' ∧ !a.startsWith "=" then
      match a.splitOn "=" with
      | k :: vs => envArgs fuel rest (Env.set env k ("=".intercalate vs))
      | [] => envArgs fuel rest env
    else (env, a :: rest)

/-- What `env` does, given how a program runs: the environment it was given with its
options and assignments applied, written out, or the program after them run in it. -/
def envRan (run : String → Program.Invocation → Nat → Ran) (inv : Program.Invocation) (pid : Nat) : Ran :=
  let (env, cmd) := envArgs (inv.args.length + 1) inv.args inv.env
  match cmd with
  | [] => effectRan (env.foldl (fun (e : Program.Effect) (k, v) => e.say (k ++ "=" ++ v ++ "\n")) {}) inv.disk
  | c :: rest =>
    match envLocate env inv.disk inv.cwd c with
    | some p => run p { inv with name := c, args := rest, env } pid
    | none => effectRan ({ ({} : Program.Effect).complain (inv.name ++ ": '" ++ c ++ "': No such file or directory") with code := 127 }) inv.disk

/-- What `xargs` does, given how a program runs: each command line of its plan in turn, the
next starting when the one before ended. A command that cannot be found, ends with 255 or
is killed stops it (127, 124, 125); one that fails makes its code 123. -/
def xargsRan (run : String → Program.Invocation → Nat → Ran) (inv : Program.Invocation) (pid : Nat) : Ran :=
  match Program.Xargs.plan inv with
  | .error e => effectRan e inv.disk
  | .ok plan =>
    let cmd := plan.command.headD "echo"
    let say (s : Series) (msg : String) : Series := s.say 2 (inv.name ++ ": " ++ msg ++ "\n")
    let s := plan.lines.foldl (fun (s : Series) args =>
      if s.stop.isSome ∨ s.endless then s
      else
        let argv := plan.command ++ args
        let s := if plan.trace then s.say 2 (" ".intercalate (argv.map Text.Quoting.shell) ++ "\n") else s
        match envLocate inv.env s.disk inv.cwd cmd with
        | none => { say s (cmd ++ ": No such file or directory") with stop := some 127 }
        | some p =>
          let r := run p { inv with name := cmd, args := argv.drop 1, stdin := [], disk := s.disk }
            (pid + s.spawned + 1)
          let s := s.absorb r
          match r.status with
          | some (.exited c) =>
            if c = 255 then { say s (cmd ++ ": exited with status 255; aborting") with stop := some 124 }
            else if c ≠ 0 then { s with failed := true }
            else s
          | some (.signaled sg) =>
            { say s (cmd ++ ": terminated by signal " ++ toString sg.number) with stop := some 125 }
          | none => s) { disk := inv.disk }
    let s := match plan.fault with
      | some f => if s.stop.isNone ∧ !s.endless then { say s f with stop := some 1 } else s
      | none => s
    s.finish (s.stop.getD (if s.failed then 123 else 0))

/-- What a program that starts no other does: `test` and `[`, `which`, and the tools. -/
def toolRan (path : String) (inv : Program.Invocation) : Ran :=
  let base := lastPart path
  if base = "which" then effectRan (Program.which { inv with name := path }) inv.disk
  else if base = "test" ∨ base = "[" then
    let args := if base = "[" then (if inv.args.getLast? = some "]" then some inv.args.dropLast else none) else some inv.args
    let kind (p : String) : Kind := if p.isEmpty then .missing else inv.disk.kind (inv.cwd.resolve p)
    match args with
    | none => effectRan ({ ({} : Program.Effect).complain (inv.name ++ ": missing ']'") with code := 2 }) inv.disk
    | some args =>
      match Test.eval kind args with
      | .ok code => effectRan { code } inv.disk
      | .error e => effectRan ({ ({} : Program.Effect).complain (inv.name ++ ": " ++ e) with code := 2 }) inv.disk
  else
    match toolOf? base with
    | some tool => effectRan (tool inv) inv.disk
    | none => effectRan {} inv.disk

/-- How a shell starts from its command line: the shell, with its options, name and
parameters, and the text of its script (`-c` and a script, a script file, or its standard
input); or the run of a shell that cannot start. -/
def shellStart (inv : Program.Invocation) (pid : Nat) (dialect : Dialect) : Except Ran (Proc × String) :=
  let vars := inv.env
  let base : Proc :=
    { name := inv.name, vars, exported := vars.map (·.1), pid, cwd := inv.cwd, disk := inv.disk,
      input := inv.stdin, dialect }
  let base := if (base.get? "PATH").isSome then base
    else base.assign "PATH" "/usr/local/sbin:/usr/local/bin:/usr/sbin:/usr/bin:/sbin:/bin"
  let fail (msg : String) : Except Ran (Proc × String) :=
    .error ((base.say 2 (inv.name ++ ": 0: " ++ msg ++ "\n")).finish (some (.exited 2)))
  match shellOptions (inv.args.length + 1) inv.args base false with
  | .error e => fail e
  | .ok (sh, commandMode, operands) =>
    let start : Option (Proc × String) :=
      if commandMode then
        match operands with
        | [] => none
        | text :: rest =>
          let sh := { sh with origin := "environment" }
          match rest with
          | [] => some (sh, text)
          | n :: ps => some ({ sh with name := n, params := ps }, text)
      else
        match operands with
        | [] => some ({ sh with input := [], origin := "main" }, Raw.ofBytes inv.stdin)
        | file :: ps =>
          match inv.disk.read (inv.cwd.resolve file) with
          | .ok bs => some ({ sh with name := file, params := ps, origin := file }, Raw.ofBytes bs)
          | .error _ => none
    match start with
    | none =>
      if commandMode then fail "-c requires an argument"
      else fail ("cannot open " ++ operands.headD "" ++ ": No such file")
    | some st => .ok st

/-- The text of an error number, as the C library writes it. -/
def errnoMessage : Errno → String
  | .noEntry => "No such file or directory"
  | .notDirectory => "Not a directory"
  | .isDirectory => "Is a directory"
  | .permission => "Permission denied"
  | .exists => "File exists"
  | .notEmpty => "Directory not empty"

/-- The command the shell runs itself by a name: bash's own first, in bash. -/
def Proc.builtinOf? (sh : Proc) (name : String) : Option Builtin :=
  if sh.isBash then (bashBuiltin? name).orElse fun _ => builtin? name else builtin? name

/-- Applies one redirection to its expanded target: the shell after it, or after the
message of its failure. -/
def applyRedir (r : Redir) (t : String) (sh : Proc) : Except Proc Proc :=
  let failOpen (e : Errno) (creating : Bool) : Except Proc Proc :=
    if sh.isBash then .error (sh.warn (t ++ ": " ++ errnoMessage e))
    else .error (sh.warn ((if creating then "cannot create " else "cannot open ") ++ t ++ ": " ++ redirErrno creating e))
  match r.op with
  | .input =>
    if r.fd ≠ 0 ∨ (sh.cwd.resolve t).stream?.isSome then .ok sh
    else
      match sh.disk.read (sh.cwd.resolve t) with
      | .ok bs => .ok { sh with input := bs, inputFile := true }
      | .error e => failOpen e false
  | .hereDoc _ => if r.fd = 0 then .ok { sh with input := Raw.toBytes t, inputFile := false } else .ok sh
  | .hereString =>
    if r.fd = 0 then .ok { sh with input := Raw.toBytes (t ++ "\n"), inputFile := false } else .ok sh
  | .outputBoth append =>
    let p := sh.cwd.resolve t
    match p.stream? with
    | some src =>
      match sh.sinks.lookup src with
      | some s => .ok ((sh.setSink 1 s).setSink 2 s)
      | none => failOpen .noEntry true
    | none =>
      match sh.disk.write p [] append with
      | .ok d => .ok (({ sh with disk := d } : Proc).setSink 1 (.file p) |>.setSink 2 (.file p))
      | .error e => failOpen e true
  | .output | .append | .readWrite =>
    let p := sh.cwd.resolve t
    match p.stream? with
    | some src =>
      if r.fd = 0 ∨ src = 0 then .ok sh
      else
        match sh.sinks.lookup src with
        | some s => .ok (sh.setSink r.fd s)
        | none => failOpen .noEntry true
    | none =>
      match sh.disk.write p [] (r.op ≠ .output) with
      | .ok d =>
        let sh := { sh with disk := d }
        if r.fd = 0 then .ok sh else .ok (sh.setSink r.fd (.file p))
      | .error e => failOpen e true
  | .duplicate =>
    if t = "-" then
      if r.fd = 0 then .ok { sh with input := [], inputFile := false }
      else .ok { sh with sinks := sh.sinks.filter (·.1 ≠ r.fd) }
    else if isNumber t then
      let src := t.toNat!
      if r.fd = 0 ∨ src = 0 then .ok sh
      else
        match sh.sinks.lookup src with
        | some s => .ok (sh.setSink r.fd s)
        | none => .error (sh.warn (t ++ ": Bad file descriptor"))
    else if sh.isBash then .error (sh.warn (t ++ ": ambiguous redirect"))
    else .error (sh.warn "Syntax error: Bad fd number")

/-- The bits of an arithmetic expansion, given how a word expands: the text expanded as
inside double quotes, then evaluated (by bash's rules in bash), and the variables it
assigned set. -/
def arithBits (sub : Word → Proc → Option (List Bit) × Proc) (text : String) (q : Bool) (sh : Proc) :
    Option (List Bit) × Proc :=
  match hereParts text true with
  | .error e => (none, sh.warn e.msg)
  | .ok parts =>
    let (bits, sh) := sub parts sh
    match bits with
    | none => (none, sh)
    | some bits =>
      let expr := Bit.text bits
      let result := if sh.isBash then (BashArith.eval expr sh.get?).mapError (·.message)
        else (Arith.eval expr sh.arithValue).mapError
          fun e => "arithmetic expression: " ++ e ++ ": \"" ++ expr ++ "\""
      match result with
      | .error m => (none, sh.warn m)
      | .ok (v, assigned) =>
        match sh.assignArith assigned with
        | (sh, some n) => (none, sh.warn (n ++ (if sh.isBash then ": readonly variable" else ": is read only")))
        | (sh, none) => (some (Bit.ofText (toString v) q !q), sh)

/-- The value of an arithmetic text of `${x:o:l}`, expanded first: its value, or none after
the message of its fault. -/
def sliceNumber (sub : Word → Proc → Option (List Bit) × Proc) (text : String) (sh : Proc) :
    Option Int × Proc :=
  match hereParts text true with
  | .error e => (none, sh.warn e.msg)
  | .ok parts =>
    let (bits, sh) := sub parts sh
    match bits with
    | none => (none, sh)
    | some bits =>
      match BashArith.eval (Bit.text bits) sh.get? with
      | .ok (v, _) => (some v, sh)
      | .error f => (none, sh.warn f.message)

/-- The value of an arithmetic text of `(( … ))` or `for (( … ))`, expanded first; none after
the message of its fault. -/
def arithValue (sub : Word → Proc → Option (List Bit) × Proc) (text : String) (sh : Proc) :
    Option (Option Int) × Proc :=
  match hereParts text true with
  | .error e => (some none, sh.warn e.msg)
  | .ok parts =>
    let (bits, sh) := sub parts sh
    match bits with
    | none => (none, sh)
    | some bits =>
      match BashArith.eval (Bit.text bits) sh.get? with
      | .error f => (some none, sh.warn ("((: " ++ f.message))
      | .ok (v, assigned) =>
        match sh.assignArith assigned with
        | (sh, some n) => (some none, sh.warn (n ++ ": readonly variable"))
        | (sh, none) => (some (some v), sh)

/-- Runs `(( text ))`: status 0 when the value is not zero, 1 when it is zero or faulty. -/
def arithCommand (sub : Word → Proc → Option (List Bit) × Proc) (text : String) (sh : Proc) :
    Flow × Proc :=
  match arithValue sub text sh with
  | (none, sh) => sh.expansionFailed
  | (some none, sh) => (.next, { sh with status := 1 })
  | (some (some v), sh) => (.next, { sh with status := if v = 0 then 1 else 0 })

/-- The outcome of a condition of `[[ … ]]`. -/
inductive Verdict where
  | holds (b : Bool)
  /-- The condition cannot be decided: status 2. -/
  | invalid
  /-- An expansion failed. -/
  | failed
deriving DecidableEq, Repr, Inhabited

/-- The verdict of a condition negated. -/
def Verdict.negate : Verdict → Verdict
  | .holds b => .holds !b
  | v => v

/-- Whether a unary test of `[[ … ]]` holds of a text: `-v` asks whether a variable is set. -/
def condUnary (sh : Proc) (op t : String) : Bool :=
  if op = "-v" then (sh.get? t).isSome || !(sh.arrayIndices t).isEmpty
  else match Test.unary sh.kindOf op t with
    | .ok b => b
    | .error _ => false

/-- The extended regular expression of the right side of `=~`: quoted characters stand for
themselves. -/
def condRegexText (bits : List Bit) : String :=
  String.join (bits.map fun
    | .char c true _ => if "\\.[]()*+?\x7b\x7d|^$".contains c then "\\" ++ c.toString else c.toString
    | .char c false _ => c.toString
    | _ => "")

/-- Matches a text against the right side of `=~`, and sets `BASH_REMATCH` to the match and
the texts of its groups. -/
def condRegex (sh : Proc) (t : String) (bits : List Bit) : Verdict × Proc :=
  match Regex.parse .posixExtended (Raw.toBytes (condRegexText bits)) with
  | .error _ => (.invalid, sh)
  | .ok r =>
    let bytes := (Raw.toBytes t).toArray
    let piece (a b : Nat) : String := Raw.ofBytes (bytes.extract a b).toList
    match r.search false bytes 0 with
    | none => (.holds false, sh.setArray "BASH_REMATCH" [])
    | some (i, j, spans) =>
      let groups := (List.range r.groupCount).map fun g =>
        match spans.find? (·.1 = g + 1) with
        | some (_, a, b) => piece a b
        | none => ""
      (.holds true, sh.setArray "BASH_REMATCH" (piece i j :: groups))

/-- A comparison of two texts in `[[ … ]]`: `<` and `>` by their characters, `-eq` and the
others by their arithmetic values. -/
def condCompare (sh : Proc) (op a b : String) : Verdict × Proc :=
  if op = "<" then (.holds (a < b), sh)
  else if op = ">" then (.holds (b < a), sh)
  else if op = "-nt" ∨ op = "-ot" ∨ op = "-ef" then (.holds false, sh)
  else
    match BashArith.eval a sh.get?, BashArith.eval b sh.get? with
    | .error f, _ => (.invalid, sh.warn f.message)
    | _, .error f => (.invalid, sh.warn f.message)
    | .ok (x, _), .ok (y, _) =>
      (.holds (if op = "-eq" then x = y else if op = "-ne" then x ≠ y else if op = "-lt" then x < y
        else if op = "-le" then x ≤ y else if op = "-gt" then x > y else x ≥ y), sh)

/-- The value of `name+=v`: the old value with `v` after it, or for an integer variable the
sum of the two. -/
def appendedValue (sh : Proc) (name v : String) : String :=
  let old := (sh.get? name).getD ""
  if sh.integers.contains (Proc.splitSubscript name).1 then
    sh.integerValue ((if old.isEmpty then "0" else old) ++ "+(" ++ v ++ ")")
  else old ++ v

/-- The bits of a parameter expansion, given how a word (an operator's argument) expands. -/
def paramBits (sub : Word → Proc → Option (List Bit) × Proc) (name : String) (op : ParamOp) (arg : Word)
    (q : Bool) (sh : Proc) : Option (List Bit) × Proc :=
  let pv := sh.paramValue name
  let value : Option String := match pv with
    | .one v => v
    | .many vs star => if vs.isEmpty then none else some ((if star then " " else " ").intercalate vs)
  let plain (v : String) : List Bit := Bit.ofText v q !q
  -- each value through a function, joined again as the parameter joins them
  let each (f : String → String) : List Bit := match pv with
    | .one v => plain (f (v.getD ""))
    | .many vs star => sh.multi (vs.map f) star q
  let shown := (if name.startsWith "!" then String.ofList (name.toList.drop 1) else name)
  match op with
  | .plain =>
    match pv with
    | .many vs star => (some (sh.multi vs star q), sh)
    | .one (some v) => (some (plain v), sh)
    | .one none =>
      if sh.nounset ∧ name ≠ "!" then
        (none, { sh.warn (shown ++ (if sh.isBash then ": unbound variable" else ": parameter not set")) with
                 fatalFault := true })
      else (some (plain ""), sh)
  | .length =>
    let n := match pv with
      | .many vs _ => vs.length
      | .one v => (v.getD "").length
    (some (plain (toString n)), sh)
  | .useDefault colon =>
    if missing colon value then
      let (bits, sh) := sub arg sh
      (bits.map (argBits q), sh)
    else (some (each id), sh)
  | .assignDefault colon =>
    if missing colon value then
      let (bits, sh) := sub arg sh
      match bits with
      | none => (none, sh)
      | some bits =>
        let v := Bit.text bits
        (some (plain v), sh.assign name v)
    else (some (each id), sh)
  | .useAlternative colon =>
    if missing colon value then (some (plain ""), sh)
    else
      let (bits, sh) := sub arg sh
      (bits.map (argBits q), sh)
  | .errorIfUnset colon =>
    if missing colon value then
      let (bits, sh) := sub arg sh
      let msg := match bits with
        | some bs =>
          if !arg.isEmpty then Bit.text bs
          else if sh.isBash then (if colon then "parameter null or not set" else "parameter not set")
          else "parameter not set" ++ (if colon then " or null" else "")
        | none => "parameter not set"
      (none, { sh.warn (shown ++ ": " ++ msg) with fatalFault := true })
    else (some (each id), sh)
  | .dropSuffix longest =>
    let (bits, sh) := sub arg sh
    (bits.map fun bs => each (dropAffix (Bit.pattern bs) true longest), sh)
  | .dropPrefix longest =>
    let (bits, sh) := sub arg sh
    (bits.map fun bs => each (dropAffix (Bit.pattern bs) false longest), sh)
  | .changeCase upper all =>
    let (bits, sh) := sub arg sh
    (bits.map fun bs => each (changeCase upper all (Bit.pattern bs)), sh)
  | .toggleCase all =>
    let (bits, sh) := sub arg sh
    (bits.map fun bs => each (toggleCase all (Bit.pattern bs)), sh)
  | .bad => (none, sh.warn (if sh.isBash then name ++ ": bad substitution" else "Bad substitution"))
  | .replace mode rep =>
    let (bits, sh) := sub arg sh
    match bits with
    | none => (none, sh)
    | some bs =>
      let (rbits, sh) := sub rep sh
      match rbits with
      | none => (none, sh)
      | some rbs => (some (each (replaceMatches (Bit.pattern bs) mode (Bit.pattern rbs))), sh)
  | .slice offText lenText =>
    let (off, sh) := sliceNumber sub offText sh
    match off with
    | none => (none, sh)
    | some off =>
      let (len, sh) := match lenText with
        | none => (some none, sh)
        | some t =>
          let (l, sh) := sliceNumber sub t sh
          (l.map some, sh)
      match len with
      | none => (none, sh)
      | some len =>
        let bad := (none, sh.warn (Text.trimSpace (lenText.getD "") ++ ": substring expression < 0"))
        match pv with
        | .many vs star =>
          let vs := if name = "@" ∨ name = "*" then sh.name :: vs else vs
          match sliceList vs off len with
          | some part => (some (sh.multi part star q), sh)
          | none => bad
        | .one v =>
          match sliceList (v.getD "").toList off len with
          | some part => (some (plain (String.ofList part)), sh)
          | none => bad


mutual

/-- Runs a command. -/
def exec (fuel : Nat) (c : Cmd) (sh : Proc) : Flow × Proc :=
  match fuel with
  | 0 => (.next, { sh with stuck := true })
  | fuel + 1 =>
    if sh.stuck then (.next, sh)
    else if sh.clock > horizon then (.next, { sh with stuck := true })
    else
      let (flow, sh) := match c with
        | .simple assigns words redirs line => simple fuel assigns words redirs { sh with line }
        | .pipeline bang cmds => pipeline fuel bang cmds sh
        | .andOr first rest => andOr fuel first rest sh
        | .sequence items => sequence fuel items sh
        | .function name body =>
          (.next, { sh with functions := (name, body) :: sh.functions.filter (·.1 ≠ name), status := 0,
                            functionOrigins := (name, sh.origin) :: sh.functionOrigins.filter (·.1 ≠ name) })
        | .subshell _ rs | .group _ rs | .ifThen _ _ rs | .loop _ _ _ rs | .forEach _ _ _ rs | .caseOf _ _ rs
        | .arith _ _ rs | .cond _ _ rs | .forArith _ _ _ _ rs =>
          if rs.isEmpty then compound fuel c sh
          else
            let saved := sh
            let (ok, sh) := redirect fuel rs sh
            if !ok then (.next, (sh.restoreFrom saved true).done 2 |>.2)
            else
              let (flow, sh) := compound fuel c sh
              (flow, sh.restoreFrom saved (rs.any (·.fd = 0)))
      let sh := match sh.signaled with
        | some s =>
          let sh := { sh with signaled := none }
          if s = .interrupt ∨ s = .pipe then sh else sh.say 2 (s.description ++ "\n")
        | none => sh
      let checked := match c with
        | .simple .. | .subshell .. | .arith .. | .cond .. => true
        | .pipeline bang _ => !bang
        | _ => false
      match flow with
      | .next =>
        if checked && sh.errexit && !sh.guarded && sh.status ≠ 0 then (.exit (.exited sh.status), sh)
        else if sh.pending.isEmpty then (.next, sh)
        else runTraps fuel sh
      | f => (f, sh)

/-- Runs the traps of the signals the shell was sent, in order, each with the status before
it as `$?`, which it leaves as it was. -/
def runTraps (fuel : Nat) (sh : Proc) : Flow × Proc :=
  match fuel with
  | 0 => (.next, { sh with stuck := true })
  | fuel + 1 =>
    match sh.pending with
    | [] => (.next, sh)
    | n :: rest =>
      let sh := { sh with pending := rest }
      match sh.traps.lookup n with
      | some action =>
        let code := sh.status
        let (flow, sh) := script fuel (Src.ofText action sh.isBash) false sh
        match flow with
        | .next => runTraps fuel { sh with status := code }
        | f => (f, sh)
      | none => runTraps fuel sh

/-- The end of a shell with a flow: its `EXIT` trap, when it set one, runs first, with the
status the shell ends with as `$?`; an `exit` in the trap sets the status instead. A shell
killed by a signal runs no trap. -/
def leave (fuel : Nat) (flow : Flow) (sh : Proc) : Flow × Proc :=
  match fuel with
  | 0 => (flow, { sh with stuck := true })
  | fuel + 1 =>
    match flow, sh.traps.lookup 0 with
    | .killed _, _ => (flow, sh)
    | _, none => (flow, sh)
    | _, some action =>
      let code := flow.status sh
      let sh := { sh with traps := sh.traps.filter (·.1 ≠ 0), status := code }
      let (after, sh) := script fuel (Src.ofText action sh.isBash) false sh
      match after with
      | .exit s => (.exit s, sh)
      | .killed s => (.killed s, sh)
      | _ => (flow, { sh with status := code })

/-- Runs a compound command, its redirections applied. -/
def compound (fuel : Nat) (c : Cmd) (sh : Proc) : Flow × Proc :=
  match fuel with
  | 0 => (.next, { sh with stuck := true })
  | fuel + 1 =>
    match c with
    | .subshell body _ => subshell fuel body sh
    | .group body _ => exec fuel body sh
    | .ifThen branches other _ => ifThen fuel branches other sh
    | .loop negate cond body _ => loop fuel negate cond body 0 sh
    | .forEach name items body _ =>
      match items with
      | none => forLoop fuel name sh.params body 0 sh
      | some ws =>
        let ws := if sh.isBash then ws.flatMap Brace.expand else ws
        let (vs, sh) := expandFields fuel ws sh
        match vs with
        | none => sh.expansionFailed
        | some vs => forLoop fuel name vs body 0 sh
    | .caseOf subject arms _ =>
      let (s, sh) := expandText fuel subject sh
      match s with
      | none => sh.expansionFailed
      | some s => caseArms fuel s arms sh
    | .arith text line _ => arithCommand (fun w sh => expandParts fuel w sh) text { sh with line }
    | .cond e line _ =>
      match condEval fuel e { sh with line } with
      | (.holds b, sh) => (.next, { sh with status := if b then 0 else 1 })
      | (.invalid, sh) => (.next, { sh with status := 2 })
      | (.failed, sh) => sh.expansionFailed
    | .forArith first test step body _ =>
      match arithValue (fun w sh => expandParts fuel w sh) first sh with
      | (none, sh) => sh.expansionFailed
      | (some none, sh) => (.next, { sh with status := 1 })
      | (some (some _), sh) => arithLoop fuel test step body 0 sh
    | c => exec fuel c sh

/-- Runs a command in a subshell: a copy of the shell, whose leaving ends only itself. -/
def subshell (fuel : Nat) (body : Cmd) (sh : Proc) : Flow × Proc :=
  match fuel with
  | 0 => (.next, { sh with stuck := true })
  | fuel + 1 =>
    let (flow, child) := exec fuel body { sh.clearTraps with forked := true }
    let (flow, child) := leave fuel flow child
    let sh' := sh.after child (flow.status child)
    match flow with
    | .killed s =>
      match sh.traps.lookup s.number with
      | some action =>
        if s = .kill then (.killed s, sh')
        else if action.isEmpty then (.next, sh')
        else (.next, { sh' with pending := sh'.pending ++ [s.number] })
      | none => (.killed s, sh')
    | .exit (.signaled s) => (.next, { sh' with signaled := some s })
    | _ => (.next, sh')

/-- Runs the items of a list in order, those marked in the background. -/
def sequence (fuel : Nat) (items : List (Cmd × Bool)) (sh : Proc) : Flow × Proc :=
  match fuel with
  | 0 => (.next, { sh with stuck := true })
  | fuel + 1 =>
    match items with
    | [] => (.next, sh)
    | (c, bg) :: rest =>
      if bg then
        let t0 := sh.clock
        let (_, after) := subshell fuel c { sh with input := [] }
        let ends := if after.stuck then horizon else after.clock
        let fresh := (after.chunks.drop sh.chunks.length).map fun ch => { ch with origin := t0 }
        let sh := { after with clock := t0, background := max after.background ends, stuck := sh.stuck,
                               chunks := sh.chunks ++ fresh,
                               status := 0, signaled := none, input := sh.input,
                               holders := after.holders ++
                                 if after.stuck ∧ sh.sinks.any (·.2.isOutput) then [(t0, ends)] else [] }
        sequence fuel rest sh
      else
        let (flow, sh) := exec fuel c sh
        match flow with
        | .next => sequence fuel rest sh
        | f => (f, sh)

/-- Runs an and-or list after its first command's flow. -/
def andOrRest (fuel : Nat) (rest : List (Bool × Cmd)) (guard : Bool) (flow : Flow) (sh : Proc) :
    Flow × Proc :=
  match fuel with
  | 0 => (.next, { sh with stuck := true })
  | fuel + 1 =>
    match flow with
    | .next =>
      match rest with
      | [] => (.next, { sh with guarded := guard })
      | (isAnd, c) :: more =>
        if (sh.status = 0) = isAnd then
          let (flow, sh) := exec fuel c { sh with guarded := guard || !more.isEmpty }
          andOrRest fuel more guard flow sh
        else andOrRest fuel more guard .next sh
    | f => (f, { sh with guarded := guard })

/-- Runs an and-or list. -/
def andOr (fuel : Nat) (first : Cmd) (rest : List (Bool × Cmd)) (sh : Proc) : Flow × Proc :=
  match fuel with
  | 0 => (.next, { sh with stuck := true })
  | fuel + 1 =>
    let guard := sh.guarded
    let (flow, sh) := exec fuel first { sh with guarded := guard || !rest.isEmpty }
    andOrRest fuel rest guard flow sh

/-- Runs a pipeline. -/
def pipeline (fuel : Nat) (bang : Bool) (cmds : List Cmd) (sh : Proc) : Flow × Proc :=
  match fuel with
  | 0 => (.next, { sh with stuck := true })
  | fuel + 1 =>
    let guard := sh.guarded
    let (flow, sh) := match cmds with
      | [c] => exec fuel c { sh with guarded := guard || bang }
      | _ => stages fuel cmds sh.clock sh.input sh.clock { sh with guarded := guard || bang }
    let sh := { sh with guarded := guard }
    match flow with
    | .next => (.next, if bang then { sh with status := if sh.status = 0 then 1 else 0 } else sh)
    | f => (f, sh)

/-- Runs the commands of a pipeline from a start time, the first reading an input, each
writing into the next; the pipeline ends with the last of them. -/
def stages (fuel : Nat) (cmds : List Cmd) (t0 : Int) (input : List UInt8) (ends : Int) (sh : Proc) :
    Flow × Proc :=
  match fuel with
  | 0 => (.next, { sh with stuck := true })
  | fuel + 1 =>
    match cmds with
    | [] => (.next, { sh with clock := max ends sh.clock })
    | [c] =>
      let saved := sh.input
      let savedFile := sh.inputFile
      let (flow, sh) := subshell fuel c { sh with clock := t0, input := input, inputFile := false }
      (flow, { sh with clock := max ends sh.clock, input := saved, inputFile := savedFile })
    | c :: more =>
      let outer := sh.captured
      let (flow, sh1) := subshell fuel c
        ((({ sh with clock := t0, input := input, inputFile := false, captured := [] } : Proc)).setSink 1 .capture)
      let pipe := sh1.captured
      let sh2 := { sh1 with captured := outer, sinks := sh.sinks, signaled := none, input := sh.input,
                            inputFile := sh.inputFile }
      match flow with
      | .killed s => (.killed s, sh2)
      | _ => stages fuel more t0 pipe (max ends sh1.clock) sh2

/-- Runs an `if` from its first remaining branch. -/
def ifThen (fuel : Nat) (branches : List (Cmd × Cmd)) (other : Option Cmd) (sh : Proc) : Flow × Proc :=
  match fuel with
  | 0 => (.next, { sh with stuck := true })
  | fuel + 1 =>
    match branches with
    | [] =>
      match other with
      | some c => exec fuel c sh
      | none => (.next, { sh with status := 0 })
    | (cond, body) :: more =>
      let guard := sh.guarded
      let (flow, sh) := exec fuel cond { sh with guarded := true }
      let sh := { sh with guarded := guard }
      match flow with
      | .next => if sh.status = 0 then exec fuel body sh else ifThen fuel more other sh
      | f => (f, sh)

/-- Runs a `while` (or `until`) loop from its next round; `last` is the status of the last
round's body. -/
def loop (fuel : Nat) (negate : Bool) (cond body : Cmd) (last : Nat) (sh : Proc) : Flow × Proc :=
  match fuel with
  | 0 => (.next, { sh with stuck := true })
  | fuel + 1 =>
    if sh.stuck then (.next, sh)
    else
      let guard := sh.guarded
      let (f1, sh) := exec fuel cond { sh with guarded := true }
      let sh := { sh with guarded := guard }
      match f1 with
      | .next =>
        if (sh.status = 0) = negate then (.next, { sh with status := last })
        else
          let (f2, sh) := exec fuel body sh
          match f2 with
          | .next | .continueAt 0 | .continueAt 1 => loop fuel negate cond body sh.status sh
          | .breakOut 0 | .breakOut 1 => (.next, sh)
          | .breakOut (n + 2) => (.breakOut (n + 1), sh)
          | .continueAt (n + 2) => (.continueAt (n + 1), sh)
          | f => (f, sh)
      | .breakOut 0 | .breakOut 1 => (.next, sh)
      | f => (f, sh)

/-- Runs a `for` loop over the values left. -/
def forLoop (fuel : Nat) (name : String) (values : List String) (body : Cmd) (last : Nat) (sh : Proc) :
    Flow × Proc :=
  match fuel with
  | 0 => (.next, { sh with stuck := true })
  | fuel + 1 =>
    match values with
    | [] => (.next, { sh with status := last })
    | v :: rest =>
      if sh.readonlyVars.contains name then
        if sh.isBash then (.next, { sh.warn (name ++ ": readonly variable") with status := 1 })
        else (.exit (.exited 2), sh.warn (name ++ ": is read only"))
      else
      let (f, sh) := exec fuel body (sh.assign name v)
      match f with
      | .next | .continueAt 0 | .continueAt 1 => forLoop fuel name rest body sh.status sh
      | .breakOut 0 | .breakOut 1 => (.next, sh)
      | .breakOut (n + 2) => (.breakOut (n + 1), sh)
      | .continueAt (n + 2) => (.continueAt (n + 1), sh)
      | f => (f, sh)

/-- Runs a `for (( first; test; step ))` loop from its next round: the body and then `step`
while `test` is not zero; an empty test is always true. -/
def arithLoop (fuel : Nat) (test step : String) (body : Cmd) (last : Nat) (sh : Proc) :
    Flow × Proc :=
  match fuel with
  | 0 => (.next, { sh with stuck := true })
  | fuel + 1 =>
    if sh.stuck then (.next, sh)
    else
      let sub := fun w sh => expandParts fuel w sh
      let (go, sh) := if test.all Char.isWhitespace then (some (some 1), sh) else arithValue sub test sh
      match go with
      | none => sh.expansionFailed
      | some none => (.next, { sh with status := 1 })
      | some (some 0) => (.next, { sh with status := last })
      | some (some _) =>
        let (f, sh) := exec fuel body sh
        let next (sh : Proc) : Flow × Proc :=
          let code := sh.status
          match arithValue sub step sh with
          | (none, sh) => sh.expansionFailed
          | (some none, sh) => (.next, { sh with status := 1 })
          | (some (some _), sh) => arithLoop fuel test step body code sh
        match f with
        | .next | .continueAt 0 | .continueAt 1 => next sh
        | .breakOut 0 | .breakOut 1 => (.next, sh)
        | .breakOut (n + 2) => (.breakOut (n + 1), sh)
        | .continueAt (n + 2) => (.continueAt (n + 1), sh)
        | f => (f, sh)

/-- Decides an expression of `[[ … ]]`: words are expanded without splitting or file names,
and the right side of `==`, `=` and `!=` is a pattern. -/
def condEval (fuel : Nat) (e : Cond) (sh : Proc) : Verdict × Proc :=
  match fuel with
  | 0 => (.holds false, { sh with stuck := true })
  | fuel + 1 =>
    match e with
    | .not e => let (v, sh) := condEval fuel e sh; (v.negate, sh)
    | .and a b =>
      match condEval fuel a sh with
      | (.holds true, sh) => condEval fuel b sh
      | r => r
    | .or a b =>
      match condEval fuel a sh with
      | (.holds false, sh) => condEval fuel b sh
      | r => r
    | .word w =>
      match expandText fuel w sh with
      | (some t, sh) => (.holds !t.isEmpty, sh)
      | (none, sh) => (.failed, sh)
    | .unary op w =>
      match expandText fuel w sh with
      | (some t, sh) => (.holds (condUnary sh op t), sh)
      | (none, sh) => (.failed, sh)
    | .binary op l r =>
      match expandText fuel l sh with
      | (none, sh) => (.failed, sh)
      | (some lt, sh) =>
        if op = "==" ∨ op = "=" ∨ op = "!=" ∨ op = "=~" then
          match expandParts fuel r sh with
          | (none, sh) => (.failed, sh)
          | (some bits, sh) =>
            if op = "=~" then condRegex sh lt bits
            else
              let m := (Bit.pattern bits).matches lt
              (.holds (if op = "!=" then !m else m), sh)
        else
          match expandText fuel r sh with
          | (none, sh) => (.failed, sh)
          | (some rt, sh) => condCompare sh op lt rt

/-- Runs the first arm of a `case` whose pattern matches the subject. -/
def caseArms (fuel : Nat) (subject : String) (arms : List (List Word × Cmd)) (sh : Proc) : Flow × Proc :=
  match fuel with
  | 0 => (.next, { sh with stuck := true })
  | fuel + 1 =>
    match arms with
    | [] => (.next, { sh with status := 0 })
    | (pats, body) :: rest =>
      let (m, sh) := anyMatches fuel subject pats sh
      match m with
      | none => sh.expansionFailed
      | some true => exec fuel body sh
      | some false => caseArms fuel subject rest sh

/-- Whether one of the patterns matches the subject. -/
def anyMatches (fuel : Nat) (subject : String) (pats : List Word) (sh : Proc) : Option Bool × Proc :=
  match fuel with
  | 0 => (some false, { sh with stuck := true })
  | fuel + 1 =>
    match pats with
    | [] => (some false, sh)
    | p :: ps =>
      let (bits, sh) := expandParts fuel p sh
      match bits with
      | none => (none, sh)
      | some bits =>
        if (Bit.pattern bits).matches subject then (some true, sh) else anyMatches fuel subject ps sh

/-- Applies redirections in order; false when one fails, after its message. -/
def redirect (fuel : Nat) (rs : List Redir) (sh : Proc) : Bool × Proc :=
  match fuel with
  | 0 => (false, { sh with stuck := true })
  | fuel + 1 =>
    match rs with
    | [] => (true, sh)
    | r :: rest =>
      let (t, sh) := expandText fuel r.target sh
      match t with
      | none => (false, sh)
      | some t =>
        match applyRedir r t sh with
        | .ok sh => redirect fuel rest sh
        | .error sh => (false, sh)

/-- Expands words into fields: split, and matched against the files. -/
def expandFields (fuel : Nat) (ws : List Word) (sh : Proc) : Option (List String) × Proc :=
  match fuel with
  | 0 => (some [], { sh with stuck := true })
  | fuel + 1 =>
    match ws with
    | [] => (some [], sh)
    | w :: rest =>
      let (bits, sh) := expandParts fuel w sh
      match bits with
      | none => (none, sh)
      | some bits =>
        let fields := Bit.fields sh.separators bits
        let fields := if sh.noglob then fields.map (fun f => String.ofList (f.map (·.1)))
          else fields.flatMap (expandGlob sh.disk sh.cwd)
        let (more, sh) := expandFields fuel rest sh
        (more.map (fields ++ ·), sh)

/-- Expands a word into one text, without splitting or file names. -/
def expandText (fuel : Nat) (w : Word) (sh : Proc) : Option String × Proc :=
  match fuel with
  | 0 => (some "", { sh with stuck := true })
  | fuel + 1 =>
    let (bits, sh) := expandParts fuel w sh
    (bits.map Bit.text, sh)

/-- Expands the values of assignments; the value of `name+=word` is the old value with the
word after it, or for an integer variable their sum. -/
def expandAssigns (fuel : Nat) (assigns : List Assign) (sh : Proc) :
    Option (List (String × String)) × Proc :=
  match fuel with
  | 0 => (some [], { sh with stuck := true })
  | fuel + 1 =>
    match assigns with
    | [] => (some [], sh)
    | a :: rest =>
      let (v, sh) := expandText fuel a.value sh
      match v with
      | none => (none, sh)
      | some v =>
        let v := if a.append then appendedValue sh a.name v else v
        let (more, sh) := expandAssigns fuel rest sh
        (more.map ((a.name, v) :: ·), sh)

/-- Expands the words of array assignments, each into its fields. -/
def expandArrays (fuel : Nat) (assigns : List Assign) (sh : Proc) :
    Option (List (Assign × List String)) × Proc :=
  match fuel with
  | 0 => (some [], { sh with stuck := true })
  | fuel + 1 =>
    match assigns with
    | [] => (some [], sh)
    | a :: rest =>
      let (vs, sh) := expandFields fuel ((a.items.getD []).flatMap Brace.expand) sh
      match vs with
      | none => (none, sh)
      | some vs =>
        let (more, sh) := expandArrays fuel rest sh
        (more.map ((a, vs) :: ·), sh)

/-- Expands the parts of a word into bits; none after an error, its message written. -/
def expandParts (fuel : Nat) (ps : List Part) (sh : Proc) : Option (List Bit) × Proc :=
  match fuel with
  | 0 => (some [], { sh with stuck := true })
  | fuel + 1 =>
    match ps with
    | [] => (some [], sh)
    | p :: rest =>
      let (bits, sh) := expandPart fuel p sh
      match bits with
      | none => (none, sh)
      | some bits =>
        let (more, sh) := expandParts fuel rest sh
        (more.map (bits ++ ·), sh)

/-- Expands one part of a word. -/
def expandPart (fuel : Nat) (p : Part) (sh : Proc) : Option (List Bit) × Proc :=
  match fuel with
  | 0 => (some [], { sh with stuck := true })
  | fuel + 1 =>
    match p with
    | .lit s q => (some (Bit.ofText s q false), sh)
    | .tilde user =>
      if user.isEmpty then (some (((sh.get? "HOME").getD "").toList.map fun c => .char c true false), sh)
      else (some (Bit.ofText ("~" ++ user) false false), sh)
    | .command text q =>
      let (out, sh) := substitute fuel text sh
      (out.map (Bit.ofText · q !q), sh)
    | .arith text q => arithBits (fun w sh => expandParts fuel w sh) text q sh
    | .param name op arg q => paramBits (fun w sh => expandParts fuel w sh) name op arg q sh

/-- Runs a command substitution: its script in a subshell whose output is captured; the
output without trailing newlines. -/
def substitute (fuel : Nat) (text : String) (sh : Proc) : Option String × Proc :=
  match fuel with
  | 0 => (some "", { sh with stuck := true })
  | fuel + 1 =>
    let outer := sh.captured
    let child := ({ sh.clearTraps with captured := [], forked := true } : Proc).setSink 1 .capture
    let (flow, child) := script fuel (Src.ofText text child.isBash) false child
    let (flow, child) := leave fuel flow child
    let out := child.captured
    let sh' := sh.after child (flow.status child)
    let sh' := { sh' with captured := outer, substituted := some (flow.status child), signaled := none }
    (some (dropNewlines (Raw.ofBytes out)), sh')

/-- Runs a simple command. -/
def simple (fuel : Nat) (assigns : List Assign) (words : List Word) (redirs : List Redir)
    (sh : Proc) : Flow × Proc :=
  match fuel with
  | 0 => (.next, { sh with stuck := true })
  | fuel + 1 =>
    let sh := { sh with substituted := none }
    let words := if sh.isBash then words.flatMap Brace.expand else words
    let (fields, sh) := expandFields fuel words sh
    match fields with
    | none => sh.expansionFailed
    | some fields =>
      let (after, assigns) := assigns.partition (·.argument)
      let (lists, plain) := assigns.partition (·.items.isSome)
      let (vals, sh) := expandAssigns fuel plain sh
      let (lists, sh) := expandArrays fuel lists sh
      match vals, lists with
      | none, _ | _, none => sh.expansionFailed
      | some vals, some lists =>
        let names := vals.map (·.1) ++ lists.map (·.1.name)
        let blocked (n : String) : Bool := sh.readonlyVars.contains (Proc.splitSubscript n).1
        match names.find? blocked with
        | some n =>
          if !sh.isBash then (.exit (.exited 2), sh.warn (n ++ ": is read only"))
          else if fields.isEmpty then (.exit (.exited 1), { sh.warn (n ++ ": readonly variable") with status := 1 })
          else
            simpleRun fuel (vals.filter fun (m, _) => !blocked m) [] fields redirs
              (sh.warn (n ++ ": readonly variable"))
        | none =>
          let (flow, sh) := simpleRun fuel vals lists fields redirs sh
          match flow, after with
          | .next, _ :: _ =>
            let (more, sh) := expandArrays fuel after sh
            match more with
            | none => sh.expansionFailed
            | some more =>
              (.next, more.foldl (fun (sh : Proc) (a, vs) =>
                if a.append then sh.appendArray a.name vs else sh.setArray a.name vs) sh)
          | f, _ => (f, sh)

/-- Runs a simple command whose words and assignments are expanded: the assignments alone,
or the command named by the first field. -/
def simpleRun (fuel : Nat) (vals : List (String × String)) (lists : List (Assign × List String))
    (fields : List String) (redirs : List Redir) (sh : Proc) : Flow × Proc :=
  match fuel with
  | 0 => (.next, { sh with stuck := true })
  | fuel + 1 =>
    let input := redirs.any (·.fd = 0)
    let failed : Nat := if sh.isBash then 1 else 2
    match fields with
    | [] =>
      let sh := sh.assignAll vals
      let sh := lists.foldl (fun (sh : Proc) (a, vs) =>
        if a.append then sh.appendArray a.name vs else sh.setArray a.name vs) sh
      let saved := sh
      let (ok, sh) := redirect fuel redirs sh
      let code := if ok then sh.substituted.getD 0 else failed
      let sh := if ok then sh.traced saved vals [] else sh
      (.next, { sh.restoreFrom saved input with status := code })
    | name :: args =>
      let saved := sh
      let (ok, sh) := redirect fuel redirs sh
      if !ok then
        if specialNames.contains name ∧ !sh.isBash then (.exit (.exited 2), sh.restoreFrom saved true)
        else (.next, { sh.restoreFrom saved true with status := failed })
      else
        let (flow, sh) := invoke fuel name args vals (sh.traced saved vals fields)
        if name = "exec" ∧ args.isEmpty then (flow, sh)
        else (flow, sh.restoreFrom saved input)

/-- Runs a command by name, after its redirections: a command of the shell itself, a
function, or a program. -/
def invoke (fuel : Nat) (name : String) (args : List String) (vals : List (String × String)) (sh : Proc) :
    Flow × Proc :=
  match fuel with
  | 0 => (.next, { sh with stuck := true })
  | fuel + 1 =>
    if name = "exec" then
      match args with
      | [] => (.next, { sh.assignAll vals with status := 0 })
      | prog :: rest => replace fuel prog rest vals sh
    else if name = "eval" then
      script fuel (Src.ofText (" ".intercalate args) sh.isBash) false { sh.assignAll vals with status := 0 }
    else if name = "." ∨ (sh.isBash ∧ name = "source") then
      match args with
      | [] =>
        if sh.isBash then sh.misused name "filename argument required" (name ++ " filename [arguments]")
        else (.next, { sh with status := 0 })
      | file :: _ =>
        let found := if file.contains '/' then some file
          else sh.searchDirs.map (fun d => (if d.isEmpty then "." else d) ++ "/" ++ file)
            |>.find? fun p => match sh.kindOf p with | .file _ _ => true | _ => false
        let found := if sh.isBash then found.orElse fun _ =>
            match sh.kindOf file with | .file _ _ => some file | _ => none
          else found
        match found with
        | none =>
          if sh.isBash then (.next, sh.complain (file ++ ": No such file or directory"))
          else (.exit (.exited 2), sh.warn (".: " ++ file ++ ": not found"))
        | some path =>
          match sh.disk.read (sh.cwd.resolve path) with
          | .error e => (.exit (.exited 2), sh.warn (".: cannot open " ++ file ++ ": " ++ redirErrno false e))
          | .ok bs =>
            let outer := sh
            let (flow, sh) := script fuel (Src.ofText (Raw.ofBytes bs) sh.isBash) false
              { sh.assignAll vals with origin := file, errorName := some file, sourced := true }
            let sh := { sh with origin := outer.origin, errorName := outer.errorName, sourced := outer.sourced }
            match flow with
            | .returned => (.next, sh)
            | f => (f, sh)
    else if name = "command" then
      match args with
      | "-v" :: n :: _ =>
        if isBuiltin n ∨ (sh.isBash ∧ (bashBuiltin? n).isSome) ∨ keywords.contains n ∨ (sh.functions.lookup n).isSome then
          ((sh.say 1 (n ++ "\n")).done 0)
        else
          match sh.locate n with
          | .ok p => (sh.say 1 (p ++ "\n")).done 0
          | .error _ => sh.done 127
      | "-V" :: rest => if sh.isBash then bashType "command" rest sh else typeOf rest sh
      | n :: rest =>
        match sh.builtinOf? n with
        | some b => b rest sh
        | none => external fuel n rest vals sh
      | [] => sh.done 0
    else if name = "type" then if sh.isBash then bashType "type" args sh else typeOf args sh
    else if specialNames.contains name then
      match sh.builtinOf? name with
      | some b => b args (sh.assignAll vals)
      | none => sh.done 0
    else
      match sh.functions.lookup name with
      | some body =>
        let saved := sh
        let (flow, sh) := call fuel name body args (sh.assignAll vals)
        (flow, sh.restoreVars saved vals)
      | none =>
        match sh.builtinOf? name with
        | some b =>
          let saved := sh
          let (flow, sh) := b args (sh.assignAll vals)
          (flow, sh.restoreVars saved vals)
        | none => external fuel name args vals sh

/-- Calls a function with arguments as its positional parameters; the variables it made
local get back the values they had. -/
def call (fuel : Nat) (name : String) (body : Cmd) (args : List String) (sh : Proc) : Flow × Proc :=
  match fuel with
  | 0 => (.next, { sh with stuck := true })
  | fuel + 1 =>
    let before := sh
    let origin := (sh.functionOrigins.lookup name).getD sh.origin
    let (flow, sh) := exec fuel body
      { sh with params := args, locals := some [], origin, errorName := some origin }
    let sh := (sh.locals.getD []).foldl Proc.restore sh
    let sh := { sh with params := before.params, locals := before.locals, origin := before.origin,
                        errorName := before.errorName }
    match flow with
    | .returned | .breakOut _ | .continueAt _ => (.next, sh)
    | f => (f, sh)

/-- Runs a program as a child of the shell and waits for it. -/
def external (fuel : Nat) (name : String) (args : List String) (vals : List (String × String)) (sh : Proc) :
    Flow × Proc :=
  match fuel with
  | 0 => (.next, { sh with stuck := true })
  | fuel + 1 =>
    match sh.locate name with
    | .error (msg, code) => (sh.warn msg).done code
    | .ok path =>
      let inv : Program.Invocation :=
        { name, args, env := sh.childEnv vals, stdin := sh.input, stdinFile := sh.inputFile,
          disk := sh.disk, cwd := sh.cwd }
      let ran := program fuel path inv (sh.pid + sh.spawned + 1)
      let sh := ({ sh with spawned := sh.spawned + 1, input := [] } : Proc).absorb ran
      match ran.status with
      | some (.exited c) => sh.done (c % 256)
      | some (.signaled s) => (.next, { sh with status := 128 + s.number, signaled := some s })
      | none => (.next, sh)

/-- Replaces the shell by a program (`exec`): the shell ends as the program does. -/
def replace (fuel : Nat) (name : String) (args : List String) (vals : List (String × String)) (sh : Proc) :
    Flow × Proc :=
  match fuel with
  | 0 => (.next, { sh with stuck := true })
  | fuel + 1 =>
    match sh.locate name with
    | .error (msg, code) => (.exit (.exited code), sh.warn ("exec: " ++ msg))
    | .ok path =>
      let inv : Program.Invocation :=
        { name, args, env := sh.childEnv vals, stdin := sh.input, stdinFile := sh.inputFile,
          disk := sh.disk, cwd := sh.cwd }
      let ran := program fuel path inv sh.pid
      let sh := ({ sh with input := [], traps := [] } : Proc).absorb ran
      match ran.status with
      | some s => (.exit s, sh)
      | none => (.exit (.exited 0), sh)

/-- Runs a script one complete command at a time; at the top of a shell, `break` and
`continue` outside loops do nothing. -/
def script (fuel : Nat) (src : Src) (top : Bool) (sh : Proc) : Flow × Proc :=
  match fuel with
  | 0 => (.next, { sh with stuck := true })
  | fuel + 1 =>
    match next src with
    | .error e => (.exit (.exited 2), ({ sh with line := e.line } : Proc).warn e.msg)
    | .ok none => (.next, sh)
    | .ok (some (c, src')) =>
      let (flow, sh) := exec fuel c sh
      match flow with
      | .next => script fuel src' top sh
      | .breakOut _ | .continueAt _ => if top then script fuel src' top sh else (flow, sh)
      | .discard => if sh.forked then (.discard, sh) else script fuel src' top { sh with status := 1 }
      | f => (f, sh)

/-- What a process of a program does. -/
def program (fuel : Nat) (path : String) (inv : Program.Invocation) (pid : Nat) : Ran :=
  match fuel with
  | 0 => foreverRan inv.disk
  | fuel + 1 =>
    let base := lastPart path
    match inv.disk.files.lookup (inv.cwd.resolve path) with
    | some bytes =>
      match interpreterLine bytes with
      | some (interp, arg) => program fuel interp { inv with name := interp, args := arg.toList ++ path :: inv.args } pid
      | none => program fuel "/bin/sh" { inv with name := "/bin/sh", args := path :: inv.args } pid
    | none =>
      if shellNames.contains base then
        shellProgram fuel inv pid (if base = "bash" ∨ base = "rbash" then .bash else .dash)
      else if base = "env" then envRan (fun p i n => program fuel p i n) inv pid
      else if base = "xargs" then xargsRan (fun p i n => program fuel p i n) inv pid
      else toolRan path inv

/-- What a shell's process does: its options and script from its arguments (`-c` and a
script, a script file, or its standard input), then the script. -/
def shellProgram (fuel : Nat) (inv : Program.Invocation) (pid : Nat) (dialect : Dialect) : Ran :=
  match fuel with
  | 0 => foreverRan inv.disk
  | fuel + 1 =>
    match shellStart inv pid dialect with
    | .error r => r
    | .ok (sh, text) =>
      let (flow, sh) := script fuel (Src.ofText text sh.isBash) true sh
      let (flow, sh) := leave fuel flow sh
      let status : Status := match flow with
        | .exit s => s
        | .killed s => .signaled s
        | _ => .exited sh.status
      sh.finish (some status)

end

end Shell

/-- What a process of a program does on the machine, started with a path, its name as
called, arguments, environment, input, files and directory, and its process number. -/
def Machine.run (path : String) (inv : Program.Invocation) (pid : Nat) : Process.Ran :=
  Shell.program 100000 path inv pid

end Timebox
