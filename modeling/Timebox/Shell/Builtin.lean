import Timebox.Shell.State
import Timebox.Shell.Fields
import Timebox.Shell.Test
import Timebox.Shell.Parse
import Timebox.Program.Printf

/-! # The shell's own commands

The commands a shell runs itself, without starting a program: each is a function of its
arguments and the shell, giving how control goes on and the shell after it with its status
set. Their behaviour and messages are those of the Debian Almquist shell:

* `echo` reads backslash escapes always (`\c` ends all output, `\0NNN` and `\NNN` are octal
  bytes, a zero byte ends the argument), and takes only a first `-n`; bash's reads them only
  with `-e`, and takes clusters of `-n`, `-e` and `-E`;
* `printf` writes a format with the shell's rules (`Printf.shellRules`);
* `exit`, `return`, `break` and `continue` leave the shell, a function or loops; `exit`
  wants a number (`Illegal number: x`, status 2);
* `kill` sends a signal; sent to the shell itself, it ends it by that signal, unless a trap
  ignores it or runs an action for it (which then runs after the command);
* `trap` sets those actions, and one for the end of the shell;
* `export` and `readonly` mark variables, and a read-only one cannot be set or unset
  (`x: is read only`, which ends the shell); `local` makes a variable local to a function;
* `cd`, `unset`, `set`, `shift`, `read`, `test` and `[`, `wait`, `type` and the
  commands that do nothing here (`:`, `true`, `umask`, …).

A message reads `name: line: command: text`, as `sh: 1: exit: Illegal number: x`.
-/

namespace Timebox

namespace Shell

open Process

/-- A command the shell runs itself: its arguments and the shell, to how control goes on
and the shell after it. -/
abbrev Builtin := List String → Proc → Flow × Proc

namespace Proc

/-- The shell after a command that ended with a status. -/
def done (sh : Proc) (code : Nat) : Flow × Proc := (.next, { sh with status := code })

/-- The shell after a command that failed with a message. -/
def fail (sh : Proc) (cmd msg : String) (code : Nat) : Flow × Proc :=
  (sh.warn (cmd ++ ": " ++ msg)).done code

/-- What a path names from the shell's directory. -/
def kindOf (sh : Proc) (path : String) : Kind :=
  if path.isEmpty then .missing else sh.disk.kind (sh.cwd.resolve path)

/-- The path of a program found through the search path: the first directory holding an
executable file of the name. -/
def findProgram (sh : Proc) (name : String) : Option String :=
  sh.searchDirs.findSome? fun dir =>
    let path := (if dir.isEmpty then "." else dir) ++ "/" ++ name
    match sh.kindOf path with
    | .file _ true => some path
    | _ => none

end Proc

/-- Whether a text is a number as the shell reads one: digits only. -/
def isNumber (s : String) : Bool := !s.isEmpty && s.all Char.isDigit

/-! ### echo and printf -/

/-- The bytes of an argument of `echo` with its escapes read, up to a zero byte, and
whether a `\c` ended all output. -/
def echoBytes : Nat → List UInt8 → List UInt8 → List UInt8 × Bool
  | 0, _, acc => (acc, false)
  | _, [], acc => (acc, false)
  | fuel + 1, b :: rest, acc =>
    if b = 0 then (acc, false)
    else if b ≠ 0x5C then echoBytes fuel rest (acc ++ [b])
    else
      match rest with
      | [] => (acc ++ [b], false)
      | c :: more =>
        if c = 0x63 then (acc, true)
        else
          let start := if c = 0x30 && (more.head?.map Printf.isOctal).getD false then more else c :: more
          match start with
          | d :: r =>
            if Printf.isOctal d then
              let (v, r') := Printf.octalRun 3 start 0
              if v % 256 = 0 then (acc, false) else echoBytes fuel r' (acc ++ [Printf.byte (v % 256)])
            else
              match Printf.letterEscape false d with
              | some e => echoBytes fuel r (acc ++ [e])
              | none => echoBytes fuel (c :: more) (acc ++ [0x5C])
          | [] => (acc ++ [b], false)

/-- The output of `echo` for its arguments, a newline after unless `-n` came first. -/
def echoOutput (args : List String) : List UInt8 :=
  let (nl, args) := match args with
    | "-n" :: rest => (false, rest)
    | a => (true, a)
  let rec go : List String → List UInt8
    | [] => if nl then [10] else []
    | a :: rest =>
      let bs := Raw.toBytes a
      let (out, stop) := echoBytes (bs.length + 1) bs []
      if stop then out
      else if rest.isEmpty then out ++ (if nl then [10] else [])
      else out ++ [0x20] ++ go rest
  go args

/-- The bytes of an argument of bash's `echo -e` with its escapes read, and whether a `\c`
ended all output: the letters of C and `\e` for the escape byte, `\0` and up to three octal
digits, `\x` and up to two hexadecimal digits, `\u` and `\U` and up to four or eight for
a character; any other backslash stays as it is. -/
def bashEchoBytes : Nat → List UInt8 → List UInt8 → List UInt8 × Bool
  | 0, _, acc => (acc, false)
  | _, [], acc => (acc, false)
  | fuel + 1, b :: rest, acc =>
    if b ≠ 0x5C then bashEchoBytes fuel rest (acc ++ [b])
    else
      match rest with
      | [] => (acc ++ [b], false)
      | c :: more =>
        if c = 0x63 then (acc, true)
        else if c = 0x30 then
          let (v, r) := Printf.octalRun 3 more 0
          bashEchoBytes fuel r (acc ++ [Printf.byte (v % 256)])
        else if c = 0x78 then
          let (v, k, r) := Printf.hexRun 2 more 0 0
          if k = 0 then bashEchoBytes fuel more (acc ++ [0x5C, 0x78])
          else bashEchoBytes fuel r (acc ++ [Printf.byte v])
        else if c = 0x75 ∨ c = 0x55 then
          let (v, k, r) := Printf.hexRun (if c = 0x75 then 4 else 8) more 0 0
          if k = 0 then bashEchoBytes fuel more (acc ++ [0x5C, c])
          else bashEchoBytes fuel r (acc ++ Text.utf8Bytes (String.singleton (Char.ofNat v)))
        else if c = 0x65 ∨ c = 0x45 then bashEchoBytes fuel more (acc ++ [27])
        else
          match Printf.letterEscape false c with
          | some e => bashEchoBytes fuel more (acc ++ [e])
          | none => bashEchoBytes fuel more (acc ++ [0x5C, c])

/-- Whether an argument is a cluster of options of bash's `echo`: `-` and only `n`, `e` and
`E`. -/
def isBashEchoOption (a : String) : Bool :=
  match a.toList with
  | '-' :: cs => !cs.isEmpty && cs.all fun c => c = 'n' || c = 'e' || c = 'E'
  | _ => false

/-- The output of bash's `echo`: its leading option clusters read (`-n` drops the newline,
`-e` reads escapes, `-E` does not, the last one wins), then the other arguments separated
by blanks. -/
def bashEchoOutput (args : List String) : List UInt8 :=
  let opts := args.takeWhile isBashEchoOption
  let words := args.drop opts.length
  let (nl, esc) := opts.foldl (fun (acc : Bool × Bool) o =>
    (o.toList.drop 1).foldl (fun (acc : Bool × Bool) c =>
      if c = 'n' then (false, acc.2) else if c = 'e' then (acc.1, true) else (acc.1, false)) acc) (true, false)
  let rec go : List String → List UInt8
    | [] => if nl then [10] else []
    | a :: rest =>
      let bs := Raw.toBytes a
      let (out, stop) := if esc then bashEchoBytes (bs.length + 1) bs [] else (bs, false)
      if stop then out
      else if rest.isEmpty then out ++ (if nl then [10] else [])
      else out ++ [0x20] ++ go rest
  go words

/-- `echo`. -/
def echo : Builtin := fun args sh =>
  (sh.put 1 (if sh.isBash then bashEchoOutput args else echoOutput args)).done 0

/-- `printf`: it takes no options, so an argument that starts with `-` and is not `--` or
`-` alone is an illegal option. -/
def printf : Builtin := fun args sh =>
  let (args, bad) := match args with
    | "--" :: rest => (rest, none)
    | a :: rest =>
      match a.toList with
      | '-' :: c :: _ => (a :: rest, some c)
      | _ => (a :: rest, none)
    | [] => ([], none)
  match bad, args with
  | some c, _ => sh.fail "printf" ("Illegal option -" ++ c.toString) 2
  | none, [] => sh.fail "printf" "usage: printf format [arg ...]" 2
  | none, fmt :: rest =>
    let r := Printf.run Printf.shellRules fmt rest
    let sh := sh.put 1 r.out
    let sh := r.warnings.foldl (fun (s : Proc) w => s.warn ("printf: " ++ w)) sh
    match r.fatal with
    | some f => (sh.warn ("printf: " ++ f)).done Printf.shellRules.fatalStatus
    | none => sh.done (if r.failed then 1 else 0)

/-! ### Leaving -/

/-- `exit [n]`. -/
def exit : Builtin := fun args sh =>
  match args with
  | [] => (.exit (.exited sh.status), sh)
  | a :: _ =>
    if isNumber a then (.exit (.exited (a.toNat! % 256)), sh)
    else (.exit (.exited 2), sh.warn ("exit: Illegal number: " ++ a))

/-- `return [n]`. -/
def return_ : Builtin := fun args sh =>
  match args with
  | [] => (.returned, sh)
  | a :: _ =>
    if isNumber a then (.returned, { sh with status := a.toNat! % 256 })
    else (.exit (.exited 2), sh.warn ("return: Illegal number: " ++ a))

/-- The count of `break` or `continue`. -/
def loopCount (cmd : String) (args : List String) (sh : Proc) (k : Nat → Flow) : Flow × Proc :=
  match args with
  | [] => (k 1, { sh with status := 0 })
  | a :: _ =>
    if isNumber a ∧ a.toNat! > 0 then (k a.toNat!, { sh with status := 0 })
    else (.exit (.exited 2), sh.warn (cmd ++ ": Illegal number: " ++ a))

/-- `break [n]`. -/
def break_ : Builtin := fun args sh => loopCount "break" args sh .breakOut

/-- `continue [n]`. -/
def continue_ : Builtin := fun args sh => loopCount "continue" args sh .continueAt

/-! ### Signals -/

/-- The signal number of a name or number as `kill` reads it; zero tests a process. -/
def signalNumber? (s : String) : Option Nat :=
  if isNumber s then (if s.toNat! < 65 then some s.toNat! else none)
  else
    let up := s.toUpper
    let up := if up.startsWith "SIG" then String.ofList (up.toList.drop 3) else up
    (Signal.ofName? up).map (·.number)

/-- `kill [-s sig | -sig] pid…`: a signal to the shell's own process ends it. -/
def kill : Builtin := fun args sh =>
  let usage := sh.fail "kill" "Usage: kill [-s sigspec | -signum | -sigspec] [pid | job]... or\nkill -l [exitstatus]" 2
  let parsed : Except String (Nat × List String) :=
    match args with
    | "-s" :: sig :: rest =>
      match signalNumber? sig with
      | some n => .ok (n, rest)
      | none => .error ("invalid signal number or name: " ++ sig)
    | "-l" :: _ => .ok (0, [])
    | a :: rest =>
      if a.startsWith "-" ∧ a.length > 1 then
        match signalNumber? (String.ofList (a.toList.drop 1)) with
        | some n => .ok (n, rest)
        | none => .error ("invalid signal number or name: " ++ String.ofList (a.toList.drop 1))
      else .ok (15, a :: rest)
    | [] => .ok (15, [])
  match parsed with
  | .error e => sh.fail "kill" e 2
  | .ok (_, []) => usage
  | .ok (n, pids) =>
    pids.foldl (fun (acc : Flow × Proc) pid =>
      match acc with
      | (.killed s, sh) => (.killed s, sh)
      | (_, sh) =>
        if !isNumber pid then sh.fail "kill" ("Illegal number: " ++ pid) 2
        else if pid.toNat! = sh.pid then
          if n = 0 ∨ n = 9 then
            match Signal.ofNumber? n with
            | some s => (.killed s, sh)
            | none => sh.done 0
          else
            match sh.traps.lookup n, Signal.ofNumber? n with
            | some action, _ =>
              if action.isEmpty then sh.done 0 else ({ sh with pending := sh.pending ++ [n] }).done 0
            | none, some s => (.killed s, sh)
            | none, none => sh.done 0
        else sh.fail "kill" "No such process" 1) (.next, { sh with status := 0 })

/-! ### Directories and variables -/

/-- `cd [dir]`. -/
def cd : Builtin := fun args sh =>
  let target := match args with
    | [] => sh.get? "HOME"
    | d :: _ => some d
  match target with
  | none => sh.done 0
  | some d =>
    let p := sh.cwd.resolve d
    if sh.disk.isDirectory p then
      let pwd := match p with
        | .system s => s
        | .tree _ => ((sh.get? "PWD").getD "") ++ "/" ++ d
      ({ sh with cwd := p }.assign "OLDPWD" ((sh.get? "PWD").getD "") |>.assign "PWD" pwd).done 0
    else sh.fail "cd" ("can't cd to " ++ d) 2

/-- `pwd`. -/
def pwd : Builtin := fun _ sh =>
  let dir := match sh.cwd with
    | .system s => s
    | .tree _ => (sh.get? "PWD").getD "/"
  (sh.say 1 (dir ++ "\n")).done 0

/-- The octal digits of a mask, four of them. -/
def maskDigits (m : Nat) : String :=
  String.ofList ((List.range 4).reverse.map fun i => Char.ofNat (48 + m / Nat.pow 8 i % 8))

/-- A mask as the permissions it leaves, `u=rwx,g=rx,o=rx`. -/
def maskSymbols (m : Nat) : String :=
  ",".intercalate ((List.range 3).map fun i =>
    let bits := m / Nat.pow 8 (2 - i) % 8
    String.ofList (["ugo".toList.getD i 'u', '='] ++
      ((List.range 3).filterMap fun j => if bits / Nat.pow 2 (2 - j) % 2 = 0 then "rwx".toList[j]? else none)))

/-- `umask [-S] [mode]`: writes the mask, in octal or with `-S` as the permissions it leaves,
or sets it from octal digits. -/
def umask : Builtin := fun args sh =>
  let (symbolic, rest, bad) := args.foldl (fun (acc : Bool × List String × Option Char) a =>
    let (sym, rest, bad) := acc
    if bad.isSome ∨ !rest.isEmpty then (sym, rest ++ [a], bad)
    else if a = "--" then (sym, [""], bad)
    else if a.startsWith "-" ∧ a.length > 1 then
      match (a.toList.drop 1).find? (· ≠ 'S') with
      | some c => (sym, rest, some c)
      | none => (true, rest, bad)
    else (sym, [a], bad)) (false, [], none)
  let rest := rest.filter (· ≠ "")
  match bad with
  | some c => sh.fail "umask" ("Illegal option -" ++ c.toString) 2
  | none =>
    match rest with
    | [] => (sh.say 1 ((if symbolic then maskSymbols sh.mask else maskDigits sh.mask) ++ "\n")).done 0
    | m :: _ =>
      if m.toList.all Char.isDigit then
        if m.toList.all (fun c => c.toNat < 56) then
          { sh with mask := m.toList.foldl (fun (n : Nat) (c : Char) => n * 8 + (c.toNat - 48)) 0 % 512 }.done 0
        else sh.fail "umask" ("Illegal number: " ++ m) 2
      else sh.done 0

/-- A variable's value quoted as `export -p` and `set` write it. -/
def quoteValue (v : String) : String :=
  "'" ++ String.join (v.toList.map fun c => if c.toNat = 39 then "'\"'\"'" else c.toString) ++ "'"

/-- Names in the order of their bytes, each once. -/
def sortNames (names : List String) : List String :=
  (names.foldl (fun acc n => if acc.contains n then acc else acc ++ [n]) []).mergeSort
    fun a b => !decide (b < a)

/-- A name and its value, when it has one, split at the first `=`. -/
def splitAssignment (a : String) : String × Option String :=
  match a.splitOn "=" with
  | n :: rest => (n, if rest.isEmpty then none else some ("=".intercalate rest))
  | [] => (a, none)

/-- `export` and `readonly`: names, or `name=value` assignments, made exported or read-only;
alone or with `-p`, the list of such names in order, each with its value. -/
def exportNames (cmd : String) (exported : Bool) : Builtin := fun args sh =>
  match args with
  | ["-p"] | [] =>
    let names := sortNames (if exported then sh.exported else sh.readonlyVars)
    let sh := names.foldl (fun (s : Proc) n =>
      let shown := match sh.get? n with
        | some v => n ++ "=" ++ quoteValue v
        | none => n
      s.say 1 (cmd ++ " " ++ shown ++ "\n")) sh
    sh.done 0
  | _ =>
    args.foldl (fun (acc : Flow × Proc) a =>
      match acc with
      | (.exit s, sh) => (.exit s, sh)
      | (_, sh) =>
        let (n, v) := splitAssignment a
        if !isName n then (.exit (.exited 2), sh.warn (cmd ++ ": " ++ n ++ ": bad variable name"))
        else if v.isSome ∧ sh.readonlyVars.contains n then
          (.exit (.exited 2), sh.warn (cmd ++ ": " ++ n ++ ": is read only"))
        else
          let sh := match v with
            | some v => sh.assign n v
            | none => sh
          let sh := if exported then sh.exportVar n
            else if sh.readonlyVars.contains n then sh
            else { sh with readonlyVars := sh.readonlyVars ++ [n] }
          sh.done 0) (.next, { sh with status := 0 })

/-- `local`, inside a function: each name, or `name=value` assignment, made local to it: the
value it has now is restored when the function returns. -/
def local_ : Builtin := fun args sh =>
  match sh.locals with
  | none => (.exit (.exited 2), sh.warn "local: not in a function")
  | some _ =>
    args.foldl (fun (acc : Flow × Proc) a =>
      match acc with
      | (.exit s, sh) => (.exit s, sh)
      | (_, sh) =>
        if a = "-" then (.next, sh)
        else
          let (n, v) := splitAssignment a
          if !isName n then (.exit (.exited 2), sh.warn ("local: " ++ n ++ ": bad variable name"))
          else
            let saved := sh.locals.getD []
            let sh := if saved.any (·.name = n) then sh else { sh with locals := some (saved ++ [sh.save n]) }
            match v with
            | some v =>
              if sh.readonlyVars.contains n then (.exit (.exited 2), sh.warn (n ++ ": is read only"))
              else (.next, sh.assign n v)
            | none => (.next, sh)) (.next, { sh with status := 0 })

/-- `unset [-f | -v] name…`. -/
def unset : Builtin := fun args sh =>
  let unsetVars (names : List String) : Flow × Proc :=
    names.foldl (fun (acc : Flow × Proc) n =>
      match acc with
      | (.exit s, sh) => (.exit s, sh)
      | (_, sh) =>
        if sh.readonlyVars.contains n then (.exit (.exited 2), sh.warn ("unset: " ++ n ++ ": is read only"))
        else (.next, sh.unset n)) (.next, { sh with status := 0 })
  match args with
  | "-f" :: names => ({ sh with functions := sh.functions.filter fun (n, _) => !names.contains n }).done 0
  | "-v" :: names => unsetVars names
  | names => unsetVars names

/-- The names of the conditions `trap` takes, by number: the end of the shell, then the
signals. -/
def trapNames : List String :=
  ["EXIT", "HUP", "INT", "QUIT", "ILL", "TRAP", "ABRT", "BUS", "FPE", "KILL", "USR1", "SEGV",
   "USR2", "PIPE", "ALRM", "TERM", "STKFLT", "CHLD", "CONT", "STOP", "TSTP", "TTIN", "TTOU",
   "URG", "XCPU", "XFSZ", "VTALRM", "PROF", "WINCH", "IO", "PWR", "SYS"]

/-- The condition a word of `trap` names: a number below 65, or a name in any case. -/
def trapCondition? (s : String) : Option Nat :=
  if isNumber s then (if s.toNat! < 65 then some s.toNat! else none)
  else trapNames.findIdx? (· = s.toUpper)

/-- The name of a condition of `trap`. -/
def trapName (n : Nat) : String := trapNames.getD n (toString n)

/-- `trap [action] condition…`: what the shell does on each condition from now on; an empty
action ignores a signal, and `-`, or no action before a first condition, restores what it
would do without. Alone, the traps set, in order. A word that names no condition is a bad
trap. -/
def trap : Builtin := fun args sh =>
  let args := match args with
    | "--" :: rest => rest
    | _ => args
  match args with
  | [] =>
    let sorted := sh.traps.mergeSort fun a b => decide (a.1 ≤ b.1)
    let sh := sorted.foldl (fun (s : Proc) (n, a) =>
      s.say 1 ("trap -- " ++ quoteValue a ++ " " ++ trapName n ++ "\n")) sh
    sh.done 0
  | first :: rest =>
    if first.startsWith "-" ∧ first.length > 1 then
      (.exit (.exited 2), sh.warn ("trap: Illegal option -" ++ ((first.toList.drop 1).headD '-').toString))
    else
      let (action, conds) : Option String × List String :=
        if rest.isEmpty ∨ (trapCondition? first).isSome then (none, args) else (some first, rest)
      let action := if action = some "-" then none else action
      let step (acc : Except Proc Proc) (c : String) : Except Proc Proc :=
        acc.bind fun sh =>
          match trapCondition? c with
          | none => .error (sh.say 2 ("trap: " ++ c ++ ": bad trap\n"))
          | some n =>
            .ok { sh with traps := sh.traps.filter (·.1 ≠ n) ++ (action.map fun a => [(n, a)]).getD [] }
      match conds.foldl step (.ok sh) with
      | .ok sh => sh.done 0
      | .error sh => sh.done 1

/-- The options `set` and the shell take: a letter on or off. -/
def Proc.setOption (sh : Proc) (c : Char) (on : Bool) : Option Proc :=
  if c = 'e' then some { sh with errexit := on }
  else if c = 'u' then some { sh with nounset := on }
  else if c = 'f' then some { sh with noglob := on }
  else if c = 'x' then some { sh with xtrace := on }
  else if "IimnsvVECabp".contains c then some sh
  else none

/-- The letter of an option set by its long name. -/
def optionLetter? (name : String) : Option Char :=
  [("errexit", 'e'), ("noglob", 'f'), ("ignoreeof", 'I'), ("interactive", 'i'), ("monitor", 'm'),
   ("noexec", 'n'), ("stdin", 's'), ("xtrace", 'x'), ("verbose", 'v'), ("vi", 'V'), ("emacs", 'E'),
   ("noclobber", 'C'), ("allexport", 'a'), ("notify", 'b'), ("nounset", 'u'),
   ("privileged", 'p')].lookup name

/-- The options at the front of `set`'s arguments applied, and the operands after them (none
when no operand list was given). -/
def setOptions : Nat → List String → Proc → Except String (Proc × Option (List String))
  | 0, _, sh => .ok (sh, none)
  | _, [], sh => .ok (sh, none)
  | fuel + 1, a :: rest, sh =>
    if a = "--" then .ok (sh, some rest)
    else if (a.startsWith "-" ∨ a.startsWith "+") ∧ a.length > 1 then
      let on := a.startsWith "-"
      let letters := a.toList.drop 1
      if letters = ['o'] then
        match rest with
        | name :: more =>
          match optionLetter? name with
          | some c => match sh.setOption c on with
            | some sh => setOptions fuel more sh
            | none => .error ("Illegal option -o " ++ name)
          | none => .error ("Illegal option -o " ++ name)
        | [] => .ok (sh, none)
      else
        let step (acc : Except String Proc) (c : Char) : Except String Proc :=
          acc.bind fun sh => match sh.setOption c on with
            | some sh => .ok sh
            | none => .error ("Illegal option -" ++ c.toString)
        match letters.foldl step (.ok sh) with
        | .ok sh => setOptions fuel rest sh
        | .error e => .error e
    else if a = "-" then .ok (sh, some rest)
    else .ok (sh, some (a :: rest))

/-- `set`: options, and new positional parameters. -/
def set : Builtin := fun args sh =>
  if args.isEmpty then
    (sh.vars.foldl (fun (s : Proc) (k, v) => s.say 1 (k ++ "=" ++ quoteValue v ++ "\n")) sh).done 0
  else
    match setOptions (args.length + 1) args sh with
    | .error e => (.exit (.exited 2), sh.warn ("set: " ++ e))
    | .ok (sh, none) => sh.done 0
    | .ok (sh, some ps) => ({ sh with params := ps }).done 0

/-- `shift [n]`. -/
def shift : Builtin := fun args sh =>
  let n := match args with
    | [] => some 1
    | a :: _ => if isNumber a then some a.toNat! else none
  match n with
  | none => (.exit (.exited 2), sh.warn ("shift: Illegal number: " ++ args.headD ""))
  | some n =>
    if n > sh.params.length then (.exit (.exited 2), sh.warn "shift: can't shift that many")
    else ({ sh with params := sh.params.drop n }).done 0

/-- A line of input as `read` takes it: the characters (marked when escaped by a backslash,
unless raw), the input after it, and whether a newline ended it. -/
def takeLine (raw : Bool) : Nat → List UInt8 → List (Char × Bool) → List (Char × Bool) × List UInt8 × Bool
  | 0, bs, acc => (acc, bs, false)
  | _, [], acc => (acc, [], false)
  | fuel + 1, b :: rest, acc =>
    if b = 10 then (acc, rest, true)
    else if b = 0x5C ∧ !raw then
      match rest with
      | 10 :: more => takeLine raw fuel more acc
      | c :: more => takeLine raw fuel more (acc ++ (Raw.ofBytes [c]).toList.map (·, true))
      | [] => (acc, [], false)
    else takeLine raw fuel rest (acc ++ (Raw.ofBytes [b]).toList.map (·, false))

/-- Takes a line of input whose bytes may form longer characters: bytes are read one by one
and the line's text is decoded as a whole. -/
def lineText (cs : List (Char × Bool)) : List (Char × Bool) :=
  let bytes := cs.flatMap fun (c, e) => (Raw.toBytes c.toString).map (·, e)
  if cs.all (fun (_, e) => !e) then (Raw.ofBytes (bytes.map (·.1))).toList.map (·, false) else cs

/-- `read [-r] [name…]`. -/
def read : Builtin := fun args sh =>
  let (raw, names) := (args.filter (· = "-r") |>.isEmpty |> not, args.filter (· ≠ "-r"))
  let names := if names.isEmpty then ["REPLY"] else names
  let (line, rest, ended) := takeLine raw (sh.input.length + 1) sh.input []
  let eof := !ended
  let fields := readFields sh.separators (lineText line) names.length
  match names.find? sh.readonlyVars.contains with
  | some n =>
    if sh.isBash then sh.fail n "readonly variable" 1
    else sh.fail "read" (n ++ ": is read only") 2
  | none =>
    let sh := (names.zip fields).foldl (fun (s : Proc) (n, v) => s.assign n v) { sh with input := rest }
    sh.done (if eof then 1 else 0)

/-- `test` and `[`. -/
def test (cmd : String) : Builtin := fun args sh =>
  let args :=
    if cmd = "[" then (if args.getLast? = some "]" then some args.dropLast else none) else some args
  match args with
  | none => sh.fail cmd "missing ]" 2
  | some args =>
    match Test.eval sh.kindOf args with
    | .ok code => sh.done code
    | .error e => sh.fail cmd e 2

/-- `wait`: until the background commands end. -/
def wait : Builtin := fun _ sh => ({ sh with clock := max sh.clock sh.background }).done 0

/-- A command that does nothing and succeeds. -/
def nothing : Builtin := fun _ sh => sh.done 0

/-- `false`. -/
def false_ : Builtin := fun _ sh => sh.done 1

/-- The commands the shell runs itself that leave it on errors, and whose assignments
stay. -/
def specialNames : List String :=
  [":", ".", "break", "continue", "eval", "exec", "exit", "export", "local", "readonly", "return",
   "set", "shift", "times", "trap", "unset"]

/-- The reserved words of the shell. -/
def keywords : List String :=
  ["!", "\x7b", "\x7d", "case", "do", "done", "elif", "else", "esac", "fi", "for", "if", "in", "then",
   "until", "while"]

/-- The commands the shell runs itself that need nothing but their arguments and the shell;
`eval`, `.`, `exec` and `command` run commands and are not here. -/
def builtin? (name : String) : Option Builtin :=
  if name = "echo" then some echo
  else if name = "printf" then some printf
  else if name = "exit" then some exit
  else if name = "return" then some return_
  else if name = "break" then some break_
  else if name = "continue" then some continue_
  else if name = "kill" then some kill
  else if name = "cd" ∨ name = "chdir" then some cd
  else if name = "pwd" then some pwd
  else if name = "export" then some (exportNames "export" true)
  else if name = "readonly" then some (exportNames "readonly" false)
  else if name = "unset" then some unset
  else if name = "set" then some set
  else if name = "shift" then some shift
  else if name = "read" then some read
  else if name = "test" then some (test "test")
  else if name = "[" then some (test "[")
  else if name = "wait" then some wait
  else if name = "false" then some false_
  else if name = "trap" then some trap
  else if name = "local" then some local_
  else if name = "umask" then some umask
  else if [":", "true", "times", "hash", "alias", "unalias", "getopts", "ulimit", "jobs", "fg", "bg"].contains name then
    some nothing
  else none

/-- Whether the shell runs a command itself. -/
def isBuiltin (name : String) : Bool :=
  (builtin? name).isSome || [".", "eval", "exec", "command", "type"].contains name

/-- `type name…`: what each name runs. -/
def typeOf : Builtin := fun args sh =>
  args.foldl (fun (acc : Flow × Proc) n =>
    let sh := acc.2
    if keywords.contains n then (sh.say 1 (n ++ " is a shell keyword\n")).done acc.2.status
    else if (sh.functions.lookup n).isSome then (sh.say 1 (n ++ " is a shell function\n")).done sh.status
    else if specialNames.contains n then (sh.say 1 (n ++ " is a special shell builtin\n")).done sh.status
    else if isBuiltin n then (sh.say 1 (n ++ " is a shell builtin\n")).done sh.status
    else
      let found := if n.contains '/' then
          (match sh.kindOf n with | .file _ true => some n | _ => none)
        else sh.findProgram n
      match found with
      | some p => (sh.say 1 (n ++ " is " ++ p ++ "\n")).done sh.status
      | none => (sh.say 1 (n ++ ": not found\n")).done 127) (.next, { sh with status := 0 })

end Shell

end Timebox
