import Timebox.Program.Tools

/-! # Tools that make, copy, move and remove files

`mkdir`, `touch`, `rm`, `rmdir`, `cp`, `mv` and `chmod` change the files a process sees
(`Disk`). Each works operand by operand: an operand that fails is told on the standard
error as `name: cannot remove 'x': No such file or directory`, the others still go on,
and the exit code is 1 when one failed. `-v` tells each change on the standard output.

* `mkdir` makes directories, with `-p` also the missing ones above and none for one that
  is there;
* `touch` makes missing files empty, or with `-c` none;
* `rm` removes files, with `-r` also directories and all below them, with `-d` empty
  directories; `-f` keeps quiet about missing ones;
* `rmdir` removes empty directories, with `-p` also the ones above that become empty;
* `cp` and `mv` copy or move sources to a target, or into it when it is a directory;
  `cp` takes directories only with `-r`;
* `chmod` changes permission bits by an octal or symbolic mode (`755`, `u+x,go-w`), with
  `-R` also below directories.
-/

namespace Timebox

namespace Program

open Process

/-- What the options of a call are: the option letters and long options, and the operands. -/
structure Call where
  opts : List String := []
  ops : List String := []

/-- Splits arguments into options and operands. A letter of `valued` takes the rest of its
cluster or the next argument as its value, which is dropped; a long option is kept whole
up to its `=`; after `--` everything is an operand. Gives the letter whose value is
missing, if one is. -/
def scanCall (valued : List Char) : Nat → List String → Call → Except Char Call
  | 0, _, c => .ok c
  | _, [], c => .ok c
  | fuel + 1, a :: rest, c =>
    if a = "--" then .ok { c with ops := c.ops ++ rest }
    else if a.startsWith "--" then
      scanCall valued fuel rest { c with opts := c.opts ++ [(a.splitOn "=").headD a] }
    else if a.startsWith "-" ∧ a.length > 1 then
      let letters := a.toList.drop 1
      match letters.findIdx? (valued.contains ·) with
      | some i =>
        let c := { c with opts := c.opts ++ (letters.take (i + 1)).map String.singleton }
        if i + 1 < letters.length then scanCall valued fuel rest c
        else
          match rest with
          | _ :: more => scanCall valued fuel more c
          | [] => .error (letters.getD i '-')
      | none => scanCall valued fuel rest { c with opts := c.opts ++ letters.map String.singleton }
    else scanCall valued fuel rest { c with ops := c.ops ++ [a] }

/-- The options and operands of a tool's arguments, or the error of a wrong call: a value
missing, or an option not among `allowed` (long ones named as their letter by `long`). -/
def readCall (inv : Invocation) (valued : List Char) (allowed : List String)
    (long : List (String × String)) : Except Effect Call :=
  match scanCall valued (inv.args.length + 1) inv.args {} with
  | .error c => .error (usageError inv.name ("option requires an argument -- '" ++ c.toString ++ "'"))
  | .ok call =>
    let opts := call.opts.map fun o => (long.lookup o).getD o
    match badOption inv.name allowed opts with
    | some e => .error e
    | none => .ok { call with opts }

/-- A target directory and a name joined into a path. -/
def joinName (dir name : String) : String :=
  if dir.endsWith "/" then dir ++ name else dir ++ "/" ++ name

/-- The paths from the first part of a path to the whole: `a`, `a/b`, `a/b/c`. -/
def pathPrefixes (path : String) : List String :=
  let parts := path.splitOn "/"
  let lead := if path.startsWith "/" then "/" else ""
  let named := (List.range parts.length).filterMap fun i =>
    if (parts.getD i "").isEmpty then none
    else some (lead ++ "/".intercalate ((parts.take (i + 1)).filter (· ≠ "")))
  named

/-- The effect with a failure told and the exit code 1. -/
def Effect.fail (e : Effect) (msg : String) : Effect := { e.complain msg with code := 1 }

/-- The `mkdir` of the core tools. -/
def mkdir (inv : Invocation) : Effect :=
  match readCall inv ['m'] ["p", "v", "m", "Z"]
      [("--parents", "p"), ("--verbose", "v"), ("--mode", "m")] with
  | .error e => e
  | .ok call =>
    let parents := call.opts.contains "p"
    let verbose := call.opts.contains "v"
    if call.ops.isEmpty then usageError inv.name "missing operand"
    else
      let made (e : Effect) (op : String) : Effect :=
        if verbose then e.say (inv.name ++ ": created directory " ++ Text.Quoting.shellAlways op ++ "\n") else e
      let (e, disk) := call.ops.foldl (fun (acc : Effect × Disk) op =>
        let (e, d) := acc
        let fail (err : Errno) : Effect × Disk :=
          (e.fail (inv.name ++ ": cannot create directory " ++ Printf.quoteArg op ++ ": " ++ errnoText err), d)
        if parents then
          let step (acc : Except Errno (Effect × Disk)) (q : String) : Except Errno (Effect × Disk) :=
            acc.bind fun (e, d) =>
              let p := inv.cwd.resolve q
              match d.kind p with
              | .directory => .ok (e, d)
              | .missing => (d.makeDir p).map fun d => (made e q, d)
              | .throughFile => .error .notDirectory
              | .file .. => .error (if q = (pathPrefixes op).getLastD op then .exists else .notDirectory)
          match (pathPrefixes op).foldl step (.ok (e, d)) with
          | .ok r => r
          | .error err => fail err
        else
          match d.makeDir (inv.cwd.resolve op) with
          | .ok d => (made e op, d)
          | .error err => fail err) ({}, inv.disk)
      { e with disk := some disk }

/-- The `touch` of the core tools: times are not kept, so it only makes missing files. -/
def touch (inv : Invocation) : Effect :=
  match readCall inv ['d', 'r', 't'] ["a", "c", "d", "f", "h", "m", "r", "t"]
      [("--no-create", "c"), ("--date", "d"), ("--reference", "r"), ("--no-dereference", "h")] with
  | .error e => e
  | .ok call =>
    if call.ops.isEmpty then usageError inv.name "missing file operand"
    else
      let create := !call.opts.contains "c"
      let (e, disk) := call.ops.foldl (fun (acc : Effect × Disk) op =>
        let (e, d) := acc
        let p := inv.cwd.resolve op
        match d.kind p with
        | .missing =>
          if !create then (e, d)
          else
            match d.write p [] true with
            | .ok d => (e, d)
            | .error err => (e.fail (inv.name ++ ": cannot touch " ++ Text.Quoting.shellAlways op ++ ": " ++ errnoText err), d)
        | .throughFile =>
          (e.fail (inv.name ++ ": cannot touch " ++ Text.Quoting.shellAlways op ++ ": " ++ errnoText .notDirectory), d)
        | _ => (e, d)) ({}, inv.disk)
      { e with disk := some disk }

/-- The paths of the files and directories at or below a directory, deepest first as `rm`
removes them: files, then directories, each in byte order. -/
def entriesBelow (d : Disk) (p : Place) (op : String) : List (String × Bool) :=
  let rel (q : Place) : String :=
    match q, p with
    | .tree qs, .tree ps => "/".intercalate (qs.drop ps.length)
    | .system q, .system s => String.ofList ((q.toList.drop s.length).dropWhile (· = '/'))
    | _, _ => ""
  let files := (d.files.filter fun (q, _) => q.within p).map fun (q, _) => rel q
  let implied := files.flatMap fun f =>
    let parts := f.splitOn "/"
    (List.range (parts.length - 1)).map fun i => "/".intercalate (parts.take (i + 1))
  let dirs := ((d.dirs.filter fun q => q.within p ∧ q ≠ p).map rel) ++ implied
  let dirs := (dirs.foldl (fun acc x => if acc.contains x ∨ x.isEmpty then acc else acc ++ [x]) [])
  let depth (s : String) : Nat := (s.splitOn "/").length
  let ordered := (files.map (·, false) ++ dirs.map (·, true)).mergeSort fun a b =>
    depth a.1 > depth b.1 ∨ (depth a.1 = depth b.1 ∧ (a.2 < b.2 ∨ (a.2 = b.2 ∧ !decide (b.1 < a.1))))
  ordered.map (fun (r, isDir) => (joinName op r, isDir)) ++ [(op, true)]

/-- The `rm` of the core tools. -/
def rm (inv : Invocation) : Effect :=
  match readCall inv [] ["f", "r", "R", "d", "v", "i", "I"]
      [("--force", "f"), ("--recursive", "r"), ("--dir", "d"), ("--verbose", "v"),
       ("--interactive", "i"), ("--one-file-system", "v"), ("--preserve-root", "f"),
       ("--no-preserve-root", "f")] with
  | .error e => e
  | .ok call =>
    let force := call.opts.contains "f"
    let recursive := call.opts.contains "r" ∨ call.opts.contains "R"
    let emptyDirs := call.opts.contains "d"
    let verbose := call.opts.contains "v"
    if call.ops.isEmpty then
      if force then {} else usageError inv.name "missing operand"
    else
      let told (e : Effect) (op : String) (isDir : Bool) : Effect :=
        if verbose then e.say ((if isDir then "removed directory " else "removed ") ++ Text.Quoting.shellAlways op ++ "\n") else e
      let (e, disk) := call.ops.foldl (fun (acc : Effect × Disk) op =>
        let (e, d) := acc
        let fail (err : Errno) : Effect × Disk :=
          (e.fail (inv.name ++ ": cannot remove " ++ Text.Quoting.shellAlways op ++ ": " ++ errnoText err), d)
        let last := ((op.splitOn "/").filter (· ≠ "")).getLastD op
        if last = "." ∨ last = ".." then
          (e.fail (inv.name ++ ": refusing to remove '.' or '..' directory: skipping " ++ Text.Quoting.shellAlways op), d)
        else
          let p := inv.cwd.resolve op
          match d.kind p with
          | .missing => if force then (e, d) else fail .noEntry
          | .throughFile => fail .notDirectory
          | .file .. =>
            match d.removeFile p with
            | .ok d => (told e op false, d)
            | .error err => fail err
          | .directory =>
            if recursive then
              if Disk.isFixed p then
                fail .permission
              else
                let e := (entriesBelow d p op).foldl (fun e (q, isDir) => told e q isDir) e
                (e, d.erase p)
            else if emptyDirs then
              match d.removeDir p with
              | .ok d => (told e op true, d)
              | .error err => fail err
            else fail .isDirectory) ({}, inv.disk)
      { e with disk := some disk }

/-- The `rmdir` of the core tools. -/
def rmdir (inv : Invocation) : Effect :=
  match readCall inv [] ["p", "v", "--ignore-fail-on-non-empty"]
      [("--parents", "p"), ("--verbose", "v")] with
  | .error e => e
  | .ok call =>
    let parents := call.opts.contains "p"
    let verbose := call.opts.contains "v"
    let quietFull := call.opts.contains "--ignore-fail-on-non-empty"
    if call.ops.isEmpty then usageError inv.name "missing operand"
    else
      let one (acc : Effect × Disk × Bool) (q : String) : Effect × Disk × Bool :=
        let (e, d, going) := acc
        if !going then acc
        else
          let e := if verbose then e.say (inv.name ++ ": removing directory, " ++ Text.Quoting.shellAlways q ++ "\n") else e
          match d.removeDir (inv.cwd.resolve q) with
          | .ok d => (e, d, true)
          | .error .notEmpty =>
            if quietFull then (e, d, false)
            else (e.fail (inv.name ++ ": failed to remove " ++ Text.Quoting.shellAlways q ++ ": " ++ errnoText .notEmpty), d, false)
          | .error err => (e.fail (inv.name ++ ": failed to remove " ++ Text.Quoting.shellAlways q ++ ": " ++ errnoText err), d, false)
      let (e, disk) := call.ops.foldl (fun (acc : Effect × Disk) op =>
        let chain := if parents then (pathPrefixes op).reverse else [op]
        let (e, d, _) := chain.foldl one (acc.1, acc.2, true)
        (e, d)) ({}, inv.disk)
      { e with disk := some disk }

/-- The sources and the targets they go to, for `cp` and `mv`: into a directory target
under their own names, else the one source to the target; or the error of a wrong call. -/
def pairsOf (inv : Invocation) (ops : List String) : Except Effect (List (String × String)) :=
  match ops with
  | [] => .error (usageError inv.name "missing file operand")
  | [one] => .error (usageError inv.name ("missing destination file operand after " ++ Text.Quoting.shellAlways one))
  | _ =>
    let target := ops.getLastD ""
    let sources := ops.dropLast
    if inv.disk.isDirectory (inv.cwd.resolve target) then
      .ok (sources.map fun s => (s, joinName target (baseNameOf s "")))
    else if sources.length > 1 then
      .error { ({} : Effect).complain (inv.name ++ ": target " ++ Text.Quoting.shellAlways target ++ " is not a directory") with code := 1 }
    else .ok (sources.map (·, target))

/-- The `cp` of the core tools. -/
def cp (inv : Invocation) : Effect :=
  match readCall inv ['t', 'S'] ["r", "R", "a", "f", "v", "p", "n", "i", "u", "d", "P", "L", "H", "l", "s", "x", "T", "t", "S", "b"]
      [("--recursive", "r"), ("--archive", "a"), ("--force", "f"), ("--verbose", "v"),
       ("--no-clobber", "n"), ("--interactive", "i"), ("--update", "u"), ("--preserve", "p"),
       ("--dereference", "L"), ("--no-dereference", "P"), ("--target-directory", "t"),
       ("--no-target-directory", "T"), ("--suffix", "S"), ("--backup", "b")] with
  | .error e => e
  | .ok call =>
    let recursive := call.opts.contains "r" ∨ call.opts.contains "R" ∨ call.opts.contains "a"
    let noClobber := call.opts.contains "n"
    let verbose := call.opts.contains "v"
    match pairsOf inv call.ops with
    | .error e => e
    | .ok pairs =>
      let (e, disk) := pairs.foldl (fun (acc : Effect × Disk) (src, dst) =>
        let (e, d) := acc
        let sp := inv.cwd.resolve src
        let dp := inv.cwd.resolve dst
        let told (e : Effect) : Effect :=
          if verbose then e.say (Text.Quoting.shellAlways src ++ " -> " ++ Text.Quoting.shellAlways dst ++ "\n") else e
        match d.kind sp with
        | .missing => (e.fail (inv.name ++ ": cannot stat " ++ Text.Quoting.shellAlways src ++ ": " ++ errnoText .noEntry), d)
        | .throughFile => (e.fail (inv.name ++ ": cannot stat " ++ Text.Quoting.shellAlways src ++ ": " ++ errnoText .notDirectory), d)
        | .file bytes _ =>
          if sp = dp then (e.fail (inv.name ++ ": " ++ Text.Quoting.shellAlways src ++ " and " ++ Text.Quoting.shellAlways dst ++ " are the same file"), d)
          else
            match d.kind dp with
            | .file .. => if noClobber then (e, d) else
                match d.write dp bytes false with
                | .ok d => (told e, d)
                | .error err => (e.fail (inv.name ++ ": cannot create regular file " ++ Text.Quoting.shellAlways dst ++ ": " ++ errnoText err), d)
            | .directory => (e.fail (inv.name ++ ": cannot overwrite directory " ++ Text.Quoting.shellAlways dst ++ " with non-directory"), d)
            | _ =>
              match d.write dp bytes false with
              | .ok d => (told e, d)
              | .error err => (e.fail (inv.name ++ ": cannot create regular file " ++ Text.Quoting.shellAlways dst ++ ": " ++ errnoText err), d)
        | .directory =>
          if !recursive then (e.fail (inv.name ++ ": -r not specified; omitting directory " ++ Text.Quoting.shellAlways src), d)
          else if dp.within sp then
            (e.fail (inv.name ++ ": cannot copy a directory, " ++ Text.Quoting.shellAlways src ++ ", into itself, " ++ Text.Quoting.shellAlways dst), d)
          else
            match d.kind dp with
            | .file .. => (e.fail (inv.name ++ ": cannot overwrite non-directory " ++ Text.Quoting.shellAlways dst ++ " with directory " ++ Text.Quoting.shellAlways src), d)
            | .throughFile => (e.fail (inv.name ++ ": cannot create directory " ++ Text.Quoting.shellAlways dst ++ ": " ++ errnoText .notDirectory), d)
            | .directory => (told e, d.copyTree sp dp)
            | .missing =>
              match d.makeDir dp with
              | .ok _ => (told e, d.copyTree sp dp)
              | .error err => (e.fail (inv.name ++ ": cannot create directory " ++ Text.Quoting.shellAlways dst ++ ": " ++ errnoText err), d)) ({}, inv.disk)
      { e with disk := some disk }

/-- The `mv` of the core tools. -/
def mv (inv : Invocation) : Effect :=
  match readCall inv ['t', 'S'] ["f", "i", "n", "v", "u", "T", "t", "b", "S"]
      [("--force", "f"), ("--interactive", "i"), ("--no-clobber", "n"), ("--verbose", "v"),
       ("--update", "u"), ("--target-directory", "t"), ("--no-target-directory", "T"),
       ("--backup", "b"), ("--suffix", "S")] with
  | .error e => e
  | .ok call =>
    let noClobber := call.opts.contains "n"
    let verbose := call.opts.contains "v"
    match pairsOf inv call.ops with
    | .error e => e
    | .ok pairs =>
      let (e, disk) := pairs.foldl (fun (acc : Effect × Disk) (src, dst) =>
        let (e, d) := acc
        let sp := inv.cwd.resolve src
        let dp := inv.cwd.resolve dst
        let moved (e : Effect) (d : Disk) : Effect × Disk :=
          let d := (d.erase dp).copyTree sp dp
          let d := d.erase sp
          (if verbose then e.say ("renamed " ++ Text.Quoting.shellAlways src ++ " -> " ++ Text.Quoting.shellAlways dst ++ "\n") else e, d)
        match d.kind sp with
        | .missing => (e.fail (inv.name ++ ": cannot stat " ++ Text.Quoting.shellAlways src ++ ": " ++ errnoText .noEntry), d)
        | .throughFile => (e.fail (inv.name ++ ": cannot stat " ++ Text.Quoting.shellAlways src ++ ": " ++ errnoText .notDirectory), d)
        | srcKind =>
          let srcDir : Bool := match srcKind with
            | .directory => true
            | _ => false
          if sp = dp then (e.fail (inv.name ++ ": " ++ Text.Quoting.shellAlways src ++ " and " ++ Text.Quoting.shellAlways dst ++ " are the same file"), d)
          else if srcDir && dp.within sp then
            (e.fail (inv.name ++ ": cannot move " ++ Text.Quoting.shellAlways src ++ " to a subdirectory of itself, " ++ Text.Quoting.shellAlways dst), d)
          else if Disk.isFixed sp then
            (e.fail (inv.name ++ ": cannot move " ++ Text.Quoting.shellAlways src ++ " to " ++ Text.Quoting.shellAlways dst ++ ": " ++ errnoText .permission), d)
          else
            match d.kind dp with
            | .file .. =>
              if noClobber then (e, d)
              else if srcDir then
                (e.fail (inv.name ++ ": cannot overwrite non-directory " ++ Text.Quoting.shellAlways dst ++ " with directory " ++ Text.Quoting.shellAlways src), d)
              else moved e d
            | .directory =>
              if !srcDir then (e.fail (inv.name ++ ": cannot overwrite directory " ++ Text.Quoting.shellAlways dst ++ " with non-directory"), d)
              else if d.hasEntriesBelow dp then
                (e.fail (inv.name ++ ": cannot move " ++ Text.Quoting.shellAlways src ++ " to " ++ Text.Quoting.shellAlways dst ++ ": " ++ errnoText .notEmpty), d)
              else moved e d
            | .throughFile =>
              (e.fail (inv.name ++ ": cannot move " ++ Text.Quoting.shellAlways src ++ " to " ++ Text.Quoting.shellAlways dst ++ ": " ++ errnoText .notDirectory), d)
            | .missing =>
              match d.kind dp.parent with
              | .directory => moved e d
              | .missing => (e.fail (inv.name ++ ": cannot move " ++ Text.Quoting.shellAlways src ++ " to " ++ Text.Quoting.shellAlways dst ++ ": " ++ errnoText .noEntry), d)
              | _ => (e.fail (inv.name ++ ": cannot move " ++ Text.Quoting.shellAlways src ++ " to " ++ Text.Quoting.shellAlways dst ++ ": " ++ errnoText .notDirectory), d)) ({}, inv.disk)
      { e with disk := some disk }

/-! ### chmod -/

/-- Where the bits of a mode change come from: bits named by letters (with `X`, the run
bits too when the entry is a directory or already runnable by someone), or the bits of a
class of the entry itself (`u`, `g`, `o`), copied to all three classes. -/
inductive ModeValue where
  | named (bits : Nat) (runIfAny : Bool)
  | copied (bits : Nat)
deriving Inhabited

/-- One change of a mode: its operator (`+`, `-`, `=`), the bits of the classes it affects
(none given: all, less the mask), where its bits come from, and the bits it mentions. -/
structure ModeChange where
  op : Char
  affected : Nat
  value : ModeValue
  mentioned : Nat
deriving Inhabited

/-- `a` without the bits of `b`. -/
def clearBits (a b : Nat) : Nat := a - (a &&& b)

/-- The bits a class letter affects: the owner's (with set-user), the group's (with
set-group), the others' (with the sticky bit), or all. -/
def classBits (c : Char) : Option Nat :=
  if c = 'u' then some 0o4700 else if c = 'g' then some 0o2070
  else if c = 'o' then some 0o1007 else if c = 'a' then some 0o7777 else none

/-- The bits a permission letter names. -/
def permBits (c : Char) : Option Nat :=
  if c = 'r' then some 0o444 else if c = 'w' then some 0o222 else if c = 'x' then some 0o111
  else if c = 's' then some 0o6000 else if c = 't' then some 0o1000 else none

/-- Whether a character is a mode operator. -/
def isModeOp (c : Char) : Bool := c = '+' ∨ c = '-' ∨ c = '='

/-- The operations of one clause of a symbolic mode, after its class letters, and the text
after them. -/
def modeActions (affected : Nat) : Nat → List Char → Option (List ModeChange × List Char)
  | 0, _ => none
  | _, [] => none
  | fuel + 1, op :: rest =>
    if !isModeOp op then none
    else
      let (value, rest) : ModeValue × List Char := match rest with
        | 'u' :: r => (.copied 0o700, r)
        | 'g' :: r => (.copied 0o070, r)
        | 'o' :: r => (.copied 0o007, r)
        | r =>
          let ps := r.takeWhile fun c => (permBits c).isSome ∨ c = 'X'
          (.named (ps.foldl (fun a c => a ||| (permBits c).getD 0) 0) (ps.contains 'X'), r.drop ps.length)
      let bits := match value with
        | .named b _ => b
        | .copied b => b
      let change : ModeChange :=
        { op, affected, value, mentioned := if affected = 0 then bits else affected &&& bits }
      match rest with
      | c :: _ =>
        if isModeOp c then (modeActions affected fuel rest).map fun (cs, r) => (change :: cs, r)
        else some ([change], rest)
      | [] => some ([change], [])

/-- The changes of the clauses of a symbolic mode, separated by commas. -/
def modeClauses : Nat → List Char → Option (List ModeChange)
  | 0, _ => none
  | fuel + 1, cs =>
    let who := cs.takeWhile fun c => (classBits c).isSome
    let affected := who.foldl (fun a c => a ||| (classBits c).getD 0) 0
    match modeActions affected (cs.length + 1) (cs.drop who.length) with
    | some (changes, []) => some changes
    | some (changes, ',' :: more) => (modeClauses fuel more).map (changes ++ ·)
    | _ => none

/-- The changes a mode stands for: octal digits set all bits at once (the set-user and
set-group bits of a directory stay unless five digits name them), else symbolic clauses
such as `u+x,go-w`. None when it is no mode. -/
def parseMode (mode : String) : Option (List ModeChange) :=
  let cs := mode.toList
  if !cs.isEmpty ∧ cs.all (fun c => '0' ≤ c ∧ c ≤ '7') then
    let v := cs.foldl (fun a c => a * 8 + (c.toNat - 48)) 0
    if v > 0o7777 then none
    else
      let mentioned := if cs.length < 5 then (v &&& 0o6000) ||| 0o1777 else 0o7777
      some [{ op := '=', affected := 0o7777, value := .named v false, mentioned }]
  else modeClauses (cs.length + 1) cs

/-- The mode of an entry after changes, given whether it is a directory and the mask. -/
def adjustMode (old : Nat) (dir : Bool) (mask : Nat) (changes : List ModeChange) : Nat :=
  changes.foldl (fun m ch =>
    let kept := clearBits (if dir then 0o6000 else 0) ch.mentioned
    let value := match ch.value with
      | .named v runIfAny => if runIfAny ∧ (m &&& 0o111 ≠ 0 ∨ dir) then v ||| 0o111 else v
      | .copied v =>
        let x := v &&& m
        x ||| (if x &&& 0o444 ≠ 0 then 0o444 else 0) ||| (if x &&& 0o222 ≠ 0 then 0o222 else 0) |||
          (if x &&& 0o111 ≠ 0 then 0o111 else 0)
    let value := clearBits (value &&& (if ch.affected ≠ 0 then ch.affected else clearBits 0o7777 mask)) kept
    if ch.op = '=' then
      let preserved := (if ch.affected ≠ 0 then clearBits 0o7777 ch.affected else 0) ||| kept
      (m &&& preserved) ||| value
    else if ch.op = '+' then m ||| value
    else clearBits m value) (old &&& 0o7777)

/-- The nine letters of permission bits, as `ls -l` shows them. -/
def modeLetters (m : Nat) : String :=
  let bit (k : Nat) : Bool := m / Nat.pow 2 k % 2 = 1
  let triple (r w x special : Nat) (on off : Char) : List Char :=
    [if bit r then 'r' else '-', if bit w then 'w' else '-',
     if bit special then (if bit x then on else off) else (if bit x then 'x' else '-')]
  String.ofList (triple 8 7 6 11 's' 'S' ++ triple 5 4 3 10 's' 'S' ++ triple 2 1 0 9 't' 'T')

/-- A mode in four octal digits. -/
def octalMode (m : Nat) : String :=
  let ds := Nat.toDigits 8 m
  String.ofList (List.replicate (4 - ds.length) '0' ++ ds)

/-- The paths at and below a directory operand, each directory before what it holds, names
in byte order. -/
def entriesWithin (d : Disk) (p : Place) (op : String) : List (String × Bool) :=
  let below := (entriesBelow d p op).filter (·.1 ≠ op)
  let parts (s : String) : List String := s.splitOn "/"
  let rec before : List String → List String → Bool
    | [], _ :: _ => true
    | a :: as, b :: bs => a < b ∨ (a = b ∧ before as bs)
    | _, _ => false
  (op, true) :: below.mergeSort fun a b => before (parts a.1) (parts b.1) ∨ parts a.1 = parts b.1

/-- The `chmod` of the core tools. A mode may also be given as options (`-x`, `-w`), which
join with commas into one mode; the mask is the usual `022`. -/
def chmod (inv : Invocation) : Effect :=
  let modeLetter (c : Char) : Bool := "rwxXstugoa,+=01234567".contains c
  let scan (acc : Except Effect (List String × List Char × List String × Bool)) (a : String) :
      Except Effect (List String × List Char × List String × Bool) :=
    acc.bind fun (modes, opts, ops, done) =>
      if done then .ok (modes, opts, ops ++ [a], done)
      else if a = "--" then .ok (modes, opts, ops, true)
      else if a.startsWith "--" then
        let long := (a.splitOn "=").headD a
        if long = "--recursive" then .ok (modes, opts ++ ['R'], ops, done)
        else if long = "--changes" then .ok (modes, opts ++ ['c'], ops, done)
        else if long = "--silent" ∨ long = "--quiet" then .ok (modes, opts ++ ['f'], ops, done)
        else if long = "--verbose" then .ok (modes, opts ++ ['v'], ops, done)
        else .error (usageError inv.name ("unrecognized option '" ++ a ++ "'"))
      else if a.startsWith "-" ∧ a.length > 1 then
        let letters := a.toList.drop 1
        let rec walk : List Char → List Char → Except Effect (List String × List Char)
          | [], os => .ok ([], os)
          | c :: cs, os =>
            if modeLetter c then .ok ([a], os)
            else if "Rcfv".contains c then walk cs (os ++ [c])
            else .error (usageError inv.name ("invalid option -- '" ++ c.toString ++ "'"))
        (walk letters []).map fun (ms, os) => (modes ++ ms, opts ++ os, ops, done)
      else .ok (modes, opts, ops ++ [a], done)
  match inv.args.foldl scan (.ok ([], [], [], false)) with
  | .error e => e
  | .ok (modes, opts, ops, _) =>
    let (mode, ops) := if modes.isEmpty then (ops.head?, ops.drop 1) else (some (",".intercalate modes), ops)
    match mode with
    | none => usageError inv.name "missing operand"
    | some mode =>
      if ops.isEmpty then
        usageError inv.name (if modes.isEmpty then "missing operand after " ++ Printf.quoteArg mode else "missing operand")
      else
        match parseMode mode with
        | none => usageError inv.name ("invalid mode: " ++ Printf.quoteArg mode)
        | some changes =>
          let recursive := opts.contains 'R'
          let quiet := opts.contains 'f'
          let verbose := opts.contains 'v'
          let changesOnly := opts.contains 'c'
          let one (acc : Effect × Disk) (entry : String × Bool) : Effect × Disk :=
            let (e, d) := acc
            let (path, dir) := entry
            let p := inv.cwd.resolve path
            let old := d.modeOf p dir
            let new := adjustMode old dir 0o22 changes
            let shown := Text.Quoting.shellAlways path
            let e :=
              if new ≠ old ∧ (verbose ∨ changesOnly) then
                e.say ("mode of " ++ shown ++ " changed from " ++ octalMode old ++ " (" ++ modeLetters old ++
                  ") to " ++ octalMode new ++ " (" ++ modeLetters new ++ ")\n")
              else if verbose then e.say ("mode of " ++ shown ++ " retained as " ++ octalMode new ++ " (" ++ modeLetters new ++ ")\n")
              else e
            (e, d.setMode p new)
          let (e, disk) := ops.foldl (fun (acc : Effect × Disk) op =>
            let (e, d) := acc
            let p := inv.cwd.resolve op
            match d.kind p with
            | .missing | .throughFile =>
              let err := match d.kind p with
                | .throughFile => Errno.notDirectory
                | _ => Errno.noEntry
              if quiet then ({ e with code := 1 }, d)
              else (e.fail (inv.name ++ ": cannot access " ++ Text.Quoting.shellAlways op ++ ": " ++ errnoText err), d)
            | .directory =>
              if recursive then (entriesWithin d p op).foldl one (e, d) else one (e, d) (op, true)
            | .file .. => one (e, d) (op, false)) ({}, inv.disk)
          { e with disk := some disk }

end Program

end Timebox
