import Timebox.Command.Basic
import Timebox.Shell.Run
import Timebox.Encoding.Decode
import Timebox.Run.Bind

/-! # Running commands

A command runs as a process of the machine (`Machine.run`): the shell with the command as
its script, or the program itself. Before it starts:

* its environment is the caller's unless given; a variable added to it has its value
  expanded from the caller's environment (`Env.expand`: `$NAME` and `${NAME}`, nothing for
  an unset name, a `$` before no name kept);
* a working directory that is not a directory stops the start
  (`start CMD: chdir DIR: no such file or directory`).

Its result holds the exit code (−1 when a signal ended it) and its standard output and
error, each decoded from the command's encoding when it has one, and both in the order
they were written. A non-zero exit is an error that keeps the result
(`CMD: exit status N`, `CMD: signal: killed`).

`Command.act` is the run as a work: it waits for the process, which is killed when its
context is done, and then for its outputs, which the processes it started hold open while
they run (a kill does not end them), at most `waitDelay`; outputs still held then are
closed, which is an error of a run that otherwise succeeded
(`wait CMD: exec: WaitDelay expired before I/O complete`).
-/

namespace Timebox

open Process

/-- Whether a byte may be part of a variable name. -/
def isNameByte (c : Char) : Bool := c = '_' || c.isAlphanum

/-- Whether a character is a special parameter of the shell. -/
def isSpecialVar (c : Char) : Bool := "*#$@!?-0123456789".contains c

/-- The name after a `$`, and how many characters it took: an empty name that took
characters is bad syntax, eaten; one that took none leaves the `$`. -/
def Env.nameAfter (cs : List Char) : String × Nat :=
  match cs with
  | '{' :: rest =>
    match rest with
    | c :: '}' :: _ =>
      if isSpecialVar c then (c.toString, 3)
      else
        match rest.findIdx? (· = '}') with
        | some i => if i = 0 then ("", 2) else (String.ofList (rest.take i), i + 2)
        | none => ("", 1)
    | _ =>
      match rest.findIdx? (· = '}') with
      | some i => if i = 0 then ("", 2) else (String.ofList (rest.take i), i + 2)
      | none => ("", 1)
  | c :: _ =>
    if isSpecialVar c then (c.toString, 1)
    else
      let n := cs.takeWhile isNameByte
      (String.ofList n, n.length)
  | [] => ("", 0)

/-- A text with its variables replaced by their values in an environment. -/
def Env.expand (env : Env) (s : String) : String :=
  go s.length s.toList ""
where
  go : Nat → List Char → String → String
    | 0, cs, acc => acc ++ String.ofList cs
    | _, [], acc => acc
    | fuel + 1, c :: rest, acc =>
      if c = '$' ∧ !rest.isEmpty then
        let (name, w) := Env.nameAfter rest
        let acc := if name.isEmpty then (if w > 0 then acc else acc.push '$')
          else acc ++ (env.lookup name).getD ""
        go fuel (rest.drop w) acc
      else go fuel rest (acc.push c)

namespace Command

/-- The command with its output decoded from an encoding. -/
def withEncoding (c : Command) (e : Encoding) : Command := { c with encoding := some e }

/-- The command run in a working directory. -/
def withWorkingDir (c : Command) (dir : String) : Command := { c with workingDir := dir }

/-- The command with a variable added to its environment, which starts as the caller's when
it was not given; the value is expanded from the caller's environment. -/
def addEnv (c : Command) (caller : Env) (k v : String) : Command :=
  let base := c.env.getD (caller.map fun (k, v) => k ++ "=" ++ v)
  { c with env := some (base ++ [k ++ "=" ++ Env.expand caller v]) }

/-- The command with variables added, in the order given. -/
def withEnvironment (c : Command) (caller : Env) (vars : List (String × String)) : Command :=
  vars.foldl (fun c (k, v) => c.addEnv caller k v) c

/-- The command with only the given variables in its environment. -/
def withCleanEnvironment (c : Command) (caller : Env) (vars : List (String × String)) : Command :=
  { c with env := some [] }.withEnvironment caller vars

/-- The program a command executes, its name as called and its arguments. -/
def program (c : Command) : String × List String :=
  match c.argv with
  | p :: args => (p, args)
  | [] => (c.path, [])

/-- The type of a command's result. -/
def resultTy : Ty := .ptr (.named "cmd.Result" false none)

/-- The process of a command started in a working tree, with the caller's environment: the
program and what it is given, or why it cannot start. -/
def start (c : Command) (work : FileTree) (caller : Env) : Except Fault (String × Program.Invocation) :=
  let disk := Disk.ofTree work
  let cwd := if c.workingDir.isEmpty then Place.tree [] else (Place.tree []).resolve c.workingDir
  let (path, args) := c.program
  if !c.workingDir.isEmpty ∧ !disk.isDirectory cwd then
    let errno := match disk.kind cwd with
      | .file _ _ | .throughFile => Errno.notDirectory
      | _ => Errno.noEntry
    .error (.startFailed c.text (.path "chdir" c.workingDir errno))
  else
    let env := match c.env with
      | some entries => Env.ofEntries entries
      | none => caller
    .ok (path, { name := path, args, env, disk, cwd })

/-- Output bytes as the command keeps them: decoded from its encoding into UTF-8, or as
they are. -/
def decodeOutput (c : Command) (bytes : List UInt8) : List UInt8 :=
  match c.encoding with
  | some e => Text.utf8Bytes (e.decode bytes)
  | none => bytes

/-- The result of a run of the command's process. -/
def result (c : Command) (r : Ran) : RunOutput :=
  let out := c.decodeOutput (r.bytesOn 1)
  let err := c.decodeOutput (r.bytesOn 2)
  let code := match r.status with
    | some s => s.exitCode
    | none => -1
  { exitCode := code, stdout := out, stderr := err, combined := out ++ err }

/-- How long the output of a command is waited for after its process ended or was killed,
while processes it started hold it open. -/
def waitDelay : Int := 1000000000

/-- The error of an output still held open when the wait for it ends. -/
def delayFault (c : Command) : Fault :=
  .wrap ("wait " ++ c.text) (.plain "exec: WaitDelay expired before I/O complete")

/-- What a run of the command's process gives: the result, and an error when it did not
exit with status zero, or when it did but its output was still held open at the end of
the wait for it. -/
def outcome (c : Command) (r : Ran) (heldOpen : Bool) : Value × Option Fault :=
  let res := c.result r
  match r.status with
  | some s =>
    if !s.success then (.output res, some (.exited c.text s.text res))
    else if heldOpen then (.output res, some c.delayFault)
    else (.output res, none)
  | none => (.output res, none)

/-- The run of a command's process as its outputs show it, the process killed at `cut` when
that is given: the outputs are waited for until the processes it started close them, at
most `waitDelay` after it ended. Gives the run, when its outputs closed, and whether they
were still held open then. -/
def captured (ran : Ran) (cut : Option Int) : Ran × Int × Bool :=
  let r := match cut with
    | none => ran
    | some t => ran.killedAt t .kill
  let closes := r.closesAt r.elapsed
  if closes - r.elapsed > waitDelay then
    (r.closedAt (r.elapsed + waitDelay) true, r.elapsed + waitDelay, true)
  else (r.closedAt closes false, closes, false)

/-- The run of the command as a work: it starts the process and waits for it, and kills it
when the context is done first; then it waits for the outputs to close. -/
def act (c : Command) (work : FileTree) (caller : Env) : Act (Value × Option Fault) :=
  match c.start work caller with
  | .error f => .done (Value.zero resultTy, some f)
  | .ok (path, inv) =>
    let ran := Machine.run path inv 4000
    .race (ran.status.map fun _ => ran.elapsed) fun cut =>
      let (r, closes, held) := captured ran cut
      .sleep (closes - r.elapsed) (.done (c.outcome r held))

/-- The name of the method that runs a command, which names the work. -/
def methodName : String := "gopkg.in/go-mixed/deadline.v1/cmd.(*Command).ExecuteContext"

/-- The command as a job made at `site`: named by its path, with its arguments. -/
def job (c : Command) (work : FileTree) (caller : Env) (site : Frame) : Job :=
  Job.make c.jobName (some ⟨methodName, site, fun _ => c.act work caller⟩) (c.args.map .str) site

/-- Runs the command without a deadline: its result and error; none when it never ends. -/
def execute (c : Command) (work : FileTree) (caller : Env) : Option (Value × Option Fault) :=
  match (c.act work caller).finish 0 none with
  | some (_, .returned r) => some r
  | _ => none

end Command

end Timebox
