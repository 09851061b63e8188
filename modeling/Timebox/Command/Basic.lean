import Timebox.Command.Words
import Timebox.Files.System
import Timebox.Value.Basic
import Timebox.Encoding.Basic

/-! # Commands

A `Command` is a program path with its arguments, and how to run it: the environment
(inherited unless given), the working directory, and whether the path is run by the shell.

* `Command.make` resolves a bare program name through the search path, and runs by the
  shell any path that is not an executable file;
* `Command.ofLine` splits a command line into words (`Words.split`); a line with a shell
  operator, a `$` or a backquote is run by the shell as a whole, so that the shell expands
  it;
* `Command.argv` is what is executed: `/bin/sh -c path args…` for the shell, else the path
  and its arguments; `Command.text` joins it with spaces.
-/

namespace Timebox

/-- A command to run. -/
structure Command where
  path : String
  args : List String
  /-- The environment, as `key=value` entries; none inherits the caller's. -/
  env : Option (List String) := none
  workingDir : String := ""
  useShell : Bool := false
  /-- The encoding its output is decoded from; none keeps the bytes. -/
  encoding : Option Encoding := none
deriving Repr, Inhabited

namespace Command

/-- The last part of a path, trailing separators dropped: `.` for nothing, `/` for the root. -/
def baseName (path : String) : String :=
  if path.isEmpty then "."
  else
    let cs := (path.toList.reverse.dropWhile (· = '/')).reverse
    if cs.isEmpty then "/" else String.ofList (cs.reverse.takeWhile (· ≠ '/')).reverse

/-- The program a path names: a bare name is looked up in the search path, and stays as it
is when it is not found there; any other path is itself. -/
def resolvePath (work : FileTree) (path : String) : String :=
  if baseName path = path then (Machine.lookPath work path).getD path else path

/-- A command of a path and arguments: a bare name is looked up in the search path, and a
path that is no executable file is run by the shell. -/
def make (work : FileTree) (path : String) (args : List String) : Command :=
  let path := resolvePath work path
  { path, args, useShell := !Machine.isExecutable work path }

/-- The error of a line that cannot be split. -/
def invalidLine (line : String) : Fault :=
  .wrap ("parse command line \"" ++ line ++ "\"") (.plain "invalid command line string")

/-- A command of a command line. -/
def ofLine (work : FileTree) (line : String) : Except Fault Command :=
  match Words.split line with
  | none => .error (invalidLine line)
  | some sp =>
    if sp.operatorAt.isSome ∨ line.toList.any (fun c => c = '$' ∨ c.toNat = 96) then
      .ok { make work line [] with useShell := true }
    else
      match sp.words with
      | [] => .error (.fundamental ("empty command line \"" ++ line ++ "\""))
      | w :: ws => .ok (make work w ws)

/-- What is executed: the shell with the path as its script, or the path itself. -/
def argv (c : Command) : List String :=
  if c.useShell then ["/bin/sh", "-c", c.path] ++ c.args else c.path :: c.args

/-- A command made of a path runs its resolved program itself when that is an executable
file, and else runs the shell with the program as its script and the arguments after it. -/
theorem argv_make (work : FileTree) (path : String) (args : List String) :
    (make work path args).argv =
      if Machine.isExecutable work (resolvePath work path) then resolvePath work path :: args
      else ["/bin/sh", "-c", resolvePath work path] ++ args := by
  simp only [make, argv]
  by_cases h : Machine.isExecutable work (resolvePath work path) = true <;> simp [h]

/-- The command as one line. -/
def text (c : Command) : String := " ".intercalate c.argv

/-- Whether the command's path is an executable file. -/
def isExecutable (work : FileTree) (c : Command) : Bool := Machine.isExecutable work c.path

/-- The name of the command as a job: its path, or the name of the method that runs it when
the path is empty. -/
def jobName (c : Command) : String :=
  if c.path.isEmpty then "gopkg.in/go-mixed/deadline.v1/cmd.(*Command).ExecuteContext" else c.path

/-- The arguments of the command as a job. -/
def jobArgs (c : Command) : Value := .slice .any (c.args.map .str)

end Command

end Timebox
