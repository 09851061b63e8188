import Timebox.Program.Tools

/-! # which

`which` writes where each name it is given stands as a program: a name with a slash
itself, when it is an executable file; else the first directory of the search path (all of
them with `-a`) that holds an executable file of that name, as `directory/name`. An empty
directory in the path is the working directory, `.`. The search path is the `PATH` of the
environment, or the shell's own when there is none. The exit code is 1 when some name was
not found (or none was given), 2 after an unknown option, else 0.
-/

namespace Timebox

namespace Program

open Process

/-- The search path a shell starts with when its environment has none. -/
def defaultSearchPath : String := "/usr/local/sbin:/usr/local/bin:/usr/sbin:/usr/bin:/sbin:/bin"

/-- The directories of a search path, as a shell splits it at colons: a colon ends a
directory, so a last empty one counts only after a directory that is not. -/
def pathDirectories (path : String) : List String :=
  let path := if path.endsWith ":" ∧ !path.endsWith "::" then path ++ ":" else path
  let parts := path.splitOn ":"
  let parts := if parts.getLast? = some "" then parts.dropLast else parts
  parts.map fun d => if d.isEmpty then "." else d

/-- Whether a path names an executable file. -/
def isRunnable (inv : Invocation) (path : String) : Bool :=
  match inv.disk.kind (inv.cwd.resolve path) with
  | .file _ x => x
  | _ => false

/-- Reads the options of `which`, one letter at a time until the first operand: whether
`-a` was given, the operands, or the letter that is not an option. -/
def whichOptions : Nat → List String → Bool → Except Char (Bool × List String)
  | 0, rest, all => .ok (all, rest)
  | _, [], all => .ok (all, [])
  | fuel + 1, a :: rest, all =>
    if a = "--" then .ok (all, rest)
    else if a.startsWith "-" ∧ a.length > 1 then
      match (a.toList.drop 1).find? (· ≠ 'a') with
      | some c => .error c
      | none => whichOptions fuel rest true
    else .ok (all, a :: rest)

/-- The `which` of the base system. -/
def which (inv : Invocation) : Effect :=
  match whichOptions (inv.args.length + 1) inv.args false with
  | .error c =>
    { (({} : Effect).put 2 (Raw.toBytes ("Illegal option -" ++ c.toString ++ "\n"))).say
        ("Usage: " ++ inv.name ++ " [-a] args\n") with code := 2 }
  | .ok (all, names) =>
    let dirs := pathDirectories ((inv.env.lookup "PATH").getD defaultSearchPath)
    let (e, missed) := names.foldl (fun (acc : Effect × Bool) name =>
      let (e, missed) := acc
      let found :=
        if name.contains '/' then (if isRunnable inv name then [name] else [])
        else
          let hits := (dirs.map (· ++ "/" ++ name)).filter (isRunnable inv)
          if all then hits else hits.take 1
      (found.foldl (fun (e : Effect) p => e.say (p ++ "\n")) e, missed || found.isEmpty)) ({}, names.isEmpty)
    { e with code := if missed then 1 else 0 }

end Program

end Timebox
