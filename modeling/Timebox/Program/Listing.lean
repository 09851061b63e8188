import Timebox.Program.Tools
import Timebox.Files.System

/-! # ls and uname

`ls` writes the names in directories, one a line as it does when its output is no
terminal, sorted by their bytes: names starting with `.` only with `-a` (with `.` and
`..`) or `-A`; `-r` reverses, `-d` names directories themselves, `-p` and `-F` mark
directories with `/`. Files named as operands come first, then each directory, under a
`name:` heading when there are several. A name that is nothing is told on the standard
error (`cannot access 'x': No such file or directory`), with exit code 2.

`uname` writes what it knows of the machine: the kernel's name (`Linux`, the default), the
machine (`x86_64`), the system (`GNU/Linux`).
-/

namespace Timebox

namespace Program

open Process

/-- The names directly in a directory of the machine. -/
def systemChildren (d : Disk) (path : String) : List String :=
  let below (q : String) : Option String :=
    if FileTree.dirName q = path ∧ q ≠ path then
      some (String.ofList (q.toList.drop (path.length + (if path = "/" then 0 else 1))))
    else none
  let programs := if path = "/usr/bin" ∨ path = "/bin" then basePrograms else []
  let made := d.files.filterMap (fun | (.system q, _) => below q | _ => none) ++
    d.dirs.filterMap (fun | .system q => below q | _ => none)
  let names := systemDirectories.filterMap below ++ systemFiles.filterMap below ++ programs ++ made
  names.foldl (fun acc n => if acc.contains n then acc else acc ++ [n]) []

/-- The names directly in a directory. -/
def childrenOf (d : Disk) : Place → List String
  | .tree ps => d.children ps
  | .system p => systemChildren d p

/-- Sorts names by their bytes. -/
def sortByBytes (names : List String) : List String :=
  names.mergeSort fun a b => !decide (b < a)

/-- The `ls` of the core tools. -/
def ls (inv : Invocation) : Effect :=
  let (opts, ops) := splitOptions inv.args
  let opts := opts.map fun o => if o = "--all" then "a" else if o = "--almost-all" then "A"
    else if o = "--reverse" then "r" else if o = "--directory" then "d" else o
  match badOption inv.name ["a", "A", "r", "d", "p", "F", "1", "C", "x", "U", "f"] opts with
  | some e => { e with code := 2 }
  | none =>
    let all := opts.contains "a" ∨ opts.contains "f"
    let almost := opts.contains "A"
    let mark := opts.contains "p" ∨ opts.contains "F"
    let order (ns : List String) : List String :=
      let s := if opts.contains "U" ∨ opts.contains "f" then ns else sortByBytes ns
      if opts.contains "r" then s.reverse else s
    let shown (dir : Place) (n : String) : String :=
      if mark ∧ inv.disk.isDirectory (dir.resolve n) then n ++ "/" else n
    let entries (p : Place) : List String :=
      let names := (childrenOf inv.disk p).filter fun n => !n.startsWith "." ∨ all ∨ almost
      let names := if all then [".", ".."] ++ names else names
      (order names).map (shown p)
    let ops := if ops.isEmpty then ["."] else ops
    let kinds := ops.map fun op => (op, inv.cwd.resolve op, inv.disk.kind (inv.cwd.resolve op))
    let e := kinds.foldl (fun (e : Effect) (op, _, k) =>
      match k with
      | .missing | .throughFile =>
        { e.complain (inv.name ++ ": cannot access " ++ Text.Quoting.shellAlways op ++ ": " ++
            (match k with | .throughFile => "Not a directory" | _ => "No such file or directory")) with code := 2 }
      | _ => e) {}
    let files := order ((kinds.filter fun (_, _, k) => match k with
      | .file _ _ => true
      | .directory => opts.contains "d"
      | _ => false).map fun (op, p, _) => if mark ∧ inv.disk.isDirectory p then op ++ "/" else op)
    let dirs := if opts.contains "d" then []
      else order ((kinds.filter fun (_, _, k) => match k with | .directory => true | _ => false).map (·.1))
    let heading := kinds.length > 1 ∨ (e.code ≠ 0 ∧ !dirs.isEmpty)
    let e := e.say (String.join (files.map (· ++ "\n")))
    let (e, _) := dirs.foldl (fun (acc : Effect × Bool) op =>
      let (e, first) := acc
      let body := String.join ((entries (inv.cwd.resolve op)).map (· ++ "\n"))
      let gap := if first ∧ files.isEmpty then "" else "\n"
      let text := if heading then gap ++ op ++ ":\n" ++ body else body
      (e.say text, false)) (e, true)
    e

/-- The `uname` of the core tools. -/
def uname (inv : Invocation) : Effect :=
  let (opts, ops) := splitOptions inv.args
  let opts := opts.map fun o => if o = "--kernel-name" then "s" else if o = "--machine" then "m"
    else if o = "--operating-system" then "o" else if o = "--all" then "a" else o
  match badOption inv.name ["s", "m", "o", "p", "i", "a", "n", "r", "v"] opts with
  | some e => e
  | none =>
    match ops with
    | x :: _ => usageError inv.name ("extra operand " ++ Printf.quoteArg x)
    | [] =>
      let wants (c : String) : Bool := opts.contains c ∨ opts.contains "a"
      let parts := (if wants "s" ∨ opts.isEmpty then ["Linux"] else []) ++
        (if wants "m" then ["x86_64"] else []) ++
        (if opts.contains "p" then ["unknown"] else []) ++
        (if opts.contains "i" then ["unknown"] else []) ++
        (if wants "o" then ["GNU/Linux"] else [])
      ({} : Effect).say (" ".intercalate parts ++ "\n")

end Program

end Timebox
