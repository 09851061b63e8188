import Timebox.Value.Basic

/-! # A directory of files

A `FileTree` is a working directory: its files by relative path, each with its text, and
the directories made in it. A directory exists when it was made or some file lies under it;
the working directory itself is `.`.

The file operations answer as the system does, with the name as it was given:

* `read` opens a file and reads it: a missing entry fails to open with "no such file or
  directory", a path through a file with "not a directory", and a directory opens but
  fails to read with "is a directory";
* `write` creates or replaces a file: the directory it goes into must exist, and the path
  must not be a directory;
* `mkdirAll` makes a directory and those above it, failing where a file is in the way.
-/

namespace Timebox

/-- The files of a working directory, by path relative to it. -/
structure FileTree where
  files : List (List String × String) := []
  /-- Directories made explicitly, which may hold no file. -/
  dirs : List (List String) := []
deriving Inhabited

namespace FileTree

/-- The pieces of a path between its separators, empty ones included. -/
def pieces (path : String) : List String :=
  (path.toList.splitOn '/').map String.ofList

/-- The parts of a relative path: empty parts and `.` dropped, `..` going up a level. -/
def parts (path : String) : List String :=
  (pieces path).foldl (fun acc p =>
    if p = "" ∨ p = "." then acc
    else if p = ".." then acc.dropLast
    else acc ++ [p]) []

/-- What a path names. -/
inductive Entry where
  | file (text : String)
  | dir
  | missing
  /-- A part of the path before the last is a file. -/
  | throughFile
deriving Inhabited

/-- What the parts of a path name. -/
def entryAt (t : FileTree) (ps : List String) : Entry :=
  if (List.range ps.length).any fun k => (t.files.lookup (ps.take k)).isSome ∧ k > 0 then .throughFile
  else
    match t.files.lookup ps with
    | some text => .file text
    | none =>
      if ps.isEmpty ∨ t.dirs.any (fun q => q.length ≥ ps.length ∧ q.take ps.length = ps) ∨
          t.files.any fun (q, _) => q.length > ps.length ∧ q.take ps.length = ps then .dir
      else .missing

/-- What a path names; a path ending in `/` names only a directory. -/
def entry (t : FileTree) (path : String) : Entry :=
  match t.entryAt (parts path) with
  | .file text => if path.toList.getLast? = some '/' then .throughFile else .file text
  | e => e

/-- A tree of the given files. -/
def ofFiles (files : List (String × String)) : FileTree :=
  files.foldl (fun t (path, text) =>
    let ps := parts path
    { t with files := (t.files.filter (·.1 ≠ ps)) ++ [(ps, text)] }) {}

/-- The text of a file. -/
def read (t : FileTree) (path : String) : Except Fault String :=
  if path = "" then .error (.path "open" path .noEntry)
  else
    match t.entry path with
    | .file text => .ok text
    | .dir => .error (.path "read" path .isDirectory)
    | .missing => .error (.path "open" path .noEntry)
    | .throughFile => .error (.path "open" path .notDirectory)

/-- The tree with a file written: created, or replaced if it exists. -/
def write (t : FileTree) (path : String) (text : String) : Except Fault FileTree :=
  let ps := parts path
  if path = "" then .error (.path "open" path .noEntry)
  else
    match t.entry path with
    | .file _ => .ok { t with files := t.files.map fun (q, x) => if q = ps then (q, text) else (q, x) }
    | .dir => .error (.path "open" path .isDirectory)
    | .throughFile => .error (.path "open" path .notDirectory)
    | .missing =>
      match t.entryAt ps.dropLast with
      | .dir => .ok { t with files := t.files ++ [(ps, text)] }
      | .throughFile | .file _ => .error (.path "open" path .notDirectory)
      | .missing => .error (.path "open" path .noEntry)

/-- A path in its shortest form: `.` parts and empty parts dropped, a `..` taking away the
part before it where there is one, and `.` for nothing. -/
def clean (path : String) : String :=
  let rooted := path.startsWith "/"
  let ps := (pieces path).foldl (fun acc p =>
    if p = "" ∨ p = "." then acc
    else if p = ".." then
      match acc.reverse with
      | q :: rest => if q = ".." then acc ++ [p] else rest.reverse
      | [] => if rooted then acc else acc ++ [p]
    else acc ++ [p]) []
  let body := "/".intercalate ps
  if rooted then "/" ++ body else if body.isEmpty then "." else body

/-- The directory of a path: all but its last part, in shortest form. -/
def dirName (path : String) : String :=
  let cs := path.toList
  match cs.reverse.findIdx? (· = '/') with
  | some r => clean (String.ofList (cs.take (cs.length - r)))
  | none => "."

/-- A path with its last part and the separators before it taken off; none if no
directory part comes before it. -/
def parentOf (path : String) : Option String :=
  let cs := (path.toList.reverse.dropWhile (· = '/')).reverse
  let j := (cs.reverse.dropWhile (· ≠ '/')).length
  if j > 1 then some (String.ofList (cs.take (j - 1))) else none

/-- The tree with a directory made, and those above it that are missing. -/
def mkdirAll (t : FileTree) (path : String) : Except Fault FileTree :=
  go (path.length + 1) t path
where
  go : Nat → FileTree → String → Except Fault FileTree
    | 0, t, _ => .ok t
    | fuel + 1, t, path =>
      match t.entry path with
      | .dir => .ok t
      | .file _ => .error (.path "mkdir" path .notDirectory)
      | _ =>
        let made := match parentOf path with
          | some parent => go fuel t parent
          | none => .ok t
        match made with
        | .error e => .error e
        | .ok t =>
          match t.entry path with
          | .dir => .ok t
          | .file _ => .error (.path "mkdir" path .exists)
          | .throughFile => .error (.path "mkdir" path .notDirectory)
          | .missing =>
            let ps := parts path
            match t.entryAt ps.dropLast with
            | .dir => .ok { t with dirs := t.dirs ++ [ps] }
            | .missing => .error (.path "mkdir" path .noEntry)
            | _ => .error (.path "mkdir" path .notDirectory)

end FileTree

end Timebox
