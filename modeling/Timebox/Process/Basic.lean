import Timebox.Files.System
import Timebox.Text.Utf8

/-! # Processes: how they end, what they write, the files they see

A process writes chunks of bytes to its output descriptors (1 for the standard output, 2
for the standard error), each at a time counted from its start, and ends after some time
either by exiting with a code or by a signal. What a run of a process did is a `Ran`.

The files a process sees are a `Disk`: the files of the working directory (the tree a
request brings), which may be written, and the fixed files of the machine, which are read
as empty. A file written on the disk is a program when its permission bits let someone
run it (`0644` unless they were changed). A path is resolved against the current directory into a `Place`: a place in the
working tree, or an absolute place on the machine.
-/

namespace Timebox

namespace Process

/-- A signal that can end a process. -/
inductive Signal where
  | hangup
  | interrupt
  | quit
  | illegal
  | trap
  | abort
  | bus
  | floatingPoint
  | kill
  | user1
  | segmentation
  | user2
  | pipe
  | alarm
  | term
deriving DecidableEq, Repr, Inhabited

namespace Signal

/-- All signals, by number. -/
def all : List Signal :=
  [.hangup, .interrupt, .quit, .illegal, .trap, .abort, .bus, .floatingPoint, .kill, .user1,
   .segmentation, .user2, .pipe, .alarm, .term]

/-- The number of a signal. -/
def number : Signal → Nat
  | .hangup => 1
  | .interrupt => 2
  | .quit => 3
  | .illegal => 4
  | .trap => 5
  | .abort => 6
  | .bus => 7
  | .floatingPoint => 8
  | .kill => 9
  | .user1 => 10
  | .segmentation => 11
  | .user2 => 12
  | .pipe => 13
  | .alarm => 14
  | .term => 15

/-- The short name of a signal, as `kill -s` takes it. -/
def name : Signal → String
  | .hangup => "HUP"
  | .interrupt => "INT"
  | .quit => "QUIT"
  | .illegal => "ILL"
  | .trap => "TRAP"
  | .abort => "ABRT"
  | .bus => "BUS"
  | .floatingPoint => "FPE"
  | .kill => "KILL"
  | .user1 => "USR1"
  | .segmentation => "SEGV"
  | .user2 => "USR2"
  | .pipe => "PIPE"
  | .alarm => "ALRM"
  | .term => "TERM"

/-- What a signal does, in the words a shell reports a job it ended with. -/
def description : Signal → String
  | .hangup => "Hangup"
  | .interrupt => "Interrupt"
  | .quit => "Quit"
  | .illegal => "Illegal instruction"
  | .trap => "Trace/breakpoint trap"
  | .abort => "Aborted"
  | .bus => "Bus error"
  | .floatingPoint => "Floating point exception"
  | .kill => "Killed"
  | .user1 => "User defined signal 1"
  | .segmentation => "Segmentation fault"
  | .user2 => "User defined signal 2"
  | .pipe => "Broken pipe"
  | .alarm => "Alarm clock"
  | .term => "Terminated"

/-- The signal of a number. -/
def ofNumber? (n : Nat) : Option Signal := all.find? (·.number = n)

/-- The signal of a name, with or without its `SIG` prefix, in any case. -/
def ofName? (s : String) : Option Signal :=
  let up := s.toUpper
  let bare := if up.startsWith "SIG" then String.ofList (up.toList.drop 3) else up
  all.find? (·.name = bare)

end Signal

/-- How a process ended. -/
inductive Status where
  | exited (code : Nat)
  | signaled (s : Signal)
deriving DecidableEq, Repr, Inhabited

namespace Status

/-- The status a shell sees: the exit code modulo 256, or 128 plus the signal's number. -/
def code : Status → Nat
  | .exited c => c % 256
  | .signaled s => 128 + s.number

/-- Whether the process succeeded. -/
def success (s : Status) : Bool := s.code = 0

/-- The exit code its parent reports: the code, or `-1` for a process ended by a signal. -/
def exitCode : Status → Int
  | .exited c => (c % 256 : Nat)
  | .signaled _ => -1

/-- The status in words: `exit status 3`, or `signal: killed`. -/
def text : Status → String
  | .exited c => "exit status " ++ toString (c % 256)
  | .signaled s => "signal: " ++ s.description.toLower

end Status

/-- A chunk of output: when it was written (since the process started), to which
descriptor, its bytes, and when the process that wrote it started, counting only the
process itself and those it started (a chunk the process wrote itself has its own time):
a kill of the process does not stop the processes it started. -/
structure Chunk where
  time : Int
  fd : Nat
  bytes : List UInt8
  origin : Int
deriving Repr, Inhabited

/-- A place a path names: in the working tree by its parts, or on the machine by its
absolute path. -/
inductive Place where
  | tree (parts : List String)
  | system (path : String)
deriving DecidableEq, Repr, Inhabited

/-- The parts of a path below a directory's parts: empty parts and `.` dropped, `..` going
up a level but never above the top. -/
def joinParts (base : List String) (path : String) : List String :=
  (path.splitOn "/").foldl (fun acc p =>
    if p = "" ∨ p = "." then acc
    else if p = ".." then acc.dropLast
    else acc ++ [p]) base

namespace Place

/-- The place a path names from a current directory. -/
def resolve (cwd : Place) (path : String) : Place :=
  if path.startsWith "/" then .system (FileTree.clean path)
  else
    match cwd with
    | .tree ps => .tree (joinParts ps path)
    | .system d => .system (FileTree.clean (d ++ "/" ++ path))

/-- The descriptor a device path stands for: `/dev/stdin`, `/dev/stdout` and `/dev/stderr`
are descriptors 0, 1 and 2, and `/dev/fd/n` is descriptor `n` of the process that opens it. -/
def stream? : Place → Option Nat
  | .system p =>
    if p = "/dev/stdin" then some 0
    else if p = "/dev/stdout" then some 1
    else if p = "/dev/stderr" then some 2
    else if p.startsWith "/dev/fd/" then (String.ofList (p.toList.drop 8)).toNat?
    else none
  | .tree _ => none

/-- The directory a place is in. -/
def parent : Place → Place
  | .tree ps => .tree ps.dropLast
  | .system p => .system (FileTree.dirName p)

/-- Whether a place is another one or lies below it. -/
def within : Place → Place → Bool
  | .tree q, .tree ps => q.length ≥ ps.length && q.take ps.length == ps
  | .system q, .system p => q == p || q.startsWith (if p = "/" then "/" else p ++ "/")
  | _, _ => false

/-- A place below `src` moved to the same spot below `dst`. -/
def rebase (q src dst : Place) : Place :=
  match q, src, dst with
  | .tree qs, .tree ps, .tree ds => .tree (ds ++ qs.drop ps.length)
  | .tree qs, .tree ps, .system d => .system (FileTree.clean ("/".intercalate (d :: qs.drop ps.length)))
  | .system q, .system p, .tree ds => .tree (joinParts ds (String.ofList (q.toList.drop p.length)))
  | .system q, .system p, .system d => .system (FileTree.clean (d ++ String.ofList (q.toList.drop p.length)))
  | q, _, _ => q

end Place

/-- What a place holds. -/
inductive Kind where
  | missing
  | directory
  | file (bytes : List UInt8) (executable : Bool)
  /-- A directory of the path before its last part is a file. -/
  | throughFile
deriving Inhabited

/-- The files a process sees: files and directories made in the working tree or on the
machine, over the machine's fixed files. -/
structure Disk where
  files : List (Place × List UInt8) := []
  dirs : List Place := []
  /-- The permission bits of the entries whose bits were changed. -/
  modes : List (Place × Nat) := []
deriving Inhabited

namespace Disk

/-- The permission bits of an entry: as changed, else `0755` for a directory and `0644`
(readable by all, writable by the owner) for a file. -/
def modeOf (d : Disk) (p : Place) (dir : Bool) : Nat :=
  (d.modes.lookup p).getD (if dir then 0o755 else 0o644)

/-- Whether permission bits let someone run a file. -/
def runnable (mode : Nat) : Bool := mode / 64 % 2 = 1 ∨ mode / 8 % 2 = 1 ∨ mode % 2 = 1

/-- The disk with the permission bits of an entry set. -/
def setMode (d : Disk) (p : Place) (mode : Nat) : Disk :=
  { d with modes := (p, mode) :: d.modes.filter (·.1 ≠ p) }

/-- The disk of a working tree. -/
def ofTree (t : FileTree) : Disk :=
  { files := t.files.map fun (ps, s) => (.tree ps, Text.utf8Bytes s), dirs := t.dirs.map .tree }

/-- What a place holds. -/
def kind (d : Disk) : Place → Kind
  | .tree ps =>
    if (List.range ps.length).any fun k => k > 0 ∧ (d.files.lookup (.tree (ps.take k))).isSome then
      .throughFile
    else
      match d.files.lookup (.tree ps) with
      | some b => .file b (runnable (d.modeOf (.tree ps) false))
      | none =>
        let under (q : List String) := q.length ≥ ps.length ∧ q.take ps.length = ps
        if ps.isEmpty ∨ d.dirs.any (fun | .tree q => under q | _ => false) ∨
            d.files.any (fun | (.tree q, _) => q.length > ps.length ∧ under q | _ => false) then
          .directory
        else .missing
  | .system p =>
    match d.files.lookup (.system p) with
    | some b => .file b (runnable (d.modeOf (.system p) false))
    | none =>
      match Machine.absoluteKind p with
      | .directory => .directory
      | .file x => .file [] x
      | .missing => if d.dirs.contains (.system p) then .directory else .missing

/-- Whether a place is a directory. -/
def isDirectory (d : Disk) (p : Place) : Bool :=
  match d.kind p with
  | .directory => true
  | _ => false

/-- The disk with bytes written to a file, replacing or appending to what it holds; the
file is made when missing, in a directory that exists. The null device takes anything. -/
def write (d : Disk) (p : Place) (bytes : List UInt8) (append : Bool) : Except Errno Disk :=
  if p = .system "/dev/null" then .ok d
  else
    match d.kind p with
    | .directory => .error .isDirectory
    | .throughFile => .error .notDirectory
    | .file old _ =>
      let b := if append then old ++ bytes else bytes
      .ok { d with files := (d.files.filter (·.1 ≠ p)) ++ [(p, b)] }
    | .missing =>
      match d.kind p.parent with
      | .directory => .ok { d with files := d.files ++ [(p, bytes)] }
      | .missing => .error .noEntry
      | _ => .error .notDirectory

/-- The bytes of a file, or why it cannot be read. -/
def read (d : Disk) (p : Place) : Except Errno (List UInt8) :=
  match d.kind p with
  | .file b _ => .ok b
  | .directory => .error .isDirectory
  | .missing => .error .noEntry
  | .throughFile => .error .notDirectory

/-- Whether a place is one no process may remove or move: the top of the working tree, or
a path of the machine's own. -/
def isFixed : Place → Bool
  | .system s => Machine.absoluteKind s != .missing
  | .tree ps => ps.isEmpty

/-- Whether anything lies below a place. -/
def hasEntriesBelow (d : Disk) (p : Place) : Bool :=
  d.files.any (fun (q, _) => q != p && q.within p) || d.dirs.any (fun q => q != p && q.within p)

/-- The disk with a directory made where nothing is, in a directory that exists. -/
def makeDir (d : Disk) (p : Place) : Except Errno Disk :=
  match d.kind p with
  | .missing =>
    match d.kind p.parent with
    | .directory => .ok { d with dirs := d.dirs ++ [p] }
    | .missing => .error .noEntry
    | _ => .error .notDirectory
  | .throughFile => .error .notDirectory
  | _ => .error .exists

/-- The disk without what lies at or below a place; the directory it was in stays. -/
def erase (d : Disk) (p : Place) : Disk :=
  let keep := match p.parent with
    | .tree [] => []
    | q => if q = p then [] else [q]
  { files := d.files.filter (fun (q, _) => !q.within p),
    dirs := (d.dirs.filter fun q => !q.within p) ++ keep.filter fun q => !d.dirs.contains q,
    modes := d.modes.filter fun (q, _) => !q.within p }

/-- The disk without a file. -/
def removeFile (d : Disk) (p : Place) : Except Errno Disk :=
  match d.kind p with
  | .file .. => if isFixed p then .error .permission else .ok (d.erase p)
  | .directory => .error .isDirectory
  | .missing => .error .noEntry
  | .throughFile => .error .notDirectory

/-- The disk without an empty directory. -/
def removeDir (d : Disk) (p : Place) : Except Errno Disk :=
  match d.kind p with
  | .directory =>
    if isFixed p then .error .permission
    else if d.hasEntriesBelow p then .error .notEmpty
    else .ok (d.erase p)
  | .file .. => .error .notDirectory
  | .missing => .error .noEntry
  | .throughFile => .error .notDirectory

/-- The files and directories at or below a place, moved below another place. -/
def copyTree (d : Disk) (src dst : Place) : Disk :=
  let files := (d.files.filter fun (q, _) => q.within src).map fun (q, b) => (q.rebase src dst, b)
  let dirs := (d.dirs.filter fun q => q.within src).map fun q => q.rebase src dst
  let dirs := if d.isDirectory src then dst :: dirs else dirs
  let modes := (d.modes.filter fun (q, _) => q.within src).map fun (q, m) => (q.rebase src dst, m)
  { files := (d.files.filter fun (q, _) => !files.any (·.1 == q)) ++ files,
    dirs := d.dirs ++ dirs.filter fun q => !d.dirs.contains q,
    modes := modes ++ d.modes.filter fun (q, _) => !modes.any (·.1 == q) }

/-- The names directly in a directory of the working tree. -/
def children (d : Disk) (ps : List String) : List String :=
  let below (q : List String) : Option String :=
    if q.length > ps.length ∧ q.take ps.length = ps then q[ps.length]? else none
  let names := d.files.filterMap (fun | (.tree q, _) => below q | _ => none) ++
    d.dirs.filterMap (fun | .tree q => below q | _ => none)
  names.foldl (fun acc n => if acc.contains n then acc else acc ++ [n]) []

end Disk

/-- The environment of a process: its variables in order. -/
abbrev Env := List (String × String)

/-- The environment with a variable set: replaced where it is, else added at the end. -/
def Env.set (env : Env) (k v : String) : Env :=
  if env.any (·.1 = k) then env.map fun (k', v') => if k' = k then (k', v) else (k', v') else env ++ [(k, v)]

/-- The environment of `key=value` entries; an entry without `=` is dropped, and of two
entries of one key the later wins, at its own place. -/
def Env.ofEntries (entries : List String) : Env :=
  let pairs := entries.filterMap fun e =>
    match e.splitOn "=" with
    | k :: rest => if rest.isEmpty then none else some (k, "=".intercalate rest)
    | [] => none
  let kept := (pairs.reverse.foldl (fun (seen, acc) (k, v) =>
    if seen.contains k then (seen, acc) else (k :: seen, (k, v) :: acc)) ([], [])).2
  kept

/-- What a run of a process did: its output in order, how long it ran, how it ended (none
when it runs on for ever), the disk after it, and when the processes it started ran (from
when to when), which hold its output open as long as they run. -/
structure Ran where
  chunks : List Chunk
  elapsed : Int
  status : Option Status
  disk : Disk
  holders : List (Int × Int) := []
deriving Inhabited

namespace Ran

/-- The bytes written to a descriptor. -/
def bytesOn (r : Ran) (fd : Nat) : List UInt8 := (r.chunks.filter (·.fd = fd)).flatMap (·.bytes)

/-- All bytes written, in order. -/
def allBytes (r : Ran) : List UInt8 := r.chunks.flatMap (·.bytes)

/-- The run cut at a time, when its process is killed then: what it wrote before stays, and
the processes it started before run on, with what they write. -/
def killedAt (r : Ran) (t : Int) (s : Signal) : Ran :=
  { r with chunks := r.chunks.filter (fun c => c.time < t ∨ c.origin < t), elapsed := t,
           status := some (.signaled s), holders := r.holders.filter (·.1 < t) }

/-- When the output of a run whose process ends at a time is closed: when the last process
it started that is still running then ends. -/
def closesAt (r : Ran) (ends : Int) : Int :=
  r.holders.foldl (fun m (s, e) => if s ≤ ends ∧ e > m then e else m) ends

/-- The run as its outputs show it when they are closed at a time: what was written until
then, or only before then when a process still held them open. -/
def closedAt (r : Ran) (t : Int) (heldOpen : Bool) : Ran :=
  { r with chunks := r.chunks.filter fun c => if heldOpen then c.time < t else c.time ≤ t }

end Ran

end Process

end Timebox
