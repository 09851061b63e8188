import Timebox.Files.Tree

/-! # The machine's files

Commands run on a machine whose files outside the working directory are fixed: the usual
directories of a Linux system, a few system files, and the programs of its base system in
`/usr/bin` (also reachable as `/bin`, which points there). Relative paths are looked up in
the working directory, whose files are never executable.

`Machine.lookPath` finds a program name in the search path `/usr/local/bin:/usr/bin:/bin`;
`Machine.isExecutable` says whether a path is an executable file.
-/

namespace Timebox

/-- The programs of the base system. -/
def basePrograms : List String :=
  ["[", "arch", "awk", "b2sum", "base32", "base64", "basename", "basenc", "bash", "cat", "chgrp",
   "chmod", "chown", "cksum", "cmp", "comm", "cp", "csplit", "cut", "dash", "date", "dd", "df",
   "diff", "dir", "dircolors", "dirname", "du", "echo", "egrep", "env", "expand", "expr", "factor",
   "false", "fgrep", "find", "fmt", "fold", "getopt", "grep", "groups", "gunzip", "gzip", "head",
   "git", "hostid", "hostname", "id", "install", "join", "link", "ln", "logname", "ls", "mawk",
   "md5sum", "mkdir", "mkfifo", "mknod", "mktemp", "more", "mv", "nice", "nl", "nohup", "nproc",
   "numfmt", "od", "paste", "pathchk", "pinky", "pr", "printenv", "printf",
   "ptx", "pwd", "rbash", "readlink", "realpath", "rev", "rm", "rmdir", "runcon", "sed", "seq", "sh",
   "sha1sum", "sha224sum", "sha256sum", "sha384sum", "sha512sum", "shred", "shuf", "sleep", "sort",
   "split", "stat", "stdbuf", "stty", "sum", "sync", "tac", "tail", "tar", "tee", "test", "timeout",
   "touch", "tr", "true", "truncate", "tsort", "tty", "uname", "unexpand", "uniq", "unlink", "users",
   "vdir", "wc", "which", "who", "whoami", "xargs", "yes", "zcat"]

/-- The directories of the machine. -/
def systemDirectories : List String :=
  ["/", "/bin", "/boot", "/dev", "/etc", "/home", "/lib", "/lib64", "/media", "/mnt", "/opt",
   "/proc", "/root", "/run", "/sbin", "/srv", "/sys", "/tmp", "/usr", "/usr/bin", "/usr/lib",
   "/usr/local", "/usr/local/bin", "/usr/local/lib", "/usr/local/sbin", "/usr/sbin", "/usr/share",
   "/var", "/var/tmp"]

/-- Files of the machine that are not programs. -/
def systemFiles : List String :=
  ["/etc/passwd", "/etc/group", "/etc/hosts", "/etc/hostname", "/etc/os-release", "/etc/shells",
   "/dev/null", "/dev/zero", "/dev/random", "/dev/urandom"]

/-- The search path for program names. -/
def searchPath : List String := ["/usr/local/bin", "/usr/bin", "/bin"]

/-- What a path names. -/
inductive PathKind where
  | missing
  | directory
  | file (executable : Bool)
deriving DecidableEq, Repr, Inhabited

namespace Machine

/-- What an absolute path names, after `.`, `..` and repeated separators are resolved. -/
def absoluteKind (path : String) : PathKind :=
  let p := FileTree.clean path
  if systemDirectories.contains p then .directory
  else if systemFiles.contains p then .file false
  else
    let dir := FileTree.dirName p
    let name := String.ofList (p.toList.drop (dir.length + (if dir = "/" then 0 else 1)))
    if (dir = "/usr/bin" ∨ dir = "/bin") ∧ basePrograms.contains name then .file true
    else .missing

/-- What a path names: an absolute one on the machine, a relative one in the working
directory. -/
def kind (work : FileTree) (path : String) : PathKind :=
  if path.startsWith "/" then absoluteKind path
  else if path = "" then .missing
  else match work.entry path with
    | .file _ => .file false
    | .dir => .directory
    | _ => .missing

/-- Whether a path is an executable file. -/
def isExecutable (work : FileTree) (path : String) : Bool :=
  match kind work path with
  | .file x => x
  | _ => false

/-- The first place in the search path where a program name is an executable file; a
name with a slash is only checked itself. -/
def lookPath (work : FileTree) (name : String) : Option String :=
  if '/' ∈ name.toList then (if isExecutable work name then some name else none)
  else (searchPath.map (· ++ "/" ++ name)).find? (isExecutable work ·)

end Machine

end Timebox
