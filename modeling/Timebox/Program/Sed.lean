import Timebox.Program.Options
import Timebox.Edit.Machine

/-! # sed

`sed [OPTION]… [SCRIPT] [FILE]…` runs a script over the lines of its files (or its
standard input): see `Edit.Script` for the script and `Edit.Machine` for the run. The
script is the pieces given with `-e SCRIPT` and `-f FILE`, in order, or else the first
operand. The options are `-n` (no automatic output), `-E`/`-r` (extended patterns), `-s`
(separate files), `-i[SUFFIX]` (edit the files in place), `-z` (lines ended by zero bytes),
`-l N` (the width of `l`), `-u`, `--posix`, `--sandbox` and `--debug`.

A script that is not one is told as `sed: -e expression #1, char N: …` with exit code 1; a
file that cannot be read is reported and skipped, and the exit code is then 2; a command
that finds no previous pattern, a file it cannot read or write, and a jump to a missing
label stop the run with their own codes.
-/

namespace Timebox

namespace Program

namespace Sed

open Options (Spec)
open Edit
open Process

/-- The options of `sed`. -/
def specs : List Spec :=
  [{ key := "n", letter := some 'n', long := some "quiet" },
   { key := "n", long := some "silent" },
   { key := "debug", long := some "debug" },
   { key := "e", letter := some 'e', long := some "expression", value := true },
   { key := "f", letter := some 'f', long := some "file", value := true },
   { key := "follow", long := some "follow-symlinks" },
   { key := "i", letter := some 'i', long := some "in-place", optional := true },
   { key := "l", letter := some 'l', long := some "line-length", value := true },
   { key := "posix", long := some "posix" },
   { key := "E", letter := some 'E', long := some "regexp-extended" },
   { key := "E", letter := some 'r' },
   { key := "s", letter := some 's', long := some "separate" },
   { key := "sandbox", long := some "sandbox" },
   { key := "u", letter := some 'u', long := some "unbuffered" },
   { key := "z", letter := some 'z', long := some "null-data" },
   { key := "z", long := some "zero-terminated" },
   { key := "b", letter := some 'b', long := some "binary" },
   { key := "help", long := some "help" },
   { key := "version", long := some "version" }]

/-- The lines of the usage text. -/
def usageLines (name : String) : List String :=
  ["Usage: " ++ name ++ " [OPTION]... \x7bscript-only-if-no-other-script\x7d [input-file]...",
   "",
   "  -n, --quiet, --silent",
   "                 suppress automatic printing of pattern space",
   "      --debug",
   "                 annotate program execution",
   "  -e script, --expression=script",
   "                 add the script to the commands to be executed",
   "  -f script-file, --file=script-file",
   "                 add the contents of script-file to the commands to be executed",
   "  --follow-symlinks",
   "                 follow symlinks when processing in place",
   "  -i[SUFFIX], --in-place[=SUFFIX]",
   "                 edit files in place (makes backup if SUFFIX supplied)",
   "  -l N, --line-length=N",
   "                 specify the desired line-wrap length for the \x60l' command",
   "  --posix",
   "                 disable all GNU extensions.",
   "  -E, -r, --regexp-extended",
   "                 use extended regular expressions in the script",
   "                 (for portability use POSIX -E).",
   "  -s, --separate",
   "                 consider files as separate rather than as a single,",
   "                 continuous long stream.",
   "      --sandbox",
   "                 operate in sandbox mode (disable e/r/w commands).",
   "  -u, --unbuffered",
   "                 load minimal amounts of data from the input files and flush",
   "                 the output buffers more often",
   "  -z, --null-data",
   "                 separate lines by NUL characters",
   "      --help     display this help and exit",
   "      --version  output version information and exit",
   "",
   "If no -e, --expression, -f, or --file option is given, then the first",
   "non-option argument is taken as the sed script to interpret.  All",
   "remaining arguments are names of input files; if no input files are",
   "specified, then the standard input is read.",
   ""]

/-- The usage text on the standard error, after a message if there is one; exit code 1. -/
def usage (name : String) (msg : Option String) : Effect :=
  let e : Effect := match msg with
    | some m => ({} : Effect).complain (name ++ ": " ++ m)
    | none => {}
  { (usageLines name).foldl Effect.complain e with code := 1 }

/-- The value of a number as the C library's `atoi` reads it: the digits at the front. -/
def frontNumber (s : String) : Nat :=
  (s.toList.dropWhile (· = ' ')).takeWhile Char.isDigit |>.foldl (fun n c => n * 10 + (c.toNat - 48)) 0

/-- How a script is read, from the options. -/
structure Plan where
  syn : RegexSyntax
  posix : Bool
  sandbox : Bool

/-- Reads the pieces of script the settings give, in order, into one program: the reading,
or the effect of the first fault (a script that is not one, or a script file that cannot
be opened). -/
def readPieces (inv : Invocation) (plan : Plan) (settings : List Options.Setting) :
    Except Effect (Reading × Nat) :=
  let step (acc : Reading × Nat × Bool) (setting : Options.Setting) : Except Effect (Reading × Nat × Bool) :=
    let (rd, count, seen) := acc
    let (key, value) := setting
    let piece : Except Effect (Option (Source × List UInt8 × Nat)) :=
      if key = "e" then .ok (some (.expression (count + 1), Raw.toBytes (value.getD ""), count + 1))
      else if key = "f" then
        let f := value.getD ""
        match readOperand inv f with
        | .ok bs => .ok (some (.file f, bs, count))
        | .error err =>
          .error { ({} : Effect).complain (inv.name ++ ": couldn't open file " ++ f ++ ": " ++ errnoText err) with code := 4 }
      else .ok none
    match piece with
    | .error e => .error e
    | .ok none => .ok acc
    | .ok (some (source, bytes, count)) =>
      let cx : Context := { source, syn := plan.syn, posix := plan.posix, sandbox := plan.sandbox, first := !seen }
      match readPiece cx rd bytes with
      | .ok rd => .ok (rd, count, true)
      | .error f => .error { ({} : Effect).complain (inv.name ++ ": " ++ f.text) with code := 1 }
  match settings.foldlM step ({}, 0, false) with
  | .ok (rd, count, _) => .ok (rd, count)
  | .error e => .error e

/-- What a command finds when it reads a file. -/
def loadOf (inv : Invocation) (disk : Disk) (name : List UInt8) : Loaded :=
  match disk.read (inv.cwd.resolve (Raw.ofBytes name)) with
  | .ok bs => .bytes bs
  | .error .isDirectory => .directory
  | .error _ => .missing

/-- An input file as the editor finds it. -/
def feedOf (inv : Invocation) (delim : UInt8) (f : String) : Feed :=
  match readOperand inv f with
  | .ok bs => .lines (Edit.linesOf delim bs)
  | .error .isDirectory => .broken ("read error on " ++ f ++ ": Is a directory")
  | .error err => .unreadable ("can't read " ++ f ++ ": " ++ errnoText err)

/-- The name a backup of a file edited in place gets: the suffix after it, or, when the
suffix holds `*`, the suffix with each `*` standing for the file's name. -/
def backupName (file suffix : String) : String :=
  if suffix.contains '*' then
    let base := (file.splitOn "/").getLast?.getD file
    let dir := String.intercalate "/" (file.splitOn "/").dropLast
    let named := String.intercalate base (suffix.splitOn "*")
    if named.contains '/' ∨ dir.isEmpty then named else dir ++ "/" ++ named
  else file ++ suffix

end Sed

open Sed Edit Process in
/-- The `sed` of the base system. -/
def sed (inv : Invocation) : Effect :=
  let r := Options.read specs inv.args
  let settings := r.settings
  let has (k : String) : Bool := Options.has settings k
  let plan : Plan :=
    { syn := let syn : RegexSyntax := if has "E" then .sedExtended else .sedBasic
        if has "posix" then { syn with posixOnly := true, looseParens := syn.ere } else syn,
      posix := has "posix", sandbox := has "sandbox" }
  -- the pieces of script before a wrong option are read before it is reported
  match readPieces inv plan settings with
  | .error e => e
  | .ok (rd, count) =>
    match r.fault with
    | some f => usage inv.name (some f.message)
    | none =>
      if has "help" then { ({} : Effect) with writes := (usageLines inv.name).map fun l => (1, Raw.toBytes (l ++ "\n")) }
      else if has "version" then {}
      else
        let given := settings.any fun (k, _) => k = "e" ∨ k = "f"
        let fromOperand : Except Effect (Reading × List String) :=
          if given then .ok (rd, r.operands)
          else
            match r.operands with
            | [] => .error (usage inv.name none)
            | s :: files =>
              let cx : Context := { source := .expression 1, syn := plan.syn, posix := plan.posix,
                                    sandbox := plan.sandbox, first := true }
              match readPiece cx {} (Raw.toBytes s) with
              | .ok rd => .ok (rd, files)
              | .error f => .error { ({} : Effect).complain (inv.name ++ ": " ++ f.text) with code := 1 }
        match fromOperand with
        | .error e => e
        | .ok (rd, files) =>
          match rd.blocks with
          | (_, source, line) :: _ =>
            let f : Edit.Fault := { msg := "unmatched \x60\x7b'", source, pos := 0, line }
            { ({} : Effect).complain (inv.name ++ ": " ++ f.text) with code := 1 }
          | [] =>
            match link rd.cmds with
            | .error name =>
              { ({} : Effect).complain (inv.name ++ ": can't find label for jump to \x60" ++ Raw.ofBytes name ++ "'") with code := 4 }
            | .ok prog =>
              let delim : UInt8 := if has "z" then 0 else 10
              let inPlace := has "i"
              -- the files `w` writes to are made before any input is read
              let made : Except Effect Disk := (writtenFiles prog).foldlM (fun d name =>
                let n := Raw.ofBytes name
                if n = "/dev/stdout" ∨ n = "/dev/stderr" then .ok d
                else
                  match d.write (inv.cwd.resolve n) [] false with
                  | .ok d => .ok d
                  | .error err =>
                    .error { ({} : Effect).complain (inv.name ++ ": couldn't open file " ++ n ++ ": " ++ errnoText err) with code := 4 })
                inv.disk
              match made with
              | .error e => e
              | .ok disk =>
                let st : Settings :=
                  { name := inv.name, quiet := has "n" || rd.quiet, delim, separate := has "s" || inPlace,
                    width := match Options.last? settings "l" with
                      | some v => frontNumber v
                      | none => 70,
                    load := loadOf inv disk,
                    place := "-e expression #" ++ toString (max count 1) ++ ", char 0: " }
                let prog := prog
                let steps := 1000 * (prog.size + 1) * (inv.stdin.length + 64)
                let start : Machine := { ranges := openAtStart prog }
                let finish (m : Machine) (disk : Disk) : Effect :=
                  let disk := m.written.foldl (fun d (name, o) =>
                    match d.write (inv.cwd.resolve (Raw.ofBytes name)) o.bytes false with
                    | .ok d => d
                    | .error _ => d) disk
                  -- a fault decides the exit code; else a file that could not be read does
                  let code := match m.code with
                    | some c => if m.failedInput ∧ m.quitted then 2 else c
                    | none => if m.failedInput then 2 else 0
                  { writes := [(2, m.err), (1, m.out.bytes)].filter (!·.2.isEmpty), code, disk := some disk }
                if !inPlace then
                  let feeds := (if files.isEmpty then ["-"] else files).map fun f => (f, feedOf inv delim f)
                  let total := feeds.foldl (fun n (_, f) => match f with
                    | .lines ls => n + ls.length
                    | _ => n) 0
                  let m := Machine.runAll st prog (steps + 1000 * total) (total + 1) { start with later := feeds } true
                  finish m disk
                else if files.isEmpty then
                  { ({} : Effect).complain (inv.name ++ ": no input files") with code := 4 }
                else
                  let suffix := Options.last? settings "i"
                  let (m, disk) := files.foldl (fun (acc : Machine × Disk) f =>
                    let (m, disk) := acc
                    if m.code.isSome then acc
                    else
                      match readOperand { inv with disk } f with
                      | .error .isDirectory =>
                        (m.fault st 4 ("couldn't edit " ++ f ++ ": not a regular file"), disk)
                      | .error err =>
                        ({ (m.complain st ("can't read " ++ f ++ ": " ++ errnoText err)) with failedInput := true }, disk)
                      | .ok bs =>
                        let lines := Edit.linesOf delim bs
                        let m0 : Machine := { m with out := {}, console := some (m.console.getD {}),
                                                     later := [(f, .lines lines)], lines := [] }
                        let m1 := Machine.runAll st prog (steps + 1000 * lines.length) (lines.length + 1) m0 true
                        let disk := match suffix with
                          | some s =>
                            match disk.write (inv.cwd.resolve (backupName f s)) bs false with
                            | .ok d => d
                            | .error _ => disk
                          | none => disk
                        let disk := match disk.write (inv.cwd.resolve f) m1.out.bytes false with
                          | .ok d => d
                          | .error _ => disk
                        (m1, disk)) (start, disk)
                  finish { m with out := m.console.getD {} } disk

end Program

end Timebox
