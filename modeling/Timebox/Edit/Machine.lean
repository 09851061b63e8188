import Timebox.Edit.Script

/-! # Running a script of the stream editor

The editor reads its input one line at a time into the pattern space and runs the program
on it; at the end of the cycle the space is written (unless `-n`), then the text queued by
`a`, `r` and `R`. A line is a run of bytes ended by the delimiter (a newline, or a zero
byte with `-z`); the last line of the input may lack it, and is then written without it.

* A range `a1,a2` starts on a line `a1` selects and goes on until a line `a2` selects,
  looked for from the next line on; when `a2` is a line number not after the start, the
  range is that one line. `0,/re/` is a range open before the first line.
* The files are one stream, or each its own with `-s`, where line numbers and the last
  line `$` are those of each file.
* The space and the hold space each know whether a delimiter ends them: `g`, `h`, `x`, `G`
  and `H` carry it along, and a space without one is written without one; whatever is
  written after it starts with the newline it lacked.
* A queued text is written when the next line is read, by the cycle or by `n` and `N`,
  and when the input ends.
-/

namespace Timebox

namespace Edit

open Regex (ch)

/-- A line of input: its bytes, and whether its delimiter ended it. -/
structure Line where
  bytes : List UInt8
  chomped : Bool := true
deriving Inhabited

/-- The lines of some bytes, split at a delimiter. -/
def linesOf (delim : UInt8) (bs : List UInt8) : List Line :=
  go (bs.length + 1) bs []
where
  go : Nat → List UInt8 → List UInt8 → List Line
    | 0, _, cur => if cur.isEmpty then [] else [{ bytes := cur.reverse, chomped := false }]
    | _, [], cur => if cur.isEmpty then [] else [{ bytes := cur.reverse, chomped := false }]
    | fuel + 1, b :: rest, cur =>
      if b = delim then { bytes := cur.reverse } :: go fuel rest [] else go fuel rest (b :: cur)

/-- An input as the editor finds it: its lines, a file it cannot read (which it reports
and skips), or one it stops at. -/
inductive Feed where
  | lines (ls : List Line)
  | unreadable (msg : String)
  | broken (msg : String)

/-- A file a command reads (`r`, `R`): its bytes, missing (read as empty), or a directory,
which stops the editor. -/
inductive Loaded where
  | bytes (bs : List UInt8)
  | missing
  | directory

/-- Output written so far, and the delimiter the last line written lacked, if it did. -/
structure Out where
  bytes : List UInt8 := []
  owed : List UInt8 := []
deriving Inhabited

/-- Writes raw bytes, after the delimiter the last line lacked. -/
def Out.raw (o : Out) (bs : List UInt8) : Out :=
  { bytes := o.bytes ++ o.owed ++ bs, owed := [] }

/-- Writes a line, with its delimiter when `ends`. -/
def Out.line (o : Out) (delim : UInt8) (bs : List UInt8) (ends : Bool) : Out :=
  let o := o.raw bs
  if ends then { o with bytes := o.bytes ++ [delim] } else { o with owed := [delim] }

/-- A buffer of the editor, the pattern space or the hold space, and whether a delimiter
ends it. -/
structure Buffer where
  bytes : List UInt8 := []
  chomped : Bool := true
deriving Inhabited

/-- What is queued for the end of the cycle: bytes, or a file to copy then. -/
inductive Queued where
  | text (bs : List UInt8)
  | file (name : List UInt8)

/-- How the editor runs: its name, `-n`, the delimiter of lines, whether files are separate
(`-s`, `-i`), the width of `l`, the files commands read, and where the script is for a
fault found while running. -/
structure Settings where
  /-- The name the tool was called by, which starts its messages. -/
  name : String := "sed"
  quiet : Bool := false
  delim : UInt8 := 10
  separate : Bool := false
  width : Nat := 70
  load : List UInt8 → Loaded
  place : String

/-- The state of the editor. -/
structure Machine where
  space : Buffer := {}
  hold : Buffer := {}
  lineNo : Nat := 0
  /-- The lines left of the file being read, its name, and the inputs after it. -/
  lines : List Line := []
  file : String := "-"
  later : List (String × Feed) := []
  queue : List Queued := []
  out : Out := {}
  /-- The standard output, when the output goes to a file edited in place. -/
  console : Option Out := none
  err : List UInt8 := []
  replaced : Bool := false
  lastRx : Option (Regex × Bool) := none
  /-- The ranges open: the command, and the line number that ends it, if a number does. -/
  ranges : List (Nat × Option Nat) := []
  /-- The files `w` writes to, with what was written. -/
  written : List (List UInt8 × Out) := []
  /-- How many lines of each file `R` has read. -/
  lineReads : List (List UInt8 × Nat) := []
  /-- The exit code, once the editor stops: by `q`, `Q`, or a fault. -/
  code : Option Nat := none
  /-- Whether the code is that of `q` or `Q`. -/
  quitted : Bool := false
  failedInput : Bool := false
deriving Inhabited

namespace Machine

/-- Reports a fault on the standard error. -/
def complain (st : Settings) (m : Machine) (msg : String) : Machine :=
  { m with err := m.err ++ Raw.toBytes (st.name ++ ": " ++ msg ++ "\n") }

/-- Stops with a fault and its exit code. -/
def fault (st : Settings) (m : Machine) (code : Nat) (msg : String) : Machine :=
  { m.complain st msg with code := some code }

/-- Whether an input holds no line. -/
def Feed.empty : Feed → Bool
  | .lines ls => ls.isEmpty
  | _ => true

/-- Whether the line read last is the last one: of its file with `-s`, else of all. -/
def atLast (st : Settings) (m : Machine) : Bool :=
  m.lines.isEmpty && (st.separate || m.later.all fun (_, f) => Feed.empty f)

/-- Writes the queued texts and files, up to a file that stops the editor. -/
def dumpQueue (st : Settings) (m : Machine) : Machine :=
  let (m, _) := m.queue.foldl (fun (acc : Machine × Bool) q =>
    let (m, stopped) := acc
    if stopped then acc
    else
      match q with
      | .text bs => ({ m with out := m.out.raw bs }, false)
      | .file name =>
        match st.load name with
        | .bytes bs => ({ m with out := m.out.raw bs }, false)
        | .missing => (m, false)
        | .directory => (m.fault st 4 ("read error on " ++ Raw.ofBytes name ++ ": Is a directory"), true)) (m, false)
  { m with queue := [] }

/-- Reads the next line of input, moving through the files, after writing what was
queued: the line, or none at the end. Files that cannot be read are reported. -/
def nextLine (st : Settings) (m : Machine) : Option Line × Machine :=
  let m := dumpQueue st { m with replaced := false }
  if m.code.isSome then (none, m) else go (m.later.length + 1) m
where
  go : Nat → Machine → Option Line × Machine
    | 0, m => (none, m)
    | fuel + 1, m =>
      match m.lines with
      | l :: rest => (some l, { m with lines := rest, lineNo := m.lineNo + 1 })
      | [] =>
        match m.later with
        | [] => (none, m)
        | (name, feed) :: more =>
          match feed with
          | .lines ls =>
            go fuel { m with lines := ls, file := name, later := more,
                             lineNo := if st.separate then 0 else m.lineNo }
          | .unreadable msg => go fuel { (m.complain st msg) with later := more, failedInput := true }
          | .broken msg => (none, { (m.fault st 4 msg) with later := more })

/-- The pattern of an address or a substitution: its own, or the one used last, which it
becomes. -/
def patternOf (st : Settings) (m : Machine) (rx : Option Regex) (icase : Bool) :
    Option (Regex × Bool) × Machine :=
  match rx with
  | some r => (some (r, icase), { m with lastRx := some (r, icase) })
  | none =>
    match m.lastRx with
    | some p => (some p, m)
    | none => (none, m.fault st 1 (st.place ++ "no previous regular expression"))

/-- Whether an address selects the current line. -/
def holds (st : Settings) (m : Machine) : Addr → Bool × Machine
  | .line n => (m.lineNo = n, m)
  | .every first step => (decide (m.lineNo ≥ first) && (m.lineNo - first) % step = 0, m)
  | .last => (atLast st m, m)
  | .matching rx icase =>
    let (p, m) := patternOf st m rx icase
    match p with
    | some (r, i) => ((r.search i m.space.bytes.toArray 0).isSome, m)
    | none => (false, m)
  | .more _ | .upTo _ => (false, m)

/-- Whether a command's addresses select the current line, its range kept going. -/
def selects (st : Settings) (m : Machine) (i : Nat) (c : Cmd) : Bool × Machine :=
  let (hit, m) : Bool × Machine := match c.first, c.second with
    | none, _ => (true, m)
    | some a, none => holds st m a
    | some a, some b =>
      match m.ranges.lookup i with
      | some endLine =>
        let close (m : Machine) : Machine := { m with ranges := m.ranges.filter (·.1 ≠ i) }
        match endLine with
        | some e => (decide (m.lineNo ≤ e), if m.lineNo ≥ e then close m else m)
        | none =>
          let (ended, m) := holds st m b
          (true, if ended then close m else m)
      | none =>
        let (started, m) := holds st m a
        if !started then (false, m)
        else
          let openTo (e : Option Nat) : Bool × Machine := (true, { m with ranges := (i, e) :: m.ranges })
          match b with
          | .line n => if n ≤ m.lineNo then (true, m) else openTo (some n)
          | .more n => if n = 0 then (true, m) else openTo (some (m.lineNo + n))
          | .upTo n => if n = 0 then (true, m) else openTo (some ((m.lineNo / n + 1) * n))
          | _ => openTo none
  (hit != c.negate, m)

end Machine

/-! ### Substitution -/

/-- Bytes written in a style. -/
def Style.apply (s : Style) (bs : List UInt8) : List UInt8 :=
  let whole (b : UInt8) : UInt8 := match s.case with
    | .asIs => b
    | .upper => Regex.upper b
    | .lower => Regex.lower b
  match bs with
  | [] => []
  | b :: rest =>
    let first := if s.upperFirst then Regex.upper b else if s.lowerFirst then Regex.lower b else whole b
    first :: rest.map whole

/-- The replacement of one match: each piece's bytes, then its group, in its style. A
`\u` or `\l` before an empty group waits for the next piece that has none of its own. -/
def replacement (t : Array UInt8) (s e : Nat) (spans : Regex.Spans) (pieces : List Piece) : List UInt8 :=
  (pieces.foldl (fun (acc : List UInt8 × Option Style) p =>
    let (out, waiting) := acc
    let cur : Style := if p.style.modified then p.style
      else match waiting with
        | some w => { p.style with upperFirst := w.upperFirst, lowerFirst := w.lowerFirst }
        | none => p.style
    let (out, cur) := if p.text.isEmpty then (out, cur) else (out ++ cur.apply p.text, cur.plain)
    match p.ref with
    | none => (out, none)
    | some n =>
      let (a, b) := if n = 0 then (s, e) else (spans.lookup n).getD (0, 0)
      if a = b then (out, if p.style.modified then some cur else none)
      else (out ++ cur.apply (t.extract a b).toList, none)) ([], none)).1

/-- The space after `s`: each match from the `nth` on (all of them with `global`, else only
that one) replaced; an empty match right after a match is no match. Also whether a
replacement was made. -/
def substitute (rx : Regex) (icase : Bool) (pieces : List Piece) (global : Bool) (nth : Nat)
    (space : List UInt8) : List UInt8 × Bool :=
  let t := space.toArray
  go (t.size + 2) t 0 none 1 [] false
where
  go : Nat → Array UInt8 → Nat → Option Nat → Nat → List UInt8 → Bool → List UInt8 × Bool
    | 0, t, pos, _, _, acc, done => (acc ++ (t.extract pos t.size).toList, done)
    | fuel + 1, t, pos, prevEnd, count, acc, done =>
      if pos > t.size then (acc, done)
      else
        match rx.search icase t pos with
        | none => (acc ++ (t.extract pos t.size).toList, done)
        | some (s, e, spans) =>
          if e = s ∧ prevEnd = some s then
            if s < t.size then go fuel t (s + 1) none count (acc ++ (t.extract pos (s + 1)).toList) done
            else (acc ++ (t.extract pos t.size).toList, done)
          else
            let before := (t.extract pos s).toList
            let replaceIt := count ≥ nth
            let middle := if replaceIt then replacement t s e spans pieces else (t.extract s e).toList
            let acc := acc ++ before ++ middle
            let done := done || replaceIt
            if replaceIt ∧ !global then (acc ++ (t.extract e t.size).toList, done)
            else if e = s then
              if s < t.size then go fuel t (s + 1) (some e) (count + 1) (acc ++ (t.extract s (s + 1)).toList) done
              else (acc, done)
            else go fuel t e (some e) (count + 1) acc done

/-! ### Commands -/

/-- A byte as `l` writes it: printable bytes as themselves (a backslash doubled), the
usual escapes, else three octal digits. -/
def listForm (b : UInt8) : List UInt8 :=
  if b = 92 then [92, 92]
  else if 32 ≤ b ∧ b < 127 then [b]
  else
    let named : Option Char :=
      if b = 7 then some 'a' else if b = 8 then some 'b' else if b = 12 then some 'f'
      else if b = 10 then some 'n' else if b = 13 then some 'r' else if b = 9 then some 't'
      else if b = 11 then some 'v' else none
    match named with
    | some c => [92, ch c]
    | none => [92, 48 + b / 64, 48 + b / 8 % 8, 48 + b % 8]

/-- The output of `l`: the bytes in their forms, a line broken with `\` before a form
would pass the width (none with width 0), and `$` at the end. -/
def listing (width : Nat) (bs : List UInt8) : List UInt8 :=
  let (out, _) := bs.foldl (fun (acc : List UInt8 × Nat) b =>
    let (out, col) := acc
    let f := listForm b
    if width > 0 ∧ col + f.length > width - 1 then (out ++ [92, 10] ++ f, f.length)
    else (out ++ f, col + f.length)) ([], 0)
  out ++ [ch '$', 10]

/-- The bytes up to the first delimiter, and whether there is one. -/
def firstLine (delim : UInt8) (bs : List UInt8) : List UInt8 × Bool :=
  let first := bs.takeWhile (· ≠ delim)
  (first, first.length < bs.length)

/-- How the cycle goes on after a command. -/
inductive Next where
  | step
  | jumpTo (i : Nat)
  /-- The end of the cycle, writing the space unless told not to. -/
  | endCycle (write : Bool)
  /-- A new cycle on what is left of the space, without reading a line. -/
  | restart
  /-- The end of the run, writing the space (and what was queued) first when told to. -/
  | stop (write : Bool)

namespace Machine

/-- Writes a line where `w` sends it: the standard output or error, or a file. -/
def writeTo (st : Settings) (m : Machine) (name : List UInt8) (bs : List UInt8) (ends : Bool) : Machine :=
  if name = Raw.toBytes "/dev/stdout" then
    match m.console with
    | some o => { m with console := some (o.line st.delim bs ends) }
    | none => { m with out := m.out.line st.delim bs ends }
  else if name = Raw.toBytes "/dev/stderr" then
    { m with err := m.err ++ bs ++ (if ends then [st.delim] else []) }
  else
    let o := (m.written.lookup name).getD {}
    { m with written := (m.written.filter (·.1 ≠ name)) ++ [(name, o.line st.delim bs ends)] }

/-- The next line of a file `R` reads, as it is queued: with its delimiter if it has one. -/
def readLineOf (st : Settings) (m : Machine) (name : List UInt8) : Option (List UInt8) × Machine :=
  match st.load name with
  | .bytes bs =>
    let k := (m.lineReads.lookup name).getD 0
    let m := { m with lineReads := (name, k + 1) :: m.lineReads.filter (·.1 ≠ name) }
    match (linesOf st.delim bs)[k]? with
    | some l => (some (l.bytes ++ (if l.chomped then [st.delim] else [])), m)
    | none => (none, m)
  | _ => (none, m)

/-- Writes the pattern space as a line. -/
def emit (st : Settings) (m : Machine) : Machine :=
  { m with out := m.out.line st.delim m.space.bytes m.space.chomped }

/-- Runs one command on the current line. -/
def exec (st : Settings) (c : Cmd) (i : Nat) (m : Machine) : Next × Machine :=
  match c.op with
  | .blockEnd | .label _ => (.step, m)
  | op =>
    let (hit, m) := selects st m i c
    if m.code.isSome then (.stop false, m)
    else
      match op, hit with
      | .block after, false => (.jumpTo after, m)
      | _, false => (.step, m)
      | .subst s, true =>
        let (p, m) := patternOf st m s.rx s.icase
        match p with
        | none => (.stop false, m)
        | some (r, icase) =>
          let (bytes, done) := substitute r icase s.pieces s.global s.nth m.space.bytes
          if !done then (.step, m)
          else
            let m := { m with space := { m.space with bytes }, replaced := true }
            let m := if s.print then emit st m else m
            let m := match s.write with
              | some name => writeTo st m name m.space.bytes m.space.chomped
              | none => m
            (.step, m)
      | .translit pairs, true =>
        (.step, { m with space := { m.space with bytes := m.space.bytes.map fun b => (pairs.lookup b).getD b } })
      | .text .append t, true => (.step, { m with queue := m.queue ++ [.text t] })
      | .text .insert t, true => (.step, { m with out := m.out.raw t })
      | .text .change t, true =>
        let m := if (m.ranges.lookup i).isNone then { m with out := m.out.raw t } else m
        (.endCycle false, m)
      | .branch kind _ target, true =>
        let taken := match kind with
          | .always => true
          | .replaced => m.replaced
          | .unreplaced => !m.replaced
        let m := if kind = .always then m else { m with replaced := false }
        if taken then
          match target with
          | some j => (.jumpTo j, m)
          | none => (.endCycle true, m)
        else (.step, m)
      | .quit print code, true => (.stop print, { m with code := some code, quitted := true })
      | .list w, true => (.step, { m with out := m.out.raw (listing (w.getD st.width) m.space.bytes) })
      | .readFile name, true => (.step, { m with queue := m.queue ++ [.file name] })
      | .readLine name, true =>
        let (l, m) := readLineOf st m name
        match l with
        | some bs => (.step, { m with queue := m.queue ++ [.text bs] })
        | none => (.step, m)
      | .writeFile name, true => (.step, writeTo st m name m.space.bytes m.space.chomped)
      | .writeFirst name, true =>
        let (first, more) := firstLine st.delim m.space.bytes
        (.step, writeTo st m name first (more || m.space.chomped))
      | .execute _, true => (.step, m)
      | .print, true => (.step, emit st m)
      | .printFirst, true =>
        let (first, more) := firstLine st.delim m.space.bytes
        (.step, { m with out := m.out.line st.delim first (more || m.space.chomped) })
      | .delete, true => (.endCycle false, m)
      | .deleteFirst, true =>
        let (first, more) := firstLine st.delim m.space.bytes
        if more then (.restart, { m with space := { m.space with bytes := m.space.bytes.drop (first.length + 1) } })
        else (.endCycle false, m)
      | .next, true =>
        if atLast st m then (.stop true, m)
        else
          let m := if st.quiet then m else emit st m
          match nextLine st m with
          | (some l, m) => (.step, { m with space := { bytes := l.bytes, chomped := l.chomped } })
          | (none, m) => (.stop false, m)
      | .appendNext, true =>
        if atLast st m then (.stop true, m)
        else
          match nextLine st m with
          | (some l, m) =>
            (.step, { m with space := { bytes := m.space.bytes ++ [st.delim] ++ l.bytes, chomped := l.chomped } })
          | (none, m) => (.stop true, m)
      | .lineNumber, true => (.step, { m with out := m.out.raw (Raw.toBytes (toString m.lineNo ++ "\n")) })
      | .fileName, true => (.step, { m with out := m.out.raw (Raw.toBytes m.file ++ [st.delim]) })
      | .hold, true => (.step, { m with hold := m.space })
      | .holdAppend, true =>
        (.step, { m with hold := { bytes := m.hold.bytes ++ [st.delim] ++ m.space.bytes, chomped := m.space.chomped } })
      | .get, true => (.step, { m with space := m.hold })
      | .getAppend, true =>
        (.step, { m with space := { bytes := m.space.bytes ++ [st.delim] ++ m.hold.bytes, chomped := m.hold.chomped } })
      | .exchange, true => (.step, { m with space := m.hold, hold := m.space })
      | .zap, true => (.step, { m with space := { m.space with bytes := [] } })
      | .broken b, true => (.stop false, m.fault st 4 ("INTERNAL ERROR: Bad cmd " ++ Raw.ofBytes [b]))
      | _, true => (.step, m)

/-- Runs the program from a command to the end of the cycle. -/
def cycle (st : Settings) (prog : Array Cmd) : Nat → Nat → Machine → Next × Machine
  | 0, _, m => (.endCycle true, m)
  | fuel + 1, pc, m =>
    match prog[pc]? with
    | none => (.endCycle true, m)
    | some c =>
      match exec st c pc m with
      | (.step, m) => cycle st prog fuel (pc + 1) m
      | (.jumpTo j, m) => cycle st prog fuel j m
      | other => other

/-- Runs the program over the lines left; `fresh` when a line is to be read first. -/
def runAll (st : Settings) (prog : Array Cmd) (steps : Nat) : Nat → Machine → Bool → Machine
  | 0, m, _ => m
  | fuel + 1, m, fresh =>
    let (line, m) := if fresh then nextLine st m else (some { bytes := m.space.bytes }, dumpQueue st m)
    match line with
    | none => m
    | some l =>
      let m := if fresh then { m with space := { bytes := l.bytes, chomped := l.chomped } } else m
      if m.code.isSome then m
      else
        let (how, m) := cycle st prog steps 0 m
        let finish (m : Machine) (write : Bool) : Machine :=
          if write ∧ !st.quiet then emit st m else m
        match how with
        | .endCycle write => runAll st prog steps fuel (finish m write) true
        | .restart => runAll st prog steps fuel m false
        | .stop write =>
          if m.code.isSome ∧ !write then m else dumpQueue st (finish m write)
        | _ => runAll st prog steps fuel (finish m true) true

end Machine

/-- The ranges open before the first line: those of `0,/re/`. -/
def openAtStart (prog : Array Cmd) : List (Nat × Option Nat) :=
  prog.toList.zipIdx.filterMap fun (c, i) =>
    match c.first, c.second with
    | some (.line 0), some _ => some (i, none)
    | _, _ => none

/-- The files `w` writes to, in the order of the script. -/
def writtenFiles (prog : Array Cmd) : List (List UInt8) :=
  prog.toList.foldl (fun acc c =>
    let name? := match c.op with
      | .writeFile n | .writeFirst n => some n
      | .subst s => s.write
      | _ => none
    match name? with
    | some n => if acc.contains n then acc else acc ++ [n]
    | none => acc) []

end Edit

end Timebox
