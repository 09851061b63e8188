import Timebox.Program.Options

/-! # Counting lines, words and bytes: `wc`

`wc` writes, for each file, its counts of lines (`-l`), words (`-w`), characters (`-m`),
bytes (`-c`) and the length of its longest line (`-L`), in that order, then a line of
totals when there are several files. Without any of these it writes lines, words and
bytes.

The counts are read byte by byte, as in the C locale, where a character is a byte:

* a newline ends a line; a newline, carriage return or form feed ends a stretch of the
  line's length, a tab moves it to the next multiple of eight;
* a space, tab, newline, vertical tab, carriage return or form feed ends a word, another
  printable byte is part of one, and an unprintable byte is neither: it does not begin a
  word and does not end one.

The numbers stand in columns as wide as the total size of the files needs (at least seven
when one of them is not a plain file, such as a pipe or a directory), or one column wide
when there is one file and one count. `--total` says when the totals are written (`auto`,
`always`, `only` without the counts of each file, `never`), and `--files0-from=F` reads the
names from `F`, each ended by a zero byte.
-/

namespace Timebox

namespace Program

namespace Count

open Options (Spec)

/-- The options of `wc`, in the order the tool lists its long names. -/
def specs : List Spec :=
  [{ key := "c", letter := some 'c', long := some "bytes" },
   { key := "m", letter := some 'm', long := some "chars" },
   { key := "l", letter := some 'l', long := some "lines" },
   { key := "w", letter := some 'w', long := some "words" },
   { key := "debug", long := some "debug" },
   { key := "from", long := some "files0-from", value := true },
   { key := "L", letter := some 'L', long := some "max-line-length" },
   { key := "total", long := some "total", value := true },
   { key := "help", long := some "help" },
   { key := "version", long := some "version" }]

/-- The counts of some bytes. -/
structure Tally where
  lines : Nat := 0
  words : Nat := 0
  bytes : Nat := 0
  longest : Nat := 0

/-- The state of a count as it reads: the tally, whether a word is open, and the length of
the line so far. -/
structure Reader where
  tally : Tally := {}
  inWord : Bool := false
  column : Nat := 0

/-- Ends the open word, if there is one. -/
def Reader.endWord (r : Reader) : Reader :=
  { r with tally := { r.tally with words := r.tally.words + (if r.inWord then 1 else 0) }, inWord := false }

/-- Ends a stretch of the line's length. -/
def Reader.endStretch (r : Reader) : Reader :=
  { r with tally := { r.tally with longest := max r.tally.longest r.column }, column := 0 }

/-- Reads one byte. -/
def Reader.step (r : Reader) (b : UInt8) : Reader :=
  let r := { r with tally := { r.tally with bytes := r.tally.bytes + 1 } }
  if b = 10 then
    ({ r with tally := { r.tally with lines := r.tally.lines + 1 } }).endStretch.endWord
  else if b = 13 ∨ b = 12 then r.endStretch.endWord
  else if b = 9 then { r with column := r.column + 8 - r.column % 8 }.endWord
  else if b = 32 then { r with column := r.column + 1 }.endWord
  else if b = 11 then r.endWord
  else if 32 < b ∧ b < 127 then { r with column := r.column + 1, inWord := true }
  else r

/-- The counts of bytes. -/
def tally (bs : List UInt8) : Tally :=
  ((bs.foldl Reader.step {}).endStretch.endWord).tally

/-- The sum of two tallies; the longest line is the longer one. -/
def Tally.add (a b : Tally) : Tally :=
  { lines := a.lines + b.lines, words := a.words + b.words, bytes := a.bytes + b.bytes,
    longest := max a.longest b.longest }

/-- Which counts are written. -/
structure Shown where
  lines : Bool
  words : Bool
  chars : Bool
  bytes : Bool
  longest : Bool

/-- The number of counts written. -/
def Shown.size (s : Shown) : Nat := [s.lines, s.words, s.chars, s.bytes, s.longest].count true

/-- The line of a tally: its columns, then the name if there is one. -/
def Shown.line (s : Shown) (width : Nat) (t : Tally) (label : Option String) : String :=
  let cols := (if s.lines then [t.lines] else []) ++ (if s.words then [t.words] else []) ++
    (if s.chars then [t.bytes] else []) ++ (if s.bytes then [t.bytes] else []) ++
    (if s.longest then [t.longest] else [])
  " ".intercalate (cols.map (alignRight width)) ++ (match label with
    | some l => " " ++ l
    | none => "") ++ "\n"

/-- When the totals are written. -/
inductive Totals where
  | auto | always | only | never
deriving DecidableEq

/-- The choice `--total` names: the one its value names in full, else the one it begins. -/
def totalsOf (name value : String) : Except Effect Totals :=
  let all : List (String × Totals) := [("auto", .auto), ("always", .always), ("only", .only), ("never", .never)]
  let found := match all.find? (·.1 = value) with
    | some x => [x]
    | none => all.filter fun (n, _) => n.startsWith value
  let valid := ["Valid arguments are:", "  - 'auto'", "  - 'always'", "  - 'only'", "  - 'never'"]
  let refuse (what : String) : Except Effect Totals :=
    .error { (valid.foldl Effect.complain (({} : Effect).complain (name ++ ": " ++ what ++ " argument " ++
      Printf.quoteArg value ++ " for '--total'"))).complain (tryHelp name) with code := 1 }
  match found with
  | [(_, t)] => .ok t
  | [] => refuse "invalid"
  | _ => refuse "ambiguous"

/-- What is known of a name before it is read: missing, a plain file of a size, or
something else that can be read (a pipe, a device, a directory). -/
inductive Kind where
  | missing
  | plain (size : Nat)
  | other

/-- The kind of an operand. -/
def kindOf (inv : Invocation) (op : String) : Kind :=
  if op = "-" ∨ (inv.cwd.resolve op).stream? = some 0 then
    if inv.stdinFile then .plain inv.stdin.length else .other
  else
    let device := match inv.cwd.resolve op with
      | .system p => p.startsWith "/dev/"
      | .tree _ => false
    match inv.disk.read (inv.cwd.resolve op) with
    | .ok bs => if device then .other else .plain bs.length
    | .error .isDirectory => .other
    | .error _ => .missing

/-- The width of the columns: enough for the total size of the plain files, at least seven
when another kind is among them. -/
def widthOf (kinds : List Kind) : Nat :=
  let plain := kinds.foldl (fun t k => match k with
    | .plain n => t + n
    | _ => t) 0
  let minimum := if kinds.any (fun k => match k with
    | .other => true
    | _ => false) then 7 else 1
  max minimum (toString plain).length

/-- A name to count, or the complaint about an entry of the list of names. -/
inductive Entry where
  | name (n : String)
  | bad (msg : String)

/-- The entries of a list of names, each ended by a zero byte: an empty name is refused
with its place, and `-` too when the list is the standard input. -/
def entriesOf (tool list : String) (bs : List UInt8) : List Entry :=
  let parts := Raw.ofBytes bs |>.splitOn (String.singleton (Char.ofNat 0))
  let parts := if parts.getLast? = some "" then parts.dropLast else parts
  (parts.zip (List.range parts.length)).map fun (p, i) =>
    if p = "" then .bad (tool ++ ": " ++ Text.Quoting.shell list ++ ":" ++ toString (i + 1) ++
      ": invalid zero-length file name")
    else if p = "-" ∧ list = "-" then
      .bad (tool ++ ": when reading file names from stdin, no file name of '-' allowed")
    else .name p

end Count

open Timebox.Program.Count in
/-- `wc`. -/
def wc (inv : Invocation) : Effect :=
  match Options.scan inv.name 1 specs inv.args with
  | .error e => e
  | .ok (settings, ops) =>
    let has (k : String) : Bool := Options.has settings k
    let any := has "l" || has "w" || has "m" || has "c" || has "L"
    let shown : Shown :=
      if any then { lines := has "l", words := has "w", chars := has "m", bytes := has "c", longest := has "L" }
      else { lines := true, words := true, chars := false, bytes := true, longest := false }
    let totals := match Options.last? settings "total" with
      | some v => totalsOf inv.name v
      | none => .ok .auto
    match totals with
    | .error e => e
    | .ok totals =>
      let listed : Except Effect (List Entry × Bool) :=
        match Options.last? settings "from" with
        | none => .ok ((if ops.isEmpty then ["-"] else ops).map .name, !ops.isEmpty)
        | some list =>
          if !ops.isEmpty then
            .error { ((({} : Effect).complain (inv.name ++ ": extra operand " ++ Printf.quoteArg (ops.headD "")))
              |>.complain "file operands cannot be combined with --files0-from"
              |>.complain (tryHelp inv.name)) with code := 1 }
          else
            match readOperand inv list with
            | .error err =>
              .error { ({} : Effect).complain (inv.name ++ ": cannot open " ++ Text.Quoting.shellAlways list ++
                " for reading: " ++ errnoText err) with code := 1 }
            | .ok bs => .ok (entriesOf inv.name list bs, true)
      match listed with
      | .error e => e
      | .ok (entries, labelled) =>
        let fromList := (Options.last? settings "from").isSome
        let listKnown := match Options.last? settings "from" with
          | some list => !(list = "-" ∨ (inv.cwd.resolve list).stream? = some 0) || inv.stdinFile
          | none => true
        let names := entries.filterMap fun e => match e with
          | .name n => some n
          | .bad _ => none
        let width :=
          if totals = .only then 1
          else if (entries.length = 1 ∧ shown.size = 1) ∨ (fromList ∧ !listKnown) then 1
          else widthOf (names.map (kindOf inv))
        let label (n : String) : Option String := if labelled then some n else none
        let (e, total, _) := entries.foldl (fun (acc : Effect × Tally × Bool) entry =>
          let (e, total, used) := acc
          match entry with
          | .bad msg => ({ e.complain msg with code := 1 }, total, used)
          | .name n =>
            let isInput := n = "-" ∨ (inv.cwd.resolve n).stream? = some 0
            -- the standard input is read once: a second `-` finds it at its end
            let read := if isInput ∧ used then .ok [] else readOperand inv n
            let used := used || isInput
            match read with
            | .error .isDirectory =>
              let e := e.complain (inv.name ++ ": " ++ Text.Quoting.shell n ++ ": Is a directory")
              let e := if totals = .only then e else e.say (shown.line width {} (label n))
              ({ e with code := 1 }, total, used)
            | .error err =>
              ({ e.complain (inv.name ++ ": " ++ Text.Quoting.shell n ++ ": " ++ errnoText err) with code := 1 },
                total, used)
            | .ok bs =>
              let t := tally bs
              let e := if totals = .only then e else e.say (shown.line width t (label n))
              (e, total.add t, used)) ({}, {}, false)
        let count := entries.length
        if totals = .always ∨ (totals = .auto ∧ count > 1) then e.say (shown.line width total (some "total"))
        else if totals = .only then e.say (shown.line width total none)
        else e

end Program

end Timebox
