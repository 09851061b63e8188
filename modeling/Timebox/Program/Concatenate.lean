import Timebox.Program.Options

/-! # Concatenating files: `cat`

`cat [-AbeEnstTuv] [file…]` writes its files (or its standard input, `-`) one after the
other, as one stream:

* `-n` numbers the lines, `-b` only those that are not empty (and wins over `-n`), each
  number right-aligned in six columns and followed by a tab; the count runs on across
  files, and a file that ends inside a line goes on with that line;
* `-s` writes one empty line for each run of them;
* `-E` ends each line with `$`, `-T` writes a tab as `^I`, `-v` writes the other
  unprintable bytes as `^X`, `^?` and `M-…`; `-A` is `-vET`, `-e` is `-vE` and `-t` is
  `-vT`; `-u` does nothing.

A file that cannot be read is reported (`cat: x: No such file or directory`) and the
others are still written; the exit code is then 1.
-/

namespace Timebox

namespace Program

namespace Concatenate

open Options (Spec)

/-- The options of `cat`, in the order the tool lists them. -/
def specs : List Spec :=
  [{ key := "b", letter := some 'b', long := some "number-nonblank" },
   { key := "n", letter := some 'n', long := some "number" },
   { key := "s", letter := some 's', long := some "squeeze-blank" },
   { key := "v", letter := some 'v', long := some "show-nonprinting" },
   { key := "E", letter := some 'E', long := some "show-ends" },
   { key := "T", letter := some 'T', long := some "show-tabs" },
   { key := "A", letter := some 'A', long := some "show-all" },
   { key := "help", long := some "help" },
   { key := "version", long := some "version" },
   { key := "e", letter := some 'e' },
   { key := "t", letter := some 't' },
   { key := "u", letter := some 'u' }]

/-- How the files are written. -/
structure Style where
  number : Bool := false
  nonblank : Bool := false
  squeeze : Bool := false
  visible : Bool := false
  ends : Bool := false
  tabs : Bool := false

/-- The style the settings ask for. -/
def Style.ofSettings (settings : List Options.Setting) : Style :=
  let has (k : String) : Bool := Options.has settings k
  { number := has "n" || has "b", nonblank := has "b", squeeze := has "s",
    visible := has "v" || has "A" || has "e" || has "t",
    ends := has "E" || has "A" || has "e", tabs := has "T" || has "A" || has "t" }

/-- A byte as `-v` and `-T` show it. -/
def showByte (st : Style) (b : UInt8) : List UInt8 :=
  if b = 9 then (if st.tabs then [0x5E, 0x49] else [b])
  else if !st.visible then [b]
  else
    let low := if b ≥ 128 then b - 128 else b
    let body : List UInt8 :=
      if low < 32 then [0x5E, low + 64]
      else if low = 127 then [0x5E, 0x3F]
      else [low]
    if b ≥ 128 then [0x4D, 0x2D] ++ body else body

/-- A line number as `-n` writes it: six columns, then a tab. -/
def numberText (n : Nat) : List UInt8 :=
  let s := toString n
  Raw.toBytes (String.ofList (List.replicate (6 - s.length) ' ') ++ s ++ "\t")

/-- Where the stream stands: the number of the last line numbered, whether a line is open
(its start written), and whether the last line written was empty. -/
structure Position where
  count : Nat := 0
  open_ : Bool := false
  blank : Bool := false

/-- The lines of bytes: each with whether a newline ends it. -/
def pieces (bs : List UInt8) : List (List UInt8 × Bool) :=
  go bs.length bs []
where
  go : Nat → List UInt8 → List UInt8 → List (List UInt8 × Bool)
    | 0, _, cur => if cur.isEmpty then [] else [(cur.reverse, false)]
    | _, [], cur => if cur.isEmpty then [] else [(cur.reverse, false)]
    | fuel + 1, b :: rest, cur =>
      if b = 10 then (cur.reverse, true) :: go fuel rest [] else go fuel rest (b :: cur)

/-- Writes one line (or the end of a line a file left open), from a position. -/
def writeLine (st : Style) (pos : Position) (line : List UInt8) (newline : Bool) :
    List UInt8 × Position :=
  let body := line.flatMap (showByte st)
  let tail : List UInt8 := if newline then (if st.ends then [0x24, 10] else [10]) else []
  if pos.open_ then (body ++ tail, { pos with open_ := !newline, blank := false })
  else
    let empty := line.isEmpty ∧ newline
    if empty ∧ st.squeeze ∧ pos.blank then ([], pos)
    else
      let numbered := st.number ∧ !(st.nonblank ∧ empty)
      let count := if numbered then pos.count + 1 else pos.count
      let front := if numbered then numberText count else []
      (front ++ body ++ tail, { count, open_ := !newline, blank := empty })

/-- Writes the bytes of one file from a position. -/
def writeFile (st : Style) (pos : Position) (bs : List UInt8) : List UInt8 × Position :=
  (pieces bs).foldl (fun (acc : List UInt8 × Position) (line, nl) =>
    let (out, pos) := writeLine st acc.2 line nl
    (acc.1 ++ out, pos)) ([], pos)

end Concatenate

open Concatenate in
/-- `cat`. -/
def cat (inv : Invocation) : Effect :=
  match Options.scan inv.name 1 specs inv.args with
  | .error e => e
  | .ok (settings, ops) =>
    let st := Style.ofSettings settings
    let plain := !st.number && !st.squeeze && !st.visible && !st.ends && !st.tabs
    let ops := if ops.isEmpty then ["-"] else ops
    -- the standard input is read once: a second `-` finds it at its end
    let isInput (op : String) : Bool := op = "-" ∨ (inv.cwd.resolve op).stream? = some 0
    (ops.foldl (fun (acc : Effect × Position × Bool) op =>
      let (e, pos, used) := acc
      let read := if isInput op ∧ used then .ok [] else readOperand inv op
      let used := used || isInput op
      match read with
      | .error err =>
        ({ e.complain (inv.name ++ ": " ++ Text.Quoting.shell op ++ ": " ++ errnoText err) with code := 1 }, pos, used)
      | .ok bs =>
        if plain then (e.put 1 bs, pos, used)
        else
          let (out, pos) := writeFile st pos bs
          (e.put 1 out, pos, used)) ({}, {}, false)).1

end Program

end Timebox
