import Timebox.Program.Tools
import Timebox.Text.Regex

/-! # grep

`grep` writes the lines of its files (or input) that match one of its patterns, in the C
locale:

* patterns are basic expressions, extended ones with `-E`, plain bytes with `-F`; each
  line of a pattern is a pattern of its own; `-e` gives one, else the first operand is the
  pattern;
* `-i` ignores the case of letters, `-v` selects the lines that do not match, `-w` and
  `-x` ask a match to be a whole word or the whole line;
* `-c` counts the lines selected, `-l` and `-L` name the files with and without one, `-o`
  writes each match alone, `-q` writes nothing, `-n` puts the line number first, `-H` and
  `-h` put the file's name first or not (first when there are several files), `-m` stops
  after a number of lines, `-s` keeps quiet about files it cannot read;
* a file with a zero byte is binary: that it matches is told on the standard error.

It exits with 0 when a line was selected, 1 when none was, and 2 on an error (but 0 under
`-q` once a line was selected).
-/

namespace Timebox

namespace Program

/-- The settings of a call of `grep`. -/
structure GrepOptions where
  syn : RegexSyntax := .grepBasic
  fixed : Bool := false
  icase : Bool := false
  invert : Bool := false
  words : Bool := false
  wholeLine : Bool := false
  count : Bool := false
  filesWith : Bool := false
  filesWithout : Bool := false
  only : Bool := false
  quiet : Bool := false
  silent : Bool := false
  numbers : Bool := false
  names : Option Bool := none
  patterns : List String := []
  patternGiven : Bool := false
  maxCount : Option Nat := none
deriving Inhabited

namespace Grep

/-- The usage lines of a wrong call, naming the tool by its short name. -/
def usageLines : String :=
  "Usage: grep [OPTION]... PATTERNS [FILE]...\nTry 'grep --help' for more information."

/-- A wrong call: a message, then the usage lines; exit code 2. -/
def wrongCall (name msg : String) : Effect :=
  { (({} : Effect).complain (name ++ ": " ++ msg)).complain usageLines with code := 2 }

/-- Sets a switch given by its letter; none when the letter is no switch. -/
def setLetter (o : GrepOptions) (c : Char) : Option GrepOptions :=
  if c = 'E' then some { o with syn := .grepExtended, fixed := false }
  else if c = 'F' then some { o with fixed := true }
  else if c = 'G' then some { o with syn := .grepBasic, fixed := false }
  else if c = 'P' then some { o with syn := .grepExtended, fixed := false }
  else if c = 'i' ∨ c = 'y' then some { o with icase := true }
  else if c = 'v' then some { o with invert := true }
  else if c = 'w' then some { o with words := true }
  else if c = 'x' then some { o with wholeLine := true }
  else if c = 'c' then some { o with count := true }
  else if c = 'l' then some { o with filesWith := true, filesWithout := false }
  else if c = 'L' then some { o with filesWithout := true, filesWith := false }
  else if c = 'o' then some { o with only := true }
  else if c = 'q' then some { o with quiet := true }
  else if c = 's' then some { o with silent := true }
  else if c = 'n' then some { o with numbers := true }
  else if c = 'H' then some { o with names := some true }
  else if c = 'h' then some { o with names := some false }
  else if "aIrRUbTZz".contains c || c.isDigit then some o
  else none

/-- The letter of a long option that is a switch. -/
def longLetter? (name : String) : Option Char :=
  [("extended-regexp", 'E'), ("fixed-strings", 'F'), ("basic-regexp", 'G'), ("perl-regexp", 'P'),
   ("ignore-case", 'i'), ("invert-match", 'v'), ("word-regexp", 'w'), ("line-regexp", 'x'),
   ("count", 'c'), ("files-with-matches", 'l'), ("files-without-match", 'L'),
   ("only-matching", 'o'), ("quiet", 'q'), ("silent", 'q'), ("no-messages", 's'),
   ("line-number", 'n'), ("with-filename", 'H'), ("no-filename", 'h'), ("text", 'a'),
   ("recursive", 'r'), ("null-data", 'z')].lookup name

/-- Gives a value to an option that takes one. -/
def setValue (name : String) (o : GrepOptions) (c : Char) (v : String) : Except Effect GrepOptions :=
  if c = 'e' then .ok { o with patterns := o.patterns ++ [v], patternGiven := true }
  else if c = 'm' then
    if v.all Char.isDigit ∧ !v.isEmpty then .ok { o with maxCount := some v.toNat! }
    else .error { (({} : Effect).complain (name ++ ": invalid max count")) with code := 2 }
  else .ok o

/-- Whether an option letter takes a value. -/
def takesValue (c : Char) : Bool := "efmABCdD".contains c

/-- Reads the options of a call, wherever they stand, and its operands. -/
def parseArgs (name : String) : Nat → List String → GrepOptions → List String →
    Except Effect (GrepOptions × List String)
  | 0, rest, o, ops => .ok (o, ops ++ rest)
  | _, [], o, ops => .ok (o, ops)
  | fuel + 1, a :: rest, o, ops =>
    if a = "--" then .ok (o, ops ++ rest)
    else if a.startsWith "--" then
      let body := String.ofList (a.toList.drop 2)
      let (key, value) := match body.splitOn "=" with
        | k :: v :: vs => (k, some ("=".intercalate (v :: vs)))
        | _ => (body, none)
      if key = "color" ∨ key = "colour" then parseArgs name fuel rest o ops
      else if key = "regexp" ∨ key = "max-count" then
        let c := if key = "regexp" then 'e' else 'm'
        match value, rest with
        | some v, _ =>
          match setValue name o c v with
          | .ok o => parseArgs name fuel rest o ops
          | .error e => .error e
        | none, v :: more =>
          match setValue name o c v with
          | .ok o => parseArgs name fuel more o ops
          | .error e => .error e
        | none, [] => .error (wrongCall name ("option '--" ++ key ++ "' requires an argument"))
      else
        match longLetter? key, value with
        | some c, none =>
          match setLetter o c with
          | some o => parseArgs name fuel rest o ops
          | none => .error (wrongCall name ("unrecognized option '" ++ a ++ "'"))
        | some _, some _ => .error (wrongCall name ("option '--" ++ key ++ "' doesn't allow an argument"))
        | none, _ => .error (wrongCall name ("unrecognized option '" ++ a ++ "'"))
    else if a.startsWith "-" ∧ a.length > 1 then
      let rec cluster : List Char → GrepOptions → Except Effect (GrepOptions × List String)
        | [], o => .ok (o, rest)
        | c :: more, o =>
          if takesValue c then
            if !more.isEmpty then
              match setValue name o c (String.ofList more) with
              | .ok o => .ok (o, rest)
              | .error e => .error e
            else
              match rest with
              | v :: rest' =>
                match setValue name o c v with
                | .ok o => .ok (o, rest')
                | .error e => .error e
              | [] => .error (wrongCall name ("option requires an argument -- '" ++ c.toString ++ "'"))
          else
            match setLetter o c with
            | some o => cluster more o
            | none => .error (wrongCall name ("invalid option -- '" ++ c.toString ++ "'"))
      match cluster (a.toList.drop 1) o with
      | .ok (o, rest') => parseArgs name fuel rest' o ops
      | .error e => .error e
    else parseArgs name fuel rest o (ops ++ [a])

/-- Whether a match from `s` to `e` of a line is one the options take: a whole word under
`-w`, the whole line under `-x`. -/
def fits (o : GrepOptions) (t : Array UInt8) (s e : Nat) : Bool :=
  if o.wholeLine then s = 0 ∧ e = t.size
  else if o.words then
    let before := if s = 0 then false else (t[s - 1]?.map Regex.isWordByte).getD false
    let after := (t[e]?.map Regex.isWordByte).getD false
    !before && !after
  else true

/-- The leftmost match of one of the patterns in a line from `from_` on that the options
take, the longest there. -/
def matchIn (o : GrepOptions) (rs : List Regex) (t : Array UInt8) (from_ : Nat) : Option (Nat × Nat) :=
  go (t.size + 1 - from_) from_
where
  go : Nat → Nat → Option (Nat × Nat)
    | 0, _ => none
    | fuel + 1, s =>
      let ends := rs.flatMap fun r => (Regex.ends o.icase t r s []).map (·.1)
      let ends := ends.filter (fits o t s ·)
      match ends.max? with
      | some e => some (s, e)
      | none => go fuel (s + 1)

/-- The matches `-o` writes of a line: each leftmost-longest match that is not empty, the
next one looked for after it. -/
def pieces (o : GrepOptions) (rs : List Regex) (t : Array UInt8) : List (List UInt8) :=
  go (t.size + 1) 0
where
  go : Nat → Nat → List (List UInt8)
    | 0, _ => []
    | fuel + 1, pos =>
      match matchIn o rs t pos with
      | none => []
      | some (s, e) =>
        if e > s then (t.extract s e).toList :: go fuel e else go fuel (s + 1)

/-- The lines of a text, without their newlines; a last line need not end with one. -/
def lines (bs : List UInt8) : List (List UInt8) :=
  (linesOf bs).map fun l => if l.getLast? = some 10 then l.dropLast else l

/-- What one file gives: the output, whether it counts as found (a line was selected, or
under `-L` none was), and whether it is a binary file that matched. -/
def scanFile (o : GrepOptions) (rs : List Regex) (shown : String) (label : Bool) (bs : List UInt8) :
    List UInt8 × Bool × Bool :=
  let lead : List UInt8 := if label then bytesOf (shown ++ ":") else []
  let binary := bs.contains 0
  let limit := o.maxCount.getD (bs.length + 1)
  let (out, count, _) := (lines bs).foldl (fun (acc : List UInt8 × Nat × Nat) l =>
    let (out, count, n) := acc
    let n := n + 1
    if count ≥ limit then (out, count, n)
    else
      let t := l.toArray
      let hit := (matchIn o rs t 0).isSome
      if hit == o.invert then (out, count, n)
      else
        let num : List UInt8 := if o.numbers then bytesOf (toString n ++ ":") else []
        let body :=
          if o.count ∨ o.quiet ∨ o.filesWith ∨ o.filesWithout ∨ binary then []
          else if o.only then
            if o.invert then [] else (pieces o rs t).flatMap fun p => lead ++ num ++ p ++ [10]
          else lead ++ num ++ l ++ [10]
        (out ++ body, count + 1, n)) ([], 0, 0)
  let selected := count > 0
  let out :=
    if o.quiet then []
    else if o.filesWith then (if selected then bytesOf (shown ++ "\n") else [])
    else if o.filesWithout then (if selected then [] else bytesOf (shown ++ "\n"))
    else if o.count then lead ++ bytesOf (toString count ++ "\n")
    else out
  (out, (if o.filesWithout then !selected else selected),
    binary && selected && !o.quiet && !o.count && !o.filesWith && !o.filesWithout)

end Grep

open Grep in
/-- The `grep` of the base system. -/
def grep (inv : Invocation) : Effect :=
  match parseArgs inv.name (inv.args.length + 1) inv.args {} [] with
  | .error e => e
  | .ok (o, ops) =>
    let (o, ops) := if o.patternGiven then (o, ops)
      else match ops with
        | p :: rest => ({ o with patterns := [p] }, rest)
        | [] => (o, [])
    if !o.patternGiven ∧ o.patterns.isEmpty then { (({} : Effect).complain usageLines) with code := 2 }
    else
      let texts := o.patterns.flatMap fun p => p.splitOn "\n"
      let read := texts.map fun p =>
        if o.fixed then .ok ([], none, Regex.literal (bytesOf p)) else Regex.parseNoting o.syn (bytesOf p)
      -- every pattern is read first, and each one refused is reported; then come the
      -- warnings, up to the first fault of the stricter reading
      let refused := read.filterMap fun r => match r with
        | .error msg => some msg
        | .ok _ => none
      let noted := read.filterMap fun r => match r with
        | .ok x => some x
        | .error _ => none
      let warned : Effect × Bool := noted.foldl (fun (acc : Effect × Bool) (ws, late, _) =>
        if acc.2 then acc
        else
          let e := ws.foldl (fun e w => e.complain (inv.name ++ ": warning: " ++ w)) acc.1
          match late with
          | some msg => (e.complain (inv.name ++ ": " ++ msg), true)
          | none => (e, false)) ({}, false)
      if !refused.isEmpty then
        { (refused.foldl (fun e msg => e.complain (inv.name ++ ": " ++ msg)) ({} : Effect)) with code := 2 }
      else if warned.2 then { warned.1 with code := 2 }
      else
        let rs := noted.map (·.2.2)
        let files := if ops.isEmpty then ["-"] else ops
        let label := o.names.getD (files.length > 1)
        let (e, selected, failed) := files.foldl (fun (acc : Effect × Bool × Bool) f =>
          let (e, selected, failed) := acc
          if o.quiet ∧ selected then acc
          else
            let shown := if f = "-" then "(standard input)" else f
            match readOperand inv f with
            | .error err =>
              let e := if o.silent then e else e.complain (inv.name ++ ": " ++ f ++ ": " ++ errnoText err)
              (e, selected, true)
            | .ok bs =>
              let (out, sel, binary) := scanFile o rs shown label bs
              let e := e.put 1 out
              let e := if binary then e.complain (inv.name ++ ": " ++ shown ++ ": binary file matches") else e
              (e, selected || sel, failed)) (warned.1, false, false)
        let code := if o.quiet ∧ selected then 0 else if failed then 2 else if selected then 0 else 1
        { e with code }

end Program

end Timebox
