import Timebox.Text.Raw
import Timebox.Text.Regex

/-! # Scripts of the stream editor

A script of `sed` is a list of commands, each with up to two addresses and maybe `!`:

* an address is a line number `N`, every `step`-th line from `first` (`first~step`), the
  last line `$`, or the lines a pattern matches (`/re/` or `\%re%`, with `I` ignoring case
  and `M` reading the space as lines); a second address may also be `+N` (that many lines
  more) or `~N` (up to a line whose number is a multiple of `N`);
* the commands are the blocks `{` `}`, `s` and `y`, the texts `a` `i` `c`, the jumps `b`
  `t` `T` to `:` labels, `q` and `Q` with an exit code, `l` with a width, the files `r` `R`
  `w` `W`, and `=` `d` `D` `e` `F` `g` `G` `h` `H` `n` `N` `p` `P` `x` `z`.

The script is read byte by byte the way the tool reads it, each piece (`-e` or a file) on
its own, and a script that is not one is refused with the tool's message and the number of
bytes of the piece read when the fault was found (`-e expression #1, char 3: unterminated
address regex`), or the line of a script file. The reading gives a flat program: a block
is a jump past its end when its addresses do not select, and a label is a place to jump to.
-/

namespace Timebox

namespace Edit

open Regex (ch)

/-- An address of a command. -/
inductive Addr where
  /-- A line number. -/
  | line (n : Nat)
  /-- The lines `first`, `first + step`, …: `first~step`. -/
  | every (first step : Nat)
  /-- The last line: `$`. -/
  | last
  /-- The lines a pattern matches, maybe ignoring case; none for the pattern used last. -/
  | matching (rx : Option Regex) (icase : Bool)
  /-- As a second address: that many lines after the first, `+N`. -/
  | more (n : Nat)
  /-- As a second address: up to a line whose number is a multiple, `~N`. -/
  | upTo (n : Nat)
deriving Inhabited

/-- The case replaced text is put in: as it is, `\U` or `\L`. -/
inductive Case where
  | asIs | upper | lower
deriving DecidableEq, Inhabited

/-- How a piece of a replacement is written: its case, and whether `\u` or `\l` changes
its first byte (`\u` wins when both do). -/
structure Style where
  case : Case := .asIs
  upperFirst : Bool := false
  lowerFirst : Bool := false
deriving DecidableEq, Inhabited

/-- Whether a style changes the first byte. -/
def Style.modified (s : Style) : Bool := s.upperFirst || s.lowerFirst

/-- A style without its change of the first byte. -/
def Style.plain (s : Style) : Style := { s with upperFirst := false, lowerFirst := false }

/-- A piece of a replacement: literal bytes, then a group of the match (`0` for all of
it) if any, both written in a style. -/
structure Piece where
  text : List UInt8
  ref : Option Nat := none
  style : Style := {}
deriving Inhabited

/-- A substitution `s/re/replacement/flags`. -/
structure Subst where
  /-- The pattern; none for the one used last. -/
  rx : Option Regex
  icase : Bool := false
  pieces : List Piece
  global : Bool := false
  /-- The match to replace first: `1` unless a number was given. -/
  nth : Nat := 1
  print : Bool := false
  /-- The file the space is written to after a replacement (`w`). -/
  write : Option (List UInt8) := none
deriving Inhabited

/-- Where the text of `a`, `i` and `c` goes. -/
inductive TextKind where
  | append | insert | change
deriving DecidableEq, Inhabited

/-- When a jump is taken: always (`b`), after a replacement (`t`) or after none (`T`). -/
inductive Branch where
  | always | replaced | unreplaced
deriving DecidableEq, Inhabited

/-- What a command does. -/
inductive Op where
  /-- The start of a block: a jump to the command after its end. -/
  | block (after : Nat)
  | blockEnd
  | subst (s : Subst)
  /-- `y`: each byte of the first list becomes the byte paired with it. -/
  | translit (pairs : List (UInt8 × UInt8))
  | text (kind : TextKind) (bytes : List UInt8)
  /-- A jump to a label (none: the end of the script), tied to its place once read. -/
  | branch (kind : Branch) (label : List UInt8) (target : Option Nat)
  | label (name : List UInt8)
  | quit (print : Bool) (code : Nat)
  /-- `l`: the space written unambiguously, lines wrapped at a width (none: the
  default). -/
  | list (width : Option Nat)
  | readFile (name : List UInt8)
  | readLine (name : List UInt8)
  | writeFile (name : List UInt8)
  | writeFirst (name : List UInt8)
  | execute (command : List UInt8)
  | print | printFirst | delete | deleteFirst | next | appendNext | lineNumber | fileName
  | hold | holdAppend | get | getAppend | exchange | zap
  /-- A command that is read but refused when it runs. -/
  | broken (c : UInt8)
deriving Inhabited

/-- A command of the program: its addresses, whether they are negated, what it does. -/
structure Cmd where
  first : Option Addr := none
  second : Option Addr := none
  negate : Bool := false
  op : Op
deriving Inhabited

/-- Where a piece of script comes from: the `n`-th expression, or a file. -/
inductive Source where
  | expression (n : Nat)
  | file (name : String)
deriving Inhabited

/-- A script that is not one: the message, and where it was found: the piece, the bytes of
it read, and the line. -/
structure Fault where
  msg : String
  source : Source
  pos : Nat
  line : Nat

/-- The message of a fault, with its place. -/
def Fault.text (f : Fault) : String :=
  match f.source with
  | .expression n => "-e expression #" ++ toString n ++ ", char " ++ toString f.pos ++ ": " ++ f.msg
  | .file name => "file " ++ name ++ " line " ++ toString f.line ++ ": " ++ f.msg

/-! ### Reading bytes -/

/-- A reading of a piece of script: the bytes left, how many were read, and the line. -/
structure Cursor where
  rest : List UInt8
  pos : Nat := 0
  line : Nat := 1

/-- The next byte and the cursor after it. -/
def Cursor.next? (c : Cursor) : Option (UInt8 × Cursor) :=
  match c.rest with
  | [] => none
  | b :: rest => some (b, { rest, pos := c.pos + 1, line := if b = 10 then c.line + 1 else c.line })

/-- The next byte, not read. -/
def Cursor.peek (c : Cursor) : Option UInt8 := c.rest.head?

/-- The cursor after one byte. -/
def Cursor.step (c : Cursor) : Cursor :=
  match c.next? with
  | some (_, c') => c'
  | none => c

/-- The cursor after the blanks at the front. -/
def Cursor.skipBlanks (c : Cursor) : Cursor :=
  let n := (c.rest.takeWhile fun b => b = 32 ∨ b = 9).length
  { c with rest := c.rest.drop n, pos := c.pos + n }

/-- Whether a byte is white space: a blank, a newline, a vertical tab, a form feed or a
carriage return. -/
def isSpace (b : UInt8) : Bool := b = 32 ∨ (9 ≤ b ∧ b ≤ 13)

/-- Whether a byte is a digit. -/
def isDigit (b : UInt8) : Bool := 48 ≤ b ∧ b ≤ 57

/-- Reads the digits at the front: their value, none read giving `0`. -/
def Cursor.number (c : Cursor) : Nat × Cursor :=
  let ds := c.rest.takeWhile isDigit
  (ds.foldl (fun n d => n * 10 + (d.toNat - 48)) 0, { c with rest := c.rest.drop ds.length, pos := c.pos + ds.length })

/-- Where the reading of a pattern is, for its bracket expressions: outside them, right
after `[` or `[^`, inside one, or inside a class name `[:…:]` (or `[.….]`, `[=…=]`). -/
inductive Spot where
  | outside | opened | negated | inside
  | named (close : UInt8)
deriving DecidableEq

/-- Reads a part of a command up to its delimiter, as a pattern (`regex`) or as a
replacement or a list of `y`: the bytes and the cursor after the delimiter, or the place
where the line or the script ended first. An escaped delimiter is the plain byte (an
escaped `&` stays escaped in a replacement), `\n` in a pattern is a newline, and an escaped
newline is a newline; other escapes are kept. In a pattern the delimiter does not end a
bracket expression, where a backslash is a plain byte. -/
def matchSlash (delim : UInt8) (regex : Bool) (c : Cursor) : Except Cursor (List UInt8 × Cursor) :=
  go (c.rest.length + 1) .outside c []
where
  go : Nat → Spot → Cursor → List UInt8 → Except Cursor (List UInt8 × Cursor)
    | 0, _, c, _ => .error c
    | fuel + 1, spot, c, acc =>
      match c.next? with
      | none => .error c
      | some (b, c1) =>
        if b = 10 then .error c
        else
          match spot with
          | .outside =>
            if b = delim then .ok (acc.reverse, c1)
            else if b = 92 then
              match c1.next? with
              | none => .error c1
              | some (d, c2) =>
                if (d = ch 'n' ∧ regex) ∨ d = 10 then go fuel .outside c2 (10 :: acc)
                else if d = delim then
                  if !regex ∧ d = ch '&' then go fuel .outside c2 (d :: 92 :: acc)
                  else go fuel .outside c2 (d :: acc)
                else go fuel .outside c2 (d :: 92 :: acc)
            else if b = ch '[' ∧ regex then go fuel .opened c1 (b :: acc)
            else go fuel .outside c1 (b :: acc)
          | .named k =>
            if b = k ∧ c1.peek = some (ch ']') then go fuel .inside c1.step (ch ']' :: b :: acc)
            else go fuel (.named k) c1 (b :: acc)
          | _ =>
            if b = 92 then
              if c1.peek = some (ch 'n') then go fuel .inside c1.step (10 :: acc)
              else go fuel .inside c1 (92 :: acc)
            else if b = ch '^' ∧ spot = .opened then go fuel .negated c1 (b :: acc)
            else if b = ch ']' ∧ spot = .inside then go fuel .outside c1 (b :: acc)
            else if b = ch '[' ∧ (c1.peek = some (ch ':') ∨ c1.peek = some (ch '.') ∨ c1.peek = some (ch '=')) then
              let k := c1.peek.getD 0
              go fuel (.named k) c1.step (k :: b :: acc)
            else go fuel .inside c1 (b :: acc)

/-! ### Escapes -/

/-- What a part of a script is, for its escapes: a pattern, a replacement, the text of
`a` `i` `c`, or a list of `y`. -/
inductive PartKind where
  | pattern | replacement | text | plain
deriving DecidableEq

/-- The value of a digit in a base. -/
def digitIn (base : Nat) (b : UInt8) : Option Nat :=
  let v :=
    if 48 ≤ b ∧ b ≤ 57 then some (b.toNat - 48)
    else if 97 ≤ b ∧ b ≤ 102 then some (b.toNat - 87)
    else if 65 ≤ b ∧ b ≤ 70 then some (b.toNat - 55)
    else none
  v.filter (· < base)

/-- Reads at most `count` digits of a base: how many, their value, and the bytes after. -/
def readDigits (base count : Nat) (bs : List UInt8) : Nat × Nat × List UInt8 :=
  go count 0 0 bs
where
  go : Nat → Nat → Nat → List UInt8 → Nat × Nat × List UInt8
    | 0, k, v, bs => (k, v, bs)
    | _, k, v, [] => (k, v, [])
    | n + 1, k, v, b :: rest =>
      match digitIn base b with
      | some d => go n (k + 1) (v * base + d) rest
      | none => (k, v, b :: rest)

/-- The escapes that stand for bytes, turned into them: `\a` `\f` `\n` `\r` `\t` `\v`,
`\cX` (a control byte), `\dNNN` `\oNNN` `\xHH` (a byte by its number; without digits, the
letter itself). A byte made by its number that is `&` or a backslash stays escaped in a
replacement; in a text the other escapes lose their backslash, elsewhere they are kept. -/
def unescape (kind : PartKind) (bs : List UInt8) : Except String (List UInt8) :=
  go (bs.length + 1) bs []
where
  go : Nat → List UInt8 → List UInt8 → Except String (List UInt8)
    | 0, _, acc => .ok acc.reverse
    | _, [], acc => .ok acc.reverse
    | fuel + 1, 92 :: c :: rest, acc =>
      let named : Option UInt8 :=
        if c = ch 'a' then some 7 else if c = ch 'f' then some 12 else if c = ch 'n' then some 10
        else if c = ch 'r' then some 13 else if c = ch 't' then some 9 else if c = ch 'v' then some 11
        else none
      match named with
      | some v => go fuel rest (v :: acc)
      | none =>
        if c = ch 'c' then
          match rest with
          | [] => go fuel [] (92 :: acc)
          | 92 :: 92 :: more => go fuel more (0x1C :: acc)
          | 92 :: _ => .error "recursive escaping after \\c not allowed"
          | x :: more => go fuel more ((Regex.upper x ^^^ 0x40) :: acc)
        else if c = ch 'd' ∨ c = ch 'o' ∨ c = ch 'x' then
          let (base, count) := if c = ch 'd' then (10, 3) else if c = ch 'o' then (8, 3) else (16, 2)
          let (k, v, after) := readDigits base count rest
          if k = 0 then go fuel rest (c :: acc)
          else
            let v := (v % 256).toUInt8
            if kind = .replacement ∧ (v = ch '&' ∨ v = 92) then go fuel after (v :: 92 :: acc)
            else go fuel after (v :: acc)
        else if kind = .text then go fuel rest (c :: acc)
        else go fuel rest (c :: 92 :: acc)
    | fuel + 1, b :: rest, acc => go fuel rest (b :: acc)

/-- The bytes of a list of `y`: a backslash makes the byte after it plain. -/
def plainBytes : List UInt8 → List UInt8
  | [] => []
  | 92 :: b :: rest => b :: plainBytes rest
  | b :: rest => b :: plainBytes rest

/-- The pieces of a replacement, its escapes already turned into bytes: `&` is the match,
`\1`…`\9` its groups, `\U` `\L` `\E` set the case of what follows, `\u` `\l` that of the
next byte written, and a backslash makes any other byte plain. -/
def replacementPieces (bs : List UInt8) : List Piece :=
  go (bs.length + 1) bs [] {} []
where
  /-- The pieces from here, with the literal bytes since the last piece and the style. -/
  go : Nat → List UInt8 → List UInt8 → Style → List Piece → List Piece
    | 0, _, acc, st, out => close acc st out
    | _, [], acc, st, out => close acc st out
    | fuel + 1, 92 :: rest, acc, st, out =>
      let piece : Piece := { text := acc.reverse, style := st }
      let st := st.plain
      match rest with
      | [] => out.reverse ++ [{ piece with text := piece.text ++ [92] }]
      | d :: more =>
        if isDigit d then go fuel more [] st ({ piece with ref := some (d.toNat - 48) } :: out)
        else if d = ch 'L' then go fuel more [] { case := .lower } (piece :: out)
        else if d = ch 'U' then go fuel more [] { case := .upper } (piece :: out)
        else if d = ch 'E' then go fuel more [] {} (piece :: out)
        else if d = ch 'l' then go fuel more [] { st with lowerFirst := true } (piece :: out)
        else if d = ch 'u' then go fuel more [] { st with upperFirst := true } (piece :: out)
        else go fuel more [] st ({ piece with text := piece.text ++ [d] } :: out)
    | fuel + 1, 38 :: rest, acc, st, out =>
      go fuel rest [] st.plain ({ text := acc.reverse, ref := some 0, style := st } :: out)
    | fuel + 1, b :: rest, acc, st, out => go fuel rest (b :: acc) st out
  /-- The pieces with the literal bytes left at the end. -/
  close (acc : List UInt8) (st : Style) (out : List Piece) : List Piece :=
    if acc.isEmpty then out.reverse else out.reverse ++ [{ text := acc.reverse, style := st }]

/-! ### Reading commands -/

/-- How the script is read: its source, the syntax of its patterns, whether the
extensions are off (`--posix`) and whether files and commands are refused (`--sandbox`),
and whether this piece is the first one, where `#n` at its start means `-n`. -/
structure Context where
  source : Source
  syn : RegexSyntax
  posix : Bool := false
  sandbox : Bool := false
  first : Bool := false

/-- A fault found at a place of the piece. -/
def Context.fail {α : Type} (cx : Context) (c : Cursor) (msg : String) : Except Fault α :=
  .error { msg, source := cx.source, pos := c.pos, line := c.line }

/-- The reading of the whole script so far: the program, the blocks open (the place of
each `{` in the program, its piece and line), a text command whose text goes on in the
next piece (`a\` at the end of one), and whether `#n` asked for `-n`. -/
structure Reading where
  cmds : Array Cmd := #[]
  blocks : List (Nat × Source × Nat) := []
  pending : Option Nat := none
  quiet : Bool := false

/-- Compiles a pattern, with its flags, at a place of the piece; the empty pattern stands
for the one used last. -/
def compilePattern (cx : Context) (c : Cursor) (bs : List UInt8) (multiline : Bool) :
    Except Fault (Option Regex) :=
  if bs.isEmpty then .ok none
  else
    match unescape .pattern bs with
    | .error msg => cx.fail c msg
    | .ok bytes =>
      match Regex.parse { cx.syn with multiline } bytes with
      | .ok r => .ok (some r)
      | .error msg => cx.fail c msg

/-- Reads an address whose first byte `b` was read: the address, or none when `b` begins
none. -/
def readAddr (cx : Context) (b : UInt8) (c : Cursor) : Except Fault (Option (Addr × Cursor)) :=
  if b = ch '/' ∨ b = 92 then
    let delim? := if b = 92 then c.next? else some (b, c)
    match delim? with
    | none => cx.fail c "unterminated address regex"
    | some (delim, c) =>
      match matchSlash delim true c with
      | .error c => cx.fail c "unterminated address regex"
      | .ok (bs, c) =>
        -- the flags `I` and `M`, blanks between them
        let (icase, multiline, c) := flags (c.rest.length + 1) c false false
        match compilePattern cx c bs multiline with
        | .error e => .error e
        | .ok rx => .ok (some (.matching rx icase, c))
  else if isDigit b then
    let (n, c) := { c with rest := b :: c.rest, pos := c.pos - 1 : Cursor }.number
    let c' := c.skipBlanks
    match c'.next? with
    | some (126, c2) =>
      let (step, c3) := c2.skipBlanks.number
      if step > 0 then .ok (some (.every n step, c3)) else .ok (some (.line n, c3))
    | _ => .ok (some (.line n, c))
  else if (b = ch '+' ∨ b = ch '~') ∧ !cx.posix then
    let (n, c) := c.skipBlanks.number
    .ok (some (if b = ch '+' then .more n else .upTo n, c))
  else if b = ch '$' then .ok (some (.last, c))
  else .ok none
where
  flags : Nat → Cursor → Bool → Bool → Bool × Bool × Cursor
    | 0, c, i, m => (i, m, c)
    | fuel + 1, c, i, m =>
      let c' := c.skipBlanks
      match c'.next? with
      | some (73, c2) => if cx.posix then (i, m, c') else flags fuel c2 true m
      | some (77, c2) => if cx.posix then (i, m, c') else flags fuel c2 i true
      | _ => (i, m, c')

/-- Ends a command: blanks, then the end of the piece, a newline or `;`, or a `}` or `#`
left to read. -/
def endCommand (cx : Context) (c : Cursor) : Except Fault Cursor :=
  let c := c.skipBlanks
  match c.next? with
  | none => .ok c
  | some (b, c') =>
    if b = ch '}' ∨ b = ch '#' then .ok c
    else if b = 10 ∨ b = ch ';' then .ok c'
    else cx.fail c' "extra characters after command"

/-- Reads a label: after blanks, the bytes up to white space, `;`, `}`, `#` or the end. -/
def readLabel (c : Cursor) : List UInt8 × Cursor :=
  let c := c.skipBlanks
  let name := c.rest.takeWhile fun b => !(isSpace b ∨ b = ch ';' ∨ b = ch '}' ∨ b = ch '#')
  (name, { c with rest := c.rest.drop name.length, pos := c.pos + name.length })

/-- Reads a file name: after blanks, the rest of the line. -/
def readFilename (cx : Context) (c : Cursor) : Except Fault (List UInt8 × Cursor) :=
  if cx.sandbox then cx.fail c "e/r/w commands disabled in sandbox mode"
  else
    let c := c.skipBlanks
    let name := c.rest.takeWhile (· ≠ 10)
    let c : Cursor := { c with rest := c.rest.drop name.length, pos := c.pos + name.length }
    -- the newline that ends the name is read with it
    .ok (name, if c.peek = some 10 then c.step else c)

/-- Reads the lines of a text from a cursor, the first byte `lead` (unless it is a
newline): up to a newline that is not escaped, or the end of the piece. The text ends
with a newline; its escapes are turned into bytes. Also whether a backslash ended the
piece, when the text goes on in the next one. -/
def readText (cx : Context) (lead : Option UInt8) (c : Cursor) : Except Fault (List UInt8 × Bool × Cursor) :=
  let start : List UInt8 := match lead with
    | some b => if b = 10 then [] else [b]
    | none => []
  let (raw, more, c) := go (c.rest.length + 1) c start.reverse
  match unescape .text raw with
  | .ok t => .ok (t, more, c)
  | .error msg => cx.fail c msg
where
  go : Nat → Cursor → List UInt8 → List UInt8 × Bool × Cursor
    | 0, c, acc => ((10 :: acc).reverse, false, c)
    | fuel + 1, c, acc =>
      match c.next? with
      | none => ((10 :: acc).reverse, false, c)
      | some (10, c') => ((10 :: acc).reverse, false, c')
      | some (92, c') =>
        match c'.next? with
        | none => ((10 :: acc).reverse, true, c')
        | some (b, c'') => go fuel c'' (b :: 92 :: acc)
      | some (b, c') => go fuel c' (b :: acc)

/-- The numbers of a version, `4.9` being `[4, 9]`. -/
def versionParts (bs : List UInt8) : List Nat :=
  ((Raw.ofBytes bs).splitOn ".").map fun p => p.toNat?.getD 0

/-- Whether `v` asks for a version newer than this one, `4.9`. -/
def newer (bs : List UInt8) : Bool :=
  let rec later : List Nat → List Nat → Bool
    | [], _ => false
    | _ :: _, [] => true
    | a :: as, b :: bs => if a ≠ b then a > b else later as bs
  !bs.isEmpty && later (versionParts bs) [4, 9]

/-- The name of a command in quotes. -/
def quoted (b : UInt8) : String := "\x60" ++ Raw.ofBytes [b] ++ "'"

/-- Reads the flags of `s` after its replacement: `g`, `p`, a number, `I`, `M`, `e` and
`w FILE`, blanks between them, up to the end of the command. -/
def readFlags (cx : Context) (s : Subst) (c : Cursor) : Except Fault (Subst × Bool × Cursor) :=
  go (c.rest.length + 1) s false false c
where
  go : Nat → Subst → Bool → Bool → Cursor → Except Fault (Subst × Bool × Cursor)
    | 0, s, m, _, c => .ok (s, m, c)
    | fuel + 1, s, m, numbered, c =>
      match c.next? with
      | none => .ok (s, m, c)
      | some (b, c') =>
        if b = ch 'i' ∨ b = ch 'I' then
          if cx.posix then cx.fail c' "unknown option to \x60s'" else go fuel { s with icase := true } m numbered c'
        else if b = ch 'm' ∨ b = ch 'M' then go fuel s true numbered c'
        else if b = ch 'e' then
          if cx.sandbox then cx.fail c' "e/r/w commands disabled in sandbox mode" else go fuel s m numbered c'
        else if b = ch 'p' then
          if s.print then cx.fail c' "multiple \x60p' options to \x60s' command"
          else go fuel { s with print := true } m numbered c'
        else if b = ch 'g' then
          if s.global then cx.fail c' "multiple \x60g' options to \x60s' command"
          else go fuel { s with global := true } m numbered c'
        else if b = ch 'w' then
          match readFilename cx c' with
          | .error e => .error e
          | .ok (name, c2) =>
            if name.isEmpty then cx.fail c2 "missing filename in r/R/w/W commands"
            else .ok ({ s with write := some name }, m, c2)
        else if isDigit b then
          if numbered then cx.fail c' "multiple number options to \x60s' command"
          else
            let (n, c2) := c.number
            if n = 0 then cx.fail c2 "number option to \x60s' command may not be zero"
            else go fuel { s with nth := n } m true c2
        else if b = ch '}' ∨ b = ch '#' then .ok (s, m, c)
        else if b = 10 ∨ b = ch ';' then .ok (s, m, c')
        else if b = 32 ∨ b = 9 then go fuel s m numbered c'
        else if b = 13 ∧ c'.peek = some 10 then .ok (s, m, c'.step)
        else cx.fail c' "unknown option to \x60s'"

/-- Reads an `s` command after its letter. -/
def readSubst (cx : Context) (c : Cursor) : Except Fault (Op × Cursor) :=
  let unterminated (c : Cursor) : Except Fault (Op × Cursor) := cx.fail c "unterminated \x60s' command"
  match c.next? with
  | none => unterminated c
  | some (delim, c) =>
    match matchSlash delim true c with
    | .error c => unterminated c
    | .ok (pat, c) =>
      match matchSlash delim false c with
      | .error c => unterminated c
      | .ok (rep, c) =>
        match unescape .replacement rep with
        | .error msg => cx.fail c msg
        | .ok rep =>
          let pieces := replacementPieces rep
          match readFlags cx { rx := none, pieces } c with
          | .error e => .error e
          | .ok (s, multiline, c) =>
            match compilePattern cx c pat multiline with
            | .error e => .error e
            | .ok rx =>
              let highest := pieces.foldl (fun m p => max m (p.ref.getD 0)) 0
              match rx with
              | some r =>
                if highest > r.groupCount then
                  cx.fail c ("invalid reference \\" ++ toString highest ++ " on \x60s' command's RHS")
                else .ok (.subst { s with rx }, c)
              | none => .ok (.subst { s with rx }, c)

/-- Reads a `y` command after its letter. -/
def readTranslit (cx : Context) (c : Cursor) : Except Fault (Op × Cursor) :=
  let unterminated (c : Cursor) : Except Fault (Op × Cursor) := cx.fail c "unterminated \x60y' command"
  match c.next? with
  | none => unterminated c
  | some (delim, c) =>
    match matchSlash delim false c with
    | .error c => unterminated c
    | .ok (src, c) =>
      match matchSlash delim false c with
      | .error c => unterminated c
      | .ok (dst, c) =>
        match unescape .plain src, unescape .plain dst with
        | .ok src, .ok dst =>
          let src := plainBytes src
          let dst := plainBytes dst
          if src.length ≠ dst.length then cx.fail c "strings for \x60y' command are different lengths"
          else
            match endCommand cx c with
            | .error e => .error e
            | .ok c => .ok (.translit (src.zip dst), c)
        | .error msg, _ | _, .error msg => cx.fail c msg

/-- The command of a letter that takes nothing after it. -/
def simpleOp (b : UInt8) : Option Op :=
  match Char.ofNat b.toNat with
  | '=' => some .lineNumber
  | 'd' => some .delete
  | 'D' => some .deleteFirst
  | 'F' => some .fileName
  | 'g' => some .get
  | 'G' => some .getAppend
  | 'h' => some .hold
  | 'H' => some .holdAppend
  | 'n' => some .next
  | 'N' => some .appendNext
  | 'p' => some .print
  | 'P' => some .printFirst
  | 'x' => some .exchange
  | 'z' => some .zap
  | _ => none

/-- What a command letter read after the addresses makes: a command and the cursor after
it, or nothing added (a comment or `v`). -/
def readOp (cx : Context) (rd : Reading) (cmd : Cmd) (b : UInt8) (c : Cursor) :
    Except Fault (Reading × Cursor) :=
  let add (op : Op) (c : Cursor) : Except Fault (Reading × Cursor) :=
    .ok ({ rd with cmds := rd.cmds.push { cmd with op } }, c)
  let addressed := cmd.first.isSome
  let addText (kind : TextKind) (read : Except Fault (List UInt8 × Bool × Cursor)) : Except Fault (Reading × Cursor) :=
    match read with
    | .error e => .error e
    | .ok (t, more, c) =>
      .ok ({ rd with cmds := rd.cmds.push { cmd with op := .text kind t },
                     pending := if more then some rd.cmds.size else none }, c)
  match Char.ofNat b.toNat with
  | '#' =>
    if addressed then cx.fail c "comments don't accept any addresses"
    else
      let quiet := cx.first ∧ c.pos = 1 ∧ c.peek = some (ch 'n')
      let n := (c.rest.takeWhile (· ≠ 10)).length
      .ok ({ rd with quiet := rd.quiet || quiet }, { c with rest := c.rest.drop n, pos := c.pos + n })
  | 'v' =>
    let (version, c) := readLabel c
    if newer version then cx.fail c "expected newer version of sed" else .ok (rd, c)
  | '{' =>
    let here := rd.cmds.size
    .ok ({ rd with cmds := rd.cmds.push { cmd with op := .block 0 },
                   blocks := (here, cx.source, c.line) :: rd.blocks }, c)
  | '}' =>
    match rd.blocks with
    | [] => cx.fail c "unexpected \x60\x7d'"
    | (start, _) :: rest =>
      if addressed then cx.fail c "\x60\x7d' doesn't want any addresses"
      else
        match endCommand cx c with
        | .error e => .error e
        | .ok c =>
          let cmds := rd.cmds.push { op := .blockEnd }
          let cmds := cmds.modify start fun k => { k with op := .block cmds.size }
          .ok ({ rd with cmds, blocks := rest }, c)
  | 'e' =>
    match readFilename cx c with
    | .error e => .error e
    | .ok (command, c) => add (.execute command) c
  | 'a' | 'i' | 'c' =>
    let kind : TextKind := if b = ch 'a' then .append else if b = ch 'i' then .insert else .change
    let c := c.skipBlanks
    match c.next? with
    | none => cx.fail c "expected \\ after \x60a', \x60c' or \x60i'"
    | some (92, c') =>
      match c'.next? with
      | none =>
        -- the text goes on in the next piece
        .ok ({ rd with cmds := rd.cmds.push { cmd with op := .text kind [] }, pending := some rd.cmds.size }, c')
      | some (lead, c'') => addText kind (readText cx (some lead) c'')
    | some _ =>
      if cx.posix then cx.fail c "expected \\ after \x60a', \x60c' or \x60i'"
      else addText kind (readText cx none c)
  | ':' =>
    if addressed then cx.fail c ": doesn't want any addresses"
    else
      let (name, c) := readLabel c
      if name.isEmpty then cx.fail c "\":\" lacks a label" else add (.label name) c
  | 'b' | 't' | 'T' =>
    let kind : Branch := if b = ch 'b' then .always else if b = ch 't' then .replaced else .unreplaced
    let (name, c) := readLabel c
    add (.branch kind name none) c
  | 'q' | 'Q' | 'l' | 'L' =>
    if (b = ch 'q' ∨ b = ch 'Q') ∧ cmd.second.isSome then cx.fail c "command only uses one address"
    else
      let c := c.skipBlanks
      let (arg, c) := match c.peek with
        | some d => if isDigit d ∧ !cx.posix then
            let (n, c) := c.number
            (some n, c.skipBlanks)
          else (none, c)
        | none => (none, c)
      let finish (c : Cursor) : Except Fault (Reading × Cursor) :=
        if b = ch 'q' then add (.quit true (arg.getD 0)) c
        else if b = ch 'Q' then add (.quit false (arg.getD 0)) c
        else if b = ch 'l' then add (.list arg) c
        else add (.broken b) c
      match c.next? with
      | none => finish c
      | some (d, c') =>
        if d = ch '}' ∨ d = ch '#' then finish c
        else if d = 10 ∨ d = ch ';' then finish c'
        else cx.fail c' "extra characters after command"
  | 'r' | 'R' | 'w' | 'W' =>
    match readFilename cx c with
    | .error e => .error e
    | .ok (name, c) =>
      if name.isEmpty then cx.fail c "missing filename in r/R/w/W commands"
      else
        let op : Op := if b = ch 'r' then .readFile name else if b = ch 'R' then .readLine name
          else if b = ch 'w' then .writeFile name else .writeFirst name
        add op c
  | 's' =>
    match readSubst cx c with
    | .error e => .error e
    | .ok (op, c) => add op c
  | 'y' =>
    match readTranslit cx c with
    | .error e => .error e
    | .ok (op, c) => add op c
  | _ =>
    match simpleOp b with
    | some op =>
      match endCommand cx c with
      | .error e => .error e
      | .ok c => add op c
    | none => cx.fail c ("unknown command: " ++ quoted b)

/-- Reads one command from its first byte `b`, read: its addresses, `!`, and what it does. -/
def readCommand (cx : Context) (rd : Reading) (b : UInt8) (c : Cursor) : Except Fault (Reading × Cursor) := do
  let (first, b?, c) ← match ← readAddr cx b c with
    | some (a, c) =>
      match a with
      | .more _ | .upTo _ => cx.fail c "invalid usage of +N or ~N as first address"
      | _ =>
        let c := c.skipBlanks
        match c.next? with
        | some (44, c') =>
          let c' := c'.skipBlanks
          match c'.next? with
          | none => cx.fail c' "unexpected \x60,'"
          | some (d, c'') =>
            match ← readAddr cx d c'' with
            | none => cx.fail c'' "unexpected \x60,'"
            | some (a2, c3) =>
              let c3 := c3.skipBlanks
              pure ((some a, some a2), c3.next?, c3)
        | next => pure ((some a, none), next, c)
    | none => pure ((none, none), some (b, c), c)
  -- a line address 0 only starts a range whose end is a pattern
  let lineZero : Bool := match first.1 with
    | some (.line 0) => true
    | _ => false
  let zeroOk : Bool := match first.2 with
    | some (.matching _ _) => !cx.posix
    | _ => !lineZero
  let c := match b? with
    | some (_, c') => c'
    | none => c
  if lineZero && !zeroOk then
    cx.fail c "invalid usage of line address 0"
  else
    let (negate, b?, c) ← match b? with
      | some (33, c) =>
        let c := c.skipBlanks
        match c.next? with
        | some (33, c') => cx.fail c' "multiple \x60!'s"
        | next => pure (true, next, match next with
          | some (_, c') => c'
          | none => c)
      | other => pure (false, other, c)
    match b? with
    | none => cx.fail c "missing command"
    | some (op, _) => readOp cx rd { first := first.1, second := first.2, negate, op := .blockEnd } op c

/-- Reads the commands of a piece of script from a cursor. -/
def readCommands (cx : Context) : Nat → Reading → Cursor → Except Fault Reading
  | 0, rd, _ => .ok rd
  | fuel + 1, rd, c =>
    match c.next? with
    | none => .ok rd
    | some (b, c') =>
      if b = ch ';' ∨ isSpace b then readCommands cx fuel rd c'
      else
        match readCommand cx rd b c' with
        | .error e => .error e
        | .ok (rd, c) => readCommands cx fuel rd c

/-- Reads one piece of script into the program: first the rest of a text the piece before
left open, then its commands. -/
def readPiece (cx : Context) (rd : Reading) (bytes : List UInt8) : Except Fault Reading :=
  let c : Cursor := { rest := bytes }
  let opened : Except Fault (Reading × Cursor) := match rd.pending with
    | none => .ok (rd, c)
    | some k =>
      match readText cx none c with
      | .error e => .error e
      | .ok (t, more, c) =>
        let cmds := rd.cmds.modify k fun cmd => match cmd.op with
          | .text kind old => { cmd with op := .text kind (old ++ t) }
          | _ => cmd
        .ok ({ rd with cmds, pending := if more then some k else none }, c)
  match opened with
  | .error e => .error e
  | .ok (rd, c) => readCommands cx (bytes.length + 1) rd c

/-- Ties each jump to its label, or names the first label that is missing. -/
def link (cmds : Array Cmd) : Except (List UInt8) (Array Cmd) :=
  let labelAt (name : List UInt8) : Option Nat :=
    (cmds.toList.zipIdx.find? fun (c, _) => match c.op with
      | .label n => n = name
      | _ => false).map (·.2)
  cmds.mapM fun c =>
    match c.op with
    | .branch kind name _ =>
      if name.isEmpty then .ok c
      else
        match labelAt name with
        | some j => .ok { c with op := .branch kind name (some j) }
        | none => .error name
    | _ => .ok c

end Edit

end Timebox
