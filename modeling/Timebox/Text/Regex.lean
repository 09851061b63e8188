/-! # Regular expressions of the base tools

`Regex.parse syn pattern` reads a pattern the way the tools of the base system do in the C
locale, byte by byte:

* in the basic syntax (`grep`, `sed`), `\(` and `\)` make a group, `*` repeats, `\+` and
  `\?` repeat at least once and at most once, `\{m,n\}` from `m` to `n` times, and `\|`
  separates alternatives; `^` is an anchor only at the start of an expression, `$` only at
  its end, and a `*` at the start is a plain star;
* in the extended syntax (`grep -E`, `sed -E`), the same without the backslashes, and `^`
  and `$` are anchors everywhere;
* in both, `.` is any byte, `[a-z[:digit:]]` and `[^…]` are bracket expressions,
  `\1`…`\9` refer back to a group, `\w` `\W` `\s` `\S` are word and space bytes and their
  complements, `\b` `\B` `\<` `\>` are edges of words; any other escaped byte is itself.

The tools differ at the edges, and `RegexSyntax` says how: a repeat sign with nothing to
repeat is refused by `sed -E` and the shell's `=~`, skipped by `grep -E` (with a warning)
and a plain byte in the basic syntax; `a**` is refused by `sed` alone; an interval that is
not one (`a{x`) is plain bytes for `grep -E`; an unmatched `)` stands for itself in
`grep -E` and `=~`. A pattern that is not one gives the message of the C library
(`Unmatched ( or \(`).

`Regex.search` finds the leftmost match in a text and, of the matches there, the longest,
with the spans of its groups.
-/

namespace Timebox

/-- How a tool reads its patterns. -/
structure RegexSyntax where
  /-- The extended syntax: groups, alternatives and repeats without backslashes, anchors
  everywhere. -/
  ere : Bool := false
  /-- A repeat sign with nothing before it is refused; else the extended syntax skips it
  and the basic syntax takes it for itself. -/
  strictRepeats : Bool := false
  /-- A repeat right after a repeat (`a**`, `a*\{2\}`) is refused. -/
  noDoubleRepeats : Bool := false
  /-- An interval that is not one (`a{x`) stands for its bytes instead of being refused. -/
  looseIntervals : Bool := false
  /-- An unmatched `)` of the extended syntax stands for itself. -/
  looseParens : Bool := false
  /-- `^` and `$` also match around newlines, and `.` and `[^…]` never match a newline. -/
  multiline : Bool := false
  /-- Only the operators of the standard: `\+`, `\?` and `\|` of the basic syntax and the
  escapes `\w` `\W` `\s` `\S` `\b` `\B` `\<` `\>` stand for themselves. -/
  posixOnly : Bool := false
  /-- The pattern is read a second time by a stricter matcher, as `grep` does: a repeat sign
  of the extended syntax with nothing before it is skipped with a warning, and so is an
  interval there, which is otherwise read as plain bytes; a bracket expression such as
  `[:space:]`, which was meant as a class, is refused. -/
  secondReading : Bool := false
deriving DecidableEq, Repr, Inhabited

namespace RegexSyntax

/-- The basic syntax of `expr`. -/
def basic : RegexSyntax := {}

/-- The basic syntax of `grep`. -/
def grepBasic : RegexSyntax := { secondReading := true }

/-- The extended syntax of `grep -E`. -/
def grepExtended : RegexSyntax :=
  { ere := true, looseIntervals := true, looseParens := true, secondReading := true }

/-- The basic syntax of `sed`. -/
def sedBasic : RegexSyntax := { noDoubleRepeats := true }

/-- The extended syntax of `sed -E`. -/
def sedExtended : RegexSyntax := { ere := true, strictRepeats := true }

/-- The extended syntax of the C library's `regcomp`, as the shell's `=~` uses it. -/
def posixExtended : RegexSyntax := { ere := true, strictRepeats := true, looseParens := true }

end RegexSyntax

/-- One item of a bracket expression. -/
inductive ClassItem where
  | byte (b : UInt8)
  | range (lo hi : UInt8)
  | named (name : String)
deriving DecidableEq, Repr, Inhabited

/-- The edges of words a pattern can ask for. -/
inductive WordEdge where
  /-- `\b`: a word starts or ends here. -/
  | edge
  /-- `\B`: no word starts or ends here. -/
  | inside
  /-- `\<`: a word starts here. -/
  | start
  /-- `\>`: a word ends here. -/
  | finish
deriving DecidableEq, Repr, Inhabited

/-- A regular expression over bytes. -/
inductive Regex where
  | empty
  | byte (b : UInt8)
  | any
  | bracket (negated : Bool) (items : List ClassItem)
  | lineStart
  | lineEnd
  /-- The start of the text or of a line in it. -/
  | newlineStart
  /-- The end of the text or of a line in it. -/
  | newlineEnd
  | word (e : WordEdge)
  | group (n : Nat) (r : Regex)
  | backref (n : Nat)
  | cat (a b : Regex)
  | alt (a b : Regex)
  | rep (r : Regex) (lo : Nat) (hi : Option Nat)
deriving Repr, Inhabited

namespace Regex

/-! ### Bytes and classes -/

/-- The byte of an ASCII letter in lower case; every other byte as it is. -/
def lower (b : UInt8) : UInt8 := if 65 ≤ b ∧ b ≤ 90 then b + 32 else b

/-- The byte of an ASCII letter in upper case; every other byte as it is. -/
def upper (b : UInt8) : UInt8 := if 97 ≤ b ∧ b ≤ 122 then b - 32 else b

/-- Whether a byte is in a named class of the C locale. -/
def inNamed (name : String) (b : UInt8) : Bool :=
  let n := b.toNat
  let isUpper := 65 ≤ n ∧ n ≤ 90
  let isLower := 97 ≤ n ∧ n ≤ 122
  let isDigit := 48 ≤ n ∧ n ≤ 57
  if name = "alpha" then isUpper || isLower
  else if name = "digit" then isDigit
  else if name = "alnum" then isUpper || isLower || isDigit
  else if name = "upper" then isUpper
  else if name = "lower" then isLower
  else if name = "space" then n = 32 || (9 ≤ n ∧ n ≤ 13)
  else if name = "blank" then n = 32 || n = 9
  else if name = "punct" then (33 ≤ n ∧ n ≤ 126) && !(isUpper || isLower || isDigit)
  else if name = "print" then 32 ≤ n ∧ n ≤ 126
  else if name = "graph" then 33 ≤ n ∧ n ≤ 126
  else if name = "cntrl" then n < 32 || n = 127
  else if name = "xdigit" then isDigit || (65 ≤ n ∧ n ≤ 70) || (97 ≤ n ∧ n ≤ 102)
  else false

/-- The names of the classes of bracket expressions. -/
def classNames : List String :=
  ["alpha", "digit", "alnum", "upper", "lower", "space", "blank", "punct", "print", "graph",
   "cntrl", "xdigit"]

/-- Whether a byte is in one of the items of a bracket expression. -/
def inItems (items : List ClassItem) (b : UInt8) : Bool :=
  items.any fun
    | .byte x => x = b
    | .range lo hi => lo ≤ b ∧ b ≤ hi
    | .named n => inNamed n b

/-- Whether a byte is in a bracket expression, letters of either case alike when `icase`. -/
def inBracket (icase : Bool) (negated : Bool) (items : List ClassItem) (b : UInt8) : Bool :=
  let found := inItems items b || (icase && (inItems items (lower b) || inItems items (upper b)))
  found != negated

/-- Whether a byte is part of words: a letter, a digit or `_`. -/
def isWordByte (b : UInt8) : Bool := inNamed "alnum" b || b = 95

/-- Whether a text has a word edge of a kind before its byte at `i`. -/
def edgeAt (e : WordEdge) (t : Array UInt8) (i : Nat) : Bool :=
  let before := if i = 0 then false else (t[i - 1]?.map isWordByte).getD false
  let after := (t[i]?.map isWordByte).getD false
  match e with
  | .edge => before != after
  | .inside => before == after
  | .start => !before && after
  | .finish => before && !after

/-! ### Matching -/

/-- The spans of the groups matched so far, by number. -/
abbrev Spans := List (Nat × Nat × Nat)

/-- The spans with a group's span set. -/
def setSpan (s : Spans) (n i j : Nat) : Spans := (n, i, j) :: s.filter (·.1 ≠ n)

/-- Whether the bytes of a text from `i` on start with the bytes from `a` to `b`. -/
def sameAt (icase : Bool) (t : Array UInt8) (a b i : Nat) : Bool :=
  (List.range (b - a)).all fun k =>
    match t[a + k]?, t[i + k]? with
    | some x, some y => if icase then lower x = lower y else x = y
    | _, _ => false

/-- The ends of the rounds of a repeat from `i` on, at least `lo` and at most `hi` rounds
of `step`, more rounds first; a round that matches nothing ends the repeat. -/
def repeatEnds (step : Nat → Spans → List (Nat × Spans)) :
    Nat → Nat → Option Nat → Nat → Spans → List (Nat × Spans)
  | 0, _, _, _, _ => []
  | fuel + 1, lo, hi, i, s =>
    let again :=
      if hi = some 0 then []
      else (step i s).flatMap fun (j, s') =>
        if j = i ∧ lo = 0 then []
        else repeatEnds step fuel (lo - 1) (hi.map (· - 1)) j s'
    if lo = 0 then again ++ [(i, s)] else again

/-- Every way the expression matches the text from `i` on: where the match ends and the
spans of the groups then, the preferred ways first. -/
def ends (icase : Bool) (t : Array UInt8) : Regex → Nat → Spans → List (Nat × Spans)
  | .empty, i, s => [(i, s)]
  | .byte b, i, s =>
    match t[i]? with
    | some x => if (if icase then lower x = lower b else x = b) then [(i + 1, s)] else []
    | none => []
  | .any, i, s => if i < t.size then [(i + 1, s)] else []
  | .bracket neg items, i, s =>
    match t[i]? with
    | some x => if inBracket icase neg items x then [(i + 1, s)] else []
    | none => []
  | .lineStart, i, s => if i = 0 then [(i, s)] else []
  | .lineEnd, i, s => if i = t.size then [(i, s)] else []
  | .newlineStart, i, s => if i = 0 ∨ t[i - 1]? = some 10 then [(i, s)] else []
  | .newlineEnd, i, s => if i = t.size ∨ t[i]? = some 10 then [(i, s)] else []
  | .word e, i, s => if edgeAt e t i then [(i, s)] else []
  | .group n r, i, s => (ends icase t r i s).map fun (j, s') => (j, setSpan s' n i j)
  | .backref n, i, s =>
    match s.lookup n with
    | some (a, b) => if sameAt icase t a b i then [(i + (b - a), s)] else []
    | none => []
  | .cat a b, i, s => (ends icase t a i s).flatMap fun (j, s') => ends icase t b j s'
  | .alt a b, i, s => ends icase t a i s ++ ends icase t b i s
  | .rep r lo hi, i, s => repeatEnds (fun j s' => ends icase t r j s') (t.size + lo + 1) lo hi i s

/-- The longest of the ways a match can end, the first of them when several end alike. -/
def longest : List (Nat × Spans) → Option (Nat × Spans)
  | [] => none
  | m :: ms =>
    match longest ms with
    | some best => if best.1 > m.1 then some best else some m
    | none => some m

/-- A match of the expression in a text: the first place from `from` on where it matches,
with the end of the longest match there and the spans of its groups. -/
def search (r : Regex) (icase : Bool) (t : Array UInt8) (from_ : Nat) : Option (Nat × Nat × Spans) :=
  go (t.size + 1 - from_) from_
where
  go : Nat → Nat → Option (Nat × Nat × Spans)
    | 0, _ => none
    | fuel + 1, i =>
      match longest (ends icase t r i []) with
      | some (j, s) => some (i, j, s)
      | none => go fuel (i + 1)

/-- Whether the expression matches somewhere in a text. -/
def found (r : Regex) (icase : Bool) (t : Array UInt8) : Bool := (r.search icase t 0).isSome

/-- The number of groups of an expression: the largest number of a group in it. -/
def groupCount : Regex → Nat
  | .group n r => max n r.groupCount
  | .cat a b => max a.groupCount b.groupCount
  | .alt a b => max a.groupCount b.groupCount
  | .rep r _ _ => r.groupCount
  | _ => 0

/-! ### Reading patterns -/

/-- A reading of a pattern: what is left of it, how many groups were opened, and which
were closed; the warnings met so far, and a fault found by the second, stricter reading of
`grep` with the warnings met before it, which counts only once the first reading is done. -/
structure Reading where
  rest : List UInt8
  opened : Nat := 0
  closed : List Nat := []
  warnings : List String := []
  late : Option (List String × String) := none

/-- Notes a warning. -/
def Reading.warn (rd : Reading) (w : String) : Reading := { rd with warnings := rd.warnings ++ [w] }

/-- The text of a byte. -/
def ch (c : Char) : UInt8 := c.toNat.toUInt8

/-- The biggest count of a repeat. -/
def maxCount : Nat := 32767

/-- What stopped the reading of a number of an interval: the closing brace, a comma, or
the end of the pattern. -/
inductive Stop where
  | close | comma | finish
deriving DecidableEq

/-- Reads one number of an interval up to the closing brace (`\}` in the basic syntax) or a
comma: `-1` when there are no digits, `-2` when something else stands there. -/
def readNumber (ere : Bool) : Nat → List UInt8 → Int → Int × Stop × List UInt8
  | 0, bs, _ => (-2, .finish, bs)
  | _, [], _ => (-2, .finish, [])
  | fuel + 1, b :: rest, n =>
    if ere ∧ b = 125 then (n, .close, rest)
    else if !ere ∧ b = 92 ∧ rest.head? = some 125 then (n, .close, rest.drop 1)
    else if b = 44 then (n, .comma, rest)
    else if b = 92 then readNumber ere fuel (rest.drop 1) (-2)
    else
      let n' : Int :=
        if n = -2 ∨ b < 48 ∨ b > 57 then -2
        else if n = -1 then (b.toNat - 48 : Nat)
        else min (maxCount + 1 : Nat) (n * 10 + (b.toNat - 48 : Nat))
      readNumber ere fuel rest n'

/-- What an interval turned out to be. -/
inductive Interval where
  /-- The least and most rounds, and the rest of the pattern. -/
  | bounds (lo : Nat) (hi : Option Nat) (rest : List UInt8)
  /-- Not an interval: its brace is a plain byte. -/
  | plain

/-- Reads an interval after its opening brace. A pattern such as `a{x` is refused, or, when
the syntax allows it, is no interval. -/
def readInterval (syn : RegexSyntax) (bs : List UInt8) : Except String Interval :=
  let ere := syn.ere
  let (lo, stop1, rest1) := readNumber ere (bs.length + 1) bs (-1)
  if lo = -1 ∧ stop1 ≠ .comma then .error "Invalid content of \\\x7b\\\x7d"
  else
    let lo : Int := if lo = -1 then 0 else lo
    let (hi, stop2, rest2) : Int × Stop × List UInt8 :=
      if lo = -2 then (-2, stop1, rest1)
      else if stop1 = .close then (lo, .close, rest1)
      else readNumber ere (rest1.length + 1) rest1 (-1)
    if lo = -2 ∨ hi = -2 then
      if syn.looseIntervals then .ok .plain
      else if stop2 = .finish then .error "Unmatched \\\x7b"
      else .error "Invalid content of \\\x7b\\\x7d"
    else if (hi ≠ -1 ∧ lo > hi) ∨ stop2 ≠ .close then .error "Invalid content of \\\x7b\\\x7d"
    else if lo > maxCount ∨ hi > maxCount then .error "Regular expression too big"
    else .ok (.bounds lo.toNat (if hi = -1 then none else some hi.toNat) rest2)

/-- The value of some digits, no more than one past the biggest count. -/
def digitsValue (ds : List UInt8) : Int :=
  if ds.isEmpty then -1
  else ds.foldl (fun n d => min (maxCount + 1 : Nat) (n * 10 + (d.toNat - 48 : Nat))) (0 : Int)

/-- Whether a byte is a digit. -/
def isDigit (b : UInt8) : Bool := 48 ≤ b ∧ b ≤ 57

/-- Reads an interval with nothing before it, after its brace, the way `grep` matches:
digits, maybe a comma and digits, and the closing brace. The least and most rounds (`-1`
when open) and the rest when it is one. -/
def leadingInterval (bs : List UInt8) : Option (Int × Int × List UInt8) :=
  let ds := bs.takeWhile isDigit
  let lo := digitsValue ds
  match bs.drop ds.length with
  | 44 :: more =>
    let lo : Int := if lo < 0 then 0 else lo
    let ds2 := more.takeWhile isDigit
    let hi := digitsValue ds2
    match more.drop ds2.length with
    | 125 :: after => if hi < 0 ∨ lo ≤ hi then some (lo, hi, after) else none
    | _ => none
  | 125 :: after => if 0 ≤ lo then some (lo, lo, after) else none
  | _ => none

/-- Reads the items of a bracket expression after its `[` and `^`, up to its `]`; `first`
while no item was read, where a `]` is a plain byte. -/
def readBracket : Nat → List UInt8 → Bool → List ClassItem → Except String (List ClassItem × List UInt8)
  | 0, _, _, _ => .error "Unmatched [, [^, [:, [., or [="
  | _, [], _, _ => .error "Unmatched [, [^, [:, [., or [="
  | fuel + 1, b :: rest, first, acc =>
    if b = 93 ∧ !first then .ok (acc, rest)
    else if b = 91 ∧ (rest.head? = some 58 ∨ rest.head? = some 61 ∨ rest.head? = some 46) then
      let kind := rest.headD 0
      let body := rest.drop 1
      let name := body.takeWhile (· ≠ kind)
      let after := body.drop name.length
      match after with
      | k :: 93 :: more =>
        if k ≠ kind then .error "Unmatched [, [^, [:, [., or [="
        else if kind = 58 then
          let n := String.ofList (name.map fun x => Char.ofNat x.toNat)
          if classNames.contains n then readBracket fuel more false (acc ++ [.named n])
          else .error "Invalid character class name"
        else
          match name with
          | [x] => readBracket fuel more false (acc ++ [.byte x])
          | _ => .error "Invalid collation character"
      | _ => .error "Unmatched [, [^, [:, [., or [="
    else
      match rest with
      | 45 :: hi :: more =>
        if hi = 93 then readBracket fuel (45 :: hi :: more) false (acc ++ [.byte b])
        else if hi < b then .error "Invalid range end"
        else readBracket fuel more false (acc ++ [.range b hi])
      | _ => readBracket fuel rest false (acc ++ [.byte b])

/-- Whether a bracket expression looks like a class without its own brackets, as in
`[:space:]`: it begins and ends with a colon, holds something else, and each of its bytes is
one item, with no class, range or collating element. -/
def confusing (raw : List UInt8) (items : List ClassItem) : Bool :=
  raw.head? = some 58 && raw.getLast? = some 58 && raw.any (· ≠ 58) &&
    items.length = raw.length && items.all fun i => match i with
      | .byte _ => true
      | _ => false

/-- Whether the bytes at the front end an expression of the basic syntax: the end of the
pattern, `\)` or `\|`. -/
def endsBasic (bs : List UInt8) : Bool :=
  match bs with
  | [] => true
  | 92 :: 41 :: _ | 92 :: 124 :: _ => true
  | _ => false

/-- The bracket expression of a class escape: `\w` `\W` `\s` `\S`. -/
def classEscape? (b : UInt8) : Option Regex :=
  if b = ch 'w' then some (.bracket false [.named "alnum", .byte 95])
  else if b = ch 'W' then some (.bracket true [.named "alnum", .byte 95])
  else if b = ch 's' then some (.bracket false [.named "space"])
  else if b = ch 'S' then some (.bracket true [.named "space"])
  else none

/-- The anchor of an escape: word edges, and the start and end of the text. -/
def anchorEscape? (b : UInt8) : Option Regex :=
  if b = ch 'b' then some (.word .edge)
  else if b = ch 'B' then some (.word .inside)
  else if b = ch '<' then some (.word .start)
  else if b = ch '>' then some (.word .finish)
  else if b = 96 then some .lineStart
  else if b.toNat = 39 then some .lineEnd
  else none

/-- What an atom was: an anchor (no repeat may follow it, and what follows starts afresh),
a repeat sign with nothing to repeat that the syntax skips, or a plain atom. -/
inductive AtomKind where
  | anchor | skipped | plain
deriving DecidableEq

/-- The start and end of a line as `^` and `$` mean them: of the text, or also around its
newlines in the multi-line mode. -/
def caretOf (syn : RegexSyntax) : Regex := if syn.multiline then .newlineStart else .lineStart
def dollarOf (syn : RegexSyntax) : Regex := if syn.multiline then .newlineEnd else .lineEnd

/-- Two expressions one after the other; an empty one drops out. -/
def join : Regex → Regex → Regex
  | .empty, b => b
  | a, b => .cat a b

mutual

/-- Reads alternatives up to the end of the pattern or of the group it is in. -/
def readAlt (fuel : Nat) (syn : RegexSyntax) (depth : Nat) (rd : Reading) : Except String (Regex × Reading) :=
  match fuel with
  | 0 => .error "Regular expression too big"
  | fuel + 1 => do
    let (a, rd) ← readSeq fuel syn depth rd .empty true true
    match syn.ere || !syn.posixOnly, syn.ere, rd.rest with
    | true, false, 92 :: 124 :: more | true, true, 124 :: more =>
      let (b, rd) ← readAlt fuel syn depth { rd with rest := more }
      pure (.alt a b, rd)
    | _, _, _ => pure (a, rd)

/-- Reads the items of one alternative after `acc`; `start` where a repeat sign has nothing
before it, `caret` where a `^` of the basic syntax is an anchor. -/
def readSeq (fuel : Nat) (syn : RegexSyntax) (depth : Nat) (rd : Reading) (acc : Regex) (start caret : Bool) :
    Except String (Regex × Reading) :=
  match fuel with
  | 0 => .error "Regular expression too big"
  | fuel + 1 =>
    let alternative : Bool := match syn.ere, rd.rest with
      | false, 92 :: 124 :: _ => !syn.posixOnly
      | true, 124 :: _ => true
      | _, _ => false
    if alternative then .ok (acc, rd)
    else
    match syn.ere, rd.rest with
    | _, [] => .ok (acc, rd)
    | false, 92 :: 41 :: _ =>
      if depth > 0 then .ok (acc, rd) else .error "Unmatched ) or \\)"
    | true, 41 :: rest =>
      if depth > 0 then .ok (acc, rd)
      else if syn.looseParens then
        readSeq fuel syn depth { rd with rest } (join acc (.byte 41)) false false
      else .error "Unmatched ) or \\)"
    | _, _ => do
      let (atom, rd, kind) ← readAtom fuel syn depth rd start caret
      match kind with
      | .anchor => readSeq fuel syn depth rd (join acc atom) true false
      | .skipped =>
        -- a closing parenthesis right after a skipped repeat stands for itself
        match syn.ere && syn.looseParens, rd.rest with
        | true, 41 :: rest =>
          let (item, rd) ← readPostfix fuel syn (.byte 41) { rd with rest }
          readSeq fuel syn depth rd (join acc item) false false
        | _, _ => readSeq fuel syn depth rd acc start caret
      | .plain =>
        let (item, rd) ← readPostfix fuel syn atom rd
        readSeq fuel syn depth rd (join acc item) false false

/-- Reads one atom: the expression, the reading after it, and what kind of atom it was. -/
def readAtom (fuel : Nat) (syn : RegexSyntax) (depth : Nat) (rd : Reading) (start caret : Bool) :
    Except String (Regex × Reading × AtomKind) :=
  match fuel with
  | 0 => .error "Regular expression too big"
  | fuel + 1 =>
    match rd.rest with
    | [] => .ok (.empty, rd, .plain)
    | b :: rest =>
      let rd' := { rd with rest }
      let leading : Except String (Regex × Reading × AtomKind) :=
        if syn.strictRepeats then .error "Invalid preceding regular expression"
        else if syn.secondReading then
          .ok (.empty, rd'.warn (String.singleton (Char.ofNat b.toNat) ++ " at start of expression"), .skipped)
        else .ok (.empty, rd', .skipped)
      if b = ch '^' ∧ (syn.ere ∨ caret) then .ok (caretOf syn, rd', .anchor)
      else if b = ch '$' ∧ (syn.ere ∨ endsBasic rest) then .ok (dollarOf syn, rd', .anchor)
      else if b = ch '*' ∧ start then
        if syn.ere then leading else .ok (.byte b, rd', .plain)
      else if (b = ch '+' ∨ b = ch '?') ∧ start ∧ syn.ere then leading
      else if b = ch '{' ∧ start ∧ syn.ere then
        if syn.strictRepeats then .error "Invalid preceding regular expression"
        else
          match syn.secondReading, leadingInterval rest with
          | true, some (_, hi, after) =>
            let rd := { rd with rest := after }.warn "\x7b...\x7d at start of expression"
            let rd := if hi > maxCount ∧ rd.late.isNone then
                { rd with late := some (rd.warnings, "regular expression too big") }
              else rd
            .ok (.empty, rd, .skipped)
          | _, _ => .ok (.byte b, rd', .plain)
      else if b = ch '.' then
        .ok ((if syn.multiline then .bracket true [.byte 10] else .any), rd', .plain)
      else if b = ch '[' then
        let (neg, body) := match rest with
          | 94 :: r => (true, r)
          | r => (false, r)
        match readBracket (body.length + 1) body true [] with
        | .ok (items, after) =>
          let raw := body.take (body.length - after.length - 1)
          let rd := { rd with rest := after }
          let rd := if syn.secondReading ∧ rd.late.isNone ∧ confusing raw items then
              { rd with late := some (rd.warnings, "character class syntax is [[:space:]], not [:space:]") }
            else rd
          let items := if neg ∧ syn.multiline then items ++ [.byte 10] else items
          .ok (.bracket neg items, rd, .plain)
        | .error e => .error e
      else if b = ch '(' ∧ syn.ere then readGroup fuel syn depth rd'
      else if b = 92 then
        match rest with
        | [] => .error "Trailing backslash"
        | c :: more =>
          let rd'' := { rd with rest := more }
          if c = ch '(' ∧ !syn.ere then readGroup fuel syn depth rd''
          else if c = ch '{' ∧ !syn.ere ∧ start then
            if syn.noDoubleRepeats then .error "Invalid preceding regular expression"
            else .ok (.byte c, rd'', .plain)
          else if 49 ≤ c ∧ c ≤ 57 then
            let n := c.toNat - 48
            if rd.closed.contains n then .ok (.backref n, rd'', .plain)
            else .error "Invalid back reference"
          else
            match (if syn.posixOnly then none else classEscape? c), (if syn.posixOnly then none else anchorEscape? c) with
            | some r, _ => .ok (r, rd'', .plain)
            | none, some r => .ok (r, rd'', .anchor)
            | none, none => .ok (.byte c, rd'', .plain)
      else .ok (.byte b, rd', .plain)

/-- Reads a group after its opening parenthesis, up to the closing one. -/
def readGroup (fuel : Nat) (syn : RegexSyntax) (depth : Nat) (rd : Reading) :
    Except String (Regex × Reading × AtomKind) :=
  match fuel with
  | 0 => .error "Regular expression too big"
  | fuel + 1 => do
    let n := rd.opened + 1
    let (body, rd) ← readAlt fuel syn (depth + 1) { rd with opened := n }
    match syn.ere, rd.rest with
    | false, 92 :: 41 :: more | true, 41 :: more =>
      pure (.group n body, { rd with rest := more, closed := n :: rd.closed }, .plain)
    | _, _ => throw "Unmatched ( or \\("

/-- Reads the repeats after an atom. A repeat right after a repeat is refused where the
syntax says so. -/
def readPostfix (fuel : Nat) (syn : RegexSyntax) (atom : Regex) (rd : Reading) : Except String (Regex × Reading) :=
  match fuel with
  | 0 => .ok (atom, rd)
  | fuel + 1 =>
    let again (r : Regex) (rest : List UInt8) : Except String (Regex × Reading) :=
      let doubled : Bool := match syn.ere, rest with
        | _, 42 :: _ => true
        | false, 92 :: 123 :: _ => true
        | true, 123 :: _ => true
        | _, _ => false
      if syn.noDoubleRepeats && doubled then .error "Invalid preceding regular expression"
      else readPostfix fuel syn r { rd with rest }
    match syn.ere, !syn.posixOnly, rd.rest with
    | _, _, 42 :: more => again (.rep atom 0 none) more
    | false, true, 92 :: 43 :: more | true, _, 43 :: more => again (.rep atom 1 none) more
    | false, true, 92 :: 63 :: more | true, _, 63 :: more => again (.rep atom 0 (some 1)) more
    | false, _, 92 :: 123 :: more | true, _, 123 :: more =>
      match readInterval syn more with
      | .error e => .error e
      | .ok .plain => .ok (atom, rd)
      | .ok (.bounds lo hi after) => again (.rep atom lo hi) after
    | _, _, _ => .ok (atom, rd)

end

/-- Reads a whole pattern in a syntax: the message of why it is not one, or the warnings to
write, the fault the stricter reading of `grep` found after them, and the expression. -/
def parseNoting (syn : RegexSyntax) (pattern : List UInt8) :
    Except String (List String × Option String × Regex) :=
  match readAlt (4 * pattern.length + 8) syn 0 { rest := pattern } with
  | .error e => .error e
  | .ok (r, rd) =>
    match rd.rest, rd.late with
    | _ :: _, _ => .error "Unmatched ) or \\)"
    | [], some (ws, e) => .ok (ws, some e, r)
    | [], none => .ok (rd.warnings, none, r)

/-- Reads a whole pattern in a syntax, or the message of why it is not one. -/
def parse (syn : RegexSyntax) (pattern : List UInt8) : Except String Regex :=
  match parseNoting syn pattern with
  | .error e => .error e
  | .ok (_, some e, _) => .error e
  | .ok (_, none, r) => .ok r

/-- A pattern of plain bytes, as `grep -F` takes it. -/
def literal (bs : List UInt8) : Regex :=
  bs.foldl (fun acc b => match acc with
    | .empty => .byte b
    | a => .cat a (.byte b)) .empty

end Regex

end Timebox
