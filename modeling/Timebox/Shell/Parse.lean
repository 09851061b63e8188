import Timebox.Shell.Script
import Timebox.Text.Raw

/-! # Reading shell scripts

`Parse.next` reads the next complete command of a script: the commands up to the end of
its line (or further, while a compound command or a quote is open). A shell runs each
complete command before it reads the next, so an error late in a script leaves the
commands before it run.

Words are read as the shell reads them: blanks and the operator characters `;&|()<>` end
them outside quotes; single quotes keep everything; double quotes keep everything but
`$`, backquotes and the backslash before `$`, a backquote, `"`, `\` or a newline; a
backslash outside quotes keeps the next character (and drops a newline). `$name`, `${…}`,
`$(…)`, backquotes and `$((…))` become parts of their own. A `#` at the start of a word
begins a comment. Reserved words (`if`, `then`, `do`, …) count only where a command may
start. A here-document's body is read from the line after its operator.

Errors carry the line where they were found and read as the shell's: `Syntax error:
Unterminated quoted string`, `Syntax error: "fi" unexpected`, `Syntax error: end of file
unexpected (expecting "done")`.
-/

namespace Timebox

namespace Shell

/-- An error of reading a script: the line and the message. -/
structure ParseError where
  line : Nat
  msg : String
deriving Repr, Inhabited

/-- Where the reading of a script stands: the characters, the place, the line, and the
bodies of here-documents still to skip (from where to where). -/
structure Src where
  chars : Array Char
  pos : Nat := 0
  line : Nat := 1
  skips : List (Nat × Nat) := []
  /-- Whether the script is read as bash reads it. -/
  bash : Bool := false
deriving Inhabited

/-- A token of a script. -/
inductive Token where
  | word (w : Word)
  /-- A descriptor number right before a redirection operator. -/
  | ioNumber (n : Nat)
  | op (s : String)
  | newline
  | eof
deriving Repr, Inhabited

namespace Src

/-- The character at the place, if any. -/
def peek (s : Src) : Option Char := s.chars[s.pos]?

/-- The character after the place, if any. -/
def peek2 (s : Src) : Option Char := s.chars[s.pos + 1]?

/-- The source a character further, counting lines, and jumping over the body of a
here-document that starts after a newline. -/
def bump (s : Src) : Src :=
  match s.peek with
  | some '\n' =>
    let p := s.pos + 1
    match s.skips.find? (·.1 = p) with
    | some (_, e) =>
      let skipped := ((s.chars.toList.drop p).take (e - p)).count '\n'
      { s with pos := e, line := s.line + 1 + skipped, skips := s.skips.filter (·.1 ≠ p) }
    | none => { s with pos := p, line := s.line + 1 }
  | some _ => { s with pos := s.pos + 1 }
  | none => s

/-- The error at the current line. -/
def fail {α : Type} (s : Src) (msg : String) : Except ParseError α := .error ⟨s.line, msg⟩

end Src

/-- Whether a character ends a word outside quotes. -/
def isMeta (c : Char) : Bool :=
  c = ' ' || c = '\t' || c = '\n' || c = ';' || c = '&' || c = '|' || c = '(' || c = ')' ||
  c = '<' || c = '>'

/-- Whether a character may start a name. -/
def isNameStart (c : Char) : Bool := c.isAlpha || c = '_'

/-- Whether a character may continue a name. -/
def isNameChar (c : Char) : Bool := c.isAlphanum || c = '_'

/-- Whether a text is a name. -/
def isName (s : String) : Bool :=
  match s.toList with
  | c :: cs => isNameStart c && cs.all isNameChar
  | [] => false

/-- Whether a character is a special parameter. -/
def isSpecialParam (c : Char) : Bool :=
  c = '@' || c = '*' || c = '#' || c = '?' || c = '-' || c = '$' || c = '!' || c.isDigit

/-- A word with a literal character added, merged into a last literal part of the same
quoting. -/
def addChar (w : Word) (c : Char) (quoted : Bool) : Word :=
  match w.getLast? with
  | some (.lit s q) => if q = quoted then w.dropLast ++ [.lit (s.push c) q] else w ++ [.lit (String.singleton c) quoted]
  | _ => w ++ [.lit (String.singleton c) quoted]

/-- Reads the text of a `$(…)` up to its closing parenthesis, skipping quotes: the text and
the source after the parenthesis. -/
def readParenBody : Nat → Src → Nat → String → Except ParseError (String × Src)
  | 0, s, _, _ => s.fail "Syntax error: Missing ')'"
  | fuel + 1, s, depth, acc =>
    match s.peek with
    | none => s.fail "Syntax error: end of file unexpected (expecting \")\")"
    | some c =>
      if c = ')' then
        if depth = 0 then .ok (acc, s.bump) else readParenBody fuel s.bump (depth - 1) (acc.push c)
      else if c = '(' then readParenBody fuel s.bump (depth + 1) (acc.push c)
      else if c = '\\' then
        match s.peek2 with
        | some d => readParenBody fuel s.bump.bump depth ((acc.push c).push d)
        | none => readParenBody fuel s.bump depth (acc.push c)
      else if c.toNat = 39 then
        let rec quote : Nat → Src → String → Except ParseError (String × Src)
          | 0, s, _ => s.fail "Syntax error: Unterminated quoted string"
          | f + 1, s, a =>
            match s.peek with
            | none => s.fail "Syntax error: Unterminated quoted string"
            | some d => if d.toNat = 39 then .ok (a.push d, s.bump) else quote f s.bump (a.push d)
        match quote fuel s.bump (acc.push c) with
        | .ok (a, s) => readParenBody fuel s depth a
        | .error e => .error e
      else if c = '"' then
        let rec dquote : Nat → Src → String → Except ParseError (String × Src)
          | 0, s, _ => s.fail "Syntax error: Unterminated quoted string"
          | f + 1, s, a =>
            match s.peek with
            | none => s.fail "Syntax error: Unterminated quoted string"
            | some d =>
              if d = '"' then .ok (a.push d, s.bump)
              else if d = '\\' then
                match s.peek2 with
                | some e => dquote f s.bump.bump ((a.push d).push e)
                | none => dquote f s.bump (a.push d)
              else dquote f s.bump (a.push d)
        match dquote fuel s.bump (acc.push c) with
        | .ok (a, s) => readParenBody fuel s depth a
        | .error e => .error e
      else readParenBody fuel s.bump depth (acc.push c)

/-- Reads the text of `$((…))` up to the closing `))`. -/
def readArithBody : Nat → Src → Nat → String → Except ParseError (String × Src)
  | 0, s, _, _ => s.fail "Syntax error: Missing '))'"
  | fuel + 1, s, depth, acc =>
    match s.peek with
    | none => s.fail "Syntax error: Missing '))'"
    | some c =>
      if c = ')' then
        if depth = 0 then
          if s.peek2 = some ')' then .ok (acc, s.bump.bump) else s.fail "Syntax error: Missing '))'"
        else readArithBody fuel s.bump (depth - 1) (acc.push c)
      else if c = '(' then readArithBody fuel s.bump (depth + 1) (acc.push c)
      else readArithBody fuel s.bump depth (acc.push c)

/-- Reads a backquoted command up to its closing backquote: a backslash before `$`, a
backquote or a backslash stands for that character (and, inside double quotes, before
`"`). -/
def readBackquote : Nat → Src → Bool → String → Except ParseError (String × Src)
  | 0, s, _, _ => s.fail "Syntax error: EOF in backquote substitution"
  | fuel + 1, s, inDouble, acc =>
    match s.peek with
    | none => s.fail "Syntax error: EOF in backquote substitution"
    | some c =>
      if c.toNat = 96 then .ok (acc, s.bump)
      else if c = '\\' then
        match s.peek2 with
        | some d =>
          if d = '$' ∨ d.toNat = 96 ∨ d = '\\' ∨ (inDouble ∧ d = '"') then readBackquote fuel s.bump.bump inDouble (acc.push d)
          else if d = '\n' then readBackquote fuel s.bump.bump inDouble acc
          else readBackquote fuel s.bump.bump inDouble ((acc.push c).push d)
        | none => readBackquote fuel s.bump inDouble (acc.push c)
      else readBackquote fuel s.bump inDouble (acc.push c)

/-- A name at the front of the source: its text and the source after it. -/
def readName : Nat → Src → String → String × Src
  | 0, s, acc => (acc, s)
  | fuel + 1, s, acc =>
    match s.peek with
    | some c => if isNameChar c then readName fuel s.bump (acc.push c) else (acc, s)
    | none => (acc, s)

/-- Reads a single-quoted string after its opening quote. -/
def readSingle : Nat → Src → Word → Except ParseError (Word × Src)
  | 0, s, _ => s.fail "Syntax error: Unterminated quoted string"
  | fuel + 1, s, acc =>
    match s.peek with
    | none => s.fail "Syntax error: Unterminated quoted string"
    | some c =>
      if c.toNat = 39 then
        let acc := if acc.isEmpty then [.lit "" true] else acc
        .ok (acc, s.bump)
      else readSingle fuel s.bump (addChar acc c true)

/-- The bytes of a `$'…'` escape after its backslash, and the characters after it: the
letters of C, `\e`, `\'`, `\"`, `\?`, one to three octal digits, `\x` and one or two
hexadecimal digits, `\u` and `\U` and up to four or eight for a character, `\c` and a
letter for a control character; any other backslash stays. -/
def ansiEscape (cs : List Char) : List UInt8 × List Char :=
  let hexDigit (c : Char) : Option Nat :=
    if c.isDigit then some (c.toNat - 48)
    else if 'a' ≤ c ∧ c ≤ 'f' then some (c.toNat - 87)
    else if 'A' ≤ c ∧ c ≤ 'F' then some (c.toNat - 55)
    else none
  let rec hexRun : Nat → List Char → Nat → Nat → Nat × Nat × List Char
    | 0, cs, v, k => (v, k, cs)
    | _, [], v, k => (v, k, [])
    | n + 1, c :: cs, v, k =>
      match hexDigit c with
      | some d => hexRun n cs (v * 16 + d) (k + 1)
      | none => (v, k, c :: cs)
  let rec octRun : Nat → List Char → Nat → Nat × List Char
    | 0, cs, v => (v, cs)
    | _, [], v => (v, [])
    | n + 1, c :: cs, v => if '0' ≤ c ∧ c ≤ '7' then octRun n cs (v * 8 + (c.toNat - 48)) else (v, c :: cs)
  match cs with
  | [] => ([0x5C], [])
  | c :: rest =>
    let simple : List (Char × UInt8) :=
      [('a', 7), ('b', 8), ('e', 27), ('E', 27), ('f', 12), ('n', 10), ('r', 13), ('t', 9),
       ('v', 11), ('\\', 0x5C), ('"', 0x22), ('?', 0x3F)]
    match simple.lookup c with
    | some b => ([b], rest)
    | none =>
      if c.toNat = 39 then ([0x27], rest)
      else if '0' ≤ c ∧ c ≤ '7' then
        let (v, rest) := octRun 3 (c :: rest) 0
        ([(v % 256).toUInt8], rest)
      else if c = 'x' then
        let (v, k, r) := hexRun 2 rest 0 0
        if k = 0 then ([0x5C, 0x78], rest) else ([v.toUInt8], r)
      else if c = 'u' ∨ c = 'U' then
        let (v, k, r) := hexRun (if c = 'u' then 4 else 8) rest 0 0
        if k = 0 then (Raw.toBytes (String.ofList ['\\', c]), rest)
        else (Raw.toBytes (String.singleton (Char.ofNat v)), r)
      else if c = 'c' then
        match rest with
        | d :: r => ([((d.toUpper.toNat) % 32).toUInt8], r)
        | [] => ([0x5C, 0x63], [])
      else (Raw.toBytes (String.ofList ['\\', c]), rest)

/-- Reads a `$'…'` string after its opening quote: its bytes as text, and the source after
the closing quote. -/
def readAnsi : Nat → Src → List UInt8 → Except ParseError (String × Src)
  | 0, s, _ => s.fail "Syntax error: Unterminated quoted string"
  | fuel + 1, s, acc =>
    match s.peek with
    | none => s.fail "Syntax error: Unterminated quoted string"
    | some c =>
      if c.toNat = 39 then .ok (Raw.ofBytes acc, s.bump)
      else if c = '\\' then
        let rest := (s.chars.toList.drop (s.pos + 1))
        let (bytes, after) := ansiEscape rest
        let used := rest.length - after.length
        readAnsi fuel ((List.range (used + 1)).foldl (fun s _ => s.bump) s) (acc ++ bytes)
      else readAnsi fuel s.bump (acc ++ Raw.toBytes (String.singleton c))

/-- The text up to the `}` that closes a `${…}`, braces and brackets inside counted, and the
source after it. -/
def readRawBrace : Nat → Src → Nat → String → Except ParseError (String × Src)
  | 0, s, _, _ => s.fail "Syntax error: Missing '\x7d'"
  | fuel + 1, s, depth, acc =>
    match s.peek with
    | none => s.fail "Syntax error: Missing '\x7d'"
    | some c =>
      if c = '}' then
        if depth = 0 then .ok (acc, s.bump) else readRawBrace fuel s.bump (depth - 1) (acc.push c)
      else if c = '{' then readRawBrace fuel s.bump (depth + 1) (acc.push c)
      else readRawBrace fuel s.bump depth (acc.push c)

/-- The text of a subscript after its `[`, up to the matching `]`, and the source after it. -/
def readSubscript : Nat → Src → Nat → String → Option (String × Src)
  | 0, _, _, _ => none
  | fuel + 1, s, depth, acc =>
    match s.peek with
    | none => none
    | some c =>
      if c = ']' then
        if depth = 0 then some (acc, s.bump) else readSubscript fuel s.bump (depth - 1) (acc.push c)
      else if c = '[' then readSubscript fuel s.bump (depth + 1) (acc.push c)
      else readSubscript fuel s.bump depth (acc.push c)

/-- A slice `offset` or `offset:length` split at its first colon outside brackets. -/
def splitSlice (t : String) : String × Option String :=
  let cs := t.toList
  let rec go : List Char → Nat → List Char → String × Option String
    | [], _, acc => (String.ofList acc.reverse, none)
    | c :: rest, depth, acc =>
      if c = ':' ∧ depth = 0 then (String.ofList acc.reverse, some (String.ofList rest))
      else if c = '(' ∨ c = '[' ∨ c = '{' then go rest (depth + 1) (c :: acc)
      else if c = ')' ∨ c = ']' ∨ c = '}' then go rest (depth - 1) (c :: acc)
      else go rest depth (c :: acc)
  go cs 0 []

mutual

/-- Reads an expansion after a `$`: the parts it gives (a literal `$` when nothing follows
that expands) and the source after it. -/
def readDollar (fuel : Nat) (s : Src) (quoted : Bool) : Except ParseError (Word × Src) :=
  match fuel with
  | 0 => s.fail "Syntax error: expansion too deep"
  | fuel + 1 =>
    match s.peek with
    | some '(' =>
      if s.peek2 = some '(' then
        match readArithBody (s.chars.size + 1) s.bump.bump 0 "" with
        | .ok (text, s) => .ok ([.arith text quoted], s)
        | .error e => .error e
      else
        match readParenBody (s.chars.size + 1) s.bump 0 "" with
        | .ok (text, s) => .ok ([.command text quoted], s)
        | .error e => .error e
    | some '{' => readBraced fuel s.bump quoted
    | some c =>
      if c.toNat = 39 ∧ s.bash ∧ !quoted then
        match readAnsi (s.chars.size + 1) s.bump [] with
        | .ok (text, s) => .ok ([.lit text true], s)
        | .error e => .error e
      else if isNameStart c then
        let (name, s) := readName s.chars.size s ""
        .ok ([.param name .plain [] quoted], s)
      else if isSpecialParam c then .ok ([.param (String.singleton c) .plain [] quoted], s.bump)
      else .ok ([.lit "$" quoted], s)
    | none => .ok ([.lit "$" quoted], s)

/-- Reads a `${…}` after its brace. -/
def readBraced (fuel : Nat) (s : Src) (quoted : Bool) : Except ParseError (Word × Src) :=
  match fuel with
  | 0 => s.fail "Syntax error: expansion too deep"
  | fuel + 1 =>
    let start := s
    -- what is not an expansion fails only when it is expanded, with its text
    let bad : Except ParseError (Word × Src) :=
      match readRawBrace (start.chars.size + 1) start 0 "" with
      | .ok (text, s) => .ok ([.param ("$\x7b" ++ text ++ "\x7d") .bad [] quoted], s)
      | .error e => .error e
    -- bash: `${!name}` expands the parameter that `name` names
    let (bang, s) :=
      if s.bash ∧ s.peek = some '!' ∧ ((s.peek2.map isNameStart).getD false ∨ (s.peek2.map Char.isDigit).getD false) then
        (true, s.bump)
      else (false, s)
    -- `${#name}` is a length; `${#}` and `${#-…}` are the count of parameters
    let (isLength, s) :=
      if s.peek = some '#' ∧ s.peek2 ≠ some '}' ∧ s.peek2 ≠ some '-' ∧ s.peek2 ≠ some '=' ∧
          s.peek2 ≠ some '+' ∧ s.peek2 ≠ some '?' ∧ s.peek2.isSome then (true, s.bump)
      else (false, s)
    let (name, s) := match s.peek with
      | some c =>
        if isNameStart c then readName s.chars.size s ""
        else if c.isDigit then
          let ds := ((s.chars.toList.drop s.pos).takeWhile Char.isDigit)
          (String.ofList ds, ds.foldl (fun s _ => s.bump) s)
        else if isSpecialParam c then (String.singleton c, s.bump)
        else ("", s)
      | none => ("", s)
    -- bash: an element of an array, `name[subscript]`
    let (name, s) :=
      if s.bash ∧ s.peek = some '[' ∧ isName name then
        match readSubscript (s.chars.size + 1) s.bump 0 "" with
        | some (sub, s') => (name ++ "[" ++ sub ++ "]", s')
        | none => (name, s)
      else (name, s)
    let name := if bang ∧ !name.isEmpty then "!" ++ name else name
    if name.isEmpty then bad
    else if isLength then
      if s.peek = some '}' then .ok ([.param name .length [] quoted], s.bump)
      else bad
    else
      let (op, s) : Option ParamOp × Src :=
        match s.peek, s.peek2 with
        | some '}', _ => (some .plain, s)
        | some ':', some '-' => (some (.useDefault true), s.bump.bump)
        | some ':', some '=' => (some (.assignDefault true), s.bump.bump)
        | some ':', some '+' => (some (.useAlternative true), s.bump.bump)
        | some ':', some '?' => (some (.errorIfUnset true), s.bump.bump)
        | some '-', _ => (some (.useDefault false), s.bump)
        | some '=', _ => (some (.assignDefault false), s.bump)
        | some '+', _ => (some (.useAlternative false), s.bump)
        | some '?', _ => (some (.errorIfUnset false), s.bump)
        | some '%', some '%' => (some (.dropSuffix true), s.bump.bump)
        | some '%', _ => (some (.dropSuffix false), s.bump)
        | some '#', some '#' => (some (.dropPrefix true), s.bump.bump)
        | some '#', _ => (some (.dropPrefix false), s.bump)
        | some '^', some '^' => if s.bash then (some (.changeCase true true), s.bump.bump) else (none, s)
        | some '^', _ => if s.bash then (some (.changeCase true false), s.bump) else (none, s)
        | some ',', some ',' => if s.bash then (some (.changeCase false true), s.bump.bump) else (none, s)
        | some ',', _ => if s.bash then (some (.changeCase false false), s.bump) else (none, s)
        | some '~', some '~' => if s.bash then (some (.toggleCase true), s.bump.bump) else (none, s)
        | some '~', _ => if s.bash then (some (.toggleCase false), s.bump) else (none, s)
        | some ':', _ => if s.bash then (some (.slice "" none), s.bump) else (none, s)
        | some '/', some '/' => if s.bash then (some (.replace .every []), s.bump.bump) else (none, s)
        | some '/', some '#' => if s.bash then (some (.replace .atStart []), s.bump.bump) else (none, s)
        | some '/', some '%' => if s.bash then (some (.replace .atEnd []), s.bump.bump) else (none, s)
        | some '/', _ => if s.bash then (some (.replace .first []), s.bump) else (none, s)
        | _, _ => (none, s)
      match op with
      | none => bad
      | some .plain => .ok ([.param name .plain [] quoted], s.bump)
      | some (.slice _ _) =>
        match readRawBrace (s.chars.size + 1) s 0 "" with
        | .ok (text, s) =>
          let (offset, length) := splitSlice text
          .ok ([.param name (.slice offset length) [] quoted], s)
        | .error e => .error e
      | some (.replace mode _) =>
        match readArgWord fuel s quoted true [] with
        | .ok (pat, s, true) =>
          match readArgWord fuel s quoted false [] with
          | .ok (rep, s, _) => .ok ([.param name (.replace mode rep) pat quoted], s)
          | .error e => .error e
        | .ok (pat, s, false) => .ok ([.param name (.replace mode []) pat quoted], s)
        | .error e => .error e
      | some op =>
        match readArgWord fuel s quoted false [] with
        | .ok (arg, s, _) => .ok ([.param name op arg quoted], s)
        | .error e => .error e

/-- Reads the word of a `${name op word}` up to its closing brace, or, with `slash`, up to
a `/` outside quotes; whether a `/` ended it. -/
def readArgWord (fuel : Nat) (s : Src) (quoted : Bool) (slash : Bool) (acc : Word) :
    Except ParseError (Word × Src × Bool) :=
  match fuel with
  | 0 => s.fail "Syntax error: Missing '\x7d'"
  | fuel + 1 =>
    match s.peek with
    | none => s.fail "Syntax error: Missing '\x7d'"
    | some '}' => .ok (acc, s.bump, false)
    | some '/' => if slash then .ok (acc, s.bump, true) else readArgWord fuel s.bump quoted slash (addChar acc '/' quoted)
    | some '$' =>
      match readDollar fuel s.bump quoted with
      | .ok (ps, s) => readArgWord fuel s quoted slash (acc ++ ps)
      | .error e => .error e
    | some '"' =>
      if quoted then readArgWord fuel s.bump quoted slash acc
      else
        match readDouble fuel s.bump acc with
        | .ok (w, s) => readArgWord fuel s quoted slash w
        | .error e => .error e
    | some c =>
      if c.toNat = 39 ∧ !quoted then
        match readSingle (s.chars.size + 1) s.bump acc with
        | .ok (w, s) => readArgWord fuel s quoted slash w
        | .error e => .error e
      else if c = '\\' then
        match s.peek2 with
        | some d => readArgWord fuel s.bump.bump quoted slash (addChar acc d true)
        | none => readArgWord fuel s.bump quoted slash (addChar acc c quoted)
      else if c.toNat = 96 then
        match readBackquote (s.chars.size + 1) s.bump quoted "" with
        | .ok (text, s) => readArgWord fuel s quoted slash (acc ++ [.command text quoted])
        | .error e => .error e
      else readArgWord fuel s.bump quoted slash (addChar acc c quoted)

/-- Reads a double-quoted string after its opening quote, adding its parts to a word. -/
def readDouble (fuel : Nat) (s : Src) (acc : Word) : Except ParseError (Word × Src) :=
  match fuel with
  | 0 => s.fail "Syntax error: Unterminated quoted string"
  | fuel + 1 =>
    match s.peek with
    | none => s.fail "Syntax error: Unterminated quoted string"
    | some '"' =>
      -- an empty pair of quotes still makes a word
      let acc := if acc.isEmpty then [.lit "" true] else acc
      .ok (acc, s.bump)
    | some '$' =>
      match readDollar fuel s.bump true with
      | .ok (ps, s) => readDouble fuel s (acc ++ ps)
      | .error e => .error e
    | some '\\' =>
      match s.peek2 with
      | some d =>
        if d = '$' ∨ d.toNat = 96 ∨ d = '"' ∨ d = '\\' then readDouble fuel s.bump.bump (addChar acc d true)
        else if d = '\n' then readDouble fuel s.bump.bump acc
        else readDouble fuel s.bump.bump (addChar (addChar acc '\\' true) d true)
      | none => readDouble fuel s.bump (addChar acc '\\' true)
    | some c =>
      if c.toNat = 96 then
        match readBackquote (s.chars.size + 1) s.bump true "" with
        | .ok (text, s) => readDouble fuel s (acc ++ [.command text true])
        | .error e => .error e
      else readDouble fuel s.bump (addChar acc c true)

end

/-- Reads the rest of a word outside quotes, up to a character that ends it; the word of a
regular expression (`regex`) runs on over brackets, `|`, `<` and `>`. -/
def readWordRest (regex : Bool) : Nat → Src → Word → Except ParseError (Word × Src)
  | 0, s, _ => s.fail "Syntax error: word too long"
  | fuel + 1, s, acc =>
    match s.peek with
    | none => .ok (acc, s)
    | some c =>
      if (if regex then c = ' ' ∨ c = '\t' ∨ c = '\n' ∨ c = ';' ∨ c = '&' else isMeta c) then .ok (acc, s)
      else if c = '\\' then
        match s.peek2 with
        | some '\n' => readWordRest regex fuel s.bump.bump acc
        | some d => readWordRest regex fuel s.bump.bump (addChar acc d true)
        | none => readWordRest regex fuel s.bump (addChar acc c false)
      else if c.toNat = 39 then
        match readSingle (s.chars.size + 1) s.bump acc with
        | .ok (w, s) => readWordRest regex fuel s w
        | .error e => .error e
      else if c = '"' then
        match readDouble (s.chars.size + 1) s.bump acc with
        | .ok (w, s) => readWordRest regex fuel s w
        | .error e => .error e
      else if c = '$' then
        match readDollar (s.chars.size + 1) s.bump false with
        | .ok (ps, s) => readWordRest regex fuel s (acc ++ ps)
        | .error e => .error e
      else if c.toNat = 96 then
        match readBackquote (s.chars.size + 1) s.bump false "" with
        | .ok (text, s) => readWordRest regex fuel s (acc ++ [.command text false])
        | .error e => .error e
      else readWordRest regex fuel s.bump (addChar acc c false)

/-- A `~` at the start of a word: the user name after it, up to a `/` or the end of its
literal text. -/
def splitTilde (w : Word) : Word :=
  match w with
  | .lit s false :: rest =>
    if s.startsWith "~" then
      let body := (s.drop 1).toString
      let user := body.takeWhile (· ≠ '/') |>.toString
      let after := (body.drop user.length).toString
      if !after.isEmpty ∨ rest.isEmpty then
        .tilde user :: (if after.isEmpty then rest else .lit after false :: rest)
      else w
    else w
  | _ => w

/-- Skips blanks, escaped newlines and a comment. -/
def skipBlanks : Nat → Src → Src
  | 0, s => s
  | fuel + 1, s =>
    match s.peek with
    | some ' ' | some '\t' => skipBlanks fuel s.bump
    | some '\\' => if s.peek2 = some '\n' then skipBlanks fuel s.bump.bump else s
    | some '#' =>
      let rec toEnd : Nat → Src → Src
        | 0, s => s
        | f + 1, s => match s.peek with
          | some '\n' | none => s
          | some _ => toEnd f s.bump
      toEnd s.chars.size s
    | _ => s

/-- The operators, longest first. -/
def operators : List String :=
  ["<<-", "&&", "||", ";;", "<<", ">>", "<&", ">&", "<>", ">|", ";", "&", "|", "(", ")", "<", ">"]

/-- The operators of bash, longest first: those of the POSIX shell, the here-string `<<<`,
and `&>`, `&>>` and `|&`, which join the standard error to the standard output. -/
def bashOperators : List String :=
  ["<<<", "&>>", "<<-", "&&", "||", ";;", "<<", ">>", "<&", ">&", "&>", "|&", "<>", ">|", ";", "&", "|",
   "(", ")", "<", ">"]

/-- Reads the next token. -/
def readToken (s : Src) : Except ParseError (Token × Src) :=
  let s := skipBlanks (s.chars.size + 1) s
  match s.peek with
  | none => .ok (.eof, s)
  | some '\n' => .ok (.newline, s.bump)
  | some _ =>
    let rest := (s.chars.toList.drop s.pos).take 3
    match (if s.bash then bashOperators else operators).find? (fun o => o.toList.isPrefixOf rest) with
    | some o => .ok (.op o, o.toList.foldl (fun s _ => s.bump) s)
    | none =>
      match readWordRest false (s.chars.size + 1) s [] with
      | .ok (w, s2) =>
        let digits := match w with
          | [.lit t false] => if t.all Char.isDigit ∧ !t.isEmpty then some t.toNat! else none
          | _ => none
        match digits, s2.peek with
        | some n, some '<' => .ok (.ioNumber n, s2)
        | some n, some '>' => .ok (.ioNumber n, s2)
        | _, _ => .ok (.word (splitTilde w), s2)
      | .error e => .error e

/-- The text of a token in a message. -/
def Token.text : Token → String
  | .word w => match w.plainText? with
    | some t => t
    | none => "word"
  | .ioNumber n => toString n
  | .op o => o
  | .newline => "newline"
  | .eof => "end of file"

/-- The error of an unexpected token, and what was expected instead. -/
def unexpected {α : Type} (s : Src) (t : Token) (expecting : Option String) : Except ParseError α :=
  let what := match t with
    | .newline => "newline"
    | .eof => "end of file"
    | t => "\"" ++ t.text ++ "\""
  s.fail ("Syntax error: " ++ what ++ " unexpected" ++ match expecting with
    | some e => " (expecting \"" ++ e ++ "\")"
    | none => "")

/-- The reserved words. -/
def reserved : List String :=
  ["if", "then", "else", "elif", "fi", "do", "done", "case", "esac", "while", "until", "for",
   "in", "\x7b", "\x7d", "!"]

/-- Whether a token is the given reserved word. -/
def Token.isWord (t : Token) (r : String) : Bool :=
  match t with
  | .word w => w.plainText? = some r
  | _ => false

/-- Whether a token ends a list: a reserved word that closes a compound command, `)`, `;;`
or the end. -/
def Token.endsList (t : Token) : Bool :=
  match t with
  | .word w => match w.plainText? with
    | some r => ["then", "else", "elif", "fi", "do", "done", "esac", "\x7d"].contains r
    | none => false
  | .op o => o = ")" || o = ";;"
  | .eof => true
  | _ => false

/-- Reads the body of a here-document from the line after `from`: the lines up to the
delimiter, tabs stripped with `<<-`; the body and where it ends. -/
def hereBody (s : Src) (delim : String) (stripTabs : Bool) : String × Nat × Nat :=
  let cs := s.chars.toList
  let lineEnd := ((cs.drop s.pos).findIdx? (· = '\n')).map (· + s.pos)
  match lineEnd with
  | none => ("", cs.length, cs.length)
  | some e =>
    let start := e + 1
    let lines := (String.ofList (cs.drop start)).splitOn "\n"
    let rec collect : List String → Nat → String → String × Nat
      | [], used, acc => (acc, used)
      | l :: ls, used, acc =>
        let l' := if stripTabs then String.ofList (l.toList.dropWhile (· = '\t')) else l
        if l' = delim then (acc, used + l.length + (if ls.isEmpty then 0 else 1))
        else collect ls (used + l.length + 1) (acc ++ l' ++ "\n")
    let (body, used) := collect lines 0 ""
    (body, start, min cs.length (start + used))

/-- The parts of a here-document's body: with `expand`, as inside double quotes but with
quotes kept; else all literal. -/
def hereParts (body : String) (expand : Bool) : Except ParseError Word :=
  if !expand then .ok [.lit body true]
  else
    let src : Src := { chars := body.toList.toArray }
    let rec go : Nat → Src → Word → Except ParseError Word
      | 0, _, acc => .ok acc
      | fuel + 1, s, acc =>
        match s.peek with
        | none => .ok acc
        | some '$' =>
          match readDollar (s.chars.size + 1) s.bump true with
          | .ok (ps, s) => go fuel s (acc ++ ps)
          | .error e => .error e
        | some '\\' =>
          match s.peek2 with
          | some d =>
            if d = '$' ∨ d.toNat = 96 ∨ d = '\\' then go fuel s.bump.bump (addChar acc d true)
            else if d = '\n' then go fuel s.bump.bump acc
            else go fuel s.bump.bump (addChar (addChar acc '\\' true) d true)
          | none => go fuel s.bump (addChar acc '\\' true)
        | some c =>
          if c.toNat = 96 then
            match readBackquote (s.chars.size + 1) s.bump true "" with
            | .ok (text, s) => go fuel s (acc ++ [.command text true])
            | .error e => .error e
          else go fuel s.bump (addChar acc c true)
    go (body.length + 1) src []

/-- Reads a redirection after its operator (the descriptor given or its default). -/
def readRedir (s : Src) (fd : Option Nat) (o : String) : Except ParseError (Redir × Src) := do
  let (t, s) ← readToken s
  match t with
  | .word w =>
    let dflt := if o.startsWith "<" then 0 else 1
    let fd := fd.getD dflt
    if o = "<<" ∨ o = "<<-" then
      let delim := String.join (w.map fun
        | .lit t _ => t
        | .param n _ _ _ => "$" ++ n
        | .command t _ => "$(" ++ t ++ ")"
        | .arith t _ => "$((" ++ t ++ "))"
        | .tilde u => "~" ++ u)
      let expand := !w.hasQuotes
      let (body, start, stop) := hereBody s delim (o = "<<-")
      let parts ← hereParts body expand
      pure (⟨fd, .hereDoc expand, parts⟩, { s with skips := s.skips ++ [(start, stop)] })
    else
      let op : RedirOp :=
        if o = "<" then .input else if o = ">" ∨ o = ">|" then .output else if o = ">>" then .append
        else if o = "<>" then .readWrite else if o = "<<<" then .hereString
        else if o = "&>" then .outputBoth false else if o = "&>>" then .outputBoth true else .duplicate
      let fd := if o = "<<<" then (if fd = 1 then 0 else fd) else fd
      pure (⟨fd, op, w⟩, s)
  | t => unexpected s t none

/-- Whether an operator is a redirection. -/
def isRedirOp (o : String) : Bool := ["<", ">", ">>", "<&", ">&", "<>", ">|", "<<", "<<-", "<<<", "&>", "&>>"].contains o

/-- The text of parts as they were written, for a subscript. -/
def Word.source (w : Word) : String :=
  String.join (w.map fun
    | .lit t _ => t
    | .param n _ _ _ => "$\x7b" ++ n ++ "\x7d"
    | .command t _ => "$(" ++ t ++ ")"
    | .arith t _ => "$((" ++ t ++ "))"
    | .tilde u => "~" ++ u)

/-- The name of an assignment, `name`, `name+`, `name[sub]` or `name[sub]+` (the last three
in bash): the name (with its subscript) and whether it adds. -/
def assignTarget? (bash : Bool) (lhs : String) : Option (String × Bool) :=
  let (base, append) := if bash ∧ lhs.endsWith "+" then (String.ofList lhs.toList.dropLast, true) else (lhs, false)
  if isName base then some (base, append)
  else if bash then
    match base.splitOn "[" with
    | n :: _ => if isName n ∧ base.endsWith "]" ∧ base.length > n.length + 2 then some (base, append) else none
    | [] => none
  else none

/-- An assignment word `name=value`: the name and the value's parts. In bash the name may
have a subscript, whose text may come from several parts, and may end in `+`. -/
def assignment? (bash : Bool) (w : Word) : Option Assign :=
  match w with
  | .lit s false :: rest =>
    match s.splitOn "=" with
    | lhs :: after =>
      if after.isEmpty then
        -- bash: `name[$i]=value`, the subscript running over later parts
        if bash ∧ lhs.contains '[' ∧ isName ((lhs.splitOn "[").headD "") then
          match rest.findIdx? (fun | .lit t false => t.contains '=' | _ => false) with
          | some k =>
            match rest[k]? with
            | some (.lit t _) =>
              let pieces := t.splitOn "="
              let before := pieces.headD ""
              let value := "=".intercalate (pieces.drop 1)
              let (before, append) :=
                if before.endsWith "+" then (String.ofList before.toList.dropLast, true) else (before, false)
              if before.endsWith "]" then
                some { name := lhs ++ Word.source (rest.take k) ++ before,
                       value := (if value.isEmpty then [] else [.lit value false]) ++ rest.drop (k + 1), append }
              else none
            | _ => none
          | none => none
        else none
      else
        match assignTarget? bash lhs with
        | some (name, append) =>
          let value := "=".intercalate after
          some { name, value := (if value.isEmpty then [] else [.lit value false]) ++ rest, append }
        | none => none
    | [] => none
  | _ => none

/-- Skips newlines. -/
def skipNewlines : Nat → Src → Except ParseError Src
  | 0, s => .ok s
  | fuel + 1, s => do
    let (t, s2) ← readToken s
    match t with
    | .newline => skipNewlines fuel s2
    | _ => pure s

/-- Expects a reserved word, or fails naming it. -/
def expectWord (s : Src) (r : String) : Except ParseError Src := do
  let (t, s2) ← readToken s
  if t.isWord r then pure s2 else unexpected s t (some r)

/-- Reads the words of a `for … in` up to `;` or a newline. -/
def readForWords : Nat → Src → List Word → Except ParseError (Option (List Word) × Src)
  | 0, s, acc => .ok (some acc, s)
  | fuel + 1, s, acc => do
    let (t, s2) ← readToken s
    match t with
    | .word w => readForWords fuel s2 (acc ++ [w])
    | .op ";" | .newline => pure (some acc, s2)
    | t => unexpected s t (some "do")

/-- Reads the patterns of a `case` arm, from its first token, up to `)`. -/
def readPatterns : Nat → Src → Token → List Word → Except ParseError (List Word × Src)
  | 0, s, _, acc => .ok (acc, s)
  | fuel + 1, s, t, acc => do
    match t with
    | .word w =>
      let (t2, s2) ← readToken s
      match t2 with
      | .op "|" => let (t3, s3) ← readToken s2; readPatterns fuel s3 t3 (acc ++ [w])
      | .op ")" => pure (acc ++ [w], s2)
      | t2 => unexpected s t2 (some ")")
    | t => unexpected s t none

/-- Reads the words of an array value `(…)` after its parenthesis, up to the closing one. -/
def readArrayItems : Nat → Src → List Word → Except ParseError (List Word × Src)
  | 0, s, _ => s.fail "Syntax error: end of file unexpected (expecting \")\")"
  | fuel + 1, s, acc => do
    let (t, s2) ← readToken s
    match t with
    | .word w => readArrayItems fuel s2 (acc ++ [w])
    | .newline => readArrayItems fuel s2 acc
    | .op ")" => pure (acc, s2)
    | t => unexpected s t (some ")")

/-- The commands of bash whose arguments may set arrays, `name=(words)`. -/
def declarationNames : List String := ["declare", "typeset", "local", "readonly", "export"]

/-- The tests of one word in `[[ … ]]`. -/
def condUnaryOps : List String :=
  ["-a", "-b", "-c", "-d", "-e", "-f", "-g", "-h", "-k", "-p", "-r", "-s", "-t", "-u", "-w", "-x",
   "-G", "-L", "-N", "-O", "-S", "-z", "-n", "-o", "-v", "-R"]

/-- The comparisons of two words in `[[ … ]]`. -/
def condBinaryOps : List String :=
  ["==", "=", "!=", "=~", "-eq", "-ne", "-lt", "-le", "-gt", "-ge", "-nt", "-ot", "-ef"]

/-- Reads the word of a regular expression after `=~`. -/
def readRegex (s : Src) : Except ParseError (Word × Src) :=
  let s := skipBlanks (s.chars.size + 1) s
  readWordRest true (s.chars.size + 1) s []

mutual

/-- Reads the `||` alternatives of a `[[ … ]]` expression. -/
def readCondOr (fuel : Nat) (s : Src) : Except ParseError (Cond × Src) :=
  match fuel with
  | 0 => s.fail "Syntax error: nesting too deep"
  | fuel + 1 => do
    let (a, s) ← readCondAnd fuel s
    let (t, s2) ← readToken s
    match t with
    | .op "||" =>
      let s2 ← skipNewlines (s.chars.size + 1) s2
      let (b, s3) ← readCondOr fuel s2
      pure (.or a b, s3)
    | _ => pure (a, s)

/-- Reads the `&&` parts of a `[[ … ]]` expression. -/
def readCondAnd (fuel : Nat) (s : Src) : Except ParseError (Cond × Src) :=
  match fuel with
  | 0 => s.fail "Syntax error: nesting too deep"
  | fuel + 1 => do
    let (a, s) ← readCondNot fuel s
    let (t, s2) ← readToken s
    match t with
    | .op "&&" =>
      let s2 ← skipNewlines (s.chars.size + 1) s2
      let (b, s3) ← readCondAnd fuel s2
      pure (.and a b, s3)
    | _ => pure (a, s)

/-- Reads a negation, a group in parentheses or a test of `[[ … ]]`. -/
def readCondNot (fuel : Nat) (s : Src) : Except ParseError (Cond × Src) :=
  match fuel with
  | 0 => s.fail "Syntax error: nesting too deep"
  | fuel + 1 => do
    let s ← skipNewlines (s.chars.size + 1) s
    let (t, s2) ← readToken s
    if t.isWord "!" then
      let (e, s3) ← readCondNot fuel s2
      pure (.not e, s3)
    else
      match t with
      | .op "(" =>
        let (e, s3) ← readCondOr fuel s2
        let s3 ← skipNewlines (s.chars.size + 1) s3
        let (t4, s4) ← readToken s3
        match t4 with
        | .op ")" => pure (e, s4)
        | t4 => unexpected s3 t4 (some ")")
      | .word w =>
        if t.isWord "]]" then unexpected s t none
        else
          let (t2, s3) ← readToken s2
          let op2 := match t2 with
            | .word v => v.plainText?
            | .op "<" => some "<"
            | .op ">" => some ">"
            | _ => none
          match op2 with
          | some o =>
            if condBinaryOps.contains o ∨ o = "<" ∨ o = ">" then
              if o = "=~" then
                let (r, s4) ← readRegex s3
                pure (.binary o w r, s4)
              else
                let (t3, s4) ← readToken s3
                match t3 with
                | .word r => pure (.binary o w r, s4)
                | t3 => unexpected s3 t3 none
            else if (w.plainText?.map condUnaryOps.contains).getD false ∧ !t2.isWord "]]" then
              match t2 with
              | .word v => pure (.unary (w.plainText?.getD "") v, s3)
              | _ => pure (.word w, s2)
            else pure (.word w, s2)
          | none =>
            match t2 with
            | .word v =>
              if (w.plainText?.map condUnaryOps.contains).getD false then
                pure (.unary (w.plainText?.getD "") v, s3)
              else pure (.word w, s2)
            | _ => pure (.word w, s2)
      | t => unexpected s t none

end

mutual

/-- Reads a list: and-or lists separated by `;`, `&` or (inside compound commands,
`nested`) newlines, up to a token that ends it. -/
def readList (fuel : Nat) (s : Src) (nested : Bool) : Except ParseError (Cmd × Src) :=
  match fuel with
  | 0 => s.fail "Syntax error: nesting too deep"
  | fuel + 1 => do
    let s ← if nested then skipNewlines (s.chars.size + 1) s else pure s
    readItems fuel s nested []

/-- Reads the items of a list after those read so far. -/
def readItems (fuel : Nat) (s : Src) (nested : Bool) (acc : List (Cmd × Bool)) :
    Except ParseError (Cmd × Src) :=
  match fuel with
  | 0 => s.fail "Syntax error: nesting too deep"
  | fuel + 1 => do
    let (t, _) ← readToken s
    if t.endsList || (match t with | .newline => true | _ => false) then
      if acc.isEmpty ∧ !nested then
        match t with
        | .newline | .eof => pure (.sequence [], s)
        | t => unexpected s t none
      else if acc.isEmpty then unexpected s t none
      else pure (.sequence acc, s)
    else
      let (c, s) ← readAndOr fuel s
      let (t, s2) ← readToken s
      match t with
      | .op ";" => readMore fuel s2 nested (acc ++ [(c, false)])
      | .op "&" => readMore fuel s2 nested (acc ++ [(c, true)])
      | .newline =>
        if nested then readMore fuel s2 nested (acc ++ [(c, false)]) else pure (.sequence (acc ++ [(c, false)]), s)
      | t =>
        if t.endsList then pure (.sequence (acc ++ [(c, false)]), s) else unexpected s t none

/-- After a separator: more items, unless the list ends there. -/
def readMore (fuel : Nat) (s : Src) (nested : Bool) (acc : List (Cmd × Bool)) :
    Except ParseError (Cmd × Src) :=
  match fuel with
  | 0 => s.fail "Syntax error: nesting too deep"
  | fuel + 1 => do
    let s ← if nested then skipNewlines (s.chars.size + 1) s else pure s
    let (t, _) ← readToken s
    match t with
    | .newline => if nested then readItems fuel s nested acc else pure (.sequence acc, s)
    | t => if t.endsList then pure (.sequence acc, s) else readItems fuel s nested acc

/-- Reads an and-or list. -/
def readAndOr (fuel : Nat) (s : Src) : Except ParseError (Cmd × Src) :=
  match fuel with
  | 0 => s.fail "Syntax error: nesting too deep"
  | fuel + 1 => do
    let (first, s) ← readPipeline fuel s
    readAndOrRest fuel s first []

/-- Reads the `&&` and `||` parts of an and-or list. -/
def readAndOrRest (fuel : Nat) (s : Src) (first : Cmd) (acc : List (Bool × Cmd)) :
    Except ParseError (Cmd × Src) :=
  match fuel with
  | 0 => s.fail "Syntax error: nesting too deep"
  | fuel + 1 => do
    let (t, s2) ← readToken s
    match t with
    | .op "&&" | .op "||" =>
      let s2 ← skipNewlines (s.chars.size + 1) s2
      let (p, s3) ← readPipeline fuel s2
      readAndOrRest fuel s3 first (acc ++ [(t.text == "&&", p)])
    | _ => pure (if acc.isEmpty then first else .andOr first acc, s)

/-- Reads a pipeline, with a leading `!`. -/
def readPipeline (fuel : Nat) (s : Src) : Except ParseError (Cmd × Src) :=
  match fuel with
  | 0 => s.fail "Syntax error: nesting too deep"
  | fuel + 1 => do
    let (t, s2) ← readToken s
    let (bang, s) := if t.isWord "!" then (true, s2) else (false, s)
    let (c, s) ← readCommand fuel s
    readPipeRest fuel s bang [c]

/-- Reads the `|` parts of a pipeline. -/
def readPipeRest (fuel : Nat) (s : Src) (bang : Bool) (acc : List Cmd) : Except ParseError (Cmd × Src) :=
  match fuel with
  | 0 => s.fail "Syntax error: nesting too deep"
  | fuel + 1 => do
    let (t, s2) ← readToken s
    match t with
    | .op "|" =>
      let s2 ← skipNewlines (s.chars.size + 1) s2
      let (c, s3) ← readCommand fuel s2
      readPipeRest fuel s3 bang (acc ++ [c])
    | _ => pure (if acc.length = 1 ∧ !bang then acc.head! else .pipeline bang acc, s)

/-- Reads the redirections after a compound command. -/
def readRedirs (fuel : Nat) (s : Src) (acc : List Redir) : Except ParseError (List Redir × Src) :=
  match fuel with
  | 0 => .ok (acc, s)
  | fuel + 1 => do
    let (t, s2) ← readToken s
    match t with
    | .ioNumber n =>
      let (t2, s3) ← readToken s2
      match t2 with
      | .op o => let (r, s4) ← readRedir s3 (some n) o; readRedirs fuel s4 (acc ++ [r])
      | t2 => unexpected s3 t2 none
    | .op o =>
      if isRedirOp o then let (r, s3) ← readRedir s2 none o; readRedirs fuel s3 (acc ++ [r])
      else pure (acc, s)
    | _ => pure (acc, s)

/-- Reads a command: a compound command with its redirections, a function definition or a
simple command. -/
def readCommand (fuel : Nat) (s : Src) : Except ParseError (Cmd × Src) :=
  match fuel with
  | 0 => s.fail "Syntax error: nesting too deep"
  | fuel + 1 => do
    let (t, s2) ← readToken s
    if s.bash ∧ t.isWord "[[" then
      let (e, s3) ← readCondOr fuel s2
      let s4 ← expectWord s3 "]]"
      let (rs, s5) ← readRedirs fuel s4 []
      pure (.cond e s.line rs, s5)
    else if s.bash ∧ t.isWord "function" then
      let (t2, s3) ← readToken s2
      match t2, (match t2 with | .word w => w.plainText? | _ => none) with
      | .word _, some name =>
        let (t3, s4) ← readToken s3
        let s5 ← match t3 with
          | .op "(" => do
            let (t4, s5) ← readToken s4
            match t4 with
            | .op ")" => pure s5
            | t4 => unexpected s4 t4 (some ")")
          | _ => pure s3
        let s6 ← skipNewlines (s.chars.size + 1) s5
        let (body, s7) ← readCommand fuel s6
        pure (.function name body, s7)
      | t2, _ => unexpected s3 t2 none
    else if t.isWord "\x7b" then
      let (body, s3) ← readList fuel s2 true
      let s4 ← expectWord s3 "\x7d"
      let (rs, s5) ← readRedirs fuel s4 []
      pure (.group body rs, s5)
    else if t.isWord "if" then readIf fuel s2
    else if t.isWord "while" ∨ t.isWord "until" then
      let (cond, s3) ← readList fuel s2 true
      let s4 ← expectWord s3 "do"
      let (body, s5) ← readList fuel s4 true
      let s6 ← expectWord s5 "done"
      let (rs, s7) ← readRedirs fuel s6 []
      pure (.loop (t.isWord "until") cond body rs, s7)
    else if t.isWord "for" then readFor fuel s2
    else if t.isWord "case" then readCase fuel s2
    else
      match t with
      | .op "(" =>
        let arith := if s.bash ∧ s2.peek = some '(' then
            (readArithBody (s.chars.size + 1) s2.bump 0 "").toOption else none
        match arith with
        | some (text, s3) =>
          let (rs, s4) ← readRedirs fuel s3 []
          pure (.arith text s.line rs, s4)
        | none =>
          let (body, s3) ← readList fuel s2 true
          let (t3, s4) ← readToken s3
          match t3 with
          | .op ")" =>
            let (rs, s5) ← readRedirs fuel s4 []
            pure (.subshell body rs, s5)
          | t3 => unexpected s3 t3 (some ")")
      | .word w =>
        -- a function definition `name ( ) command`
        let (t2, s3) ← readToken s2
        match t2, w.plainText? with
        | .op "(", some name =>
          if s.bash ∧ (assignment? true w).isSome then readSimple fuel s [] [] [] s.line true else
          let (t3, s4) ← readToken s3
          match t3 with
          | .op ")" =>
            let s4 ← skipNewlines (s.chars.size + 1) s4
            let (body, s5) ← readCommand fuel s4
            pure (.function name body, s5)
          | t3 => unexpected s4 t3 (some ")")
        | _, _ => readSimple fuel s [] [] [] s.line true
      | .ioNumber _ => readSimple fuel s [] [] [] s.line true
      | .op o => if isRedirOp o then readSimple fuel s [] [] [] s.line true else unexpected s t none
      | t => unexpected s t none

/-- Reads the words, assignments and redirections of a simple command. -/
def readSimple (fuel : Nat) (s : Src) (assigns : List Assign) (words : List Word)
    (redirs : List Redir) (line : Nat) (first : Bool) : Except ParseError (Cmd × Src) :=
  match fuel with
  | 0 => s.fail "Syntax error: command too long"
  | fuel + 1 => do
    let (t, s2) ← readToken s
    match t with
    | .word w =>
      if words.isEmpty then
        match assignment? s.bash w with
        | some a =>
          if s.bash ∧ a.value.isEmpty ∧ s2.peek = some '(' then
            let (items, s3) ← readArrayItems (s.chars.size + 1) s2.bump []
            readSimple fuel s3 (assigns ++ [{ a with items := some items }]) words redirs line false
          else readSimple fuel s2 (assigns ++ [a]) words redirs line false
        | none => readSimple fuel s2 assigns [w] redirs line false
      else
        let declaring := s.bash ∧ ((words.head?.bind Word.plainText?).map declarationNames.contains).getD false
        match (if declaring then assignment? true w else none) with
        | some a =>
          if a.value.isEmpty ∧ s2.peek = some '(' then do
            let (items, s3) ← readArrayItems (s.chars.size + 1) s2.bump []
            readSimple fuel s3 (assigns ++ [{ a with items := some items, argument := true }])
              (words ++ [[.lit a.name false]]) redirs line false
          else readSimple fuel s2 assigns (words ++ [w]) redirs line false
        | none => readSimple fuel s2 assigns (words ++ [w]) redirs line false
    | .ioNumber n =>
      let (t2, s3) ← readToken s2
      match t2 with
      | .op o => let (r, s4) ← readRedir s3 (some n) o; readSimple fuel s4 assigns words (redirs ++ [r]) line false
      | t2 => unexpected s3 t2 none
    | .op o =>
      if isRedirOp o then
        let (r, s3) ← readRedir s2 none o
        readSimple fuel s3 assigns words (redirs ++ [r]) line false
      else if first then unexpected s t none
      else pure (.simple assigns words redirs line, s)
    | _ =>
      if first then unexpected s t none else pure (.simple assigns words redirs line, s)

/-- Reads an `if` after its reserved word. -/
def readIf (fuel : Nat) (s : Src) : Except ParseError (Cmd × Src) :=
  match fuel with
  | 0 => s.fail "Syntax error: nesting too deep"
  | fuel + 1 => do
    let (cond, s) ← readList fuel s true
    let s ← expectWord s "then"
    let (body, s) ← readList fuel s true
    readElse fuel s [(cond, body)]

/-- Reads the `elif`, `else` and `fi` of an `if`. -/
def readElse (fuel : Nat) (s : Src) (branches : List (Cmd × Cmd)) : Except ParseError (Cmd × Src) :=
  match fuel with
  | 0 => s.fail "Syntax error: nesting too deep"
  | fuel + 1 => do
    let (t, s2) ← readToken s
    if t.isWord "elif" then
      let (cond, s3) ← readList fuel s2 true
      let s4 ← expectWord s3 "then"
      let (body, s5) ← readList fuel s4 true
      readElse fuel s5 (branches ++ [(cond, body)])
    else if t.isWord "else" then
      let (other, s3) ← readList fuel s2 true
      let s4 ← expectWord s3 "fi"
      let (rs, s5) ← readRedirs fuel s4 []
      pure (.ifThen branches (some other) rs, s5)
    else if t.isWord "fi" then
      let (rs, s3) ← readRedirs fuel s2 []
      pure (.ifThen branches none rs, s3)
    else unexpected s t (some "fi")

/-- Reads a `for` after its reserved word. -/
def readFor (fuel : Nat) (s : Src) : Except ParseError (Cmd × Src) :=
  match fuel with
  | 0 => s.fail "Syntax error: nesting too deep"
  | fuel + 1 => do
    let (t, s2) ← readToken s
    let opens : Bool := match t with
      | .op "(" => true
      | _ => false
    if s.bash && opens && s2.peek == some '(' then
      let (text, s3) ← readArithBody (s.chars.size + 1) s2.bump 0 ""
      match text.splitOn ";" with
      | [first, test, step] =>
        let (t4, s4) ← readToken s3
        let s4 := match t4 with
          | .op ";" | .newline => s4
          | _ => s3
        let s5 ← skipNewlines (s.chars.size + 1) s4
        let (t5, s6) ← readToken s5
        let close ← if t5.isWord "do" then pure "done"
          else if t5.isWord "\x7b" then pure "\x7d"
          else unexpected s5 t5 (some "do")
        let (body, s7) ← readList fuel s6 true
        let s8 ← expectWord s7 close
        let (rs, s9) ← readRedirs fuel s8 []
        return (.forArith first test step body rs, s9)
      | _ => s.fail "syntax error: arithmetic expression required"
    let name ← match t with
      | .word w => match w.plainText? with
        | some n => if isName n then pure n else s.fail ("Syntax error: Bad for loop variable")
        | none => s.fail "Syntax error: Bad for loop variable"
      | t => unexpected s t none
    let s3 ← skipNewlines (s.chars.size + 1) s2
    let (t3, s4) ← readToken s3
    let (items, s5) ← if t3.isWord "in" then readForWords (s.chars.size + 1) s4 [] else
      match t3 with
      | .op ";" => pure (none, s4)
      | _ => pure (none, s3)
    let s6 ← skipNewlines (s.chars.size + 1) s5
    let s7 ← expectWord s6 "do"
    let (body, s8) ← readList fuel s7 true
    let s9 ← expectWord s8 "done"
    let (rs, s10) ← readRedirs fuel s9 []
    pure (.forEach name items body rs, s10)

/-- Reads a `case` after its reserved word. -/
def readCase (fuel : Nat) (s : Src) : Except ParseError (Cmd × Src) :=
  match fuel with
  | 0 => s.fail "Syntax error: nesting too deep"
  | fuel + 1 => do
    let (t, s2) ← readToken s
    let subject ← match t with
      | .word w => pure w
      | t => unexpected s t none
    let s3 ← skipNewlines (s.chars.size + 1) s2
    let s4 ← expectWord s3 "in"
    readArms fuel s4 subject []

/-- Reads the arms of a `case` up to `esac`. -/
def readArms (fuel : Nat) (s : Src) (subject : Word) (acc : List (List Word × Cmd)) :
    Except ParseError (Cmd × Src) :=
  match fuel with
  | 0 => s.fail "Syntax error: nesting too deep"
  | fuel + 1 => do
    let s ← skipNewlines (s.chars.size + 1) s
    let (t, s2) ← readToken s
    if t.isWord "esac" then
      let (rs, s3) ← readRedirs fuel s2 []
      pure (.caseOf subject acc rs, s3)
    else
      let (t, s2) ← match t with
        | .op "(" => readToken s2
        | _ => pure (t, s2)
      let (pats, s3) ← readPatterns (s.chars.size + 1) s2 t []
      let (t4, _) ← readToken s3
      let (body, s5) ← if t4.isWord "esac" || (match t4 with | .op ";;" => true | _ => false) then
          pure (Cmd.nothing, s3)
        else readList fuel s3 true
      let (t6, s6) ← readToken s5
      match t6 with
      | .op ";;" => readArms fuel s6 subject (acc ++ [(pats, body)])
      | t6 =>
        if t6.isWord "esac" then
          let (rs, s7) ← readRedirs fuel s6 []
          pure (.caseOf subject (acc ++ [(pats, body)]) rs, s7)
        else unexpected s5 t6 (some ";;")

end

/-- Reads the next complete command from the source: none at the end of the script. -/
def next (s : Src) : Except ParseError (Option (Cmd × Src)) := do
  let s ← skipNewlines (s.chars.size + 1) s
  let (t, _) ← readToken s
  match t with
  | .eof => pure none
  | _ =>
    let (c, s) ← readList (4 * s.chars.size + 64) s false
    let (t, s2) ← readToken s
    match t with
    | .newline | .eof => pure (some (c, s2))
    | t => unexpected s t none

/-- The source of a script's text. -/
def Src.ofText (text : String) (bash : Bool := false) : Src := { chars := text.toList.toArray, bash }

end Shell

end Timebox
