import Timebox.Yaml.Resolve
import Timebox.Yaml.Token
import Timebox.Double.Text

/-! # Writing YAML documents

A `Doc` is what a writer hands over: block mappings, and scalars with the style their
writer asks for. `Doc.render` lays them out with an indentation of four spaces per level
and no line folding, and chooses each scalar's final style from what its text allows
(`analyze`):

* plain only if the text has no leading or trailing space or break, no line break, no
  indicator where it would be read as one (`- `, `: `, ` #`, a leading `[`, `&`, `'`, …),
  no tab and no character that must be escaped;
* single-quoted if a plain text is not allowed but no escape is needed;
* literal (`|`) for a text with line breaks when it can be one, with an indentation digit
  when it starts with a space or break, `-` when it does not end with a break and `+` when
  it ends with two;
* double-quoted otherwise, escaping what is not printable: `\n`, `\t`, `\x7f`-style bytes,
  `\u` and `\U` with upper-case digits.

`Doc.ofText` asks for the style a text needs to read back as text: literal if it has a
line break, plain if it would resolve to a text and is no boolean or sexagesimal number of
older YAML, double-quoted otherwise.
-/

namespace Timebox

namespace Yaml

/-- A document to write. -/
inductive Doc where
  /-- A scalar with the style its writer asks for. -/
  | scalar (text : String) (style : ScalarStyle)
  | mapping (entries : List (String × Doc))
deriving Repr, Inhabited

/-- Whether a text is a boolean word of older YAML, which must be quoted to stay a text. -/
def isOldBool (s : String) : Bool :=
  ["y", "Y", "yes", "Yes", "YES", "on", "On", "ON", "n", "N", "no", "No", "NO", "off", "Off", "OFF"].contains s

/-- Whether the rest of a text is groups of `:` and one or two sexagesimal digits (the
first of two at most 5), at least `seen` of them so far, then optionally a fraction. -/
def sexagesimalRest : Nat → Nat → List Char → Bool
  | 0, _, _ => false
  | fuel + 1, seen, cs =>
    match cs with
    | ':' :: a :: rest =>
      (a.isDigit && sexagesimalRest fuel (seen + 1) rest) ||
        (match rest with
         | b :: rest' => decide ('0' ≤ a ∧ a ≤ '5') && b.isDigit && sexagesimalRest fuel (seen + 1) rest'
         | [] => false)
    | '.' :: frac => decide (seen ≥ 1) && frac.all fun c => c.isDigit || c == '_'
    | [] => decide (seen ≥ 1)
    | _ => false

/-- Whether a text is a sexagesimal number of older YAML (`1:20`, `-3:25:45.5`), which must
be quoted to stay a text. -/
def isSexagesimal (s : String) : Bool :=
  let cs := match s.toList with
    | '+' :: rest | '-' :: rest => rest
    | cs => cs
  match cs with
  | d :: rest =>
    d.isDigit ∧ (let tail := rest.dropWhile fun c => c.isDigit ∨ c = '_'
      sexagesimalRest (tail.length + 1) 0 tail)
  | [] => false

/-- The style a text asks for so that it reads back as the same text. -/
def textStyle (s : String) : ScalarStyle :=
  if s.contains '\n' then .literal
  else if (resolveText "" s).1 = strTag ∧ !(isSexagesimal s ∨ isOldBool s) then .plain
  else .doubleQuoted

/-- Whether a character breaks a line. -/
def isLineBreak (c : Char) : Bool :=
  c = '\r' ∨ c = '\n' ∨ c.toNat = 0x85 ∨ c.toNat = 0x2028 ∨ c.toNat = 0x2029

/-- Whether a character may be written as it is: the line feed, printable ASCII, and the
basic plane from `U+00A0` but for surrogates, the byte order mark and the last two
code points. -/
def isPrintable (c : Char) : Bool :=
  let v := c.toNat
  v = 0x0A ∨ (0x20 ≤ v ∧ v ≤ 0x7E) ∨ (0xA0 ≤ v ∧ v ≤ 0xD7FF) ∨ (0xE000 ≤ v ∧ v ≤ 0xFFFD ∧ v ≠ 0xFEFF)

/-- What the text of a scalar allows. -/
structure Analysis where
  multiline : Bool
  flowPlain : Bool
  blockPlain : Bool
  singleQuoted : Bool
  block : Bool
deriving Repr, Inhabited

/-- What is found in a text, character by character. -/
structure Findings where
  blockIndicators : Bool := false
  flowIndicators : Bool := false
  lineBreaks : Bool := false
  special : Bool := false
  tabs : Bool := false
  leadingSpace : Bool := false
  leadingBreak : Bool := false
  trailingSpace : Bool := false
  trailingBreak : Bool := false
  breakSpace : Bool := false
  spaceBreak : Bool := false
  previousSpace : Bool := false
  previousBreak : Bool := false
  precededByWhitespace : Bool := true

/-- The findings after one more character, at place `i` of `n`, followed by `next`. -/
def Findings.step (f : Findings) (i n : Nat) (c : Char) (next : Option Char) : Findings :=
  let followedByWhitespace := match next with
    | none => true
    | some d => d == ' ' || d == '\t'
  let f :=
    if i = 0 then
      if "#,[]{}&*!|>".contains c ∨ c.toNat = 39 ∨ c = '"' ∨ c = '%' ∨ c = '@' ∨ c.toNat = 96 then
        { f with flowIndicators := true, blockIndicators := true }
      else if c = '?' ∨ c = ':' then
        { f with flowIndicators := true, blockIndicators := f.blockIndicators || followedByWhitespace }
      else if c = '-' && followedByWhitespace then
        { f with flowIndicators := true, blockIndicators := true }
      else f
    else
      if ",?[]{}".contains c then { f with flowIndicators := true }
      else if c = ':' then
        { f with flowIndicators := true, blockIndicators := f.blockIndicators || followedByWhitespace }
      else if c = '#' && f.precededByWhitespace then
        { f with flowIndicators := true, blockIndicators := true }
      else f
  let f :=
    if c = '\t' then { f with tabs := true }
    else if !isPrintable c then { f with special := true }
    else f
  let last := i + 1 = n
  let f :=
    if c = ' ' then
      { f with leadingSpace := f.leadingSpace || i = 0, trailingSpace := f.trailingSpace || last,
               breakSpace := f.breakSpace || f.previousBreak, previousSpace := true, previousBreak := false }
    else if isLineBreak c then
      { f with lineBreaks := true, leadingBreak := f.leadingBreak || i = 0,
               trailingBreak := f.trailingBreak || last, spaceBreak := f.spaceBreak || f.previousSpace,
               previousSpace := false, previousBreak := true }
    else { f with previousSpace := false, previousBreak := false }
  { f with precededByWhitespace := c = ' ' ∨ c = '\t' ∨ isLineBreak c }

/-- The findings of a text. -/
def findingsOf (cs : List Char) : Findings :=
  let n := cs.length
  let f0 : Findings :=
    match cs with
    | '-' :: '-' :: '-' :: _ | '.' :: '.' :: '.' :: _ => { blockIndicators := true, flowIndicators := true }
    | _ => {}
  (List.range n).foldl (fun f i => f.step i n (cs.getD i ' ') (cs[i + 1]?)) f0

/-- What the text of a scalar allows. -/
def analyze (s : String) : Analysis :=
  let cs := s.toList
  if cs.isEmpty then
    { multiline := false, flowPlain := false, blockPlain := true, singleQuoted := true, block := false }
  else
    let f := findingsOf cs
    let edge := f.leadingSpace || f.leadingBreak || f.trailingSpace || f.trailingBreak
    let hard := f.spaceBreak || f.tabs || f.special
    { multiline := f.lineBreaks
      flowPlain := !(edge || f.breakSpace || hard || f.lineBreaks || f.flowIndicators)
      blockPlain := !(edge || f.breakSpace || hard || f.lineBreaks || f.blockIndicators)
      singleQuoted := !(f.breakSpace || hard)
      block := !(f.trailingSpace || f.spaceBreak || f.special) }

/-- The style a scalar is written in, given the one asked for, in a block collection; a
simple key cannot span lines or be an empty plain text. -/
def chooseStyle (a : Analysis) (asked : ScalarStyle) (simpleKey empty : Bool) : ScalarStyle :=
  let style := if simpleKey ∧ a.multiline then .doubleQuoted else asked
  let style :=
    if style = .plain then
      if !a.blockPlain ∨ (empty ∧ simpleKey) then .singleQuoted else .plain
    else style
  let style := if style = .singleQuoted ∧ !a.singleQuoted then .doubleQuoted else style
  if (style = .literal ∨ style = .folded) ∧ (!a.block ∨ simpleKey) then .doubleQuoted else style

/-- The writer's state: the text so far, the column, whether the last thing written was
white space or indentation, and the indentation of the current level. -/
structure Emitter where
  out : String := ""
  column : Nat := 0
  whitespace : Bool := true
  indention : Bool := true
  indent : Int := -1
deriving Inhabited

namespace Emitter

/-- Spaces of indentation per level. -/
def step : Nat := 4

/-- Writes a character. -/
def put (e : Emitter) (c : Char) : Emitter := { e with out := e.out.push c, column := e.column + 1 }

/-- Ends the line. -/
def putBreak (e : Emitter) : Emitter := { e with out := e.out.push '\n', column := 0, indention := true }

/-- Writes a character of a scalar: a line break ends the line, writing itself unless it is
a line feed. -/
def putChar (e : Emitter) (c : Char) : Emitter :=
  if c = '\n' then e.putBreak
  else if isLineBreak c then { e.put c with column := 0, indention := true }
  else e.put c

/-- Starts a line at the current indentation, unless the writer is already there. -/
def writeIndent (e : Emitter) : Emitter :=
  let indent := e.indent.toNat
  let e :=
    if !e.indention ∨ e.column > indent ∨ (e.column = indent ∧ !e.whitespace) then e.putBreak else e
  let e := (List.range (indent - e.column)).foldl (fun e _ => e.put ' ') e
  { e with whitespace := true, indention := true }

/-- Writes an indicator, after a space if one is needed. -/
def writeIndicator (e : Emitter) (s : String) (needWhitespace isWhitespace isIndention : Bool) : Emitter :=
  let e := if needWhitespace ∧ !e.whitespace then e.put ' ' else e
  let e := s.toList.foldl put e
  { e with whitespace := isWhitespace, indention := e.indention && isIndention }

/-- A plain scalar. -/
def writePlain (e : Emitter) (s : String) : Emitter :=
  let e := if !s.isEmpty ∧ !e.whitespace then e.put ' ' else e
  let e := s.toList.foldl putChar e
  { e with whitespace := false, indention := false }

/-- A single-quoted scalar: quotes doubled, a line feed kept by an empty line, and each line
after a break indented. -/
def writeSingle (e : Emitter) (s : String) : Emitter :=
  let e := e.writeIndicator "'" true false false
  let (e, _) := s.toList.foldl (fun (acc : Emitter × Bool) c =>
    let (e, breaks) := acc
    if isLineBreak c then
      let e := if !breaks ∧ c = '\n' then e.putBreak else e
      (e.putChar c, true)
    else
      let e := if breaks then e.writeIndent else e
      let e := if c.toNat = 39 then e.put c else e
      ({ e.put c with indention := if c = ' ' then e.indention else false }, false)) (e, false)
  let e := e.writeIndicator "'" false false false
  { e with whitespace := false, indention := false }

/-- A hexadecimal digit in upper case. -/
def hexDigit (d : Nat) : Char := if d < 10 then Char.ofNat (48 + d) else Char.ofNat (55 + d)

/-- The escape of a character in a double-quoted scalar, after the backslash. -/
def escape (c : Char) : String :=
  let v := c.toNat
  if v = 0 then "0" else if v = 7 then "a" else if v = 8 then "b" else if v = 9 then "t"
  else if v = 10 then "n" else if v = 11 then "v" else if v = 12 then "f" else if v = 13 then "r"
  else if v = 27 then "e" else if c = '"' then "\"" else if c = '\\' then "\\"
  else if v = 0x85 then "N" else if v = 0xA0 then "_" else if v = 0x2028 then "L"
  else if v = 0x2029 then "P"
  else
    let (mark, width) := if v ≤ 0xFF then ('x', 2) else if v ≤ 0xFFFF then ('u', 4) else ('U', 8)
    String.ofList (mark :: (List.range width).reverse.map fun k => hexDigit (v / Nat.pow 16 k % 16))

/-- A double-quoted scalar: what is not printable, line breaks, the byte order mark, quotes
and backslashes are escaped. The test for the byte order mark looks at the start of the
text wherever it stands, so in a text that starts with one every character is escaped. -/
def writeDouble (e : Emitter) (s : String) : Emitter :=
  let e := e.writeIndicator "\"" true false false
  let marked := s.toList.head? = some (Char.ofNat 0xFEFF)
  let e := s.toList.foldl (fun e c =>
    if marked ∨ !isPrintable c ∨ isLineBreak c ∨ c = '"' ∨ c = '\\' then
      (escape c).toList.foldl put (e.put '\\')
    else e.put c) e
  let e := e.writeIndicator "\"" false false false
  { e with whitespace := false, indention := false }

/-- The indentation and chomping hints of a literal scalar. -/
def blockHints (s : String) : String :=
  let cs := s.toList
  let indentHint := match cs with
    | c :: _ => if c = ' ' ∨ isLineBreak c then toString step else ""
    | [] => ""
  let chomp := match cs.reverse with
    | [] => "-"
    | [c] => if isLineBreak c then "+" else "-"
    | c :: d :: _ => if !isLineBreak c then "-" else if isLineBreak d then "+" else ""
  indentHint ++ chomp

/-- A literal scalar: its lines below, each indented. The header's line is ended by the
first line to write, so a line break that starts the text ends it and no empty line stands
for that break. -/
def writeLiteral (e : Emitter) (s : String) : Emitter :=
  let e := e.writeIndicator "|" true false false
  let hints := blockHints s
  let e := if hints.isEmpty then e else e.writeIndicator hints false false false
  let e := { e with whitespace := true }
  let (e, _) := s.toList.foldl (fun (acc : Emitter × Bool) c =>
    let (e, breaks) := acc
    if isLineBreak c then (e.putChar c, true)
    else
      let e := if breaks then e.writeIndent else e
      ({ e.put c with indention := false }, false)) (e, true)
  e

/-- Enters a level, for a collection (`flow` false) or a scalar (`flow` true). -/
def deeper (e : Emitter) (flow : Bool) : Emitter :=
  { e with indent := if e.indent < 0 then (if flow then (step : Int) else 0) else e.indent + step }

/-- A scalar in the style its text allows. -/
def writeScalar (e : Emitter) (s : String) (asked : ScalarStyle) (simpleKey : Bool) : Emitter :=
  let style := chooseStyle (analyze s) asked simpleKey s.isEmpty
  let outer := e.indent
  let e := e.deeper true
  let e := match style with
    | .plain => e.writePlain s
    | .singleQuoted => e.writeSingle s
    | .doubleQuoted => e.writeDouble s
    | _ => e.writeLiteral s
  { e with indent := outer }

mutual

/-- A node as the value of a mapping entry. -/
def writeNode (e : Emitter) : Doc → Emitter
  | .scalar s style => e.writeScalar s style false
  | .mapping [] => e.writeIndicator "\x7b\x7d" true false false
  | .mapping entries =>
    let outer := e.indent
    let e := writeEntries (e.deeper false) entries
    { e with indent := outer }

/-- The entries of a block mapping, each on a line of its own. -/
def writeEntries (e : Emitter) : List (String × Doc) → Emitter
  | [] => e
  | (k, v) :: rest =>
    let e := e.writeIndent
    let e := e.writeScalar k (textStyle k) true
    let e := e.writeIndicator ":" false false false
    writeEntries (writeNode e v) rest

end

end Emitter

namespace Doc

/-- A text, in the style it needs to read back as itself. -/
def ofText (s : String) : Doc := .scalar s (textStyle s)

/-- A float, with its shortest digits, `.inf`, `-.inf` or `.nan`. -/
def ofDouble (x : Double) : Doc :=
  .scalar (if x.isNaN then ".nan" else if x.isInf then (if x.signBit then "-.inf" else ".inf")
    else x.toShortest) .plain

/-- A boolean. -/
def ofBool (b : Bool) : Doc := .scalar (if b then "true" else "false") .plain

/-- The text of a document, ending with a line break. -/
def render (d : Doc) : String := (Emitter.writeNode {} d).writeIndent.out

end Doc

end Yaml

end Timebox
