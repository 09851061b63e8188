import Timebox.Yaml.Token

/-! # From characters to tokens

The scanner turns a YAML text into tokens on demand. It keeps a queue of tokens; the parser
looks at the queue's head and takes it. Two facts shape the queue:

* A *simple key* (`key: value` without `?`) is known to be a key only when the `:` after it
  is found. The scanner records where each possible key starts (`SimpleKey`), and when the
  `:` comes it inserts the `key` token, and the `blockMappingStart` of a new mapping, at the
  recorded place in the queue.
* So that the parser never takes a token that may still get a key put before it, the queue
  is filled until it holds three tokens past its head and the head is not a possible key
  (`fetchMore`). This look-ahead decides which of two problems, one found by the scanner
  ahead and one by the parser behind, is reported first.

Indentation is a stack: a line that starts further right than the current block opens a
block (`rollIndent`), one that starts further left closes blocks down to its column
(`unrollIndent`). Inside flow collections (`[...]`, `{...}`) indentation does not count.

Every loop runs on fuel: each step takes at least one character, so the text's length is
always enough, and a loop whose fuel runs out reports an internal problem.

A byte order mark at the start of a line is passed over only when the reader's buffer
starts with one, whatever the line starts with. The buffer starts where the text starts
(after a leading mark, which is not part of the text) until the scanner comes near the end
of the text and asks for more characters than are left (`need`): from then on it starts
at the character the scanner stood at when it last asked. So a mark in the middle of a
text is an ordinary character, while a text that starts with two marks has one character
passed over at the start of each line, up to its last few characters.
-/

namespace Timebox

namespace Yaml

/-- Whether a character is a space or a tab. -/
def isBlank (c : Char) : Bool := c = ' ' || c = '\t'

/-- The line separator. -/
def lineSeparator : Char := Char.ofNat 0x2028

/-- The paragraph separator. -/
def paragraphSeparator : Char := Char.ofNat 0x2029

/-- The byte order mark. -/
def byteOrderMark : Char := Char.ofNat 0xFEFF

/-- Whether a character breaks a line. -/
def isBreak (c : Char) : Bool :=
  c == '\r' || c == '\n' || c == '\x85' || c == lineSeparator || c == paragraphSeparator

/-- The character that stands past the end of the text. -/
def endChar : Char := '\x00'

/-- Whether a character breaks a line or ends the text. -/
def isBreakZ (c : Char) : Bool := isBreak c || c = endChar

/-- Whether a character is blank, breaks a line or ends the text. -/
def isBlankZ (c : Char) : Bool := isBlank c || isBreakZ c

/-- The characters of anchors, tag handles and directive names. -/
def isWordChar (c : Char) : Bool := c.isAlphanum || c = '_' || c = '-'

/-- Whether a character is a hexadecimal digit. -/
def isHexDigit (c : Char) : Bool :=
  c.isDigit || ('a' ≤ c && c ≤ 'f') || ('A' ≤ c && c ≤ 'F')

/-- The value of a hexadecimal digit. -/
def hexValue (c : Char) : Nat :=
  if c.isDigit then c.toNat - '0'.toNat
  else if 'a' ≤ c && c ≤ 'f' then c.toNat - 'a'.toNat + 10
  else c.toNat - 'A'.toNat + 10

/-- Whether the reader accepts a character: tab, line feed, carriage return, the printable
ASCII range, next line, and the rest of Unicode but the C1 controls, surrogates and the two
noncharacters at the end of the basic plane. -/
def readable (c : Char) : Bool :=
  let v := c.toNat
  v = 0x09 || v = 0x0A || v = 0x0D || (0x20 ≤ v && v ≤ 0x7E) || v = 0x85 ||
    (0xA0 ≤ v && v ≤ 0xD7FF) || (0xE000 ≤ v && v ≤ 0xFFFD) || (0x10000 ≤ v && v ≤ 0x10FFFF)

/-- Where a possible simple key starts, and whether it must turn out to be one: a key at
the indentation of its block mapping cannot be anything else. -/
structure SimpleKey where
  possible : Bool := false
  required : Bool := false
  tokenNumber : Nat := 0
  mark : Mark := {}
deriving Repr, Inhabited

/-- The scanner's state. Token numbers count from the stream's first token, so a token's
number is its place in `tokens`; `head` tokens have been taken by the parser. -/
structure Scanner where
  text : Array Char
  pos : Nat := 0
  mark : Mark := {}
  started : Bool := false
  flowLevel : Nat := 0
  indent : Int := -1
  indents : List Int := []
  simpleKeyAllowed : Bool := false
  simpleKeys : Array SimpleKey := #[]
  /-- Which entry of `simpleKeys` was saved for a token number. -/
  keysByToken : List (Nat × Nat) := []
  tokens : Array Token := #[]
  head : Nat := 0
  available : Bool := false
  /-- Where in the text the reader's buffer starts. -/
  front : Nat := 0
  /-- How many end characters the reader has put after the text. -/
  ends : Nat := 0
deriving Inhabited

/-- The scanner's steps: they change its state or stop with a problem. -/
abbrev ScanM := EStateM Problem Scanner

namespace Scanner

/-- The deepest nesting of flow collections and of blocks. -/
def maxDepth : Nat := 10000

/-- A scanner at the start of a text; a byte order mark at the very start is not part of
the text. -/
def make (text : String) : Scanner :=
  let cs := text.toList
  let cs := match cs with
    | c :: rest => if c == byteOrderMark then rest else cs
    | [] => cs
  { text := cs.toArray }

/-- The character `k` places ahead, or `endChar` past the end. -/
def peekAt (k : Nat) : ScanM Char := do
  let s ← get
  pure (s.text.getD (s.pos + k) endChar)

/-- Fuel for a loop that takes a character per step. -/
def fuel : ScanM Nat := do
  let s ← get
  pure (s.text.size - s.pos + 2)

/-- Stops with a problem of the scanner, found at the current mark. -/
def fail {α : Type} (context : String) (contextMark : Mark) (problem : String) : ScanM α := do
  let s ← get
  throw { layer := .scanner, context, contextMark, problem, problemMark := s.mark }

/-- The problem of a loop that ran out of fuel; the fuel given is always enough. -/
def exhausted {α : Type} : ScanM α := fail "" {} "input nested too deeply"

/-- Asks the reader for `n` characters from the current one. When fewer are left, the
reader moves what is left to the front of its buffer and puts one more end character
after the text. -/
def need (n : Nat) : ScanM Unit :=
  modify fun s =>
    if s.text.size + s.ends < s.pos + n then { s with front := s.pos, ends := s.ends + 1 } else s

/-- Whether the reader's buffer starts with a byte order mark. -/
def frontIsMark : ScanM Bool := do
  let s ← get
  pure (s.text.getD s.front endChar == byteOrderMark)

/-- Steps past one character on the line. -/
def skip : ScanM Unit :=
  modify fun s => { s with pos := s.pos + 1, mark := { s.mark with index := s.mark.index + 1, column := s.mark.column + 1 } }

/-- Steps past `n` characters on the line. -/
def skipN : Nat → ScanM Unit
  | 0 => pure ()
  | n + 1 => do skip; skipN n

/-- Steps past a line break; a carriage return and line feed count as one. -/
def skipLine : ScanM Unit := do
  let c0 ← peekAt 0
  let c1 ← peekAt 1
  if c0 = '\r' && c1 = '\n' then
    modify fun s => { s with pos := s.pos + 2, mark := { index := s.mark.index + 2, line := s.mark.line + 1, column := 0 } }
  else if isBreak c0 then
    modify fun s => { s with pos := s.pos + 1, mark := { index := s.mark.index + 1, line := s.mark.line + 1, column := 0 } }
  else pure ()

/-- Takes one character into a text. -/
def read (acc : String) : ScanM String := do
  let c ← peekAt 0
  skip
  pure (acc.push c)

/-- Takes a line break into a text: carriage returns and next lines become line feeds,
line and paragraph separators stay. -/
def readLine (acc : String) : ScanM String := do
  let c0 ← peekAt 0
  if c0 == lineSeparator || c0 == paragraphSeparator then
    skipLine
    pure (acc.push c0)
  else if isBreak c0 then
    skipLine
    pure (acc.push '\n')
  else pure acc

/-- Puts a token at the end of the queue, or before the token with the given number. -/
def insertToken (at? : Option Nat) (t : Token) : ScanM Unit :=
  modify fun s => match at? with
    | none => { s with tokens := s.tokens.push t }
    | some n => { s with tokens := s.tokens.insertIdxIfInBounds n t }

/-- Appends a token. -/
def pushToken (kind : TokenKind) (start stop : Mark) : ScanM Unit :=
  insertToken none ⟨kind, start, stop⟩

/-- The list with the entry for a token number replaced or added. -/
def setKeyEntry (entries : List (Nat × Nat)) (n i : Nat) : List (Nat × Nat) :=
  (n, i) :: entries.filter (·.1 ≠ n)

/-- The list without the entry for a token number. -/
def eraseKeyEntry (entries : List (Nat × Nat)) (n : Nat) : List (Nat × Nat) :=
  entries.filter (·.1 ≠ n)

/-- The place of the innermost simple key. -/
def topKey : ScanM Nat := do
  let s ← get
  pure (s.simpleKeys.size - 1)

/-- Whether the recorded simple key can still be one: the `:` must follow on the same line
and within 1024 characters. A key that can no longer be one is dropped, and a required one
is a problem. -/
def keyValid (i : Nat) : ScanM Bool := do
  let s ← get
  let k := s.simpleKeys.getD i {}
  if !k.possible then return false
  if k.mark.line < s.mark.line || k.mark.index + 1024 < s.mark.index then
    if k.required then
      fail "while scanning a simple key" k.mark "could not find expected ':'"
    modify fun s => { s with simpleKeys := s.simpleKeys.modify i fun k => { k with possible := false } }
    return false
  return true

/-- Drops the innermost possible simple key; a required one is a problem. -/
def removeKey : ScanM Unit := do
  let s ← get
  let i := s.simpleKeys.size - 1
  let k := s.simpleKeys.getD i {}
  if k.possible then
    if k.required then
      fail "while scanning a simple key" k.mark "could not find expected ':'"
    modify fun s => { s with simpleKeys := s.simpleKeys.modify i fun k => { k with possible := false }, keysByToken := eraseKeyEntry s.keysByToken k.tokenNumber }

/-- Records that a simple key may start here, if one may. -/
def saveKey : ScanM Unit := do
  let s ← get
  let required := s.flowLevel = 0 && s.indent = (s.mark.column : Int)
  if s.simpleKeyAllowed then
    let k : SimpleKey := ⟨true, required, s.tokens.size, s.mark⟩
    removeKey
    modify fun s =>
      let i := s.simpleKeys.size - 1
      { s with simpleKeys := s.simpleKeys.set! i k, keysByToken := setKeyEntry s.keysByToken k.tokenNumber i }

/-- Enters a flow collection. -/
def increaseFlow : ScanM Unit := do
  modify fun s => { s with simpleKeys := s.simpleKeys.push ⟨false, false, s.tokens.size, s.mark⟩, flowLevel := s.flowLevel + 1 }
  let s ← get
  if s.flowLevel > maxDepth then
    let k := s.simpleKeys.back?.getD {}
    fail "while increasing flow level" k.mark ("exceeded max depth of " ++ toString maxDepth)

/-- Leaves a flow collection. -/
def decreaseFlow : ScanM Unit :=
  modify fun s =>
    if s.flowLevel > 0 then
      let k := s.simpleKeys.back?.getD {}
      { s with flowLevel := s.flowLevel - 1, keysByToken := eraseKeyEntry s.keysByToken k.tokenNumber, simpleKeys := s.simpleKeys.pop }
    else s

/-- Opens a block at a column further right than the current one, putting its start token
at the end of the queue or before the token with the given number. -/
def rollIndent (column : Nat) (at? : Option Nat) (kind : TokenKind) (mark : Mark) : ScanM Unit := do
  let s ← get
  if s.flowLevel > 0 then return
  if s.indent < column then
    set { s with indents := s.indent :: s.indents, indent := column }
    let s ← get
    if s.indents.length > maxDepth then
      let k := s.simpleKeys.back?.getD {}
      fail "while increasing indent level" k.mark ("exceeded max depth of " ++ toString maxDepth)
    insertToken at? ⟨kind, mark, mark⟩

/-- Closes the blocks further right than a column; their end tokens are marked just before
the blanks that preceded the current token. -/
def unrollIndent (column : Int) (scanMark : Mark) : ScanM Unit := do
  let s ← get
  if s.flowLevel > 0 then return
  let blockMark := { scanMark with index := scanMark.index - 1 }
  let rec go : Nat → ScanM Unit
    | 0 => pure ()
    | n + 1 => do
      let s ← get
      if s.indent > column then
        pushToken .blockEnd blockMark blockMark
        modify fun s => match s.indents with
          | i :: rest => { s with indent := i, indents := rest }
          | [] => { s with indent := -1 }
        go n
  go (s.indents.length + 1)

/-- Steps past blanks, comments and line breaks up to the next token. A tab may not
indent a line of a block, so there it is left for the next token to find. At the start of
a line, a character is passed over when the reader's buffer starts with a byte order
mark. -/
def toNextToken : ScanM Unit := do
  let rec blanks : Nat → ScanM Unit
    | 0 => exhausted
    | n + 1 => do
      let s ← get
      let c ← peekAt 0
      if c = ' ' || ((s.flowLevel > 0 || !s.simpleKeyAllowed) && c = '\t') then
        skip
        blanks n
  let rec comment : Nat → ScanM Unit
    | 0 => exhausted
    | n + 1 => do
      let c ← peekAt 0
      if !isBreakZ c then
        skip
        comment n
  let rec go : Nat → ScanM Unit
    | 0 => exhausted
    | n + 1 => do
      need 1
      if (← get).mark.column = 0 && (← frontIsMark) then skip
      blanks (← fuel)
      if (← peekAt 0) = '#' then comment (← fuel)
      if isBreak (← peekAt 0) then
        need 2
        skipLine
        if (← get).flowLevel = 0 then
          modify fun s => { s with simpleKeyAllowed := true }
        go n
  go (← fuel)

/-- The first token. -/
def fetchStreamStart : ScanM Unit := do
  modify fun s => { s with indent := -1, simpleKeys := s.simpleKeys.push {}, simpleKeyAllowed := true, started := true }
  let s ← get
  pushToken .streamStart s.mark s.mark

/-- The last token: the mark moves to the start of a line, all blocks close. -/
def fetchStreamEnd : ScanM Unit := do
  modify fun s =>
    if s.mark.column ≠ 0 then { s with mark := { s.mark with column := 0, line := s.mark.line + 1 } }
    else s
  unrollIndent (-1) (← get).mark
  removeKey
  modify fun s => { s with simpleKeyAllowed := false }
  let s ← get
  pushToken .streamEnd s.mark s.mark

/-- A document start `---` or end `...` marker. -/
def fetchDocumentIndicator (kind : TokenKind) : ScanM Unit := do
  unrollIndent (-1) (← get).mark
  removeKey
  modify fun s => { s with simpleKeyAllowed := false }
  let start := (← get).mark
  skipN 3
  pushToken kind start (← get).mark

/-- An opening bracket or brace. -/
def fetchFlowStart (kind : TokenKind) : ScanM Unit := do
  saveKey
  increaseFlow
  modify fun s => { s with simpleKeyAllowed := true }
  let start := (← get).mark
  skip
  pushToken kind start (← get).mark

/-- A closing bracket or brace. -/
def fetchFlowEnd (kind : TokenKind) : ScanM Unit := do
  removeKey
  decreaseFlow
  modify fun s => { s with simpleKeyAllowed := false }
  let start := (← get).mark
  skip
  pushToken kind start (← get).mark

/-- A comma between flow entries. -/
def fetchFlowEntry : ScanM Unit := do
  removeKey
  modify fun s => { s with simpleKeyAllowed := true }
  let start := (← get).mark
  skip
  pushToken .flowEntry start (← get).mark

/-- A `-` that starts a sequence entry. -/
def fetchBlockEntry : ScanM Unit := do
  let s ← get
  if s.flowLevel = 0 then
    if !s.simpleKeyAllowed then
      fail "" s.mark "block sequence entries are not allowed in this context"
    rollIndent s.mark.column none .blockSequenceStart s.mark
  removeKey
  modify fun s => { s with simpleKeyAllowed := true }
  let start := (← get).mark
  skip
  pushToken .blockEntry start (← get).mark

/-- A `?` that starts a complex key. -/
def fetchKey : ScanM Unit := do
  let s ← get
  if s.flowLevel = 0 then
    if !s.simpleKeyAllowed then
      fail "" s.mark "mapping keys are not allowed in this context"
    rollIndent s.mark.column none .blockMappingStart s.mark
  removeKey
  modify fun s => { s with simpleKeyAllowed := s.flowLevel = 0 }
  let start := (← get).mark
  skip
  pushToken .key start (← get).mark

/-- A `:` after a key: a recorded simple key gets its `key` token now. -/
def fetchValue : ScanM Unit := do
  let i ← topKey
  let valid ← keyValid i
  let s ← get
  let k := s.simpleKeys.getD i {}
  if valid then
    insertToken (some k.tokenNumber) ⟨.key, k.mark, k.mark⟩
    rollIndent k.mark.column (some k.tokenNumber) .blockMappingStart k.mark
    modify fun s => { s with simpleKeys := s.simpleKeys.modify i fun k => { k with possible := false }, keysByToken := eraseKeyEntry s.keysByToken k.tokenNumber, simpleKeyAllowed := false }
  else
    if s.flowLevel = 0 then
      if !s.simpleKeyAllowed then
        fail "" s.mark "mapping values are not allowed in this context"
      rollIndent s.mark.column none .blockMappingStart s.mark
    modify fun s => { s with simpleKeyAllowed := s.flowLevel = 0 }
  let start := (← get).mark
  skip
  pushToken .value start (← get).mark

/-- The characters that may follow an anchor or alias name. -/
def endsName (c : Char) : Bool :=
  isBlankZ c || c = '?' || c = ':' || c = ',' || c = ']' || c = '}' || c = '%' || c = '@' || c = '`'

/-- An anchor `&name` or an alias `*name`. -/
def fetchAnchor (isAnchor : Bool) : ScanM Unit := do
  saveKey
  modify fun s => { s with simpleKeyAllowed := false }
  let start := (← get).mark
  skip
  let rec name : Nat → String → ScanM String
    | 0, _ => exhausted
    | n + 1, acc => do
      if isWordChar (← peekAt 0) then name n (← read acc) else pure acc
  let s ← name (← fuel) ""
  let stop := (← get).mark
  if s.isEmpty || !endsName (← peekAt 0) then
    fail (if isAnchor then "while scanning an anchor" else "while scanning an alias") start
      "did not find expected alphabetic or numeric character"
  pushToken (if isAnchor then .anchor s else .alias s) start stop

/-- The context of a problem in a tag or in a `%TAG` directive. -/
def tagContext (directive : Bool) : String :=
  if directive then "while parsing a %TAG directive" else "while parsing a tag"

/-- A tag handle: `!`, `!!` or `!name!`; outside a directive a `!name` that is not closed
is the start of the tag's text instead. -/
def tagHandle (directive : Bool) (start : Mark) : ScanM String := do
  if (← peekAt 0) ≠ '!' then fail (tagContext directive) start "did not find expected '!'"
  let s ← read ""
  let rec word : Nat → String → ScanM String
    | 0, _ => exhausted
    | n + 1, acc => do
      if isWordChar (← peekAt 0) then word n (← read acc) else pure acc
  let s ← word (← fuel) s
  if (← peekAt 0) = '!' then read s
  else
    if directive && s ≠ "!" then fail (tagContext directive) start "did not find expected '!'"
    pure s

/-- The characters a tag's text may hold, with brackets and commas inside `!<...>`. -/
def uriChar (verbatim : Bool) (c : Char) : Bool :=
  isWordChar c || ";/?:@&=+$.!~*()%".contains c || c.toNat = 39 ||
    (verbatim && (c = ',' || c = '[' || c = ']'))

/-- The bytes of a text as UTF-8. -/
def utf8Length (lead : Nat) : Nat :=
  if lead &&& 0x80 = 0 then 1 else if lead &&& 0xE0 = 0xC0 then 2
  else if lead &&& 0xF0 = 0xE0 then 3 else if lead &&& 0xF8 = 0xF0 then 4 else 0

/-- Decodes the `%XX` escapes of one UTF-8 character in a tag. -/
def uriEscapes (directive : Bool) (start : Mark) (acc : String) : ScanM String := do
  let rec octets : Nat → Nat → List Nat → ScanM (List Nat)
    | 0, _, bytes => pure bytes.reverse
    | n + 1, width, bytes => do
      let c0 ← peekAt 0
      let c1 ← peekAt 1
      let c2 ← peekAt 2
      if !(c0 = '%' && isHexDigit c1 && isHexDigit c2) then
        fail (tagContext directive) start "did not find URI escaped octet"
      let octet := hexValue c1 * 16 + hexValue c2
      let width ← if bytes.isEmpty then do
          let w := utf8Length octet
          if w = 0 then fail (tagContext directive) start "found an incorrect leading UTF-8 octet"
          pure w
        else do
          if octet &&& 0xC0 ≠ 0x80 then
            fail (tagContext directive) start "found an incorrect trailing UTF-8 octet"
          pure width
      skipN 3
      if bytes.length + 1 = width then pure (octet :: bytes).reverse
      else octets n width (octet :: bytes)
  let bytes ← octets 4 0 []
  let text := String.fromUTF8? (ByteArray.mk (bytes.map (·.toUInt8)).toArray)
  pure (acc ++ text.getD "")

/-- The text of a tag after its handle; `head` is a handle that turned out to be the start
of the text. -/
def tagUri (verbatim directive : Bool) (head : String) (start : Mark) : ScanM String := do
  let acc := if head.length > 1 then String.ofList (head.toList.drop 1) else ""
  let rec go : Nat → String → Bool → ScanM (String × Bool)
    | 0, _, _ => exhausted
    | n + 1, acc, any => do
      let c ← peekAt 0
      if uriChar verbatim c then
        let acc ← if c = '%' then uriEscapes directive start acc else read acc
        go n acc true
      else pure (acc, any)
  let (s, any) ← go (← fuel) acc (!head.isEmpty)
  if !any then fail (tagContext directive) start "did not find expected tag URI"
  pure s

/-- A tag: `!<text>`, `!handle!text`, `!text` or `!` alone. -/
def fetchTag : ScanM Unit := do
  saveKey
  modify fun s => { s with simpleKeyAllowed := false }
  let start := (← get).mark
  let (handle, suffix) ← if (← peekAt 1) = '<' then do
      skipN 2
      let suffix ← tagUri true false "" start
      if (← peekAt 0) ≠ '>' then fail "while scanning a tag" start "did not find the expected '>'"
      skip
      pure ("", suffix)
    else do
      let handle ← tagHandle false start
      if handle.length > 1 && handle.startsWith "!" && handle.endsWith "!" then
        pure (handle, ← tagUri false false "" start)
      else
        let suffix ← tagUri false false handle start
        if suffix.isEmpty then pure ("", "!") else pure ("!", suffix)
  let c ← peekAt 0
  if !isBlankZ c then
    if (← get).flowLevel = 0 || c ≠ ',' then
      fail "while scanning a tag" start "did not find expected whitespace or line break"
  pushToken (.tag handle suffix) start (← get).mark

/-- Steps past blanks. -/
def skipBlanks : ScanM Unit := do
  let rec go : Nat → ScanM Unit
    | 0 => exhausted
    | n + 1 => do
      if isBlank (← peekAt 0) then
        skip
        go n
  go (← fuel)

/-- Steps to the end of the line. -/
def skipToBreak : ScanM Unit := do
  let rec go : Nat → ScanM Unit
    | 0 => exhausted
    | n + 1 => do
      if !isBreakZ (← peekAt 0) then
        skip
        go n
  go (← fuel)

/-- A decimal number of at most two digits in a `%YAML` directive. -/
def versionNumber (start : Mark) : ScanM Nat := do
  let rec go : Nat → Nat → Nat → ScanM Nat
    | 0, _, _ => exhausted
    | n + 1, value, length => do
      let c ← peekAt 0
      if c.isDigit then
        if length + 1 > 2 then
          fail "while scanning a %YAML directive" start "found extremely long version number"
        skip
        go n (value * 10 + (c.toNat - '0'.toNat)) (length + 1)
      else if length = 0 then
        fail "while scanning a %YAML directive" start "did not find expected version number"
      else pure value
  go (← fuel) 0 0

/-- A directive line: `%YAML major.minor` or `%TAG handle prefix`. -/
def fetchDirective : ScanM Unit := do
  unrollIndent (-1) (← get).mark
  removeKey
  modify fun s => { s with simpleKeyAllowed := false }
  let start := (← get).mark
  skip
  let rec word : Nat → String → ScanM String
    | 0, _ => exhausted
    | n + 1, acc => do
      if isWordChar (← peekAt 0) then word n (← read acc) else pure acc
  let name ← word (← fuel) ""
  if name.isEmpty then fail "while scanning a directive" start "could not find expected directive name"
  if !isBlankZ (← peekAt 0) then
    fail "while scanning a directive" start "found unexpected non-alphabetical character"
  let kind ← if name = "YAML" then do
      skipBlanks
      let major ← versionNumber start
      if (← peekAt 0) ≠ '.' then
        fail "while scanning a %YAML directive" start "did not find expected digit or '.' character"
      skip
      let minor ← versionNumber start
      pure (TokenKind.versionDirective major minor)
    else if name = "TAG" then do
      skipBlanks
      let handle ← tagHandle true start
      if !isBlank (← peekAt 0) then
        fail "while scanning a %TAG directive" start "did not find expected whitespace"
      skipBlanks
      let pre ← tagUri true true "" start
      if !isBlankZ (← peekAt 0) then
        fail "while scanning a %TAG directive" start "did not find expected whitespace or line break"
      pure (TokenKind.tagDirective handle pre)
    else fail "while scanning a directive" start "found unknown directive name"
  let stop := (← get).mark
  skipBlanks
  if (← peekAt 0) = '#' then skipToBreak
  if !isBreakZ (← peekAt 0) then
    fail "while scanning a directive" start "did not find expected comment or line break"
  if isBreak (← peekAt 0) then skipLine
  pushToken kind start stop

/-- The indentation spaces and empty lines before a line of a block scalar; fixes the
indentation from the first line with content when it is not given. Gives the breaks read
and the mark after the last of them. -/
def blockBreaks (indent : Nat) (start : Mark) (breaks : String) :
    ScanM (Nat × String × Mark) := do
  let s ← get
  let rec go : Nat → Nat → String → Mark → ScanM (Nat × String × Mark)
    | 0, _, _, _ => exhausted
    | n + 1, maxIndent, breaks, stop => do
      let rec spaces : Nat → ScanM Unit
        | 0 => exhausted
        | m + 1 => do
          let col := (← get).mark.column
          if (indent = 0 || col < indent) && (← peekAt 0) = ' ' then
            skip
            spaces m
      spaces (← fuel)
      let col := (← get).mark.column
      let maxIndent := max maxIndent col
      if (indent = 0 || col < indent) && (← peekAt 0) = '\t' then
        fail "while scanning a block scalar" start "found a tab character where an indentation space is expected"
      if !isBreak (← peekAt 0) then pure (maxIndent, breaks, stop)
      else
        let breaks ← readLine breaks
        go n maxIndent breaks (← get).mark
  let (maxIndent, breaks, stop) ← go (← fuel) 0 breaks s.mark
  let st ← get
  let indent := if indent = 0 then
      let i := max maxIndent (st.indent + 1).toNat
      max i 1
    else indent
  pure (indent, breaks, stop)

/-- A literal `|` or folded `>` scalar with its chomping and indentation indicators. -/
def fetchBlockScalar (literal : Bool) : ScanM Unit := do
  removeKey
  modify fun s => { s with simpleKeyAllowed := true }
  let start := (← get).mark
  skip
  let indicator (c : Char) : Int := if c = '+' then 1 else -1
  let c ← peekAt 0
  let (chomping, increment) ← if c = '+' || c = '-' then do
      skip
      let d ← peekAt 0
      if d.isDigit then
        if d = '0' then fail "while scanning a block scalar" start "found an indentation indicator equal to 0"
        skip
        pure (indicator c, d.toNat - '0'.toNat)
      else pure (indicator c, 0)
    else if c.isDigit then do
      if c = '0' then fail "while scanning a block scalar" start "found an indentation indicator equal to 0"
      skip
      let d ← peekAt 0
      if d = '+' || d = '-' then
        skip
        pure (indicator d, c.toNat - '0'.toNat)
      else pure ((0 : Int), c.toNat - '0'.toNat)
    else pure ((0 : Int), 0)
  skipBlanks
  if (← peekAt 0) = '#' then skipToBreak
  if !isBreakZ (← peekAt 0) then
    fail "while scanning a block scalar" start "did not find expected comment or line break"
  if isBreak (← peekAt 0) then skipLine
  let st ← get
  let indent := if increment > 0 then
      (if st.indent ≥ 0 then (st.indent + increment).toNat else increment)
    else 0
  let (indent, trailing, stop) ← blockBreaks indent start ""
  let rec lines : Nat → String → String → String → Bool → Mark → ScanM (String × String × String × Mark)
    | 0, _, _, _, _, _ => exhausted
    | n + 1, acc, leadingBreak, trailing, leadingBlank, stop => do
      let col := (← get).mark.column
      let c ← peekAt 0
      if col = indent && c ≠ endChar then
        let trailingBlank := isBlank c
        let acc :=
          if !literal && !leadingBlank && !trailingBlank && leadingBreak.startsWith "\n" then
            (if trailing.isEmpty then acc.push ' ' else acc)
          else acc ++ leadingBreak
        let acc := acc ++ trailing
        let leadingBlank := isBlank c
        let rec content : Nat → String → ScanM String
          | 0, _ => exhausted
          | m + 1, acc => do
            if !isBreakZ (← peekAt 0) then content m (← read acc) else pure acc
        let acc ← content (← fuel) acc
        let leadingBreak ← readLine ""
        let (_, trailing, stop) ← blockBreaks indent start ""
        lines n acc leadingBreak trailing leadingBlank stop
      else pure (acc, leadingBreak, trailing, stop)
  let (acc, leadingBreak, trailing, stop) ← lines (← fuel) "" "" trailing false stop
  let acc := if chomping ≠ -1 then acc ++ leadingBreak else acc
  let acc := if chomping = 1 then acc ++ trailing else acc
  pushToken (.scalar acc (if literal then .literal else .folded)) start stop

/-- Whether a document marker `---` or `...` starts at the current place of the line. -/
def atDocumentMarker : ScanM Bool := do
  let s ← get
  let c0 ← peekAt 0
  let c1 ← peekAt 1
  let c2 ← peekAt 2
  let c3 ← peekAt 3
  pure (s.mark.column = 0 && ((c0 = '-' && c1 = '-' && c2 = '-') || (c0 = '.' && c1 = '.' && c2 = '.')) &&
    isBlankZ c3)

/-- The character of a one-letter escape in a double-quoted scalar. -/
def escapeChar : Char → Option Char
  | '0' => some '\x00'
  | 'a' => some '\x07'
  | 'b' => some '\x08'
  | 't' => some '\t'
  | '\t' => some '\t'
  | 'n' => some '\n'
  | 'v' => some '\x0B'
  | 'f' => some '\x0C'
  | 'r' => some '\r'
  | 'e' => some '\x1B'
  | ' ' => some ' '
  | '"' => some '"'
  | '/' => some '/'
  | '\\' => some '\\'
  | 'N' => some '\x85'
  | '_' => some '\xA0'
  | 'L' => some lineSeparator
  | 'P' => some paragraphSeparator
  | c => if c.toNat = 39 then some c else none

/-- The width of a numeric escape: `\x`, `\u` and `\U` take two, four and eight digits. -/
def escapeWidth : Char → Nat
  | 'x' => 2
  | 'u' => 4
  | 'U' => 8
  | _ => 0

/-- Joins the blanks between two parts of a flow scalar: a single line break folds into a
space, further breaks stay, and blanks within a line stay as they are. -/
def foldBlanks (acc : String) (leadingBlanks : Bool) (leadingBreak trailing whitespace : String) : String :=
  if leadingBlanks then
    if leadingBreak.startsWith "\n" then
      if trailing.isEmpty then acc.push ' ' else acc ++ trailing
    else acc ++ leadingBreak ++ trailing
  else acc ++ whitespace

/-- The blanks and line breaks after a part of a flow scalar. Gives whether a line break
was among them, the first break, the later breaks, and the blanks of the line. -/
def flowBlanks (leadingBlanks : Bool) (plainIndent : Option Nat) (start : Mark) :
    ScanM (Bool × String × String × String) := do
  let rec go : Nat → Bool → String → String → String → ScanM (Bool × String × String × String)
    | 0, _, _, _, _ => exhausted
    | n + 1, leadingBlanks, leadingBreak, trailing, whitespace => do
      let c ← peekAt 0
      if isBlank c then
        if let some indent := plainIndent then
          if leadingBlanks && (← get).mark.column < indent && c = '\t' then
            fail "while scanning a plain scalar" start "found a tab character that violates indentation"
        if !leadingBlanks then go n leadingBlanks leadingBreak trailing (← read whitespace)
        else
          skip
          go n leadingBlanks leadingBreak trailing whitespace
      else if isBreak c then
        if !leadingBlanks then go n true (← readLine "") trailing ""
        else go n leadingBlanks leadingBreak (← readLine trailing) whitespace
      else pure (leadingBlanks, leadingBreak, trailing, whitespace)
  go (← fuel) leadingBlanks "" "" ""

/-- A numeric escape's character, after its letter. -/
def numericEscape (width : Nat) (start : Mark) : ScanM Char := do
  let rec digits : Nat → Nat → Nat → ScanM Nat
    | 0, _, value => pure value
    | n + 1, k, value => do
      let c ← peekAt k
      if !isHexDigit c then
        fail "while parsing a quoted scalar" start "did not find expected hexdecimal number"
      digits n (k + 1) (value * 16 + hexValue c)
  let value ← digits width 0 0
  if (0xD800 ≤ value && value ≤ 0xDFFF) || value > 0x10FFFF then
    fail "while parsing a quoted scalar" start "found invalid Unicode character escape code"
  skipN width
  pure (Char.ofNat value)

/-- A single- or double-quoted scalar. -/
def fetchQuoted (single : Bool) : ScanM Unit := do
  saveKey
  modify fun s => { s with simpleKeyAllowed := false }
  let start := (← get).mark
  skip
  let quote : Char := if single then Char.ofNat 39 else '"'
  -- The characters up to the next blank; gives whether an escaped line break ended them.
  let rec part : Nat → String → ScanM (String × Bool)
    | 0, _ => exhausted
    | n + 1, acc => do
      let c ← peekAt 0
      let c1 ← peekAt 1
      if isBlankZ c then pure (acc, false)
      else if single && c = quote && c1 = quote then
        skipN 2
        part n (acc.push quote)
      else if c = quote then pure (acc, false)
      else if !single && c = '\\' && isBreak c1 then
        skip
        skipLine
        pure (acc, true)
      else if !single && c = '\\' then
        match escapeChar c1 with
        | some e =>
          skipN 2
          part n (acc.push e)
        | none =>
          let w := escapeWidth c1
          if w = 0 then fail "while parsing a quoted scalar" start "found unknown escape character"
          skipN 2
          part n (acc.push (← numericEscape w start))
      else part n (← read acc)
  let rec go : Nat → String → ScanM String
    | 0, _ => exhausted
    | n + 1, acc => do
      if ← atDocumentMarker then
        fail "while scanning a quoted scalar" start "found unexpected document indicator"
      if (← peekAt 0) = endChar then
        fail "while scanning a quoted scalar" start "found unexpected end of stream"
      let (acc, leadingBlanks) ← part (← fuel) acc
      if (← peekAt 0) = quote then pure acc
      else
        let (leadingBlanks, leadingBreak, trailing, whitespace) ← flowBlanks leadingBlanks none start
        go n (foldBlanks acc leadingBlanks leadingBreak trailing whitespace)
  let acc ← go (← fuel) ""
  skip
  pushToken (.scalar acc (if single then .singleQuoted else .doubleQuoted)) start (← get).mark

/-- Whether a character ends a plain scalar: `: ` anywhere, and in a flow collection also
commas, question marks and brackets. -/
def endsPlain (flow : Bool) (c c1 : Char) : Bool :=
  (c = ':' && isBlankZ c1) || (flow && (c = ',' || c = '?' || c = '[' || c = ']' || c = '{' || c = '}'))

/-- The characters of a plain scalar up to a blank or an indicator that ends it. Blanks
kept from before are joined in front of the first character taken. -/
def plainChars (flow : Bool) : Nat → String → Option (Bool × String × String × String) → Mark →
    ScanM (String × Option (Bool × String × String × String) × Mark)
  | 0, _, _, _ => exhausted
  | n + 1, acc, pending, stop => do
    let c ← peekAt 0
    let c1 ← peekAt 1
    if isBlankZ c || endsPlain flow c c1 then pure (acc, pending, stop)
    else
      let acc := match pending with
        | some (leadingBlanks, leadingBreak, trailing, whitespace) =>
          foldBlanks acc leadingBlanks leadingBreak trailing whitespace
        | none => acc
      let acc ← read acc
      plainChars flow n acc none (← get).mark

/-- The parts of a plain scalar and the blanks between them. Gives the text, the blanks
left after it, and the mark after its last character. -/
def plainParts (indent : Nat) (start : Mark) (flow : Bool) : Nat → String →
    Option (Bool × String × String × String) → Mark →
    ScanM (String × Option (Bool × String × String × String) × Mark)
  | 0, _, _, _ => exhausted
  | n + 1, acc, pending, stop => do
    need 4
    if (← atDocumentMarker) || (← peekAt 0) == '#' then pure (acc, pending, stop)
    else
      let (acc, pending, stop) ← plainChars flow (← fuel) acc pending stop
      let c ← peekAt 0
      if !(isBlank c || isBreak c) then pure (acc, pending, stop)
      else
        let (leadingBlanks, leadingBreak, trailing, whitespace) ← flowBlanks false (some indent) start
        let pending := if leadingBlanks || !whitespace.isEmpty then
            some (leadingBlanks, leadingBreak, trailing, whitespace)
          else none
        if !flow && (← get).mark.column < indent then pure (acc, pending, stop)
        else plainParts indent start flow n acc pending stop

/-- A plain scalar. It may run over several lines, which fold as in quoted scalars; in a
block it ends at a line less indented than its block's content. A line break after it
lets a simple key follow. -/
def fetchPlain : ScanM Unit := do
  saveKey
  modify fun s => { s with simpleKeyAllowed := false }
  let st ← get
  let indent := (st.indent + 1).toNat
  let start := st.mark
  let (acc, pending, stop) ← plainParts indent start (st.flowLevel > 0) (← fuel) "" none start
  pushToken (.scalar acc .plain) start stop
  if (pending.map (·.1)).getD false then modify fun s => { s with simpleKeyAllowed := true }

/-- The characters that cannot start a plain scalar. -/
def indicators : List Char :=
  ['-', '?', ':', ',', '[', ']', '{', '}', '#', '&', '*', '!', '|', '>', '"', '%', '@', '`', Char.ofNat 39]

/-- Reads the next token into the queue. -/
def fetchNext : ScanM Unit := do
  if !(← get).started then
    fetchStreamStart
    return
  let scanMark := (← get).mark
  toNextToken
  unrollIndent (← get).mark.column scanMark
  need 4
  let s ← get
  let c ← peekAt 0
  let c1 ← peekAt 1
  if c = endChar then fetchStreamEnd
  else if s.mark.column = 0 && c = '%' then fetchDirective
  else if (← atDocumentMarker) && c = '-' then fetchDocumentIndicator .documentStart
  else if (← atDocumentMarker) && c = '.' then fetchDocumentIndicator .documentEnd
  else if c = '[' then fetchFlowStart .flowSequenceStart
  else if c = '{' then fetchFlowStart .flowMappingStart
  else if c = ']' then fetchFlowEnd .flowSequenceEnd
  else if c = '}' then fetchFlowEnd .flowMappingEnd
  else if c = ',' then fetchFlowEntry
  else if c = '-' && isBlankZ c1 then fetchBlockEntry
  else if c = '?' && (s.flowLevel > 0 || isBlankZ c1) then fetchKey
  else if c = ':' && (s.flowLevel > 0 || isBlankZ c1) then fetchValue
  else if c = '*' then fetchAnchor false
  else if c = '&' then fetchAnchor true
  else if c = '!' then fetchTag
  else if c = '|' && s.flowLevel = 0 then fetchBlockScalar true
  else if c = '>' && s.flowLevel = 0 then fetchBlockScalar false
  else if c.toNat = 39 then fetchQuoted true
  else if c = '"' then fetchQuoted false
  else if !(isBlankZ c || indicators.contains c) || (c = '-' && !isBlank c1) ||
      (s.flowLevel = 0 && (c = '?' || c = ':') && !isBlankZ c1) then fetchPlain
  else fail "while scanning for the next token" s.mark "found character that cannot start any token"

/-- Fills the queue until it holds three tokens past its head and the head is not a
possible simple key. -/
def fetchMore : ScanM Unit := do
  let rec go : Nat → ScanM Unit
    | 0 => exhausted
    | n + 1 => do
      let s ← get
      if s.head + 2 < s.tokens.size then
        match s.keysByToken.lookup s.head with
        | none => return
        | some i =>
          if !(← keyValid i) then return
      fetchNext
      go n
  go ((← fuel) * 4 + 8)

/-- The token at the head of the queue. -/
def peekToken : ScanM Token := do
  if !(← get).available then
    fetchMore
    modify fun s => { s with available := true }
  let s ← get
  pure (s.tokens.getD s.head default)

/-- Takes the head token. -/
def skipToken : ScanM Unit :=
  modify fun s => { s with available := false, head := s.head + 1 }

end Scanner

end Yaml

end Timebox
