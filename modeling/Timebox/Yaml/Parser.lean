import Timebox.Yaml.Scanner

/-! # From tokens to events

The parser reads tokens and gives one event at a time: the start and end of the stream,
of a document, of a sequence or a mapping, a scalar, or an alias. It is a state machine:
`state` says what the grammar expects next, and `states` is the stack of what to expect
after the node being read. Empty keys and values become empty plain scalars.

Tags are written with a handle; the handles `!` and `!!` stand for `!` and
`tag:yaml.org,2002:` unless a `%TAG` directive of the document says otherwise.
-/

namespace Timebox

namespace Yaml

/-- What a parse event is. -/
inductive EventKind where
  | streamStart
  | streamEnd
  | documentStart
  | documentEnd
  | alias (name : String)
  | scalar (anchor tag text : String) (style : ScalarStyle) (plainImplicit : Bool)
  | sequenceStart (anchor tag : String) (flow : Bool)
  | sequenceEnd
  | mappingStart (anchor tag : String) (flow : Bool)
  | mappingEnd
deriving Repr, Inhabited

/-- An event and the mark where it starts. -/
structure Event where
  kind : EventKind
  start : Mark
deriving Repr, Inhabited

/-- What the grammar expects next. -/
inductive ParseState where
  | streamStart
  | implicitDocumentStart
  | documentStart
  | documentContent
  | documentEnd
  | blockNode
  | flowNode
  | blockSequenceFirstEntry
  | blockSequenceEntry
  | indentlessSequenceEntry
  | blockMappingFirstKey
  | blockMappingKey
  | blockMappingValue
  | flowSequenceFirstEntry
  | flowSequenceEntry
  | flowSequenceEntryMappingKey
  | flowSequenceEntryMappingValue
  | flowSequenceEntryMappingEnd
  | flowMappingFirstKey
  | flowMappingKey
  | flowMappingValue
  | flowMappingEmptyValue
  | finished
deriving DecidableEq, Repr, Inhabited

/-- The parser's state. -/
structure Parser where
  scanner : Scanner
  state : ParseState := .streamStart
  states : List ParseState := []
  marks : List Mark := []
  tagDirectives : List (String × String) := []
deriving Inhabited

/-- The parser's steps. -/
abbrev ParseM := EStateM Problem Parser

namespace Parser

/-- The tag handles every document has. -/
def defaultDirectives : List (String × String) := [("!", "!"), ("!!", "tag:yaml.org,2002:")]

/-- A parser at the start of a text. -/
def make (text : String) : Parser := { scanner := Scanner.make text }

/-- Runs a step of the scanner. -/
def scan {α : Type} (m : ScanM α) : ParseM α := fun p =>
  match m p.scanner with
  | .ok a s => .ok a { p with scanner := s }
  | .error e s => .error e { p with scanner := s }

/-- The next token. -/
def peek : ParseM Token := scan Scanner.peekToken

/-- Takes the next token. -/
def skipToken : ParseM Unit := scan Scanner.skipToken

/-- Stops with a problem of the parser. -/
def fail {α : Type} (context : String) (contextMark : Mark) (problem : String) (problemMark : Mark) :
    ParseM α :=
  throw { layer := .parser, context, contextMark, problem, problemMark }

/-- Goes back to what was expected after the current node. -/
def popState : ParseM Unit :=
  modify fun p => match p.states with
    | s :: rest => { p with state := s, states := rest }
    | [] => { p with state := .finished }

/-- Expects a state after the current node. -/
def pushState (s : ParseState) : ParseM Unit :=
  modify fun p => { p with states := s :: p.states }

/-- Remembers where a collection starts. -/
def pushMark (m : Mark) : ParseM Unit :=
  modify fun p => { p with marks := m :: p.marks }

/-- Forgets where the innermost collection starts, giving it. -/
def popMark : ParseM Mark := do
  let p ← get
  match p.marks with
  | m :: rest =>
    set { p with marks := rest }
    pure m
  | [] => pure {}

/-- An empty plain scalar at a mark. -/
def emptyScalar (m : Mark) : Event := ⟨.scalar "" "" "" .plain true, m⟩

/-- Adds a tag directive; a second one for the same handle is a problem unless it is one
of the defaults. -/
def addDirective (handle pre : String) (allowDuplicate : Bool) (mark : Mark) : ParseM Unit := do
  let p ← get
  if p.tagDirectives.any (·.1 == handle) then
    if allowDuplicate then return
    fail "" {} "found duplicate %TAG directive" mark
  set { p with tagDirectives := p.tagDirectives ++ [(handle, pre)] }

/-- The directives before a document; gives whether there were any. -/
def directives : ParseM Bool := do
  let rec go : Nat → Bool → Bool → ParseM Bool
    | 0, _, any => pure any
    | n + 1, seenVersion, any => do
      let t ← peek
      match t.kind with
      | .versionDirective major minor =>
        if seenVersion then fail "" {} "found duplicate %YAML directive" t.start
        if major ≠ 1 || minor ≠ 1 then
          fail "" {} "found incompatible YAML document" t.start
        skipToken
        go n true true
      | .tagDirective handle pre =>
        addDirective handle pre false t.start
        skipToken
        go n seenVersion true
      | _ => pure any
  let p ← get
  let any ← go (p.scanner.text.size + 2) false false
  let t ← peek
  for (h, pre) in defaultDirectives do
    addDirective h pre true t.start
  pure any

/-- The start of the stream. -/
def streamStart : ParseM Event := do
  let t ← peek
  match t.kind with
  | .streamStart =>
    modify fun p => { p with state := .implicitDocumentStart }
    skipToken
    pure ⟨.streamStart, t.start⟩
  | _ => fail "" {} "did not find expected <stream-start>" t.start

/-- The start of a document, or the end of the stream. -/
def documentStart (implicit : Bool) : ParseM Event := do
  let rec extraEnds : Nat → ParseM Unit
    | 0 => pure ()
    | n + 1 => do
      if (← peek).kind matches .documentEnd then
        skipToken
        extraEnds n
  if !implicit then extraEnds ((← get).scanner.text.size + 2)
  let t ← peek
  let isDirective := match t.kind with
    | .versionDirective .. | .tagDirective .. => true
    | _ => false
  if implicit && !isDirective && !(t.kind matches .documentStart) && !(t.kind matches .streamEnd) then
    let _ ← directives
    pushState .documentEnd
    modify fun p => { p with state := .blockNode }
    pure ⟨.documentStart, t.start⟩
  else if !(t.kind matches .streamEnd) then
    let start := t.start
    let _ ← directives
    let t ← peek
    if !(t.kind matches .documentStart) then fail "" {} "did not find expected <document start>" t.start
    pushState .documentEnd
    modify fun p => { p with state := .documentContent }
    skipToken
    pure ⟨.documentStart, start⟩
  else
    modify fun p => { p with state := .finished }
    skipToken
    pure ⟨.streamEnd, t.start⟩

/-- What stands in a document after its `---`. -/
def documentContent (node : ParseM Event) : ParseM Event := do
  let t ← peek
  match t.kind with
  | .versionDirective .. | .tagDirective .. | .documentStart | .documentEnd | .streamEnd =>
    popState
    pure (emptyScalar t.start)
  | _ => node

/-- The end of a document, with or without `...`. -/
def documentEnd : ParseM Event := do
  let t ← peek
  let start := t.start
  if t.kind matches .documentEnd then skipToken
  modify fun p => { p with tagDirectives := [], state := .documentStart }
  pure ⟨.documentEnd, start⟩

/-- A node: an alias, or a scalar or collection with an optional anchor and tag in either
order. `block` allows block collections; `indentless` allows a sequence whose entries are
not indented under a mapping key. -/
def node (block indentless : Bool) : ParseM Event := do
  let t ← peek
  match t.kind with
  | .alias name =>
    popState
    skipToken
    pure ⟨.alias name, t.start⟩
  | _ =>
  let start := t.start
  -- The anchor and the tag, and the mark of the tag.
  let (anchor, tag?, t) ← match t.kind with
    | .anchor a => do
      skipToken
      let t2 ← peek
      match t2.kind with
      | .tag h s =>
        skipToken
        pure (a, some (h, s, t2.start), ← peek)
      | _ => pure (a, none, t2)
    | .tag h s => do
      skipToken
      let t2 ← peek
      match t2.kind with
      | .anchor a =>
        skipToken
        pure (a, some (h, s, t.start), ← peek)
      | _ => pure ("", some (h, s, t.start), t2)
    | _ => pure ("", none, t)
  let tag ← match tag? with
    | none => pure ""
    | some (handle, suffix, tagMark) =>
      if handle.isEmpty then pure suffix
      else
        match (← get).tagDirectives.find? (·.1 == handle) with
        | some (_, pre) => pure (pre ++ suffix)
        | none => fail "while parsing a node" start "found undefined tag handle" tagMark
  match t.kind with
  | .blockEntry =>
    if indentless then
      modify fun p => { p with state := .indentlessSequenceEntry }
      pure ⟨.sequenceStart anchor tag false, start⟩
    else if !anchor.isEmpty || !tag.isEmpty then
      popState
      pure ⟨.scalar anchor tag "" .plain tag.isEmpty, start⟩
    else
      fail (if block then "while parsing a block node" else "while parsing a flow node") start
        "did not find expected node content" t.start
  | .scalar text style =>
    let plainImplicit := (tag.isEmpty && style = .plain) || tag = "!"
    popState
    skipToken
    pure ⟨.scalar anchor tag text style plainImplicit, start⟩
  | .flowSequenceStart =>
    modify fun p => { p with state := .flowSequenceFirstEntry }
    pure ⟨.sequenceStart anchor tag true, start⟩
  | .flowMappingStart =>
    modify fun p => { p with state := .flowMappingFirstKey }
    pure ⟨.mappingStart anchor tag true, start⟩
  | .blockSequenceStart =>
    if block then
      modify fun p => { p with state := .blockSequenceFirstEntry }
      pure ⟨.sequenceStart anchor tag false, start⟩
    else if !anchor.isEmpty || !tag.isEmpty then
      popState
      pure ⟨.scalar anchor tag "" .plain tag.isEmpty, start⟩
    else fail "while parsing a flow node" start "did not find expected node content" t.start
  | .blockMappingStart =>
    if block then
      modify fun p => { p with state := .blockMappingFirstKey }
      pure ⟨.mappingStart anchor tag false, start⟩
    else if !anchor.isEmpty || !tag.isEmpty then
      popState
      pure ⟨.scalar anchor tag "" .plain tag.isEmpty, start⟩
    else fail "while parsing a flow node" start "did not find expected node content" t.start
  | _ =>
    if !anchor.isEmpty || !tag.isEmpty then
      popState
      pure ⟨.scalar anchor tag "" .plain tag.isEmpty, start⟩
    else
      fail (if block then "while parsing a block node" else "while parsing a flow node") start
        "did not find expected node content" t.start

/-- An entry of a block sequence, or its end. -/
def blockSequenceEntry (first : Bool) : ParseM Event := do
  if first then
    pushMark (← peek).start
    skipToken
  let t ← peek
  match t.kind with
  | .blockEntry =>
    let m := t.stop
    skipToken
    let t ← peek
    match t.kind with
    | .blockEntry | .blockEnd =>
      modify fun p => { p with state := .blockSequenceEntry }
      pure (emptyScalar m)
    | _ =>
      pushState .blockSequenceEntry
      node true false
  | .blockEnd =>
    popState
    let _ ← popMark
    skipToken
    pure ⟨.sequenceEnd, t.start⟩
  | _ =>
    let m ← popMark
    fail "while parsing a block collection" m "did not find expected '-' indicator" t.start

/-- An entry of a sequence that is not indented under its mapping key, or its end. -/
def indentlessSequenceEntry : ParseM Event := do
  let t ← peek
  match t.kind with
  | .blockEntry =>
    let m := t.stop
    skipToken
    let t ← peek
    match t.kind with
    | .blockEntry | .key | .value | .blockEnd =>
      modify fun p => { p with state := .indentlessSequenceEntry }
      pure (emptyScalar m)
    | _ =>
      pushState .indentlessSequenceEntry
      node true false
  | _ =>
    popState
    pure ⟨.sequenceEnd, t.start⟩

/-- A key of a block mapping, or its end. -/
def blockMappingKey (first : Bool) : ParseM Event := do
  if first then
    pushMark (← peek).start
    skipToken
  let t ← peek
  match t.kind with
  | .key =>
    let m := t.stop
    skipToken
    let t ← peek
    match t.kind with
    | .key | .value | .blockEnd =>
      modify fun p => { p with state := .blockMappingValue }
      pure (emptyScalar m)
    | _ =>
      pushState .blockMappingValue
      node true true
  | .blockEnd =>
    popState
    let _ ← popMark
    skipToken
    pure ⟨.mappingEnd, t.start⟩
  | _ =>
    let m ← popMark
    fail "while parsing a block mapping" m "did not find expected key" t.start

/-- A value of a block mapping; a missing one is empty. -/
def blockMappingValue : ParseM Event := do
  let t ← peek
  match t.kind with
  | .value =>
    let m := t.stop
    skipToken
    let t ← peek
    match t.kind with
    | .key | .value | .blockEnd =>
      modify fun p => { p with state := .blockMappingKey }
      pure (emptyScalar m)
    | _ =>
      pushState .blockMappingKey
      node true true
  | _ =>
    modify fun p => { p with state := .blockMappingKey }
    pure (emptyScalar t.start)

/-- An entry of a flow sequence, or its end; `key: value` inside makes a one-pair mapping. -/
def flowSequenceEntry (first : Bool) : ParseM Event := do
  if first then
    pushMark (← peek).start
    skipToken
  let t ← peek
  let t ← if !(t.kind matches .flowSequenceEnd) && !first then
      if t.kind matches .flowEntry then do
        skipToken
        peek
      else do
        let m ← popMark
        fail "while parsing a flow sequence" m "did not find expected ',' or ']'" t.start
    else pure t
  match t.kind with
  | .flowSequenceEnd =>
    popState
    let _ ← popMark
    skipToken
    pure ⟨.sequenceEnd, t.start⟩
  | .key =>
    modify fun p => { p with state := .flowSequenceEntryMappingKey }
    skipToken
    pure ⟨.mappingStart "" "" true, t.start⟩
  | _ =>
    pushState .flowSequenceEntry
    node false false

/-- The key of a one-pair mapping in a flow sequence. -/
def flowSequenceEntryMappingKey : ParseM Event := do
  let t ← peek
  match t.kind with
  | .value | .flowEntry | .flowSequenceEnd =>
    let m := t.stop
    skipToken
    modify fun p => { p with state := .flowSequenceEntryMappingValue }
    pure (emptyScalar m)
  | _ =>
    pushState .flowSequenceEntryMappingValue
    node false false

/-- The value of a one-pair mapping in a flow sequence. -/
def flowSequenceEntryMappingValue : ParseM Event := do
  let t ← peek
  if t.kind matches .value then
    skipToken
    let t2 ← peek
    match t2.kind with
    | .flowEntry | .flowSequenceEnd => pure ()
    | _ =>
      pushState .flowSequenceEntryMappingEnd
      return ← node false false
  modify fun p => { p with state := .flowSequenceEntryMappingEnd }
  pure (emptyScalar t.start)

/-- The end of a one-pair mapping in a flow sequence. -/
def flowSequenceEntryMappingEnd : ParseM Event := do
  let t ← peek
  modify fun p => { p with state := .flowSequenceEntry }
  pure ⟨.mappingEnd, t.start⟩

/-- A key of a flow mapping, or its end. -/
def flowMappingKey (first : Bool) : ParseM Event := do
  if first then
    pushMark (← peek).start
    skipToken
  let t ← peek
  let t ← if !(t.kind matches .flowMappingEnd) && !first then
      if t.kind matches .flowEntry then do
        skipToken
        peek
      else do
        let m ← popMark
        fail "while parsing a flow mapping" m "did not find expected ',' or '\x7d'" t.start
    else pure t
  match t.kind with
  | .flowMappingEnd =>
    popState
    let _ ← popMark
    skipToken
    pure ⟨.mappingEnd, t.start⟩
  | .key =>
    skipToken
    let t ← peek
    match t.kind with
    | .value | .flowEntry | .flowMappingEnd =>
      modify fun p => { p with state := .flowMappingValue }
      pure (emptyScalar t.start)
    | _ =>
      pushState .flowMappingValue
      node false false
  | _ =>
    pushState .flowMappingEmptyValue
    node false false

/-- A value of a flow mapping; `empty` when the key had no `:` at all. -/
def flowMappingValue (empty : Bool) : ParseM Event := do
  let t ← peek
  if empty then
    modify fun p => { p with state := .flowMappingKey }
    return emptyScalar t.start
  if t.kind matches .value then
    skipToken
    let t ← peek
    match t.kind with
    | .flowEntry | .flowMappingEnd => pure ()
    | _ =>
      pushState .flowMappingKey
      return ← node false false
    modify fun p => { p with state := .flowMappingKey }
    return emptyScalar t.start
  modify fun p => { p with state := .flowMappingKey }
  pure (emptyScalar t.start)

/-- The next event; none after the end of the stream. -/
def next : ParseM (Option Event) := do
  let p ← get
  let step : ParseM Event := match p.state with
    | .streamStart => streamStart
    | .implicitDocumentStart => documentStart true
    | .documentStart => documentStart false
    | .documentContent => documentContent (node true false)
    | .documentEnd => documentEnd
    | .blockNode => node true false
    | .flowNode => node false false
    | .blockSequenceFirstEntry => blockSequenceEntry true
    | .blockSequenceEntry => blockSequenceEntry false
    | .indentlessSequenceEntry => indentlessSequenceEntry
    | .blockMappingFirstKey => blockMappingKey true
    | .blockMappingKey => blockMappingKey false
    | .blockMappingValue => blockMappingValue
    | .flowSequenceFirstEntry => flowSequenceEntry true
    | .flowSequenceEntry => flowSequenceEntry false
    | .flowSequenceEntryMappingKey => flowSequenceEntryMappingKey
    | .flowSequenceEntryMappingValue => flowSequenceEntryMappingValue
    | .flowSequenceEntryMappingEnd => flowSequenceEntryMappingEnd
    | .flowMappingFirstKey => flowMappingKey true
    | .flowMappingKey => flowMappingKey false
    | .flowMappingValue => flowMappingValue false
    | .flowMappingEmptyValue => flowMappingValue true
    | .finished => pure default
  if p.state = .finished then pure none else some <$> step

end Parser

end Yaml

end Timebox
