import Timebox.Yaml.Parser
import Timebox.Yaml.Resolve

/-! # The node tree of a document

Events become a tree (`compose`): a document holds one node; a sequence holds its
items; a mapping holds its keys and values one after the other; a scalar holds its text;
an alias stands for the node its anchor was last given to. Only the first document of a
text is read.

Each node keeps its tag in short form: an explicit tag (other than `!`), or else `!!seq`
and `!!map` for collections, `!!str` for quoted and block scalars, `!!merge` for a plain
`<<`, and the tag a plain scalar resolves to. A node also keeps the line it starts on,
counted from one, and a number that no other node of the text has.

An anchor is known from the moment its node starts, so a node may hold an alias of
itself; the node an alias stands for is looked up in the table of anchored nodes
(`Tree.anchored`).
-/

namespace Timebox

namespace Yaml

/-- What a node is. -/
inductive NodeKind where
  | document
  | sequence
  | mapping
  | scalar
  | alias
deriving DecidableEq, Repr, Inhabited

/-- What a node says of itself, apart from what it holds. -/
structure Head where
  kind : NodeKind
  /-- The tag in short form; empty for a document and an alias. -/
  tag : String := ""
  /-- A scalar's text, or the anchor an alias names. -/
  value : String := ""
  /-- How a scalar was written. -/
  style : ScalarStyle := .plain
  /-- Whether the tag was written out. -/
  tagged : Bool := false
  /-- The line the node starts on, from one. -/
  line : Nat := 0
  /-- A number no other node of the text has. -/
  id : Nat := 0
  /-- For an alias: the place of the node it stands for in the table of anchored nodes. -/
  target : Nat := 0
deriving Repr, Inhabited

/-- A node with what it holds. -/
inductive Node where
  | mk (head : Head) (content : List Node)
deriving Repr, Inhabited

namespace Node

/-- What a node says of itself. -/
def head : Node → Head
  | mk h _ => h

/-- What a node holds. -/
def content : Node → List Node
  | mk _ c => c

end Node

/-- The first document of a text, with the anchored nodes its aliases stand for. -/
structure Tree where
  root : Option Node
  anchored : Array Node
deriving Inhabited

/-- Why a text could not be read or decoded. -/
inductive ReadError where
  /-- The text is not well-formed. -/
  | malformed (p : Problem)
  /-- The text is well-formed but cannot be decoded at all. -/
  | invalid (text : String)
  /-- Values of the text that do not fit where they go, one line each. -/
  | types (lines : List String)
deriving Repr, Inhabited

/-- The text of a read error. -/
def ReadError.message : ReadError → String
  | .malformed p => "yaml: " ++ p.text
  | .invalid t => "yaml: " ++ t
  | .types ls => "yaml: unmarshal errors:\n  " ++ "\n  ".intercalate ls

/-- The state of building a tree: the parser, the event looked at but not yet taken, the
anchors with their places in the table (the last given first), the table, and the count
of nodes made. -/
structure Composer where
  parser : Parser
  pending : Option Event := none
  anchors : List (String × Nat) := []
  anchored : Array Node := #[]
  count : Nat := 0
deriving Inhabited

/-- The steps of building a tree. -/
abbrev ComposeM := EStateM ReadError Composer

namespace Composer

/-- The next event, left in place. -/
def peek : ComposeM Event := do
  let c ← get
  match c.pending with
  | some e => pure e
  | none =>
    match Parser.next c.parser with
    | .ok (some e) p => set { c with parser := p, pending := some e }; pure e
    | .ok none p => set { c with parser := p }; throw (.invalid "attempted to go past the end of stream; corrupted value?")
    | .error e p => set { c with parser := p }; throw (.malformed e)

/-- Takes the event looked at. -/
def take : ComposeM Unit := do
  let _ ← peek
  modify fun c => { c with pending := none }

/-- The problem of a tree nested deeper than the text allows; the fuel given is always
enough. -/
def exhausted {α : Type} : ComposeM α := throw (.invalid "input nested too deeply")

/-- A new node's head: its tag is the explicit one (other than `!`) in short form, else
the given default, else for a scalar the tag its text resolves to. -/
def newHead (kind : NodeKind) (defaultTag tag value : String) (start : Mark) : ComposeM Head := do
  let c ← get
  set { c with count := c.count + 1 }
  let (tag, tagged) :=
    if tag ≠ "" ∧ tag ≠ "!" then (shortTag tag, true)
    else if defaultTag ≠ "" then (defaultTag, false)
    else if kind = .scalar then ((resolveText "" value).1, false)
    else ("", false)
  pure { kind, tag, value, tagged, line := start.line + 1, id := c.count }

/-- Gives an anchor to the node being made: it takes the next place of the table. -/
def anchorAt (anchor : String) : ComposeM (Option Nat) := do
  if anchor = "" then pure none
  else
    let c ← get
    let slot := c.anchored.size
    set { c with anchors := (anchor, slot) :: c.anchors, anchored := c.anchored.push default }
    pure (some slot)

/-- Puts a finished anchored node into its place. -/
def settle (slot : Option Nat) (n : Node) : ComposeM Unit :=
  match slot with
  | some i => modify fun c => { c with anchored := c.anchored.set! i n }
  | none => pure ()

/-- Whether an event ends a collection. -/
def closes (e : Event) : Bool :=
  match e.kind with
  | .sequenceEnd | .mappingEnd => true
  | _ => false

/-- A name between single quotes. -/
def quoteName (name : String) : String :=
  let q := (Char.ofNat 39).toString
  q ++ name ++ q

mutual

/-- Reads one node, or none at the end of the stream. -/
def node : Nat → ComposeM (Option Node)
  | 0 => exhausted
  | fuel + 1 => do
    let e ← peek
    match e.kind with
    | .scalar anchor tag text style _ =>
      let defaultTag :=
        if style = .plain then (if text = "<<" then mergeTag else "") else strTag
      let h ← newHead .scalar defaultTag tag text e.start
      let slot ← anchorAt anchor
      take
      let n := Node.mk { h with style } []
      settle slot n
      pure (some n)
    | .alias name =>
      let h ← newHead .alias "" "" name e.start
      match (← get).anchors.lookup name with
      | none => throw (.invalid ("unknown anchor " ++ quoteName name ++ " referenced"))
      | some slot =>
        take
        pure (some (Node.mk { h with target := slot } []))
    | .sequenceStart anchor tag _ =>
      let h ← newHead .sequence seqTag tag "" e.start
      let slot ← anchorAt anchor
      take
      let items ← children fuel
      take
      let n := Node.mk h items
      settle slot n
      pure (some n)
    | .mappingStart anchor tag _ =>
      let h ← newHead .mapping mapTag tag "" e.start
      let slot ← anchorAt anchor
      take
      let items ← children fuel
      take
      let n := Node.mk h items
      settle slot n
      pure (some n)
    | .documentStart =>
      let h ← newHead .document "" "" "" e.start
      take
      let body ← node fuel
      match (← peek).kind with
      | .documentEnd => take
      | _ => throw (.invalid "expected DOCUMENT-END event")
      pure (some (Node.mk h body.toList))
    | .streamEnd => pure none
    | _ => throw (.invalid "attempted to parse an unexpected event")

/-- Reads the nodes of a collection up to the event that ends it. -/
def children : Nat → ComposeM (List Node)
  | 0 => exhausted
  | fuel + 1 => do
    let e ← peek
    if closes e then pure []
    else
      let n ← node fuel
      let rest ← children fuel
      pure (n.toList ++ rest)

end

end Composer

/-- The characters a text may hold: tab, line feed, carriage return, the printable ASCII
characters, next line, and the rest of Unicode but for the C1 controls, surrogates and the
two non-characters at the end of the basic plane. -/
def allowedChar (c : Char) : Bool :=
  let v := c.toNat
  v = 0x09 ∨ v = 0x0A ∨ v = 0x0D ∨ (0x20 ≤ v ∧ v ≤ 0x7E) ∨ v = 0x85 ∨ (0xA0 ≤ v ∧ v ≤ 0xD7FF) ∨
    (0xE000 ≤ v ∧ v ≤ 0xFFFD) ∨ (0x10000 ≤ v ∧ v ≤ 0x10FFFF)

/-- The first document of a text as a tree; an empty text reads as a single line break. -/
def compose (text : String) : Except ReadError Tree :=
  if !text.toList.all allowedChar then
    .error (.malformed { layer := .reader, problem := "control characters are not allowed" })
  else
    let text := if text.isEmpty then "\n" else text
    let start : ComposeM Unit := do
      match (← Composer.peek).kind with
      | .streamStart => Composer.take
      | _ => throw (.invalid "expected STREAM-START event")
    let run : ComposeM (Option Node) := do
      start
      Composer.node (4 * text.length + 16)
    match run { parser := Parser.make text } with
    | .ok root c => .ok { root, anchored := c.anchored }
    | .error e _ => .error e

end Yaml

end Timebox
