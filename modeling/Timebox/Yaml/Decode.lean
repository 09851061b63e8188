import Timebox.Yaml.Node
import Timebox.Text.Quote
import Timebox.Text.Base64
import Timebox.Text.Utf8
import Timebox.Double.Text

/-! # Decoding a tree into typed values

A tree is decoded into a place of a given `Shape`: a float, a boolean, a text, an integer,
a record with named fields, a map from texts to values of any shape, or a value of any
shape. `Decoder.decode` walks the tree and the shape together:

* a scalar becomes a value of the place's type when its resolved meaning fits (integers
  fit floats; the words `yes`, `no`, `on`, `off` and their kin fit booleans; every scalar
  fits a text, which takes its written form); a null leaves the place as it was;
* a mapping fills a record field by field, by the fields' names, ignoring unknown keys;
  the key `<<` merges further mappings in, whose keys lose to those written beside it;
* an alias decodes the node it stands for, unless it is already being decoded through
  itself.

Values that do not fit are collected as type errors, one line each, and decoding goes on;
a key given twice in one mapping is such an error too, and its mapping is not decoded. A
mistake that makes decoding meaningless (an alias inside its own value, a merge of a
scalar, a tagged text that is not of its tag, too much expansion through aliases) stops it.
So does a sequence or mapping among the keys of a mapping with a merge, or of a mapping
merged in: the keys set beside a merge are kept in a hashed set, and a collection has no
hash.

A place may be read-only (`settable` false): decoding stops at the first value it would
write there.
-/

namespace Timebox

namespace Yaml

/-- The type of a place a value is decoded into. -/
inductive Shape where
  | float
  | bool
  | text
  | int
  /-- A record with its type's name and its fields in order. -/
  | record (name : String) (fields : List (String × Shape))
  /-- A map from texts to values of any shape. -/
  | textMap
  /-- A value of any shape. -/
  | any
deriving Inhabited

/-- The name of a shape's type, as type errors write it. -/
def Shape.typeName : Shape → String
  | .float => "float64"
  | .bool => "bool"
  | .text => "string"
  | .int => "int"
  | .record name _ => name
  | .textMap => "map[string]interface {}"
  | .any => "interface {}"

/-- A decoded value. -/
inductive Datum where
  | null
  | bool (b : Bool)
  | int (v : Int)
  | float (x : Double)
  | text (s : String)
  | seq (items : List Datum)
  | map (entries : List (Datum × Datum))
  | record (fields : List (String × Datum))
deriving Inhabited

namespace Datum

/-- Whether two keys are the same key: scalars of one kind and value; floats compare as
numbers, so a not-a-number key is never found again. Collections are never the same key. -/
def sameKey : Datum → Datum → Bool
  | .null, .null => true
  | .bool a, .bool b => a == b
  | .int a, .int b => a == b
  | .float a, .float b => a.eq b
  | .text a, .text b => a == b
  | _, _ => false

/-- Whether a value is a sequence or a map, which cannot be keys. -/
def isCollection : Datum → Bool
  | .seq _ | .map _ => true
  | _ => false

/-- Whether all keys of map entries are texts: such a map is one from texts. -/
def textKeyed (entries : List (Datum × Datum)) : Bool :=
  entries.all fun
    | (.text _, _) => true
    | _ => false

/-- The name of the type of a decoded collection. -/
def collectionType : Datum → String
  | .map es => if textKeyed es then "map[string]interface {}" else "map[interface {}]interface {}"
  | _ => "[]interface {}"

/-- Whether one key comes before another when a map's entries are listed: numbers by value,
texts by their bytes, `false` before `true`; keys of different kinds keep their order. -/
def keyBefore : Datum → Datum → Bool
  | .int a, .int b => a < b
  | .float a, .float b => a.lt b
  | .text a, .text b => a < b
  | .bool a, .bool b => !a && b
  | _, _ => false

/-- Inserts a keyed text among keyed texts listed in key order. -/
def insertByKey (e : Datum × String) : List (Datum × String) → List (Datum × String)
  | [] => [e]
  | f :: fs => if keyBefore e.1 f.1 then e :: f :: fs else f :: insertByKey e fs

/-- Keyed texts listed in key order. -/
def sortByKey (entries : List (Datum × String)) : List (Datum × String) :=
  entries.foldl (fun acc e => insertByKey e acc) []

/-- The field of a record, or null. -/
def field (d : Datum) (name : String) : Datum :=
  match d with
  | .record fs => (fs.lookup name).getD .null
  | _ => .null

/-- A record with one field replaced. -/
def setField (d : Datum) (name : String) (v : Datum) : Datum :=
  match d with
  | .record fs => .record (fs.map fun (k, x) => if k = name then (k, v) else (k, x))
  | _ => d

mutual

/-- A value as a literal of its dynamic type, as an invalid key is reported. -/
def literal : Datum → String
  | .null => "interface {}(nil)"
  | .bool b => if b then "true" else "false"
  | .int v => toString v
  | .float x => Double.toShortest x
  | .text s => Text.quote s
  | .seq items => "[]interface {}\x7b" ++ literalItems items ++ "\x7d"
  | .map entries =>
    collectionType (.map entries) ++ "\x7b" ++
      ", ".intercalate ((sortByKey (literalEntries entries)).map (·.2)) ++ "\x7d"
  | .record fields => "\x7b" ++ literalFields fields ++ "\x7d"

/-- Literals of items, between commas. -/
def literalItems : List Datum → String
  | [] => ""
  | [d] => literal d
  | d :: rest => literal d ++ ", " ++ literalItems rest

/-- Literals of map entries, each with its key. -/
def literalEntries : List (Datum × Datum) → List (Datum × String)
  | [] => []
  | (k, v) :: rest => (k, literal k ++ ":" ++ literal v) :: literalEntries rest

/-- Literals of field values, between commas. -/
def literalFields : List (String × Datum) → String
  | [] => ""
  | [(_, v)] => literal v
  | (_, v) :: rest => literal v ++ ", " ++ literalFields rest

end

end Datum

/-- Why decoding stopped. -/
inductive Halt where
  /-- A mistake in the text that makes decoding meaningless. -/
  | invalid (text : String)
  /-- A write into a read-only place, by the named way of writing. -/
  | readOnly (method : String)
  /-- A collection, of the named type, among the keys beside a merge, which are kept in a
  hashed set. -/
  | unhashable (typeName : String)
deriving Inhabited

/-- The state of decoding: the anchored nodes, the type errors so far (last first), the
counts of decoded nodes and of those decoded through an alias, how deep in aliases the
walk is, the aliases being expanded, and the keys already set beside a merge. -/
structure Decoder where
  anchored : Array Node
  errors : List String := []
  decoded : Nat := 0
  viaAlias : Nat := 0
  aliasDepth : Nat := 0
  active : List Nat := []
  merged : Option (List Datum) := none

/-- The steps of decoding. -/
abbrev DecodeM := EStateM Halt Decoder

namespace Decoder

/-- Stops decoding. -/
def invalid {α : Type} (text : String) : DecodeM α := throw (.invalid text)

/-- Adds a type error. -/
def typeError (line : String) : DecodeM Unit :=
  modify fun d => { d with errors := line :: d.errors }

/-- The node an alias stands for. -/
def target (n : Node) : DecodeM Node := do
  pure ((← get).anchored.getD n.head.target default)

/-- Whether a scalar is a text by its tag or by its quotes or block style. -/
def indicatedString (h : Head) : Bool :=
  h.kind = .scalar ∧ (h.tag = strTag ∨ (h.tag = "" ∧ h.style ≠ .plain))

/-- The tag a node has in short form: `!!str` for an indicated text, the node's own tag,
or for an alias the tag of what it stands for. -/
def shortTagOf (anchored : Array Node) (n : Node) : String :=
  let h := n.head
  if indicatedString h then strTag
  else if h.tag ≠ "" then h.tag
  else match h.kind with
    | .mapping => mapTag
    | .sequence => seqTag
    | .scalar => (resolveText "" h.value).1
    | .alias =>
      let t := (anchored.getD h.target default).head
      if indicatedString t then strTag else t.tag
    | .document => ""

/-- Whether a key is the merge key `<<`. -/
def isMerge (n : Node) : Bool :=
  n.head.kind = .scalar ∧ n.head.value = "<<" ∧ (n.head.tag = "" ∨ n.head.tag = mergeTag)

/-- The type error of a node that does not fit a shape: its tag, its text when it is no
collection (cut to seven bytes and an ellipsis past ten), and the type. -/
def misfit (n : Node) (tag : String) (shape : Shape) : DecodeM Unit :=
  let tag := if n.head.tag ≠ "" then n.head.tag else tag
  let value :=
    if tag = seqTag ∨ tag = mapTag then ""
    else
      let bytes := Text.utf8Bytes n.head.value
      if bytes.length > 10 then " `" ++ Text.decodeLossy (bytes.take 7) ++ "...`"
      else " `" ++ n.head.value ++ "`"
  typeError ("line " ++ toString n.head.line ++ ": cannot unmarshal " ++ shortTag tag ++ value ++
    " into " ++ shape.typeName)

/-- The share of decoded nodes that may come through aliases, as a fraction: 99 in 100 up
to 400000 nodes, falling evenly to 10 in 100 at 4000000. -/
def allowedShare (decoded : Nat) : Nat × Nat :=
  if decoded ≤ 400000 then (99, 100)
  else if decoded ≥ 4000000 then (10, 100)
  else (356400000 - 89 * (decoded - 400000), 360000000)

/-- Counts a decoded node, and stops when too many come through aliases. -/
def count : DecodeM Unit := do
  let d ← get
  let d := { d with decoded := d.decoded + 1, viaAlias := if d.aliasDepth > 0 then d.viaAlias + 1 else d.viaAlias }
  set d
  let (num, den) := allowedShare d.decoded
  if d.viaAlias > 100 ∧ d.decoded > 1000 ∧ d.viaAlias * den > num * d.decoded then
    invalid "document contains excessive aliasing"

/-- The words a boolean may also be written as. -/
def boolWord (s : String) : Option Bool :=
  if ["y", "Y", "yes", "Yes", "YES", "on", "On", "ON"].contains s then some true
  else if ["n", "N", "no", "No", "NO", "off", "Off", "OFF"].contains s then some false
  else none

/-- A write into a place: refused if the place is read-only. -/
def write (settable : Bool) (method : String) (v : Datum) : DecodeM (Bool × Datum) :=
  if settable then pure (true, v) else throw (.readOnly method)

/-- Decodes a scalar into a place of a shape. -/
def scalar (n : Node) (shape : Shape) (settable : Bool) (cur : Datum) : DecodeM (Bool × Datum) := do
  let h := n.head
  let (tag, meaning) ←
    if indicatedString h then pure (strTag, Scalar.text h.value)
    else
      match resolve h.tag h.value with
      | .error msg => invalid msg
      | .ok (tag, v) =>
        if tag = binaryTag then
          match Text.decodeBase64 h.value with
          | some bytes => pure (tag, Scalar.text (Text.decodeLossy bytes))
          | none => invalid "!!binary value contains invalid base64 data"
        else pure (tag, v)
  let fail : DecodeM (Bool × Datum) := do
    misfit n tag shape
    pure (false, cur)
  match meaning with
  | .null =>
    match shape with
    | .textMap | .any => if settable then pure (true, .null) else pure (false, cur)
    | _ => pure (false, cur)
  | _ =>
    match shape, meaning with
    | .text, .text s => write settable "reflect.Value.Set" (.text (if tag = binaryTag then s else h.value))
    | .text, _ => write settable "reflect.Value.SetString" (.text h.value)
    | .any, .timestamp => write settable "reflect.Value.Set" (.text h.value)
    | .any, .text s => write settable "reflect.Value.Set" (.text s)
    | .any, .bool b => write settable "reflect.Value.Set" (.bool b)
    | .any, .int v => write settable "reflect.Value.Set" (.int v)
    | .any, .float x => write settable "reflect.Value.Set" (.float x)
    | .any, .merge => write settable "reflect.Value.Set" (.text h.value)
    | .float, .float x => write settable "reflect.Value.Set" (.float x)
    | .float, .int v => write settable "reflect.Value.SetFloat" (.float (Double.ofInt v))
    | .bool, .bool b => write settable "reflect.Value.Set" (.bool b)
    | .bool, .text s =>
      match boolWord s with
      | some b => write settable "reflect.Value.SetBool" (.bool b)
      | none => fail
    | .int, .int v => if v < Int.pow 2 63 then write settable "reflect.Value.Set" (.int v) else fail
    | .int, .float x =>
      if x.le (Double.ofInt (Int.pow 2 63)) then write settable "reflect.Value.SetInt" (.int x.toInt64Trunc)
      else fail
    | _, _ => fail

/-- The type errors of keys of a mapping given again after an equal one, of the same kind
and text: for each key in turn, each later key equal to it. -/
def duplicatesOf : List Node → List String
  | [] => []
  | k :: rest =>
    (rest.filter fun e => e.head.kind = k.head.kind ∧ e.head.value = k.head.value).map (fun e =>
      "line " ++ toString e.head.line ++ ": mapping key " ++ Text.quote e.head.value ++
        " already defined at line " ++ toString k.head.line) ++ duplicatesOf rest

/-- The keys and values of a mapping's content. -/
def pairs : List Node → List (Node × Node)
  | k :: v :: rest => (k, v) :: pairs rest
  | _ => []

/-- The problem of a merge of something other than mappings. -/
def wantMapping : String := "map merge requires map or sequence of maps as the value"

mutual

/-- Decodes a node into a place of a shape holding `cur`: whether the place was written
and what it holds after. -/
def decode : Nat → Node → Shape → Bool → Datum → DecodeM (Bool × Datum)
  | 0, _, _, _, _ => invalid "input nested too deeply"
  | fuel + 1, n, shape, settable, cur => do
    count
    match n.head.kind with
    | .document =>
      match n.content with
      | [body] =>
        let (_, v) ← decode fuel body shape settable cur
        pure (true, v)
      | _ => pure (false, cur)
    | .alias =>
      if (← get).active.contains n.head.id then
        invalid ("anchor " ++ Composer.quoteName n.head.value ++ " value contains itself")
      modify fun d => { d with active := n.head.id :: d.active, aliasDepth := d.aliasDepth + 1 }
      let t ← target n
      let r ← decode fuel t shape settable cur
      modify fun d => { d with active := d.active.erase n.head.id, aliasDepth := d.aliasDepth - 1 }
      pure r
    | .scalar => scalar n shape settable cur
    | .sequence =>
      match shape with
      | .any =>
        let items ← sequenceItems fuel n.content
        write settable "reflect.Value.Set" (.seq items)
      | _ =>
        misfit n seqTag shape
        pure (false, cur)
    | .mapping =>
      let keys := (pairs n.content).map (·.1)
      let dups := duplicatesOf keys
      if !dups.isEmpty then
        dups.forM typeError
        pure (false, cur)
      else
        match shape with
        | .record name fields => record fuel n name fields settable cur
        | .textMap => entries fuel n true settable cur
        | .any =>
          let anchored := (← get).anchored
          let textKeys := keys.all fun k => let t := shortTagOf anchored k; t = strTag ∨ t = mergeTag
          entries fuel n textKeys settable .null
        | _ =>
          misfit n mapTag shape
          pure (false, cur)

/-- Decodes the items of a sequence of values of any shape, keeping those written. -/
def sequenceItems : Nat → List Node → DecodeM (List Datum)
  | 0, _ => invalid "input nested too deeply"
  | _, [] => pure []
  | fuel + 1, item :: rest => do
    let (ok, v) ← decode fuel item .any true .null
    let more ← sequenceItems fuel rest
    pure (if ok then v :: more else more)

/-- Decodes a mapping into a map, with text keys or keys of any shape. -/
def entries (fuel : Nat) (n : Node) (textKeys : Bool) (settable : Bool) (cur : Datum) :
    DecodeM (Bool × Datum) := do
  let start : List (Datum × Datum) := match cur with
    | .map es => es
    | _ => []
  if !settable then throw (.readOnly "reflect.Value.Set")
  let outer := (← get).merged
  modify fun d => { d with merged := none }
  let (es, mergeNode, outer) ← entryList fuel (pairs n.content) textKeys outer (cur matches .null) start none
  modify fun d => { d with merged := outer }
  match mergeNode with
  | some m => mergeInto fuel n m (if textKeys then .textMap else .any) settable (.map es)
  | none => pure (true, .map es)

/-- Decodes the pairs of a mapping into map entries; gives the entries, the value of a
merge key if there is one, and the keys set beside the merge being decoded. -/
def entryList : Nat → List (Node × Node) → Bool → Option (List Datum) → Bool →
    List (Datum × Datum) → Option Node → DecodeM (List (Datum × Datum) × Option Node × Option (List Datum))
  | 0, _, _, _, _, _, _ => invalid "input nested too deeply"
  | _, [], _, outer, _, es, m => pure (es, m, outer)
  | fuel + 1, (k, v) :: rest, textKeys, outer, fresh, es, m => do
    if isMerge k then entryList fuel rest textKeys outer fresh es (some v)
    else
      let (ok, key) ← decode fuel k (if textKeys then .text else .any) true (if textKeys then .text "" else .null)
      if !ok then entryList fuel rest textKeys outer fresh es m
      else
        if outer.isSome ∧ key.isCollection then throw (.unhashable key.collectionType)
        let skip := match outer with
          | some ks => ks.any (·.sameKey key)
          | none => false
        if skip then entryList fuel rest textKeys outer fresh es m
        else
          let outer := outer.map (key :: ·)
          if key.isCollection then invalid ("invalid map key: " ++ key.literal)
          let (vok, value) ← decode fuel v .any true .null
          let anchored := (← get).anchored
          let present := es.any (·.1.sameKey key)
          let es :=
            if vok ∨ (shortTagOf anchored v = nullTag ∧ (fresh ∨ !present)) then
              (es.filter fun e => !e.1.sameKey key) ++ [(key, value)]
            else es
          entryList fuel rest textKeys outer fresh es m

/-- Decodes a mapping into a record, field by field. -/
def record (fuel : Nat) (n : Node) (name : String) (fields : List (String × Shape)) (settable : Bool)
    (cur : Datum) : DecodeM (Bool × Datum) := do
  let outer := (← get).merged
  modify fun d => { d with merged := none }
  let (v, mergeNode, outer) ← fieldList fuel name (pairs n.content) fields settable outer [] "" cur none
  modify fun d => { d with merged := outer }
  match mergeNode with
  | some m =>
    let (_, v) ← mergeInto fuel n m (.record name fields) settable v
    pure (true, v)
  | none => pure (true, v)

/-- Decodes the pairs of a mapping into the fields of a record; gives the record, the value
of a merge key if there is one, and the keys set beside the merge being decoded. -/
def fieldList : Nat → String → List (Node × Node) → List (String × Shape) → Bool →
    Option (List Datum) → List String → String → Datum → Option Node →
    DecodeM (Datum × Option Node × Option (List Datum))
  | 0, _, _, _, _, _, _, _, _, _ => invalid "input nested too deeply"
  | _, _, [], _, _, outer, _, _, cur, m => pure (cur, m, outer)
  | fuel + 1, tn, (k, v) :: rest, fields, settable, outer, done, name, cur, m => do
    if isMerge k then fieldList fuel tn rest fields settable outer done name cur (some v)
    else
      let (ok, key) ← decode fuel k .text true (.text name)
      let name := match key with
        | .text s => s
        | _ => name
      if !ok then fieldList fuel tn rest fields settable outer done name cur m
      else
        let skip := match outer with
          | some ks => ks.any (·.sameKey (.text name))
          | none => false
        if skip then fieldList fuel tn rest fields settable outer done name cur m
        else
          let outer := outer.map (.text name :: ·)
          match fields.lookup name with
          | none => fieldList fuel tn rest fields settable outer done name cur m
          | some shape =>
            if done.contains name then
              typeError ("line " ++ toString k.head.line ++ ": field " ++ name ++ " already set in type " ++
                tn)
              fieldList fuel tn rest fields settable outer done name cur m
            else
              let (_, value) ← decode fuel v shape settable (cur.field name)
              fieldList fuel tn rest fields settable outer (name :: done) name (cur.setField name value) m

/-- Merges the mappings a merge key holds into a place: a mapping, an alias of one, or a
sequence of them, in order; keys already set stay. The keys set are shared with an
enclosing merge, so an earlier mapping of a merge wins over a later one. -/
def mergeInto (fuel : Nat) (parent merge : Node) (shape : Shape) (settable : Bool) (cur : Datum) :
    DecodeM (Bool × Datum) := do
  let outer := (← get).merged
  if outer.isNone then
    let ks ← mergeKeys fuel (pairs parent.content)
    modify fun d => { d with merged := some ks }
  let r ← match merge.head.kind with
    | .mapping => decode fuel merge shape settable cur
    | .alias =>
      let t ← target merge
      if t.head.kind ≠ .mapping then invalid wantMapping
      decode fuel merge shape settable cur
    | .sequence => mergeItems fuel merge.content shape settable cur
    | _ => invalid wantMapping
  if outer.isNone then modify fun d => { d with merged := none }
  pure r

/-- Decodes the keys of a mapping as values of any shape. -/
def mergeKeys : Nat → List (Node × Node) → DecodeM (List Datum)
  | 0, _ => invalid "input nested too deeply"
  | _, [] => pure []
  | fuel + 1, (k, _) :: rest => do
    let (ok, key) ← decode fuel k .any true .null
    if ok ∧ key.isCollection then throw (.unhashable key.collectionType)
    let more ← mergeKeys fuel rest
    pure (if ok then key :: more else more)

/-- Merges each mapping of a sequence in turn. -/
def mergeItems : Nat → List Node → Shape → Bool → Datum → DecodeM (Bool × Datum)
  | 0, _, _, _, _ => invalid "input nested too deeply"
  | _, [], _, _, cur => pure (true, cur)
  | fuel + 1, item :: rest, shape, settable, cur => do
    match item.head.kind with
    | .alias =>
      let t ← target item
      if t.head.kind ≠ .mapping then invalid wantMapping
    | .mapping => pure ()
    | _ => invalid wantMapping
    let (_, v) ← decode fuel item shape settable cur
    mergeItems fuel rest shape settable v

end

end Decoder

/-- Why a text could not be decoded into a place. -/
inductive DecodeError where
  | read (e : ReadError)
  /-- The place is read-only and decoding would write into it, by the named way. -/
  | readOnly (method : String)
  /-- A key beside a merge is a collection of the named type. -/
  | unhashable (typeName : String)
deriving Inhabited

/-- The number of nodes of a tree. -/
def Node.size : Node → Nat
  | .mk _ content => 1 + sizes content
where
  sizes : List Node → Nat
    | [] => 0
    | n :: ns => n.size + sizes ns

/-- What a place holds after the first document of a text is decoded into it, or why it
cannot be: a text with no document leaves the place as it was, and type errors are
reported together after the whole document has been decoded. -/
def decodeInto (text : String) (shape : Shape) (settable : Bool) (cur : Datum) : Except DecodeError Datum :=
  match compose text with
  | .error e => .error (.read e)
  | .ok tree =>
    match tree.root with
    | none => .ok cur
    | some root =>
      let size := root.size + tree.anchored.toList.foldl (fun n a => n + a.size) 0 + 2
      match Decoder.decode (2 * size * size) root shape settable cur { anchored := tree.anchored } with
      | .ok (_, v) d => if d.errors.isEmpty then .ok v else .error (.read (.types d.errors.reverse))
      | .error (.invalid t) _ => .error (.read (.invalid t))
      | .error (.readOnly m) _ => .error (.readOnly m)
      | .error (.unhashable t) _ => .error (.unhashable t)

end Yaml

end Timebox
