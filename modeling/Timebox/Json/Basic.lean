import Timebox.Double.Text

/-! # JSON documents

`Json` is a JSON tree whose objects keep their members in the order they were written.
Numbers are of two kinds, as the writers of the library distinguish them: integers, written
with all their digits, and doubles, written with their shortest digits (`Double.toJsonText`).
A double that is not finite has no JSON number; it is written as the string `"NaN"`,
`"+Inf"` or `"-Inf"`.

* `quote` writes a string literal: the quote, the backslash, the line feed, carriage return
  and tab get a backslash escape, other control characters and the line and paragraph
  separators a `\u` escape; with `html` also `<`, `>` and `&` are `\u` escaped.
* `compact` writes a document on one line without spaces.
* `pretty` writes one member or element per line, indented by a unit per level; an empty
  array or object stays `[]` or `{}`.
-/

namespace Timebox

inductive Json where
  | null
  | bool (b : Bool)
  | int (i : Int)
  | num (x : Double)
  /-- A number of single precision, written with the shortest digits of that precision. -/
  | single (x : Double)
  | str (s : String)
  | arr (items : List Json)
  | obj (members : List (String × Json))
deriving Repr, Inhabited

namespace Json

/-- Four lower-case hexadecimal digits. -/
def hex4 (n : Nat) : String :=
  let ds := Nat.toDigits 16 n
  String.ofList (List.replicate (4 - ds.length) '0' ++ ds)

/-- One character inside a string literal. -/
def escapeChar (html : Bool) (c : Char) : String :=
  if c = '"' then "\\\""
  else if c = '\\' then "\\\\"
  else if c = '\n' then "\\n"
  else if c = '\r' then "\\r"
  else if c = '\t' then "\\t"
  else if c.toNat < 0x20 ∨ c.toNat = 0x2028 ∨ c.toNat = 0x2029 then "\\u" ++ hex4 c.toNat
  else if html ∧ (c = '<' ∨ c = '>' ∨ c = '&') then "\\u" ++ hex4 c.toNat
  else c.toString

/-- A string literal. -/
def quote (html : Bool) (s : String) : String :=
  "\"" ++ String.join (s.toList.map (escapeChar html)) ++ "\""

/-- The text of a number; `single` for one of single precision. -/
def numberText (single : Bool) (x : Double) : String :=
  if x.isNaN ∨ x.isInf then "\"" ++ x.toJsonTextIn single ++ "\"" else x.toJsonTextIn single

mutual
/-- The document on one line. -/
def compact (html : Bool) : Json → String
  | .null => "null"
  | .bool b => if b then "true" else "false"
  | .int i => toString i
  | .num x => numberText false x
  | .single x => numberText true x
  | .str s => quote html s
  | .arr items => "[" ++ compactItems html items ++ "]"
  | .obj members => "\x7b" ++ compactMembers html members ++ "\x7d"

def compactItems (html : Bool) : List Json → String
  | [] => ""
  | [j] => compact html j
  | j :: js => compact html j ++ "," ++ compactItems html js

def compactMembers (html : Bool) : List (String × Json) → String
  | [] => ""
  | [(k, j)] => quote html k ++ ":" ++ compact html j
  | (k, j) :: ms => quote html k ++ ":" ++ compact html j ++ "," ++ compactMembers html ms
end

mutual
/-- The document with one item per line; `pad` is the indentation of the current line. -/
def pretty (html : Bool) (unit pad : String) : Json → String
  | .arr [] => "[]"
  | .obj [] => "\x7b\x7d"
  | .arr items => "[\n" ++ prettyItems html unit (pad ++ unit) items ++ "\n" ++ pad ++ "]"
  | .obj members =>
    "\x7b\n" ++ prettyMembers html unit (pad ++ unit) members ++ "\n" ++ pad ++ "\x7d"
  | j => compactLeaf html j

def prettyItems (html : Bool) (unit pad : String) : List Json → String
  | [] => ""
  | [j] => pad ++ pretty html unit pad j
  | j :: js => pad ++ pretty html unit pad j ++ ",\n" ++ prettyItems html unit pad js

def prettyMembers (html : Bool) (unit pad : String) : List (String × Json) → String
  | [] => ""
  | [(k, j)] => pad ++ quote html k ++ ": " ++ pretty html unit pad j
  | (k, j) :: ms =>
    pad ++ quote html k ++ ": " ++ pretty html unit pad j ++ ",\n" ++ prettyMembers html unit pad ms

/-- A leaf, as `compact` writes it. -/
def compactLeaf (html : Bool) : Json → String
  | .null => "null"
  | .bool b => if b then "true" else "false"
  | .int i => toString i
  | .num x => numberText false x
  | .single x => numberText true x
  | .str s => quote html s
  | _ => ""
end

mutual
/-- The document with the members of every object sorted by key, as writers of maps
order them. -/
def sortKeys : Json → Json
  | .arr items => .arr (sortItems items)
  | .obj members => .obj ((sortMembers members).mergeSort fun a b => a.1 ≤ b.1)
  | j => j

def sortItems : List Json → List Json
  | [] => []
  | j :: js => sortKeys j :: sortItems js

def sortMembers : List (String × Json) → List (String × Json)
  | [] => []
  | (k, j) :: ms => (k, sortKeys j) :: sortMembers ms
end

/-- The text a map-based writer gives: keys sorted, `<`, `>` and `&` escaped, one line. It
orders documents the way such a writer's output sorts. -/
def sortText (j : Json) : String := compact true (sortKeys j)

/-- The value of a member of an object, if present. -/
def get? (j : Json) (key : String) : Option Json :=
  match j with
  | .obj members => (members.find? (·.1 == key)).map (·.2)
  | _ => none

/-- The number of a float as a document: `num` for finite values, the name string otherwise. -/
def ofDouble (x : Double) : Json :=
  if x.isNaN ∨ x.isInf then .str x.toJsonText else .num x

@[simp] theorem compact_null (html : Bool) : compact html .null = "null" := by
  simp [compact]

end Json

end Timebox
