/-! # Tokens of a YAML stream and the problems of reading one

A YAML text is read in three layers: characters become tokens (`Yaml.Scanner`), tokens
become events (`Yaml.Parser`), events become a node tree (`Yaml.Node`). This module holds
what the layers share: positions in the text, the tokens, and the problem that stops a read.

A `Mark` counts from zero: `index` in bytes of the UTF-8 text, `line` and `column` in
characters. A problem carries the mark of where it was found and, for some, the mark of the
construct being read when it was found; its text names a line only when one of the two
marks is past the first line (`Problem.text`).
-/

namespace Timebox

namespace Yaml

/-- A position in the text. -/
structure Mark where
  index : Nat := 0
  line : Nat := 0
  column : Nat := 0
deriving DecidableEq, Repr, Inhabited

/-- How a scalar was written. -/
inductive ScalarStyle where
  | plain
  | singleQuoted
  | doubleQuoted
  | literal
  | folded
deriving DecidableEq, Repr, Inhabited

/-- What a token is. -/
inductive TokenKind where
  | streamStart
  | streamEnd
  | versionDirective (major minor : Nat)
  | tagDirective (handle pre : String)
  | documentStart
  | documentEnd
  | blockSequenceStart
  | blockMappingStart
  | blockEnd
  | flowSequenceStart
  | flowSequenceEnd
  | flowMappingStart
  | flowMappingEnd
  | blockEntry
  | flowEntry
  | key
  | value
  | alias (name : String)
  | anchor (name : String)
  | tag (handle suffix : String)
  | scalar (text : String) (style : ScalarStyle)
deriving DecidableEq, Repr, Inhabited

/-- A token with the marks where it starts and ends. -/
structure Token where
  kind : TokenKind
  start : Mark
  stop : Mark
deriving Repr, Inhabited

/-- Which layer found a problem. -/
inductive Layer where
  | reader
  | scanner
  | parser
deriving DecidableEq, Repr, Inhabited

/-- The problem that stopped a read: what was wrong and where, and what was being read. -/
structure Problem where
  layer : Layer
  context : String := ""
  contextMark : Mark := {}
  problem : String
  problemMark : Mark := {}
deriving Repr, Inhabited

/-- The text of a problem: `line N: ` before it when the construct being read, or else the
problem itself, lies past the first line. The scanner reports the line count before it
steps past the line it was on, so its line numbers are one more. -/
def Problem.text (p : Problem) : String :=
  let line :=
    if p.contextMark.line ≠ 0 then p.contextMark.line
    else p.problemMark.line
  let line := if line ≠ 0 ∧ p.layer = .scanner then line + 1 else line
  (if line ≠ 0 then "line " ++ toString line ++ ": " else "") ++ p.problem

end Yaml

end Timebox
