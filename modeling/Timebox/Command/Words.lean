/-! # Splitting a command line into words

`Words.split` cuts a command line into words the way a shell would, without expanding
anything:

* blanks (space, tab, carriage return, line feed) end a word, except inside quotes;
* a backslash keeps the next character as it is, except inside single quotes, where it is
  itself;
* single and double quotes group characters and are dropped; a closed pair of quotes makes
  a word even when empty;
* backquotes and `$( … )` group characters and are kept;
* the first `;`, `&`, `|`, `<` or `>` outside quotes and groups stops the split: the line
  is then for a shell to run (`Words.operatorAt`); before `>`, a word that starts with a
  digit is a stream number and is not kept;
* a `(` not after `$` outside quotes, or a quote, group or backslash left open, makes
  the line invalid.
-/

namespace Timebox

namespace Words

/-- What splitting a line gives: its words, and the place (in characters) of the shell
operator that stopped the split, if there is one. -/
structure Split where
  words : List String
  operatorAt : Option Nat
deriving Repr, Inhabited

/-- The state of a split: the words so far (last first), the current word and whether one
has begun, and what is open. -/
structure State where
  done : List String := []
  buf : String := ""
  begun : Bool := false
  escaped : Bool := false
  doubleQuoted : Bool := false
  singleQuoted : Bool := false
  backQuoted : Bool := false
  dollarQuoted : Bool := false
deriving Inhabited

/-- Whether a character ends a word. -/
def isBlank (c : Char) : Bool := c = ' ' ∨ c = '\t' ∨ c = '\r' ∨ c = '\n'

namespace State

/-- Whether anything is open. -/
def isOpen (s : State) : Bool :=
  s.escaped || s.doubleQuoted || s.singleQuoted || s.backQuoted || s.dollarQuoted

/-- Whether a quote or group is open. -/
def quoted (s : State) : Bool := s.doubleQuoted || s.singleQuoted || s.backQuoted || s.dollarQuoted

/-- The state with a character added to the current word. -/
def add (s : State) (c : Char) : State := { s with buf := s.buf.push c, begun := true }

/-- The words at the end, or none if something is left open. -/
def finish (s : State) (operatorAt : Option Nat) : Option Split :=
  let done := if s.begun then s.buf :: s.done else s.done
  if s.isOpen then none else some ⟨done.reverse, operatorAt⟩

end State

/-- Splits the rest of a line from place `i`. -/
def go (s : State) (i : Nat) : List Char → Option Split
  | [] => s.finish none
  | c :: rest =>
    if s.escaped then go { s.add c with escaped := false } (i + 1) rest
    else if c = '\\' then
      if s.singleQuoted then go (s.add c) (i + 1) rest else go { s with escaped := true } (i + 1) rest
    else if isBlank c then
      if s.quoted then go { s with buf := s.buf.push c } (i + 1) rest
      else if s.begun then go { s with done := s.buf :: s.done, buf := "", begun := false } (i + 1) rest
      else go s (i + 1) rest
    else if c.toNat = 96 then
      let s := if !s.singleQuoted && !s.doubleQuoted && !s.dollarQuoted then { s with backQuoted := !s.backQuoted } else s
      go (s.add c) (i + 1) rest
    else if c = ')' then
      let s := if !s.singleQuoted && !s.doubleQuoted && !s.backQuoted then { s with dollarQuoted := !s.dollarQuoted } else s
      go (s.add c) (i + 1) rest
    else if c = '(' then
      if !s.singleQuoted && !s.doubleQuoted && !s.backQuoted then
        if !s.dollarQuoted && s.buf.endsWith "$" then
          go { s with dollarQuoted := true, buf := s.buf.push c } (i + 1) rest
        else none
      else go (s.add c) (i + 1) rest
    else if c = '"' ∧ !s.singleQuoted ∧ !s.dollarQuoted then
      go { s with begun := s.begun || s.doubleQuoted, doubleQuoted := !s.doubleQuoted } (i + 1) rest
    else if c.toNat = 39 ∧ !s.doubleQuoted ∧ !s.dollarQuoted then
      go { s with begun := s.begun || s.singleQuoted, singleQuoted := !s.singleQuoted } (i + 1) rest
    else if (c = ';' ∨ c = '&' ∨ c = '|' ∨ c = '<' ∨ c = '>') ∧ !s.quoted then
      let streamNumber := c = '>' ∧ (s.buf.front.isDigit ∧ !s.buf.isEmpty)
      let s := if streamNumber then { s with begun := false } else s
      s.finish (some (if streamNumber then i - 1 else i))
    else go (s.add c) (i + 1) rest

/-- The words of a command line, or none if it is invalid. -/
def split (line : String) : Option Split := go {} 0 line.toList

end Words

end Timebox
