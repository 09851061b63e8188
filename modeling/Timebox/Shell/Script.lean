/-! # Shell scripts

The commands of a POSIX shell script, as the parser gives them:

* a `Word` is a list of parts: literal text, a parameter (`$x`, `${x:-w}`, `$#`, …), a
  command substitution (`$(…)` or backquotes) or an arithmetic expansion (`$((…))`), each
  marked with whether it stood inside double quotes, which keeps it from being split into
  fields and from pathname matching;
* a redirection moves a descriptor to a file, to another descriptor, or to a here-document;
* a `Cmd` is a simple command (assignments, words, redirections), a pipeline, an and-or
  list, a sequence, a subshell or brace group, an `if`, a `while` or `until` loop, a `for`
  loop, a `case`, or a function definition; bash adds `(( … ))`, `[[ … ]]` and the
  arithmetic `for (( …; …; … ))`, arrays, and more operators of `${…}`.

Every simple command keeps the number of the line it starts on, for messages.
-/

namespace Timebox

namespace Shell

/-- Where `${x/p/r}` replaces a match of its pattern (bash): the first, every one, one at
the start, one at the end. -/
inductive ReplaceMode where
  | first
  | every
  | atStart
  | atEnd
deriving DecidableEq, Repr, Inhabited

mutual

/-- What a `${…}` expansion does with its parameter. -/
inductive ParamOp where
  | plain
  /-- `${#x}`: the length of the value. -/
  | length
  /-- `${x-w}`, `${x:-w}`: the word when unset (or empty, with the colon). -/
  | useDefault (colon : Bool)
  /-- `${x=w}`, `${x:=w}`: as `useDefault`, and assigns the word. -/
  | assignDefault (colon : Bool)
  /-- `${x+w}`, `${x:+w}`: the word when set (and not empty, with the colon). -/
  | useAlternative (colon : Bool)
  /-- `${x?w}`, `${x:?w}`: an error when unset (or empty, with the colon). -/
  | errorIfUnset (colon : Bool)
  /-- `${x%w}`, `${x%%w}`: the value without its shortest (or longest) suffix matching. -/
  | dropSuffix (longest : Bool)
  /-- `${x#w}`, `${x##w}`: the value without its shortest (or longest) prefix matching. -/
  | dropPrefix (longest : Bool)
  /-- `${x^w}`, `${x^^w}`, `${x,w}`, `${x,,w}` (bash): the first (or every) character that
  matches the pattern, any character without one, in upper (or lower) case. -/
  | changeCase (upper : Bool) (all : Bool)
  /-- `${x~w}`, `${x~~w}` (bash): as `changeCase`, each such character's case swapped. -/
  | toggleCase (all : Bool)
  /-- `${x:offset}`, `${x:offset:length}` (bash): a part of the value; both are arithmetic
  expressions, kept as text. -/
  | slice (offset : String) (length : Option String)
  /-- `${x/p/r}` and its kin (bash): the value with matches of the pattern replaced by the
  word. -/
  | replace (mode : ReplaceMode) (replacement : List Part)
  /-- A `${…}` that is not an expansion, its whole text as the name: an error when it is
  expanded. -/
  | bad
deriving Repr, Inhabited

/-- A part of a word; `quoted` when it stood inside double quotes (or single quotes, or
after a backslash, for literal text). -/
inductive Part where
  | lit (s : String) (quoted : Bool)
  /-- A parameter: its name, with its subscript in brackets for an element of an array,
  after `!` when it names the parameter to expand (bash). -/
  | param (name : String) (op : ParamOp) (arg : List Part) (quoted : Bool)
  | command (text : String) (quoted : Bool)
  | arith (text : String) (quoted : Bool)
  /-- A `~` at the start of a word, with the user name after it. -/
  | tilde (user : String)
deriving Repr, Inhabited

end

/-- A word of a command. -/
abbrev Word := List Part

/-- The text of a word when it is all literal and unquoted, as reserved words are. -/
def Word.plainText? (w : Word) : Option String :=
  w.foldl (fun acc p => match acc, p with
    | some s, .lit t false => some (s ++ t)
    | _, _ => none) (some "")

/-- Whether a word has a quoted part, so that it names itself even when it expands to
nothing. -/
def Word.hasQuotes (w : Word) : Bool :=
  w.any fun
    | .lit _ q => q
    | .param _ _ _ q => q
    | .command _ q => q
    | .arith _ q => q
    | .tilde _ => false

/-- What a redirection does. -/
inductive RedirOp where
  /-- `<`: reads a file. -/
  | input
  /-- `>` and `>|`: writes a file from its start. -/
  | output
  /-- `>>`: writes at the end of a file. -/
  | append
  /-- `<>`: opens a file for reading and writing. -/
  | readWrite
  /-- `<&`, `>&`: copies another descriptor, or closes with `-`. -/
  | duplicate
  /-- `<<`: a here-document; its body is the target, expanded unless the delimiter was
  quoted. -/
  | hereDoc (expand : Bool)
  /-- `<<<` (bash): the word and a newline are the input. -/
  | hereString
  /-- `&>` and `&>>` (bash): the standard output and error both write a file. -/
  | outputBoth (append : Bool)
deriving DecidableEq, Repr, Inhabited

/-- A redirection of a descriptor. -/
structure Redir where
  fd : Nat
  op : RedirOp
  target : Word
deriving Repr, Inhabited

/-- An assignment before a command: `name=word`, or in bash `name+=word`, `name[i]=word`
and `name=(words)`; the name keeps its subscript in brackets. -/
structure Assign where
  name : String
  value : Word
  /-- The words of an array value. -/
  items : Option (List Word) := none
  /-- `+=`: the value is added to the end of the old one. -/
  append : Bool := false
  /-- An array value written as an argument of `declare`, `local` and their kin (bash): the
  command declares the name, then the array is set. -/
  argument : Bool := false
deriving Repr, Inhabited

/-- An expression of bash's `[[ … ]]`. -/
inductive Cond where
  /-- A test of one word, such as `-n w` or `-f w`. -/
  | unary (op : String) (w : Word)
  /-- A comparison of two words, such as `a == p` or `a -lt b`. -/
  | binary (op : String) (l r : Word)
  /-- A word alone: whether it is not empty. -/
  | word (w : Word)
  | not (e : Cond)
  | and (a b : Cond)
  | or (a b : Cond)
deriving Repr, Inhabited

/-- A command of a script. -/
inductive Cmd where
  | simple (assigns : List Assign) (words : List Word) (redirs : List Redir) (line : Nat)
  /-- Commands joined by `|`, the status negated with a leading `!`. -/
  | pipeline (bang : Bool) (cmds : List Cmd)
  /-- A command followed by `&&` (true) or `||` (false) commands. -/
  | andOr (first : Cmd) (rest : List (Bool × Cmd))
  /-- Commands in order, each run in the background when marked. -/
  | sequence (items : List (Cmd × Bool))
  | subshell (body : Cmd) (redirs : List Redir)
  | group (body : Cmd) (redirs : List Redir)
  /-- `if`: conditions and their branches in order, and the `else` branch. -/
  | ifThen (branches : List (Cmd × Cmd)) (otherwise : Option Cmd) (redirs : List Redir)
  /-- `while` (or `until`, when `negate`). -/
  | loop (negate : Bool) (cond body : Cmd) (redirs : List Redir)
  /-- `for name in words`; without `in`, the positional parameters. -/
  | forEach (name : String) (items : Option (List Word)) (body : Cmd) (redirs : List Redir)
  /-- `case word in patterns) body;; … esac`. -/
  | caseOf (subject : Word) (arms : List (List Word × Cmd)) (redirs : List Redir)
  | function (name : String) (body : Cmd)
  /-- `(( expression ))` (bash): its status is 0 when the value is not zero. -/
  | arith (text : String) (line : Nat) (redirs : List Redir)
  /-- `[[ expression ]]` (bash). -/
  | cond (e : Cond) (line : Nat) (redirs : List Redir)
  /-- `for (( first; test; step ))` (bash). -/
  | forArith (first test step : String) (body : Cmd) (redirs : List Redir)
deriving Repr, Inhabited

/-- The command that does nothing. -/
def Cmd.nothing : Cmd := .sequence []

end Shell

end Timebox
