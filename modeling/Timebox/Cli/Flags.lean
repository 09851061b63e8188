import Timebox.Text.Quote
import Timebox.Text.Csv

/-! # Command-line flags

A program's flags are described by `FlagSpec`s: a long name, an optional one-letter
short name, what the flag holds (a text, a list of texts, or a switch), and a line of help.
`Flags.parse` reads a command line the way POSIX-style flag parsers of long options do:

* `--name=value`, `--name value`, `-n value`, `-nvalue` and `-n=value` set a flag; a
  switch alone is true, and takes a value only after `=` (`1`, `t`, `true`, `0`, `f`,
  `false` and their capitalised forms);
* short switches may be grouped (`-ab`); `--` ends the flags; `-` and every other word is
  an operand, wherever it stands;
* a list of texts takes the first record of comma-separated values (`Text.Csv`), and
  each use adds to the list.

It gives every setting in order, with the operands, or the first error in the parser's
words (`unknown flag: --x`, `unknown shorthand flag: 'x' in -x`, `flag needs an
argument: --deadline`, …). A short flag is named by the first byte of its letter, as a
quoted character, and by the letters from it to the end of its group. `Flags.usage` lays out the help lines of the flags, sorted by
name, their help texts in one column.
-/

namespace Timebox

/-- What a flag holds. -/
inductive FlagKind where
  | text
  | texts
  | switch
deriving DecidableEq, Repr, Inhabited

/-- A flag a program takes. -/
structure FlagSpec where
  name : String
  short : Option Char := none
  kind : FlagKind
  usage : String
deriving Repr, Inhabited

/-- Why a command line is not one of the flags. -/
inductive FlagError where
  | unknown (name : String)
  | unknownShort (c : Char) (cluster : String)
  | needsArgument (arg : String)
  | needsArgumentShort (c : Char) (cluster : String)
  | badSyntax (arg : String)
  | invalidArgument (value flag reason : String)
deriving DecidableEq, Repr

namespace FlagError

/-- The message of an error. -/
def message : FlagError → String
  | .unknown n => "unknown flag: --" ++ n
  | .unknownShort c cl => "unknown shorthand flag: " ++ Text.quoteChar c ++ " in -" ++ cl
  | .needsArgument a => "flag needs an argument: " ++ a
  | .needsArgumentShort c cl => "flag needs an argument: " ++ Text.quoteChar c ++ " in -" ++ cl
  | .badSyntax a => "bad flag syntax: " ++ a
  | .invalidArgument v f r => "invalid argument " ++ Text.quote v ++ " for " ++ Text.quote f ++ " flag: " ++ r

end FlagError

/-- The truth value of a switch's text, or none. -/
def parseSwitch? (s : String) : Option Bool :=
  if ["1", "t", "T", "TRUE", "true", "True"].contains s then some true
  else if ["0", "f", "F", "FALSE", "false", "False"].contains s then some false
  else none

/-- What a command line sets: each flag's name with the value it was given, in order, and
the operands. -/
structure FlagValues where
  settings : List (String × String) := []
  operands : List String := []
deriving Repr, Inhabited

namespace FlagValues

/-- Whether a flag was set. -/
def changed (v : FlagValues) (name : String) : Bool := v.settings.any (·.1 = name)

/-- The last value a flag was set to. -/
def last? (v : FlagValues) (name : String) : Option String :=
  (v.settings.filter (·.1 = name)).getLast?.map (·.2)

/-- The texts of one value of a list flag: its first record of comma-separated values. -/
def texts (s : String) : Except Text.Csv.Failure (List String) :=
  if s.isEmpty then .ok [] else Text.Csv.readFirst s

/-- The values of a list flag: each setting's texts, in order. -/
def list (v : FlagValues) (name : String) : List String :=
  (v.settings.filter (·.1 = name)).flatMap fun (_, s) => (texts s).toOption.getD []

/-- Whether a switch is on. -/
def switch (v : FlagValues) (name : String) : Bool := (v.last? name).bind parseSwitch? |>.getD false

end FlagValues

namespace Flags

/-- The name a flag is shown by in a message about its value. -/
def shownName (f : FlagSpec) : String :=
  match f.short with
  | some c => "-" ++ c.toString ++ ", --" ++ f.name
  | none => "--" ++ f.name

/-- Checks a value for a flag: a switch takes only truth values, a list only values with
a first record. -/
def check (f : FlagSpec) (value : String) : Except FlagError Unit :=
  if f.kind = .switch ∧ (parseSwitch? value).isNone then
    .error (.invalidArgument value (shownName f)
      ("strconv.ParseBool: parsing " ++ Text.quote value ++ ": invalid syntax"))
  else if f.kind = .texts then
    match FlagValues.texts value with
    | .error e => .error (.invalidArgument value (shownName f) e.message)
    | .ok _ => .ok ()
  else .ok ()

/-- The character of the first byte of a letter, by which a short flag is named. -/
def leadByte (c : Char) : Char :=
  match (String.singleton c).toUTF8.toList with
  | b :: _ => Char.ofNat b.toNat
  | [] => c

/-- Reads a group of short flags after its `-`: the settings it makes and the arguments
left. -/
def shortGroup (specs : List FlagSpec) : Nat → List Char → List String →
    List (String × String) → Except FlagError (List (String × String) × List String)
  | 0, _, rest, acc => .ok (acc, rest)
  | _, [], rest, acc => .ok (acc, rest)
  | fuel + 1, c :: more, rest, acc =>
    match specs.find? (·.short = some c) with
    | none => .error (.unknownShort (leadByte c) (String.ofList (c :: more)))
    | some f =>
      match more with
      | '=' :: v@(_ :: _) =>
        do check f (String.ofList v); pure (acc ++ [(f.name, String.ofList v)], rest)
      | _ =>
        if f.kind = .switch then shortGroup specs fuel more rest (acc ++ [(f.name, "true")])
        else if !more.isEmpty then
          do check f (String.ofList more); pure (acc ++ [(f.name, String.ofList more)], rest)
        else
          match rest with
          | v :: rest' => do check f v; pure (acc ++ [(f.name, v)], rest')
          | [] => .error (.needsArgumentShort c (String.ofList (c :: more)))

/-- Reads a command line against flags. -/
def parse (specs : List FlagSpec) (args : List String) : Except FlagError FlagValues :=
  go args.length args {}
where
  go : Nat → List String → FlagValues → Except FlagError FlagValues
    | 0, rest, acc => .ok { acc with operands := acc.operands ++ rest }
    | _, [], acc => .ok acc
    | fuel + 1, a :: rest, acc =>
      if a = "--" then .ok { acc with operands := acc.operands ++ rest }
      else if a.startsWith "--" then
        let body := String.ofList (a.toList.drop 2)
        if body.startsWith "-" ∨ body.startsWith "=" then .error (.badSyntax a)
        else
          let (name, value) := match body.splitOn "=" with
            | n :: v :: vs => (n, some ("=".intercalate (v :: vs)))
            | _ => (body, none)
          match specs.find? (·.name = name) with
          | none => .error (.unknown name)
          | some f =>
            match value with
            | some v => do check f v; go fuel rest { acc with settings := acc.settings ++ [(name, v)] }
            | none =>
              if f.kind = .switch then go fuel rest { acc with settings := acc.settings ++ [(name, "true")] }
              else
                match rest with
                | v :: rest' => do check f v; go fuel rest' { acc with settings := acc.settings ++ [(name, v)] }
                | [] => .error (.needsArgument a)
      else if a.startsWith "-" ∧ a.length > 1 then
        let cluster := String.ofList (a.toList.drop 1)
        match shortGroup specs (cluster.length + 1) cluster.toList rest [] with
        | .ok (sets, rest') => go fuel rest' { acc with settings := acc.settings ++ sets }
        | .error e => .error e
      else go fuel rest { acc with operands := acc.operands ++ [a] }

/-- The name of what a flag holds in its help line. -/
def typeName : FlagKind → String
  | .text => "string"
  | .texts => "strings"
  | .switch => ""

/-- The front of a flag's help line: its names and the name of what it holds. -/
def front (f : FlagSpec) : String :=
  let names := match f.short with
    | some c => "  -" ++ c.toString ++ ", --" ++ f.name
    | none => "      --" ++ f.name
  let t := typeName f.kind
  if t.isEmpty then names else names ++ " " ++ t

/-- Inserts a flag into a list sorted by name. -/
def insertByName (f : FlagSpec) : List FlagSpec → List FlagSpec
  | [] => [f]
  | g :: gs => if f.name < g.name then f :: g :: gs else g :: insertByName f gs

/-- The help lines of flags, sorted by name, each help text three spaces after the widest
front. -/
def usage (specs : List FlagSpec) : String :=
  let sorted := specs.foldl (fun acc f => insertByName f acc) []
  let width := sorted.foldl (fun m f => max m (front f).utf8ByteSize) 0
  "\n".intercalate (sorted.map fun f =>
    let fr := front f
    fr ++ String.ofList (List.replicate (width - fr.utf8ByteSize + 3) ' ') ++ f.usage)

end Flags

end Timebox
