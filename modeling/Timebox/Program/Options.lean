import Timebox.Program.Tools

/-! # Options of the core tools

`Options.scan` reads the arguments of a tool the way the core tools do: options stand
anywhere before `--`, and `-` alone is an operand. A cluster such as `-di` sets several
letters; a letter that takes a value takes the rest of its cluster or the next argument
(`-w76`, `-w 76`). A long option may be cut to any prefix that names it alone, and takes
its value after `=` or as the next argument (`--wrap=76`, `--wrap 76`).

The faults come in the tools' words, the first one met: `invalid option -- 'x'`,
`option requires an argument -- 'w'`, `unrecognized option '--x'`,
`option '--wrap' requires an argument`, `option '--decode' doesn't allow an argument` and
`option '--w' is ambiguous; possibilities: '--wrap' '--width'`. A few options take a value
only in their own argument (`-i{}`, `--replace={}`), and a few tools read options only
before their first operand.
-/

namespace Timebox

namespace Program

namespace Options

/-- An option a tool knows: the name its setting goes by, its letter and long name (each
maybe missing), and whether it takes a value. -/
structure Spec where
  key : String
  letter : Option Char := none
  long : Option String := none
  value : Bool := false
  /-- The value may be given, but only in the same argument (`-i{}`, `--replace={}`). -/
  optional : Bool := false

/-- An option as read: its key and its value. -/
abbrev Setting := String × Option String

/-- Why arguments cannot be read. -/
inductive Fault where
  | invalid (c : Char)
  | needsValue (c : Char)
  | unrecognized (arg : String)
  | longNeedsValue (long : String)
  | longRefusesValue (long : String)
  | ambiguous (arg : String) (longs : List String)

/-- The message of a fault. -/
def Fault.message : Fault → String
  | .invalid c => "invalid option -- '" ++ c.toString ++ "'"
  | .needsValue c => "option requires an argument -- '" ++ c.toString ++ "'"
  | .unrecognized a => "unrecognized option '" ++ a ++ "'"
  | .longNeedsValue l => "option '--" ++ l ++ "' requires an argument"
  | .longRefusesValue l => "option '--" ++ l ++ "' doesn't allow an argument"
  | .ambiguous a ls =>
    "option '" ++ a ++ "' is ambiguous; possibilities:" ++ String.join (ls.map fun l => " '--" ++ l ++ "'")

/-- The options a long name given in full or cut short names: the one named in full, else
all whose names start with it. -/
def longMatches (specs : List Spec) (name : String) : List Spec :=
  let named := specs.filter fun s => s.long = some name
  if !named.isEmpty then named.take 1
  else specs.filter fun s => match s.long with
    | some l => l.startsWith name
    | none => false

/-- What reading the arguments gave: the settings in order, the operands in order, and
the fault that stopped it, if one did (the settings before it are kept). -/
structure Reading where
  settings : List Setting := []
  operands : List String := []
  fault : Option Fault := none

/-- Reads the letters of a cluster; the arguments after it may give the last letter its
value. -/
def cluster (specs : List Spec) : List Char → List String → List Setting →
    List Setting × List String × Option Fault
  | [], rest, acc => (acc, rest, none)
  | c :: more, rest, acc =>
    match specs.find? (·.letter = some c) with
    | none => (acc, rest, some (.invalid c))
    | some s =>
      if s.optional then
        (acc ++ [(s.key, if more.isEmpty then none else some (String.ofList more))], rest, none)
      else if !s.value then cluster specs more rest (acc ++ [(s.key, none)])
      else if !more.isEmpty then (acc ++ [(s.key, some (String.ofList more))], rest, none)
      else match rest with
        | v :: r => (acc ++ [(s.key, some v)], r, none)
        | [] => (acc, rest, some (.needsValue c))

/-- Reads all arguments: the settings in order and the operands in order. Options stand
anywhere when `permute`, else only before the first operand. -/
def scanAll (specs : List Spec) (permute : Bool) : Nat → List String → List Setting → List String →
    Reading
  | 0, rest, acc, ops => { settings := acc, operands := ops ++ rest }
  | _, [], acc, ops => { settings := acc, operands := ops }
  | fuel + 1, a :: rest, acc, ops =>
    if a = "--" then { settings := acc, operands := ops ++ rest }
    else if a = "-" ∨ !a.startsWith "-" then
      if permute then scanAll specs permute fuel rest acc (ops ++ [a])
      else { settings := acc, operands := ops ++ a :: rest }
    else if a.startsWith "--" then
      let body := a.drop 2 |>.toString
      let name := (body.splitOn "=").headD body
      let given : Option String :=
        if body.contains '=' then some (String.ofList (body.toList.drop (name.length + 1))) else none
      let stop (f : Fault) : Reading := { settings := acc, operands := ops, fault := some f }
      match longMatches specs name with
      | [] => stop (.unrecognized a)
      | [s] =>
        let long := s.long.getD name
        if s.optional then scanAll specs permute fuel rest (acc ++ [(s.key, given)]) ops
        else if s.value then
          match given, rest with
          | some v, _ => scanAll specs permute fuel rest (acc ++ [(s.key, some v)]) ops
          | none, v :: r => scanAll specs permute fuel r (acc ++ [(s.key, some v)]) ops
          | none, [] => stop (.longNeedsValue long)
        else if given.isSome then stop (.longRefusesValue long)
        else scanAll specs permute fuel rest (acc ++ [(s.key, none)]) ops
      | many => stop (.ambiguous ("--" ++ name) (many.filterMap (·.long)))
    else
      match cluster specs (a.toList.drop 1) rest acc with
      | (acc, _, some f) => { settings := acc, operands := ops, fault := some f }
      | (acc, rest, none) => scanAll specs permute fuel rest acc ops

/-- Reads the arguments of a tool up to the first fault; options stand anywhere unless
`inOrder`. -/
def read (specs : List Spec) (args : List String) (inOrder : Bool := false) : Reading :=
  scanAll specs (!inOrder) (args.length + 1) args [] []

/-- Reads the arguments of a tool: its settings and operands, or the error of a wrong
call with the usage hint and exit code `code`; options stand anywhere unless `inOrder`. -/
def scan (name : String) (code : Nat) (specs : List Spec) (args : List String) (inOrder : Bool := false) :
    Except Effect (List Setting × List String) :=
  let r := read specs args inOrder
  match r.fault with
  | none => .ok (r.settings, r.operands)
  | some f => .error { usageError name f.message with code }

/-- Whether a setting was given. -/
def has (settings : List Setting) (key : String) : Bool := settings.any (·.1 = key)

/-- The last value given for a setting. -/
def last? (settings : List Setting) (key : String) : Option String :=
  (settings.filter (·.1 = key)).getLast?.bind (·.2)

end Options

end Program

end Timebox
