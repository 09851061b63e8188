import Timebox.Shell.Builtin
import Timebox.Shell.BashArith

/-! # The commands bash runs itself in its own way

Where bash's own commands differ from the Debian Almquist shell's, they are here:

* `declare` (and `typeset`) and `local` set variables with attributes: `-i` makes an
  integer variable, whose values are evaluated as arithmetic when set; `-a` an array; `-r`
  a read-only variable; `-x` an exported one; `+i` and `+x` take the attribute away.
  Inside a function the names are local to it, unset at first, unless `-g` is given;
  `local` outside a function is an error. `-p` writes the declarations of the names.
* `let` evaluates arithmetic expressions; its status is 0 when the last is not zero.
* `printf` takes `-v name` to set a variable to its output, and quotes with `%q`
  (`Printf.bashRules`).
* `export`, `readonly` and `unset` go on after a name that is not valid or read-only,
  with status 1; `exit`, `return`, `shift` and `cd` want their arguments as bash does.

Errors do not end the shell: a message reads `name: line N: command: text` and the status
is 1, or 2 for a misused option, which also writes the command's usage line.
-/

namespace Timebox

namespace Shell

open Process

/-- The attributes that `declare`, `typeset` and `local` give or take away. -/
structure Attributes where
  integer : Bool := false
  array : Bool := false
  readonly : Bool := false
  exported : Bool := false
  /-- `-g`: a variable of the whole shell, even inside a function. -/
  global : Bool := false
  /-- `-p`: the declarations are written instead. -/
  print : Bool := false
  /-- `+i`: the integer attribute taken away. -/
  notInteger : Bool := false
  /-- `+x`: the export taken away. -/
  notExported : Bool := false
deriving Inhabited

/-- The option letters of `declare`. -/
def attributeLetters : List Char :=
  ['a', 'A', 'f', 'F', 'g', 'i', 'I', 'l', 'n', 'p', 'r', 't', 'u', 'x']

/-- The attributes with one letter given (after `-`) or taken away (after `+`). -/
def Attributes.set (a : Attributes) (given : Bool) (c : Char) : Attributes :=
  if c = 'i' then (if given then { a with integer := true } else { a with notInteger := true })
  else if c = 'x' then (if given then { a with exported := true } else { a with notExported := true })
  else if c = 'a' ∨ c = 'A' then { a with array := a.array || given }
  else if c = 'r' then { a with readonly := a.readonly || given }
  else if c = 'g' then { a with global := true }
  else if c = 'p' then { a with print := true }
  else a

/-- Reads the options before the names: the attributes and the names, or the option that is
not one. -/
def readAttributes : List String → Attributes → Except String (Attributes × List String)
  | [], a => .ok (a, [])
  | "--" :: rest, a => .ok (a, rest)
  | arg :: rest, a =>
    match arg.toList with
    | sign :: c :: cs =>
      if sign = '-' ∨ sign = '+' then
        match (c :: cs).find? (fun l => !attributeLetters.contains l) with
        | some bad => .error (sign.toString ++ bad.toString)
        | none => readAttributes rest ((c :: cs).foldl (fun a l => a.set (sign = '-') l) a)
      else .ok (a, arg :: rest)
    | _ => .ok (a, arg :: rest)

/-- The usage line of `declare`, `typeset` or `local`. -/
def declareUsage (cmd : String) : String :=
  if cmd = "local" then "local [option] name[=value] ..."
  else cmd ++ " [-aAfFgiIlnrtux] name[=value] ... or " ++ cmd ++ " -p [-aAfFilnrtux] [name ...]"

namespace Proc

/-- The shell after a misused option: the message, the command's usage line, status 2. -/
def misused (sh : Proc) (cmd msg usage : String) : Flow × Proc :=
  ((sh.warn (cmd ++ ": " ++ msg)).say 2 (cmd ++ ": usage: " ++ usage ++ "\n")).done 2

/-- The shell with a message written and its status 1, going on. -/
def complain (sh : Proc) (msg : String) : Proc := { sh.warn msg with status := 1 }

/-- The shell with a variable made local to the function running: saved once, and unset,
as bash starts a local variable. -/
def makeLocal (sh : Proc) (n : String) : Proc :=
  let saved := sh.locals.getD []
  if saved.any (·.name = n) then sh
  else
    { sh with locals := some (saved ++ [sh.save n]),
              vars := sh.vars.filter (·.1 ≠ n), arrays := sh.arrays.filter (·.1 ≠ n),
              integers := sh.integers.filter (· ≠ n) }

end Proc

/-- A value as `declare -p` writes it: between double quotes, with a backslash before `"`,
`$`, `\` and the backquote; in `$'…'` when it holds an unprintable byte. -/
def declaredValue (v : String) : String :=
  if (Raw.toBytes v).any (fun b => !Text.Quoting.printable b) then Text.Quoting.backslash v
  else
    "\"" ++ String.join (v.toList.map fun c =>
      if c = '"' ∨ c = '$' ∨ c = '\\' ∨ c.toNat = 96 then "\\" ++ c.toString else c.toString) ++ "\""

/-- The declaration `declare -p` writes for a name, if the name is declared: its attribute
letters (`--` for none) and its value, or its elements for an array. -/
def declaration (sh : Proc) (n : String) : Option String :=
  let letters (array : Bool) : String :=
    let s := (if array then "a" else "") ++ (if sh.integers.contains n then "i" else "") ++
      (if sh.readonlyVars.contains n then "r" else "") ++ (if sh.exported.contains n then "x" else "")
    if s.isEmpty then "--" else "-" ++ s
  match sh.arrays.lookup n with
  | some es =>
    let items := es.map fun (i, v) => "[" ++ toString i ++ "]=" ++ declaredValue v
    some ("declare " ++ letters true ++ " " ++ n ++ "=(" ++ " ".intercalate items ++ ")")
  | none =>
    match sh.vars.lookup n with
    | some v => some ("declare " ++ letters false ++ " " ++ n ++ "=" ++ declaredValue v)
    | none =>
      if sh.integers.contains n ∨ sh.readonlyVars.contains n ∨ sh.exported.contains n then
        some ("declare " ++ letters false ++ " " ++ n)
      else none

/-- Declares one name, or `name=value`, with attributes; a failure is written and makes the
status 1. -/
def declareOne (cmd : String) (a : Attributes) (sh : Proc) (arg : String) : Proc :=
  let (n, v) := splitAssignment arg
  let base := (Proc.splitSubscript n).1
  let inFunction := sh.locals.isSome && !a.global
  let fresh := inFunction && (sh.locals.getD []).all (·.name ≠ base)
  if !isName base then sh.complain (cmd ++ ": `" ++ arg ++ "': not a valid identifier")
  else if sh.readonlyVars.contains base ∧ (v.isSome ∨ fresh) then
    sh.complain (cmd ++ ": " ++ base ++ ": readonly variable")
  else
    let sh := if inFunction then sh.makeLocal base else sh
    let sh := if a.integer ∧ !sh.integers.contains base then { sh with integers := sh.integers ++ [base] }
      else if a.notInteger then { sh with integers := sh.integers.filter (· ≠ base) }
      else sh
    let sh := match v with
      | some v => sh.assign n v
      | none =>
        if a.array ∧ (sh.arrays.lookup base).isNone then sh.setArray base (sh.vars.lookup base).toList
        else sh
    let sh := if a.readonly ∧ !sh.readonlyVars.contains base then
        { sh with readonlyVars := sh.readonlyVars ++ [base] }
      else sh
    if a.exported then sh.exportVar base
    else if a.notExported then { sh with exported := sh.exported.filter (· ≠ base) }
    else sh

/-- `declare`, `typeset` and `local` (named by `cmd`). -/
def declare (cmd : String) : Builtin := fun args sh =>
  match readAttributes args {} with
  | .error bad => sh.misused cmd (bad ++ ": invalid option") (declareUsage cmd)
  | .ok (a, names) =>
    if cmd = "local" ∧ sh.locals.isNone then sh.fail cmd "can only be used in a function" 1
    else if a.print then
      names.foldl (fun (acc : Flow × Proc) n =>
        let sh := acc.2
        match declaration sh n with
        | some d => (acc.1, sh.say 1 (d ++ "\n"))
        | none => (acc.1, sh.complain (cmd ++ ": " ++ n ++ ": not found"))) (.next, { sh with status := 0 })
    else (.next, names.foldl (declareOne cmd a) { sh with status := 0 })

/-- `let expression…`: each evaluated in turn; the status is 0 when the last is not zero. -/
def letArith : Builtin := fun args sh =>
  let rec go : List String → Proc → Int → Flow × Proc
    | [], sh, v => sh.done (if v = 0 then 1 else 0)
    | e :: rest, sh, _ =>
      match BashArith.eval e sh.get? with
      | .error f => sh.fail "let" f.message 1
      | .ok (v, assigned) =>
        match sh.assignArith assigned with
        | (sh, some n) => sh.fail n "readonly variable" 1
        | (sh, none) => go rest sh v
  if args.isEmpty then sh.fail "let" "expression expected" 1 else go args sh 0

/-- The usage line of bash's `printf`. -/
def printfUsage : String := "printf [-v var] format [arguments]"

/-- The options of bash's `printf`: the variable of `-v`, and the format and arguments; or
the message of a misused option. -/
def printfOptions : List String → Except String (Option String × List String)
  | [] => .ok (none, [])
  | "--" :: rest => .ok (none, rest)
  | ["-v"] => .error "-v: option requires an argument"
  | "-v" :: n :: rest => .ok (some n, if rest.head? = some "--" then rest.drop 1 else rest)
  | a :: rest =>
    match a.toList with
    | '-' :: 'v' :: n => .ok (some (String.ofList n), if rest.head? = some "--" then rest.drop 1 else rest)
    | '-' :: c :: _ => .error ("-" ++ c.toString ++ ": invalid option")
    | _ => .ok (none, a :: rest)

/-- bash's `printf`: the output goes to the standard output, or with `-v name` into the
variable. -/
def bashPrintf : Builtin := fun args sh =>
  match printfOptions args with
  | .error e => sh.misused "printf" e printfUsage
  | .ok (_, []) => (sh.say 2 ("printf: usage: " ++ printfUsage ++ "\n")).done 2
  | .ok (target, fmt :: rest) =>
    match target with
    | some n =>
      if !isName (Proc.splitSubscript n).1 then sh.fail "printf" ("`" ++ n ++ "': not a valid identifier") 2
      else
        let r := Printf.run Printf.bashRules fmt rest
        let sh := sh.assign n (Raw.ofBytes r.out)
        let sh := (r.warnings ++ r.fatal.toList).foldl (fun (s : Proc) w => s.warn ("printf: " ++ w)) sh
        sh.done (if r.failed then 1 else 0)
    | none =>
      let r := Printf.run Printf.bashRules fmt rest
      let sh := sh.put 1 r.out
      let sh := (r.warnings ++ r.fatal.toList).foldl (fun (s : Proc) w => s.warn ("printf: " ++ w)) sh
      sh.done (if r.failed then 1 else 0)

/-- `export` and `readonly` of bash: names, or `name=value` assignments, made exported (or
with `-n` no longer) or read-only; alone or with `-p`, the declarations of such names. -/
def bashExport (cmd : String) (exported : Bool) : Builtin := fun args sh =>
  let usage := if exported then "export [-fn] [name[=value] ...] or export -p"
    else "readonly [-aAf] [name[=value] ...] or readonly -p"
  let letters := if exported then ['f', 'n', 'p'] else ['a', 'A', 'f', 'p']
  let opts := args.takeWhile fun a => a.startsWith "-" ∧ a.length > 1 ∧ a ≠ "--"
  let names := args.drop opts.length
  let names := if names.head? = some "--" then names.drop 1 else names
  let letters_ := opts.flatMap fun o => o.toList.drop 1
  match letters_.find? (fun c => !letters.contains c) with
  | some c => sh.misused cmd ("-" ++ c.toString ++ ": invalid option") usage
  | none =>
    if names.isEmpty then
      let chosen := sortNames (if exported then sh.exported else sh.readonlyVars)
      (chosen.foldl (fun (s : Proc) n =>
        match declaration sh n with
        | some d => s.say 1 (d ++ "\n")
        | none => s) sh).done 0
    else
      let undo := letters_.contains 'n'
      (.next, names.foldl (fun (sh : Proc) a =>
        let (n, v) := splitAssignment a
        if !isName n then sh.complain (cmd ++ ": `" ++ a ++ "': not a valid identifier")
        else if v.isSome ∧ sh.readonlyVars.contains n then sh.complain (n ++ ": readonly variable")
        else
          let sh := match v with
            | some v => sh.assign n v
            | none => sh
          if exported then
            if undo then { sh with exported := sh.exported.filter (· ≠ n) } else sh.exportVar n
          else if sh.readonlyVars.contains n then sh
          else { sh with readonlyVars := sh.readonlyVars ++ [n] }) { sh with status := 0 })

/-- `unset` of bash: a read-only name or one that is not valid is written about, and the
rest are still unset. -/
def bashUnset : Builtin := fun args sh =>
  let (functions, names) := match args with
    | "-f" :: rest => (true, rest)
    | "-v" :: rest => (false, rest)
    | "--" :: rest => (false, rest)
    | rest => (false, rest)
  if functions then
    (.next, { sh with functions := sh.functions.filter (fun (n, _) => !names.contains n), status := 0 })
  else
    (.next, names.foldl (fun (sh : Proc) n =>
      if !isName (Proc.splitSubscript n).1 then sh.complain ("unset: `" ++ n ++ "': not a valid identifier")
      else if sh.readonlyVars.contains n then sh.complain ("unset: " ++ n ++ ": cannot unset: readonly variable")
      else sh.unset n) { sh with status := 0 })

/-- A number as bash's commands read one: blanks around it, a sign, decimal digits. -/
def bashNumber? (s : String) : Option Int :=
  let t := s.trimAscii.toString
  match t.toList with
  | '-' :: ds => if ds.isEmpty ∨ !ds.all Char.isDigit then none else some (-((String.ofList ds).toNat! : Int))
  | '+' :: ds => if ds.isEmpty ∨ !ds.all Char.isDigit then none else some ((String.ofList ds).toNat! : Int)
  | ds => if ds.isEmpty ∨ !ds.all Char.isDigit then none else some ((String.ofList ds).toNat! : Int)

/-- An exit status as bash takes it from a number: modulo 256. -/
def statusOf (v : Int) : Nat := (v % 256).toNat

/-- `exit [n]` of bash. -/
def bashExit : Builtin := fun args sh =>
  match args with
  | [] => (.exit (.exited sh.status), sh)
  | [a] =>
    match bashNumber? a with
    | some v => (.exit (.exited (statusOf v)), sh)
    | none => (.exit (.exited 2), sh.warn ("exit: " ++ a ++ ": numeric argument required"))
  | a :: _ =>
    match bashNumber? a with
    | some _ => (.exit (.exited 1), sh.warn "exit: too many arguments")
    | none => (.exit (.exited 2), sh.warn ("exit: " ++ a ++ ": numeric argument required"))

/-- `return [n]` of bash, which only a function may run. -/
def bashReturn : Builtin := fun args sh =>
  if sh.locals.isNone ∧ !sh.sourced then sh.fail "return" "can only `return' from a function or sourced script" 2
  else
    match args with
    | [] => (.returned, sh)
    | a :: rest =>
      match bashNumber? a with
      | some v =>
        if rest.isEmpty then (.returned, { sh with status := statusOf v })
        else sh.fail "return" "too many arguments" 1
      | none => (.returned, { sh.warn ("return: " ++ a ++ ": numeric argument required") with status := 2 })

/-- `shift [n]` of bash: shifting more than there are does nothing, with status 1. -/
def bashShift : Builtin := fun args sh =>
  match args with
  | [] => if sh.params.isEmpty then sh.done 1 else ({ sh with params := sh.params.drop 1 }).done 0
  | a :: _ =>
    match bashNumber? a with
    | none => sh.fail "shift" (a ++ ": numeric argument required") 1
    | some v =>
      if v < 0 then sh.fail "shift" (a ++ ": shift count out of range") 1
      else if v.toNat > sh.params.length then sh.done 1
      else ({ sh with params := sh.params.drop v.toNat }).done 0

/-- `cd [dir]` of bash. -/
def bashCd : Builtin := fun args sh =>
  match args with
  | _ :: _ :: _ => sh.fail "cd" "too many arguments" 1
  | _ =>
    let target := match args with
      | [] => sh.get? "HOME"
      | d :: _ => some d
    match target with
    | none => sh.fail "cd" "HOME not set" 1
    | some d =>
      let p := sh.cwd.resolve d
      if sh.disk.isDirectory p then
        let pwd := match p with
          | .system s => s
          | .tree _ => ((sh.get? "PWD").getD "") ++ "/" ++ d
        ({ sh with cwd := p }.assign "OLDPWD" ((sh.get? "PWD").getD "") |>.assign "PWD" pwd).done 0
      else
        match sh.kindOf d with
        | .file _ _ => sh.fail "cd" (d ++ ": Not a directory") 1
        | _ => sh.fail "cd" (d ++ ": No such file or directory") 1

/-- The reserved words of bash. -/
def bashKeywords : List String := keywords ++ ["[[", "]]", "function", "select", "time", "coproc"]

/-- Commands only bash runs itself, besides those with their own behaviour here. -/
def bashOnlyNames : List String :=
  ["source", "builtin", "caller", "enable", "help", "history", "logout", "mapfile", "readarray",
   "popd", "pushd", "dirs", "disown", "suspend", "bind", "compgen", "complete", "compopt", "fc",
   "declare", "typeset", "let", "shopt"]

/-- What bash runs by a name. -/
inductive Found where
  | keyword
  | function
  | builtin
  | file (path : String)
deriving DecidableEq, Repr, Inhabited

/-- The program files a name may run: itself when it holds a slash, else the executable
files of that name in the directories of the search path, in order. -/
def programsOf (sh : Proc) (n : String) : List String :=
  if n.contains '/' then
    match sh.kindOf n with
    | .file _ true => [n]
    | _ => []
  else
    sh.searchDirs.filterMap fun dir =>
      let path := (if dir.isEmpty then "." else dir) ++ "/" ++ n
      match sh.kindOf path with
      | .file _ true => some path
      | _ => none

/-- All that bash may run by a name, in the order it looks: reserved word, function,
command of its own, programs. -/
def foundAll (sh : Proc) (n : String) : List Found :=
  (if bashKeywords.contains n then [Found.keyword] else []) ++
  (if (sh.functions.lookup n).isSome then [Found.function] else []) ++
  (if isBuiltin n ∨ bashOnlyNames.contains n then [Found.builtin] else []) ++
  (programsOf sh n).map Found.file

/-- `type [-atpP] name…` of bash (and `command -V`, named by `cmd`): what each name runs;
`-t` gives only the kind's word, `-p` only a program's path, `-P` the path even of a name
the shell runs itself, `-a` every match. -/
def bashType (cmd : String) : Builtin := fun args sh =>
  let opts := args.takeWhile fun a => a.startsWith "-" ∧ a.length > 1
  let names := args.drop opts.length
  let letters := opts.flatMap (·.toList.drop 1)
  let all := letters.contains 'a'
  let terse := letters.contains 't'
  let forcePath := letters.contains 'P'
  let pathOnly := forcePath || letters.contains 'p'
  names.foldl (fun (acc : Flow × Proc) n =>
    let sh := acc.2
    let found := foundAll sh n
    let found := if forcePath then found.filter (fun | .file _ => true | _ => false) else found
    let found := if all then found else found.take 1
    let line (f : Found) : Option String :=
      if terse then some (match f with
        | .keyword => "keyword"
        | .function => "function"
        | .builtin => "builtin"
        | .file _ => "file")
      else if pathOnly then (match f with
        | .file p => some p
        | _ => none)
      else some (match f with
        | .keyword => n ++ " is a shell keyword"
        | .function => n ++ " is a function"
        | .builtin => n ++ " is a shell builtin"
        | .file p => n ++ " is " ++ p)
    if found.isEmpty then
      if terse ∨ pathOnly then (acc.1, { sh with status := 1 })
      else (acc.1, sh.complain (cmd ++ ": " ++ n ++ ": not found"))
    else (acc.1, found.foldl (fun (s : Proc) f => match line f with
      | some l => s.say 1 (l ++ "\n")
      | none => s) sh)) (.next, { sh with status := 0 })

/-- The commands bash runs itself in its own way. -/
def bashBuiltin? (name : String) : Option Builtin :=
  if name = "declare" ∨ name = "typeset" ∨ name = "local" then some (declare name)
  else if name = "let" then some letArith
  else if name = "printf" then some bashPrintf
  else if name = "export" then some (bashExport "export" true)
  else if name = "readonly" then some (bashExport "readonly" false)
  else if name = "unset" then some bashUnset
  else if name = "exit" then some bashExit
  else if name = "return" then some bashReturn
  else if name = "shift" then some bashShift
  else if name = "cd" then some bashCd
  else if name = "shopt" then some fun _ sh => sh.done 0
  else if name = "type" then some (bashType "type")
  else none

end Shell

end Timebox
