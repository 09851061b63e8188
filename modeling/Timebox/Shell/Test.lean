import Timebox.Process.Basic

/-! # Conditions of `test` and `[`

`Test.eval kind args` decides a condition over the arguments of `test`: `!`, `-a`, `-o`
and parentheses combine primaries, which are a text (true when not empty), a unary test
of a text or file (`-n`, `-z`, `-e`, `-f`, `-d`, `-s`, `-r`, `-w`, `-x`), or a comparison of
two texts (`=`, `!=`, `<`, `>`) or integers (`-eq`, `-ne`, `-lt`, `-le`, `-gt`, `-ge`).
`kind` says what a path names. Three arguments with a comparison in the middle are always
that comparison, as POSIX asks. The result is the exit status (0 true, 1 false) or an
error message.
-/

namespace Timebox

namespace Shell

namespace Test

open Process

/-- The unary tests. -/
def unaryOps : List String := ["-n", "-z", "-e", "-f", "-d", "-s", "-r", "-w", "-x", "-L", "-h", "-b", "-c", "-p", "-S", "-t", "-g", "-u", "-k", "-O", "-G"]

/-- The binary tests. -/
def binaryOps : List String := ["=", "!=", "<", ">", "-eq", "-ne", "-lt", "-le", "-gt", "-ge", "-nt", "-ot", "-ef"]

/-- An integer argument, blanks around it allowed. -/
def integer? (s : String) : Option Int :=
  let t := String.ofList ((s.toList.dropWhile (· = ' ')).reverse.dropWhile (· = ' ')).reverse
  match t.toList with
  | '-' :: ds => if ds.isEmpty ∨ !ds.all Char.isDigit then none else some (-((String.ofList ds).toNat! : Int))
  | '+' :: ds => if ds.isEmpty ∨ !ds.all Char.isDigit then none else some ((String.ofList ds).toNat! : Int)
  | ds => if ds.isEmpty ∨ !ds.all Char.isDigit then none else some ((String.ofList ds).toNat! : Int)

/-- A unary test of an operand. -/
def unary (kind : String → Kind) (op arg : String) : Except String Bool :=
  if op = "-n" then .ok (!arg.isEmpty)
  else if op = "-z" then .ok arg.isEmpty
  else if op = "-t" then .ok false
  else
    let k := kind arg
    let isFile := match k with | .file _ _ => true | _ => false
    let exists_ := match k with | .file _ _ | .directory => true | _ => false
    if op = "-e" then .ok exists_
    else if op = "-f" then .ok isFile
    else if op = "-d" then .ok (match k with | .directory => true | _ => false)
    else if op = "-s" then .ok (match k with | .file b _ => !b.isEmpty | .directory => true | _ => false)
    else if op = "-r" ∨ op = "-w" then .ok exists_
    else if op = "-x" then .ok (match k with | .file _ x => x | .directory => true | _ => false)
    else .ok false

/-- A binary test of two operands. -/
def binary (op a b : String) : Except String Bool :=
  if op = "=" then .ok (a = b)
  else if op = "!=" then .ok (a ≠ b)
  else if op = "<" then .ok (a < b)
  else if op = ">" then .ok (b < a)
  else if op = "-nt" ∨ op = "-ot" ∨ op = "-ef" then .ok false
  else
    match integer? a, integer? b with
    | none, _ => .error ("Illegal number: " ++ a)
    | _, none => .error ("Illegal number: " ++ b)
    | some x, some y =>
      .ok (if op = "-eq" then x = y else if op = "-ne" then x ≠ y else if op = "-lt" then x < y
        else if op = "-le" then x ≤ y else if op = "-gt" then x > y else x ≥ y)

mutual

/-- `a -o b`. -/
def orExpr (fuel : Nat) (kind : String → Kind) (args : List String) : Except String (Bool × List String) :=
  match fuel with
  | 0 => .error "expression too deep"
  | fuel + 1 => do
    let (a, rest) ← andExpr fuel kind args
    match rest with
    | "-o" :: more => let (b, r) ← orExpr fuel kind more; pure (a || b, r)
    | _ => pure (a, rest)

/-- `a -a b`. -/
def andExpr (fuel : Nat) (kind : String → Kind) (args : List String) : Except String (Bool × List String) :=
  match fuel with
  | 0 => .error "expression too deep"
  | fuel + 1 => do
    let (a, rest) ← notExpr fuel kind args
    match rest with
    | "-a" :: more => let (b, r) ← andExpr fuel kind more; pure (a && b, r)
    | _ => pure (a, rest)

/-- `! a`. -/
def notExpr (fuel : Nat) (kind : String → Kind) (args : List String) : Except String (Bool × List String) :=
  match fuel with
  | 0 => .error "expression too deep"
  | fuel + 1 =>
    match args with
    | "!" :: more => do let (a, r) ← notExpr fuel kind more; pure (!a, r)
    | _ => primary fuel kind args

/-- A primary: a parenthesised expression, a unary or binary test, or a text. -/
def primary (fuel : Nat) (kind : String → Kind) (args : List String) : Except String (Bool × List String) :=
  match fuel with
  | 0 => .error "expression too deep"
  | fuel + 1 =>
    match args with
    | [] => .error "argument expected"
    | "(" :: more => do
      let (a, r) ← orExpr fuel kind more
      match r with
      | ")" :: r => pure (a, r)
      | _ => .error "closing paren expected"
    | a :: op :: b :: rest =>
      if binaryOps.contains op then do let v ← binary op a b; pure (v, rest)
      else if unaryOps.contains a then do let v ← unary kind a op; pure (v, b :: rest)
      else pure (!a.isEmpty, op :: b :: rest)
    | [a, b] =>
      if unaryOps.contains a then do let v ← unary kind a b; pure (v, [])
      else pure (!a.isEmpty, [b])
    | [a] => pure (!a.isEmpty, [])

end

/-- The status of a condition, or its error. -/
def eval (kind : String → Kind) (args : List String) : Except String Nat :=
  let decide (b : Bool) : Nat := if b then 0 else 1
  match args with
  | [] => .ok 1
  | [a] => .ok (decide !a.isEmpty)
  | ["!", a] => .ok (decide a.isEmpty)
  | [a, op, b] =>
    if binaryOps.contains op then (binary op a b).map decide
    else if a = "!" then
      match orExpr 64 kind [op, b] with
      | .ok (v, []) => .ok (decide !v)
      | .ok (_, r :: _) => .error (r ++ ": unexpected operator")
      | .error e => .error e
    else
      match orExpr 64 kind args with
      | .ok (v, []) => .ok (decide v)
      | .ok (_, r :: _) => .error (r ++ ": unexpected operator")
      | .error e => .error e
  | _ =>
    match orExpr (4 * args.length + 16) kind args with
    | .ok (v, []) => .ok (decide v)
    | .ok (_, r :: _) => .error (r ++ ": unexpected operator")
    | .error e => .error e

end Test

end Shell

end Timebox
