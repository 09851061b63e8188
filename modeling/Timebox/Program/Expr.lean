import Timebox.Program.Tools
import Timebox.Text.Regex

/-! # expr

`expr` evaluates its arguments as an expression and writes the value. From the loosest
operator to the tightest: `|`, `&`, the comparisons `< <= = == != >= >`, `+ -`, `* / %`,
and `:`, the match of a basic pattern at the start of a text (the text of the first group,
or the length matched); then `length`, `substr`, `index`, `match`, `+ word` and
parentheses. A value is an integer when it is one in decimal (of any size), else a text;
comparisons compare integers as numbers and texts byte by byte.

The exit code is 0 for a value that is neither empty nor zero, 1 for one that is, and 2 for
an expression that is not one (`syntax error: unexpected argument 'x'`) or an operation
that has no value (`non-integer argument`, `division by zero`).
-/

namespace Timebox

namespace Program

/-- A value of `expr`. -/
inductive ExprValue where
  | int (n : Int)
  | text (s : List UInt8)
deriving Inhabited

namespace ExprValue

/-- The integer a text is, when it is one: an optional `-` and digits. -/
def intOf? (s : List UInt8) : Option Int :=
  let (neg, ds) := match s with
    | 45 :: r => (true, r)
    | r => (false, r)
  if ds.isEmpty ∨ !ds.all (fun b => 48 ≤ b ∧ b ≤ 57) then none
  else
    let n : Nat := ds.foldl (fun n d => n * 10 + (d.toNat - 48)) 0
    some (if neg then -(n : Int) else n)

/-- The bytes of a value as written. -/
def bytes : ExprValue → List UInt8
  | .int n => bytesOf (toString n)
  | .text s => s

/-- The integer of a value, when it is one. -/
def toInt? : ExprValue → Option Int
  | .int n => some n
  | .text s => intOf? s

/-- Whether a value is empty or zero. -/
def isNull (v : ExprValue) : Bool :=
  match v with
  | .int n => n = 0
  | .text s => s.isEmpty || (intOf? s = some 0)

end ExprValue

/-- Why an expression has no value: the arguments ended too early, or a message. -/
inductive ExprError where
  | missing
  | message (s : String)
deriving Inhabited

/-- The arguments left and a value. -/
abbrev ExprStep := Except ExprError (ExprValue × List String)

namespace Expr

/-- The quoted form of a word in a message: between single quotes, with C escapes. -/
def quoted (w : String) : String := Text.Quoting.locale w

/-- The comparison of two values: as integers when both are, else byte by byte. -/
def compare (a b : ExprValue) : Int :=
  match a.toInt?, b.toInt? with
  | some x, some y => if x < y then -1 else if x > y then 1 else 0
  | _, _ =>
    let rec go : List UInt8 → List UInt8 → Int
      | [], [] => 0
      | [], _ => -1
      | _, [] => 1
      | x :: xs, y :: ys => if x < y then -1 else if x > y then 1 else go xs ys
    go a.bytes b.bytes

/-- An operation on two integers. -/
def arith (op : String) (a b : ExprValue) : Except ExprError ExprValue :=
  match a.toInt?, b.toInt? with
  | some x, some y =>
    if op = "+" then .ok (.int (x + y))
    else if op = "-" then .ok (.int (x - y))
    else if op = "*" then .ok (.int (x * y))
    else if y = 0 then .error (.message "division by zero")
    else if op = "/" then .ok (.int (x.tdiv y))
    else .ok (.int (x.tmod y))
  | _, _ => .error (.message "non-integer argument")

/-- The value of `text : pattern`: the text of the first group of the match at the start,
or the number of bytes matched. -/
def matchValue (text pattern : ExprValue) : Except ExprError ExprValue :=
  match Regex.parse .basic pattern.bytes with
  | .error msg => .error (.message msg)
  | .ok r =>
    let t := text.bytes.toArray
    let found := Regex.longest (Regex.ends false t r 0 [])
    let grouped := (pattern.bytes.zip (pattern.bytes.drop 1)).any fun (a, b) => a = 92 ∧ b = 40
    match found with
    | some (j, spans) =>
      if grouped then
        match spans.lookup 1 with
        | some (a, b) => .ok (.text (t.extract a b).toList)
        | none => .ok (.text [])
      else .ok (.int j)
    | none => if grouped then .ok (.text []) else .ok (.int 0)

/-- The value of `substr text pos length`. -/
def substr (s p l : ExprValue) : ExprValue :=
  match p.toInt?, l.toInt? with
  | some pos, some len =>
    let bs := s.bytes
    if pos ≤ 0 ∨ len ≤ 0 ∨ pos > bs.length then .text []
    else .text ((bs.drop (pos.toNat - 1)).take len.toNat)
  | _, _ => .text []

/-- The value of `index text chars`: where the first byte of the text that is among the
chars is, from 1, or 0. -/
def index (s cs : ExprValue) : ExprValue :=
  match (s.bytes.zipIdx.find? fun (b, _) => cs.bytes.contains b) with
  | some (_, i) => .int (i + 1)
  | none => .int 0

mutual

/-- `a | b`. -/
def orExpr (fuel : Nat) (args : List String) : ExprStep :=
  match fuel with
  | 0 => .error .missing
  | fuel + 1 => do
    let (a, rest) ← andExpr fuel args
    orRest fuel a rest

/-- The `|` operators after a first operand. -/
def orRest (fuel : Nat) (a : ExprValue) (args : List String) : ExprStep :=
  match fuel with
  | 0 => .error .missing
  | fuel + 1 =>
    match args with
    | "|" :: rest => do
      let (b, rest) ← andExpr fuel rest
      let v : ExprValue := if !a.isNull then a else if !b.isNull then b else .int 0
      orRest fuel v rest
    | _ => .ok (a, args)

/-- `a & b`. -/
def andExpr (fuel : Nat) (args : List String) : ExprStep :=
  match fuel with
  | 0 => .error .missing
  | fuel + 1 => do
    let (a, rest) ← cmpExpr fuel args
    andRest fuel a rest

/-- The `&` operators after a first operand. -/
def andRest (fuel : Nat) (a : ExprValue) (args : List String) : ExprStep :=
  match fuel with
  | 0 => .error .missing
  | fuel + 1 =>
    match args with
    | "&" :: rest => do
      let (b, rest) ← cmpExpr fuel rest
      let v : ExprValue := if a.isNull ∨ b.isNull then .int 0 else a
      andRest fuel v rest
    | _ => .ok (a, args)

/-- The comparisons. -/
def cmpExpr (fuel : Nat) (args : List String) : ExprStep :=
  match fuel with
  | 0 => .error .missing
  | fuel + 1 => do
    let (a, rest) ← addExpr fuel args
    cmpRest fuel a rest

/-- The comparison operators after a first operand. -/
def cmpRest (fuel : Nat) (a : ExprValue) (args : List String) : ExprStep :=
  match fuel with
  | 0 => .error .missing
  | fuel + 1 =>
    match args with
    | op :: rest =>
      if ["<", "<=", "=", "==", "!=", ">=", ">"].contains op then do
        let (b, rest) ← addExpr fuel rest
        let c := compare a b
        let holds := if op = "<" then c < 0 else if op = "<=" then c ≤ 0
          else if op = "=" ∨ op = "==" then c = 0 else if op = "!=" then c ≠ 0
          else if op = ">=" then c ≥ 0 else c > 0
        cmpRest fuel (.int (if holds then 1 else 0)) rest
      else .ok (a, args)
    | [] => .ok (a, args)

/-- The sums and differences. -/
def addExpr (fuel : Nat) (args : List String) : ExprStep :=
  match fuel with
  | 0 => .error .missing
  | fuel + 1 => do
    let (a, rest) ← mulExpr fuel args
    addRest fuel a rest

/-- The `+` and `-` operators after a first operand. -/
def addRest (fuel : Nat) (a : ExprValue) (args : List String) : ExprStep :=
  match fuel with
  | 0 => .error .missing
  | fuel + 1 =>
    match args with
    | op :: rest =>
      if op = "+" ∨ op = "-" then do
        let (b, rest) ← mulExpr fuel rest
        let v ← arith op a b
        addRest fuel v rest
      else .ok (a, args)
    | [] => .ok (a, args)

/-- The products, quotients and remainders. -/
def mulExpr (fuel : Nat) (args : List String) : ExprStep :=
  match fuel with
  | 0 => .error .missing
  | fuel + 1 => do
    let (a, rest) ← matchExpr fuel args
    mulRest fuel a rest

/-- The `*`, `/` and `%` operators after a first operand. -/
def mulRest (fuel : Nat) (a : ExprValue) (args : List String) : ExprStep :=
  match fuel with
  | 0 => .error .missing
  | fuel + 1 =>
    match args with
    | op :: rest =>
      if op = "*" ∨ op = "/" ∨ op = "%" then do
        let (b, rest) ← matchExpr fuel rest
        let v ← arith op a b
        mulRest fuel v rest
      else .ok (a, args)
    | [] => .ok (a, args)

/-- The matches `:`. -/
def matchExpr (fuel : Nat) (args : List String) : ExprStep :=
  match fuel with
  | 0 => .error .missing
  | fuel + 1 => do
    let (a, rest) ← primary fuel args
    matchRest fuel a rest

/-- The `:` operators after a first operand. -/
def matchRest (fuel : Nat) (a : ExprValue) (args : List String) : ExprStep :=
  match fuel with
  | 0 => .error .missing
  | fuel + 1 =>
    match args with
    | ":" :: rest => do
      let (b, rest) ← primary fuel rest
      let v ← matchValue a b
      matchRest fuel v rest
    | _ => .ok (a, args)

/-- A word, a parenthesised expression, or one of the named operations. -/
def primary (fuel : Nat) (args : List String) : ExprStep :=
  match fuel with
  | 0 => .error .missing
  | fuel + 1 =>
    match args with
    | [] => .error .missing
    | "+" :: w :: rest => .ok (.text (bytesOf w), rest)
    | "length" :: rest => do
      let (s, rest) ← primary fuel rest
      pure (.int s.bytes.length, rest)
    | "match" :: rest => do
      let (s, rest) ← primary fuel rest
      let (p, rest) ← primary fuel rest
      let v ← matchValue s p
      pure (v, rest)
    | "substr" :: rest => do
      let (s, rest) ← primary fuel rest
      let (p, rest) ← primary fuel rest
      let (l, rest) ← primary fuel rest
      pure (substr s p l, rest)
    | "index" :: rest => do
      let (s, rest) ← primary fuel rest
      let (c, rest) ← primary fuel rest
      pure (index s c, rest)
    | "(" :: rest => do
      let (v, rest) ← orExpr fuel rest
      match rest with
      | ")" :: more => pure (v, more)
      | [] => throw (.message "expecting")
      | w :: _ => throw (.message ("syntax error: expecting ')' instead of " ++ quoted w))
    | ")" :: _ => .error (.message "syntax error: unexpected ')'")
    | w :: rest => .ok (.text (bytesOf w), rest)

end

end Expr

/-- The `expr` of the core tools. -/
def expr (inv : Invocation) : Effect :=
  let args := match inv.args with
    | "--" :: rest => rest
    | a => a
  if args.isEmpty then { usageError inv.name "missing operand" with code := 2 }
  else
    let last := Expr.quoted (args.getLastD "")
    match Expr.orExpr (4 * args.length + 8) args with
    | .error e =>
      let msg := match e with
        | .missing => "syntax error: missing argument after " ++ last
        | .message "expecting" => "syntax error: expecting ')' after " ++ last
        | .message m => m
      { ({} : Effect).complain (inv.name ++ ": " ++ msg) with code := 2 }
    | .ok (v, rest) =>
      match rest with
      | w :: _ => { ({} : Effect).complain (inv.name ++ ": syntax error: unexpected argument " ++ Expr.quoted w) with code := 2 }
      | [] => { (({} : Effect).put 1 (v.bytes ++ [10])) with code := if v.isNull then 1 else 0 }

end Program

end Timebox
