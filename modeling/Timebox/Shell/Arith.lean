/-! # Shell arithmetic

`Arith.eval text lookup` evaluates the expression of a `$((…))` on signed 64-bit integers,
which wrap: numbers in decimal, `0x` hexadecimal or `0` octal; variables by name (an unset
or empty one is zero, another holds a number); the operators of C from the comma down to
unary ones, with `?:`, and the assignments `=`, `+=`, … that set variables. It gives the
value and the variables assigned, in order, or the error in the shell's words
(`division by zero`, `expecting primary`, …).
-/

namespace Timebox

namespace Shell

namespace Arith

/-- A token of an expression. -/
inductive Tok where
  | num (v : Int)
  | name (s : String)
  | op (s : String)
deriving Repr, Inhabited, BEq

/-- The operators, longest first. -/
def ops : List String :=
  ["<<=", ">>=", "&&", "||", "==", "!=", "<=", ">=", "<<", ">>", "+=", "-=", "*=", "/=", "%=",
   "&=", "^=", "|=", "+", "-", "*", "/", "%", "(", ")", "!", "~", "<", ">", "&", "^", "|", "?",
   ":", "=", ","]

/-- A value wrapped into the signed 64-bit range. -/
def wrap (x : Int) : Int :=
  let m : Int := 18446744073709551616
  let r := (x + 9223372036854775808) % m
  r - 9223372036854775808

/-- The value of a numeral, if it is one. -/
def numeral? (s : String) : Option Int :=
  let cs := s.toList
  let digitsIn (base : Nat) (ds : List Char) : Option Nat :=
    if ds.isEmpty then none
    else ds.foldl (fun acc c => acc.bind fun v =>
      let d := if c.isDigit then some (c.toNat - '0'.toNat)
        else if 'a' ≤ c.toLower ∧ c.toLower ≤ 'f' then some (c.toLower.toNat - 'a'.toNat + 10) else none
      d.bind fun d => if d < base then some (v * base + d) else none) (some 0)
  match cs with
  | '0' :: x :: rest => if x = 'x' ∨ x = 'X' then (digitsIn 16 rest).map (Int.ofNat ·)
    else (digitsIn 8 (x :: rest)).map (Int.ofNat ·)
  | ['0'] => some 0
  | _ => (digitsIn 10 cs).map (Int.ofNat ·)

/-- Splits an expression into tokens. -/
def tokenize : Nat → List Char → Except String (List Tok)
  | 0, _ => .ok []
  | _, [] => .ok []
  | fuel + 1, c :: rest =>
    if c = ' ' ∨ c = '\t' ∨ c = '\n' then tokenize fuel rest
    else if c.isDigit then
      let ds := (c :: rest).takeWhile Char.isAlphanum
      match numeral? (String.ofList ds) with
      | some v => do let ts ← tokenize fuel ((c :: rest).drop ds.length); pure (.num v :: ts)
      | none => .error "expecting EOF"
    else if c.isAlpha ∨ c = '_' then
      let ds := (c :: rest).takeWhile fun d => d.isAlphanum || d = '_'
      do let ts ← tokenize fuel ((c :: rest).drop ds.length); pure (.name (String.ofList ds) :: ts)
    else
      match ops.find? (fun o => o.toList.isPrefixOf (c :: rest)) with
      | some o => do let ts ← tokenize fuel ((c :: rest).drop o.length); pure (.op o :: ts)
      | none => .error "expecting EOF"

/-- The state of an evaluation: the tokens left, the variables assigned, and the lookup of
the others. -/
structure St where
  toks : List Tok
  assigned : List (String × Int)

/-- The binary operators by level, loosest first. -/
def levels : List (List String) :=
  [["||"], ["&&"], ["|"], ["^"], ["&"], ["==", "!="], ["<", "<=", ">", ">="], ["<<", ">>"],
   ["+", "-"], ["*", "/", "%"]]

/-- Applies a binary operator. -/
def binary (o : String) (a b : Int) : Except String Int :=
  let bool (p : Bool) : Int := if p then 1 else 0
  if o = "+" then .ok (wrap (a + b)) else if o = "-" then .ok (wrap (a - b))
  else if o = "*" then .ok (wrap (a * b))
  else if o = "/" then (if b = 0 then .error "division by zero" else .ok (wrap (a.tdiv b)))
  else if o = "%" then (if b = 0 then .error "division by zero" else .ok (wrap (a.tmod b)))
  else if o = "<<" then .ok (wrap (a * Int.pow 2 (b % 64).toNat))
  else if o = ">>" then .ok (a / Int.pow 2 (b % 64).toNat)
  else if o = "<" then .ok (bool (a < b)) else if o = "<=" then .ok (bool (a ≤ b))
  else if o = ">" then .ok (bool (a > b)) else if o = ">=" then .ok (bool (a ≥ b))
  else if o = "==" then .ok (bool (a = b)) else if o = "!=" then .ok (bool (a ≠ b))
  else if o = "&" then .ok (a.toInt64 &&& b.toInt64).toInt
  else if o = "|" then .ok (a.toInt64 ||| b.toInt64).toInt
  else if o = "^" then .ok (a.toInt64 ^^^ b.toInt64).toInt
  else if o = "&&" then .ok (bool (a ≠ 0 ∧ b ≠ 0)) else if o = "||" then .ok (bool (a ≠ 0 ∨ b ≠ 0))
  else .error "expecting EOF"

mutual

/-- Evaluates a comma expression. -/
def expr (fuel : Nat) (look : String → Int) (st : St) : Except String (Int × St) :=
  match fuel with
  | 0 => .error "expression too deep"
  | fuel + 1 => do
    let (v, st) ← assign fuel look st
    match st.toks with
    | .op "," :: rest => expr fuel look { st with toks := rest }
    | _ => pure (v, st)

/-- Evaluates an assignment or a conditional expression. -/
def assign (fuel : Nat) (look : String → Int) (st : St) : Except String (Int × St) :=
  match fuel with
  | 0 => .error "expression too deep"
  | fuel + 1 =>
    match st.toks with
    | .name n :: .op o :: rest =>
      if o = "=" ∨ (o.endsWith "=" ∧ o.length ≥ 2 ∧ o ≠ "==" ∧ o ≠ "!=" ∧ o ≠ "<=" ∧ o ≠ ">=") then do
        let (v, st) ← assign fuel look { st with toks := rest }
        let cur := (st.assigned.lookup n).getD (look n)
        let v ← if o = "=" then pure v else binary (String.ofList o.toList.dropLast) cur v
        pure (v, { st with assigned := (st.assigned.filter (·.1 ≠ n)) ++ [(n, v)] })
      else cond fuel look st
    | _ => cond fuel look st

/-- Evaluates a conditional expression `a ? b : c`. -/
def cond (fuel : Nat) (look : String → Int) (st : St) : Except String (Int × St) :=
  match fuel with
  | 0 => .error "expression too deep"
  | fuel + 1 => do
    let (c, st) ← level fuel look levels st
    match st.toks with
    | .op "?" :: rest =>
      let (a, st) ← expr fuel look { st with toks := rest }
      match st.toks with
      | .op ":" :: rest =>
        let (b, st) ← cond fuel look { st with toks := rest }
        pure (if c ≠ 0 then a else b, st)
      | _ => .error "expecting ':'"
    | _ => pure (c, st)

/-- Evaluates the binary operators of the given levels and tighter. -/
def level (fuel : Nat) (look : String → Int) (lv : List (List String)) (st : St) : Except String (Int × St) :=
  match fuel with
  | 0 => .error "expression too deep"
  | fuel + 1 =>
    match lv with
    | [] => unary fuel look st
    | these :: tighter => do
      let (a, st) ← level fuel look tighter st
      levelRest fuel look these tighter a st

/-- Evaluates the operators of one level after a first operand. -/
def levelRest (fuel : Nat) (look : String → Int) (these : List String) (tighter : List (List String))
    (a : Int) (st : St) : Except String (Int × St) :=
  match fuel with
  | 0 => .error "expression too deep"
  | fuel + 1 =>
    match st.toks with
    | .op o :: rest =>
      if these.contains o then do
        let (b, st) ← level fuel look tighter { st with toks := rest }
        let v ← binary o a b
        levelRest fuel look these tighter v st
      else pure (a, st)
    | _ => pure (a, st)

/-- Evaluates a unary expression or a primary. -/
def unary (fuel : Nat) (look : String → Int) (st : St) : Except String (Int × St) :=
  match fuel with
  | 0 => .error "expression too deep"
  | fuel + 1 =>
    match st.toks with
    | .op "-" :: rest => do let (v, st) ← unary fuel look { st with toks := rest }; pure (wrap (-v), st)
    | .op "+" :: rest => unary fuel look { st with toks := rest }
    | .op "!" :: rest => do let (v, st) ← unary fuel look { st with toks := rest }; pure (if v = 0 then 1 else 0, st)
    | .op "~" :: rest => do let (v, st) ← unary fuel look { st with toks := rest }; pure (wrap (-v - 1), st)
    | .op "(" :: rest => do
      let (v, st) ← expr fuel look { st with toks := rest }
      match st.toks with
      | .op ")" :: rest => pure (v, { st with toks := rest })
      | _ => .error "expecting ')'"
    | .num v :: rest => pure (wrap v, { st with toks := rest })
    | .name n :: rest => pure ((st.assigned.lookup n).getD (look n), { st with toks := rest })
    | _ => .error "expecting primary"

end

/-- The value of an expression and the variables it assigned, or the error. An empty
expression is zero. -/
def eval (text : String) (look : String → Int) : Except String (Int × List (String × Int)) := do
  let toks ← tokenize (text.length + 1) text.toList
  if toks.isEmpty then return (0, [])
  let (v, st) ← expr (24 * toks.length + 64) look ⟨toks, []⟩
  if !st.toks.isEmpty then throw "expecting EOF"
  pure (v, st.assigned)

end Arith

end Shell

end Timebox
