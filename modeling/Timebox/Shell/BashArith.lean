/-! # Bash arithmetic

`BashArith.eval` evaluates an arithmetic expression as bash does, on signed 64-bit integers
that wrap. Beyond the operators of `Shell.Arith` it has `**` (right to left, after the unary
operators: `-2**2` is `4`), `++` and `--` before or after a variable, and numbers in any base
from 2 to 64 (`2#101`, `16#ff`) besides `0x` and leading-zero octal. A variable whose value
is not a number holds an expression, evaluated in its turn; an unset or empty one is `0`.
The branches `&&`, `||` and `?:` do not take are not evaluated: they assign nothing and
divide by zero without fault. `name[expr]` is an element of an array.

A fault reads as bash writes it: the expression, the message, and the error token, the text
from the token where the fault was seen: `1/0: division by 0 (error token is "0")`,
`2+: syntax error: operand expected (error token is "+")`.
-/

namespace Timebox

namespace Shell

namespace BashArith

/-- A token: a number, a variable (with the text of its subscript, if any), an operator. -/
inductive Tok where
  | num (v : Int)
  | name (s : String) (index : Option String)
  | op (s : String)
deriving Repr, Inhabited, BEq

/-- A token and the place in the expression where it starts. -/
structure Lexeme where
  tok : Tok
  pos : Nat
deriving Repr, Inhabited

/-- Why an expression cannot be evaluated: the expression, the message, and the error
token. -/
structure Fault where
  expr : String
  msg : String
  token : String
deriving Repr, Inhabited

/-- The words of a fault. -/
def Fault.message (f : Fault) : String :=
  f.expr ++ ": " ++ f.msg ++ " (error token is \"" ++ f.token ++ "\")"

/-- The operators, longest first. -/
def operators : List String :=
  ["**=", "<<=", ">>=", "**", "++", "--", "&&", "||", "==", "!=", "<=", ">=", "<<", ">>", "+=",
   "-=", "*=", "/=", "%=", "&=", "^=", "|=", "+", "-", "*", "/", "%", "(", ")", "!", "~", "<",
   ">", "&", "^", "|", "?", ":", "=", ","]

/-- A value wrapped into the signed 64-bit range. -/
def wrap (x : Int) : Int :=
  let m : Int := 18446744073709551616
  (x + 9223372036854775808) % m - 9223372036854775808

/-- Whether a character is blank in an expression. -/
def isBlank (c : Char) : Bool := c = ' ' ∨ c = '\t' ∨ c = '\n' ∨ c = '\r'

/-- The value of a digit in bases up to 64: `0-9`, `a-z`, `A-Z`, `@`, `_`; in bases up to
36 the capitals count as the small letters. -/
def digitValue (base : Nat) (c : Char) : Option Nat :=
  if c.isDigit then some (c.toNat - 48)
  else if 'a' ≤ c ∧ c ≤ 'z' then some (c.toNat - 97 + 10)
  else if 'A' ≤ c ∧ c ≤ 'Z' then some (if base ≤ 36 then c.toNat - 65 + 10 else c.toNat - 65 + 36)
  else if c = '@' then some 62
  else if c = '_' then some 63
  else none

/-- The digits of a number in a base, or the message of a digit too great. -/
def digitsIn (base : Nat) (ds : List Char) : Except String Int :=
  ds.foldlM (fun acc c =>
    match digitValue base c with
    | some d => if d < base then .ok (wrap (acc * base + d)) else .error "value too great for base"
    | none => .error "value too great for base") 0

/-- The value of the text of a number. -/
def numberValue (s : String) : Except String Int :=
  let cs := s.toList
  match s.splitOn "#" with
  | [b, ds] =>
    if b.isEmpty ∨ !b.all Char.isDigit then .error "invalid number"
    else
      let base := b.toNat!
      if base < 2 ∨ base > 64 then .error "invalid arithmetic base"
      else if ds.isEmpty then .error "invalid integer constant"
      else digitsIn base ds.toList
  | [_] =>
    match cs with
    | '0' :: x :: rest =>
      if x = 'x' ∨ x = 'X' then
        if rest.isEmpty then .error "invalid integer constant" else digitsIn 16 rest
      else digitsIn 8 (x :: rest)
    | _ => digitsIn 10 cs
  | _ => .error "invalid number"

/-- The text of a subscript after its `[`, up to the matching `]`. -/
def subscript : Nat → List Char → Nat → List Char → Option (List Char × List Char)
  | 0, _, _, _ => none
  | _, [], _, _ => none
  | fuel + 1, c :: rest, depth, acc =>
    if c = ']' then
      if depth = 0 then some (acc.reverse, rest) else subscript fuel rest (depth - 1) (c :: acc)
    else if c = '[' then subscript fuel rest (depth + 1) (c :: acc)
    else subscript fuel rest depth (c :: acc)

/-- Splits an expression into tokens, each with its place; `pos` is the place of the first
character left. `++` and `--` after a variable, or before a name, are increments; anywhere
else they are two signs. -/
def tokenize (text : String) : Nat → List Char → Nat → List Lexeme → Except Fault (List Lexeme)
  | 0, _, _, acc => .ok acc.reverse
  | _, [], _, acc => .ok acc.reverse
  | fuel + 1, c :: rest, pos, acc =>
    let fault (msg : String) : Except Fault (List Lexeme) :=
      .error ⟨text, msg, String.ofList (c :: rest)⟩
    if isBlank c then tokenize text fuel rest (pos + 1) acc
    else if c.isDigit then
      let ds := (c :: rest).takeWhile fun d => d.isAlphanum || d = '#' || d = '@' || d = '_'
      match numberValue (String.ofList ds) with
      | .ok v => tokenize text fuel ((c :: rest).drop ds.length) (pos + ds.length) (⟨.num v, pos⟩ :: acc)
      | .error m => .error ⟨text, m, String.ofList ds⟩
    else if c.isAlpha ∨ c = '_' then
      let ds := (c :: rest).takeWhile fun d => d.isAlphanum || d = '_'
      let after := (c :: rest).drop ds.length
      match after with
      | '[' :: more =>
        match subscript (more.length + 1) more 0 [] with
        | some (inner, rest') =>
          tokenize text fuel rest' (pos + ds.length + inner.length + 2)
            (⟨.name (String.ofList ds) (some (String.ofList inner)), pos⟩ :: acc)
        | none => .error ⟨text, "bad array subscript", String.ofList after⟩
      | _ => tokenize text fuel after (pos + ds.length) (⟨.name (String.ofList ds) none, pos⟩ :: acc)
    else
      match operators.find? (fun o => o.toList.isPrefixOf (c :: rest)) with
      | some o =>
        if o = "++" ∨ o = "--" then
          let afterVar := match acc with
            | ⟨.name .., _⟩ :: _ => true
            | _ => false
          let nextName := match (rest.drop 1).dropWhile isBlank with
            | d :: _ => d.isAlpha || d = '_'
            | [] => false
          if afterVar then tokenize text fuel (rest.drop 1) (pos + 2) (⟨.op ("post" ++ o), pos⟩ :: acc)
          else if nextName then tokenize text fuel (rest.drop 1) (pos + 2) (⟨.op ("pre" ++ o), pos⟩ :: acc)
          else tokenize text fuel rest (pos + 1) (⟨.op (String.singleton c), pos⟩ :: acc)
        else tokenize text fuel ((c :: rest).drop o.length) (pos + o.length) (⟨.op o, pos⟩ :: acc)
      | none => fault "syntax error: invalid arithmetic operator"

/-- The state of an evaluation: the tokens left, the place of the last token taken, and the
variables assigned so far, in order. -/
structure St where
  toks : List Lexeme
  last : Nat
  assigned : List (String × Int)

/-- What an evaluation reads: the expression and the values of variables by name (an
element of an array as `name[index]`). -/
structure Ctx where
  text : String
  look : String → Option String

/-- The error token: the text from the token being read, or from the last one at the end. -/
def errorToken (c : Ctx) (st : St) : String :=
  let pos := match st.toks with
    | t :: _ => t.pos
    | [] => st.last
  String.ofList (c.text.toList.drop pos)

/-- A fault seen at the current token. -/
def fail {α : Type} (c : Ctx) (st : St) (msg : String) : Except Fault α :=
  .error ⟨c.text, msg, errorToken c st⟩

/-- The state after taking the current token. -/
def St.advance (st : St) : St :=
  match st.toks with
  | t :: rest => { st with toks := rest, last := t.pos }
  | [] => st

/-- The binary operators by level, loosest first. -/
def levels : List (List String) :=
  [["||"], ["&&"], ["|"], ["^"], ["&"], ["==", "!="], ["<", "<=", ">", ">="], ["<<", ">>"],
   ["+", "-"], ["*", "/", "%"]]

/-- `a` to the power `b ≥ 0`, wrapped. -/
def power (a : Int) (b : Nat) : Int :=
  (List.range b).foldl (fun acc _ => wrap (acc * a)) 1

/-- Applies a binary operator that cannot fail. -/
def binary (o : String) (a b : Int) : Int :=
  let bool (p : Bool) : Int := if p then 1 else 0
  if o = "+" then wrap (a + b) else if o = "-" then wrap (a - b)
  else if o = "*" then wrap (a * b)
  else if o = "/" then (if b = 0 then 0 else wrap (a.tdiv b))
  else if o = "%" then (if b = 0 then 0 else wrap (a.tmod b))
  else if o = "<<" then wrap (a * Int.pow 2 (b % 64).toNat)
  else if o = ">>" then a / Int.pow 2 (b % 64).toNat
  else if o = "<" then bool (a < b) else if o = "<=" then bool (a ≤ b)
  else if o = ">" then bool (a > b) else if o = ">=" then bool (a ≥ b)
  else if o = "==" then bool (a = b) else if o = "!=" then bool (a ≠ b)
  else if o = "&" then (a.toInt64 &&& b.toInt64).toInt
  else if o = "|" then (a.toInt64 ||| b.toInt64).toInt
  else if o = "^" then (a.toInt64 ^^^ b.toInt64).toInt
  else if o = "&&" then bool (a ≠ 0 ∧ b ≠ 0) else if o = "||" then bool (a ≠ 0 ∨ b ≠ 0)
  else if o = "**" then (if b < 0 then 0 else power a b.toNat)
  else 0

/-- Whether an operator is an assignment. -/
def isAssignOp (o : String) : Bool :=
  ["=", "+=", "-=", "*=", "/=", "%=", "<<=", ">>=", "&=", "^=", "|=", "**="].contains o

/-- The state with a variable assigned, unless the branch is not evaluated. -/
def St.bind (st : St) (noeval : Bool) (n : String) (v : Int) : St :=
  if noeval then st else { st with assigned := st.assigned.filter (·.1 ≠ n) ++ [(n, v)] }

/-- The text of a plain integer, if a value is one: an optional sign and decimal digits. -/
def plainInteger? (s : String) : Option Int :=
  let t := (s.toList.dropWhile isBlank).reverse.dropWhile isBlank |>.reverse
  match t with
  | '-' :: ds => if !ds.isEmpty ∧ ds.all Char.isDigit then some (wrap (-(String.ofList ds).toNat!)) else none
  | '+' :: ds => if !ds.isEmpty ∧ ds.all Char.isDigit then some (wrap (String.ofList ds).toNat!) else none
  | ds => if !ds.isEmpty ∧ ds.all Char.isDigit then some (wrap (String.ofList ds).toNat!) else none

mutual

/-- The value of a variable: as assigned in this evaluation, else its value, which is a
number or an expression evaluated in turn. -/
def varValue (fuel : Nat) (c : Ctx) (st : St) (name : String) : Except Fault (Int × St) :=
  match fuel with
  | 0 => fail c st "expression recursion level exceeded"
  | fuel + 1 =>
    match st.assigned.lookup name with
    | some v => .ok (v, st)
    | none =>
      match c.look name with
      | none => .ok (0, st)
      | some v =>
        if (v.toList.all isBlank) then .ok (0, st)
        else
          match plainInteger? v with
          | some x => .ok (x, st)
          | none =>
            match evalIn fuel { c with text := String.ofList (v.toList.dropWhile isBlank) } st.assigned with
            | .ok (x, assigned) => .ok (x, { st with assigned })
            | .error e => .error e

/-- The name a variable token stands for: with its subscript evaluated. -/
def lvalue (fuel : Nat) (c : Ctx) (st : St) (name : String) (index : Option String) :
    Except Fault (String × St) :=
  match fuel with
  | 0 => fail c st "expression recursion level exceeded"
  | fuel + 1 =>
    match index with
    | none => .ok (name, st)
    | some i =>
      match evalIn fuel { c with text := i } st.assigned with
      | .ok (x, assigned) => .ok (name ++ "[" ++ toString x ++ "]", { st with assigned })
      | .error e => .error e

/-- Evaluates a whole expression in a context, after earlier assignments. -/
def evalIn (fuel : Nat) (c : Ctx) (assigned : List (String × Int)) : Except Fault (Int × List (String × Int)) :=
  match fuel with
  | 0 => .error ⟨c.text, "expression recursion level exceeded", c.text⟩
  | fuel + 1 =>
    match tokenize c.text (c.text.length + 1) c.text.toList 0 [] with
    | .error e => .error e
    | .ok toks =>
      if toks.isEmpty then .ok (0, assigned)
      else
        match comma fuel c false { toks, last := 0, assigned } with
        | .error e => .error e
        | .ok (v, st) =>
          if st.toks.isEmpty then .ok (v, st.assigned)
          else fail c st "syntax error in expression"

/-- Evaluates a comma expression. -/
def comma (fuel : Nat) (c : Ctx) (noeval : Bool) (st : St) : Except Fault (Int × St) :=
  match fuel with
  | 0 => fail c st "expression recursion level exceeded"
  | fuel + 1 =>
    match assign fuel c noeval st with
    | .error e => .error e
    | .ok (v, st) =>
      match st.toks with
      | ⟨.op ",", _⟩ :: _ => comma fuel c noeval st.advance
      | _ => .ok (v, st)

/-- Evaluates an assignment or a conditional expression. -/
def assign (fuel : Nat) (c : Ctx) (noeval : Bool) (st : St) : Except Fault (Int × St) :=
  match fuel with
  | 0 => fail c st "expression recursion level exceeded"
  | fuel + 1 =>
    match st.toks with
    | ⟨.name n idx, _⟩ :: ⟨.op o, _⟩ :: _ =>
      if isAssignOp o then
        match lvalue fuel c st n idx with
        | .error e => .error e
        | .ok (target, st) =>
          let st := st.advance.advance
          match assign fuel c noeval st with
          | .error e => .error e
          | .ok (v, st) =>
            if o = "=" then .ok (v, st.bind noeval target v)
            else
              match varValue fuel c st target with
              | .error e => .error e
              | .ok (cur, st) =>
                let op := String.ofList o.toList.dropLast
                if (op = "/" ∨ op = "%") ∧ v = 0 ∧ !noeval then fail c st "division by 0"
                else if op = "**" ∧ v < 0 ∧ !noeval then fail c st "exponent less than 0"
                else
                  let r := binary op cur v
                  .ok (r, st.bind noeval target r)
      else conditional fuel c noeval st
    | _ => conditional fuel c noeval st

/-- Evaluates a conditional expression `a ? b : c`. -/
def conditional (fuel : Nat) (c : Ctx) (noeval : Bool) (st : St) : Except Fault (Int × St) :=
  match fuel with
  | 0 => fail c st "expression recursion level exceeded"
  | fuel + 1 =>
    match level fuel c noeval levels st with
    | .error e => .error e
    | .ok (v, st) =>
      match st.toks with
      | ⟨.op "?", _⟩ :: _ =>
        let st := st.advance
        match st.toks with
        | [] | ⟨.op ":", _⟩ :: _ => fail c st "expression expected"
        | _ =>
          match comma fuel c (noeval || v = 0) st with
          | .error e => .error e
          | .ok (a, st) =>
            match st.toks with
            | ⟨.op ":", _⟩ :: _ =>
              let st := st.advance
              if st.toks.isEmpty then fail c st "expression expected"
              else
                match conditional fuel c (noeval || v ≠ 0) st with
                | .error e => .error e
                | .ok (b, st) => .ok (if v ≠ 0 then a else b, st)
            | _ => fail c st "`:' expected for conditional expression"
      | _ => .ok (v, st)

/-- Evaluates the binary operators of the given levels and tighter. -/
def level (fuel : Nat) (c : Ctx) (noeval : Bool) (lv : List (List String)) (st : St) :
    Except Fault (Int × St) :=
  match fuel with
  | 0 => fail c st "expression recursion level exceeded"
  | fuel + 1 =>
    match lv with
    | [] => powerOf fuel c noeval st
    | these :: tighter =>
      match level fuel c noeval tighter st with
      | .error e => .error e
      | .ok (a, st) => levelRest fuel c noeval these tighter a st

/-- Evaluates the operators of one level after a first operand; the right side of `&&` and
`||` is not evaluated when the left decides. -/
def levelRest (fuel : Nat) (c : Ctx) (noeval : Bool) (these : List String) (tighter : List (List String))
    (a : Int) (st : St) : Except Fault (Int × St) :=
  match fuel with
  | 0 => fail c st "expression recursion level exceeded"
  | fuel + 1 =>
    match st.toks with
    | ⟨.op o, pos⟩ :: _ =>
      if these.contains o then
        let skip := noeval || (o = "&&" ∧ a = 0) || (o = "||" ∧ a ≠ 0)
        match level fuel c skip tighter st.advance with
        | .error e => .error e
        | .ok (b, st) =>
          if (o = "/" ∨ o = "%") ∧ b = 0 ∧ !noeval then
            let rest := (c.text.toList.drop (pos + 1)).dropWhile isBlank
            .error ⟨c.text, "division by 0", String.ofList rest⟩
          else levelRest fuel c noeval these tighter (binary o a b) st
      else .ok (a, st)
    | _ => .ok (a, st)

/-- Evaluates `**`, from the right, over unary expressions. -/
def powerOf (fuel : Nat) (c : Ctx) (noeval : Bool) (st : St) : Except Fault (Int × St) :=
  match fuel with
  | 0 => fail c st "expression recursion level exceeded"
  | fuel + 1 =>
    match unary fuel c noeval st with
    | .error e => .error e
    | .ok (a, st) =>
      match st.toks with
      | ⟨.op "**", _⟩ :: _ =>
        match powerOf fuel c noeval st.advance with
        | .error e => .error e
        | .ok (b, st) =>
          if b < 0 ∧ !noeval then fail c st "exponent less than 0"
          else .ok (binary "**" a b, st)
      | _ => .ok (a, st)

/-- Evaluates a unary expression. -/
def unary (fuel : Nat) (c : Ctx) (noeval : Bool) (st : St) : Except Fault (Int × St) :=
  match fuel with
  | 0 => fail c st "expression recursion level exceeded"
  | fuel + 1 =>
    match st.toks with
    | ⟨.op "-", _⟩ :: _ => (unary fuel c noeval st.advance).map fun (v, st) => (wrap (-v), st)
    | ⟨.op "+", _⟩ :: _ => unary fuel c noeval st.advance
    | ⟨.op "!", _⟩ :: _ => (unary fuel c noeval st.advance).map fun (v, st) => (if v = 0 then 1 else 0, st)
    | ⟨.op "~", _⟩ :: _ => (unary fuel c noeval st.advance).map fun (v, st) => (wrap (-v - 1), st)
    | _ => primary fuel c noeval st

/-- Evaluates a primary: a number, a variable (with `++` or `--` after it), `++` or `--`
and a variable, or an expression in parentheses. -/
def primary (fuel : Nat) (c : Ctx) (noeval : Bool) (st : St) : Except Fault (Int × St) :=
  match fuel with
  | 0 => fail c st "expression recursion level exceeded"
  | fuel + 1 =>
    match st.toks with
    | ⟨.op o, _⟩ :: _ =>
      if o = "pre++" ∨ o = "pre--" then
        let st := st.advance
        match st.toks with
        | ⟨.name n idx, _⟩ :: _ =>
          match lvalue fuel c st n idx with
          | .error e => .error e
          | .ok (target, st) =>
            match varValue fuel c st target with
            | .error e => .error e
            | .ok (v, st) =>
              let v := wrap (if o = "pre++" then v + 1 else v - 1)
              .ok (v, (st.bind noeval target v).advance)
        | _ => fail c st "identifier expected after pre-increment or pre-decrement"
      else if o = "(" then
        match comma fuel c noeval st.advance with
        | .error e => .error e
        | .ok (v, st) =>
          match st.toks with
          | ⟨.op ")", _⟩ :: _ => .ok (v, st.advance)
          | _ => fail c st "missing `)'"
      else fail c st "syntax error: operand expected"
    | ⟨.num v, _⟩ :: _ => .ok (v, st.advance)
    | ⟨.name n idx, _⟩ :: _ =>
      match lvalue fuel c st n idx with
      | .error e => .error e
      | .ok (target, st) =>
        match varValue fuel c st target with
        | .error e => .error e
        | .ok (v, st) =>
          let st := st.advance
          match st.toks with
          | ⟨.op "post++", _⟩ :: _ => .ok (v, (st.bind noeval target (wrap (v + 1))).advance)
          | ⟨.op "post--", _⟩ :: _ => .ok (v, (st.bind noeval target (wrap (v - 1))).advance)
          | _ => .ok (v, st)
    | [] => fail c st "syntax error: operand expected"

end

/-- The value of an expression and the variables it assigned, in order, or the fault. The
expression is named in a fault without its leading blanks. -/
def eval (text : String) (look : String → Option String) : Except Fault (Int × List (String × Int)) :=
  let text := String.ofList (text.toList.dropWhile isBlank)
  evalIn (64 * text.length + 256) ⟨text, look⟩ []

end BashArith

end Shell

end Timebox
