import Timebox.Call.Act
import Timebox.Format.Value

/-! # Functions called with dynamic values

A `Func` is a function that can be called with values whose types are only checked at run
time: its declared name, its parameter and result types, whether its last parameter collects
the extra arguments, and what a call does (`body`), given the values its context carries and
the arguments.

A value given where a function is expected is a `Callee`: a function, or a nil, a nil
function, or a value of another type, each refused with the `not a function` sentinel.

`Func.args f skip args` checks arguments against the parameters from `skip` on:

* the count first: exactly the number of parameters, or for a variadic function at least
  one fewer;
* then each argument in order: nil is accepted by interfaces, pointers, maps, slices,
  functions and channels and becomes their nil; any other value must have a type assignable
  to the parameter (the element type of the variadic slice for the extra arguments);
* the first failure names the argument by its position among all parameters.

A skip beyond the parameters, or extra arguments of a variadic function whose parameters are
all skipped, is a bounds failure of the language (`Failure.panic`).
-/

namespace Timebox

/-- What a call can see of its context without waiting: the values it carries. -/
structure CallContext where
  values : List (String × String)
deriving Inhabited

/-- The context with no values. -/
def CallContext.background : CallContext := ⟨[]⟩

/-- How a direct call failed: with an error, or with a panic. -/
inductive Failure where
  | error (e : Fault)
  | panic (v : Value)

/-- A function called with dynamic values. -/
structure Func where
  name : String
  ins : List Ty
  outs : List Ty
  variadic : Bool
  body : CallContext → List Value → Act (List Value)

/-- A value given where a function is expected. -/
inductive Callee where
  | nil
  /-- A value that is not a function, of the given type. -/
  | value (ty : Ty)
  /-- The nil of a function type. -/
  | nilFunc (ty : Ty)
  | func (f : Func)

namespace Func

/-- The function's type. -/
def type (f : Func) : Ty := .func f.ins f.outs f.variadic

/-- Whether the first parameter is a context, which the executor passes. -/
def acceptsContext (f : Func) : Bool :=
  match f.ins with
  | .context :: _ => true
  | _ => false

/-- An argument checked against a parameter type: nil becomes the type's nil where the type
has one, and any other value must be assignable. -/
def convert (arg : Value) (t : Ty) : Except Fault Value :=
  match arg.ty? with
  | none =>
    if t.nilable then .ok (Value.zero t)
    else .error (.wrap ("nil is not assignable to '" ++ t.name ++ "'") (.sentinel .args))
  | some vt =>
    if vt.assignableTo t then .ok arg
    else .error (.wrap ("'" ++ vt.name ++ "' is not assignable to '" ++ t.name ++ "'")
      (.sentinel .args))

/-- The parameter type of the argument at position `i` among parameters `ps` (after the
skip), or none when a variadic function has no parameter left to take it. -/
def paramAt (variadic : Bool) (ps : List Ty) (i : Nat) : Option Ty :=
  if variadic ∧ i + 1 ≥ ps.length then
    match ps.getLast? with
    | some (.slice t) => some t
    | some t => some t
    | none => none
  else ps[i]?

/-- Checks the arguments one by one; `i` is the position after the skip. -/
def convertAll (f : Func) (skip : Nat) (ps : List Ty) : Nat → List Value → Except Failure (List Value)
  | _, [] => .ok []
  | i, a :: rest =>
    match paramAt f.variadic ps i with
    | none => .error (.panic (.error (.runtime "runtime.boundsError" "runtime error: index out of range [-1]")))
    | some t =>
      match convert a t with
      | .error e => .error (.error (.wrap (f.name ++ " argument #" ++ toString (i + skip)) e))
      | .ok v =>
        match convertAll f skip ps (i + 1) rest with
        | .ok vs => .ok (v :: vs)
        | .error e => .error e

/-- The arguments checked against the parameters from `skip` on. -/
def args (f : Func) (skip : Int) (args : List Value) : Except Failure (List Value) :=
  let n := f.ins.length
  if skip < 0 then
    .error (.panic (.error (.runtime "runtime.boundsError"
      ("runtime error: slice bounds out of range [" ++ toString skip ++ ":]"))))
  else if skip > n then
    .error (.panic (.error (.runtime "runtime.boundsError"
      ("runtime error: slice bounds out of range [" ++ toString skip ++ ":" ++ toString n ++ "]"))))
  else
    let ps := f.ins.drop skip.toNat
    if f.variadic ∧ args.length + 1 < ps.length then
      .error (.error (.wrap (f.name ++ " needs at least " ++ toString (ps.length - 1) ++
        " argument(s), got " ++ toString args.length) (.sentinel .args)))
    else if ¬f.variadic ∧ args.length ≠ ps.length then
      .error (.error (.wrap (f.name ++ " needs " ++ toString ps.length ++
        " argument(s), got " ++ toString args.length) (.sentinel .args)))
    else convertAll f skip.toNat ps 0 args

end Func

namespace Callee

/-- The function, or why the value is not one. -/
def resolve : Callee → Except Fault Func
  | .nil => .error (.wrap "<nil>" (.sentinel .notFunc))
  | .value t => .error (.wrap ("it is a '" ++ t.name ++ "'") (.sentinel .notFunc))
  | .nilFunc t => .error (.wrap ("nil '" ++ t.name ++ "'") (.sentinel .notFunc))
  | .func f => .ok f

end Callee

end Timebox
