/-! # Types of dynamic values

The functions that the executor binds and calls are described by the host language's
types, because arguments are checked against them at run time. `Ty` is that type language:
integers of each width, the two float sizes, strings, booleans, durations, slices, maps,
pointers, channels, function types, the three interfaces that matter here (`any`, `error`,
`context.Context`) and defined concrete types named by their printed name.

* `Ty.name` prints a type as the host's reflection prints it: `func(string, ...interface {})
  string`, `[]interface {}`, `map[string]int`.
* `Ty.nilable` is the set of types that have a nil value.
* `Ty.assignableTo` is the assignability rule of the language: identical types, identical
  underlying types of which at least one type has no name, or an interface that the type
  implements.
-/

namespace Timebox

/-- The integer types, by width and signedness. -/
inductive IntKind where
  | int | int8 | int16 | int32 | int64
  | uint | uint8 | uint16 | uint32 | uint64
deriving DecidableEq, Repr, Inhabited

namespace IntKind

def name : IntKind → String
  | .int => "int" | .int8 => "int8" | .int16 => "int16" | .int32 => "int32"
  | .int64 => "int64" | .uint => "uint" | .uint8 => "uint8" | .uint16 => "uint16"
  | .uint32 => "uint32" | .uint64 => "uint64"

def bits : IntKind → Nat
  | .int | .int64 | .uint | .uint64 => 64
  | .int8 | .uint8 => 8
  | .int16 | .uint16 => 16
  | .int32 | .uint32 => 32

def signed : IntKind → Bool
  | .int | .int8 | .int16 | .int32 | .int64 => true
  | _ => false

/-- Reduces an integer to the kind's range, wrapping around as fixed-width arithmetic does. -/
def wrap (k : IntKind) (i : Int) : Int :=
  let m : Int := Int.pow 2 k.bits
  let r := i % m
  if k.signed ∧ r ≥ Int.pow 2 (k.bits - 1) then r - m else r

end IntKind

/-- Types of the host language, as far as the bound functions use them. -/
inductive Ty where
  | int (k : IntKind)
  | float32
  | float64
  | string
  | bool
  /-- `time.Duration`, a defined type over `int64`. -/
  | duration
  | slice (elem : Ty)
  | map (key val : Ty)
  | ptr (elem : Ty)
  | chan (elem : Ty)
  /-- A function type; when `variadic`, the last input is the slice of the extra arguments. -/
  | func (ins outs : List Ty) (variadic : Bool)
  /-- The empty interface. -/
  | any
  | error
  /-- `context.Context`. -/
  | context
  /-- A defined concrete type, by its printed name; `isError` when it implements `error`;
  its underlying type, when that is one of these types (none for a struct). -/
  | named (name : String) (isError : Bool) (under : Option Ty)
deriving Repr, Inhabited

namespace Ty

mutual
/-- Whether two types are the same type, constructor by constructor. -/
def beq : Ty → Ty → Bool
  | .int a, .int b => a == b
  | .float32, .float32 | .float64, .float64 | .string, .string | .bool, .bool => true
  | .duration, .duration | .any, .any | .error, .error | .context, .context => true
  | .slice a, .slice b | .ptr a, .ptr b | .chan a, .chan b => beq a b
  | .map k v, .map k' v' => beq k k' && beq v v'
  | .func ins outs v, .func ins' outs' v' => beqList ins ins' && beqList outs outs' && v == v'
  | .named n e _, .named n' e' _ => n == n' && e == e'
  | _, _ => false

/-- Whether two lists of types are the same, place by place. -/
def beqList : List Ty → List Ty → Bool
  | [], [] => true
  | a :: as, b :: bs => beq a b && beqList as bs
  | _, _ => false
end

instance : BEq Ty := ⟨beq⟩

mutual
theorem beq_refl : (t : Ty) → beq t t = true
  | .int k => by simp [beq]
  | .float32 | .float64 | .string | .bool | .duration | .any | .error | .context => rfl
  | .slice t | .ptr t | .chan t => by simp [beq, beq_refl t]
  | .map k v => by simp [beq, beq_refl k, beq_refl v]
  | .func ins outs v => by simp [beq, beqList_refl ins, beqList_refl outs]
  | .named n e _ => by simp [beq]

theorem beqList_refl : (ts : List Ty) → beqList ts ts = true
  | [] => rfl
  | t :: ts => by simp [beqList, beq_refl t, beqList_refl ts]
end

/-- Every type is the same type as itself. -/
@[simp] theorem beq_self (t : Ty) : (t == t) = true := beq_refl t

mutual
/-- The printed name of a type. -/
def name : Ty → String
  | .int k => k.name
  | .float32 => "float32"
  | .float64 => "float64"
  | .string => "string"
  | .bool => "bool"
  | .duration => "time.Duration"
  | .slice t => "[]" ++ t.name
  | .map k v => "map[" ++ k.name ++ "]" ++ v.name
  | .ptr t => "*" ++ t.name
  | .chan t => "chan " ++ t.name
  | .func ins outs variadic =>
    let outText := match outs with
      | [] => ""
      | [o] => " " ++ o.name
      | os => " (" ++ names os ++ ")"
    "func(" ++ inputNames ins variadic ++ ")" ++ outText
  | .any => "interface {}"
  | .error => "error"
  | .context => "context.Context"
  | .named n _ _ => n

/-- Names joined by `", "`. -/
def names : List Ty → String
  | [] => ""
  | [t] => t.name
  | t :: ts => t.name ++ ", " ++ names ts

/-- Input names, the last one written `...elem` when the function is variadic. -/
def inputNames : List Ty → Bool → String
  | [], _ => ""
  | [.slice t], true => "..." ++ t.name
  | [t], _ => t.name
  | t :: ts, v => t.name ++ ", " ++ inputNames ts v
end

/-- Interfaces: `any`, `error` and `context.Context`. -/
def isInterface : Ty → Bool
  | .any | .error | .context => true
  | _ => false

/-- Whether a type has a name: the predeclared types, `time.Duration`, `error`,
`context.Context` and the defined types do; type literals (slices, maps, pointers, channels,
functions and the empty interface) do not. -/
def isNamed : Ty → Bool
  | .slice _ | .map .. | .ptr _ | .chan _ | .func .. | .any => false
  | _ => true

/-- The underlying type: a defined type's own, `int64` for `time.Duration`, the type itself
for the others; none for a defined struct. -/
def underlying : Ty → Option Ty
  | .named _ _ u => u
  | .duration => some (.int .int64)
  | t => some t

/-- Whether the type's own kind has a nil: interfaces, pointers, maps, slices, functions and
channels. -/
def nilableKind : Ty → Bool
  | .any | .error | .context | .ptr _ | .map .. | .slice _ | .func .. | .chan _ => true
  | _ => false

/-- Types with a nil value: those whose underlying type is an interface, a pointer, a map, a
slice, a function or a channel. -/
def nilable (t : Ty) : Bool := (t.underlying.map nilableKind).getD false

/-- Whether values of a concrete type `t` implement the interface `i`. -/
def implements (t : Ty) : Ty → Bool
  | .any => true
  | .error => match t with
    | .error => true
    | .named _ e _ => e
    | _ => false
  | .context => t == .context
  | _ => false

/-- Whether two types have identical underlying types. -/
def sameUnderlying (v t : Ty) : Bool :=
  match v.underlying, t.underlying with
  | some a, some b => a == b
  | _, _ => false

/-- A value of type `v` may be assigned to a variable of type `t`: the types are identical,
or their underlying types are and at least one of them has no name, or `t` is an interface
that `v` implements. -/
def assignableTo (v t : Ty) : Bool :=
  v == t || ((!v.isNamed || !t.isNamed) && sameUnderlying v t) || (t.isInterface && v.implements t)

end Ty

end Timebox
