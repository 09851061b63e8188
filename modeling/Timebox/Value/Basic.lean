import Timebox.Value.Ty
import Timebox.Double.Basic

/-! # Dynamic values and error values

Work functions take and return values whose types are only known at run time. A `Value` is
such a value: an integer of some kind, a float, a string, a boolean, a duration, a slice or
map with its element types, a typed nil, an error, or the untyped nil of an empty interface.

A `Fault` is an error value, described by how it was made:

* leaves: a sentinel with identity (`Sentinel`), a plain message, a message with a recorded
  stack, a run-time error of the language, a number that did not parse, a file operation
  that failed with an error number;
* wrappers: a message put in front of a cause, a stack put around a cause, a formatted message
  wrapping causes, a panic that was recovered (its value may itself be an error), a command
  that exited with a non-zero status, a command that could not start.

`Fault.causes` unwraps one level, as the language's unwrapping does, so that "is this error,
or does it wrap, sentinel `s`" (`Fault.isSentinel`) is a search through the chain.
-/

namespace Timebox

/-- The error values with identity that callers test for. -/
inductive Sentinel where
  | invalidDeadline
  | timedOut
  | nilWork
  | workExited
  | badSignature
  | notFunc
  | args
  | contextCanceled
  | deadlineExceeded
  | notExist
deriving DecidableEq, Repr, Inhabited

namespace Sentinel

/-- All sentinels in their fixed reporting order. -/
def all : List Sentinel :=
  [.invalidDeadline, .timedOut, .nilWork, .workExited, .badSignature, .notFunc, .args,
   .contextCanceled, .deadlineExceeded, .notExist]

def message : Sentinel → String
  | .invalidDeadline => "invalid deadline"
  | .timedOut => "timed out"
  | .nilWork => "nil work"
  | .workExited => "work exited without returning"
  | .badSignature => "bad function signature"
  | .notFunc => "not a function"
  | .args => "arguments mismatch"
  | .contextCanceled => "context canceled"
  | .deadlineExceeded => "context deadline exceeded"
  | .notExist => "file does not exist"

/-- The concrete type of the sentinel's value. -/
def typeName : Sentinel → String
  | .contextCanceled | .notExist => "*errors.errorString"
  | .deadlineExceeded => "context.deadlineExceededError"
  | _ => "*errors.fundamental"

end Sentinel

/-- Error numbers of failed file operations. -/
inductive Errno where
  | noEntry
  | isDirectory
  | notDirectory
  | permission
  | exists
  | notEmpty
deriving DecidableEq, Repr, Inhabited

/-- The text of an error number as the system library writes it in lower case. -/
def Errno.message : Errno → String
  | .noEntry => "no such file or directory"
  | .isDirectory => "is a directory"
  | .notDirectory => "not a directory"
  | .permission => "permission denied"
  | .exists => "file exists"
  | .notEmpty => "directory not empty"

/-- What a finished command produced: its exit code and the bytes of its output streams,
`combined` holding standard output followed by standard error. -/
structure RunOutput where
  exitCode : Int
  stdout : List UInt8
  stderr : List UInt8
  combined : List UInt8
deriving DecidableEq, Repr, Inhabited

mutual

/-- A value whose type is known at run time. -/
inductive Value where
  /-- The nil of an empty interface: no type, no value. -/
  | nil
  | int (kind : IntKind) (v : Int)
  /-- A float; `single` for a 32-bit float, whose value is then exact in single precision. -/
  | float (single : Bool) (v : Double)
  | str (s : String)
  | bool (b : Bool)
  | duration (ns : Int)
  /-- A non-nil slice. -/
  | slice (elem : Ty) (items : List Value)
  /-- A non-nil map, its entries in insertion order. -/
  | map (key val : Ty) (entries : List (Value × Value))
  /-- The nil of a pointer, slice, map, function or channel type. -/
  | nilOf (ty : Ty)
  | error (e : Fault)
  /-- The result of a command that ran: its exit code and output. -/
  | output (r : RunOutput)

/-- An error value, by how it was made. -/
inductive Fault where
  | sentinel (s : Sentinel)
  /-- A plain message (`*errors.errorString`). -/
  | plain (msg : String)
  /-- A message with a recorded stack (`*errors.fundamental`). -/
  | fundamental (msg : String)
  /-- `msg: cause` with a recorded stack. -/
  | wrap (msg : String) (cause : Fault)
  /-- A recorded stack around a cause, with the cause's message. -/
  | withStack (cause : Fault)
  /-- A formatted message with the number of its `%w` conversions and the errors they
  wrap. -/
  | formatted (msg : String) (wraps : Nat) (wrapped : List Fault)
  /-- A panic recovered from a work, with the value it panicked with. -/
  | panicked (value : Value)
  /-- A run-time error of the language (an index out of range, a division by zero, …). -/
  | runtime (typeName msg : String)
  /-- A number that did not parse: the function, the text, and the reason
  (`invalid syntax`, `value out of range`, `invalid base 1`, …). -/
  | number (fn text reason : String)
  /-- A file operation that failed. -/
  | path (op path : String) (errno : Errno)
  /-- A command that ran and exited with a non-zero status. -/
  | exited (command status : String) (output : RunOutput)
  /-- A command that could not be started. -/
  | startFailed (command : String) (cause : Fault)
  /-- A nil pointer of an error type held as an error: it is an error, but asking for its
  message fails. -/
  | typedNil (typeName : String)

end

instance : Inhabited Fault := ⟨.plain ""⟩

instance : Inhabited Value := ⟨.nil⟩

namespace Fault

/-- The errors this one wraps, one level down. -/
def causes : Fault → List Fault
  | .wrap _ c | .withStack c | .startFailed _ c => [c]
  | .formatted _ _ ws => ws
  | .panicked (.error e) => [e]
  | _ => []

/-- Whether the error is, or wraps at any depth, the sentinel `s`. A failed file operation
whose error number is "no such entry" counts as the missing-file sentinel. -/
def isSentinel (s : Sentinel) : Fault → Bool
  | .sentinel t => s == t
  | .path _ _ e => s == .notExist && e == .noEntry
  | .wrap _ c | .withStack c | .startFailed _ c => isSentinel s c
  | .formatted _ _ ws => anyIs s ws
  | .panicked (.error e) => isSentinel s e
  | _ => false
where
  anyIs (s : Sentinel) : List Fault → Bool
    | [] => false
    | w :: ws => isSentinel s w || anyIs s ws

/-- Whether asking for the message of the error, or unwrapping its chain, fails: a nil
pointer of an error type is in the chain. -/
def unreadable : Fault → Bool
  | .typedNil _ => true
  | .wrap _ c | .withStack c | .startFailed _ c => unreadable c
  | .formatted _ _ ws => anyUnreadable ws
  | _ => false
where
  anyUnreadable : List Fault → Bool
    | [] => false
    | w :: ws => unreadable w || anyUnreadable ws

/-- The sentinels in the error's chain, in their fixed order. -/
def sentinels (e : Fault) : List Sentinel := Sentinel.all.filter (e.isSentinel ·)

/-- The first error of the chain, in order of unwrapping, for which `p` gives a result. -/
def findIn {α : Type} (p : Fault → Option α) : Fault → Option α
  | e@(.wrap _ c) | e@(.withStack c) | e@(.startFailed _ c) => (p e).orElse fun _ => findIn p c
  | e@(.formatted _ _ ws) => (p e).orElse fun _ => findAll p ws
  | e@(.panicked (.error c)) => (p e).orElse fun _ => findIn p c
  | e => p e
where
  findAll (p : Fault → Option α) : List Fault → Option α
    | [] => none
    | w :: ws => (findIn p w).orElse fun _ => findAll p ws

/-- The value of the first recovered panic in the chain. -/
def panicValue? (e : Fault) : Option Value :=
  e.findIn fun
    | .panicked v => some v
    | _ => none

/-- Whether a recovered panic is anywhere in the chain. -/
def hasPanic (e : Fault) : Bool := e.panicValue?.isSome

/-- What the first exited command in the chain produced. -/
def exitOutput? (e : Fault) : Option RunOutput :=
  e.findIn fun
    | .exited _ _ out => some out
    | _ => none

/-- The exit code of the first exited command in the chain. -/
def exitCode? (e : Fault) : Option Int := e.exitOutput?.map (·.exitCode)

/-- Whether a failed start is in the chain. -/
def hasStartFailure (e : Fault) : Bool :=
  (e.findIn fun
    | .startFailed .. => some ()
    | _ => none).isSome

/-- The concrete type of the error value. -/
def typeName : Fault → String
  | .sentinel s => s.typeName
  | .plain _ => "*errors.errorString"
  | .fundamental _ => "*errors.fundamental"
  | .wrap .. | .withStack _ => "*errors.withStack"
  | .formatted _ 0 _ => "*errors.errorString"
  | .formatted _ 1 _ => "*fmt.wrapError"
  | .formatted _ _ _ => "*fmt.wrapErrors"
  | .panicked _ => "*deadline.PanicError"
  | .runtime t _ => t
  | .number .. => "*strconv.NumError"
  | .path .. => "*fs.PathError"
  | .exited .. => "*cmd.ExitError"
  | .startFailed .. => "*cmd.StartError"
  | .typedNil t => t

end Fault

namespace Value

/-- The dynamic type of a value; the untyped nil has none. -/
def ty? : Value → Option Ty
  | .nil => none
  | .int k _ => some (.int k)
  | .float s _ => some (if s then .float32 else .float64)
  | .str _ => some .string
  | .bool _ => some .bool
  | .duration _ => some .duration
  | .slice t _ => some (.slice t)
  | .map k v _ => some (.map k v)
  | .nilOf t => some t
  | .error e => some (.named e.typeName true none)
  | .output _ => some (.ptr (.named "cmd.Result" false none))

/-- The zero value of a type: zero numbers, the empty string, `false`, and nil for the
types that have one. -/
def zero : Ty → Value
  | .int k => .int k 0
  | .float32 => .float true Double.zero
  | .float64 => .float false Double.zero
  | .string => .str ""
  | .bool => .bool false
  | .duration => .duration 0
  | .any | .error | .context => .nil
  | t => .nilOf t

/-- Whether the value holds an error whose message cannot be read. -/
def unreadable : Value → Bool
  | .error e => e.unreadable
  | .slice _ items => anyUnreadable items
  | _ => false
where
  anyUnreadable : List Value → Bool
    | [] => false
    | v :: vs => unreadable v || anyUnreadable vs

/-- A plain `int`. -/
def ofInt (i : Int) : Value := .int .int i

end Value

end Timebox
