import Timebox.Format.Printf
import Timebox.Json.Basic

/-! # Values and errors as JSON documents

* A value is the object `{"type": T, "v": …}`: `T` is its printed type (`"nil"` for the nil
  of an interface, `"error"` for any error), numbers and texts stand as themselves, floats
  as JSON numbers (their names when not finite), byte slices as hexadecimal text, other
  slices as lists of such objects, nils of slices, maps, pointers, functions and channels as
  `null`, an error as its error object, and a map as its default text.
* An error is the object `{"kind", "message", "is"}`: `is` names the sentinels of its chain
  in their fixed order, and `kind` is `panic` when a recovered panic is in the chain,
  `exit` for an exited command, `start` for a command that did not start, else the first
  sentinel or `error`. A panic adds its value and the texts that the conversions `%s`,
  `%v`, `%q`, `%d` and the first line of `%+v` write; an exited command adds its exit code.
* An answer that is an error is `{"error": kind, "message", "is"}`.
-/

namespace Timebox

/-- The name of a sentinel in reports. -/
def Sentinel.key : Sentinel → String
  | .invalidDeadline => "invalid_deadline"
  | .timedOut => "timed_out"
  | .nilWork => "nil_work"
  | .workExited => "work_exited"
  | .badSignature => "bad_signature"
  | .notFunc => "not_func"
  | .args => "args"
  | .contextCanceled => "context_canceled"
  | .deadlineExceeded => "deadline_exceeded"
  | .notExist => "not_exist"

namespace Fault

/-- The kind of an error in reports. -/
def kind (e : Fault) : String :=
  if e.hasPanic then "panic"
  else if e.exitCode?.isSome then "exit"
  else if e.hasStartFailure then "start"
  else match e.sentinels with
    | s :: _ => s.key
    | [] => "error"

/-- The sentinels of the chain as a list of names. -/
def isJson (e : Fault) : Json := .arr (e.sentinels.map fun s => .str s.key)

end Fault

namespace Report

/-- Two lower-case hexadecimal digits per byte. -/
def hexOfBytes (bytes : List Nat) : String :=
  String.join (bytes.map fun b => Text.hexPadded (b % 256) 2)

/-- The first line of a text. -/
def firstLine (s : String) : String := String.ofList (s.toList.takeWhile (· ≠ '\n'))

/-- The error object, given the report of the value of the first panic in its chain. -/
def errorObject (e : Fault) (panicValue : Option Json) : Json :=
  let base : List (String × Json) :=
    [("kind", .str e.kind), ("message", .str e.message), ("is", e.isJson)]
  let panicPart : List (String × Json) := match panicValue with
    | some pv =>
      let arg := [Value.error e]
      [("panic_value", pv),
       ("format", .obj [("s", .str (Format.sprintf "%s" arg)), ("v", .str (Format.sprintf "%v" arg)),
         ("q", .str (Format.sprintf "%q" arg)), ("d", .str (Format.sprintf "%d" arg)),
         ("plus_v_prefix", .str (firstLine (Format.sprintf "%+v" arg)))])]
    | none => []
  let exitPart : List (String × Json) := match e.exitCode? with
    | some c => [("exit_code", .int c)]
    | none => []
  .obj (base ++ panicPart ++ exitPart)

/-- The report of a command's result: its exit code and outputs as text. When both
outputs are written, the order of their interleaving depends on timing, so only the length
of the combined output is given. -/
def runOutput (r : RunOutput) : Json :=
  let both := !r.stdout.isEmpty && !r.stderr.isEmpty
  .obj ([("exit_code", .int r.exitCode), ("stdout", .str (Text.decodeLossy r.stdout)),
    ("stderr", .str (Text.decodeLossy r.stderr))] ++
    if both then [("combined_len", .int r.combined.length)] else [("combined", .str (Text.decodeLossy r.combined))])

end Report

mutual

/-- The report of a value. -/
def Value.toJson : Value → Json
  | .nil => .obj [("type", .str "nil"), ("v", .null)]
  | .int k i => .obj [("type", .str k.name), ("v", .int i)]
  | .float single x =>
    .obj [("type", .str (if single then "float32" else "float64")),
      ("v", if x.isNaN ∨ x.isInf then .str (x.toJsonText) else .num x)]
  | .str s => .obj [("type", .str "string"), ("v", .str s)]
  | .bool b => .obj [("type", .str "bool"), ("v", .bool b)]
  | .duration ns => .obj [("type", .str "time.Duration"), ("v", .int ns)]
  | .slice (.int .uint8) items =>
    .obj [("type", .str "[]uint8"), ("v", .str (Report.hexOfBytes (items.map fun
      | .int _ b => b.toNat
      | _ => 0)))]
  | .slice t items => .obj [("type", .str (Ty.slice t).name), ("v", .arr (Value.itemsJson items))]
  | v@(.map ..) => .obj [("type", .str v.typeName), ("v", .str v.show)]
  | .nilOf t => .obj [("type", .str t.name), ("v", .null)]
  | .error e => .obj [("type", .str "error"), ("v", Report.errorObject e (Fault.panicJson? e))]
  | .output r => Report.runOutput r

def Value.itemsJson : List Value → List Json
  | [] => []
  | v :: vs => Value.toJson v :: Value.itemsJson vs

/-- The report of the value of the first recovered panic in the chain. -/
def Fault.panicJson? : Fault → Option Json
  | .panicked v => some (Value.toJson v)
  | .wrap _ c => Fault.panicJson? c
  | .withStack c => Fault.panicJson? c
  | .startFailed _ c => Fault.panicJson? c
  | .formatted _ _ ws => Fault.panicJsonAll? ws
  | _ => none

def Fault.panicJsonAll? : List Fault → Option Json
  | [] => none
  | w :: ws => (Fault.panicJson? w).orElse fun _ => Fault.panicJsonAll? ws

end

namespace Fault

/-- The error object of an error nested in an answer. -/
def toJson (e : Fault) : Json := Report.errorObject e e.panicJson?

/-- An answer that is an error. -/
def answer (e : Fault) : Json :=
  .obj [("error", .str e.kind), ("message", .str e.message), ("is", e.isJson)]

end Fault

end Timebox
