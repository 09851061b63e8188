import Timebox.Call.Func
import Timebox.Call.Numbers
import Timebox.Format.Printf
import Timebox.Text.Search
import Timebox.Text.Utf8

/-! # The functions that works may bind

The fixed set of functions that can be named where a function is expected, each with its
declared name, its signature, and what a call does:

* readers and writers of numbers and texts (`strconv.Atoi`, `strconv.Quote`, …), text
  operations (`strings.Split`, `strings.EqualFold`, …), formatting (`fmt.Sprintf`,
  `fmt.Errorf`, …), error values (`errors.New`, `errors.Is`), time (`time.Sleep`,
  `time.Duration.String`), floats (`math.Max`, `math.Sqrt`), characters and bytes;
* functions that end in other ways: panics of each kind, early exits, calls that read their
  context;
* signatures that binding refuses (three results, an error first) and one that takes
  arguments of every nilable kind.

Besides functions, a name may stand for a nil, a nil function, or a value of another type.
Bodies receive the arguments after a leading context parameter, and read the context's
values from the `CallContext` and its error through `Act.readErr`.
-/

namespace Timebox

namespace Menu

/-- An error result: nil, or the error. -/
def errValue : Option Fault → Value
  | some e => .error e
  | none => .nil

def str (s : String) : Value := .str s
def int (i : Int) : Value := .int .int i
def int32 (i : Int) : Value := .int .int32 i
def float (x : Double) : Value := .float false x
def bytesOf (bs : List UInt8) : Value := .slice (.int .uint8) (bs.map fun b => .int .uint8 b.toNat)

/-- The bytes of a byte slice value. -/
def bytesIn : Value → List UInt8
  | .slice _ items => items.map fun
    | .int _ b => b.toNat.toUInt8
    | _ => 0
  | _ => []

/-- The texts of a string slice value. -/
def stringsIn : Value → List String
  | .slice _ items => items.map fun
    | .str s => s
    | _ => ""
  | _ => []

/-- A run-time error value of the language. -/
def runtimeError (msg : String) : Value := .error (.runtime "runtime.Error" msg)

/-- A function whose calls return at once. -/
def pure (name : String) (ins outs : List Ty) (variadic : Bool)
    (body : List Value → List Value) : Callee :=
  .func ⟨name, ins, outs, variadic, fun _ args => .done (body args)⟩

/-- A function whose calls may do more than return. -/
def acting (name : String) (ins outs : List Ty) (variadic : Bool)
    (body : CallContext → List Value → Act (List Value)) : Callee :=
  .func ⟨name, ins, outs, variadic, body⟩

/-- The error operand of `errors.Is` found in the chain of the first. -/
def errorIs : Value → Value → Bool
  | .nil, .nil => true
  | .nil, _ => false
  | _, .nil => false
  | .error e, .error (.sentinel s) => e.isSentinel s
  | _, _ => false

/-- The number of bytes that encode a code point, `-1` for none. -/
def runeLen (r : Int) : Int :=
  if r < 0 then -1
  else if r < 0x80 then 1
  else if r < 0x800 then 2
  else if 0xD800 ≤ r ∧ r ≤ 0xDFFF then -1
  else if r < 0x10000 then 3
  else if r ≤ 0x10FFFF then 4
  else -1

/-- The upper case of a code point; one outside the range is its own. -/
def upperRune (r : Int) : Int :=
  if 0 ≤ r ∧ r ≤ 0x10FFFF ∧ ¬(0xD800 ≤ r ∧ r ≤ 0xDFFF) then (Text.toUpper (Char.ofNat r.toNat)).toNat
  else r

/-- Whether a code point is an upper-case letter. -/
def isUpperRune (r : Int) : Bool :=
  0 ≤ r ∧ r ≤ 0x10FFFF ∧ Text.isUpper (Char.ofNat r.toNat)

/-- `s` repeated `n` times; a negative count or a result longer than the address space
panics. -/
def repeatText (s : String) (n : Int) : Act (List Value) :=
  if n < 0 then .panic (str "strings: negative Repeat count")
  else if s.utf8ByteSize * n.toNat ≥ Nat.pow 2 63 then .panic (str "strings: Repeat output length overflow")
  else .done [str (String.join (List.replicate n.toNat s))]

/-- The element at a place of `[1, 2, 3]`, or a bounds panic. -/
def indexOfThree (i : Int) : Act (List Value) :=
  if 0 ≤ i ∧ i < 3 then .done [int (i + 1)]
  else if i < 0 then .panic (runtimeError ("runtime error: index out of range [" ++ toString i ++ "]"))
  else .panic (runtimeError ("runtime error: index out of range [" ++ toString i ++ "] with length 3"))

def sortInts : List Value → List Value := fun _ => []

/-- The named function or value, if the name is known. -/
def lookup (name : String) : Option Callee :=
  match name with
  | "strconv.Atoi" => some <| pure "strconv.Atoi" [.string] [.int .int, .error] false fun
    | [.str s] => let (v, r) := Numbers.atoi s; [int v, errValue (Numbers.failure "strconv.Atoi" s r)]
    | _ => []
  | "strconv.Itoa" => some <| pure "strconv.Itoa" [.int .int] [.string] false fun
    | [.int _ i] => [str (toString i)]
    | _ => []
  | "strconv.ParseBool" => some <| pure "strconv.ParseBool" [.string] [.bool, .error] false fun
    | [.str s] =>
      let (b, r) := Numbers.parseBool s
      [.bool b, errValue (Numbers.failure "strconv.ParseBool" s r)]
    | _ => []
  | "strconv.ParseFloat" => some <| pure "strconv.ParseFloat" [.string, .int .int] [.float64, .error] false fun
    | [.str s, .int _ bits] =>
      let (x, r) := Numbers.parseFloat s bits
      [float x, errValue (Numbers.failure "strconv.ParseFloat" s r)]
    | _ => []
  | "strconv.ParseInt" => some <| pure "strconv.ParseInt" [.string, .int .int, .int .int] [.int .int64, .error] false fun
    | [.str s, .int _ base, .int _ bits] =>
      let (v, r) := Numbers.parseInt s base bits
      [.int .int64 v, errValue (Numbers.failure "strconv.ParseInt" s r)]
    | _ => []
  | "strconv.Quote" => some <| pure "strconv.Quote" [.string] [.string] false fun
    | [.str s] => [str (Text.quote s)]
    | _ => []
  | "strings.Repeat" => some <| acting "strings.Repeat" [.string, .int .int] [.string] false fun _ args =>
    match args with
    | [.str s, .int _ n] => repeatText s n
    | _ => .done []
  | "strings.ToUpper" => some <| pure "strings.ToUpper" [.string] [.string] false fun
    | [.str s] => [str (String.map Text.toUpper s)]
    | _ => []
  | "strings.Join" => some <| pure "strings.Join" [.slice .string, .string] [.string] false fun
    | [xs, .str sep] => [str (String.intercalate sep (stringsIn xs))]
    | _ => []
  | "strings.Split" => some <| pure "strings.Split" [.string, .string] [.slice .string] false fun
    | [.str s, .str sep] => [.slice .string ((Text.split s sep).map str)]
    | _ => []
  | "strings.Cut" => some <| pure "strings.Cut" [.string, .string] [.string, .string, .bool] false fun
    | [.str s, .str sep] => let (a, b, found) := Text.cut s sep; [str a, str b, .bool found]
    | _ => []
  | "strings.Index" => some <| pure "strings.Index" [.string, .string] [.int .int] false fun
    | [.str s, .str t] => [int (Text.byteIndex s t)]
    | _ => []
  | "strings.EqualFold" => some <| pure "strings.EqualFold" [.string, .string] [.bool] false fun
    | [.str s, .str t] => [.bool (Text.equalFold s t)]
    | _ => []
  | "fmt.Sprintf" => some <| pure "fmt.Sprintf" [.string, .slice .any] [.string] true fun
    | .str f :: rest => [str (Format.sprintf f rest)]
    | _ => []
  | "fmt.Sprint" => some <| pure "fmt.Sprint" [.slice .any] [.string] true fun args =>
    [str (Format.sprint args)]
  | "fmt.Errorf" => some <| pure "fmt.Errorf" [.string, .slice .any] [.error] true fun
    | .str f :: rest => [.error (Format.errorf f rest)]
    | _ => []
  | "errors.New" => some <| pure "errors.New" [.string] [.error] false fun
    | [.str s] => [.error (.plain s)]
    | _ => []
  | "errors.Is" => some <| pure "errors.Is" [.error, .error] [.bool] false fun
    | [a, b] => [.bool (errorIs a b)]
    | _ => []
  | "time.Sleep" => some <| acting "time.Sleep" [.duration] [] false fun _ args =>
    match args with
    | [.duration d] => .sleep d (.done [])
    | _ => .done []
  | "time.Duration.String" => some <| pure "time.Duration.String" [.duration] [.string] false fun
    | [.duration d] => [str (Duration.mk d).toString]
    | _ => []
  | "math.Max" => some <| pure "math.Max" [.float64, .float64] [.float64] false fun
    | [.float _ x, .float _ y] => [float (x.max y)]
    | _ => []
  | "math.Sqrt" => some <| pure "math.Sqrt" [.float64] [.float64] false fun
    | [.float _ x] => [float x.sqrt]
    | _ => []
  | "unicode.IsUpper" => some <| pure "unicode.IsUpper" [.int .int32] [.bool] false fun
    | [.int _ r] => [.bool (isUpperRune r)]
    | _ => []
  | "unicode.ToUpper" => some <| pure "unicode.ToUpper" [.int .int32] [.int .int32] false fun
    | [.int _ r] => [int32 (upperRune r)]
    | _ => []
  | "utf8.RuneLen" => some <| pure "unicode/utf8.RuneLen" [.int .int32] [.int .int] false fun
    | [.int _ r] => [int (runeLen r)]
    | _ => []
  | "utf8.ValidString" => some <| pure "unicode/utf8.ValidString" [.string] [.bool] false fun
    | [.str s] => [.bool (Text.validUtf8 s.toUTF8.toList)]
    | _ => []
  | "hex.EncodeToString" => some <| pure "encoding/hex.EncodeToString" [.slice (.int .uint8)] [.string] false fun
    | [b] => [str (String.join ((bytesIn b).map fun x => Text.hexPadded x.toNat 2))]
    | _ => []
  | "bytes.ToUpper" => some <| pure "bytes.ToUpper" [.slice (.int .uint8)] [.slice (.int .uint8)] false fun
    | [b] => [bytesOf (String.map Text.toUpper (Text.decodeLossy (bytesIn b))).toUTF8.toList]
    | _ => []
  | "sort.Ints" => some <| pure "sort.Ints" [.slice (.int .int)] [] false sortInts
  | "runtime.Goexit" => some <| acting "runtime.Goexit" [] [] false fun _ _ => .exit
  | "runtime.Gosched" => some <| pure "runtime.Gosched" [] [] false fun _ => []
  | "context.Cause" => some <| acting "context.Cause" [.context] [.error] false fun _ _ =>
    .readErr fun e => .done [errValue e]
  | "greeter.Greet" => some <| pure "main.(*greeter).Greet" [.string] [.string] false fun
    | [.str p] => [str (p ++ "go")]
    | _ => []
  | "main.boom" => some <| acting "main.boom" [] [.int .int] false fun _ _ => .panic (str "boom")
  | "main.boomError" => some <| acting "main.boomError" [] [.string, .error] false fun _ _ =>
    .panic (.error (.withStack (.sentinel .args)))
  | "main.indexPanic" => some <| acting "main.indexPanic" [.int .int] [.int .int] false fun _ args =>
    match args with
    | [.int _ i] => indexOfThree i
    | _ => .done []
  | "main.divide" => some <| acting "main.divide" [.int .int, .int .int] [.int .int, .error] false fun _ args =>
    match args with
    | [.int _ a, .int _ b] =>
      if b = 0 then .panic (runtimeError "runtime error: integer divide by zero")
      else .done [int (IntKind.int.wrap (a.tdiv b)), .nil]
    | _ => .done []
  | "main.nilMap" => some <| acting "main.nilMap" [.string] [.bool] false fun _ _ =>
    .panic (runtimeError "assignment to entry in nil map")
  | "main.panicNil" => some <| acting "main.panicNil" [] [.string] false fun _ _ => .panic .nil
  | "main.ctxErr" => some <| acting "main.ctxErr" [.context] [.error] false fun _ _ =>
    .readErr fun e => .done [errValue e]
  | "main.ctxValue" => some <| acting "main.ctxValue" [.context, .string] [.string, .error] false fun ctx args =>
    match args with
    | [.str key] =>
      match ctx.values.lookup key with
      | some v => .done [str v, .nil]
      | none => .done [str "", .error (.formatted ("no value for " ++ Text.quote key) 0 [])]
    | _ => .done []
  | "main.sumAll" => some <| pure "main.sumAll" [.int .int, .slice (.int .int)] [.int .int] true fun args =>
    [int (IntKind.int.wrap (args.foldl (fun acc v => match v with
      | .int _ i => acc + i
      | _ => acc) 0))]
  | "main.nilError" => some <| pure "main.nilError" [] [.error] false fun _ => [.nil]
  | "main.typedNilError" => some <| pure "main.typedNilError" [] [.error] false fun _ =>
    [.error (.typedNil "*fs.PathError")]
  | "main.exitNow" => some <| acting "main.exitNow" [] [.int .int] false fun _ _ => .exit
  | "main.returnsNothing" => some <| pure "main.returnsNothing" [.string] [] false fun _ => []
  | "main.ctxOnly" => some <| pure "main.ctxOnly" [.context] [] false fun _ => []
  | "main.twoErrors" => some <| pure "main.twoErrors" [] [.error, .error] false fun _ => [.nil, .nil]
  | "main.errorFirst" => some <| pure "main.errorFirst" [] [.error, .int .int] false fun _ => [.nil, int 0]
  | "main.threeOut" => some <| pure "main.threeOut" [] [.int .int, .int .int, .error] false fun _ =>
    [int 1, int 2, .nil]
  | "main.anyOut" => some <| pure "main.anyOut" [.any] [.any] false fun
    | [v] => [v]
    | _ => []
  | "main.ptrIn" => some <| pure "main.ptrIn"
      [.ptr (.int .int), .map .string (.int .int), .slice .string, .func [] [] false, .chan (.int .int), .error]
      [.int .int] false fun _ => [int 7]
  | "nil" => some .nil
  | "nil_func" => some (.nilFunc (.func [] [.int .int] false))
  | "int" => some (.value (.int .int))
  | "string" => some (.value .string)
  | "func_slice" => some (.value (.slice (.func [] [] false)))
  | _ => none

end Menu

end Timebox
