import Timebox.Format.Spec
import Timebox.Value.Basic
import Timebox.Duration.Basic
import Timebox.Text.Utf8

/-! # The text of values and errors

* `Value.show` is the default text of a value (`%v`): numbers in decimal and floats with
  their shortest digits, durations in unit form, slices as `[a b]`, maps as `map[k:v]` in
  key order, the nil of an interface as `<nil>`, a nil slice as `[]`, a nil map as `map[]`,
  and an error as its message.
* `Fault.message` is the message of an error: a wrapped error is `msg: cause`, a recovered
  panic is `work panicked: ` and the value's text, a number that did not parse is
  `fn: parsing "text": ` and the reason, and so on.
* `Value.render` writes a value under any conversion: integers in a base, as characters or
  code points; floats in a layout; texts plain, quoted or in hexadecimal; elements of slices
  and maps each under the same conversion. A conversion that does not apply to the value
  writes `%!verb(type=value)`. Errors with a formatting method write only for `v`, `s` and
  `q` and ignore width and precision; other errors are written as their message text.
-/

namespace Timebox

namespace Format

/-- The order of map keys when printed: texts, integers and floats by value, `false`
before `true`. -/
def keyLt : Value → Value → Bool
  | .str a, .str b => decide (a < b)
  | .int _ a, .int _ b => decide (a < b)
  | .float _ a, .float _ b => a.lt b
  | .bool a, .bool b => !a && b
  | _, _ => false

/-- Map entries, each already written, in key order. -/
def sortEntries (entries : List (Value × String)) : List String :=
  (entries.mergeSort fun a b => !keyLt b.1 a.1).map (·.2)

/-- Texts joined by single spaces. -/
def spaced (items : List String) : String := String.intercalate " " items

end Format

/-- The default text of a command's result: its fields in braces behind a pointer mark. -/
def RunOutput.show (r : RunOutput) : String :=
  "&\x7b" ++ toString r.exitCode ++ " " ++ Text.decodeLossy r.stdout ++ " " ++ Text.decodeLossy r.stderr ++ " " ++
    Text.decodeLossy r.combined ++ " 0s\x7d"

mutual

/-- The default text of a value. -/
def Value.show : Value → String
  | .nil => "<nil>"
  | .int _ i => toString i
  | .float single x => if single then x.toShortestSingle else x.toShortest
  | .str s => s
  | .bool b => if b then "true" else "false"
  | .duration ns => (Duration.mk ns).toString
  | .slice _ items => "[" ++ Format.spaced (Value.showItems items) ++ "]"
  | .map _ _ entries => "map[" ++ Format.spaced (Format.sortEntries (Value.showEntries entries)) ++ "]"
  | .nilOf (.slice _) => "[]"
  | .nilOf (.map ..) => "map[]"
  | .nilOf _ => "<nil>"
  | .error e => Fault.message e
  | .output r => RunOutput.show r

def Value.showItems : List Value → List String
  | [] => []
  | v :: vs => Value.show v :: Value.showItems vs

def Value.showEntries : List (Value × Value) → List (Value × String)
  | [] => []
  | (k, v) :: es => (k, Value.show k ++ ":" ++ Value.show v) :: Value.showEntries es

/-- The message of an error. -/
def Fault.message : Fault → String
  | .sentinel s => s.message
  | .plain m => m
  | .fundamental m => m
  | .wrap m c => m ++ ": " ++ Fault.message c
  | .withStack c => Fault.message c
  | .formatted m _ _ => m
  | .panicked v => "work panicked: " ++ Value.show v
  | .runtime _ m => m
  | .number fn text reason => fn ++ ": parsing " ++ Text.quote text ++ ": " ++ reason
  | .path op p e => op ++ " " ++ p ++ ": " ++ e.message
  | .exited c st _ => c ++ ": " ++ st
  | .startFailed c cause => "start " ++ c ++ ": " ++ Fault.message cause
  | .typedNil _ => "<nil>"

end

namespace Fault

/-- Whether the error type writes itself under a conversion, with the message for `v` and
`s` and nothing for other letters. -/
def formats : Fault → Bool
  | .sentinel s => !(s == .contextCanceled || s == .deadlineExceeded || s == .notExist)
  | .fundamental _ | .wrap .. | .withStack _ | .panicked _ => true
  | _ => false

theorem message_wrap (m : String) (c : Fault) : (wrap m c).message = m ++ ": " ++ c.message := by
  simp [message]

end Fault

namespace Value

/-- The printed type of a value; the nil of an interface has none. -/
def typeName (v : Value) : String :=
  match v.ty? with
  | some t => t.name
  | none => "<nil>"

/-- The integer kinds by their printed conversion: the sign, the magnitude, and the value
as an unsigned 64-bit word. -/
def intParts (k : IntKind) (i : Int) : Bool × Nat × Nat :=
  (k.signed && i < 0, i.natAbs, (i % Int.pow 2 64).toNat)

end Value

namespace Format

open Spec

/-- An integer under a conversion letter, or `none` when the letter does not apply. -/
def integerText (f : Spec) (verb : Char) (signed neg : Bool) (u word : Nat) : Option String :=
  if verb = 'v' then
    if f.sharpV ∧ ¬signed then some ({ f with sharp := true }.integer false word 16 false false)
    else some (f.integer neg u 10 false false)
  else if verb = 'd' then some (f.integer neg u 10 false false)
  else if verb = 'b' then some (f.integer neg u 2 false false)
  else if verb = 'o' then some (f.integer neg u 8 false false)
  else if verb = 'O' then some (f.integer neg u 8 false true)
  else if verb = 'x' then some (f.integer neg u 16 false false)
  else if verb = 'X' then some (f.integer neg u 16 true false)
  else if verb = 'c' then some (f.char word)
  else if verb = 'q' then some (f.quotedChar word)
  else if verb = 'U' then some (f.codePoint word)
  else none

/-- A float under a conversion letter, or `none` when the letter does not apply. -/
def floatText (f : Spec) (verb : Char) (single : Bool) (x : Double) : Option String :=
  if verb = 'v' then some (f.float 'v' none single x)
  else if verb = 'b' ∨ verb = 'g' ∨ verb = 'G' ∨ verb = 'x' ∨ verb = 'X' then
    some (f.float verb none single x)
  else if verb = 'f' ∨ verb = 'e' ∨ verb = 'E' ∨ verb = 'F' then some (f.float verb (some 6) single x)
  else none

/-- A text under a conversion letter, or `none` when the letter does not apply. -/
def stringText (f : Spec) (verb : Char) (s : String) : Option String :=
  if verb = 'v' then some (if f.sharpV then f.quoted s else f.text s)
  else if verb = 's' then some (f.text s)
  else if verb = 'x' then some (f.hexText false s)
  else if verb = 'X' then some (f.hexText true s)
  else if verb = 'q' then some (f.quoted s)
  else none

/-- The bytes of a byte slice as text, invalid sequences replaced. -/
def bytesString (bytes : List Nat) : String := Text.decodeLossy (bytes.map (·.toUInt8))

/-- An error under a conversion letter. -/
def errorText (f : Spec) (verb : Char) (e : Fault) (detail : String) : String :=
  let msg := e.message
  if e.formats then
    if verb = 'v' then (if f.plusV ∨ f.plus then detail else msg)
    else if verb = 's' then msg
    else if verb = 'q' then Text.quote msg
    else ""
  else (stringText f verb msg).getD ("&\x7b" ++ msg ++ "\x7d")

/-- The nil of a pointer, function or channel type under a conversion letter. -/
def nilPointerText (f : Spec) (verb : Char) : Option String :=
  if verb = 'v' then some (f.pad "<nil>")
  else if verb = 'p' then some (if f.sharp then "0" else "0x0")
  else if verb = 'b' ∨ verb = 'o' ∨ verb = 'd' ∨ verb = 'x' ∨ verb = 'X' then
    integerText f verb false false 0 0
  else none

end Format

mutual

/-- The text of a value for a conversion that did not apply to it: `%v` with the same flags
and no text methods, so durations are integers and errors their fields. -/
def Value.plain (f : Format.Spec) : Value → String
  | .nil => f.pad "<nil>"
  | .int k i =>
    let (neg, u, word) := Value.intParts k i
    (Format.integerText f 'v' k.signed neg u word).getD ""
  | .float single x => f.float 'v' none single x
  | .str s => if f.sharpV then f.quoted s else f.text s
  | .bool b => f.bool b
  | .duration ns => f.integer (ns < 0) ns.natAbs 10 false false
  | .slice _ items => "[" ++ Format.spaced (Value.plainItems f items) ++ "]"
  | .map _ _ entries =>
    "map[" ++ Format.spaced (Format.sortEntries (Value.plainEntries f entries)) ++ "]"
  | .nilOf (.slice _) => "[]"
  | .nilOf (.map ..) => "map[]"
  | .nilOf _ => f.pad "<nil>"
  | .error e => "&\x7b" ++ e.message ++ "\x7d"
  | .output r => RunOutput.show r

def Value.plainItems (f : Format.Spec) : List Value → List String
  | [] => []
  | v :: vs => Value.plain f v :: Value.plainItems f vs

def Value.plainEntries (f : Format.Spec) : List (Value × Value) → List (Value × String)
  | [] => []
  | (k, v) :: es => (k, Value.plain f k ++ ":" ++ Value.plain f v) :: Value.plainEntries f es

end

/-- `%!verb(type=value)`, for a conversion that does not apply to the value. -/
def Value.badVerb (f : Format.Spec) (verb : Char) (v : Value) : String :=
  "%!" ++ verb.toString ++ "(" ++ v.typeName ++ "=" ++ v.plain f ++ ")"

/-- The `+v` text of an error: the chain of messages that a detailed conversion writes
before the recorded stacks. -/
def Fault.detail : Fault → String
  | .wrap m c => Fault.detail c ++ "\n" ++ m
  | .withStack c => Fault.detail c
  | e => e.message

mutual

/-- The text of a value under a conversion; `top` for an operand itself, as opposed to an
element of a slice or map. -/
def Value.render (f : Format.Spec) (verb : Char) (top : Bool) : Value → String
  | .nil =>
    if top then
      if verb = 'v' ∨ verb = 'T' then f.pad "<nil>" else "%!" ++ verb.toString ++ "(<nil>)"
    else if f.sharpV then "interface \x7b\x7d(nil)"
    else f.pad "<nil>"
  | v@(.int k i) =>
    if top ∧ verb = 'T' then f.text v.typeName
    else
      let (neg, u, word) := Value.intParts k i
      (Format.integerText f verb k.signed neg u word).getD (v.badVerb f verb)
  | v@(.float single x) =>
    if top ∧ verb = 'T' then f.text v.typeName
    else (Format.floatText f verb single x).getD (v.badVerb f verb)
  | v@(.str s) =>
    if top ∧ verb = 'T' then f.text v.typeName
    else (Format.stringText f verb s).getD (v.badVerb f verb)
  | v@(.bool b) =>
    if top ∧ verb = 'T' then f.text v.typeName
    else if verb = 't' ∨ verb = 'v' then f.bool b else v.badVerb f verb
  | v@(.duration ns) =>
    if top ∧ verb = 'T' then f.text v.typeName
    else match Format.stringText f verb (Duration.mk ns).toString with
      | some t => if f.sharpV then f.integer (ns < 0) ns.natAbs 10 false false else t
      | none =>
        let word := (ns % Int.pow 2 64).toNat
        (Format.integerText f verb true (ns < 0) ns.natAbs word).getD (v.badVerb f verb)
  | v@(.slice (.int .uint8) items) =>
    if top ∧ verb = 'T' then f.text v.typeName
    else
      let bytes := items.map fun
        | .int _ b => b.toNat
        | _ => 0
      let texts := bytes.map fun b => (Format.integerText f verb false false b b).getD ""
      if f.sharpV then (if top then "[]byte" else v.typeName) ++ "\x7b" ++ ", ".intercalate texts ++ "\x7d"
      else if verb = 'v' ∨ verb = 'd' then "[" ++ Format.spaced texts ++ "]"
      else if verb = 's' then f.text (Format.bytesString bytes)
      else if verb = 'x' then f.hexBytes false bytes
      else if verb = 'X' then f.hexBytes true bytes
      else if verb = 'q' then f.quoted (Format.bytesString bytes)
      else "[" ++ Format.spaced (Value.renderItems f verb items) ++ "]"
  | v@(.slice _ items) =>
    if top ∧ verb = 'T' then f.text v.typeName
    else if f.sharpV then v.typeName ++ "\x7b" ++ ", ".intercalate (Value.renderItems f verb items) ++ "\x7d"
    else "[" ++ Format.spaced (Value.renderItems f verb items) ++ "]"
  | v@(.map _ _ entries) =>
    if top ∧ verb = 'T' then f.text v.typeName
    else if f.sharpV then
      v.typeName ++ "\x7b" ++ ", ".intercalate (Format.sortEntries (Value.renderEntries f verb entries)) ++ "\x7d"
    else "map[" ++ Format.spaced (Format.sortEntries (Value.renderEntries f verb entries)) ++ "]"
  | v@(.nilOf (.slice (.int .uint8))) =>
    if top ∧ verb = 'T' then f.text v.typeName
    else if f.sharpV then (if top then "[]byte" else v.typeName) ++ "(nil)"
    else if verb = 'v' ∨ verb = 'd' then "[]"
    else if verb = 's' then f.text ""
    else if verb = 'x' ∨ verb = 'X' then f.hexBytes false []
    else if verb = 'q' then f.quoted ""
    else "[]"
  | v@(.nilOf (.slice _)) =>
    if top ∧ verb = 'T' then f.text v.typeName
    else if top ∧ verb = 'p' then (Format.nilPointerText f 'p').getD ""
    else if f.sharpV then v.typeName ++ "(nil)" else "[]"
  | v@(.nilOf (.map ..)) =>
    if top ∧ verb = 'T' then f.text v.typeName
    else if top ∧ verb = 'p' then (Format.nilPointerText f 'p').getD ""
    else if f.sharpV then v.typeName ++ "(nil)" else "map[]"
  | v@(.nilOf _) =>
    if top ∧ verb = 'T' then f.text v.typeName
    else (Format.nilPointerText f verb).getD (v.badVerb f verb)
  | v@(.error e) =>
    if top ∧ verb = 'T' then f.text v.typeName
    else match e with
      | .typedNil _ => f.pad "<nil>"
      | _ => Format.errorText f verb e e.detail
  | v@(.output r) =>
    if top ∧ verb = 'T' then f.text v.typeName else f.text (RunOutput.show r)

def Value.renderItems (f : Format.Spec) (verb : Char) : List Value → List String
  | [] => []
  | v :: vs => Value.render f verb false v :: Value.renderItems f verb vs

def Value.renderEntries (f : Format.Spec) (verb : Char) :
    List (Value × Value) → List (Value × String)
  | [] => []
  | (k, v) :: es =>
    (k, Value.render f verb false k ++ ":" ++ Value.render f verb false v) ::
      Value.renderEntries f verb es

end

end Timebox
