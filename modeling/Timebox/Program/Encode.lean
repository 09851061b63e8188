import Timebox.Digest.Block
import Timebox.Program.Options

/-! # Base64 and base32 as tools

`base64` and `base32` write their file (or input) in a radix alphabet, or read it back with
`-d`. A group of bytes (three for base64, five for base32) is written as a group of
characters (four or eight), each standing for six or five bits, most significant first; a
short last group is filled with zero bits and written with as many characters as its bits
need, then `=` up to the whole group. The text is cut into lines of 76 characters, or of
`-w` characters (`0`: one line without a line feed).

Reading back drops the line feeds (with `-i`, every byte outside the alphabet and `=`),
and reads the text group by group. A byte is written as soon as all characters that carry
its bits are read; a group may end in `=` where the bits read so far make whole bytes, and
is then all `=` to its end. At the first group that breaks these rules, or a short group at
the end, the tool writes the bytes it has and stops with `invalid input`. A short base64
group still gives the bytes its characters make; a short base32 group gives none.
-/

namespace Timebox

namespace Program

open Process
open Printf (quoteArg)

/-- The two alphabets. -/
inductive Radix where
  | base64
  | base32
deriving DecidableEq, Repr

namespace Radix

/-- The characters of the alphabet, by value. -/
def alphabet : Radix → List Char
  | .base64 => "ABCDEFGHIJKLMNOPQRSTUVWXYZabcdefghijklmnopqrstuvwxyz0123456789+/".toList
  | .base32 => "ABCDEFGHIJKLMNOPQRSTUVWXYZ234567".toList

/-- The bits one character stands for. -/
def bits : Radix → Nat
  | .base64 => 6
  | .base32 => 5

/-- The bytes of a whole group. -/
def groupBytes : Radix → Nat
  | .base64 => 3
  | .base32 => 5

/-- The characters of a whole group. -/
def groupChars : Radix → Nat
  | .base64 => 4
  | .base32 => 8

/-- The value of a byte of the alphabet. -/
def value? (r : Radix) (b : UInt8) : Option Nat := r.alphabet.idxOf? (Char.ofNat b.toNat)

/-- The characters of a group of at most `groupBytes` bytes, with its padding. -/
def encodeGroup (r : Radix) (bs : List UInt8) : List UInt8 :=
  let v := (bs ++ List.replicate (r.groupBytes - bs.length) 0).foldl (fun (a : Nat) (b : UInt8) => a * 256 + b.toNat) 0
  let digits := (List.range r.groupChars).reverse.map fun i => v / Nat.pow 2 (r.bits * i) % Nat.pow 2 r.bits
  let used := (8 * bs.length + r.bits - 1) / r.bits
  (digits.take used).map (fun d => (r.alphabet.getD d 'A').toNat.toUInt8) ++
    List.replicate (r.groupChars - used) 0x3D

/-- The text of bytes, in one piece. -/
def encode (r : Radix) (bs : List UInt8) : List UInt8 :=
  (Digest.chunks r.groupBytes bs).flatMap r.encodeGroup

/-- The bytes a group of characters gives, and whether it keeps the rules. -/
def decodeGroup (r : Radix) (cs : List UInt8) : List UInt8 × Bool :=
  if r = .base32 ∧ cs.length < r.groupChars then ([], false)
  else
    let pad := (cs.findIdx? (· = 0x3D)).getD cs.length
    let vals := (cs.take pad).map r.value?
    let valid := (vals.findIdx? Option.isNone).getD pad
    let len := min pad valid
    let v := (vals.take len).foldl (fun a x => a * Nat.pow 2 r.bits + x.getD 0) 0
    let whole := len * r.bits / 8
    let out := (List.range whole).map fun j => (v / Nat.pow 2 (len * r.bits - 8 * (j + 1)) % 256).toUInt8
    let ok := valid ≥ pad ∧ cs.length = r.groupChars ∧
      (pad = cs.length ∨ (pad ≥ 2 ∧ pad * r.bits % 8 < r.bits ∧ (cs.drop pad).all (· = 0x3D)))
    (out, ok)

/-- The bytes of a text read back, and whether it kept the rules to its end. -/
def decode (r : Radix) (cs : List UInt8) : List UInt8 × Bool :=
  go (cs.length + 1) cs []
where
  go : Nat → List UInt8 → List UInt8 → List UInt8 × Bool
    | 0, _, out => (out, true)
    | _, [], out => (out, true)
    | fuel + 1, cs, out =>
      let (bytes, ok) := r.decodeGroup (cs.take r.groupChars)
      if ok then go fuel (cs.drop r.groupChars) (out ++ bytes) else (out ++ bytes, false)

end Radix

/-- Text cut into lines of `width` characters, each ended by a line feed; width `0` keeps
it in one piece without one. -/
def wrapLines (width : Nat) (text : List UInt8) : List UInt8 :=
  if width = 0 ∨ text.isEmpty then text
  else (Digest.chunks width text).flatMap (· ++ [10])

/-- The options of `base64` and `base32`. -/
def radixSpecs : List Options.Spec :=
  [{ key := "d", letter := some 'd', long := some "decode" },
   { key := "i", letter := some 'i', long := some "ignore-garbage" },
   { key := "w", letter := some 'w', long := some "wrap", value := true }]

/-- The `base64` and `base32` of the core tools. -/
def radixTool (r : Radix) (inv : Invocation) : Effect :=
  match Options.scan inv.name 1 radixSpecs inv.args with
  | .error e => e
  | .ok (settings, ops) =>
    let width : Option Nat :=
      match Options.last? settings "w" with
      | none => some 76
      | some w => if !w.isEmpty ∧ w.all Char.isDigit then some w.toNat! else none
    match width, ops with
    | none, _ =>
      { ({} : Effect).complain (inv.name ++ ": invalid wrap size: " ++ quoteArg ((Options.last? settings "w").getD "")) with code := 1 }
    | _, _ :: extra :: _ => usageError inv.name ("extra operand " ++ quoteArg extra)
    | some width, _ =>
      let op := ops.headD "-"
      match readOperand inv op with
      | .error err =>
        { ({} : Effect).complain (inv.name ++ ": " ++ Text.Quoting.shell op ++ ": " ++ errnoText err) with code := 1 }
      | .ok bs =>
        if Options.has settings "d" then
          let cs := if Options.has settings "i" then bs.filter fun b => (r.value? b).isSome ∨ b = 0x3D
            else bs.filter (· ≠ 10)
          let (out, ok) := r.decode cs
          let e := ({} : Effect).put 1 out
          if ok then e else { e.complain (inv.name ++ ": invalid input") with code := 1 }
        else ({} : Effect).put 1 (wrapLines width (r.encode bs))

end Program

end Timebox
