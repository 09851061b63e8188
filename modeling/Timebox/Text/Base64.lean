/-! # Base64 with padding

`decodeBase64` reads the standard alphabet (`A`-`Z`, `a`-`z`, `0`-`9`, `+`, `/`) in
groups of four characters, each giving three bytes; the last group may end in `==` or `=`
for one or two bytes. Line breaks are skipped anywhere; anything else, a group cut short, or
text after the padding makes the input invalid. Bits left over in the last group are
dropped, whatever they are.
-/

namespace Timebox

namespace Text

/-- The value of a character of the alphabet. -/
def base64Value (c : Char) : Option Nat :=
  if 'A' ≤ c ∧ c ≤ 'Z' then some (c.toNat - 'A'.toNat)
  else if 'a' ≤ c ∧ c ≤ 'z' then some (c.toNat - 'a'.toNat + 26)
  else if '0' ≤ c ∧ c ≤ '9' then some (c.toNat - '0'.toNat + 52)
  else if c = '+' then some 62
  else if c = '/' then some 63
  else none

/-- The bytes of groups of four characters. -/
def base64Groups : Nat → List Char → Option (List UInt8)
  | 0, _ => none
  | _, [] => some []
  | fuel + 1, cs =>
    match cs with
    | [a, b, '=', '='] => do
      let x ← base64Value a
      let y ← base64Value b
      pure [UInt8.ofNat (x * 4 + y / 16)]
    | [a, b, c, '='] => do
      let x ← base64Value a
      let y ← base64Value b
      let z ← base64Value c
      pure [UInt8.ofNat (x * 4 + y / 16), UInt8.ofNat ((y % 16) * 16 + z / 4)]
    | a :: b :: c :: d :: rest => do
      let x ← base64Value a
      let y ← base64Value b
      let z ← base64Value c
      let w ← base64Value d
      let more ← base64Groups fuel rest
      pure (UInt8.ofNat (x * 4 + y / 16) :: UInt8.ofNat ((y % 16) * 16 + z / 4) ::
        UInt8.ofNat ((z % 4) * 64 + w) :: more)
    | _ => none

/-- The bytes a base64 text stands for, or none if it is not valid. -/
def decodeBase64 (s : String) : Option (List UInt8) :=
  let cs := s.toList.filter fun c => c ≠ '\r' ∧ c ≠ '\n'
  base64Groups (cs.length + 1) cs

end Text

end Timebox
