import Timebox.Double.Read

/-! # What a plain scalar means

A scalar written without quotes and without a tag gets its type from its text
(`resolve`): `null`, `~` and the empty text are null; `true` and `false` in three casings
are booleans; integers may have a sign, `_` between digits and a `0x`, `0o`, `0b` or
leading-`0` base; decimal texts with a point or an exponent are floats, with `.inf`,
`-.inf` and `.nan` for the special values; a date such as `2001-12-14`, with or without a
time, is a timestamp; everything else is text. An explicit tag asks for one of these types,
and a text that does not resolve to it is a problem (`floats` accept integers of the
signed 64-bit range).
-/

namespace Timebox

namespace Yaml

/-- The prefix of the standard tags. -/
def longPrefix : String := "tag:yaml.org,2002:"

def strTag : String := "!!str"
def nullTag : String := "!!null"
def boolTag : String := "!!bool"
def intTag : String := "!!int"
def floatTag : String := "!!float"
def timestampTag : String := "!!timestamp"
def seqTag : String := "!!seq"
def mapTag : String := "!!map"
def binaryTag : String := "!!binary"
def mergeTag : String := "!!merge"

/-- A standard tag written with `!!` instead of its prefix. -/
def shortTag (tag : String) : String :=
  if tag.startsWith longPrefix then "!!" ++ String.ofList (tag.toList.drop longPrefix.length) else tag

/-- What a scalar resolves to. -/
inductive Scalar where
  | null
  | bool (b : Bool)
  /-- An integer of the 64-bit signed or unsigned range. -/
  | int (v : Int)
  | float (x : Double)
  | text (s : String)
  | timestamp
  /-- The key `<<` of a merge. -/
  | merge
deriving Repr, Inhabited

/-- The texts with a fixed meaning. -/
def fixedMeaning (s : String) : Option (String × Scalar) :=
  if s = "true" ∨ s = "True" ∨ s = "TRUE" then some (boolTag, .bool true)
  else if s = "false" ∨ s = "False" ∨ s = "FALSE" then some (boolTag, .bool false)
  else if s = "" ∨ s = "~" ∨ s = "null" ∨ s = "Null" ∨ s = "NULL" then some (nullTag, .null)
  else if s = ".nan" ∨ s = ".NaN" ∨ s = ".NAN" then some (floatTag, .float Double.nan)
  else if s = ".inf" ∨ s = ".Inf" ∨ s = ".INF" ∨ s = "+.inf" ∨ s = "+.Inf" ∨ s = "+.INF" then
    some (floatTag, .float Double.inf)
  else if s = "-.inf" ∨ s = "-.Inf" ∨ s = "-.INF" then some (floatTag, .float Double.negInf)
  else if s = "<<" then some (mergeTag, .merge)
  else none

/-- What the first character says a plain scalar may be: `sign`, `digit`, a word of
`fixedMeaning`, a float starting with `.`, or only text. -/
inductive Hint where
  | sign
  | digit
  | word
  | point
  | none
deriving DecidableEq

/-- The hint of a first character. -/
def hintOf (c : Char) : Hint :=
  if c = '+' ∨ c = '-' then .sign
  else if c.isDigit then .digit
  else if "yYnNtTfFoO~".contains c then .word
  else if c = '.' then .point
  else .none

/-- The value of a digit in a base. -/
def digitIn (base : Nat) (c : Char) : Option Nat :=
  let v := if c.isDigit then some (c.toNat - '0'.toNat)
    else if 'a' ≤ c ∧ c ≤ 'z' then some (c.toNat - 'a'.toNat + 10)
    else if 'A' ≤ c ∧ c ≤ 'Z' then some (c.toNat - 'A'.toNat + 10)
    else none
  v.bind fun d => if d < base then some d else none

/-- The digits of a base as a number; none for no digit or a character that is not one. -/
def digitsIn (base : Nat) (cs : List Char) : Option Nat :=
  if cs.isEmpty then none
  else cs.foldl (fun acc c => acc.bind fun n => (digitIn base c).map (n * base + ·)) (some 0)

/-- An unsigned integer with its base taken from its prefix: `0b`, `0o`, `0x` (in either
case), or octal after a leading `0`; none outside 64 bits. -/
def readUnsigned (cs : List Char) : Option Nat :=
  let n := match cs with
    | '0' :: b :: rest =>
      if rest.length ≥ 1 ∧ (b = 'b' ∨ b = 'B') then digitsIn 2 rest
      else if rest.length ≥ 1 ∧ (b = 'o' ∨ b = 'O') then digitsIn 8 rest
      else if rest.length ≥ 1 ∧ (b = 'x' ∨ b = 'X') then digitsIn 16 rest
      else digitsIn 8 (b :: rest)
    | ['0'] => some 0
    | _ => digitsIn 10 cs
  n.bind fun v => if v < Nat.pow 2 64 then some v else none

/-- A signed integer in the 64-bit range, with the bases of `readUnsigned`. -/
def readSigned (cs : List Char) : Option Int :=
  let (neg, body) := match cs with
    | '+' :: rest => (false, rest)
    | '-' :: rest => (true, rest)
    | _ => (false, cs)
  (readUnsigned body).bind fun v =>
    if neg then (if v ≤ Nat.pow 2 63 then some (-(v : Int)) else none)
    else if v < Nat.pow 2 63 then some v else none

/-- A signed integer in one base, without a base prefix. -/
def readSignedIn (base : Nat) (cs : List Char) : Option Int :=
  let (neg, body) := match cs with
    | '+' :: rest => (false, rest)
    | '-' :: rest => (true, rest)
    | _ => (false, cs)
  (digitsIn base body).bind fun v =>
    if neg then (if v ≤ Nat.pow 2 63 then some (-(v : Int)) else none)
    else if v < Nat.pow 2 63 then some v else none

/-- A binary or octal integer after a lowercase `0b` or `0o`, read once more with a sign
allowed after the prefix; `-0b` and `-0o` negate what follows. -/
def prefixedDigits (cs : List Char) : Option Int :=
  match cs with
  | '0' :: 'b' :: rest =>
    (readSignedIn 2 rest).orElse fun _ => (digitsIn 2 rest).bind fun v => if v < Nat.pow 2 64 then some v else none
  | '-' :: '0' :: 'b' :: rest => readSignedIn 2 ('-' :: rest)
  | '0' :: 'o' :: rest =>
    (readSignedIn 8 rest).orElse fun _ => (digitsIn 8 rest).bind fun v => if v < Nat.pow 2 64 then some v else none
  | '-' :: '0' :: 'o' :: rest => readSignedIn 8 ('-' :: rest)
  | _ => none

/-- Digits `0`-`9`, at least one: gives the rest after them. -/
def dropDigits (cs : List Char) : Option (List Char) :=
  match cs with
  | c :: _ => if c.isDigit then some (cs.dropWhile Char.isDigit) else none
  | [] => none

/-- Whether a text has the form of a decimal float: an optional sign, digits with an
optional point and fraction or a point with a fraction, and an optional exponent. -/
def decimalForm (s : String) : Bool :=
  let cs := match s.toList with
    | '+' :: rest | '-' :: rest => rest
    | cs => cs
  let afterMantissa : Option (List Char) := match cs with
    | '.' :: rest => dropDigits rest
    | _ => (dropDigits cs).map fun rest => match rest with
      | '.' :: frac => frac.dropWhile Char.isDigit
      | _ => rest
  match afterMantissa with
  | none => false
  | some rest => match rest with
    | [] => true
    | e :: exp =>
      if e = 'e' ∨ e = 'E' then
        let exp := match exp with
          | '+' :: r | '-' :: r => r
          | r => r
        match dropDigits exp with
        | some [] => true
        | _ => false
      else false

/-- A number of one or two digits, with the rest of the text. -/
def shortNumber (cs : List Char) : Option (Nat × List Char) :=
  match cs with
  | a :: b :: rest =>
    if a.isDigit then
      if b.isDigit then some ((a.toNat - 48) * 10 + (b.toNat - 48), rest)
      else some (a.toNat - 48, b :: rest)
    else none
  | [a] => if a.isDigit then some (a.toNat - 48, []) else none
  | [] => none

/-- The days of a month. -/
def daysIn (year month : Nat) : Nat :=
  if month = 2 then (if year % 4 = 0 ∧ (year % 100 ≠ 0 ∨ year % 400 = 0) then 29 else 28)
  else if month = 4 ∨ month = 6 ∨ month = 9 ∨ month = 11 then 30 else 31

/-- The clock time `h:m:s` with an optional fraction of seconds, with the rest. -/
def clockTime (cs : List Char) : Option (List Char) := do
  let (h, rest) ← shortNumber cs
  let rest ← match rest with
    | ':' :: r => some r
    | _ => none
  let (m, rest) ← shortNumber rest
  let rest ← match rest with
    | ':' :: r => some r
    | _ => none
  let (s, rest) ← shortNumber rest
  if h > 23 ∨ m > 59 ∨ s > 59 then none
  let rest := match rest with
    | c :: d :: r => if (c = '.' ∨ c = ',') ∧ d.isDigit then r.dropWhile Char.isDigit else c :: d :: r
    | r => r
  pure rest

/-- Whether a text is a timestamp: a date `yyyy-m-d`, alone, or followed by a time after
spaces, or after `T` or `t` with a zone `Z` or `±hh:mm` (an offset of up to 24 hours and
60 minutes). -/
def isTimestamp (s : String) : Bool :=
  let cs := s.toList
  let year := cs.takeWhile Char.isDigit
  let r := cs.dropWhile Char.isDigit
  if year.length ≠ 4 then false
  else match r with
    | '-' :: r =>
      (do
        let (month, r) ← shortNumber r
        let r ← match r with
          | '-' :: r => some r
          | _ => none
        let (day, r) ← shortNumber r
        let y := (digitsIn 10 year).getD 0
        if month < 1 ∨ month > 12 ∨ day < 1 ∨ day > daysIn y month then none
        match r with
        | [] => some true
        | ' ' :: r =>
          (clockTime (r.dropWhile (· = ' '))).bind fun rest => if rest.isEmpty then some true else none
        | t :: r =>
          if t = 'T' ∨ t = 't' then
            (clockTime r).bind fun rest => match rest with
              | ['Z'] => some true
              | sign :: h1 :: h2 :: ':' :: m1 :: m2 :: [] =>
                if (sign = '+' ∨ sign = '-') ∧ h1.isDigit ∧ h2.isDigit ∧ m1.isDigit ∧ m2.isDigit ∧
                    (h1.toNat - 48) * 10 + (h2.toNat - 48) ≤ 24 ∧ (m1.toNat - 48) * 10 + (m2.toNat - 48) ≤ 60 then
                  some true
                else none
              | _ => none
          else none).getD false
    | _ => false

/-- Whether a tag is one that texts resolve to. -/
def resolvableTag (tag : String) : Bool :=
  tag = "" ∨ tag = strTag ∨ tag = boolTag ∨ tag = intTag ∨ tag = floatTag ∨ tag = nullTag ∨ tag = timestampTag

/-- The tag and meaning a text resolves to, before checking it against an asked tag. -/
def resolveText (tag s : String) : String × Scalar :=
  let hint := match s.toList with
    | c :: _ => hintOf c
    | [] => .word
  if hint ≠ .none ∧ tag ≠ strTag ∧ tag ≠ binaryTag then
    match fixedMeaning s with
    | some r => r
    | none =>
      match hint with
      | .point =>
        match Double.read s with
        | .ok x => (floatTag, .float x)
        | .error _ => (strTag, .text s)
      | .sign | .digit =>
        if (tag = "" ∨ tag = timestampTag) ∧ isTimestamp s then (timestampTag, .timestamp)
        else
          let plain := String.ofList (s.toList.filter (· ≠ '_'))
          match readSigned plain.toList with
          | some v => (intTag, .int v)
          | none =>
            match readUnsigned plain.toList with
            | some v => (intTag, .int v)
            | none =>
              let asFloat : Option Double :=
                if decimalForm plain then
                  match Double.read plain with
                  | .ok x => some x
                  | .error _ => none
                else none
              match asFloat with
              | some x => (floatTag, .float x)
              | none =>
                match prefixedDigits plain.toList with
                | some v => (intTag, .int v)
                | none => (strTag, .text s)
      | _ => (strTag, .text s)
  else (strTag, .text s)

/-- What a scalar with a tag means, or the problem of a text that is not of its tag. -/
def resolve (tag s : String) : Except String (String × Scalar) :=
  let tag := shortTag tag
  if !resolvableTag tag then .ok (tag, .text s)
  else
    let (rtag, v) := resolveText tag s
    if tag = "" ∨ tag = rtag ∨ tag = strTag ∨ tag = binaryTag then .ok (rtag, v)
    else if tag = floatTag ∧ rtag = intTag then
      match v with
      | .int i =>
        if i < Int.pow 2 63 then .ok (floatTag, .float (Double.ofInt i))
        else .error ("cannot decode " ++ shortTag rtag ++ " `" ++ s ++ "` as a " ++ shortTag tag)
      | _ => .ok (rtag, v)
    else .error ("cannot decode " ++ shortTag rtag ++ " `" ++ s ++ "` as a " ++ shortTag tag)

end Yaml

end Timebox
