import Timebox.Program.Options

/-! # Translating bytes: `tr`

`tr SET1 SET2` writes its standard input with each byte of `SET1` replaced by the byte
at the same place in `SET2`; `-d` deletes the bytes of `SET1`, `-s` writes one byte for
each run of a byte of the last set given, `-c` takes the bytes that are not in `SET1`
(in the order of their values), and `-t` cuts `SET1` to the length of `SET2` instead of
lengthening `SET2` with its last byte.

A set is read in two steps. First the escapes: `\n` and the other letters of C, `\\`,
up to three octal digits (a third that would pass 255 is left out, with a warning), and a
backslash before another byte stands for that byte. Then the constructs, which escaped
bytes never begin or end: a range `a-z`, a class `[:alpha:]`, an equivalence `[=a=]`,
and a repeat `[c*n]` (`n` in octal when it begins with `0`) or `[c*]`, which in `SET2`
fills it up to the length of `SET1`.

When translating, a class in `SET2` may only be `[:upper:]` or `[:lower:]`, and it must
face `[:lower:]` or `[:upper:]` in `SET1`: the pair changes the case of every letter.
-/

namespace Timebox

namespace Program

namespace Translate

open Options (Spec)

/-- The options of `tr`, in the order the tool lists its long names. -/
def specs : List Spec :=
  [{ key := "c", letter := some 'c', long := some "complement" },
   { key := "d", letter := some 'd', long := some "delete" },
   { key := "s", letter := some 's', long := some "squeeze-repeats" },
   { key := "t", letter := some 't', long := some "truncate-set1" },
   { key := "help", long := some "help" },
   { key := "version", long := some "version" },
   { key := "c", letter := some 'C' },
   { key := "A", letter := some 'A' }]

/-- The character classes. -/
inductive CharClass where
  | alnum | alpha | blank | cntrl | digit | graph | lower | print | punct | space | upper | xdigit
deriving DecidableEq

/-- The class a name names. -/
def CharClass.ofName (name : String) : Option CharClass :=
  [("alnum", CharClass.alnum), ("alpha", .alpha), ("blank", .blank), ("cntrl", .cntrl),
   ("digit", .digit), ("graph", .graph), ("lower", .lower), ("print", .print), ("punct", .punct),
   ("space", .space), ("upper", .upper), ("xdigit", .xdigit)].lookup name

/-- Whether a byte is in a class, as in the C locale. -/
def CharClass.has (k : CharClass) (n : Nat) : Bool :=
  let upper := 65 ≤ n && n ≤ 90
  let lower := 97 ≤ n && n ≤ 122
  let digit := 48 ≤ n && n ≤ 57
  let graph := 33 ≤ n && n ≤ 126
  match k with
  | .alnum => upper || lower || digit
  | .alpha => upper || lower
  | .blank => n = 9 || n = 32
  | .cntrl => n < 32 || n = 127
  | .digit => digit
  | .graph => graph
  | .lower => lower
  | .print => 32 ≤ n && n ≤ 126
  | .punct => graph && !(upper || lower || digit)
  | .space => (9 ≤ n && n ≤ 13) || n = 32
  | .upper => upper
  | .xdigit => digit || (65 ≤ n && n ≤ 70) || (97 ≤ n && n ≤ 102)

/-- The bytes of a class, in order. -/
def CharClass.members (k : CharClass) : List Nat := (List.range 256).filter k.has

/-- A construct of a set. -/
inductive Piece where
  | byte (b : Nat)
  | range (lo hi : Nat)
  | cls (k : CharClass)
  | equiv (b : Nat)
  /-- A byte repeated; a count of zero is the repeat that fills the set. -/
  | repeated (b : Nat) (count : Nat)

/-- The number of bytes a construct stands for (none for the repeat that fills). -/
def Piece.size : Piece → Nat
  | .byte _ => 1
  | .range lo hi => hi + 1 - lo
  | .cls k => k.members.length
  | .equiv _ => 1
  | .repeated _ n => n

/-- Whether a construct is the repeat that fills. -/
def Piece.fills : Piece → Bool
  | .repeated _ 0 => true
  | _ => false

/-- A byte as error messages show it: itself when printable, else in octal. -/
def printable (b : Nat) : String :=
  if 32 ≤ b ∧ b ≤ 126 then String.singleton (Char.ofNat b)
  else
    let o := Nat.toDigits 8 b
    "\\" ++ String.ofList (List.replicate (3 - o.length) '0' ++ o)

/-- Bytes as error messages show them: escapes for the C letters, octal for the other
unprintable bytes. -/
def printableText (bs : List Nat) : String :=
  String.join <| bs.map fun b =>
    if b = 92 then "\\\\" else if b = 7 then "\\a" else if b = 8 then "\\b"
    else if b = 12 then "\\f" else if b = 10 then "\\n" else if b = 13 then "\\r"
    else if b = 9 then "\\t" else if b = 11 then "\\v" else printable b

/-- A byte of a set after its escapes are read, and whether it came from an escape. -/
abbrev Mark := Nat × Bool

/-- Reads the escapes of a set: the marked bytes and the warnings. -/
def unescape (name : String) : Nat → List UInt8 → List Mark × List String
  | 0, _ => ([], [])
  | _, [] => ([], [])
  | _, [0x5C] =>
    ([(92, false)], [name ++ ": warning: an unescaped backslash at end of string is not portable"])
  | fuel + 1, 0x5C :: c :: rest =>
    let more (marks : List Mark) (after : List UInt8) (ws : List String) : List Mark × List String :=
      let (xs, ws2) := unescape name fuel after
      (marks ++ xs, ws ++ ws2)
    if !Printf.isOctal c then more [(((Printf.letterEscape false c).getD c).toNat, true)] rest []
    else
      let d1 := c.toNat - 48
      match rest with
      | d :: rest2 =>
        if !Printf.isOctal d then more [(d1, true)] rest []
        else
          let v := 8 * d1 + (d.toNat - 48)
          match rest2 with
          | e :: rest3 =>
            if !Printf.isOctal e then more [(v, true)] rest2 []
            else if 8 * v + (e.toNat - 48) < 256 then more [(8 * v + (e.toNat - 48), true)] rest3 []
            else
              let three := String.ofList [Char.ofNat c.toNat, Char.ofNat d.toNat, Char.ofNat e.toNat]
              let two := String.ofList [Char.ofNat c.toNat, Char.ofNat d.toNat]
              more [(v, true)] rest2 [name ++ ": warning: the ambiguous octal escape \\" ++ three ++
                " is being\n\tinterpreted as the 2-byte sequence \\0" ++ two ++ ", " ++
                String.singleton (Char.ofNat e.toNat)]
          | [] => ([(v, true)], [])
      | [] => ([(d1, true)], [])
  | fuel + 1, b :: rest =>
    let (xs, ws) := unescape name fuel rest
    ((b.toNat, false) :: xs, ws)

/-- Whether a marked byte is a given character, not escaped. -/
def Mark.is (m : Mark) (c : Char) : Bool := m.1 = c.toNat && !m.2

/-- The place of the closing `:]` (or `=]`) from which a class or equivalence ends. -/
def closing (d : Char) (xs : List Mark) : Option Nat :=
  ((List.range xs.length).zip xs).findSome? fun (i, m) =>
    match xs[i + 1]? with
    | some n => if m.is d ∧ n.is ']' then some i else none
    | none => none

/-- Whether the marked bytes begin `*`, digits, `]`. -/
def starDigitsClose (xs : List Mark) : Bool :=
  match xs with
  | m :: rest =>
    m.is '*' &&
      (match rest.dropWhile (fun x => !x.2 && 48 ≤ x.1 && x.1 ≤ 57) with
      | n :: _ => n.is ']'
      | [] => false)
  | [] => false

/-- The value of the count of a repeat: octal when it begins with `0`, else decimal;
blanks and a `+` may lead. -/
def repeatCount? (ds : List Nat) : Option Nat :=
  let ds := ds.dropWhile fun d => d = 32 || (9 ≤ d && d ≤ 13)
  let ds := match ds with
    | 43 :: r => r
    | r => r
  let base := if ds.head? = some 48 then 8 else 10
  if ds.isEmpty ∨ !ds.all (fun d => 48 ≤ d ∧ d < 48 + base) then none
  else some (ds.foldl (fun v d => v * base + (d - 48)) 0)

/-- A repeat `[c*n]` after its `[`: the byte, the count and what follows the `]`; none when
the bytes are no repeat, an error when the count is not one. -/
def bracketRepeat (name : String) (xs : List Mark) : Option (Except String (Piece × List Mark)) :=
  match xs with
  | c :: star :: rest =>
    if !star.is '*' then none
    else
      let body := rest.takeWhile fun m => !m.2 && m.1 ≠ 93
      match rest.drop body.length with
      | close :: after =>
        if close.2 then none
        else if body.isEmpty then some (.ok (.repeated c.1 0, after))
        else
          match repeatCount? (body.map (·.1)) with
          | some n => some (.ok (.repeated c.1 n, after))
          | none => some (.error (name ++ ": invalid repeat count " ++
              Printf.quoteArg (printableText (body.map (·.1))) ++ " in [c*n] construct"))
      | [] => none
  | _ => none

/-- Reads the constructs of a set from its marked bytes. -/
def pieces (name : String) : Nat → List Mark → Except String (List Piece)
  | 0, xs => .ok (xs.map (.byte ·.1))
  | fuel + 1, xs =>
    if xs.length < 3 then .ok (xs.map (.byte ·.1))
    else
      match xs with
      | x :: y :: z :: rest =>
        let plainStep : Except String (List Piece) :=
          if y.is '-' then
            if z.1 < x.1 then
              .error (name ++ ": range-endpoints of '" ++ printable x.1 ++ "-" ++ printable z.1 ++
                "' are in reverse collating sequence order")
            else (pieces name fuel rest).map (.range x.1 z.1 :: ·)
          else (pieces name fuel (y :: z :: rest)).map (.byte x.1 :: ·)
        let tryRepeat : Except String (List Piece) :=
          match bracketRepeat name (y :: z :: rest) with
          | some (.ok (p, after)) => (pieces name fuel after).map (p :: ·)
          | some (.error e) => .error e
          | none => plainStep
        if !x.is '[' then plainStep
        else if y.is ':' ∨ y.is '=' then
          let inner := z :: rest
          match closing (if y.is ':' then ':' else '=') inner with
          | none => tryRepeat
          | some j =>
            let operand := inner.take j
            let after := inner.drop (j + 2)
            if operand.isEmpty then
              .error (name ++ (if y.is ':' then ": missing character class name '[::]'"
                else ": missing equivalence class character '[==]'"))
            else if y.is ':' then
              match CharClass.ofName (String.ofList (operand.map (Char.ofNat ·.1))) with
              | some k => (pieces name fuel after).map (.cls k :: ·)
              | none =>
                if starDigitsClose inner then tryRepeat
                else .error (name ++ ": invalid character class " ++
                  Printf.quoteArg (printableText (operand.map (·.1))))
            else
              match operand with
              | [b] => (pieces name fuel after).map (.equiv b.1 :: ·)
              | _ =>
                if starDigitsClose inner then tryRepeat
                else .error (name ++ ": " ++ printableText (operand.map (·.1)) ++
                  ": equivalence class operand must be a single character")
        else tryRepeat
      | _ => .ok (xs.map (.byte ·.1))

/-- The case a byte drawn from a set belongs to: drawn from `[:lower:]`, `[:upper:]`, or
neither. -/
inductive Case where
  | none | lower | upper
deriving DecidableEq

/-- Where a walk through a set stands: the constructs left and the state inside the first
(none when it is not begun). -/
structure Cursor where
  rest : List Piece
  state : Option Nat := none

/-- Draws the next byte of a set, with its case; none at the end. -/
def draw : List Piece → Option Nat → Option (Nat × Case) × Cursor
  | [], _ => (none, { rest := [] })
  | .byte b :: rest, _ => (some (b, .none), { rest })
  | .equiv b :: rest, _ => (some (b, .none), { rest })
  | .range lo hi :: rest, st =>
    let v := match st with
      | none => lo
      | some s => s + 1
    if v ≥ hi then (some (v, .none), { rest }) else (some (v, .none), { rest := .range lo hi :: rest, state := some v })
  | .cls k :: rest, st =>
    let ms := k.members
    let case : Case := if k = .lower then .lower else if k = .upper then .upper else .none
    let v := st.getD (ms.headD 0)
    match ms.find? (· > v) with
    | some w => (some (v, case), { rest := .cls k :: rest, state := some w })
    | none => (some (v, case), { rest })
  | .repeated b n :: rest, st =>
    if n = 0 then draw rest none
    else
      let k := st.getD 0 + 1
      if k ≥ n then (some (b, .none), { rest }) else (some (b, .none), { rest := .repeated b n :: rest, state := some k })

/-- Draws the next byte from a cursor. -/
def Cursor.next (c : Cursor) : Option (Nat × Case) × Cursor := draw c.rest c.state

/-- Leaves the construct a cursor is in. -/
def Cursor.skip (c : Cursor) : Cursor := { rest := c.rest.drop 1 }

/-- Whether a cursor stands at the start of a construct. -/
def Cursor.fresh (c : Cursor) : Bool := c.state.isNone

/-- All bytes of a set, in order. -/
def expand (ps : List Piece) : List Nat :=
  go (ps.foldl (fun n p => n + p.size + 1) 1) { rest := ps }
where
  go : Nat → Cursor → List Nat
    | 0, _ => []
    | fuel + 1, c =>
      match c.next with
      | (some (b, _), c) => b :: go fuel c
      | (none, _) => []

/-- The number of letters in a case class. -/
def caseSize (c : Case) : Nat := if c = .upper ∨ c = .lower then 26 else 1

/-- Checks that each `[:upper:]` or `[:lower:]` of the second set faces one of them in the
first, walking both together; gives the lengths of the sets with each such pair counted
once. -/
def alignCases (fuel : Nat) (s1 s2 : Cursor) (len1 len2 : Nat) (new1 new2 : Bool) :
    Option (Nat × Nat) :=
  match fuel with
  | 0 => some (len1, len2)
  | fuel + 1 =>
    let (c1, s1) := s1.next
    let (c2, s2) := s2.next
    let k1 := (c1.map (·.2)).getD .none
    let k2 := (c2.map (·.2)).getD .none
    if new2 ∧ k2 ≠ .none ∧ !(new1 ∧ k1 ≠ .none) then none
    else
      let (s1, s2, len1, len2) :=
        if k2 ≠ .none then (s1.skip, s2.skip, len1 - (caseSize k1 - 1), len2 - (caseSize k2 - 1))
        else (s1, s2, len1, len2)
      if c1.isNone ∨ c2.isNone then some (len1, len2)
      else alignCases fuel s1 s2 len1 len2 s1.fresh s2.fresh

/-- The table of a translation, from the two sets walked together. -/
def pairUp (fuel : Nat) (s1 s2 : Cursor) (table : Array Nat) : Array Nat :=
  match fuel with
  | 0 => table
  | fuel + 1 =>
    let (c1, s1) := s1.next
    let (c2, s2) := s2.next
    let k1 := (c1.map (·.2)).getD .none
    let k2 := (c2.map (·.2)).getD .none
    let lowers := CharClass.lower.members
    let uppers := CharClass.upper.members
    let step : Option (Array Nat) :=
      if k1 = .lower ∧ k2 = .upper then some (lowers.foldl (fun t b => t.setIfInBounds b (b - 32)) table)
      else if k1 = .upper ∧ k2 = .lower then some (uppers.foldl (fun t b => t.setIfInBounds b (b + 32)) table)
      else
        match c1, c2 with
        | some (a, _), some (b, _) => some (table.setIfInBounds a b)
        | _, _ => none
    match step with
    | none => table
    | some table =>
      if k2 ≠ .none then pairUp fuel s1.skip s2.skip table else pairUp fuel s1 s2 table

/-- Writes bytes with each run of a byte of a set written once. -/
def squeeze (set : List Nat) (bs : List UInt8) : List UInt8 :=
  (bs.foldl (fun (acc : List UInt8 × Option UInt8) b =>
    if acc.2 = some b ∧ set.contains b.toNat then acc else (b :: acc.1, some b)) ([], none)).1.reverse

/-- The bytes of a set, or of its complement. -/
def members (complement : Bool) (ps : List Piece) : List Nat :=
  let bs := expand ps
  if complement then (List.range 256).filter (!bs.contains ·) else bs

/-- The byte a set ends with, when it is lengthened: the last of its last construct. -/
def Piece.last : Piece → Nat
  | .byte b => b
  | .range _ hi => hi
  | .cls k => k.members.getLastD 0
  | .equiv b => b
  | .repeated b _ => b

/-- Whether every byte of a set is the same one (and there is one). -/
def homogeneous (ps : List Piece) : Bool :=
  match expand ps with
  | [] => false
  | b :: rest => rest.all (· = b)

end Translate

open Translate in
/-- `tr`. -/
def tr (inv : Invocation) : Effect :=
  match Options.scan inv.name 1 specs inv.args true with
  | .error e => e
  | .ok (settings, ops) =>
    let has (k : String) : Bool := Options.has settings k
    let (complement, delete, squeezing, truncate) := (has "c", has "d", has "s", has "t")
    let n := ops.length
    let translating := n = 2 ∧ !delete
    let least := if delete = squeezing then 2 else 1
    let most := if !delete || squeezing then 2 else 1
    if n < least then
      if n = 0 then usageError inv.name "missing operand"
      else
        { ((({} : Effect).complain (inv.name ++ ": missing operand after " ++ Printf.quoteArg (ops.getLastD "")))
          |>.complain (if squeezing then "Two strings must be given when both deleting and squeezing repeats."
            else "Two strings must be given when translating.")
          |>.complain (tryHelp inv.name)) with code := 1 }
    else if most < n then
      let e := ({} : Effect).complain (inv.name ++ ": extra operand " ++ Printf.quoteArg (ops.getD most ""))
      let e := if n = 2 then e.complain "Only one string may be given when deleting without squeezing repeats."
        else e
      { e.complain (tryHelp inv.name) with code := 1 }
    else
      let text1 := Raw.toBytes (ops.headD "")
      let (marks1, warn1) := unescape inv.name text1.length text1
      let warned := warn1.foldl Effect.complain {}
      match pieces inv.name (marks1.length + 1) marks1 with
      | .error m => { warned.complain m with code := 1 }
      | .ok set1 =>
        let text2 := Raw.toBytes (ops.getD 1 "")
        let (marks2, warn2) := unescape inv.name text2.length text2
        let warned := if n = 2 then warn2.foldl Effect.complain warned else warned
        match (if n = 2 then pieces inv.name (marks2.length + 1) marks2 else .ok []) with
        | .error m => { warned.complain m with code := 1 }
        | .ok set2 =>
          let failWith (msg : String) : Effect := { warned.complain (inv.name ++ ": " ++ msg) with code := 1 }
          let len1 := if complement then 256 - (expand set1).eraseDups.length
            else set1.foldl (fun t p => t + p.size) 0
          let fills2 := set2.filter Piece.fills
          let len2 := set2.foldl (fun t p => t + p.size) 0
          -- the repeat that fills takes what the second set lacks
          let (set2, len2) :=
            if len1 ≥ len2 ∧ fills2.length = 1 then
              (set2.map fun p => match p with
                | .repeated b 0 => .repeated b (len1 - len2)
                | p => p, len1)
            else (set2, len2)
          let isCls (p : Piece) : Bool := match p with
            | .cls _ => true
            | _ => false
          if set1.any Piece.fills then failWith "the [c*] repeat construct may not appear in string1"
          else if fills2.length > 1 then failWith "only one [c*] repeat construct may appear in string2"
          else if !translating then
            if n = 2 ∧ fills2.length > 0 then
              failWith "the [c*] construct may appear in string2 only when translating"
            else
              let input := inv.stdin
              if squeezing ∧ n = 1 then warned.put 1 (squeeze (members complement set1) input)
              else if n = 1 then
                let gone := members complement set1
                warned.put 1 (input.filter fun b => !gone.contains b.toNat)
              else
                let gone := members complement set1
                warned.put 1 (squeeze (expand set2) (input.filter fun b => !gone.contains b.toNat))
          else if set2.any (fun p => match p with
              | .equiv _ => true
              | _ => false) then
            failWith "[=c=] expressions may not appear in string2 when translating"
          else if set2.any (fun p => match p with
              | .cls k => k ≠ .upper ∧ k ≠ .lower
              | _ => false) then
            failWith "when translating, the only character classes that may appear in\nstring2 are 'upper' and 'lower'"
          else
            let fuel := len1 + len2 + set1.length + set2.length + 2
            let aligned := if complement ∨ !set2.any isCls then some (len1, len2)
              else alignCases fuel { rest := set1 } { rest := set2 } len1 len2 true true
            match aligned with
            | none => failWith "misaligned [:upper:] and/or [:lower:] construct"
            | some (len1, len2) =>
              let extended : Except String (List Piece) :=
                if len1 > len2 ∧ !truncate then
                  if len2 = 0 then .error "when not truncating set1, string2 must be non-empty"
                  else
                    match set2.getLast? with
                    | some (.cls _) => .error ("when translating with string1 longer than string2,\n" ++
                        "the latter string must not end with a character class")
                    | some p => .ok (set2 ++ [.repeated p.last (len1 - len2)])
                    | none => .ok set2
                else .ok set2
              match extended with
              | .error m => failWith m
              | .ok set2 =>
                let full2 := set2.foldl (fun t p => t + p.size) 0
                if complement ∧ set1.any isCls ∧ !(full2 = len1 ∧ homogeneous set2) then
                  failWith "when translating with complemented character classes,\nstring2 must map all characters in the domain to one"
                else
                  let identity := (List.range 256).toArray
                  let table :=
                    if complement then
                      let outside := members true set1
                      let targets := expand set2
                      (outside.zip targets).foldl (fun t (a, b) => t.setIfInBounds a b) identity
                    else pairUp fuel { rest := set1 } { rest := set2 } identity
                  let mapped := inv.stdin.map fun b => (table.getD b.toNat b.toNat).toUInt8
                  warned.put 1 (if squeezing then squeeze (expand set2) mapped else mapped)

end Program

end Timebox
