import Timebox.Program.Tools
import Timebox.Text.Regex

/-! # Tools over lines

The tools of the base system that read their files (or input) as lines, in the C locale,
where bytes compare by their values:

* `sort` sorts lines: by the whole line, or by keys `-k F[.C][,G[.D]]` of fields split at
  `-t`'s byte (else at runs of blanks); `-n` compares leading numbers, `-f` folds letters
  to upper case, `-b` skips leading blanks, `-r` reverses, `-u` keeps the first of equal
  lines; lines equal by their keys compare as whole lines last;
* `uniq` writes one line of each run of equal adjacent lines, `-c` with the run's length,
  `-d` only repeated ones, `-u` only single ones, `-i` ignoring case;
* `cut` writes the bytes (`-b`, `-c`) or fields (`-f`, split at `-d`'s byte, a tab by
  default) of a list such as `1,3-5,7-` of each line;
* `tee` copies its input to its output and to files (appending with `-a`);
* `tac` writes the lines in reverse order, `rev` the bytes of each line;
* `yes` writes a line again and again (here as many times as a pipe holds).
-/

namespace Timebox

namespace Program

open Process
open Printf (quoteArg)

/-- Reads the operands of a tool, or its input when there are none: the bytes of each, and
the messages of those it cannot read. -/
def readAll (inv : Invocation) (ops : List String) : List (String × Except Errno (List UInt8)) :=
  (if ops.isEmpty then ["-"] else ops).map fun op => (op, readOperand inv op)

/-- Lines without their newlines; a last line need not end with one. -/
def plainLines (bs : List UInt8) : List (List UInt8) :=
  (linesOf bs).map fun l => if l.getLast? = some 10 then l.dropLast else l

/-- Whether a byte is a blank: a space or a tab. -/
def isBlankByte (b : UInt8) : Bool := b = 32 || b = 9

/-- Whether the bytes before `a` come before the bytes of `b`, byte by byte, a text
before those it starts. -/
def bytesLt : List UInt8 → List UInt8 → Bool
  | [], [] => false
  | [], _ :: _ => true
  | _ :: _, [] => false
  | x :: xs, y :: ys => if x < y then true else if y < x then false else bytesLt xs ys

/-- The order of two byte texts: less, equal or greater as −1, 0 or 1. -/
def bytesCompare (a b : List UInt8) : Int :=
  if bytesLt a b then -1 else if bytesLt b a then 1 else 0

/-! ### sort -/

/-- How a key of `sort` compares. -/
structure SortOrder where
  numeric : Bool := false
  fold : Bool := false
  blanks : Bool := false
  reverse : Bool := false
deriving Inhabited, DecidableEq

/-- A key of `sort`: from a field and a byte in it to a field and a byte (the end of the
line when none; byte 0 is the end of the field), with the order it compares by, when it
has one of its own. -/
structure SortKey where
  startField : Nat
  startByte : Nat := 1
  endField : Option Nat := none
  endByte : Nat := 0
  order : Option SortOrder := none
deriving Inhabited

/-- The settings of a call of `sort`. -/
structure SortOptions where
  order : SortOrder := {}
  unique : Bool := false
  stable : Bool := false
  separator : Option UInt8 := none
  keys : List SortKey := []
deriving Inhabited

/-- The fields of a line with where each starts and ends: split at the separator byte, or
each a run of blanks and the bytes up to the next blank. -/
def fieldSpans (sep : Option UInt8) (l : List UInt8) : List (Nat × Nat) :=
  match sep with
  | some s =>
    let (spans, start, _) := l.foldl (fun (acc : List (Nat × Nat) × Nat × Nat) b =>
      let (spans, start, i) := acc
      if b = s then (spans ++ [(start, i)], i + 1, i + 1) else (spans, start, i + 1)) ([], 0, 0)
    spans ++ [(start, l.length)]
  | none =>
    let (spans, start, _, _) := l.foldl (fun (acc : List (Nat × Nat) × Nat × Nat × Bool) b =>
      let (spans, start, i, inWord) := acc
      if isBlankByte b ∧ inWord then (spans ++ [(start, i)], i, i + 1, false)
      else (spans, start, i + 1, inWord || !isBlankByte b)) ([], 0, 0, false)
    spans ++ [(start, l.length)]

/-- The bytes of a key in a line. -/
def keyBytes (sep : Option UInt8) (order : SortOrder) (k : SortKey) (l : List UInt8) : List UInt8 :=
  let spans := fieldSpans sep l
  let fieldAt (f : Nat) : Option (Nat × Nat) := spans[f - 1]?
  let skipBlanks (i e : Nat) : Nat :=
    if order.blanks then i + (((l.drop i).take (e - i)).takeWhile isBlankByte).length else i
  let start := match fieldAt k.startField with
    | some (s, e) => min e (skipBlanks s e + (k.startByte - 1))
    | none => l.length
  let stop := match k.endField with
    | none => l.length
    | some f =>
      match fieldAt f with
      | some (s, e) => if k.endByte = 0 then e else min e (skipBlanks s e + k.endByte)
      | none => l.length
  (l.drop start).take (stop - start)

/-- The leading number of a text as `sort -n` reads it: whether it is below zero, its
integer digits without leading zeros, and its fraction digits without trailing zeros. -/
def leadingNumber (bs : List UInt8) : Bool × List UInt8 × List UInt8 :=
  let bs := bs.dropWhile isBlankByte
  let (neg, bs) := match bs with
    | 45 :: r => (true, r)
    | r => (false, r)
  let isDigit (b : UInt8) : Bool := 48 ≤ b ∧ b ≤ 57
  let int := (bs.takeWhile isDigit).dropWhile (· = 48)
  let rest := bs.dropWhile isDigit
  let frac := match rest with
    | 46 :: r => ((r.takeWhile isDigit).reverse.dropWhile (· = 48)).reverse
    | _ => []
  let zero := int.isEmpty ∧ frac.isEmpty
  (neg && !zero, int, frac)

/-- The order of two leading numbers. -/
def numberCompare (a b : List UInt8) : Int :=
  let (na, ia, fa) := leadingNumber a
  let (nb, ib, fb) := leadingNumber b
  let magnitude : Int :=
    if ia.length < ib.length then -1 else if ia.length > ib.length then 1
    else
      let c := bytesCompare ia ib
      if c ≠ 0 then c else bytesCompare fa fb
  if na ∧ !nb then -1 else if nb ∧ !na then 1
  else if na then -magnitude else magnitude

/-- The order of two keys by an order of comparing. -/
def keyCompare (order : SortOrder) (a b : List UInt8) : Int :=
  let c :=
    if order.numeric then numberCompare a b
    else
      let prep (x : List UInt8) : List UInt8 :=
        let x := if order.blanks then x.dropWhile isBlankByte else x
        if order.fold then x.map fun c => if 97 ≤ c ∧ c ≤ 122 then c - 32 else c else x
      bytesCompare (prep a) (prep b)
  if order.reverse then -c else c

/-- The order of two lines by the keys alone. -/
def linesByKeys (o : SortOptions) (a b : List UInt8) : Int :=
  match o.keys with
  | [] => keyCompare o.order a b
  | keys =>
    keys.foldl (fun c k =>
      if c ≠ 0 then c
      else
        let order := k.order.getD o.order
        keyCompare order (keyBytes o.separator order k a) (keyBytes o.separator order k b)) 0

/-- The order of two lines: by the keys, then as whole lines unless the sort is stable or
unique. -/
def lineCompare (o : SortOptions) (a b : List UInt8) : Int :=
  let c := linesByKeys o a b
  if c ≠ 0 ∨ o.stable ∨ o.unique then c
  else if o.order.reverse then bytesCompare b a else bytesCompare a b

/-- Reads the order letters after a key's position. -/
def orderLetters (o : SortOrder) : List Char → Option SortOrder
  | [] => some o
  | c :: rest =>
    if c = 'n' then orderLetters { o with numeric := true } rest
    else if c = 'f' then orderLetters { o with fold := true } rest
    else if c = 'b' then orderLetters { o with blanks := true } rest
    else if c = 'r' then orderLetters { o with reverse := true } rest
    else if c = 'd' ∨ c = 'i' ∨ c = 'g' ∨ c = 'h' ∨ c = 'M' ∨ c = 'V' then orderLetters o rest
    else none

/-- Reads one position of a key: its field, byte and order letters. -/
def keyPosition (s : List Char) : Option (Nat × Option Nat × List Char) :=
  let f := s.takeWhile Char.isDigit
  if f.isEmpty then none
  else
    let rest := s.drop f.length
    match rest with
    | '.' :: r =>
      let c := r.takeWhile Char.isDigit
      if c.isEmpty then none else some ((String.ofList f).toNat!, some (String.ofList c).toNat!, r.drop c.length)
    | r => some ((String.ofList f).toNat!, none, r)

/-- Reads a key definition `F[.C][opts][,G[.D][opts]]`. -/
def parseKey (def_ : String) : Option SortKey := do
  let (startText, endText) := match def_.splitOn "," with
    | [a] => (a, none)
    | [a, b] => (a, some b)
    | _ => ("", none)
  let (f, c, opts) ← keyPosition startText.toList
  let base : SortOrder := {}
  let order := if opts.isEmpty then none else orderLetters base opts
  guard (opts.isEmpty || order.isSome)
  guard (f ≠ 0 ∧ c ≠ some 0)
  let key : SortKey := { startField := f, startByte := c.getD 1, order }
  match endText with
  | none => some key
  | some e =>
    let (g, d, opts2) ← keyPosition e.toList
    let order2 := if opts2.isEmpty then key.order else (orderLetters (key.order.getD base) opts2)
    guard (g ≠ 0)
    some { key with endField := some g, endByte := d.getD 0, order := order2 }

/-- Reads the options of `sort`, wherever they stand, and its operands. -/
def sortArgs (name : String) : Nat → List String → SortOptions → List String → Except Effect (SortOptions × List String)
  | 0, rest, o, ops => .ok (o, ops ++ rest)
  | _, [], o, ops => .ok (o, ops)
  | fuel + 1, a :: rest, o, ops =>
    let fail (msg : String) : Except Effect (SortOptions × List String) :=
      .error { usageError name msg with code := 2 }
    if a = "--" then .ok (o, ops ++ rest)
    else if a = "-" ∨ !a.startsWith "-" then sortArgs name fuel rest o (ops ++ [a])
    else if a.startsWith "--" then
      let long := String.ofList (a.toList.drop 2)
      let sw (c : Char) : Except Effect (SortOptions × List String) :=
        match orderLetters o.order [c] with
        | some ord => sortArgs name fuel rest { o with order := ord } ops
        | none => fail ("unrecognized option '" ++ a ++ "'")
      if long = "numeric-sort" then sw 'n'
      else if long = "reverse" then sw 'r'
      else if long = "ignore-case" then sw 'f'
      else if long = "ignore-leading-blanks" then sw 'b'
      else if long = "unique" then sortArgs name fuel rest { o with unique := true } ops
      else if long = "stable" then sortArgs name fuel rest { o with stable := true } ops
      else fail ("unrecognized option '" ++ a ++ "'")
    else
      let rec cluster : List Char → SortOptions → List String → Except Effect (SortOptions × List String)
        | [], o, rest => .ok (o, rest)
        | c :: more, o, rest =>
          if c = 'k' ∨ c = 't' ∨ c = 'o' ∨ c = 'S' ∨ c = 'T' then
            let (value, rest) : Option String × List String :=
              if !more.isEmpty then (some (String.ofList more), rest)
              else match rest with
                | v :: r => (some v, r)
                | [] => (none, rest)
            match value with
            | none => .error { usageError name ("option requires an argument -- '" ++ c.toString ++ "'") with code := 2 }
            | some v =>
              if c = 'k' then
                match parseKey v with
                | some k => .ok ({ o with keys := o.keys ++ [k] }, rest)
                | none => .error { ({} : Effect).complain (name ++ ": invalid number at field start: invalid count at start of " ++ quoteArg v) with code := 2 }
              else if c = 't' then
                match Raw.toBytes v with
                | [b] => .ok ({ o with separator := some b }, rest)
                | [] => .error { ({} : Effect).complain (name ++ ": empty tab") with code := 2 }
                | _ => .error { ({} : Effect).complain (name ++ ": multi-character tab " ++ quoteArg v) with code := 2 }
              else .ok (o, rest)
          else if c = 'u' then cluster more { o with unique := true } rest
          else if c = 's' then cluster more { o with stable := true } rest
          else
            match orderLetters o.order [c] with
            | some ord => cluster more { o with order := ord } rest
            | none => .error { usageError name ("invalid option -- '" ++ c.toString ++ "'") with code := 2 }
      match cluster (a.toList.drop 1) o rest with
      | .ok (o, rest') => sortArgs name fuel rest' o ops
      | .error e => .error e

/-- The `sort` of the core tools. -/
def sort (inv : Invocation) : Effect :=
  match sortArgs inv.name (inv.args.length + 1) inv.args {} [] with
  | .error e => e
  | .ok (o, ops) =>
    let read := readAll inv ops
    match read.find? (·.2 matches .error _) with
    | some (op, .error err) =>
      { ({} : Effect).complain (inv.name ++ ": cannot read: " ++ Text.Quoting.shell op ++ ": " ++ errnoText err) with code := 2 }
    | _ =>
      let lines := read.flatMap fun (_, r) => match r with
        | .ok bs => plainLines bs
        | .error _ => []
      let sorted := lines.mergeSort fun a b => decide (lineCompare o a b ≤ 0)
      let kept := if o.unique then
          (sorted.foldl (fun (acc : List (List UInt8) × Option (List UInt8)) l =>
            match acc.2 with
            | some prev => if linesByKeys o prev l = 0 then acc else (acc.1 ++ [l], some l)
            | none => (acc.1 ++ [l], some l)) ([], none)).1
        else sorted
      ({} : Effect).put 1 (kept.flatMap (· ++ [10]))

/-! ### uniq -/

/-- The `uniq` of the core tools. -/
def uniq (inv : Invocation) : Effect :=
  let (opts, ops) := splitOptions inv.args
  let opts := opts.map fun o => if o = "--count" then "c" else if o = "--repeated" then "d"
    else if o = "--unique" then "u" else if o = "--ignore-case" then "i" else o
  match badOption inv.name ["c", "d", "u", "i"] opts with
  | some e => e
  | none =>
    match ops with
    | _ :: _ :: x :: _ => usageError inv.name ("extra operand " ++ quoteArg x)
    | _ =>
      match readOperand inv (ops.headD "-") with
      | .error err =>
        { ({} : Effect).complain (inv.name ++ ": " ++ Text.Quoting.shell (ops.headD "-") ++ ": " ++ errnoText err) with
          code := 1 }
      | .ok bs =>
        let same (a b : List UInt8) : Bool :=
          if opts.contains "i" then a.map Regex.lower = b.map Regex.lower else a = b
        let runs := (plainLines bs).foldl (fun (acc : List (List UInt8 × Nat)) l =>
          match acc.getLast? with
          | some (prev, n) => if same prev l then acc.dropLast ++ [(prev, n + 1)] else acc ++ [(l, 1)]
          | none => [(l, 1)]) []
        let runs := runs.filter fun (_, n) =>
          (!opts.contains "d" || n > 1) && (!opts.contains "u" || n = 1)
        let out := runs.flatMap fun (l, n) =>
          let count := if opts.contains "c" then
              let s := toString n
              bytesOf (String.ofList (List.replicate (7 - s.length) ' ') ++ s ++ " ")
            else []
          count ++ l ++ [10]
        ({} : Effect).put 1 out

/-! ### cut -/

/-- Reads a list of `cut`: ranges from a first to a last position (none: to the end). -/
def cutList (s : String) : Except String (List (Nat × Option Nat)) :=
  (s.splitOn ",").mapM fun part =>
    let num (t : String) : Except String Nat :=
      if t.all Char.isDigit ∧ !t.isEmpty then
        if t.toNat! = 0 then .error "fields and positions are numbered from 1" else .ok t.toNat!
      else .error "invalid byte, character or field list"
    match part.splitOn "-" with
    | [a] => do let n ← num a; pure (n, some n)
    | [a, b] =>
      if a.isEmpty ∧ b.isEmpty then .error "invalid range with no endpoint: -"
      else do
        let lo ← if a.isEmpty then pure 1 else num a
        let hi ← if b.isEmpty then pure none else some <$> num b
        if (hi.map fun h => decide (h < lo)).getD false then .error "invalid decreasing range" else pure (lo, hi)
    | _ => .error "invalid byte, character or field list"

/-- The parts of bytes between the separator bytes. -/
def splitAtByte (sep : UInt8) (bs : List UInt8) : List (List UInt8) :=
  let (parts, cur) := bs.foldl (fun (acc : List (List UInt8) × List UInt8) b =>
    if b = sep then (acc.1 ++ [acc.2], []) else (acc.1, acc.2 ++ [b])) ([], [])
  parts ++ [cur]

/-- Whether a position is in a list of `cut`. -/
def inCutList (ranges : List (Nat × Option Nat)) (i : Nat) : Bool :=
  ranges.any fun (lo, hi) => lo ≤ i ∧ (hi.map fun h => decide (i ≤ h)).getD true

/-- The `cut` of the core tools. -/
def cut (inv : Invocation) : Effect :=
  let rec scan : Nat → List String → List (Char × String) → List String → Option String × List (Char × String) × List String
    | 0, _, acc, ops => (none, acc, ops)
    | _, [], acc, ops => (none, acc, ops)
    | fuel + 1, a :: rest, acc, ops =>
      if a = "--" then (none, acc, ops ++ rest)
      else if a = "-s" ∨ a = "--only-delimited" then scan fuel rest (acc ++ [('s', "")]) ops
      else if a = "--complement" then scan fuel rest (acc ++ [('C', "")]) ops
      else if a.startsWith "--output-delimiter=" then scan fuel rest (acc ++ [('O', String.ofList (a.toList.drop 19))]) ops
      else if a.startsWith "-" ∧ a.length > 1 ∧ !a.startsWith "--" then
        let c := (a.toList.drop 1).headD ' '
        if "bcfd".contains c then
          if a.length > 2 then scan fuel rest (acc ++ [(c, String.ofList (a.toList.drop 2))]) ops
          else match rest with
            | v :: more => scan fuel more (acc ++ [(c, v)]) ops
            | [] => (some ("option requires an argument -- '" ++ c.toString ++ "'"), acc, ops)
        else if c = 's' ∨ c = 'n' then scan fuel rest (acc ++ [(c, "")]) ops
        else (some ("invalid option -- '" ++ c.toString ++ "'"), acc, ops)
      else if a.startsWith "--" then (some ("unrecognized option '" ++ a ++ "'"), acc, ops)
      else scan fuel rest acc (ops ++ [a])
  match scan (inv.args.length + 1) inv.args [] [] with
  | (some msg, _, _) => usageError inv.name msg
  | (none, opts, ops) =>
    let lists := opts.filter fun (c, _) => c = 'b' ∨ c = 'c' ∨ c = 'f'
    let delim := (opts.filter (·.1 = 'd')).getLast?.map (·.2)
    match lists with
    | [] => usageError inv.name "you must specify a list of bytes, characters, or fields"
    | _ :: _ :: _ => usageError inv.name "only one list may be specified"
    | [(kind, text)] =>
      match cutList text with
      | .error msg => usageError inv.name msg
      | .ok ranges =>
        let delimBytes := (delim.map Raw.toBytes).getD [9]
        if delimBytes.length ≠ 1 then usageError inv.name "the delimiter must be a single character"
        else if delim.isSome ∧ kind ≠ 'f' then
          usageError inv.name "an input delimiter may be specified only when operating on fields"
        else
          let d := delimBytes.headD 9
          let complement := opts.any (·.1 = 'C')
          let onlyDelimited := opts.any (·.1 = 's')
          let outDelim : Option (List UInt8) := (opts.filter (·.1 = 'O')).getLast?.map fun (_, v) => Raw.toBytes v
          let picked (i : Nat) : Bool := inCutList ranges i != complement
          let cutLine (l : List UInt8) : Option (List UInt8) :=
            if kind = 'f' then
              if !l.contains d then (if onlyDelimited then none else some l)
              else
                let fields := (splitAtByte d l).zipIdx.filter fun (_, i) => picked (i + 1)
                some ((outDelim.getD [d]).intercalate (fields.map (·.1)))
            else
              let kept := l.zipIdx.filter fun (_, i) => picked (i + 1)
              match outDelim with
              | none => some (kept.map (·.1))
              | some od =>
                let (out, _) := kept.foldl (fun (acc : List UInt8 × Option Nat) (b, i) =>
                  match acc.2 with
                  | some j => if i = j + 1 then (acc.1 ++ [b], some i) else (acc.1 ++ od ++ [b], some i)
                  | none => ([b], some i)) ([], none)
                some out
          (readAll inv ops).foldl (fun (e : Effect) (op, r) =>
            match r with
            | .error err => { e.complain (inv.name ++ ": " ++ Text.Quoting.shell op ++ ": " ++ errnoText err) with code := 1 }
            | .ok bs => e.put 1 ((plainLines bs).flatMap fun l => match cutLine l with
                | some out => out ++ [10]
                | none => [])) {}

/-! ### tee, tac, yes -/

/-- The `tee` of the core tools: the input to the output and to each file. -/
def tee (inv : Invocation) : Effect :=
  let (opts, ops) := splitOptions inv.args
  let opts := opts.map fun o => if o = "--append" then "a" else if o = "--ignore-interrupts" then "i" else o
  match badOption inv.name ["a", "i", "p"] opts with
  | some e => e
  | none =>
    let append := opts.contains "a"
    let (e, disk) := ops.foldl (fun (acc : Effect × Disk) f =>
      let (e, d) := acc
      match (inv.cwd.resolve f).stream? with
      | some fd => (if fd = 0 then e else e.put fd inv.stdin, d)
      | none =>
        match d.write (inv.cwd.resolve f) inv.stdin append with
        | .ok d => (e, d)
        | .error err =>
          ({ e.complain (inv.name ++ ": " ++ Text.Quoting.shell f ++ ": " ++ errnoText err) with code := 1 }, d)) ({}, inv.disk)
    let out := ({} : Effect).put 1 inv.stdin
    { out with writes := out.writes ++ e.writes, code := e.code, disk := some disk }

/-- The `tac` of the core tools. -/
def tac (inv : Invocation) : Effect :=
  (readAll inv (splitOptions inv.args).2).foldl (fun (e : Effect) (op, r) =>
    match r with
    | .error err =>
      { e.complain (inv.name ++ ": failed to open " ++ Text.Quoting.shellAlways op ++ " for reading: " ++ errnoText err) with
        code := 1 }
    | .ok bs => e.put 1 (linesOf bs).reverse.flatten) {}

/-- The `rev` of the base system: each line with its bytes in reverse order, its line
feed kept at its end. -/
def rev (inv : Invocation) : Effect :=
  let (_, ops) := splitOptions inv.args
  (readAll inv ops).foldl (fun (e : Effect) (op, r) =>
    match r with
    | .error err =>
      { e.complain (inv.name ++ ": cannot open " ++ op ++ ": " ++ errnoText err) with code := 1 }
    | .ok bs =>
      e.put 1 ((linesOf bs).flatMap fun l =>
        if l.getLast? = some 10 then l.dropLast.reverse ++ [10] else l.reverse)) {}

/-- How many lines `yes` writes before the reader of its pipe is taken to stop. -/
def yesLines : Nat := 32768

/-- The `yes` of the core tools. -/
def yes (inv : Invocation) : Effect :=
  let line := bytesOf ((if inv.args.isEmpty then "y" else " ".intercalate inv.args) ++ "\n")
  ({} : Effect).put 1 (List.replicate yesLines line).flatten

end Program

end Timebox
