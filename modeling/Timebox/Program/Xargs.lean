import Timebox.Program.Options

/-! # The command lines of xargs

`xargs` builds command lines from the items of its input and runs them one after another.
This module reads its options and its input into a `Plan`: the command (`echo` when none
is given), the items of each command line, and the fault that stopped the reading, if one
did. Running the plan is the shell's work.

Items are read as follows:

* by default they are separated by blanks and line feeds; blanks and line feeds at the
  start of an item are skipped, `'…'` and `"…"` quote, and a backslash takes the next byte
  as it is; a quote still open at a line feed, or at the end with an item begun, is a fault
  (`unmatched single quote; …`);
* with `-0` or `-d c` they are separated by that byte alone, and may be empty;
* with `-I s` each line is one item, its leading blanks skipped, and each item makes one
  command line, with `s` replaced by the item in every argument of the command.

A command line takes at most `-n` items, or the items of at most `-L` lines (a line that
ends in a blank goes on into the next), else all of them. Without `-r` the command runs
once even with no items. The items read before a fault still run, then `xargs` stops.
-/

namespace Timebox

namespace Program

namespace Xargs

/-- How items are cut. -/
inductive Cut where
  | words
  | lines
  | delimiter (b : UInt8)
deriving DecidableEq, Repr

/-- An item, and whether it ended a line that counts for `-L`. -/
structure Item where
  bytes : List UInt8
  endsLine : Bool := false

/-- Where the reader of words stands. -/
inductive Lex where
  | space
  | norm
  | quote (q : UInt8)
  | escape
deriving DecidableEq, Repr

/-- Whether a byte is a blank. -/
def isBlank (b : UInt8) : Bool := b = 32 || b = 9

/-- Whether a byte is white space. -/
def isWhite (b : UInt8) : Bool := b = 32 || (9 ≤ b && b ≤ 13)

/-- The message of a quote left open. -/
def unmatched (q : UInt8) : String :=
  "unmatched " ++ (if q = 0x22 then "double" else "single") ++
    " quote; by default quotes are special to xargs unless you use the -0 option"

/-- Reads items separated by blanks and line feeds (only line feeds when `whole`), with
quotes and backslashes: the items, last first, then the fault that stopped the reading. -/
def readWords (whole : Bool) : Nat → Lex → List UInt8 → UInt8 → List UInt8 → List Item →
    List Item × Option String
  | 0, _, _, _, _, items => (items.reverse, none)
  | _, st, cur, _, [], items =>
    if cur.isEmpty then (items.reverse, none)
    else match st with
      | .quote q => (items.reverse, some (unmatched q))
      | _ => ((⟨cur.reverse, false⟩ :: items).reverse, none)
  | fuel + 1, st, cur, prev, c :: rest, items =>
    let normal (cur : List UInt8) : List Item × Option String :=
      if c = 10 then
        if cur.isEmpty then readWords whole fuel .space [] c rest items
        else readWords whole fuel .space [] c rest (⟨cur.reverse, !isBlank prev⟩ :: items)
      else if !whole ∧ isBlank c then readWords whole fuel .space [] c rest (⟨cur.reverse, false⟩ :: items)
      else if c = 0x5C then readWords whole fuel .escape cur c rest items
      else if c = 0x27 ∨ c = 0x22 then readWords whole fuel (.quote c) cur c rest items
      else readWords whole fuel .norm (c :: cur) c rest items
    match st with
    | .space => if isWhite c then readWords whole fuel .space cur c rest items else normal cur
    | .norm => normal cur
    | .quote q =>
      if c = 10 then (items.reverse, some (unmatched q))
      else if c = q then readWords whole fuel .norm cur c rest items
      else readWords whole fuel (.quote q) (c :: cur) c rest items
    | .escape => readWords whole fuel .norm (c :: cur) c rest items

/-- Items separated by one byte; the last needs no separator after it. -/
def readDelimited (d : UInt8) (bs : List UInt8) : List Item :=
  let parts := (bs.splitOn d)
  let parts := if parts.getLast? = some [] then parts.dropLast else parts
  parts.map fun p => ⟨p, true⟩

/-- The items of the input. -/
def items (cut : Cut) (bs : List UInt8) : List Item × Option String :=
  match cut with
  | .words => readWords false (bs.length + 1) .space [] 10 bs []
  | .lines => readWords true (bs.length + 1) .space [] 10 bs []
  | .delimiter d => (readDelimited d bs, none)

/-- Items gathered into command lines: a line is full at `maxItems` items or `maxLines`
lines. -/
def batches (maxItems maxLines : Option Nat) : Nat → List Item → List Item → Nat → List (List Item)
  | 0, _, cur, _ => if cur.isEmpty then [] else [cur]
  | _, [], cur, _ => if cur.isEmpty then [] else [cur]
  | fuel + 1, i :: rest, cur, lines =>
    let cur := cur ++ [i]
    let lines := if i.endsLine then lines + 1 else lines
    let full := (match maxItems with | some n => cur.length ≥ n | none => false) ||
      (match maxLines with | some n => lines ≥ n | none => false)
    if full then cur :: batches maxItems maxLines fuel rest [] 0
    else batches maxItems maxLines fuel rest cur lines

/-- What `xargs` does. -/
structure Plan where
  /-- The command and its own arguments. -/
  command : List String
  /-- The arguments of each command line after the command's own. -/
  lines : List (List String)
  /-- Whether each command line is written to the standard error first. -/
  trace : Bool
  /-- The fault that stopped the reading, told after the command lines run. -/
  fault : Option String

/-- The options of `xargs`. -/
def specs : List Options.Spec :=
  [{ key := "0", letter := some '0', long := some "null" },
   { key := "a", letter := some 'a', long := some "arg-file", value := true },
   { key := "d", letter := some 'd', long := some "delimiter", value := true },
   { key := "E", letter := some 'E', value := true },
   { key := "e", letter := some 'e', long := some "eof", optional := true },
   { key := "I", letter := some 'I', value := true },
   { key := "i", letter := some 'i', long := some "replace", optional := true },
   { key := "L", letter := some 'L', value := true },
   { key := "l", letter := some 'l', long := some "max-lines", optional := true },
   { key := "n", letter := some 'n', long := some "max-args", value := true },
   { key := "p", letter := some 'p', long := some "interactive" },
   { key := "r", letter := some 'r', long := some "no-run-if-empty" },
   { key := "s", letter := some 's', long := some "max-chars", value := true },
   { key := "t", letter := some 't', long := some "verbose" },
   { key := "x", letter := some 'x', long := some "exit" },
   { key := "P", letter := some 'P', long := some "max-procs", value := true },
   { key := "o", letter := some 'o', long := some "open-tty" }]

/-- The delimiter of `-d`: one byte, or a backslash escape. -/
def delimiter? (s : String) : Option UInt8 :=
  match Raw.toBytes s with
  | [b] => some b
  | [0x5C, b] =>
    if b = 0x6E then some 10 else if b = 0x74 then some 9 else if b = 0x30 then some 0
    else if b = 0x5C then some 0x5C else if b = 0x72 then some 13 else none
  | _ => none

/-- A count given to an option: digits, at least `least`. -/
def count? (name : String) (letter : Char) (least : Nat) (s : String) : Except String Nat :=
  if !s.isEmpty ∧ s.all Char.isDigit then
    let n := s.toNat!
    if n < least then
      .error (name ++ ": value " ++ s ++ " for -" ++ letter.toString ++ " option should be >= " ++ toString least)
    else .ok n
  else .error (name ++ ": invalid number \"" ++ s ++ "\" for -" ++ letter.toString ++ " option")

/-- Replaces every occurrence of a text in a text. -/
def replaceAll (s pat by_ : String) : String :=
  if pat.isEmpty then s else by_.intercalate (s.splitOn pat)

/-- Reads the options of `xargs` and its input (or the file of `-a`) into a plan, or the
effect of a wrong call. -/
def plan (inv : Invocation) : Except Effect Plan := do
  let (settings, ops) ← Options.scan inv.name 1 specs inv.args true
  let fail (msg : String) : Effect :=
    { (({} : Effect).complain msg).complain (tryHelp inv.name) with code := 1 }
  -- of `-n`, `-L` and `-I`, the last one given wins
  let sizing := (settings.filter fun s => ["n", "L", "l", "I", "i"].contains s.1).getLast?
  let replace : Option String := match sizing with
    | some ("I", v) => v
    | some ("i", v) => some (v.getD "\x7b\x7d")
    | _ => none
  let maxItems ← match sizing with
    | some ("n", some v) => match count? inv.name 'n' 1 v with
      | .ok n => pure (some n)
      | .error m => .error (fail m)
    | _ => pure none
  let maxLines ← match sizing with
    | some ("L", some v) => match count? inv.name 'L' 1 v with
      | .ok n => pure (some n)
      | .error m => .error (fail m)
    | some ("l", v) => match v with
      | some t => match count? inv.name 'l' 1 t with
        | .ok n => pure (some n)
        | .error m => .error (fail m)
      | none => pure (some 1)
    | _ => pure none
  let cut ← match (settings.filter fun s => s.1 = "0" ∨ s.1 = "d").getLast? with
    | some ("d", some v) => match delimiter? v with
      | some b => pure (Cut.delimiter b)
      | none => .error { ({} : Effect).complain (inv.name ++ ": invalid input delimiter specification " ++ v ++ ": the delimiter must be either a single character or an escape sequence starting with \\.") with code := 1 }
    | some _ => pure (Cut.delimiter 0)
    | none => pure (if replace.isSome then Cut.lines else Cut.words)
  let input ← match Options.last? settings "a" with
    | some f => match readOperand inv f with
      | .ok bs => pure bs
      | .error err => .error { ({} : Effect).complain (inv.name ++ ": " ++ Text.Quoting.shell f ++ ": " ++ errnoText err) with code := 1 }
    | none => pure inv.stdin
  let (found, fault) := items cut input
  let eof := (settings.filter fun s => s.1 = "E" ∨ s.1 = "e").getLast?.bind (·.2)
  let found := match eof with
    | some e => if e.isEmpty then found else found.takeWhile fun i => Raw.ofBytes i.bytes ≠ e
    | none => found
  let command := if ops.isEmpty then ["echo"] else ops
  let texts := fun (is : List Item) => is.map fun i => Raw.ofBytes i.bytes
  match replace with
  | some pat =>
    let lines := found.map fun i => (command.drop 1).map fun a => replaceAll a pat (Raw.ofBytes i.bytes)
    pure { command := command.take 1, lines, trace := Options.has settings "t" ∨ Options.has settings "p", fault }
  | none =>
    let groups := batches maxItems maxLines (found.length + 1) found [] 0
    let groups := if groups.isEmpty ∧ !Options.has settings "r" ∧ fault.isNone then [[]] else groups
    pure { command, lines := groups.map texts, trace := Options.has settings "t" ∨ Options.has settings "p", fault }

end Xargs

end Program

end Timebox
