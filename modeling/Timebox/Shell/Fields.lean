import Timebox.Shell.Pattern
import Timebox.Process.Basic

/-! # Fields of an expanded word

A word expands to a list of `Bit`s: characters, each marked with whether it was quoted
(so that it matches only itself in a pattern) and whether it came out of an unquoted
expansion (so that field splitting may cut there); `mark` keeps a field that would
otherwise be empty (`""`), and `cut` is a field boundary (between the parameters of
`"$@"`). `Bit.fields` splits them by the separators of `IFS` as POSIX asks: blanks of
`IFS` run together and vanish at the ends, each other separator ends a field, empty or
not. `expandGlob` replaces a field with an unquoted `*`, `?` or `[` by the names of the
working tree it matches, in byte order, when there are any.
-/

namespace Timebox

namespace Shell

open Process

/-- A piece of an expanded word. -/
inductive Bit where
  | char (c : Char) (quoted : Bool) (split : Bool)
  /-- Something quoted stood here, so the field exists even when empty. -/
  | mark
  /-- A field ends here. -/
  | cut
deriving DecidableEq, Repr, Inhabited

/-- The bits of a text: quoted or not, from an expansion or not. -/
def Bit.ofText (s : String) (quoted split : Bool) : List Bit :=
  (if quoted then [Bit.mark] else []) ++ s.toList.map fun c => .char c quoted split

/-- The text of bits, field boundaries dropped. -/
def Bit.text (bs : List Bit) : String :=
  String.ofList (bs.filterMap fun | .char c _ _ => some c | _ => none)

/-- The pattern of bits. -/
def Bit.pattern (bs : List Bit) : Pattern :=
  bs.filterMap fun | .char c q _ => some (c, q) | _ => none

/-- Whether a character is a blank of the separators. -/
def isBlankSeparator (c : Char) : Bool := c = ' ' || c = '\t' || c = '\n'

/-- The state of splitting: the fields so far, the one being built, whether it exists yet,
and whether a blank separator just ended a field. -/
structure Splitting where
  done : List Pattern := []
  current : Pattern := []
  live : Bool := false
  afterBlank : Bool := false

/-- Splitting with the field being built ended. -/
def Splitting.close (s : Splitting) : Splitting :=
  { done := s.done ++ [s.current], current := [], live := false, afterBlank := false }

/-- One bit through splitting with the separators. -/
def Splitting.step (ifs : List Char) (s : Splitting) : Bit → Splitting
  | .mark => { s with live := true }
  | .cut => if s.live then s.close else s
  | .char c q sp =>
    if sp && ifs.contains c then
      if isBlankSeparator c then
        if s.live then { s.close with afterBlank := true } else s
      else if s.live then s.close
      else if s.afterBlank then { s with afterBlank := false }
      else s.close
    else { s with current := s.current ++ [(c, q)], live := true, afterBlank := false }

/-- The fields of bits, split by the separators. -/
def Bit.fields (ifs : List Char) (bs : List Bit) : List Pattern :=
  let s := bs.foldl (Splitting.step ifs) {}
  if s.live then s.close.done else s.done

/-- Whether a name is matched by a component of a pattern: a leading dot only by a dot. -/
def componentMatches (p : Pattern) (name : String) : Bool :=
  if name.startsWith "." ∧ (p.head?.map (·.1) ≠ some '.') then false else p.matches name

/-- Inserts a text into a sorted list. -/
def insertSorted (s : String) : List String → List String
  | [] => [s]
  | t :: ts => if s < t then s :: t :: ts else t :: insertSorted s ts

/-- The paths of the working tree that pattern components match below a directory, written
after a prefix. -/
def globIn (d : Disk) : List Pattern → List String → String → List String
  | [], _, pre => [pre]
  | [c], dir, pre =>
    if c.isGlob then
      ((d.children dir).filter (componentMatches c ·)).map (pre ++ ·)
    else
      let n := String.ofList (c.map (·.1))
      match d.kind (.tree (dir ++ [n])) with
      | .missing | .throughFile => []
      | _ => [pre ++ n]
  | c :: rest, dir, pre =>
    if c.isEmpty then globIn d rest dir (pre ++ "/")
    else if c.isGlob then
      ((d.children dir).filter (componentMatches c ·)).filter (fun n => d.isDirectory (.tree (dir ++ [n])))
        |>.flatMap fun n => globIn d rest (dir ++ [n]) (pre ++ n ++ "/")
    else
      let n := String.ofList (c.map (·.1))
      globIn d rest (dir ++ [n]) (pre ++ n ++ "/")

/-- Splits a pattern at its slashes. -/
def splitSlashes (p : Pattern) : List Pattern :=
  (p.foldl (fun (acc : List Pattern) (c, q) =>
    if c = '/' then acc ++ [[]] else acc.dropLast ++ [(acc.getLastD []) ++ [(c, q)]]) [[]])

/-- A field after pathname expansion: the sorted paths it matches in the working tree of
the current directory, or itself when it matches none or has no pattern. -/
def expandGlob (d : Disk) (cwd : Place) (f : Pattern) : List String :=
  let text := String.ofList (f.map (·.1))
  if !f.isGlob then [text]
  else
    match cwd with
    | .tree base =>
      if f.head?.map (·.1) = some '/' then [text]
      else
        let found := globIn d (splitSlashes f) base ""
        if found.isEmpty then [text] else found.foldl (fun acc s => insertSorted s acc) []
    | .system _ => [text]

/-- A value without its shortest or longest prefix (or suffix) that a pattern matches. -/
def dropAffix (p : Pattern) (suffix longest : Bool) (v : String) : String :=
  let cs := v.toList
  let cuts := List.range (cs.length + 1)
  let order := if longest then cuts.reverse else cuts
  let found := order.find? fun k =>
    if suffix then p.matches (String.ofList (cs.drop (cs.length - k))) else p.matches (String.ofList (cs.take k))
  match found with
  | some k => if suffix then String.ofList (cs.take (cs.length - k)) else String.ofList (cs.drop k)
  | none => v

/-- The fields `read` gives its names from a line: split by the separators, the last name
taking the rest of the line, separator blanks at its ends dropped. The characters marked
true were escaped and separate nothing. -/
def readFields (ifs : List Char) (line : List (Char × Bool)) : Nat → List String
  | 0 => []
  | 1 =>
    let trimmed := (line.dropWhile fun (c, e) => !e && ifs.contains c && isBlankSeparator c)
    let back := (trimmed.reverse.dropWhile fun (c, e) => !e && ifs.contains c && isBlankSeparator c).reverse
    [String.ofList (back.map (·.1))]
  | n + 2 =>
    let rest := line.dropWhile fun (c, e) => !e && ifs.contains c && isBlankSeparator c
    let word := rest.takeWhile fun (c, e) => e || !ifs.contains c
    let after := rest.drop word.length
    -- one separator that is not a blank may follow, with blanks around it
    let after := after.dropWhile fun (c, e) => !e && ifs.contains c && isBlankSeparator c
    let after := match after with
      | (c, false) :: more => if ifs.contains c && !isBlankSeparator c then more else after
      | _ => after
    String.ofList (word.map (·.1)) :: readFields ifs after (n + 1)

end Shell

end Timebox
