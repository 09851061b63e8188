import Timebox.Text.UnicodeData

/-! # Character classes and simple case mapping

The tables of `Timebox.Text.UnicodeData` read into sorted arrays, and the questions asked of
them:

* `isPrint`: letters, marks, numbers, punctuation, symbols and the ASCII space;
* `isUpper`: the upper-case letters;
* `toUpper`, `toLower`: the simple (one character to one character) case mappings, the
  identity where a character has none;
* `foldKey`: the representative of a character's case class, so that two characters are
  equal under case folding exactly when their keys are equal. The key is the lower case of
  the upper case, which joins every character with its simple case variants (`K`, `k` and
  the Kelvin sign; `S`, `s` and the long s). The dotted capital I and the dotless small i
  are classes of their own: the lower case of the first and the upper case of the second
  lead out of the class of plain `i`/`I`, where folding does not follow them.

A range list is searched by halving, the case table likewise by code point.
-/

namespace Timebox

namespace Text

/-- The value of a hexadecimal digit; other characters count as zero. -/
def hexDigitValue (c : Char) : Nat :=
  if '0' ≤ c ∧ c ≤ '9' then c.toNat - '0'.toNat
  else if 'a' ≤ c ∧ c ≤ 'f' then c.toNat - 'a'.toNat + 10
  else if 'A' ≤ c ∧ c ≤ 'F' then c.toNat - 'A'.toNat + 10
  else 0

/-- A hexadecimal numeral. -/
def hexValue (s : String) : Nat := s.foldl (fun n c => n * 16 + hexDigitValue c) 0

/-- A signed decimal numeral; other characters count as zero digits. -/
def intValue (s : String) : Int :=
  match s.toList with
  | '-' :: ds => -((ds.foldl (fun n c => n * 10 + (c.toNat - '0'.toNat)) 0 : Nat) : Int)
  | ds => ((ds.foldl (fun n c => n * 10 + (c.toNat - '0'.toNat)) 0 : Nat) : Int)

/-- Reads a list of `lo-hi` or single hexadecimal code points, separated by commas. -/
def readRanges (s : String) : Array (Nat × Nat) :=
  (s.splitOn ",").foldl
    (fun acc part =>
      match part.splitOn "-" with
      | [a] => acc.push (hexValue a, hexValue a)
      | [a, b] => acc.push (hexValue a, hexValue b)
      | _ => acc)
    #[]

/-- Reads the case table into entries `(code point, upper offset, lower offset)`. -/
def readCaseTable (s : String) : Array (Nat × Int × Int) :=
  let step (st : Array (Nat × Int × Int) × Nat) (part : String) :=
    match part.splitOn " " with
    | [d, u, l] =>
      let c := st.2 + hexValue d
      (st.1.push (c, intValue u, intValue l), c)
    | _ => st
  ((s.splitOn ";").foldl step (#[], 0)).1

def printableRanges : Array (Nat × Nat) := readRanges printableRangesText

def upperRanges : Array (Nat × Nat) := readRanges upperRangesText

def caseTable : Array (Nat × Int × Int) := readCaseTable caseTableText

/-- Whether `n` lies in one of the sorted, disjoint ranges `rs[lo:hi]`. -/
def inRangesBetween (rs : Array (Nat × Nat)) (n lo hi : Nat) : Bool :=
  if lo < hi then
    let mid := (lo + hi) / 2
    let (a, b) := rs.getD mid (0, 0)
    if n < a then inRangesBetween rs n lo mid
    else if b < n then inRangesBetween rs n (mid + 1) hi
    else true
  else false
termination_by hi - lo

/-- Whether `n` lies in one of the sorted, disjoint ranges. -/
def inRanges (rs : Array (Nat × Nat)) (n : Nat) : Bool := inRangesBetween rs n 0 rs.size

/-- The case offsets of code point `n` in `caseTable[lo:hi]`, if it has an entry. -/
def caseEntryBetween (n lo hi : Nat) : Option (Int × Int) :=
  if lo < hi then
    let mid := (lo + hi) / 2
    let (c, u, l) := caseTable.getD mid (0, 0, 0)
    if n < c then caseEntryBetween n lo mid
    else if c < n then caseEntryBetween n (mid + 1) hi
    else some (u, l)
  else none
termination_by hi - lo

/-- The case offsets of a character, if it has a case mapping. -/
def caseEntry (c : Char) : Option (Int × Int) := caseEntryBetween c.toNat 0 caseTable.size

/-- The character at a code point moved by an offset. -/
def shiftChar (c : Char) (d : Int) : Char := Char.ofNat (c.toNat + d).toNat

def isPrint (c : Char) : Bool := inRanges printableRanges c.toNat

def isUpper (c : Char) : Bool := inRanges upperRanges c.toNat

def toUpper (c : Char) : Char :=
  match caseEntry c with
  | some (u, _) => shiftChar c u
  | none => c

def toLower (c : Char) : Char :=
  match caseEntry c with
  | some (_, l) => shiftChar c l
  | none => c

/-- The representative of the character's case class. -/
def foldKey (c : Char) : Char :=
  if c.toNat = 0x130 ∨ c.toNat = 0x131 then c else toLower (toUpper c)

/-- Whether two texts are equal under simple case folding, character by character. -/
def equalFold (s t : String) : Bool :=
  s.length = t.length ∧ (s.toList.zip t.toList).all fun (a, b) => foldKey a = foldKey b

end Text

end Timebox
