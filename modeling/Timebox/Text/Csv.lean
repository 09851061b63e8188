/-! # The first record of comma-separated values

`Csv.readFirst` reads the first record of a text of comma-separated values, as a list flag
reads its value:

* lines end at a line feed; a carriage return before one is dropped, and so is one that ends
  the text; lines with nothing but the line feed are skipped;
* a field that does not start with `"` runs to the next comma or the end of its line, and
  may not hold a `"`;
* a field that starts with `"` runs to the next lone `"`, across lines, and holds `""` as
  one `"`; the closing quote stands before a comma or the end of a line.

A failure names the line the record starts on, the line and the column (counted in bytes
from 1) of the fault, and its kind; a text with no record at all gives `EOF`.
-/

namespace Timebox

namespace Text

namespace Csv

/-- What is wrong in a record. -/
inductive Problem where
  | bareQuote
  | quote
deriving DecidableEq, Repr

/-- Why no first record can be read. -/
inductive Failure where
  | noRecord
  | parse (startLine line column : Nat) (problem : Problem)
deriving DecidableEq, Repr

/-- The words of a problem. -/
def Problem.message : Problem → String
  | .bareQuote => "bare \" in non-quoted-field"
  | .quote => "extraneous or missing \" in quoted-field"

/-- The message of a failure. -/
def Failure.message : Failure → String
  | .noRecord => "EOF"
  | .parse s l c p =>
    let core := "parse error on line " ++ toString l ++ ", column " ++ toString c ++ ": " ++ p.message
    if s = l then core else "record on line " ++ toString s ++ "; " ++ core

/-- The lines of a text, each with its line feed; `cur` holds the line read so far,
reversed. -/
def splitLines : List Char → List Char → List (List Char)
  | [], cur => if cur.isEmpty then [] else [cur.reverse]
  | c :: cs, cur =>
    if c = '\n' then ('\n' :: cur).reverse :: splitLines cs [] else splitLines cs (c :: cur)

/-- A line as it is read: a carriage return before its line feed is dropped, and so is one
that ends the last line. -/
def normalize (last : Bool) (line : List Char) : List Char :=
  match line.reverse with
  | '\n' :: '\r' :: rest => ('\n' :: rest).reverse
  | '\r' :: rest => if last then rest.reverse else line
  | _ => line

/-- The lines of a text as they are read. -/
def lines (s : String) : List (List Char) :=
  let ls := splitLines s.toList []
  (List.range ls.length).zip ls |>.map fun (i, l) => normalize (i + 1 = ls.length) l

/-- The width of characters in bytes. -/
def width (cs : List Char) : Nat := cs.foldl (fun n c => n + c.utf8Size) 0

/-- Where a reader stands: the rest of its line, the lines after it, how many lines it has
read, and the line and column of the next character. -/
structure Cursor where
  line : List Char
  more : List (List Char)
  read : Nat
  row : Nat
  col : Nat

/-- Reads the fields of a record that starts on line `start`, from a cursor, given the text
of the quoted field the cursor is inside, if it is inside one, and the fields read, last
first. -/
def fields (start : Nat) : Nat → Cursor → Option (List Char) → List String →
    Except Failure (List String)
  | 0, _, _, done => .ok done.reverse
  | fuel + 1, cur, none, done =>
    match cur.line with
    | '"' :: rest => fields start fuel { cur with line := rest, col := cur.col + 1 } (some []) done
    | line =>
      let field := line.takeWhile (· ≠ ',')
      let after := line.dropWhile (· ≠ ',')
      let field := if after.isEmpty ∧ field.getLast? = some '\n' then field.dropLast else field
      match field.findIdx? (· = '"') with
      | some j => .error (.parse start cur.read (cur.col + width (field.take j)) .bareQuote)
      | none =>
        match after with
        | _ :: rest =>
          fields start fuel { cur with line := rest, col := cur.col + width field + 1 } none
            (String.ofList field :: done)
        | [] => .ok (String.ofList field :: done).reverse
  | fuel + 1, cur, some text, done =>
    match cur.line.findIdx? (· = '"') with
    | some i =>
      let text := text ++ cur.line.take i
      let col := cur.col + width (cur.line.take i) + 1
      match cur.line.drop (i + 1) with
      | '"' :: rest => fields start fuel { cur with line := rest, col := col + 1 } (some (text ++ ['"'])) done
      | ',' :: rest => fields start fuel { cur with line := rest, col := col + 1 } none (String.ofList text :: done)
      | [] => .ok (String.ofList text :: done).reverse
      | ['\n'] => .ok (String.ofList text :: done).reverse
      | _ => .error (.parse start cur.read (col - 1) .quote)
    | none =>
      if cur.line.isEmpty then .error (.parse start cur.row cur.col .quote)
      else
        let text := text ++ cur.line
        let col := cur.col + width cur.line
        match cur.more with
        | next :: more =>
          fields start fuel { line := next, more, read := cur.read + 1, row := cur.row + 1, col := 1 }
            (some text) done
        | [] => fields start fuel { cur with line := [], read := cur.read + 1, col } (some text) done

/-- The first record of a text of comma-separated values. -/
def readFirst (s : String) : Except Failure (List String) :=
  let ls := lines s
  let blank := (ls.takeWhile (· = ['\n'])).length
  match ls.drop blank with
  | [] => .error .noRecord
  | line :: more =>
    fields (blank + 1) (2 * s.length + 4)
      { line, more, read := blank + 1, row := blank + 1, col := 1 } none []

end Csv

end Text

end Timebox
