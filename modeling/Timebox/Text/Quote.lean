import Timebox.Text.Unicode

/-! # Quoted string and character literals

`quote` writes a text as a double-quoted literal that reads back as the same text:

* the quote and the backslash get a backslash;
* printable characters (`Text.isPrint`) stand for themselves;
* the bell, backspace, form feed, line feed, carriage return, tab and vertical tab get their
  one-letter escapes `\a \b \f \n \r \t \v`;
* other characters below the space, and the delete character, are written `\xNN`;
* any other character is written `\uNNNN`, or `\UNNNNNNNN` beyond the basic plane.

All hexadecimal digits are lower case. `quoteChar` writes a single-quoted character literal by
the same rules, with the single quote escaped in place of the double quote. The `ascii`
variants keep only printable ASCII characters and escape every other one.

`canBackquote` tells whether a text can stand between backquotes as it is: no control
character but the tab, no backquote, no delete character and no byte order mark.
-/

namespace Timebox

namespace Text

/-- The lower-case hexadecimal digits of `n`, padded with zeros to `width`. -/
def hexPadded (n width : Nat) : String :=
  let ds := Nat.toDigits 16 n
  String.ofList (List.replicate (width - ds.length) '0' ++ ds)

/-- One character inside a literal delimited by `delim`; with `ascii` only printable ASCII
characters stand for themselves. -/
def escapeWith (ascii : Bool) (delim : Char) (c : Char) : String :=
  if c = delim ∨ c = '\\' then String.ofList ['\\', c]
  else if (if ascii then c.toNat < 0x80 ∧ isPrint c else isPrint c) then c.toString
  else if c.toNat = 7 then "\\a"
  else if c.toNat = 8 then "\\b"
  else if c.toNat = 12 then "\\f"
  else if c = '\n' then "\\n"
  else if c = '\r' then "\\r"
  else if c = '\t' then "\\t"
  else if c.toNat = 11 then "\\v"
  else if c.toNat < 0x20 ∨ c.toNat = 0x7f then "\\x" ++ hexPadded c.toNat 2
  else if c.toNat < 0x10000 then "\\u" ++ hexPadded c.toNat 4
  else "\\U" ++ hexPadded c.toNat 8

/-- One character inside a literal delimited by `delim`. -/
def escapeFor (delim : Char) (c : Char) : String := escapeWith false delim c

/-- A double-quoted literal of the text. -/
def quote (s : String) : String :=
  "\"" ++ String.join (s.toList.map (escapeFor '"')) ++ "\""

/-- A double-quoted literal of the text in printable ASCII. -/
def quoteAscii (s : String) : String :=
  "\"" ++ String.join (s.toList.map (escapeWith true '"')) ++ "\""

/-- A single-quoted literal of the character. -/
def quoteChar (c : Char) : String :=
  "'" ++ escapeFor (Char.ofNat 39) c ++ "'"

/-- A single-quoted literal of the character in printable ASCII. -/
def quoteCharAscii (c : Char) : String :=
  "'" ++ escapeWith true (Char.ofNat 39) c ++ "'"

/-- Whether the text can be written between backquotes unchanged. -/
def canBackquote (s : String) : Bool :=
  s.toList.all fun c =>
    c.toNat ≠ 0xfeff ∧ (c.toNat ≥ 0x20 ∨ c = '\t') ∧ c.toNat ≠ 0x60 ∧ c.toNat ≠ 0x7f

end Text

end Timebox
