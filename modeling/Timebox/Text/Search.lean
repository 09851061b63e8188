/-! # Searching and cutting texts

* `firstIndex s sep`: the place of the first occurrence of `sep` in `s`, counted in
  characters; an empty `sep` occurs at 0;
* `byteIndex`: the same place counted in bytes of the UTF-8 encoding;
* `split s sep`: the pieces between the non-overlapping occurrences of `sep`, from the left;
  with an empty `sep`, the characters one by one (none for an empty text);
* `cut s sep`: the text before and after the first occurrence, and whether there was one.

A valid UTF-8 text only matches another on character boundaries, so counting characters
finds the same occurrences as counting bytes.
-/

namespace Timebox

namespace Text

/-- The place of the first occurrence of `sep` in `s`, in characters. -/
def firstIndex (s sep : List Char) : Option Nat :=
  if sep.isPrefixOf s then some 0
  else match s with
    | [] => none
    | _ :: rest => (firstIndex rest sep).map (· + 1)

/-- The place of the first occurrence in bytes, or `-1`. -/
def byteIndex (s sep : String) : Int :=
  match firstIndex s.toList sep.toList with
  | some i => (String.ofList (s.toList.take i)).utf8ByteSize
  | none => -1

/-- The pieces between occurrences of a non-empty `sep`; `fuel` bounds the pieces. -/
def splitOn : Nat → List Char → List Char → List String
  | 0, s, _ => [String.ofList s]
  | fuel + 1, s, sep =>
    match firstIndex s sep with
    | some i => String.ofList (s.take i) :: splitOn fuel (s.drop (i + sep.length)) sep
    | none => [String.ofList s]

/-- The pieces of `s` between occurrences of `sep`. -/
def split (s sep : String) : List String :=
  if sep.isEmpty then s.toList.map Char.toString
  else splitOn (s.length + 1) s.toList sep.toList

/-- The text before and after the first occurrence of `sep`, and whether there was one. -/
def cut (s sep : String) : String × String × Bool :=
  match firstIndex s.toList sep.toList with
  | some i => (String.ofList (s.toList.take i), String.ofList (s.toList.drop (i + sep.length)), true)
  | none => (s, "", false)

theorem firstIndex_nil_sep (s : List Char) : firstIndex s [] = some 0 := by
  cases s <;> simp [firstIndex]

end Text

end Timebox
