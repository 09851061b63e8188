/-! # White space

`isSpace` is the Unicode white-space class that trimming uses: the ASCII tab, line feed,
vertical tab, form feed, carriage return and space, the next-line and no-break space of
Latin-1, and the White_Space characters above it (the Ogham space mark, the spaces from
U+2000 to U+200A, the line and paragraph separators, the narrow no-break space, the medium
mathematical space and the ideographic space).
-/

namespace Timebox

namespace Text

def isSpace (c : Char) : Bool :=
  let n := c.toNat
  if n < 0x100 then
    n = 0x09 ∨ n = 0x0A ∨ n = 0x0B ∨ n = 0x0C ∨ n = 0x0D ∨ n = 0x20 ∨ n = 0x85 ∨ n = 0xA0
  else
    n = 0x1680 ∨ (0x2000 ≤ n ∧ n ≤ 0x200A) ∨ n = 0x2028 ∨ n = 0x2029 ∨ n = 0x202F ∨
      n = 0x205F ∨ n = 0x3000

/-- Drops white space at both ends. -/
def trimSpace (s : String) : String :=
  String.ofList ((s.toList.dropWhile isSpace).reverse.dropWhile isSpace).reverse

theorem isSpace_of_isWhitespace (c : Char) (h : c.isWhitespace = true) : isSpace c = true := by
  simp only [Char.isWhitespace, Bool.or_eq_true, decide_eq_true_eq] at h
  simp only [isSpace]
  rcases h with ((h | h) | h) | h <;> simp [h]

end Text

end Timebox
