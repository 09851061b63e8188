/-! # Shell patterns

The patterns of `case`, of `${x%…}` and of file names: `*` matches any run of characters,
`?` one character, and `[…]` one character of a set (ranges `a-z`, classes `[:alpha:]`, the
set negated by a leading `!` or `^`); a `[` without its `]` is itself. A character that was
quoted matches only itself. `Pattern.matches` says whether a whole text matches.
-/

namespace Timebox

namespace Shell

/-- One member of a bracket set. -/
inductive SetItem where
  | char (c : Char)
  | range (lo hi : Char)
  | named (name : String)
deriving Repr, Inhabited

/-- One item of a pattern. -/
inductive PatItem where
  | star
  | any
  | oneOf (negate : Bool) (items : List SetItem)
  | char (c : Char)
deriving Repr, Inhabited

/-- Whether a character is in a named class of the C locale. -/
def inClass (name : String) (c : Char) : Bool :=
  if name = "alpha" then c.isAlpha
  else if name = "digit" then c.isDigit
  else if name = "alnum" then c.isAlphanum
  else if name = "upper" then c.isUpper
  else if name = "lower" then c.isLower
  else if name = "space" then c = ' ' || ('\t' ≤ c && c ≤ '\r')
  else if name = "blank" then c = ' ' || c = '\t'
  else if name = "punct" then c.toNat < 128 && 32 < c.toNat && c.toNat < 127 && !c.isAlphanum
  else if name = "xdigit" then c.isDigit || ('a' ≤ c && c ≤ 'f') || ('A' ≤ c && c ≤ 'F')
  else if name = "cntrl" then c.toNat < 32 || c.toNat = 127
  else if name = "print" then 32 ≤ c.toNat && c.toNat < 127
  else if name = "graph" then 32 < c.toNat && c.toNat < 127
  else false

/-- Whether a character is in a set. -/
def SetItem.holds (c : Char) : SetItem → Bool
  | .char d => c = d
  | .range lo hi => lo ≤ c && c ≤ hi
  | .named n => inClass n c

/-- Reads the members of a bracket set after its `[` (and negation), up to its `]`: the
members and the rest, or none when the set is not closed. -/
def readSet : Nat → List (Char × Bool) → List SetItem → Bool → Option (List SetItem × List (Char × Bool))
  | 0, _, _, _ => none
  | _, [], _, _ => none
  | fuel + 1, (c, q) :: rest, acc, first =>
    if c = ']' ∧ !q ∧ !first then some (acc, rest)
    else if c = '[' ∧ !q then
      match rest with
      | (':', false) :: more =>
        let name := more.takeWhile (fun (d, _) => d ≠ ':')
        match more.drop name.length with
        | (':', _) :: (']', _) :: after =>
          readSet fuel after (acc ++ [.named (String.ofList (name.map (·.1)))]) false
        | _ => readSet fuel rest (acc ++ [.char c]) false
      | _ => readSet fuel rest (acc ++ [.char c]) false
    else
      match rest with
      | ('-', false) :: (d, dq) :: more =>
        if d = ']' ∧ !dq then readSet fuel (('-', false) :: (d, dq) :: more) (acc ++ [.char c]) false
        else readSet fuel more (acc ++ [.range c d]) false
      | _ => readSet fuel rest (acc ++ [.char c]) false

/-- The items of a pattern given as characters marked quoted or not. -/
def compile : Nat → List (Char × Bool) → List PatItem
  | 0, _ => []
  | _, [] => []
  | fuel + 1, (c, q) :: rest =>
    if q then .char c :: compile fuel rest
    else if c = '*' then .star :: compile fuel rest
    else if c = '?' then .any :: compile fuel rest
    else if c = '\\' then
      match rest with
      | (d, _) :: more => .char d :: compile fuel more
      | [] => [.char c]
    else if c = '[' then
      let (neg, body) := match rest with
        | ('!', false) :: r => (true, r)
        | ('^', false) :: r => (true, r)
        | r => (false, r)
      match readSet (body.length + 1) body [] true with
      | some (items, after) => .oneOf neg items :: compile fuel after
      | none => .char c :: compile fuel rest
    else .char c :: compile fuel rest

/-- Whether a whole text matches pattern items. -/
def matchItems : List PatItem → List Char → Bool
  | [], cs => cs.isEmpty
  | .star :: ps, cs =>
    match cs with
    | [] => matchItems ps []
    | c :: rest => matchItems ps (c :: rest) || matchItems (.star :: ps) rest
  | .any :: ps, cs =>
    match cs with
    | [] => false
    | _ :: rest => matchItems ps rest
  | .oneOf neg items :: ps, cs =>
    match cs with
    | [] => false
    | c :: rest => ((items.any (·.holds c)) != neg) && matchItems ps rest
  | .char d :: ps, cs =>
    match cs with
    | [] => false
    | c :: rest => c = d && matchItems ps rest
termination_by ps cs => ps.length + cs.length

/-- A pattern: characters marked with whether they were quoted. -/
abbrev Pattern := List (Char × Bool)

/-- Whether a whole text matches a pattern. -/
def Pattern.matches (p : Pattern) (s : String) : Bool :=
  matchItems (compile (p.length + 1) p) s.toList

/-- Whether a pattern has an unquoted `*`, `?` or `[`, which make it match other texts than
itself. -/
def Pattern.isGlob (p : Pattern) : Bool := p.any fun (c, q) => !q && (c = '*' || c = '?' || c = '[')

/-- A text as a pattern of quoted characters, which matches only itself. -/
def Pattern.ofLiteral (s : String) : Pattern := s.toList.map (·, true)

end Shell

end Timebox
