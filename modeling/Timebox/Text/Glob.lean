/-! # Matching names against slash-separated glob patterns

`Glob.matchName pattern name` tells whether the whole name matches the pattern, or fails
when the pattern is malformed:

* `*` matches any run of characters other than `/`;
* `?` matches one character other than `/`;
* `[...]` matches one character in (or with `[^...]`, not in) a list of characters and
  ranges `a-z`, where `\` takes the next character literally;
* `\c` matches `c`; any other character matches itself.

A pattern is read as chunks: a run of stars, then the text up to the next star outside a
class. A chunk after stars is tried at each later position of the name that does not skip a
`/`; the last chunk must end the name. Once a chunk fails, the rest of the pattern is still
read for its form, so a malformed pattern is an error whether or not the name matched.
-/

namespace Timebox

namespace Glob

/-- Splits off the leading stars: whether there were any, the chunk after them and the rest. -/
def scanChunk (p : List Char) : Bool × List Char × List Char :=
  let star := p.takeWhile (· = '*')
  let rec go : List Char → Bool → List Char × List Char
    | [], _ => ([], [])
    | '\\' :: c :: rest, inRange => let (a, b) := go rest inRange; ('\\' :: c :: a, b)
    | '[' :: rest, _ => let (a, b) := go rest true; ('[' :: a, b)
    | ']' :: rest, _ => let (a, b) := go rest false; (']' :: a, b)
    | '*' :: rest, inRange =>
      if inRange then let (a, b) := go rest inRange; ('*' :: a, b) else ([], '*' :: rest)
    | c :: rest, inRange => let (a, b) := go rest inRange; (c :: a, b)
  let (chunk, rest) := go (p.drop star.length) false
  (!star.isEmpty, chunk, rest)

/-- One character of a class, with `\` escaping, and the pattern after it, which cannot be
empty; none when malformed. -/
def getEsc (chunk : List Char) : Option (Char × List Char) :=
  match chunk with
  | [] | '-' :: _ | ']' :: _ | ['\\'] => none
  | '\\' :: c :: rest => if rest.isEmpty then none else some (c, rest)
  | c :: rest => if rest.isEmpty then none else some (c, rest)

theorem getEsc_length (chunk rest : List Char) (c : Char) (h : getEsc chunk = some (c, rest)) :
    rest.length < chunk.length := by
  unfold getEsc at h
  -- the malformed starts give none; the others drop one or two characters
  split at h
  all_goals first
    | (simp at h; done)
    | (simp only [Option.ite_none_left_eq_some, Option.some.injEq, Prod.mk.injEq] at h
       obtain ⟨_, _, rfl⟩ := h
       simp only [List.length_cons]
       omega)

/-- Reads the ranges of a class after its `[` (and `^`): whether `r` is in one, and the
pattern after the closing `]`; none when malformed. A `]` closes the class only after its
first range. Each range takes at least one character of the chunk (`getEsc_length`), so
`chunk.length + 1` steps of `fuel` read the whole class. -/
def classRanges : Nat → Option Char → Bool → Bool → List Char → Option (Bool × List Char)
  | 0, _, _, _, _ => none
  | fuel + 1, r, first, found, chunk =>
    if chunk.head? = some ']' ∧ !first then some (found, chunk.drop 1)
    else
      match getEsc chunk with
      | none => none
      | some (lo, '-' :: more) =>
        match getEsc more with
        | none => none
        | some (hi, rest2) =>
          let inside := match r with
            | some c => decide (lo ≤ c ∧ c ≤ hi)
            | none => false
          classRanges fuel r false (found || inside) rest2
      | some (lo, rest) =>
        let inside := match r with
          | some c => decide (lo = c)
          | none => false
        classRanges fuel r false (found || inside) rest

/-- Matches a chunk at the start of `s`: none when malformed, else whether it matched and
what of `s` is left. After a failure the chunk is still read for its form. `fuel` bounds the
characters of the chunk read. -/
def matchChunk : Nat → List Char → List Char → Bool → Option (Bool × List Char)
  | 0, _, s, failed => some (!failed, s)
  | _ + 1, [], s, failed => some (!failed, s)
  | fuel + 1, c :: chunk, s, failed =>
    let failed := failed || s.isEmpty
    if c = '[' then
      let r := if failed then none else s.head?
      let s1 := if failed then s else s.drop 1
      let (negated, chunk) := match chunk with
        | '^' :: more => (true, more)
        | more => (false, more)
      match classRanges (chunk.length + 1) r true false chunk with
      | none => none
      | some (found, rest) => matchChunk fuel rest s1 (failed || found == negated)
    else if c = '?' then
      if failed then matchChunk fuel chunk s true
      else matchChunk fuel chunk (s.drop 1) (s.head? = some '/')
    else
      let literal : Option (Char × List Char) :=
        if c = '\\' then (match chunk with
          | [] => none
          | d :: more => some (d, more))
        else some (c, chunk)
      match literal with
      | none => none
      | some (d, more) =>
        if failed then matchChunk fuel more s true
        else matchChunk fuel more (s.drop 1) (s.head? != some d)

/-- Whether the chunks of a pattern are well formed. -/
def wellFormed : Nat → List Char → Bool
  | 0, _ => true
  | _ + 1, [] => true
  | fuel + 1, p =>
    let (_, chunk, rest) := scanChunk p
    (matchChunk (chunk.length + 1) chunk [] false).isSome && wellFormed fuel rest

/-- Tries a chunk after stars at each later start that skips no `/`: none when malformed,
else the rest of the name after the first start that fits. When the chunk is the last one it
must end the name. -/
def starSearch (chunk : List Char) (last : Bool) : List Char → Option (Option (List Char))
  | [] => some none
  | c :: tail =>
    if c = '/' then some none
    else match matchChunk (chunk.length + 1) chunk tail false with
      | none => none
      | some (true, t) => if last && !t.isEmpty then starSearch chunk last tail else some (some t)
      | some (false, _) => starSearch chunk last tail

/-- Matches the name against the pattern, chunk by chunk; `fuel` bounds the chunks. -/
def matchFrom : Nat → List Char → List Char → Option Bool
  | 0, _, name => some name.isEmpty
  | _ + 1, [], name => some name.isEmpty
  | fuel + 1, pattern, name =>
    let (star, chunk, rest) := scanChunk pattern
    if star && chunk.isEmpty then some (!name.contains '/')
    else
      let direct := matchChunk (chunk.length + 1) chunk name false
      match direct with
      | some (true, t) =>
        if t.isEmpty || !rest.isEmpty then matchFrom fuel rest t
        else afterDirect fuel star chunk rest name
      | some (false, _) => afterDirect fuel star chunk rest name
      | none => none
where
  /-- The search after the chunk did not fit where the name stands. -/
  afterDirect (fuel : Nat) (star : Bool) (chunk rest name : List Char) : Option Bool :=
    let found := if star then starSearch chunk rest.isEmpty name else some none
    match found with
    | none => none
    | some (some t) => matchFrom fuel rest t
    | some none => if wellFormed (rest.length + 1) rest then some false else none

/-- Whether the whole name matches the pattern; none when the pattern is malformed. -/
def matchName (pattern name : String) : Option Bool :=
  matchFrom (pattern.length + 1) pattern.toList name.toList

end Glob

end Timebox
