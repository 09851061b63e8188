import Timebox.Shell.Script

/-! # Brace expansion

Bash turns one word into several before it expands anything else: `a{b,c}d` gives `abd`
and `acd`, and `{1..5}`, `{05..1..2}` and `{a..e}` give sequences. Only unquoted braces
count. A brace expands when it has a matching closing brace with a comma directly inside
(the pieces between the commas are expanded in turn), or when what stands between is a
sequence `x..y` or `x..y..step` of two integers or two letters; any other brace stays as it
is, and the search goes on after it. Integers are padded with zeros to the widest end when
an end starts with `0`; the step counts from `x` toward `y`, whatever its sign.
-/

namespace Timebox

namespace Shell

namespace Brace

/-- A piece of a word: an unquoted literal character, or any other part. -/
inductive Atom where
  | ch (c : Char)
  | part (p : Part)
deriving Inhabited

/-- The pieces of a word. -/
def atoms (w : Word) : List Atom :=
  w.flatMap fun
    | .lit s false => s.toList.map .ch
    | p => [.part p]

/-- The word of pieces, characters in a row made one literal part again. -/
def word (as : List Atom) : Word :=
  as.foldl (fun w a =>
    match a with
    | .ch c =>
      match w.getLast? with
      | some (.lit s false) => w.dropLast ++ [.lit (s.push c) false]
      | _ => w ++ [.lit (String.singleton c) false]
    | .part p => w ++ [p]) []

/-- From after an opening brace at place `i`: the place of its closing brace and of the
commas directly inside. -/
def closing : List Atom → Nat → Nat → List Nat → Option (Nat × List Nat)
  | [], _, _, _ => none
  | a :: rest, i, depth, commas =>
    match a with
    | .ch '{' => closing rest (i + 1) (depth + 1) commas
    | .ch '}' => if depth = 0 then some (i, commas.reverse) else closing rest (i + 1) (depth - 1) commas
    | .ch ',' => closing rest (i + 1) depth (if depth = 0 then i :: commas else commas)
    | _ => closing rest (i + 1) depth commas

/-- The text of pieces that are all characters. -/
def text? (as : List Atom) : Option String :=
  as.foldl (fun acc a => match acc, a with
    | some s, .ch c => some (s.push c)
    | _, _ => none) (some "")

/-- An integer end of a sequence: an optional sign, then digits. -/
def integer? (s : String) : Option Int :=
  match s.toList with
  | '-' :: ds => if !ds.isEmpty ∧ ds.all Char.isDigit then some (-(String.ofList ds).toNat!) else none
  | '+' :: ds => if !ds.isEmpty ∧ ds.all Char.isDigit then some (String.ofList ds).toNat! else none
  | ds => if !ds.isEmpty ∧ ds.all Char.isDigit then some (String.ofList ds).toNat! else none

/-- The values from `x` toward `y` by a step, ends included when reached. -/
def steps (x y : Int) (step : Nat) : List Int :=
  let step := max step 1
  let n := (if x ≤ y then y - x else x - y).toNat / step
  (List.range (n + 1)).map fun (k : Nat) => if x ≤ y then x + (k * step : Nat) else x - (k * step : Nat)

/-- An integer written in at least `width` characters, zeros after its sign. -/
def padded (width : Nat) (v : Int) : String :=
  let digits := toString v.natAbs
  let sign := if v < 0 then "-" else ""
  sign ++ String.ofList (List.replicate (width - sign.length - digits.length) '0') ++ digits

/-- Whether an end of a sequence asks for zeros: it starts with `0`, after a sign, and has
more digits. -/
def zeroPadded (s : String) : Bool :=
  let ds := match s.toList with
    | '-' :: r => r
    | '+' :: r => r
    | r => r
  ds.length > 1 ∧ ds.head? = some '0'

/-- The words of a sequence expression, if it is one. -/
def sequence? (s : String) : Option (List String) :=
  let parts := s.splitOn ".."
  let (x, y, step) := match parts with
    | [x, y] => (x, y, some "1")
    | [x, y, z] => (x, y, some z)
    | _ => ("", "", none)
  match step.bind integer? with
  | none => none
  | some st =>
    match integer? x, integer? y with
    | some a, some b =>
      let width := if zeroPadded x ∨ zeroPadded y then max x.length y.length else 0
      some ((steps a b st.natAbs).map (padded width))
    | _, _ =>
      match x.toList, y.toList with
      | [c], [d] =>
        if c.isAlpha ∧ d.isAlpha then
          some ((steps c.toNat d.toNat st.natAbs).map fun v => String.singleton (Char.ofNat v.toNat))
        else none
      | _, _ => none

/-- What a brace that expands holds. -/
inductive Body where
  /-- The places of the commas directly inside, counted from the brace. -/
  | commas (places : List Nat)
  | sequence (words : List String)

/-- The first brace from place `i` on that expands: where it opens and closes, and what it
holds. -/
def find (as : List Atom) : Nat → Nat → Option (Nat × Nat × Body)
  | 0, _ => none
  | fuel + 1, i =>
    match (as.drop i).findIdx? (fun | .ch '{' => true | _ => false) with
    | none => none
    | some k =>
      let a := i + k
      match closing (as.drop (a + 1)) (a + 1) 0 [] with
      | none => find as fuel (a + 1)
      | some (b, commas) =>
        if !commas.isEmpty then some (a, b, .commas commas)
        else
          match (text? ((as.drop (a + 1)).take (b - a - 1))).bind sequence? with
          | some ws => some (a, b, .sequence ws)
          | none => find as fuel (a + 1)

/-- Pieces cut at places: the pieces between them. -/
def cutAt (as : List Atom) (start : Nat) (places : List Nat) (stop : Nat) : List (List Atom) :=
  let bounds := start :: places
  let ends := places ++ [stop]
  (bounds.zip ends).map fun (a, b) => (as.drop (a + 1)).take (b - a - 1)

/-- The words that pieces expand to. -/
def expandAtoms : Nat → List Atom → List (List Atom)
  | 0, as => [as]
  | fuel + 1, as =>
    match find as (as.length + 1) 0 with
    | none => [as]
    | some (a, b, body) =>
      let pre := as.take a
      let post := as.drop (b + 1)
      let middles : List (List Atom) := match body with
        | .commas places => (cutAt as a places b).flatMap (expandAtoms fuel)
        | .sequence ws => ws.map fun w => w.toList.map .ch
      let posts := expandAtoms fuel post
      middles.flatMap fun m => posts.map fun p => pre ++ m ++ p

/-- The words a word expands to. -/
def expand (w : Word) : List Word :=
  let as := atoms w
  (expandAtoms (as.length + 1) as).map word

end Brace

end Shell

end Timebox
