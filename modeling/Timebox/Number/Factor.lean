/-! # Prime factors

`Number.factors` gives the prime factors of a natural number in increasing order, each as
often as it divides the number; `1` and `0` have none.

Small factors are found by trial division. What is left is tested for primality by the
strong probable-prime test to the bases `2, 3, …, 41`, which no composite below `3·10²⁴`
passes, and split, when it is composite, by Pollard's rho method: the sequence
`x ↦ x² + c` modulo the number, compared with a copy that runs twice as fast, until the
greatest common divisor of a difference and the number is a proper divisor. Every loop runs
on a bound: the number of squarings is the bit length, the rho walk has a budget of steps
and tries the next `c` when it fails, and the splitting depth is the bit length.
-/

namespace Timebox

namespace Number

/-- `b ^ e` modulo `m`, by repeated squaring. -/
def powMod (b e m : Nat) : Nat :=
  if h : e = 0 then 1 % m
  else
    let half := powMod (b * b % m) (e / 2) m
    if e % 2 = 1 then b % m * half % m else half
termination_by e
decreasing_by omega

/-- Whether squaring `x` modulo `n` at most `k` times reaches `n - 1`, the current value
included. -/
def reachesMinusOne (n : Nat) : Nat → Nat → Bool
  | 0, x => x = n - 1
  | k + 1, x => x = n - 1 || reachesMinusOne n k (x * x % n)

/-- The odd part of a number and the power of two it was divided by, for a positive
number. -/
def oddPart (m : Nat) : Nat × Nat :=
  go m m 0
where
  go : Nat → Nat → Nat → Nat × Nat
    | 0, d, s => (d, s)
    | fuel + 1, d, s => if d % 2 = 0 ∧ d > 0 then go fuel (d / 2) (s + 1) else (d, s)

/-- Whether an odd `n > 2` is a strong probable prime to base `a`: with `n - 1 = d·2^s`
and `d` odd, `a^d ≡ 1` or `a^(d·2^r) ≡ -1` for some `r < s`. -/
def strongProbable (n a : Nat) : Bool :=
  let (d, s) := oddPart (n - 1)
  let x := powMod a d n
  x = 1 || (s > 0 && reachesMinusOne n (s - 1) x)

/-- The bases of the primality test. -/
def witnesses : List Nat := [2, 3, 5, 7, 11, 13, 17, 19, 23, 29, 31, 37, 41]

/-- Whether a number is prime. -/
def isPrime (n : Nat) : Bool :=
  if n < 2 then false
  else if witnesses.contains n then true
  else if witnesses.any (fun p => n % p = 0) then false
  else witnesses.all (strongProbable n)

/-- The rho walk: `x` moves one step and `y` two per round, for at most `fuel` rounds; a
proper divisor of `n` when the difference meets one, none when the walk closes a cycle or
the budget is spent. -/
def rhoWalk (n c : Nat) : Nat → Nat → Nat → Option Nat
  | 0, _, _ => none
  | fuel + 1, x, y =>
    let f (v : Nat) : Nat := (v * v + c) % n
    let x := f x
    let y := f (f y)
    let g := Nat.gcd (if x ≥ y then x - y else y - x) n
    if g = 1 then rhoWalk n c fuel x y
    else if g = n then none
    else some g

/-- How many rounds a rho walk may take. -/
def rhoBudget : Nat := 1 <<< 22

/-- A proper divisor of a composite number found by rho walks for `c = 1, 2, …`, at most
`tries` of them. -/
def rhoDivisor (n : Nat) : Nat → Nat → Option Nat
  | 0, _ => none
  | tries + 1, c =>
    match rhoWalk n c rhoBudget 2 2 with
    | some d => some d
    | none => rhoDivisor n tries (c + 1)

/-- The prime factors of a number without factors below the trial bound, split at most
`depth` times; a number that cannot be split is kept whole. -/
def splitFactors : Nat → Nat → List Nat
  | 0, n => [n]
  | depth + 1, n =>
    if n < 2 then []
    else if isPrime n then [n]
    else
      match rhoDivisor n 64 1 with
      | some d => splitFactors depth d ++ splitFactors depth (n / d)
      | none => [n]

/-- The primes up to which factors are found by trial division. -/
def trialBound : Nat := 1000

/-- The factors below the trial bound, in order, and what is left: divides by `p` and the
numbers after it, at most `fuel` of them. -/
def trialFactors : Nat → Nat → Nat → List Nat × Nat
  | 0, _, n => ([], n)
  | fuel + 1, p, n =>
    if n < 2 ∨ p > trialBound ∨ p * p > n then ([], n)
    else if n % p = 0 then
      let (fs, m) := trialFactors fuel p (n / p)
      (p :: fs, m)
    else trialFactors fuel (p + 1) n

/-- The prime factors of a number in increasing order, with repetition. -/
def factors (n : Nat) : List Nat :=
  let (small, rest) := trialFactors (n + trialBound) 2 n
  let big := if rest < 2 then [] else splitFactors (Nat.log2 rest + 1) rest
  small ++ big.mergeSort

end Number

end Timebox
