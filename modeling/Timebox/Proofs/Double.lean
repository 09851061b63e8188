import Mathlib
import Timebox.Double.Basic

/-! # Small integers in doubles

Integers below `2^53` in magnitude are doubles exactly, and adding two of them whose sum
is as small gives the double of the sum (`add_ofInt`): a gauge that only ever moves by
whole steps counts exactly while it stays below `2^53`.

The proof decodes the fields of a double (`shape_ofFields`), shows that the rounding of a
rational is unchanged when numerator and denominator are scaled by the same power of two
(`ofRat_mul_pow`), and that the significand of an integer is the integer shifted up to 53
bits (`shape_ofRat_nat`). A sum of two such doubles is then the sum of the integers, scaled
by a power of two, rounded.
-/

namespace Timebox.Double

theorem bits_ofFields (neg : Bool) {b f : Nat} (hb : b < 2047) (hf : f < 2 ^ 52) :
    (ofFields neg b f).bits.toNat = (if neg then 2 ^ 63 else 0) + b * 2 ^ 52 + f := by
  unfold ofFields
  rw [UInt64.toNat_ofNat']
  apply Nat.mod_eq_of_lt
  simp only [Nat.pow_eq]
  split <;> omega

theorem shape_ofFields {neg : Bool} {b f : Nat} (hb : b < 2047) (hf : f < 2 ^ 52) :
    (ofFields neg b f).shape =
      if b = 0 then .finite neg f (-1074) else .finite neg (f + 2 ^ 52) ((b : Int) - 1075) := by
  unfold shape
  rw [bits_ofFields neg hb hf]
  simp only [Nat.pow_eq]
  have hs : ((if neg then 2 ^ 63 else 0) + b * 2 ^ 52 + f) / 2 ^ 63 = 1 ↔ neg = true := by
    cases neg <;> simp <;> omega
  have hb' : ((if neg then 2 ^ 63 else 0) + b * 2 ^ 52 + f) / 2 ^ 52 % 2 ^ 11 = b := by
    cases neg <;> simp <;> omega
  have hf' : ((if neg then 2 ^ 63 else 0) + b * 2 ^ 52 + f) % 2 ^ 52 = f := by
    cases neg <;> simp <;> omega
  simp only [hb', hf', if_neg (show b ≠ 2 ^ 11 - 1 by omega), hs]
  cases neg <;> simp

theorem log2_mul_pow {n : Nat} (h : n ≠ 0) (k : Nat) : (n * 2 ^ k).log2 = n.log2 + k := by
  rw [Nat.log2_eq_iff (by positivity)]
  constructor
  · rw [pow_add]
    exact Nat.mul_le_mul_right _ (Nat.log2_self_le h)
  · rw [show n.log2 + k + 1 = (n.log2 + 1) + k by omega, pow_add]
    exact Nat.mul_lt_mul_of_pos_right Nat.lt_log2_self (by positivity)

theorem roundHalfEven_mul (a b : Nat) {c : Nat} (hc : 0 < c) :
    roundHalfEven (a * c) (b * c) = roundHalfEven a b := by
  unfold roundHalfEven
  rw [Nat.mul_div_mul_right _ _ hc, Nat.mul_mod_mul_right]
  have h1 : 2 * (a % b * c) < b * c ↔ 2 * (a % b) < b := by
    rw [← Nat.mul_assoc]; exact Nat.mul_lt_mul_right hc
  have h2 : 2 * (a % b * c) > b * c ↔ 2 * (a % b) > b := by
    rw [← Nat.mul_assoc]; exact Nat.mul_lt_mul_right hc
  simp only [h1, h2]

theorem roundHalfEven_one (n : Nat) : roundHalfEven n 1 = n := by
  simp [roundHalfEven, Nat.mod_one]

theorem log2Floor_mul_pow {num den : Nat} (hn : num ≠ 0) (hd : den ≠ 0) (k : Nat) :
    log2Floor (num * 2 ^ k) (den * 2 ^ k) = log2Floor num den := by
  unfold log2Floor
  rw [log2_mul_pow hn, log2_mul_pow hd]
  have hl : ((num.log2 + k : Nat) : Int) - ((den.log2 + k : Nat) : Int) =
      (num.log2 : Int) - den.log2 := by push_cast; ring
  have hk : 0 < 2 ^ k := by positivity
  have hscale : ∀ x y : Nat, x * 2 ^ k ≤ y * 2 ^ k ↔ x ≤ y := fun x y => Nat.mul_le_mul_right_iff hk
  simp only [hl, Nat.pow_eq]
  congr 2 <;> apply propext
  · rw [ge_iff_le, ge_iff_le, Nat.mul_right_comm den, hscale]
  · rw [ge_iff_le, ge_iff_le, Nat.mul_right_comm num, hscale]

theorem log2Floor_one {n : Nat} (hn : n ≠ 0) : log2Floor n 1 = n.log2 := by
  unfold log2Floor
  have h1 : Nat.log2 1 = 0 := by rw [Nat.log2_eq_iff one_ne_zero]; norm_num
  have := Nat.log2_self_le hn
  simp [h1, this]

theorem ofRat_mul_pow (neg : Bool) (num den k : Nat) :
    ofRat neg (num * 2 ^ k) (den * 2 ^ k) = ofRat neg num den := by
  by_cases h0 : num = 0 ∨ den = 0
  · have h0' : num * 2 ^ k = 0 ∨ den * 2 ^ k = 0 := by rcases h0 with h | h <;> simp [h]
    simp only [ofRat, if_pos h0, if_pos h0']
  · have hn : num ≠ 0 := fun h => h0 (.inl h)
    have hd : den ≠ 0 := fun h => h0 (.inr h)
    have h0' : ¬ (num * 2 ^ k = 0 ∨ den * 2 ^ k = 0) := by simp [hn, hd]
    have hk : 0 < 2 ^ k := by positivity
    have hup : ∀ j : Nat, roundHalfEven (num * 2 ^ k) (den * 2 ^ k * Nat.pow 2 j) =
        roundHalfEven num (den * Nat.pow 2 j) := fun j => by
      rw [Nat.mul_right_comm den, roundHalfEven_mul _ _ hk]
    have hdown : ∀ j : Nat, roundHalfEven (num * 2 ^ k * Nat.pow 2 j) (den * 2 ^ k) =
        roundHalfEven (num * Nat.pow 2 j) den := fun j => by
      rw [Nat.mul_right_comm num, roundHalfEven_mul _ _ hk]
    simp only [ofRat, if_neg h0, if_neg h0', log2Floor_mul_pow hn hd, hup, hdown]

/-- A positive integer below `2^53` is a double exactly: its significand is the integer
shifted up to 53 bits. -/
theorem shape_ofRat_nat (neg : Bool) {n : Nat} (h0 : n ≠ 0) (h : n < 2 ^ 53) :
    (ofRat neg n 1).shape = .finite neg (n * 2 ^ (52 - n.log2)) ((n.log2 : Int) - 52) := by
  have hl : n.log2 < 53 := (Nat.log2_lt h0).mpr h
  have hlo : 2 ^ 52 ≤ n * 2 ^ (52 - n.log2) := by
    calc 2 ^ 52 = 2 ^ n.log2 * 2 ^ (52 - n.log2) := by rw [← pow_add]; congr 1; omega
      _ ≤ n * 2 ^ (52 - n.log2) := Nat.mul_le_mul_right _ (Nat.log2_self_le h0)
  have hhi : n * 2 ^ (52 - n.log2) < 2 ^ 53 := by
    calc n * 2 ^ (52 - n.log2) < 2 ^ (n.log2 + 1) * 2 ^ (52 - n.log2) :=
          Nat.mul_lt_mul_of_pos_right Nat.lt_log2_self (by positivity)
      _ = 2 ^ 53 := by rw [← pow_add]; congr 1; omega
  have hq : Max.max ((n.log2 : Int) - 52) (-1074) = (n.log2 : Int) - 52 := max_eq_left (by omega)
  -- rounding an integer to 53 bits shifts it, exactly
  have hround : (if (n.log2 : Int) - 52 ≥ 0 then roundHalfEven n (1 * Nat.pow 2 ((n.log2 : Int) - 52).toNat)
      else roundHalfEven (n * Nat.pow 2 (-((n.log2 : Int) - 52)).toNat) 1) = n * 2 ^ (52 - n.log2) := by
    split
    · have h52 : n.log2 = 52 := by omega
      simp [h52, roundHalfEven_one]
    · rw [roundHalfEven_one, Nat.pow_eq]
      congr 2
      omega
  have hne : n * 2 ^ (52 - n.log2) ≠ Nat.pow 2 53 := by rw [Nat.pow_eq]; omega
  have hb : ((n.log2 : Int) - 52 + 1075).toNat = n.log2 + 1023 := by omega
  simp only [ofRat, show ¬ (n = 0 ∨ 1 = 0) by omega, if_false, log2Floor_one h0, hq, hround,
    if_neg hne]
  rw [if_neg (by omega), if_neg (by rw [Nat.pow_eq]; omega), hb, Nat.pow_eq,
    shape_ofFields (by omega) (by omega), if_neg (by omega), Nat.sub_add_cancel hlo]
  rw [show ((n.log2 + 1023 : Nat) : Int) - 1075 = (n.log2 : Int) - 52 by omega]

theorem ofInt_zero : ofInt 0 = zero := rfl

/-- An integer below `2^53` in magnitude is a double exactly: its significand is its
magnitude shifted by an exponent that is not positive. -/
theorem shape_ofInt {x : Int} (hx : x.natAbs < 2 ^ 53) :
    ∃ m e, (ofInt x).shape = .finite (decide (x < 0)) m e ∧ e ≤ 0 ∧
      m = x.natAbs * 2 ^ (-e).toNat := by
  by_cases h0 : x = 0
  · subst h0
    refine ⟨0, -1074, ?_, by norm_num, by rw [Int.natAbs_zero, Nat.zero_mul]⟩
    rw [ofInt_zero, zero, shape_ofFields (by norm_num) (by norm_num), if_pos rfl]
    rfl
  · have hn : x.natAbs ≠ 0 := by omega
    have hl : x.natAbs.log2 < 53 := (Nat.log2_lt hn).mpr hx
    refine ⟨_, _, shape_ofRat_nat _ hn hx, by omega, ?_⟩
    congr 2
    omega

/-- A signed significand scaled to a lower exponent is the integer scaled by the same power. -/
theorem signed_scale (x : Int) {e lo : Int} (he : e ≤ 0) (hlo : lo ≤ e) :
    (if decide (x < 0) then -1 else 1) *
      (((x.natAbs * 2 ^ (-e).toNat) * Nat.pow 2 (e - lo).toNat : Nat) : Int) =
      x * 2 ^ (-lo).toNat := by
  rw [Nat.pow_eq, Nat.mul_assoc, ← pow_add, show (-e).toNat + (e - lo).toNat = (-lo).toNat by omega]
  push_cast
  by_cases hx : x < 0
  · rw [if_pos (decide_eq_true hx), abs_of_neg hx]
    ring
  · rw [if_neg (by simpa using hx), abs_of_nonneg (not_lt.mp hx)]
    ring

/-- **Exact sums of small integers.** Adding two integers whose sum stays below `2^53` in
magnitude is exact in doubles. -/
theorem add_ofInt {x y : Int} (hx : x.natAbs < 2 ^ 53) (hy : y.natAbs < 2 ^ 53)
    (hxy : (x + y).natAbs < 2 ^ 53) : (ofInt x).add (ofInt y) = ofInt (x + y) := by
  obtain ⟨m, e, hse, he, hm⟩ := shape_ofInt hx
  obtain ⟨n, f, hsf, hf, hn⟩ := shape_ofInt hy
  unfold add
  rw [hse, hsf]
  dsimp only
  split
  · -- both zero
    rename_i h
    have hx0 : x = 0 := by
      have := h.1; rw [hm] at this; simp at this; omega
    have hy0 : y = 0 := by
      have := h.2; rw [hn] at this; simp at this; omega
    subst hx0 hy0
    rfl
  · subst hm hn
    rw [signed_scale x he (min_le_left e f), signed_scale y hf (min_le_right e f), ← add_mul]
    have hpos : (0 : Int) < 2 ^ (-min e f).toNat := by positivity
    have hneg : decide ((x + y) * 2 ^ (-min e f).toNat < 0) = decide (x + y < 0) := by
      rw [decide_eq_decide]
      constructor <;> intro h <;> nlinarith
    have habs : ((x + y) * 2 ^ (-min e f).toNat).natAbs = (x + y).natAbs * 2 ^ (-min e f).toNat := by
      rw [Int.natAbs_mul, Int.natAbs_pow]
      rfl
    by_cases hs : x + y = 0
    · rw [if_pos (by rw [hs, zero_mul]), hs, ofInt_zero]
    · rw [if_neg (mul_ne_zero hs hpos.ne'), hneg, habs]
      split
      · -- the lower exponent is zero: nothing to shift
        rename_i hlo
        have h0 : min e f = 0 := le_antisymm (le_trans (min_le_left e f) he) hlo
        simp [h0, ofInt]
      · -- both sides scaled by the same power of two
        have := ofRat_mul_pow (decide (x + y < 0)) (x + y).natAbs 1 (-min e f).toNat
        rw [Nat.one_mul] at this
        rw [Nat.pow_eq, this]
        rfl

/-- A counter at zero moved by a small integer reads that integer. -/
theorem zero_add_ofInt {x : Int} (hx : x.natAbs < 2 ^ 53) : zero.add (ofInt x) = ofInt x := by
  rw [← ofInt_zero, add_ofInt (by decide) hx (by simpa using hx), zero_add]

end Timebox.Double
