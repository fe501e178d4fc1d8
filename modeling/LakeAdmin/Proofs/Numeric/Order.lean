import Mathlib.Algebra.GroupWithZero.Nat
import LakeAdmin.Numeric.Binary64

/-!
Rounding keeps the order of numbers. A larger number is rounded to a larger multiple of its
unit, and where the unit grows, a power of two stands between the two. So what has been
exceeded by a difference of times is exceeded later on as well.
-/

namespace LakeAdmin.Binary64

/-! ## Division -/

theorem roundDiv_mono {m n : Nat} (h : m ≤ n) (den : Nat) : roundDiv m den ≤ roundDiv n den := by
  have whole : m / den ≤ n / den := Nat.div_le_div_right h
  have first := Nat.div_add_mod m den
  have second := Nat.div_add_mod n den
  unfold roundDiv
  dsimp only
  rcases Nat.lt_or_eq_of_le whole with less | same
  · split <;> split <;> omega
  · rw [same] at first ⊢
    split <;> split <;> omega

theorem roundDiv_mul {den : Nat} (pos : 0 < den) (k : Nat) : roundDiv (k * den) den = k := by
  unfold roundDiv
  rw [Nat.mul_mod_left, Nat.mul_div_cancel _ pos]
  dsimp only
  rw [if_neg (by omega)]

theorem roundDiv_le {m den k : Nat} (pos : 0 < den) (h : m ≤ k * den) : roundDiv m den ≤ k := by
  have := roundDiv_mono h den
  rwa [roundDiv_mul pos] at this

theorem le_roundDiv {m den k : Nat} (pos : 0 < den) (h : k * den ≤ m) : k ≤ roundDiv m den := by
  have := roundDiv_mono h den
  rwa [roundDiv_mul pos] at this

/-! ## Magnitudes -/

theorem lt_bitLength (n : Nat) : n < 2 ^ bitLength n := by
  unfold bitLength
  split
  · rename_i zero
    simp [zero]
  · exact Nat.lt_log2_self

theorem bitLength_le {n : Nat} (h : n ≠ 0) : 2 ^ (bitLength n - 1) ≤ n := by
  unfold bitLength
  rw [if_neg h]
  exact Nat.log2_self_le h

def lastPlace (n : Nat) : Nat := 2 ^ (bitLength n - 53)

theorem lastPlace_pos (n : Nat) : 0 < lastPlace n := Nat.pow_pos (by decide)

theorem roundMagnitude_eq (n : Nat) :
    roundMagnitude n 1 = roundDiv n (lastPlace n) * lastPlace n := by
  unfold roundMagnitude lastPlace
  dsimp only
  rw [Nat.div_one, Nat.one_mul]
  rfl

theorem place_mul {n k : Nat} (h : bitLength n - 53 ≤ k) :
    2 ^ (k - (bitLength n - 53)) * lastPlace n = 2 ^ k := by
  unfold lastPlace
  rw [← Nat.pow_add, Nat.sub_add_cancel h]

theorem roundMagnitude_le (n : Nat) : roundMagnitude n 1 ≤ 2 ^ bitLength n := by
  have place := place_mul (Nat.sub_le (bitLength n) 53)
  have below : n ≤ 2 ^ (bitLength n - (bitLength n - 53)) * lastPlace n := by
    rw [place]
    exact Nat.le_of_lt (lt_bitLength n)
  rw [roundMagnitude_eq, ← place]
  exact Nat.mul_le_mul_right _ (roundDiv_le (lastPlace_pos n) below)

theorem le_roundMagnitude {n : Nat} (h : n ≠ 0) : 2 ^ (bitLength n - 1) ≤ roundMagnitude n 1 := by
  have place : 2 ^ (bitLength n - 1 - (bitLength n - 53)) * lastPlace n = 2 ^ (bitLength n - 1) :=
    place_mul (by omega)
  rw [roundMagnitude_eq, ← place]
  refine Nat.mul_le_mul_right _ (le_roundDiv (lastPlace_pos n) ?_)
  rw [place]
  exact bitLength_le h

/-- A larger magnitude is not rounded to a smaller one. -/
theorem roundMagnitude_mono {m n : Nat} (h : m ≤ n) :
    roundMagnitude m 1 ≤ roundMagnitude n 1 := by
  rcases Nat.lt_trichotomy (bitLength m) (bitLength n) with less | same | more
  · have nonzero : n ≠ 0 := by
      rintro rfl
      exact absurd less (Nat.not_lt_zero _)
    calc roundMagnitude m 1 ≤ 2 ^ bitLength m := roundMagnitude_le m
      _ ≤ 2 ^ (bitLength n - 1) := Nat.pow_le_pow_right (by decide) (by omega)
      _ ≤ roundMagnitude n 1 := le_roundMagnitude nonzero
  · have place : lastPlace m = lastPlace n := by
      unfold lastPlace
      rw [same]
    rw [roundMagnitude_eq, roundMagnitude_eq, place]
    exact Nat.mul_le_mul_right _ (roundDiv_mono h _)
  · -- The number of digits does not go down.
    have nonzero : m ≠ 0 := by
      rintro rfl
      exact absurd more (Nat.not_lt_zero _)
    have : n < m := calc
      n < 2 ^ bitLength n := lt_bitLength n
      _ ≤ 2 ^ (bitLength m - 1) := Nat.pow_le_pow_right (by decide) (by omega)
      _ ≤ m := bitLength_le nonzero
    omega

/-! ## Numbers with a sign -/

/-- The units of a rounded number, too large ones too. -/
def roundUnits (n : Int) : Int :=
  if n < 0 then -(roundMagnitude n.natAbs 1 : Int) else roundMagnitude n.natAbs 1

theorem roundUnits_mono {m n : Int} (h : m ≤ n) : roundUnits m ≤ roundUnits n := by
  unfold roundUnits
  split
  · split
    · have : roundMagnitude n.natAbs 1 ≤ roundMagnitude m.natAbs 1 :=
        roundMagnitude_mono (by omega)
      omega
    · omega
  · have : roundMagnitude m.natAbs 1 ≤ roundMagnitude n.natAbs 1 :=
      roundMagnitude_mono (by omega)
    rw [if_neg (by omega)]
    omega

theorem limit_pos : 0 < limit := by
  unfold limit
  generalize 1024 + 1074 = digits
  exact Nat.two_pow_pos digits

/-- A number is rounded to an infinity beyond the limit, and to its rounded units within. -/
theorem round_cases (n : Int) :
    (limit ≤ roundUnits n ∧ round n = infinite false) ∨
      (roundUnits n ≤ -limit ∧ round n = infinite true) ∨
      (-limit < roundUnits n ∧ roundUnits n < limit ∧ (round n).units? = some (roundUnits n)) := by
  have pos := limit_pos
  unfold round ofMagnitude roundUnits
  dsimp only
  generalize roundMagnitude n.natAbs 1 = magnitude
  by_cases large : limit ≤ magnitude
  · rw [if_pos large]
    by_cases negative : n < 0
    · rw [if_pos negative, decide_eq_true negative]
      exact .inr (.inl ⟨by omega, rfl⟩)
    · rw [if_neg negative, decide_eq_false negative]
      exact .inl ⟨by omega, rfl⟩
  · rw [if_neg large]
    refine .inr (.inr ?_)
    by_cases negative : n < 0
    · rw [if_pos negative, decide_eq_true negative]
      refine ⟨by omega, by omega, ?_⟩
      by_cases zero : magnitude = 0
      · rw [if_pos zero, zero]
        rfl
      · rw [if_neg zero]
        rfl
    · rw [if_neg negative, decide_eq_false negative]
      refine ⟨by omega, by omega, ?_⟩
      by_cases zero : magnitude = 0
      · rw [if_pos zero, zero]
        rfl
      · rw [if_neg zero]
        rfl

theorem lt_units {x y : Binary64} {m n : Int} (hx : x.units? = some m) (hy : y.units? = some n) :
    lt x y = decide (m < n) := by
  cases x <;> cases hx <;> cases y <;> cases hy <;> rfl

theorem lt_units_mono {x y z : Binary64} {m n : Int} (hy : y.units? = some m)
    (hz : z.units? = some n) (h : m ≤ n) (less : lt x y = true) : lt x z = true := by
  cases hx : x.units? with
  | some k =>
    rw [lt_units hx hy, decide_eq_true_eq] at less
    rw [lt_units hx hz, decide_eq_true_eq]
    omega
  | none =>
    -- Less than all numbers with units, or than none of them.
    cases x with
    | finite k => cases hx
    | negZero => cases hx
    | nan => cases less
    | infinite negative => cases y <;> cases hy <;> cases z <;> cases hz <;> exact less

theorem lt_infinite {x y : Binary64} (h : lt x y = true) : lt x (infinite false) = true := by
  cases x with
  | infinite negative =>
    cases negative with
    | true => rfl
    | false => cases y <;> cases h
  | nan => cases h
  | _ => rfl

theorem not_lt_infinite (x : Binary64) : lt x (infinite true) = false := by
  cases x with
  | infinite negative => exact Bool.and_false negative
  | _ => rfl

/-- What is less than a rounded number is less than a larger one, rounded. -/
theorem lt_round_mono {x : Binary64} {m n : Int} (h : m ≤ n) (less : lt x (round m) = true) :
    lt x (round n) = true := by
  have mono := roundUnits_mono h
  rcases round_cases n with ⟨-, same⟩ | ⟨small, same⟩ | ⟨low, high, units⟩
  · rw [same]
    exact lt_infinite less
  · rcases round_cases m with ⟨large, -⟩ | ⟨-, same'⟩ | ⟨low, -⟩
    · have := limit_pos
      omega
    · rw [same', not_lt_infinite] at less
      cases less
    · omega
  · rcases round_cases m with ⟨large, -⟩ | ⟨-, same'⟩ | ⟨-, -, units'⟩
    · omega
    · rw [same', not_lt_infinite] at less
      cases less
    · exact lt_units_mono units' units mono less

/-! ## Differences -/

theorem sub_zero (k : Int) : finite k - finite 0 = finite k := rfl

theorem sub_round {start : Int} (h : start ≠ 0) (k : Int) :
    finite k - finite start = round (k + -start) := by
  have turned : neg (finite start) = finite (-start) := if_neg h
  show add (finite k) (neg (finite start)) = round (k + -start)
  rw [turned]
  rfl

/-- What a difference of times has exceeded, the difference of a later time exceeds too. -/
theorem lt_sub_mono {x : Binary64} {m n : Int} (h : m ≤ n) (start : Int)
    (less : lt x (finite m - finite start) = true) : lt x (finite n - finite start) = true := by
  by_cases zero : start = 0
  · subst zero
    rw [sub_zero] at less ⊢
    exact lt_units_mono rfl rfl h less
  · rw [sub_round zero] at less ⊢
    exact lt_round_mono (by omega) less

end LakeAdmin.Binary64
