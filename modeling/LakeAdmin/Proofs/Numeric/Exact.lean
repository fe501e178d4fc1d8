import LakeAdmin.Proofs.Numeric.Order

/-!
Sums without rounding. Where a sum or difference of doubles is a double itself, it is exact,
and so are all whole numbers of up to 53 binary digits.
-/

namespace LakeAdmin.Binary64

/-- A number of units that a double can have. -/
def IsExact (units : Int) : Prop := (round units).units? = some units

theorem add_units {x y : Binary64} {m n : Int} (hx : x.units? = some m) (hy : y.units? = some n)
    (exact : IsExact (m + n)) : (x + y).units? = some (m + n) := by
  show (add x y).units? = some (m + n)
  cases x <;> cases hx <;> cases y <;> cases hy
  · exact exact
  · simp [add, units?]
  · simp [add, units?]
  · rfl

theorem neg_units {x : Binary64} {m : Int} (hx : x.units? = some m) :
    (-x).units? = some (-m) := by
  cases x <;> cases hx
  · show (if m = 0 then negZero else finite (-m)).units? = some (-m)
    split
    · rename_i zero
      rw [zero]
      rfl
    · rfl
  · rfl

theorem sub_units {x y : Binary64} {m n : Int} (hx : x.units? = some m) (hy : y.units? = some n)
    (exact : IsExact (m - n)) : (x - y).units? = some (m - n) := by
  rw [Int.sub_eq_add_neg] at exact ⊢
  exact add_units hx (neg_units hy) exact

/-- A multiple of a power of two with few digits before it is not changed by rounding: its unit
in the last place is not more than that power. -/
theorem roundMagnitude_shifted {m : Nat} (h : m < 2 ^ 53) (k : Nat) :
    roundMagnitude (m * 2 ^ k) 1 = m * 2 ^ k := by
  have digits : bitLength (m * 2 ^ k) - 53 ≤ k := by
    by_cases zero : m * 2 ^ k = 0
    · rw [zero]
      exact Nat.zero_le k
    · have low := bitLength_le zero
      have high : m * 2 ^ k < 2 ^ (53 + k) := by
        rw [Nat.pow_add]
        exact Nat.mul_lt_mul_of_pos_right h (Nat.two_pow_pos k)
      have : bitLength (m * 2 ^ k) - 1 < 53 + k :=
        (Nat.pow_lt_pow_iff_right (by decide)).mp (Nat.lt_of_le_of_lt low high)
      omega
  have place := place_mul digits
  have whole : m * 2 ^ (k - (bitLength (m * 2 ^ k) - 53)) * lastPlace (m * 2 ^ k) = m * 2 ^ k := by
    rw [Nat.mul_assoc, place]
  have rounded := roundDiv_mul (lastPlace_pos (m * 2 ^ k))
    (m * 2 ^ (k - (bitLength (m * 2 ^ k) - 53)))
  rw [whole] at rounded
  rw [roundMagnitude_eq, rounded, whole]

theorem one_limit : ∃ k, one = 2 ^ k ∧ limit = 2 ^ (1024 + k) := by
  unfold one limit
  generalize 1074 = k
  exact ⟨k, rfl, rfl⟩

theorem whole_exact {n : Int} (h : n.natAbs < 2 ^ 53) : IsExact (n * one) := by
  obtain ⟨k, scale, bound⟩ := one_limit
  have size : (n * one).natAbs = n.natAbs * 2 ^ k := by
    rw [Int.natAbs_mul, scale]
    rfl
  have units : roundUnits (n * one) = n * one := by
    unfold roundUnits
    rw [size, roundMagnitude_shifted h, ← size]
    split <;> omega
  have small : (n * one).natAbs < limit := by
    rw [size, bound]
    calc n.natAbs * 2 ^ k < 2 ^ 53 * 2 ^ k :=
        Nat.mul_lt_mul_of_pos_right h (Nat.two_pow_pos k)
      _ = 2 ^ (53 + k) := (Nat.pow_add 2 53 k).symm
      _ ≤ 2 ^ (1024 + k) := Nat.pow_le_pow_right (by decide) (by omega)
  rcases round_cases (n * one) with ⟨large, -⟩ | ⟨large, -⟩ | ⟨-, -, found⟩
  · rw [units] at large
    omega
  · rw [units] at large
    omega
  · rw [units] at found
    exact found

end LakeAdmin.Binary64
