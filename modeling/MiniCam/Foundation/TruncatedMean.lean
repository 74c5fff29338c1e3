/- Module: MiniCam/Foundation/TruncatedMean
   source: none
   digest: The mean of whole numbers, truncated toward zero, and what a division of their sum
           over 64-bit unsigned numbers makes of it. -/

import Mathlib.Algebra.Order.BigOperators.Group.List
import Mathlib.Algebra.Order.Ring.Int

set_option autoImplicit false
set_option relaxedAutoImplicit false

namespace MiniCam.Foundation.TruncatedMean

section Means

/-- The sum of some values divided by their number, toward zero; zero without values. -/
def mean (values : List Int) : Int := values.sum.tdiv values.length

variable {values : List Int} {bound : Int}

theorem le_mean (some_value : values ≠ []) (below : ∀ value ∈ values, bound ≤ value) :
    bound ≤ mean values := by
  have positive : (0 : Int) < values.length := by
    exact_mod_cast List.length_pos_iff_ne_nil.mpr some_value
  have total := List.card_nsmul_le_sum values bound below
  rw [nsmul_eq_mul, mul_comm] at total
  exact Int.le_tdiv_of_mul_le positive total

theorem mean_le (some_value : values ≠ []) (above : ∀ value ∈ values, value ≤ bound) :
    mean values ≤ bound := by
  have positive : (0 : Int) < values.length := by
    exact_mod_cast List.length_pos_iff_ne_nil.mpr some_value
  have total := List.sum_le_card_nsmul values bound above
  rw [nsmul_eq_mul, mul_comm] at total
  calc mean values ≤ (bound * values.length).tdiv values.length := Int.tdiv_le_tdiv positive total
    _ = bound := Int.mul_tdiv_cancel bound positive.ne'

end Means

section Unsigned

/-- `total / count` of a signed total by an unsigned count: both count as 64-bit unsigned
numbers, and the quotient is read as a signed one again. -/
def unsignedQuotient (total : Int) (count : Nat) : Int :=
  Int.bmod ((total % 2 ^ 64).toNat / count : Nat) (2 ^ 64)

variable {total : Int} {count : Nat}

theorem bmod_of_small {n : Nat} (small : n < 2 ^ 63) : Int.bmod n (2 ^ 64) = n := by
  apply Int.bmod_eq_of_le
  · omega
  · omega

theorem unsignedQuotient_of_nonneg (nonneg : 0 ≤ total) (fits : total < 2 ^ 63) :
    unsignedQuotient total count = total / count := by
  have same : total % 2 ^ 64 = total := Int.emod_eq_of_lt nonneg (by omega)
  have small : total.toNat / count < 2 ^ 63 :=
    Nat.lt_of_le_of_lt (Nat.div_le_self total.toNat count) (by omega)
  unfold unsignedQuotient
  rw [same, bmod_of_small small, Int.natCast_div, Int.toNat_of_nonneg nonneg]

theorem unsignedQuotient_of_neg (negative : total < 0) (fits : -2 ^ 63 ≤ total)
    (several : 2 ≤ count) :
    unsignedQuotient total count = ((total + 2 ^ 64).toNat / count : Nat) := by
  have bits : total % 2 ^ 64 = total + 2 ^ 64 := by omega
  have small : (total + 2 ^ 64).toNat / count < 2 ^ 63 :=
    Nat.div_lt_of_lt_mul (by omega)
  unfold unsignedQuotient
  rw [bits, bmod_of_small small]

theorem unsignedQuotient_one (low : -2 ^ 63 ≤ total) (high : total < 2 ^ 63) :
    unsignedQuotient total 1 = total := by
  have wrapped : Int.bmod (total % (2 ^ 64 : Nat)) (2 ^ 64) = Int.bmod total (2 ^ 64) :=
    Int.emod_bmod total (2 ^ 64)
  have same : Int.bmod total (2 ^ 64) = total := by
    apply Int.bmod_eq_of_le
    · omega
    · omega
  unfold unsignedQuotient
  rw [Nat.div_one, Int.toNat_of_nonneg (by omega)]
  exact wrapped.trans same

theorem div_add_eq_iff {n k p : Nat} (positive : 0 < k) :
    n / (k + p) = n / k ↔ n / k * p ≤ n % k := by
  have whole := Nat.div_add_mod n k
  have spread : n / k * (k + p) = k * (n / k) + n / k * p := by
    rw [Nat.mul_add, Nat.mul_comm (n / k) k]
  have smaller : n / (k + p) ≤ n / k := Nat.div_le_div_left (Nat.le_add_right k p) positive
  constructor
  · intro same
    have covered : n / k * (k + p) ≤ n := by
      rw [← same]
      exact Nat.div_mul_le_self n (k + p)
    omega
  · intro covered
    have larger : n / k ≤ n / (k + p) := by
      rw [Nat.le_div_iff_mul_le (by omega)]
      omega
    exact Nat.le_antisymm smaller larger

/-- When an unsigned division by `k + p` gives the quotient by `k`, toward zero: for totals that
are not negative when the remainder covers the difference; for negative ones only in a division by
one, or when so much is divided by that both quotients vanish. -/
theorem unsignedQuotient_eq_tdiv_iff {k p : Nat} (positive : 0 < k) (low : -2 ^ 63 ≤ total)
    (high : total < 2 ^ 63) :
    unsignedQuotient total (k + p) = total.tdiv k ↔
      0 ≤ total ∧ total / k * p ≤ total % k ∨
        total < 0 ∧ (k + p = 1 ∨ -k < total ∧ total + 2 ^ 64 < k + p) := by
  rcases lt_or_ge total 0 with negative | nonneg
  · by_cases one : k + p = 1
    · have single : k = 1 := by omega
      subst single
      simp only [one, negative, true_and, true_or, or_true, iff_true]
      rw [unsignedQuotient_one low high]
      exact (Int.tdiv_one total).symm
    · obtain ⟨m, rfl⟩ := Int.exists_eq_neg_ofNat (Int.le_of_lt negative)
      rw [unsignedQuotient_of_neg negative low (by omega), Int.neg_tdiv, ← Int.ofNat_tdiv]
      have left_zero : (-(m : Int) + 2 ^ 64).toNat / (k + p) = 0 ↔
          -(m : Int) + 2 ^ 64 < k + p := by
        rw [Nat.div_eq_zero_iff]
        omega
      have right_zero : m / k = 0 ↔ -(k : Int) < -m := by
        rw [Nat.div_eq_zero_iff]
        omega
      generalize (-(m : Int) + 2 ^ 64).toNat / (k + p) = q at left_zero ⊢
      generalize m / k = r at right_zero ⊢
      omega
  · rw [unsignedQuotient_of_nonneg nonneg high, Int.tdiv_eq_ediv_of_nonneg nonneg]
    obtain ⟨n, rfl⟩ := Int.eq_ofNat_of_zero_le nonneg
    constructor
    · intro same
      left
      refine ⟨nonneg, ?_⟩
      exact_mod_cast (div_add_eq_iff positive).mp (by exact_mod_cast same)
    · rintro (⟨-, covered⟩ | ⟨negative, -⟩)
      · exact_mod_cast (div_add_eq_iff positive).mpr (by exact_mod_cast covered)
      · omega

end Unsigned

end MiniCam.Foundation.TruncatedMean
