/- Module: MiniCam/Foundation/FixedPoint
   source: none
   digest: Linear forms over integers whose weights are rounded to a binary scale, against the
     exact forms. -/

import Mathlib.Algebra.Order.Field.Rat
import Mathlib.Algebra.Order.Group.MinMax
import Mathlib.Algebra.Order.Ring.Abs
import Mathlib.Data.Rat.Cast.Order
import Mathlib.Tactic.FieldSimp
import Mathlib.Tactic.Linarith
import Mathlib.Tactic.Ring

set_option autoImplicit false
set_option relaxedAutoImplicit false

namespace MiniCam.Foundation.FixedPoint

/-- One term of a form: the exact weight, the integer that stands for it at the scale, the value,
and a bound on the value. -/
structure Term where
  exact : ℚ
  weight : Int
  value : Int
  radius : ℚ

def scaledSum (terms : List Term) : Int := (terms.map fun t => t.weight * t.value).sum

def exactSum (terms : List Term) : ℚ := (terms.map fun t => t.exact * (t.value : ℚ)).sum

def drift (scale : ℚ) (terms : List Term) : ℚ :=
  (terms.map fun t => |t.weight / scale - t.exact| * t.radius).sum

/-- Half of the scale is added before the low bits are dropped. -/
def roundShift (bits : Nat) (n : Int) : Int := (n + 2 ^ bits) >>> (bits + 1)

theorem roundShift_near (bits : Nat) (n : Int) :
    |(roundShift bits n : ℚ) - n / 2 ^ (bits + 1)| ≤ 1 / 2 := by
  have positive : (0 : Int) < 2 ^ (bits + 1) := by positivity
  have floor : roundShift bits n = (n + 2 ^ bits) / 2 ^ (bits + 1) :=
    Int.shiftRight_eq_div_pow _ _
  have lower := Int.mul_ediv_self_le (x := n + 2 ^ bits) (k := 2 ^ (bits + 1)) positive.ne'
  have upper := Int.lt_mul_ediv_self_add (x := n + 2 ^ bits) positive
  rw [← floor] at lower upper
  have lower : (2 ^ (bits + 1) : ℚ) * roundShift bits n ≤ n + 2 ^ bits := by exact_mod_cast lower
  have upper : (n : ℚ) + 2 ^ bits < 2 ^ (bits + 1) * roundShift bits n + 2 ^ (bits + 1) := by
    exact_mod_cast upper
  have scale : (0 : ℚ) < 2 ^ (bits + 1) := by positivity
  have half : (2 : ℚ) ^ bits = 2 ^ (bits + 1) * (1 / 2) := by ring
  have whole : (2 : ℚ) ^ (bits + 1) * (n / 2 ^ (bits + 1)) = n := mul_div_cancel₀ _ scale.ne'
  rw [abs_le]
  constructor
  · by_contra low
    have strict := mul_lt_mul_of_pos_left (not_le.mp low) scale
    rw [mul_sub, whole] at strict
    linarith
  · by_contra high
    have strict := mul_lt_mul_of_pos_left (not_le.mp high) scale
    rw [mul_sub, whole] at strict
    linarith

theorem scaledSum_near {scale : ℚ} (positive : 0 < scale) (terms : List Term)
    (bounded : ∀ t ∈ terms, |(t.value : ℚ)| ≤ t.radius) :
    |(scaledSum terms : ℚ) / scale - exactSum terms| ≤ drift scale terms := by
  induction terms with
  | nil => simp [scaledSum, exactSum, drift]
  | cons t rest ih =>
    have later := ih fun other member => bounded other (List.mem_cons_of_mem t member)
    have here : |((t.weight : ℚ) / scale - t.exact) * t.value| ≤
        |(t.weight : ℚ) / scale - t.exact| * t.radius := by
      rw [abs_mul]
      exact mul_le_mul_of_nonneg_left (bounded t List.mem_cons_self) (abs_nonneg _)
    have parts : (scaledSum (t :: rest) : ℚ) / scale - exactSum (t :: rest) =
        ((t.weight : ℚ) / scale - t.exact) * t.value +
          ((scaledSum rest : ℚ) / scale - exactSum rest) := by
      simp only [scaledSum, exactSum, List.map_cons, List.sum_cons]
      push_cast
      field_simp
      ring
    rw [parts]
    exact (abs_add_le _ _).trans (add_le_add here later)

def hold (low high : ℚ) (value : ℚ) : ℚ := max low (min value high)

theorem hold_near (low high a b : ℚ) : |hold low high a - hold low high b| ≤ |a - b| := by
  unfold hold
  rw [max_comm low, max_comm low]
  refine (abs_max_sub_max_le_abs _ _ _).trans ((abs_min_sub_min_le_max a high b high).trans ?_)
  simp

/-- A rounded form is within the drift and one half of the exact one. -/
theorem roundShift_scaledSum (bits : Nat) (terms : List Term)
    (bounded : ∀ t ∈ terms, |(t.value : ℚ)| ≤ t.radius) :
    |(roundShift bits (scaledSum terms) : ℚ) - exactSum terms| ≤
      1 / 2 + drift (2 ^ (bits + 1)) terms := by
  have rounded := roundShift_near bits (scaledSum terms)
  have positive : (0 : ℚ) < 2 ^ (bits + 1) := by positivity
  have scaled := scaledSum_near positive terms bounded
  calc |(roundShift bits (scaledSum terms) : ℚ) - exactSum terms|
      = |((roundShift bits (scaledSum terms) : ℚ) - scaledSum terms / 2 ^ (bits + 1)) +
          ((scaledSum terms : ℚ) / 2 ^ (bits + 1) - exactSum terms)| := by ring_nf
    _ ≤ _ := abs_add_le _ _
    _ ≤ _ := add_le_add rounded scaled

end MiniCam.Foundation.FixedPoint
