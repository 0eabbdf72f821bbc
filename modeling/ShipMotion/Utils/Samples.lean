import Mathlib.Algebra.BigOperators.Ring.List
import Mathlib.Algebra.Order.BigOperators.Group.List
import Mathlib.Algebra.Order.Field.Basic
import Mathlib.Tactic.Ring

/-!
# Means and covariances of samples

A sample is a list, its variables are functions on the elements. The mean is linear, the
covariance bilinear and blind to constants, and a variable without variance takes one value
only.
-/

namespace ShipMotion.Utils
namespace Samples

variable {α K : Type} [Field K]

/-- The mean of a variable. -/
def mean (l : List α) (f : α → K) : K := (l.map f).sum / (l.length : K)

/-- The covariance of two variables; that of a variable with itself is its variance. -/
def cov (l : List α) (f g : α → K) : K := mean l (fun p => f p * g p) - mean l f * mean l g

variable {l : List α} {f g h : α → K}

theorem mean_congr (hfg : ∀ p ∈ l, f p = g p) : mean l f = mean l g := by
  rw [mean, mean, List.map_congr_left hfg]

theorem mean_add : mean l (fun p => f p + g p) = mean l f + mean l g := by
  rw [mean, mean, mean, List.sum_map_add, add_div]

theorem mean_mul_left (c : K) : mean l (fun p => c * f p) = c * mean l f := by
  rw [mean, mean, List.sum_map_mul_left, mul_div_assoc]

/-- The sum is the mean, as often as there are elements. -/
theorem sum_eq [CharZero K] (hl : l ≠ []) (f : α → K) : (l.map f).sum = l.length * mean l f := by
  have hlen : (l.length : K) ≠ 0 := Nat.cast_ne_zero.mpr (mt List.length_eq_zero_iff.mp hl)
  rw [mean, mul_div_cancel₀ _ hlen]

theorem mean_const [CharZero K] (hl : l ≠ []) (c : K) : mean l (fun _ => c) = c := by
  have hlen : (l.length : K) ≠ 0 := Nat.cast_ne_zero.mpr (mt List.length_eq_zero_iff.mp hl)
  rw [mean, List.map_const', List.sum_replicate, nsmul_eq_mul, mul_div_cancel_left₀ c hlen]

theorem mean_linear [CharZero K] (hl : l ≠ []) (a b c : K) :
    mean l (fun p => a * f p + b * g p + c) = a * mean l f + b * mean l g + c := by
  rw [mean_add, mean_add, mean_mul_left, mean_mul_left, mean_const hl]

theorem cov_comm : cov l f g = cov l g f := by
  rw [cov, cov, mul_comm (mean l f), mean_congr fun p _ => mul_comm (f p) (g p)]

/-- Covariance with a linear combination; the constant does not matter. -/
theorem cov_linear [CharZero K] (hl : l ≠ []) (a b c : K) :
    cov l (fun p => a * f p + b * g p + c) h = a * cov l f h + b * cov l g h := by
  have hprod : mean l (fun p => (a * f p + b * g p + c) * h p)
      = a * mean l (fun p => f p * h p) + b * mean l (fun p => g p * h p) + c * mean l h := by
    rw [← mean_mul_left, ← mean_mul_left, ← mean_mul_left, ← mean_add, ← mean_add]
    exact mean_congr fun p _ => by ring
  rw [cov, cov, cov, hprod, mean_linear hl]
  ring

/-- A variable that is zero everywhere has no covariance. -/
theorem cov_eq_zero (hzero : ∀ p ∈ l, f p = 0) : cov l f g = 0 := by
  have hmean : ∀ k : α → K, (∀ p ∈ l, k p = 0) → mean l k = 0 := by
    intro k hk
    rw [mean, List.map_congr_left hk, List.map_const', List.sum_replicate, nsmul_eq_mul, mul_zero,
      zero_div]
  rw [cov, hmean f hzero, hmean _ fun p hp => by rw [hzero p hp, zero_mul], zero_mul, sub_zero]

section Order

variable [LinearOrder K] [IsStrictOrderedRing K]

/-- The variance is the mean square of the deviations from the mean. -/
theorem cov_self_eq (hl : l ≠ []) :
    cov l f f = mean l (fun p => (f p - mean l f) ^ 2) := by
  have hsq : mean l (fun p => (f p - mean l f) ^ 2)
      = mean l (fun p => f p * f p) + (-2 * mean l f) * mean l f + mean l f ^ 2 := by
    rw [← mean_const hl (mean l f ^ 2), ← mean_mul_left, ← mean_add, ← mean_add]
    exact mean_congr fun p _ => by ring
  rw [hsq, cov]
  ring

/-- No variance, one value. -/
theorem cov_self_eq_zero_iff (hl : l ≠ []) :
    cov l f f = 0 ↔ ∀ p ∈ l, f p = mean l f := by
  have hlen : (l.length : K) ≠ 0 := Nat.cast_ne_zero.mpr (mt List.length_eq_zero_iff.mp hl)
  rw [cov_self_eq hl]
  constructor
  · intro hzero p hp
    have hsum : (l.map fun p => (f p - mean l f) ^ 2).sum = 0 := by
      rw [sum_eq hl, hzero, mul_zero]
    have hsq := List.all_zero_of_le_zero_le_of_sum_eq_zero
      (fun x hx => by
        obtain ⟨q, -, rfl⟩ := List.mem_map.mp hx
        exact sq_nonneg _) hsum (List.mem_map_of_mem hp)
    exact sub_eq_zero.mp (pow_eq_zero_iff two_ne_zero |>.mp hsq)
  · intro hall
    rw [mean, List.map_congr_left (g := fun _ => (0 : K)) fun p hp => by
      rw [hall p hp, sub_self]; exact zero_pow two_ne_zero]
    rw [List.map_const', List.sum_replicate, nsmul_eq_mul, mul_zero, zero_div]

end Order

end Samples
end ShipMotion.Utils
