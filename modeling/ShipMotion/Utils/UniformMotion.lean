import Mathlib.Algebra.Order.Field.Basic
import Mathlib.Tactic.NormNum
import Mathlib.Tactic.Ring

/-!
# Uniformly accelerated motion and its second differences

A motion `p + v t + a t² / 2` along one axis, sampled at three instants. The second difference
of the samples, over the square of one interval, is the acceleration if the two intervals are
equal; the file says exactly when it is.
-/

namespace ShipMotion.Utils

variable {K : Type} [Field K]

/-- Position at time zero, velocity at time zero, acceleration. -/
structure UniformMotion (K : Type) where
  p : K
  v : K
  a : K

namespace UniformMotion

/-- Where the motion is at time `t`. -/
def position (m : UniformMotion K) (t : K) : K := m.p + m.v * t + m.a * t ^ (2 : ℕ) / 2.0

/-- How fast it is at time `t`. -/
def velocity (m : UniformMotion K) (t : K) : K := m.v + m.a * t

/-- The second difference of three samples. -/
def secondDiff (p0 p1 p2 : K) : K := p2 - 2.0 * p1 + p0

section

variable [LinearOrder K] [IsStrictOrderedRing K]

/-- What the second difference sees: the velocity in the middle as far as the intervals
differ, and the acceleration over both. -/
theorem secondDiff_position (m : UniformMotion K) (t0 t1 t2 : K) :
    secondDiff (m.position t0) (m.position t1) (m.position t2) =
      m.velocity t1 * ((t2 - t1) - (t1 - t0))
        + m.a * ((t2 - t1) ^ 2 + (t1 - t0) ^ 2) / 2 := by
  simp only [secondDiff, position, velocity]
  norm_num
  ring

/-- Over the square of the second interval it is the acceleration just when the intervals are
equal, or the motion has half of the velocity it gains over both. -/
theorem secondDiff_div_eq_iff (m : UniformMotion K) {t0 t1 t2 : K} (h12 : t1 < t2) :
    secondDiff (m.position t0) (m.position t1) (m.position t2) / (t2 - t1) ^ 2 = m.a ↔
      t1 - t0 = t2 - t1 ∨ m.velocity t1 = m.a * (t2 - t0) / 2 := by
  have hne : (t2 - t1) ^ 2 ≠ 0 := pow_ne_zero 2 (sub_ne_zero.mpr h12.ne')
  -- the error is a product of the difference of the intervals and of the excess velocity
  have herr : secondDiff (m.position t0) (m.position t1) (m.position t2)
      - m.a * (t2 - t1) ^ 2
      = ((t2 - t1) - (t1 - t0)) * (m.velocity t1 - m.a * (t2 - t0) / 2) := by
    rw [secondDiff_position]
    ring
  rw [div_eq_iff hne, ← sub_eq_zero, herr, mul_eq_zero, sub_eq_zero, sub_eq_zero]
  exact or_congr_left eq_comm

end

end UniformMotion
end ShipMotion.Utils
