import Mathlib.Analysis.SpecialFunctions.Complex.Arg

/-!
# The two-argument arctangent

`atan2 y x` is the angle in `(-π, π]` of the point `(x, y)`, and `0` at the origin.
The file has the values it takes on polar coordinates and the condition under which two
points on one vertical line have the same angle.
-/

namespace ShipMotion.Utils

open Real (pi cos sin sqrt)

/-- The angle of the point `(x, y)`. -/
noncomputable def atan2 (y x : ℝ) : ℝ := Complex.arg ⟨x, y⟩

namespace Atan2

theorem atan2_mem (y x : ℝ) : atan2 y x ∈ Set.Ioc (-pi) pi := Complex.arg_mem_Ioc _

/-- `atan2` inverts polar coordinates. -/
theorem atan2_mul_sin_mul_cos {r θ : ℝ} (hr : 0 < r) (hθ : θ ∈ Set.Ioc (-pi) pi) :
    atan2 (r * sin θ) (r * cos θ) = θ := by
  have hpolar : (⟨r * cos θ, r * sin θ⟩ : ℂ) = r * (Complex.cos θ + Complex.sin θ * Complex.I) := by
    apply Complex.ext
    · simp [Complex.cos_ofReal_re]
    · simp [Complex.sin_ofReal_re]
  rw [atan2, hpolar]
  exact Complex.arg_mul_cos_add_sin_mul_I hr hθ

/-- The length of the hypotenuse. -/
theorem norm_mk (x y : ℝ) : ‖(⟨x, y⟩ : ℂ)‖ = sqrt (x ^ 2 + y ^ 2) := by
  rw [Complex.norm_def, Complex.normSq_mk, sq, sq]

theorem mul_cos_atan2 {r x y : ℝ} (hr : 0 ≤ r) (hxy : x ^ 2 + y ^ 2 = r ^ 2) :
    r * cos (atan2 y x) = x := by
  have hnorm := Complex.norm_mul_cos_arg ⟨x, y⟩
  rwa [norm_mk, hxy, Real.sqrt_sq hr] at hnorm

theorem mul_sin_atan2 {r x y : ℝ} (hr : 0 ≤ r) (hxy : x ^ 2 + y ^ 2 = r ^ 2) :
    r * sin (atan2 y x) = y := by
  have hnorm := Complex.norm_mul_sin_arg ⟨x, y⟩
  rwa [norm_mk, hxy, Real.sqrt_sq hr] at hnorm

/-- Angles in `(-π, π]` are told apart by their cosine and sine. -/
theorem angle_ext {α β : ℝ} (hα : α ∈ Set.Ioc (-pi) pi) (hβ : β ∈ Set.Ioc (-pi) pi)
    (hcos : cos α = cos β) (hsin : sin α = sin β) : α = β := by
  rw [← atan2_mul_sin_mul_cos one_pos hα, ← atan2_mul_sin_mul_cos one_pos hβ, hcos, hsin]

/-- On the vertical axis the angle only depends on the side. -/
theorem atan2_zero_right_eq {y z : ℝ} (h : 0 < y * z) : atan2 y 0 = atan2 z 0 := by
  have hy : y ≠ 0 := left_ne_zero_of_mul h.ne'
  have hpos : 0 < z / y := by
    rw [div_eq_mul_inv, ← mul_pos_iff_of_pos_right (mul_self_pos.mpr hy)]
    have hcancel : z * y⁻¹ * (y * y) = y * z := by
      field_simp
    rwa [hcancel]
  have hscale : (⟨0, z⟩ : ℂ) = ((z / y : ℝ) : ℂ) * ⟨0, y⟩ := by
    apply Complex.ext
    · simp
    · simp [div_mul_cancel₀ _ hy]
  rw [atan2, atan2, hscale, Complex.arg_real_mul _ hpos]

/-- Two points above one another, the second not the origin, have the same angle only if they
are equal or lie on the same half of the vertical axis. -/
theorem atan2_eq_atan2_iff {x y z : ℝ} (hz : x ≠ 0 ∨ z ≠ 0) :
    atan2 y x = atan2 z x ↔ y = z ∨ (x = 0 ∧ 0 < y * z) := by
  constructor
  · intro h
    rw [atan2, atan2] at h
    have hzx : (⟨x, z⟩ : ℂ) ≠ 0 := by
      intro h0
      have hre := congrArg Complex.re h0
      have him := congrArg Complex.im h0
      rcases hz with hx | hz
      · exact hx hre
      · exact hz him
    by_cases hyx : (⟨x, y⟩ : ℂ) = 0
    · -- the angle of the origin is 0, so the other point lies on the positive real axis
      rw [hyx, Complex.arg_zero, eq_comm, Complex.arg_eq_zero_iff] at h
      have hy : y = 0 := congrArg Complex.im hyx
      left
      rw [hy]
      exact h.2.symm
    · -- the points are on one ray, and `t` is the factor from the one to the other
      rw [Complex.arg_eq_arg_iff hyx hzx] at h
      have hpos : 0 < ‖(⟨x, z⟩ : ℂ)‖ / ‖(⟨x, y⟩ : ℂ)‖ :=
        div_pos (norm_pos_iff.mpr hzx) (norm_pos_iff.mpr hyx)
      set t := ‖(⟨x, z⟩ : ℂ)‖ / ‖(⟨x, y⟩ : ℂ)‖ with ht
      rw [← Complex.ofReal_div, ← ht] at h
      have hre : t * x = x := by
        have h' := congrArg Complex.re h
        rwa [Complex.re_ofReal_mul] at h'
      have him : t * y = z := by
        have h' := congrArg Complex.im h
        rwa [Complex.im_ofReal_mul] at h'
      by_cases hx : x = 0
      · right
        refine ⟨hx, ?_⟩
        have hy : y ≠ 0 := by
          intro hy
          exact hyx (Complex.ext hx hy)
        rw [← him, mul_left_comm]
        exact mul_pos hpos (mul_self_pos.mpr hy)
      · -- off the vertical axis, the common coordinate makes the factor one
        left
        have ht1 : t = 1 := mul_right_cancel₀ hx (by rw [hre, one_mul])
        rw [← him, ht1, one_mul]
  · rintro (h | ⟨hx, h⟩)
    · rw [h]
    · rw [hx]
      exact atan2_zero_right_eq h

end Atan2
end ShipMotion.Utils
