import ShipMotion.Utils.Rotations

/-!
# Affine maps of three-space

A linear part and a translation, with composition and inverse, acting on the points of the
space. Over the reals, the maps whose linear part is a rotation are the rigid motions: they
are closed under the operations and have two-sided inverses.
-/

namespace ShipMotion.Utils

open Matrix

@[ext] structure AffineMap3 (K : Type) where
  linear : Matrix (Fin 3) (Fin 3) K
  translation : Fin 3 → K

namespace AffineMap3

section CommRing

variable {K : Type} [CommRing K]

/-- The image of a point. -/
def apply (T : AffineMap3 K) (p : Fin 3 → K) : Fin 3 → K := T.linear *ᵥ p + T.translation

/-- Composition: `(S * T)` maps a point by `T` and then by `S`. -/
instance : Mul (AffineMap3 K) where
  mul S T := ⟨S.linear * T.linear, S.linear *ᵥ T.translation + S.translation⟩

instance : One (AffineMap3 K) where
  one := ⟨1, 0⟩

@[simp] theorem one_linear : (1 : AffineMap3 K).linear = 1 := rfl
@[simp] theorem one_translation : (1 : AffineMap3 K).translation = 0 := rfl
@[simp] theorem mul_linear (S T : AffineMap3 K) : (S * T).linear = S.linear * T.linear := rfl
@[simp] theorem mul_translation (S T : AffineMap3 K) :
    (S * T).translation = S.linear *ᵥ T.translation + S.translation := rfl

instance : Monoid (AffineMap3 K) where
  mul_assoc R S T := by
    ext1
    · exact Matrix.mul_assoc _ _ _
    · simp only [mul_translation, mul_linear, mulVec_add, mulVec_mulVec, add_assoc]
  one_mul T := by
    ext1 <;> simp
  mul_one T := by
    ext1 <;> simp

@[simp] theorem apply_one (p : Fin 3 → K) : (1 : AffineMap3 K).apply p = p := by
  rw [apply, one_linear, one_translation, one_mulVec, add_zero]

theorem apply_mul (S T : AffineMap3 K) (p : Fin 3 → K) :
    (S * T).apply p = S.apply (T.apply p) := by
  rw [apply, apply, apply, mul_linear, mul_translation, mulVec_add, mulVec_mulVec, add_assoc]

/-- An affine map is determined by the images of the origin and of the unit vectors. -/
theorem ext_of_frame {S T : AffineMap3 K} (h0 : S.apply 0 = T.apply 0)
    (h : ∀ i, S.apply (Pi.single i 1) = T.apply (Pi.single i 1)) : S = T := by
  have ht : S.translation = T.translation := by
    rwa [apply, apply, mulVec_zero, mulVec_zero, zero_add, zero_add] at h0
  refine AffineMap3.ext ?_ ht
  ext i j
  have hj := congrFun (h j) i
  rw [apply, apply, ht, mulVec_single_one, mulVec_single_one] at hj
  exact add_right_cancel hj

/-- Conjugating back and forth with a map and its right inverse does nothing. -/
theorem conj_cancel {T T' : AffineMap3 K} (h : T * T' = 1) (X : AffineMap3 K) :
    T * (T' * X * T) * T' = X := by
  calc T * (T' * X * T) * T' = T * T' * X * (T * T') := by simp only [mul_assoc]
    _ = X := by rw [h, one_mul, mul_one]

end CommRing

section Field

variable {K : Type} [Field K]

/-- The inverse, by the adjugate of the linear part. -/
def inverse (T : AffineMap3 K) : AffineMap3 K :=
  let linear := T.linear.det⁻¹ • T.linear.adjugate
  ⟨linear, -(linear *ᵥ T.translation)⟩

variable {T : AffineMap3 K}

theorem mul_inverse (h : T.linear.det ≠ 0) : T * T.inverse = 1 := by
  have hlin : T.linear * (T.linear.det⁻¹ • T.linear.adjugate) = 1 := by
    rw [Matrix.mul_smul, mul_adjugate, smul_smul, inv_mul_cancel₀ h, one_smul]
  ext1
  · exact hlin
  · rw [mul_translation, inverse, mulVec_neg, mulVec_mulVec, hlin, one_mulVec, one_translation,
      neg_add_cancel]

theorem inverse_mul (h : T.linear.det ≠ 0) : T.inverse * T = 1 := by
  have hlin : (T.linear.det⁻¹ • T.linear.adjugate) * T.linear = 1 := by
    rw [Matrix.smul_mul, adjugate_mul, smul_smul, inv_mul_cancel₀ h, one_smul]
  ext1
  · exact hlin
  · rw [mul_translation, inverse, one_translation, add_neg_cancel]

end Field

/-! ## Rigid motions -/

/-- The linear part is a rotation. -/
def IsRigid (T : AffineMap3 ℝ) : Prop := T.linear ∈ Rotations.SO3

namespace IsRigid

variable {S T : AffineMap3 ℝ}

theorem mul (hS : IsRigid S) (hT : IsRigid T) : IsRigid (S * T) := mul_mem hS hT

theorem det_ne_zero (hT : IsRigid T) : T.linear.det ≠ 0 := by
  rw [(Rotations.mem_SO3_iff.mp hT).2]
  exact one_ne_zero

theorem mul_inverse (hT : IsRigid T) : T * T.inverse = 1 :=
  AffineMap3.mul_inverse hT.det_ne_zero

theorem inverse_mul (hT : IsRigid T) : T.inverse * T = 1 :=
  AffineMap3.inverse_mul hT.det_ne_zero

theorem inverse (hT : IsRigid T) : IsRigid T.inverse := by
  obtain ⟨horth, hdet⟩ := Rotations.mem_SO3_iff.mp hT
  have hlin : T.inverse.linear = T.linearᵀ := by
    show T.linear.det⁻¹ • T.linear.adjugate = _
    rw [hdet, inv_one, one_smul, Rotations.adjugate_of_mem hT]
  show T.inverse.linear ∈ Rotations.SO3
  rw [hlin, Rotations.mem_SO3_iff, transpose_transpose, det_transpose]
  exact ⟨Rotations.transpose_mul_of_mem hT, hdet⟩

/-- A rigid motion is its own inverse exactly when doing it twice does nothing. -/
theorem inverse_eq_self_iff (hT : IsRigid T) : T.inverse = T ↔ T * T = 1 := by
  constructor
  · intro h
    calc T * T = T * T.inverse := by rw [h]
      _ = 1 := hT.mul_inverse
  · intro h
    calc T.inverse = T.inverse * (T * T) := by rw [h, mul_one]
      _ = T := by rw [← mul_assoc, hT.inverse_mul, one_mul]

end IsRigid
end AffineMap3
end ShipMotion.Utils
