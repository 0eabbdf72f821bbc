import Mathlib.LinearAlgebra.UnitaryGroup
import Mathlib.LinearAlgebra.Matrix.Notation
import Mathlib.Analysis.SpecialFunctions.Trigonometric.Basic
import Mathlib.Tactic.LinearCombination
import ShipMotion.Utils.Atan2

/-!
# Rotations of three-space

Rotation matrices about an axis, and the facts about `SO(3)` behind a decomposition into
rotations about the coordinate axes: every entry of a rotation is its own cofactor, and a
rotation whose lower left entry is not `±1` is determined by its first column and last row.
-/

namespace ShipMotion.Utils

open Matrix

/-- The number of axes is positive: the index literals of three-space. -/
instance axesNeZero : NeZero (3 : ℕ) := ⟨by decide⟩

/-- The matrix of the rotation about the unit vector `a` by the angle with cosine `c` and
sine `s`. -/
def axisRotation {K : Type} [CommRing K] (c s : K) (a : Fin 3 → K) : Matrix (Fin 3) (Fin 3) K :=
  let x := a 0
  let y := a 1
  let z := a 2
  !![(1 - c) * x * x + c, (1 - c) * x * y - s * z, (1 - c) * x * z + s * y;
     (1 - c) * x * y + s * z, (1 - c) * y * y + c, (1 - c) * y * z - s * x;
     (1 - c) * x * z - s * y, (1 - c) * y * z + s * x, (1 - c) * z * z + c]

namespace Rotations

section Axis

variable {K : Type} [CommRing K] (c s : K)

theorem axisRotation_x : axisRotation c s ![1, 0, 0] = !![1, 0, 0; 0, c, -s; 0, s, c] := by
  simp [axisRotation]

theorem axisRotation_y : axisRotation c s ![0, 1, 0] = !![c, 0, s; 0, 1, 0; -s, 0, c] := by
  simp [axisRotation]

theorem axisRotation_z : axisRotation c s ![0, 0, 1] = !![c, -s, 0; s, c, 0; 0, 0, 1] := by
  simp [axisRotation]

/-- The products of the rows, up to the squares of `c`, `s` and the axis summing to one. -/
theorem axisRotation_gram (a : Fin 3 → K) (i j : Fin 3) :
    (axisRotation c s a * (axisRotation c s a)ᵀ) i j
      = (1 : Matrix (Fin 3) (Fin 3) K) i j
        + ((1 : Matrix (Fin 3) (Fin 3) K) i j - a i * a j) * (c ^ 2 + s ^ 2 - 1)
        + ((1 - c) ^ 2 * (a i * a j) + s ^ 2 * (1 : Matrix (Fin 3) (Fin 3) K) i j)
          * (a 0 ^ 2 + a 1 ^ 2 + a 2 ^ 2 - 1) := by
  fin_cases i <;> fin_cases j <;> simp [axisRotation, mul_apply, Fin.sum_univ_three] <;> ring

theorem det_axisRotation (a : Fin 3 → K) :
    (axisRotation c s a).det
      = ((1 - c) * (a 0 ^ 2 + a 1 ^ 2 + a 2 ^ 2) + c)
        * (c ^ 2 + s ^ 2 * (a 0 ^ 2 + a 1 ^ 2 + a 2 ^ 2)) := by
  rw [det_fin_three]
  simp only [axisRotation, of_apply, cons_val_zero, cons_val_one, cons_val]
  ring

end Axis

/-! ## `SO(3)` -/

/-- The rotations of real three-space. -/
abbrev SO3 : Submonoid (Matrix (Fin 3) (Fin 3) ℝ) := specialOrthogonalGroup (Fin 3) ℝ

variable {R S : Matrix (Fin 3) (Fin 3) ℝ}

theorem mem_SO3_iff : R ∈ SO3 ↔ R * Rᵀ = 1 ∧ R.det = 1 :=
  mem_specialOrthogonalGroup_iff.trans (and_congr_left' (mem_orthogonalGroup_iff _ _))

/-- A rotation about a unit vector is a rotation. -/
theorem axisRotation_mem {c s : ℝ} {a : Fin 3 → ℝ} (hcs : c ^ 2 + s ^ 2 = 1)
    (ha : a 0 ^ 2 + a 1 ^ 2 + a 2 ^ 2 = 1) : axisRotation c s a ∈ SO3 := by
  rw [mem_SO3_iff]
  constructor
  · ext i j
    rw [axisRotation_gram, hcs, ha]
    ring
  · rw [det_axisRotation, ha]
    linear_combination hcs

theorem mul_transpose_of_mem (hR : R ∈ SO3) : R * Rᵀ = 1 := (mem_SO3_iff.mp hR).1

theorem transpose_mul_of_mem (hR : R ∈ SO3) : Rᵀ * R = 1 :=
  mul_eq_one_comm.mp (mul_transpose_of_mem hR)

theorem mul_right_cancel_of_mem {A B : Matrix (Fin 3) (Fin 3) ℝ} (hR : R ∈ SO3)
    (h : A * R = B * R) : A = B := by
  calc A = A * R * Rᵀ := by rw [Matrix.mul_assoc, mul_transpose_of_mem hR, Matrix.mul_one]
    _ = B * R * Rᵀ := by rw [h]
    _ = B := by rw [Matrix.mul_assoc, mul_transpose_of_mem hR, Matrix.mul_one]

/-- The transpose of a rotation is its adjugate. -/
theorem adjugate_of_mem (hR : R ∈ SO3) : R.adjugate = Rᵀ := by
  have hadj : R * R.adjugate = 1 := by
    rw [mul_adjugate, (mem_SO3_iff.mp hR).2, one_smul]
  calc R.adjugate = Rᵀ * R * R.adjugate := by rw [transpose_mul_of_mem hR, one_mul]
    _ = Rᵀ := by rw [Matrix.mul_assoc, hadj, Matrix.mul_one]

/-- The first column has length one. -/
theorem col_zero_sq (hR : R ∈ SO3) : R 0 0 ^ 2 + R 1 0 ^ 2 + R 2 0 ^ 2 = 1 := by
  have h := congrFun (congrFun (transpose_mul_of_mem hR) 0) 0
  rw [mul_apply, Fin.sum_univ_three, one_apply_eq] at h
  simp only [transpose_apply] at h
  linear_combination h

/-- The last row has length one. -/
theorem row_two_sq (hR : R ∈ SO3) : R 2 0 ^ 2 + R 2 1 ^ 2 + R 2 2 ^ 2 = 1 := by
  have h := congrFun (congrFun (mul_transpose_of_mem hR) 2) 2
  rw [mul_apply, Fin.sum_univ_three, one_apply_eq] at h
  simp only [transpose_apply] at h
  linear_combination h

/-- The four entries outside the first column and the last row, as solutions of the linear
equations their cofactors give. -/
theorem inner_entries (hR : R ∈ SO3) :
    (1 - R 2 0 ^ 2) * R 0 1 = -(R 0 0 * R 2 0 * R 2 1) - R 1 0 * R 2 2 ∧
    (1 - R 2 0 ^ 2) * R 1 1 = R 0 0 * R 2 2 - R 1 0 * R 2 0 * R 2 1 ∧
    (1 - R 2 0 ^ 2) * R 0 2 = R 1 0 * R 2 1 - R 0 0 * R 2 0 * R 2 2 ∧
    (1 - R 2 0 ^ 2) * R 1 2 = -(R 1 0 * R 2 0 * R 2 2) - R 0 0 * R 2 1 := by
  -- every entry is its own cofactor; each cofactor brings in one other inner entry
  have hadj := adjugate_of_mem hR
  rw [adjugate_fin_three] at hadj
  have h01 : -(R 1 0 * R 2 2) + R 1 2 * R 2 0 = R 0 1 := congrFun (congrFun hadj 1) 0
  have h11 : R 0 0 * R 2 2 - R 0 2 * R 2 0 = R 1 1 := congrFun (congrFun hadj 1) 1
  have h02 : R 1 0 * R 2 1 - R 1 1 * R 2 0 = R 0 2 := congrFun (congrFun hadj 2) 0
  have h12 : -(R 0 0 * R 2 1) + R 0 1 * R 2 0 = R 1 2 := congrFun (congrFun hadj 2) 1
  refine ⟨?_, ?_, ?_, ?_⟩
  · linear_combination -h01 - R 2 0 * h12
  · linear_combination -h11 + R 2 0 * h02
  · linear_combination -h02 + R 2 0 * h11
  · linear_combination -h12 - R 2 0 * h01

/-- A rotation whose lower left entry is not `±1` is determined by its first column and its
last row. -/
theorem rotation_ext (hR : R ∈ SO3) (hS : S ∈ SO3) (hlt : R 2 0 ^ 2 < 1)
    (h00 : R 0 0 = S 0 0) (h10 : R 1 0 = S 1 0) (h20 : R 2 0 = S 2 0) (h21 : R 2 1 = S 2 1)
    (h22 : R 2 2 = S 2 2) : R = S := by
  obtain ⟨hR01, hR11, hR02, hR12⟩ := inner_entries hR
  obtain ⟨hS01, hS11, hS02, hS12⟩ := inner_entries hS
  rw [← h00, ← h10, ← h20, ← h21, ← h22] at hS01 hS11 hS02 hS12
  have hne : 1 - R 2 0 ^ 2 ≠ 0 := by
    rw [sub_ne_zero]
    exact hlt.ne'
  -- both solve the same linear equations
  have h01 : R 0 1 = S 0 1 := mul_left_cancel₀ hne (hR01.trans hS01.symm)
  have h11 : R 1 1 = S 1 1 := mul_left_cancel₀ hne (hR11.trans hS11.symm)
  have h02 : R 0 2 = S 0 2 := mul_left_cancel₀ hne (hR02.trans hS02.symm)
  have h12 : R 1 2 = S 1 2 := mul_left_cancel₀ hne (hR12.trans hS12.symm)
  rw [eta_fin_three R, eta_fin_three S, h00, h01, h02, h10, h11, h12, h20, h21, h22]

end Rotations
end ShipMotion.Utils
