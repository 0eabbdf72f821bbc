import ShipMotion.Attitude

/-!
# When the two attitude conversions agree

`eulerXYZToRot` composes roll, pitch and yaw about the fixed axes, so the angles of a rotation
`R` are those of `(R₂₂, R₂₁)`, of `-R₂₀` and of `(R₀₀, R₁₀)`. `getEulerAngles` takes the yaw
from `(R₀₀, R₀₁)`. The file has the decomposition with the right angles, and from it the exact
condition under which the extracted ones rebuild the rotation.
-/

namespace ShipMotion

open Eigen Matrix Utils Utils.Rotations Utils.Atan2
open Real (pi cos sin)

namespace Attitude

/-! ## The rebuilt rotation -/

theorem eulerXYZToRot_real (rx ry rz : ℝ) :
    eulerXYZToRot Libm.real rx ry rz
      = axisRotation (cos rz) (sin rz) unitZ * axisRotation (cos ry) (sin ry) unitY
        * axisRotation (cos rx) (sin rx) unitX := rfl

/-- The entries that the angles are read from, and entry `(0, 1)`. -/
theorem eulerXYZToRot_entries (rx ry rz : ℝ) :
    eulerXYZToRot Libm.real rx ry rz 0 0 = cos rz * cos ry ∧
    eulerXYZToRot Libm.real rx ry rz 1 0 = sin rz * cos ry ∧
    eulerXYZToRot Libm.real rx ry rz 2 0 = -sin ry ∧
    eulerXYZToRot Libm.real rx ry rz 2 1 = cos ry * sin rx ∧
    eulerXYZToRot Libm.real rx ry rz 2 2 = cos ry * cos rx ∧
    eulerXYZToRot Libm.real rx ry rz 0 1 = cos rz * sin ry * sin rx - sin rz * cos rx := by
  rw [eulerXYZToRot_real, unitX, unitY, unitZ, axisRotation_x, axisRotation_y, axisRotation_z]
  refine ⟨?_, ?_, ?_, ?_, ?_, ?_⟩ <;> simp [mul_apply, Fin.sum_univ_three]
  ring

theorem eulerXYZToRot_mem (rx ry rz : ℝ) : eulerXYZToRot Libm.real rx ry rz ∈ SO3 :=
  mul_mem (mul_mem (angleAxis_unitZ_mem rz) (angleAxis_unitY_mem ry)) (angleAxis_unitX_mem rx)

/-! ## The decomposition -/

/-- The yaw that `eulerXYZToRot` rebuilds `R` from. -/
noncomputable def trueYaw (R : Matrix3 ℝ) : ℝ := atan2 (R 1 0) (R 0 0)

/-- With the yaw of the first column, the angles rebuild the rotation. -/
theorem eulerXYZToRot_trueYaw {R : Matrix3 ℝ} (hR : R ∈ SO3) (hlt : |R 2 0| < 1) :
    eulerXYZToRot Libm.real (atan2 (R 2 1) (R 2 2)) (Real.arcsin (-R 2 0)) (trueYaw R) = R := by
  have hsq : R 2 0 ^ 2 < 1 := (sq_lt_one_iff_abs_lt_one _).mpr hlt
  have hbound := abs_lt.mp hlt
  have hsin : sin (Real.arcsin (-R 2 0)) = -R 2 0 :=
    Real.sin_arcsin (by linarith) (by linarith)
  have hcos0 : 0 ≤ cos (Real.arcsin (-R 2 0)) := Real.cos_arcsin_nonneg _
  have hcos : cos (Real.arcsin (-R 2 0)) ^ 2 = 1 - R 2 0 ^ 2 := by
    rw [Real.cos_sq', hsin, neg_sq]
  -- the last row and the first column have length one
  have hroll : R 2 2 ^ 2 + R 2 1 ^ 2 = cos (Real.arcsin (-R 2 0)) ^ 2 := by
    rw [hcos]
    linear_combination row_two_sq hR
  have hyaw : R 0 0 ^ 2 + R 1 0 ^ 2 = cos (Real.arcsin (-R 2 0)) ^ 2 := by
    rw [hcos]
    linear_combination col_zero_sq hR
  obtain ⟨h00, h10, h20, h21, h22, -⟩ :=
    eulerXYZToRot_entries (atan2 (R 2 1) (R 2 2)) (Real.arcsin (-R 2 0)) (trueYaw R)
  have h20' : eulerXYZToRot Libm.real (atan2 (R 2 1) (R 2 2)) (Real.arcsin (-R 2 0))
      (trueYaw R) 2 0 = R 2 0 := by
    rw [h20, hsin, neg_neg]
  refine rotation_ext (eulerXYZToRot_mem _ _ _) hR ?_ ?_ ?_ h20' ?_ ?_
  · rwa [h20']
  · rw [h00, mul_comm]
    exact mul_cos_atan2 hcos0 hyaw
  · rw [h10, mul_comm]
    exact mul_sin_atan2 hcos0 hyaw
  · rw [h21]
    exact mul_sin_atan2 hcos0 hroll
  · rw [h22]
    exact mul_cos_atan2 hcos0 hroll

/-- Two yaws rebuild the same rotation only if they are equal. -/
theorem eulerXYZToRot_yaw_injective {rx ry α β : ℝ} (hα : α ∈ Set.Ioc (-pi) pi)
    (hβ : β ∈ Set.Ioc (-pi) pi)
    (h : eulerXYZToRot Libm.real rx ry α = eulerXYZToRot Libm.real rx ry β) : α = β := by
  -- roll and pitch cancel on the right
  have hcancel : angleAxis Libm.real α unitZ = angleAxis Libm.real β unitZ := by
    unfold eulerXYZToRot at h
    exact mul_right_cancel_of_mem (angleAxis_unitY_mem ry)
      (mul_right_cancel_of_mem (angleAxis_unitX_mem rx) h)
  have hz : axisRotation (cos α) (sin α) unitZ = axisRotation (cos β) (sin β) unitZ := hcancel
  rw [unitZ, axisRotation_z, axisRotation_z] at hz
  have hcos : cos α = cos β := congrFun (congrFun hz 0) 0
  have hsin : sin α = sin β := congrFun (congrFun hz 1) 0
  exact angle_ext hα hβ hcos hsin

/-! ## The condition -/

/-- The yaw read from the first row is the yaw: entries `(0, 1)` and `(1, 0)` are equal, or
the ship points along the second axis and they have the same sign. -/
def YawReadsTrue (R : Matrix3 ℝ) : Prop := R 0 1 = R 1 0 ∨ R 0 0 = 0 ∧ 0 < R 0 1 * R 1 0

theorem first_column_ne_zero {R : Matrix3 ℝ} (hR : R ∈ SO3) (hlt : |R 2 0| < 1) :
    R 0 0 ≠ 0 ∨ R 1 0 ≠ 0 := by
  by_contra h
  rw [not_or, not_not, not_not] at h
  have hsq : R 2 0 ^ 2 < 1 := (sq_lt_one_iff_abs_lt_one _).mpr hlt
  have hcol := col_zero_sq hR
  rw [h.1, h.2] at hcol
  linarith

theorem yaw_eq_trueYaw_iff {R : Matrix3 ℝ} (hR : R ∈ SO3) (hlt : |R 2 0| < 1) :
    atan2 (R 0 1) (R 0 0) = trueYaw R ↔ YawReadsTrue R :=
  atan2_eq_atan2_iff (first_column_ne_zero hR hlt)

/-- The rotation comes back from its extracted angles exactly under the condition. -/
theorem rebuild_iff {R : Matrix3 ℝ} (hR : R ∈ SO3) (hlt : |R 2 0| < 1) :
    eulerXYZToRot Libm.real (getEulerAngles Libm.real R).1 (getEulerAngles Libm.real R).2.1
        (getEulerAngles Libm.real R).2.2 = R ↔ YawReadsTrue R := by
  rw [← yaw_eq_trueYaw_iff hR hlt]
  show eulerXYZToRot Libm.real (atan2 (R 2 1) (R 2 2)) (Real.arcsin (-R 2 0))
    (atan2 (R 0 1) (R 0 0)) = R ↔ _
  constructor
  · intro h
    exact eulerXYZToRot_yaw_injective (atan2_mem _ _) (atan2_mem _ _)
      (h.trans (eulerXYZToRot_trueYaw hR hlt).symm)
  · intro h
    rw [h]
    exact eulerXYZToRot_trueYaw hR hlt

/-- The condition in terms of the angles that were encoded. -/
def YawAnglesReadTrue (rx ry rz : ℝ) : Prop :=
  cos rz * sin ry * sin rx - sin rz * cos rx = sin rz * cos ry ∨ cos rz = 0 ∧ cos rx < 0

theorem yawReadsTrue_eulerXYZToRot {rx ry rz : ℝ} (hcos : 0 < cos ry) :
    YawReadsTrue (eulerXYZToRot Libm.real rx ry rz) ↔ YawAnglesReadTrue rx ry rz := by
  obtain ⟨h00, h10, -, -, -, h01⟩ := eulerXYZToRot_entries rx ry rz
  unfold YawReadsTrue YawAnglesReadTrue
  rw [h00, h10, h01]
  refine or_congr_right ?_
  rw [mul_eq_zero, or_iff_left hcos.ne']
  refine and_congr_right fun hz => ?_
  -- a quarter turn of yaw: the product of the two entries is `-cos rx * cos ry`
  have hsin : sin rz ^ 2 = 1 := by
    rw [Real.sin_sq, hz]
    ring
  have hprod : (cos rz * sin ry * sin rx - sin rz * cos rx) * (sin rz * cos ry)
      = -cos rx * cos ry := by
    rw [hz]
    linear_combination -cos rx * cos ry * hsin
  rw [hprod, mul_pos_iff_of_pos_right hcos, neg_pos]

/-- The angles come back from the rotation they encode exactly under the condition. -/
theorem extract_iff {rx ry rz : ℝ} (hrx : rx ∈ Set.Ioc (-pi) pi)
    (hry : ry ∈ Set.Ioo (-(pi / 2)) (pi / 2)) (hrz : rz ∈ Set.Ioc (-pi) pi) :
    getEulerAngles Libm.real (eulerXYZToRot Libm.real rx ry rz) = (rx, ry, rz) ↔
      YawAnglesReadTrue rx ry rz := by
  have hcos : 0 < cos ry := Real.cos_pos_of_mem_Ioo hry
  obtain ⟨h00, h10, h20, h21, h22, -⟩ := eulerXYZToRot_entries rx ry rz
  have hlt : |eulerXYZToRot Libm.real rx ry rz 2 0| < 1 := by
    rw [h20, abs_neg, ← sq_lt_one_iff_abs_lt_one, Real.sin_sq]
    have := pow_pos hcos 2
    linarith
  have hroll : atan2 (eulerXYZToRot Libm.real rx ry rz 2 1)
      (eulerXYZToRot Libm.real rx ry rz 2 2) = rx := by
    rw [h21, h22]
    exact atan2_mul_sin_mul_cos hcos hrx
  have hpitch : Real.arcsin (-eulerXYZToRot Libm.real rx ry rz 2 0) = ry := by
    rw [h20, neg_neg]
    exact Real.arcsin_sin hry.1.le hry.2.le
  have hyaw : trueYaw (eulerXYZToRot Libm.real rx ry rz) = rz := by
    rw [trueYaw, h00, h10, mul_comm (sin rz), mul_comm (cos rz)]
    exact atan2_mul_sin_mul_cos hcos hrz
  rw [← yawReadsTrue_eulerXYZToRot hcos, ← yaw_eq_trueYaw_iff (eulerXYZToRot_mem _ _ _) hlt, hyaw]
  show (atan2 _ _, Real.arcsin _, atan2 _ _) = (rx, ry, rz) ↔ _
  rw [hroll, hpitch, Prod.mk.injEq, Prod.mk.injEq]
  exact ⟨fun h => h.2.2, fun h => ⟨rfl, rfl, h⟩⟩

/-! ## The result -/

/-- **Encoding and decoding of the attitude.** Away from the pole, a rotation is rebuilt from
its extracted angles, and angles are extracted from the rotation they encode, exactly when the
yaw may be read from the first row. -/
theorem attitude_roundtrip_iff (R : Matrix3 ℝ) (hR : R ∈ SO3) (hlt : |R 2 0| < 1)
    (rx ry rz : ℝ) (hrx : rx ∈ Set.Ioc (-pi) pi) (hry : ry ∈ Set.Ioo (-(pi / 2)) (pi / 2))
    (hrz : rz ∈ Set.Ioc (-pi) pi) :
    (eulerXYZToRot Libm.real (getEulerAngles Libm.real R).1 (getEulerAngles Libm.real R).2.1
        (getEulerAngles Libm.real R).2.2 = R ↔
      R 0 1 = R 1 0 ∨ R 0 0 = 0 ∧ 0 < R 0 1 * R 1 0) ∧
    (getEulerAngles Libm.real (eulerXYZToRot Libm.real rx ry rz) = (rx, ry, rz) ↔
      cos rz * sin ry * sin rx - sin rz * cos rx = sin rz * cos ry ∨ cos rz = 0 ∧ cos rx < 0) :=
  ⟨rebuild_iff hR hlt, extract_iff hrx hry hrz⟩

theorem zero_mem_Ioc : (0 : ℝ) ∈ Set.Ioc (-pi) pi := by
  constructor <;> linarith [Real.pi_pos]

theorem zero_mem_Ioo : (0 : ℝ) ∈ Set.Ioo (-(pi / 2)) (pi / 2) := by
  constructor <;> linarith [Real.pi_pos]

theorem pi_div_two_mem_Ioc : pi / 2 ∈ Set.Ioc (-pi) pi := by
  constructor <;> linarith [Real.pi_pos]

theorem pi_div_six_mem_Ioc : pi / 6 ∈ Set.Ioc (-pi) pi := by
  constructor <;> linarith [Real.pi_pos]

theorem pi_div_six_mem_Ioo : pi / 6 ∈ Set.Ioo (-(pi / 2)) (pi / 2) := by
  constructor <;> linarith [Real.pi_pos]

/-- A quarter turn of roll, with the same pitch and yaw. -/
theorem attitude_roundtrip_iff_leaning :
    ∃ leaning, leaning = eulerXYZToRot Libm.real (pi / 2) (pi / 6) (pi / 6) ∧
      eulerXYZToRot Libm.real (getEulerAngles Libm.real leaning).1
        (getEulerAngles Libm.real leaning).2.1 (getEulerAngles Libm.real leaning).2.2 = leaning ∧
      getEulerAngles Libm.real leaning = (pi / 2, pi / 6, pi / 6) := by
  refine ⟨_, rfl, ?_⟩
  set leaning := eulerXYZToRot Libm.real (pi / 2) (pi / 6) (pi / 6) with hleaning
  have hcos : 0 < cos (pi / 6) := Real.cos_pos_of_mem_Ioo pi_div_six_mem_Ioo
  have hangles : YawAnglesReadTrue (pi / 2) (pi / 6) (pi / 6) := by
    left
    rw [Real.sin_pi_div_two, Real.cos_pi_div_two]
    ring
  have hrows : YawReadsTrue leaning := (yawReadsTrue_eulerXYZToRot hcos).mpr hangles
  have hlt : |leaning 2 0| < 1 := by
    rw [hleaning, (eulerXYZToRot_entries _ _ _).2.2.1, abs_neg, ← sq_lt_one_iff_abs_lt_one,
      Real.sin_sq]
    have := pow_pos hcos 2
    linarith
  have h := attitude_roundtrip_iff leaning (eulerXYZToRot_mem _ _ _) hlt (pi / 2) (pi / 6) (pi / 6)
    pi_div_two_mem_Ioc pi_div_six_mem_Ioo pi_div_six_mem_Ioc
  exact ⟨h.1.mpr hrows, h.2.mpr hangles⟩

/-- A quarter turn of yaw and nothing else: the extracted yaw is not `π / 2`, and the rebuilt
rotation is not the one the ship has. -/
theorem attitude_quarter_turn :
    getEulerAngles Libm.real (eulerXYZToRot Libm.real 0 0 (pi / 2)) ≠ (0, 0, pi / 2) ∧
    eulerXYZToRot Libm.real 0 0 (pi / 2) ∈ SO3 ∧
    |eulerXYZToRot Libm.real 0 0 (pi / 2) 2 0| < 1 ∧
    eulerXYZToRot Libm.real
      (getEulerAngles Libm.real (eulerXYZToRot Libm.real 0 0 (pi / 2))).1
      (getEulerAngles Libm.real (eulerXYZToRot Libm.real 0 0 (pi / 2))).2.1
      (getEulerAngles Libm.real (eulerXYZToRot Libm.real 0 0 (pi / 2))).2.2
        ≠ eulerXYZToRot Libm.real 0 0 (pi / 2) := by
  have hfalse : ¬ YawAnglesReadTrue 0 0 (pi / 2) := by
    unfold YawAnglesReadTrue
    norm_num
  have hlt : |eulerXYZToRot Libm.real 0 0 (pi / 2) 2 0| < 1 := by
    rw [(eulerXYZToRot_entries 0 0 (pi / 2)).2.2.1]
    simp
  refine ⟨?_, eulerXYZToRot_mem _ _ _, hlt, ?_⟩
  · rwa [Ne, extract_iff zero_mem_Ioc zero_mem_Ioo pi_div_two_mem_Ioc]
  · rw [Ne, rebuild_iff (eulerXYZToRot_mem _ _ _) hlt,
      yawReadsTrue_eulerXYZToRot (by simp)]
    exact hfalse

end Attitude
end ShipMotion
