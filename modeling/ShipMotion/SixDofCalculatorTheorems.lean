import Mathlib.Algebra.Order.Archimedean.Real.Basic
import ShipMotion.SixDofCalculator

/-!
# What the reported pose means

The current cloud is the registration's source and the base cloud its target, so an exact
registration returns the motion *from* the current frame *to* the base. Conjugated into the
dock frame this is the inverse of the ship's motion. The file has the effect of a call on the
members, the transform it reports for a ship that moved by `M`, and the motions for which that
transform is `M` itself.
-/

namespace ShipMotion
namespace SixDofCalculator

open Eigen Utils AffineMap3

/-! ## One call -/

section Call

variable {K : Type} [Field K] [LinearOrder K] [FloorRing K] {pcl : Pcl K}
variable {self : State K} {c : FusedPointCloud K} {now_tp : ℤ}

/-- The whole minutes of an interval, in nanoseconds. -/
def wholeMinutes (interval_min : K) : ℤ := trunc interval_min * (60 * 10 ^ 9)

/-- The nanoseconds of the whole minutes of an interval are an `int64_t`. -/
def FitsInt64 (interval_min : K) : Prop := |trunc interval_min| ≤ 153722867

/-- Such an interval is computed without a wrap. -/
theorem intervalDur_of_fits {interval_min : K} (h : FitsInt64 interval_min) :
    intervalDur interval_min = wholeMinutes interval_min := by
  obtain ⟨hge, hle⟩ := abs_le.mp h
  have hconverted : toLongLong interval_min = trunc interval_min := by
    rw [toLongLong]
    omega
  rw [intervalDur, hconverted, wholeMinutes, Int.bmod_eq_of_le]
  · omega
  · omega

/-- Without need for an update nothing changes. -/
theorem updateBase_of_not_need (h : needUpdateBase self now_tp = false) :
    updateBase pcl self c now_tp = (self, []) := by
  rw [updateBase, h]
  rfl

/-- An update makes the current frame the base, whatever its cloud. -/
theorem updateBase_of_need (h : needUpdateBase self now_tp = true) :
    (updateBase pcl self c now_tp).1.fuse_pc_base_ = some c := by
  rw [updateBase, if_pos h]
  dsimp only
  split <;> rfl

/-- The configuration is only read. -/
theorem updateBase_config (pcl : Pcl K) (self : State K) (c : FusedPointCloud K) (now_tp : ℤ) :
    (updateBase pcl self c now_tp).1.regCfg_ = self.regCfg_ ∧
    (updateBase pcl self c now_tp).1.T_A2dock_ = self.T_A2dock_ ∧
    (updateBase pcl self c now_tp).1.T_B2dock_ = self.T_B2dock_ ∧
    (updateBase pcl self c now_tp).1.base_update_interval_min
      = self.base_update_interval_min := by
  by_cases h : needUpdateBase self now_tp = true
  · rw [updateBase, if_pos h]
    dsimp only
    split <;> exact ⟨rfl, rfl, rfl, rfl⟩
  · rw [updateBase_of_not_need (Bool.eq_false_iff.mpr h)]
    exact ⟨rfl, rfl, rfl, rfl⟩

omit [LinearOrder K] [FloorRing K] in
/-- Two frames with points are registered. -/
theorem registeredPair_eq {base : FusedPointCloud K} (hbase : self.fuse_pc_base_ = some base)
    (hc : c.cloud ≠ []) (hb : base.cloud ≠ []) : registeredPair self c = some (c, base) := by
  rw [← List.isEmpty_eq_false_iff] at hc hb
  rw [registeredPair, hbase]
  simp only [hc, hb, Bool.or_self, Bool.false_eq_true, if_false]

/-- The members are left as the update leaves them. -/
theorem calculateSixDof_state (m : Libm K) :
    (calculateSixDof pcl m self c now_tp).1 = (updateBase pcl self c now_tp).1 := by
  unfold calculateSixDof
  dsimp only
  split
  · rfl
  · split <;> rfl

end Call

section Transform

variable {K : Type} [Field K] [LinearOrder K]

/-- The extrinsic transform used for the frames of a radar. -/
def radarTransform (self : State K) (lidar_id : String) : Option (Affine3 K) :=
  if lidar_id = "B" then some self.T_B2dock_
  else if lidar_id = "A" then some self.T_A2dock_
  else none

omit [LinearOrder K] in
theorem shipDockTransform_eq (self : State K) (lidar_id : String) (T_local : Affine3 K) :
    shipDockTransform self lidar_id T_local
      = (radarTransform self lidar_id).map fun T => T * T_local * T.inverse := by
  unfold shipDockTransform radarTransform
  dsimp only
  split
  · rfl
  · split <;> rfl

/-- The coarse registration followed by the fine one. -/
def register (pcl : Pcl K) (cfg : RegParam K) (src dst : Cloud K) : Affine3 K :=
  (fineRegistrationGICP pcl src dst (coarseRegistration pcl src dst cfg) cfg).1

variable [FloorRing K]

/-- The `T_ship_dock` of a call, if the call gets there. -/
def shipDock (pcl : Pcl K) (self : State K) (c : FusedPointCloud K) (now_tp : ℤ) :
    Option (Affine3 K) :=
  let next := (updateBase pcl self c now_tp).1
  match registeredPair next c with
  | none => none
  | some (src, dst) =>
    shipDockTransform next c.lidar_id (register pcl next.regCfg_ src.cloud dst.cloud)

/-- The reported translation is that of `T_ship_dock`, in centimetres. -/
theorem calculateSixDof_translation {pcl : Pcl K} {self : State K} {c : FusedPointCloud K}
    {now_tp : ℤ} (m : Libm K) {T : Affine3 K} (h : shipDock pcl self c now_tp = some T) :
    (calculateSixDof pcl m self c now_tp).2.1.tx = T.translation 0 * 100 ∧
    (calculateSixDof pcl m self c now_tp).2.1.ty = T.translation 1 * 100 ∧
    (calculateSixDof pcl m self c now_tp).2.1.tz = T.translation 2 * 100 := by
  unfold shipDock at h
  unfold calculateSixDof
  dsimp only at h ⊢
  cases hpair : registeredPair (updateBase pcl self c now_tp).1 c with
  | none =>
    rw [hpair] at h
    cases h
  | some frames =>
    rw [hpair] at h
    dsimp only at h ⊢
    unfold register at h
    rw [h]
    exact ⟨rfl, rfl, rfl⟩

end Transform

/-! ## The reported motion -/

/-- The registration of two clouds is exact: it returns *the* rigid motion that maps the
source onto the target. -/
def RegistersExactly (pcl : Pcl ℝ) (cfg : RegParam ℝ) (src dst : Cloud ℝ) : Prop :=
  ∀ X : Affine3 ℝ, X.IsRigid → transformPointCloud X src = dst → register pcl cfg src dst = X

/-- `moved` is the cloud `base` after the motion `M` of the dock frame, both seen from a radar
with extrinsic transform `T`. -/
def MovedBy (T M : Affine3 ℝ) (base moved : Cloud ℝ) : Prop :=
  transformPointCloud T moved = transformPointCloud M (transformPointCloud T base)

theorem MovedBy.back {T M : Affine3 ℝ} {base moved : Cloud ℝ} (hT : T.IsRigid) (hM : M.IsRigid)
    (h : MovedBy T M base moved) :
    transformPointCloud (T.inverse * M.inverse * T) moved = base := by
  unfold MovedBy at h
  rw [transformPointCloud_mul, h, ← transformPointCloud_mul, ← transformPointCloud_mul]
  have hcancel : T.inverse * M.inverse * (M * T) = 1 := by
    calc T.inverse * M.inverse * (M * T) = T.inverse * (M.inverse * M) * T := by
          simp only [mul_assoc]
      _ = 1 := by rw [hM.inverse_mul, mul_one, hT.inverse_mul]
  rw [mul_assoc, hcancel, transformPointCloud_one]

theorem MovedBy.ne_nil {T M : Affine3 ℝ} {base moved : Cloud ℝ} (h : MovedBy T M base moved)
    (hne : base ≠ []) : moved ≠ [] := by
  have hlen := congrArg List.length h
  rw [length_transformPointCloud, length_transformPointCloud, length_transformPointCloud] at hlen
  rw [← List.length_pos_iff] at hne ⊢
  omega

variable {pcl : Pcl ℝ} {self : State ℝ} {c base : FusedPointCloud ℝ} {now_tp : ℤ}
variable {T M : Affine3 ℝ}

/-- For a ship that moved by `M`, the call computes the inverse of `M`: the registration maps
the current cloud onto the base cloud. -/
theorem shipDock_of_moved
    (hbase : (updateBase pcl self c now_tp).1.fuse_pc_base_ = some base) (hne : base.cloud ≠ [])
    (hext : radarTransform self c.lidar_id = some T) (hT : T.IsRigid) (hM : M.IsRigid)
    (hmoved : MovedBy T M base.cloud c.cloud)
    (hreg : RegistersExactly pcl self.regCfg_ c.cloud base.cloud) :
    shipDock pcl self c now_tp = some M.inverse := by
  obtain ⟨hcfg, hA, hB, -⟩ := updateBase_config pcl self c now_tp
  have hpair : registeredPair (updateBase pcl self c now_tp).1 c = some (c, base) :=
    registeredPair_eq hbase (hmoved.ne_nil hne) hne
  have hradar : radarTransform (updateBase pcl self c now_tp).1 c.lidar_id = some T := by
    rw [radarTransform, hA, hB]
    exact hext
  -- the current cloud is the source: exactness gives the motion back to the base
  have hX : register pcl self.regCfg_ c.cloud base.cloud = T.inverse * M.inverse * T :=
    hreg _ ((hT.inverse.mul hM.inverse).mul hT) (hmoved.back hT hM)
  rw [shipDock, hpair]
  dsimp only
  rw [shipDockTransform_eq, hradar, hcfg, hX, Option.map_some, conj_cancel hT.mul_inverse]

/-- **The reported pose.** Let the current cloud be the base cloud moved by `M`, seen by one
radar with any extrinsic, and let the registration be exact. Then `T_ship_dock` is `M`, and the
reported translation that of `M` in centimetres, exactly when `M` is its own inverse. -/
theorem shipDock_eq_motion_iff (pcl : Pcl ℝ) (self : State ℝ) (c base : FusedPointCloud ℝ)
    (now_tp : ℤ) (ext : RadarExtrinsic ℝ) (M : Affine3 ℝ)
    (hbase : (updateBase pcl self c now_tp).1.fuse_pc_base_ = some base) (hne : base.cloud ≠ [])
    (hext : radarTransform self c.lidar_id = some (buildLidarTransform Libm.real ext))
    (hM : M.IsRigid)
    (hmoved : MovedBy (buildLidarTransform Libm.real ext) M base.cloud c.cloud)
    (hreg : RegistersExactly pcl self.regCfg_ c.cloud base.cloud) :
    (shipDock pcl self c now_tp = some M ∧
      (calculateSixDof pcl Libm.real self c now_tp).2.1.tx = M.translation 0 * 100 ∧
      (calculateSixDof pcl Libm.real self c now_tp).2.1.ty = M.translation 1 * 100 ∧
      (calculateSixDof pcl Libm.real self c now_tp).2.1.tz = M.translation 2 * 100) ↔
    M * M = 1 := by
  have hdock := shipDock_of_moved hbase hne hext (isRigid_buildLidarTransform ext) hM hmoved hreg
  rw [← hM.inverse_eq_self_iff]
  constructor
  · intro h
    rw [hdock] at h
    exact Option.some.inj h.1
  · intro h
    rw [h] at hdock
    exact ⟨hdock, calculateSixDof_translation Libm.real hdock⟩

/-! ## A registration that is exact -/

/-- The origin and the three unit points: a cloud that no two rigid motions move alike. -/
def frameCloud : Cloud ℝ := [⟨0, 0, 0⟩, ⟨1, 0, 0⟩, ⟨0, 1, 0⟩, ⟨0, 0, 1⟩]

theorem eq_of_transform_frameCloud {S T : Affine3 ℝ}
    (h : transformPointCloud S frameCloud = transformPointCloud T frameCloud) : S = T := by
  unfold transformPointCloud frameCloud at h
  simp only [List.map_cons, List.map_nil, List.cons.injEq, and_true] at h
  obtain ⟨h0, hx, hy, hz⟩ := h
  have hvec : ∀ {p : PointXYZ ℝ}, ofVec (S.apply (vec p)) = ofVec (T.apply (vec p)) →
      S.apply (vec p) = T.apply (vec p) := by
    intro p hp
    rw [← vec_ofVec (S.apply (vec p)), hp, vec_ofVec]
  refine ext_of_frame ?_ fun i => ?_
  · convert hvec h0 using 2 <;> ext i <;> fin_cases i <;> rfl
  · fin_cases i
    · convert hvec hx using 2 <;> ext i <;> fin_cases i <;> simp [vec]
    · convert hvec hy using 2 <;> ext i <;> fin_cases i <;> simp [vec]
    · convert hvec hz using 2 <;> ext i <;> fin_cases i <;> simp [vec]

/-- A library whose registrations converge with a perfect score to the motion `X`. -/
def exactPcl (X : Affine3 ℝ) : Pcl ℝ where
  voxelGrid _ cloud := cloud
  ndt _ _ _ _ := ⟨true, 0, X⟩
  gicp _ _ _ _ := ⟨true, 0, X⟩
  compute3DCentroid _ := 0
  rotation T := T.linear
  to_string _ := "1.000000"

/-- If `X` maps the source onto the four points, it is exact. -/
theorem exactPcl_registersExactly {X : Affine3 ℝ} {cfg : RegParam ℝ} {src : Cloud ℝ}
    (hsrc : transformPointCloud X src = frameCloud) (hX : X.IsRigid)
    (hcfg : 0 ≤ cfg.gicp.fit_thresh) :
    RegistersExactly (exactPcl X) cfg src frameCloud := by
  intro Y _ hY
  have hback : src = transformPointCloud X.inverse frameCloud := by
    rw [← hsrc, ← transformPointCloud_mul, hX.inverse_mul, transformPointCloud_one]
  have hYX : Y * X.inverse = 1 := by
    apply eq_of_transform_frameCloud
    rw [transformPointCloud_mul, ← hback, hY, transformPointCloud_one]
  have hXY : X = Y := by
    calc X = Y * X.inverse * X := by rw [hYX, one_mul]
      _ = Y := by rw [mul_assoc, hX.inverse_mul, mul_one]
  have hsrcne : src.isEmpty = false := by
    rw [hback]
    rfl
  have hfine : ¬ (!true || decide ((0 : ℝ) > cfg.gicp.fit_thresh)) = true := by
    simpa using hcfg
  rw [register, fineRegistrationGICP, hsrcne]
  show (if (!true || decide ((0 : ℝ) > cfg.gicp.fit_thresh)) = true then _ else (X, [])).1 = Y
  rw [if_neg hfine]
  exact hXY

/-- Radar A, one second after its four points became the base, and the configuration it runs
under: an extrinsic without rotation, and an update every minute. -/
noncomputable def levelExtrinsic : RadarExtrinsic ℝ where
  trans := ![0, 0, 1]
  rotate_z_deg := 0

noncomputable def mooredState : State ℝ where
  base_update_interval_min := 1
  regCfg_ := .initial
  T_A2dock_ := buildLidarTransform Libm.real levelExtrinsic
  T_B2dock_ := 1
  fuse_pc_base_ := some ⟨"", "A", 0, frameCloud, 4⟩
  last_base_update_tp_ := 0
  base_min_x_body_ := 0
  base_max_x_body_ := 1
  base_extremum_calc_ := true

/-- The four points after the motion `M` of the dock frame, as radar A sees them. -/
noncomputable def movedFrame (M : Affine3 ℝ) : FusedPointCloud ℝ :=
  let T := buildLidarTransform Libm.real levelExtrinsic
  ⟨"", "A", 1, transformPointCloud (T.inverse * M * T) frameCloud, 4⟩

/-- The motion that registers them. -/
noncomputable def backMotion (M : Affine3 ℝ) : Affine3 ℝ :=
  let T := buildLidarTransform Libm.real levelExtrinsic
  T.inverse * M.inverse * T

theorem movedFrame_movedBy :
    MovedBy (buildLidarTransform Libm.real levelExtrinsic) M frameCloud (movedFrame M).cloud := by
  have hT := isRigid_buildLidarTransform levelExtrinsic
  rw [MovedBy, movedFrame, ← transformPointCloud_mul, ← transformPointCloud_mul, ← mul_assoc,
    ← mul_assoc, hT.mul_inverse, one_mul]

theorem backMotion_registersExactly (hM : M.IsRigid) :
    RegistersExactly (exactPcl (backMotion M)) mooredState.regCfg_ (movedFrame M).cloud
      frameCloud := by
  have hT := isRigid_buildLidarTransform levelExtrinsic
  exact exactPcl_registersExactly (movedFrame_movedBy.back hT hM)
    ((hT.inverse.mul hM.inverse).mul hT) (by norm_num [mooredState, RegParam.initial])

/-- After one second the update interval has not passed. -/
theorem mooredState_keeps_base (pcl : Pcl ℝ) (c : FusedPointCloud ℝ) :
    (updateBase pcl mooredState c (10 ^ 9)).1.fuse_pc_base_
      = some ⟨"", "A", 0, frameCloud, 4⟩ := by
  have hone : trunc (1 : ℝ) = 1 := by rw [trunc, if_pos zero_le_one, Int.floor_one]
  have hinterval : intervalDur (1 : ℝ) = 1 * (60 * 10 ^ 9) := by
    rw [intervalDur_of_fits, wholeMinutes, hone]
    rw [FitsInt64, hone]
    decide
  have hneed : needUpdateBase mooredState (10 ^ 9) = false := by
    show decide ((10 : ℤ) ^ 9 - 0 ≥ intervalDur (1 : ℝ)) = false
    rw [hinterval]
    decide
  rw [updateBase_of_not_need hneed]
  rfl

/-- Half a turn about the vertical axis of the dock. -/
def halfTurn : Affine3 ℝ := ⟨axisRotation (-1) 0 unitZ, 0⟩

theorem halfTurn_isRigid : halfTurn.IsRigid :=
  Rotations.axisRotation_mem (by norm_num) (by simp [unitZ])

theorem halfTurn_sq : halfTurn * halfTurn = 1 := by
  ext i j
  · rw [mul_linear, halfTurn, unitZ, Rotations.axisRotation_z, Matrix.mul_apply,
      Fin.sum_univ_three]
    fin_cases i <;> fin_cases j <;> simp
  · simp [halfTurn]

/-- For a ship turned by half a turn the reported transform is its motion. -/
theorem shipDock_eq_motion_iff_halfTurn :
    shipDock (exactPcl (backMotion halfTurn)) mooredState (movedFrame halfTurn) (10 ^ 9)
      = some halfTurn :=
  ((shipDock_eq_motion_iff (exactPcl (backMotion halfTurn)) mooredState (movedFrame halfTurn)
    ⟨"", "A", 0, frameCloud, 4⟩ (10 ^ 9) levelExtrinsic halfTurn
    (mooredState_keeps_base _ _) (List.cons_ne_nil _ _) rfl halfTurn_isRigid
    movedFrame_movedBy (backMotion_registersExactly halfTurn_isRigid)).mpr halfTurn_sq).1

/-- One metre along the first axis of the dock. -/
def surge : Affine3 ℝ := ⟨1, ![1, 0, 0]⟩

theorem surge_isRigid : surge.IsRigid := one_mem Rotations.SO3

theorem surge_inverse : surge.inverse = ⟨1, ![-1, 0, 0]⟩ := by
  ext i j
  · simp [inverse, surge]
  · fin_cases i <;> simp [inverse, surge]

/-- A ship that surged by one metre: the cloud is the base cloud moved by that metre and the
registration is exact, but the reported transform is the motion back, and the reported `tx`
is minus 100 centimetres. -/
theorem shipDock_surge_reversed :
    surge.IsRigid ∧
    radarTransform mooredState (movedFrame surge).lidar_id
        = some (buildLidarTransform Libm.real levelExtrinsic) ∧
    (updateBase (exactPcl (backMotion surge)) mooredState (movedFrame surge)
        (10 ^ 9)).1.fuse_pc_base_ = some ⟨"", "A", 0, frameCloud, 4⟩ ∧
    MovedBy (buildLidarTransform Libm.real levelExtrinsic) surge frameCloud
        (movedFrame surge).cloud ∧
    RegistersExactly (exactPcl (backMotion surge)) mooredState.regCfg_ (movedFrame surge).cloud
        frameCloud ∧
    shipDock (exactPcl (backMotion surge)) mooredState (movedFrame surge) (10 ^ 9)
        ≠ some surge ∧
    (calculateSixDof (exactPcl (backMotion surge)) Libm.real mooredState (movedFrame surge)
        (10 ^ 9)).2.1.tx = -100 := by
  have hdock : shipDock (exactPcl (backMotion surge)) mooredState (movedFrame surge) (10 ^ 9)
      = some surge.inverse :=
    shipDock_of_moved (mooredState_keeps_base _ _) (List.cons_ne_nil _ _) rfl
      (isRigid_buildLidarTransform _) surge_isRigid movedFrame_movedBy
      (backMotion_registersExactly surge_isRigid)
  have htx := (calculateSixDof_translation Libm.real hdock).1
  rw [surge_inverse] at hdock htx
  refine ⟨surge_isRigid, rfl, mooredState_keeps_base _ _, movedFrame_movedBy,
    backMotion_registersExactly surge_isRigid, ?_, ?_⟩
  · rw [hdock, Ne, Option.some.injEq, AffineMap3.ext_iff, not_and_or]
    right
    intro h
    have h0 := congrFun h 0
    norm_num [surge] at h0
  · rw [htx]
    norm_num

/-! ## A ship that lies still -/

/-- The library on clouds whose points are all one point, with registrations that find nothing to
move. -/
def stillPcl : Pcl ℚ where
  voxelGrid _ cloud := cloud.dedup
  ndt _ _ _ _ := ⟨true, 0, 1⟩
  gicp _ _ _ _ := ⟨true, 0, 1⟩
  compute3DCentroid cloud := vec (cloud.headD ⟨0, 0, 0⟩)
  rotation T := T.linear
  to_string _ := "1.000000"

/-- The mathematics library at the angle zero. -/
def stillLibm : Libm ℚ where
  sin x := x
  cos _ := 1
  asin x := x
  atan2 y _ := y
  pi := 355 / 113

/-- The calculator before the first frame, with an update interval of one minute. -/
def newCalculator : State ℚ :=
  { base_update_interval_min := 1, regCfg_ := .initial, T_A2dock_ := 1, T_B2dock_ := 1
    fuse_pc_base_ := none, last_base_update_tp_ := 0
    base_min_x_body_ := 0, base_max_x_body_ := 0, base_extremum_calc_ := false }

end SixDofCalculator
end ShipMotion
