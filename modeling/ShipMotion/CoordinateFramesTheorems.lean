import ShipMotion.PointCloudFuser
import ShipMotion.SixDofCalculatorTheorems

/-!
# One dock frame for both radars

The fuser maps the frames of B into the coordinates of A, and the calculator conjugates the
motion seen by a radar into the dock frame. Both use transforms built from the same two
extrinsics. Seen from the dock they agree: a fused cloud is the union of what the two radars
see there, and a motion of the ship is the same motion whichever radar saw it.
-/

namespace ShipMotion
namespace CoordinateFrames

open Eigen Utils AffineMap3

/-- Over the reals, the transform of a radar to the dock. -/
noncomputable abbrev toDock (ext : RadarExtrinsic ℝ) : Affine3 ℝ :=
  buildLidarTransform Libm.real ext

/-- The motion `M` of the dock frame in the coordinates of a radar. -/
noncomputable def seenBy (ext : RadarExtrinsic ℝ) (M : Affine3 ℝ) : Affine3 ℝ :=
  (toDock ext).inverse * M * toDock ext

/-! ## The fuser -/

section Fuser

variable (fuser : PointCloudFuser.State ℝ) (lidarA lidarB : RadarExtrinsic ℝ)

/-- Into the coordinates of A and from there to the dock is the way from B to the dock. -/
theorem toDock_mul_T_B2A :
    toDock lidarA * (PointCloudFuser.startTransforms Libm.real fuser lidarA lidarB).T_B2A_
      = toDock lidarB := by
  show toDock lidarA * ((toDock lidarA).inverse * toDock lidarB) = _
  rw [← mul_assoc, (isRigid_buildLidarTransform lidarA).mul_inverse, one_mul]

/-- Seen from the dock, a fused cloud is what the two radars see there. -/
theorem toDock_fuse (a b : RawPointCloud ℝ) :
    transformPointCloud (toDock lidarA)
        (PointCloudFuser.fuse
          (PointCloudFuser.startTransforms Libm.real fuser lidarA lidarB).T_B2A_ a b).cloud
      = transformPointCloud (toDock lidarA) a.cloud
        ++ transformPointCloud (toDock lidarB) b.cloud := by
  rw [← toDock_mul_T_B2A fuser lidarA lidarB, transformPointCloud_mul]
  exact List.map_append

theorem valid_points_fuse {K : Type} [CommRing K] (T_B2A_ : Affine3 K) (a b : RawPointCloud K) :
    (PointCloudFuser.fuse T_B2A_ a b).valid_points = a.cloud.length + b.cloud.length := by
  show (((a.cloud ++ transformPointCloud T_B2A_ b.cloud).length : ℕ) : ℤ) = _
  rw [List.length_append, length_transformPointCloud, Nat.cast_add]

end Fuser

/-! ## The calculator -/

/-- Conjugation by a radar's transform undoes the change to that radar's coordinates. -/
theorem conj_seenBy (ext : RadarExtrinsic ℝ) (M : Affine3 ℝ) :
    toDock ext * seenBy ext M * (toDock ext).inverse = M :=
  conj_cancel (isRigid_buildLidarTransform ext).mul_inverse M

section Calculator

variable (calculator : SixDofCalculator.State ℝ) (lidarA lidarB : RadarExtrinsic ℝ) (now_tp : ℤ)

theorem shipDockTransform_A (M : Affine3 ℝ) :
    SixDofCalculator.shipDockTransform
        (SixDofCalculator.initTransforms Libm.real calculator lidarA lidarB now_tp) "A"
        (seenBy lidarA M) = some M :=
  congrArg some (conj_seenBy lidarA M)

theorem shipDockTransform_B (M : Affine3 ℝ) :
    SixDofCalculator.shipDockTransform
        (SixDofCalculator.initTransforms Libm.real calculator lidarA lidarB now_tp) "B"
        (seenBy lidarB M) = some M :=
  congrArg some (conj_seenBy lidarB M)

/-- **Coherence.** For all extrinsics: seen from the dock, a fused cloud is the cloud of A
followed by the cloud of B, with all their points; and the motion of the ship that a frame of A,
alone or fused, or a frame of B shows in its radar's coordinates is conjugated to the motion in
the dock frame. -/
theorem frames_cohere (fuser : PointCloudFuser.State ℝ) (a b : RawPointCloud ℝ) (M : Affine3 ℝ)
    (ha : a.lidar_id = "A") (hb : b.lidar_id = "B") :
    let T_A := buildLidarTransform Libm.real lidarA
    let T_B := buildLidarTransform Libm.real lidarB
    let fused := PointCloudFuser.fuse
      (PointCloudFuser.startTransforms Libm.real fuser lidarA lidarB).T_B2A_ a b
    let dock := SixDofCalculator.shipDockTransform
      (SixDofCalculator.initTransforms Libm.real calculator lidarA lidarB now_tp)
    (transformPointCloud T_A fused.cloud
        = transformPointCloud T_A a.cloud ++ transformPointCloud T_B b.cloud ∧
      fused.valid_points = a.cloud.length + b.cloud.length) ∧
    (dock (PointCloudFuser.single a).lidar_id (T_A.inverse * M * T_A) = some M ∧
      dock fused.lidar_id (T_A.inverse * M * T_A) = some M) ∧
    dock (PointCloudFuser.single b).lidar_id (T_B.inverse * M * T_B) = some M := by
  intro T_A T_B fused dock
  have hA : dock a.lidar_id (T_A.inverse * M * T_A) = some M := by
    rw [ha]
    exact shipDockTransform_A calculator lidarA lidarB now_tp M
  have hB : dock b.lidar_id (T_B.inverse * M * T_B) = some M := by
    rw [hb]
    exact shipDockTransform_B calculator lidarA lidarB now_tp M
  exact ⟨⟨toDock_fuse fuser lidarA lidarB a b, valid_points_fuse _ a b⟩, ⟨hA, hA⟩, hB⟩

/-- A radar on a mast, turned by a quarter about the vertical and tilted. -/
noncomputable def tiltedExtrinsic : RadarExtrinsic ℝ where
  trans := ![0, 0, 5]
  rotate_z_deg := 90
  rotate_y_deg := 10

/-- A fuser without frames. -/
def emptyFuser : PointCloudFuser.State ℝ :=
  { debug_save := 0, T_B2A_ := 1, cacheA_ := [], cacheB_ := [] }

/-- A level radar A and a tilted radar B agree on half a turn of the ship. -/
theorem frames_cohere_halfTurn :
    SixDofCalculator.shipDockTransform
        (SixDofCalculator.initTransforms Libm.real SixDofCalculator.mooredState
          SixDofCalculator.levelExtrinsic tiltedExtrinsic 0) "B"
        ((buildLidarTransform Libm.real tiltedExtrinsic).inverse * SixDofCalculator.halfTurn
          * buildLidarTransform Libm.real tiltedExtrinsic)
      = some SixDofCalculator.halfTurn :=
  (frames_cohere SixDofCalculator.mooredState SixDofCalculator.levelExtrinsic tiltedExtrinsic 0
    emptyFuser ⟨"", "A", 0, [⟨1, 0, 0⟩]⟩ ⟨"", "B", 0, [⟨0, 1, 0⟩]⟩ SixDofCalculator.halfTurn
    rfl rfl).2.2

end Calculator
end CoordinateFrames
end ShipMotion
