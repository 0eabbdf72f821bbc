import ShipMotion.Eigen

/-!
# `config_loader`: the extrinsics and the registration parameters

The records of the configuration that the fuser and the calculator read, and the transform
from a radar to the dock that an extrinsic stands for.
-/

namespace ShipMotion

open Eigen

variable {K : Type} [Field K]

/-- The extrinsic of one radar: its place and its rotation angles, in degrees. -/
structure RadarExtrinsic (K : Type) [Field K] where
  trans : Vector3 K
  rotate_z_deg : K
  rotate_y_deg : K := 0
  rotate_x_deg : K := 0

structure NdtParam (K : Type) [Field K] where
  voxel_x : K := 0.1
  voxel_y : K := 0.1
  voxel_z : K := 0.1
  max_iter : Int32 := 30
  trans_eps : K := 1e-6
  step_size : K := 0.1
  resolution : K := 0.5
  fit_thresh : K := 1.5

structure GicpParam (K : Type) [Field K] where
  voxel_x : K := 0.05
  voxel_y : K := 0.05
  voxel_z : K := 0.05
  use_reciprocal : Bool := true
  max_corr_dist : K := 0.3
  max_iter : Int32 := 150
  trans_eps : K := 1e-6
  euclid_eps : K := 1e-6
  rot_eps : K := 1e-3
  rand_num : Int32 := 15
  fit_thresh : K := 1.0
  score_radius : K := 0.5

structure RegParam (K : Type) [Field K] where
  ndt : NdtParam K := {}
  gicp : GicpParam K := {}

/-- The parameters before a configuration file is read. -/
def RegParam.initial : RegParam K := {}

/-- `buildLidarTransform(ext)` -/
def buildLidarTransform (m : Libm K) (ext : RadarExtrinsic K) : Affine3 K :=
  let trans : Affine3 K := { (1 : Affine3 K) with translation := ext.trans }
  let rad_z := ext.rotate_z_deg * m.pi / 180
  let rad_y := ext.rotate_y_deg * m.pi / 180
  let rad_x := ext.rotate_x_deg * m.pi / 180
  let trans := rotate trans (angleAxis m rad_z unitZ)
  let trans := rotate trans (angleAxis m rad_y unitY)
  rotate trans (angleAxis m rad_x unitX)

/-- `getLidarATrans(lidarA)` -/
def getLidarATrans (m : Libm K) (lidarA : RadarExtrinsic K) : Affine3 K :=
  buildLidarTransform m lidarA

/-- `getLidarBTrans(lidarB)` -/
def getLidarBTrans (m : Libm K) (lidarB : RadarExtrinsic K) : Affine3 K :=
  buildLidarTransform m lidarB

/-- The transform from a radar to the dock is a rigid motion, whatever the extrinsic. -/
theorem isRigid_buildLidarTransform (ext : RadarExtrinsic ℝ) :
    (buildLidarTransform Libm.real ext).IsRigid :=
  mul_mem (mul_mem (mul_mem (one_mem _) (angleAxis_unitZ_mem _)) (angleAxis_unitY_mem _))
    (angleAxis_unitX_mem _)

end ShipMotion
