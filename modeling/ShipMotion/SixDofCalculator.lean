import Mathlib.Algebra.Order.Floor.Defs
import ShipMotion.Attitude
import ShipMotion.ConfigLoader
import ShipMotion.SystemStateManager

/-!
# `SixDofCalculator::calculateSixDof`

One call under `base_mtx_`: the base frame is replaced when there is none or the update
interval has passed, the current cloud is registered onto the base cloud, and the local
motion is conjugated by the extrinsic of the current frame's radar into the dock frame.

PCL's filters and registrations, Eigen's `rotation()` and `std::to_string` are parameters
(`Pcl`). The rows of the debug CSV file are left out.
-/

namespace ShipMotion
namespace SixDofCalculator

open Eigen

/-- What is read from a registration object after `align`. -/
structure AlignOutcome (K : Type) where
  hasConverged : Bool
  getFitnessScore : K
  getFinalTransformation : Affine3 K

/-- What the module calls outside the repository. -/
structure Pcl (K : Type) [Field K] where
  /-- `VoxelGrid` with the given leaf size -/
  voxelGrid : Vector3 K → Cloud K → Cloud K
  /-- `NormalDistributionsTransform`: parameters, source, target, initial guess -/
  ndt : NdtParam K → Cloud K → Cloud K → Affine3 K → AlignOutcome K
  /-- `GeneralizedIterativeClosestPoint`: parameters, source, target, initial guess -/
  gicp : GicpParam K → Cloud K → Cloud K → Affine3 K → AlignOutcome K
  compute3DCentroid : Cloud K → Vector3 K
  /-- `Affine3f::rotation()` -/
  rotation : Affine3 K → Matrix3 K
  to_string : K → String
  /-- The first body coordinate computed for a point is NaN: `x` is, or `y` or `z` is or is
  infinite. -/
  isnan : PointXYZ K → Bool := fun _ => false

/-- The result of a call. `ship_length` has no initialiser: `none` is never assigned. -/
structure SixDofResult (K : Type) where
  lidar_ip : String := ""
  lidar_id : String := ""
  timestamp : UInt64
  tx : K
  ty : K
  tz : K
  rx : K
  ry : K
  rz : K
  confidence : K
  ship_length : Option K := none

/-- The members a call reads and writes. The base frame is `none` as long as its cloud
pointer is null; time points of the steady clock are nanoseconds. -/
structure State (K : Type) [Field K] where
  base_update_interval_min : K
  regCfg_ : RegParam K
  T_A2dock_ : Affine3 K
  T_B2dock_ : Affine3 K
  fuse_pc_base_ : Option (FusedPointCloud K)
  last_base_update_tp_ : ℤ
  base_min_x_body_ : K
  base_max_x_body_ : K
  base_extremum_calc_ : Bool

/-- What the constructor sets from the extrinsics of the two radars, at the time `now_tp`. -/
def initTransforms {K : Type} [Field K] (m : Libm K) (self : State K)
    (lidarA lidarB : RadarExtrinsic K) (now_tp : ℤ) : State K :=
  { self with
    T_A2dock_ := getLidarATrans m lidarA
    T_B2dock_ := getLidarBTrans m lidarB
    last_base_update_tp_ := now_tp }

section Registration

variable {K : Type} [Field K] [LinearOrder K] (pcl : Pcl K)

/-- `coarseRegistration(src, dst, cfg)` -/
def coarseRegistration (src dst : Cloud K) (cfg : RegParam K) : Affine3 K :=
  if src.isEmpty || dst.isEmpty then 1
  else
    let ndt_param := cfg.ndt
    let leaf : Vector3 K := ![ndt_param.voxel_x, ndt_param.voxel_y, ndt_param.voxel_z]
    let src_down := pcl.voxelGrid leaf src
    let dst_down := pcl.voxelGrid leaf dst
    let ndt := pcl.ndt ndt_param src_down dst_down 1
    let score := ndt.getFitnessScore
    if !ndt.hasConverged || score > ndt_param.fit_thresh then
      -- registration failed: the shift of the centroid
      let c1 := pcl.compute3DCentroid src_down
      let c2 := pcl.compute3DCentroid dst_down
      { (1 : Affine3 K) with translation := ![c2 0 - c1 0, c2 1 - c1 1, c2 2 - c1 2] }
    else ndt.getFinalTransformation

/-- `fineRegistrationGICP(src, dst, init_trans, cfg)` -/
def fineRegistrationGICP (src dst : Cloud K) (init_trans : Affine3 K) (cfg : RegParam K) :
    Affine3 K × List Notice :=
  if src.isEmpty || dst.isEmpty then (init_trans, [])
  else
    let gicp_param := cfg.gicp
    let leaf : Vector3 K := ![gicp_param.voxel_x, gicp_param.voxel_y, gicp_param.voxel_z]
    let src_filtered := pcl.voxelGrid leaf src
    let dst_filtered := pcl.voxelGrid leaf dst
    let gicp := pcl.gicp gicp_param src_filtered dst_filtered init_trans
    let fitness := gicp.getFitnessScore
    let converged := gicp.hasConverged
    if !converged || fitness > gicp_param.fit_thresh then
      (init_trans, [.log .debug "SIX_DOF_CALCULATOR" "位姿解算失败，保持上一帧结果"])
    else (gicp.getFinalTransformation, [])

end Registration

section Call

variable {K : Type} [Field K] [LinearOrder K] [FloorRing K] (pcl : Pcl K)

/-- A number without its fraction. -/
def trunc (x : K) : ℤ := if 0 ≤ x then ⌊x⌋ else ⌈x⌉

/-- `(long long)x`. Out of range it is the nearest number in it, as ARMv8 converts. -/
def toLongLong (x : K) : ℤ := max (-2 ^ 63) (min (2 ^ 63 - 1) (trunc x))

/-- `std::chrono::minutes((long long)interval_min)`, in nanoseconds. The product is one of
`int64_t` and wraps around. -/
def intervalDur (interval_min : K) : ℤ :=
  (toLongLong interval_min * (60 * 10 ^ 9)).bmod (2 ^ 64)

/-- `need_update_base`: there is no base, its cloud is empty, or the interval has passed. -/
def needUpdateBase (self : State K) (now_tp : ℤ) : Bool :=
  match self.fuse_pc_base_ with
  | none => true
  | some base =>
    if base.cloud.isEmpty then true
    else
      let delta := now_tp - self.last_base_update_tp_
      delta ≥ intervalDur self.base_update_interval_min

omit [FloorRing K] in
/-- The loop over the base cloud: the range so far of the first body coordinate. Comparisons with
NaN are false. -/
def bodyRangeLoop (isnan : PointXYZ K → Bool) (minXb maxXb : K) : Cloud K → K × K
  | [] => (minXb, maxXb)
  | pt :: rest =>
    let R_T : Matrix3 K := (1 : Matrix3 K).transpose
    let t_base : Vector3 K := ![0, 0, 0]
    let pb := R_T.mulVec (vec pt - t_base)
    let number := !isnan pt
    bodyRangeLoop isnan (if number ∧ pb 0 < minXb then pb 0 else minXb)
      (if number ∧ pb 0 > maxXb then pb 0 else maxXb) rest

/-- The base frame update at the head of a call. The range of the body is measured once, on
the first base frame that has points. -/
def updateBase (self : State K) (c : FusedPointCloud K) (now_tp : ℤ) : State K × List Notice :=
  if needUpdateBase self now_tp then
    let self := { self with fuse_pc_base_ := some c, last_base_update_tp_ := now_tp }
    let updated := Notice.log .info "SIX_DOF_CALCULATOR"
      ("更新基准帧，间隔=" ++ pcl.to_string self.base_update_interval_min ++ "秒钟")
    if !self.base_extremum_calc_ && !c.cloud.isEmpty then
      let (minXb, maxXb) := bodyRangeLoop pcl.isnan 1e9 (-1e9) c.cloud
      ({ self with base_min_x_body_ := minXb, base_max_x_body_ := maxXb
                   base_extremum_calc_ := true },
        [updated, .log .info "SIX_DOF_CALCULATOR"
          ("基准船体X范围 min:" ++ pcl.to_string minXb ++ ", max:" ++ pcl.to_string maxXb)])
    else (self, [updated])
  else (self, [])

omit [LinearOrder K] [FloorRing K] in
/-- The frames a call registers, the current one and the base. A base without cloud does not
get here: `updateBase` has just replaced it. -/
def registeredPair (self : State K) (c : FusedPointCloud K) :
    Option (FusedPointCloud K × FusedPointCloud K) :=
  match self.fuse_pc_base_ with
  | none => none
  | some base => if c.cloud.isEmpty || base.cloud.isEmpty then none else some (c, base)

omit [LinearOrder K] [FloorRing K] in
/-- `T_ship_dock`: the local motion, conjugated by the extrinsic of the radar. -/
def shipDockTransform (self : State K) (lidar_id : String) (T_local : Affine3 K) :
    Option (Affine3 K) :=
  let T_A2dock_inv := self.T_A2dock_.inverse
  let T_B2dock_inv := self.T_B2dock_.inverse
  if lidar_id = "B" then some (self.T_B2dock_ * T_local * T_B2dock_inv)
  else if lidar_id = "A" then some (self.T_A2dock_ * T_local * T_A2dock_inv)
  else none

/-- `calculateSixDof(c)`, with the clock reading of the call. -/
def calculateSixDof (m : Libm K) (self : State K) (c : FusedPointCloud K) (now_tp : ℤ) :
    State K × SixDofResult K × List Notice :=
  let (next, notices) := updateBase pcl self c now_tp
  let r : SixDofResult K :=
    { timestamp := c.timestamp, tx := 0, ty := 0, tz := 0, rx := 0, ry := 0, rz := 0
      confidence := if needUpdateBase self now_tp then 1 else 0 }
  match registeredPair next c with
  | none => (next, r, notices)
  | some (src, dst) =>
    let coarse_T := coarseRegistration pcl src.cloud dst.cloud next.regCfg_
    let (fine_T_local, fineNotices) :=
      fineRegistrationGICP pcl src.cloud dst.cloud coarse_T next.regCfg_
    let notices := notices ++ fineNotices
    match shipDockTransform next c.lidar_id fine_T_local with
    | none =>
      (next, r, notices ++ [.log .error "SIX_DOF_CALCULATOR" ("未知雷达ID: " ++ c.lidar_id)])
    | some T_ship_dock =>
      let R_ship := pcl.rotation T_ship_dock
      let t_ship := T_ship_dock.translation
      let (roll, pitch, yaw) := getEulerAngles m R_ship
      (next,
        { r with
          lidar_ip := c.lidar_ip
          lidar_id := c.lidar_id
          rx := roll
          ry := pitch
          rz := yaw
          tx := t_ship 0 * 100
          ty := t_ship 1 * 100
          tz := t_ship 2 * 100
          confidence := 0.95
          ship_length := some (next.base_max_x_body_ - next.base_min_x_body_) },
        notices)

end Call
end SixDofCalculator
end ShipMotion
