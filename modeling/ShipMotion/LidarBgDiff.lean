import Mathlib.Algebra.Field.Rat
import Mathlib.Algebra.Order.Ring.Rat
import ShipMotion.PointCloud

/-!
# `LidarBgDiff`

Background subtraction and the ship monitoring state machine: a raw cloud is downsampled,
the points far from the background are clustered, the largest cluster is the ship, and the
centres of its bounding box over the last `stable_frame_cnt_` frames decide whether it lies
still.

PCL's filter, searches and clustering, and the square root, are parameters (`Pcl`). The
caller's output clouds are returned instead of filled; `process`, which may leave its output
cloud alone, is given the contents it had.
-/

namespace ShipMotion
namespace LidarBgDiff

/-- What the module calls outside the repository. -/
structure Pcl (K : Type) where
  /-- `g_voxel_filter`, set to its input and run -/
  voxelFilter : Cloud K → Cloud K
  /-- `nn_dists[0]` after `nearestKSearch(pt, 1, ..)` in the tree built on a cloud -/
  nearestSqDist : Cloud K → PointXYZ K → K
  /-- `EuclideanClusterExtraction::extract` for a tolerance and a least cluster size -/
  extractClusters : Cloud K → K → Int32 → List (List ℕ)
  /-- `ExtractIndices::filter` -/
  extractIndices : Cloud K → List ℕ → Cloud K
  /-- `getMinMax3D` -/
  getMinMax3D : Cloud K → PointXYZ K × PointXYZ K
  /-- `std::sqrt` -/
  sqrt : K → K

inductive ShipMonitorStatus where
  | shipLeave | shipMoving | shipStable
  deriving DecidableEq, Repr

/-- `ShipMove`, with the initialisers of its members. -/
structure ShipMove (K : Type) [Zero K] where
  has_ship : Bool := false
  bbox_min_x : K := 0
  bbox_min_y : K := 0
  bbox_min_z : K := 0
  bbox_max_x : K := 0
  bbox_max_y : K := 0
  bbox_max_z : K := 0
  center_x : K := 0
  center_y : K := 0
  center_z : K := 0

structure ShipMonitorResult (K : Type) [Zero K] where
  status : ShipMonitorStatus
  pose : ShipMove K
  ship_point_count : ℤ

structure ShipCenterRecord (K : Type) where
  cx : K
  cy : K
  cz : K
  deriving DecidableEq

/-- The members the modelled functions read. `bg_kdtree_` is the cloud the tree was built on. -/
structure State (K : Type) where
  dist_thresh_ : K
  bg_kdtree_ : Cloud K
  bg_ready_ : Bool
  center_history_ : List (ShipCenterRecord K)
  stable_frame_cnt_ : Int32
  stable_dist_thresh_ : K
  min_valid_ship_pts_ : Int32

/-- `(size_t)i` -/
def toSizeT (i : Int32) : ℕ := (i.toInt % 2 ^ 64).toNat

variable {K : Type} [Field K] [LinearOrder K]

/-- `extractForeground(in_cloud, out_cloud)`: the output cloud. -/
def extractForeground (pcl : Pcl K) (self : State K) (in_cloud : Option (Cloud K)) : Cloud K :=
  match in_cloud with
  | none => []
  | some in_cloud =>
    if !self.bg_ready_ || in_cloud.isEmpty then []
    else
      let down_cloud := pcl.voxelFilter in_cloud
      let dist_sq_thresh := self.dist_thresh_ * self.dist_thresh_
      down_cloud.filter fun pt => pcl.nearestSqDist self.bg_kdtree_ pt > dist_sq_thresh

/-- The loop that looks for the largest cluster: its size and index so far, and the index `i`
of the next cluster. -/
def maxClusterLoop (i max_size max_idx : ℕ) : List (List ℕ) → ℕ
  | [] => max_idx
  | idx :: rest =>
    if idx.length > max_size then maxClusterLoop (i + 1) idx.length i rest
    else maxClusterLoop (i + 1) max_size max_idx rest

/-- `removeSmallClusters(in_cloud, out_cloud, eps, min_points)`: the output cloud. -/
def removeSmallClusters (pcl : Pcl K) (in_cloud : Cloud K) (eps : K) (min_points : Int32) :
    Cloud K :=
  if in_cloud.length < toSizeT min_points then []
  else
    let cluster_indices := pcl.extractClusters in_cloud eps min_points
    if cluster_indices.isEmpty then []
    else
      let max_idx := maxClusterLoop 0 0 0 cluster_indices
      pcl.extractIndices in_cloud (cluster_indices.getD max_idx [])

/-- `calculateShipPose(ship_cloud)` -/
def calculateShipPose (pcl : Pcl K) (ship_cloud : Cloud K) : ShipMove K :=
  if ship_cloud.isEmpty then { has_ship := false }
  else
    let (min_pt, max_pt) := pcl.getMinMax3D ship_cloud
    { has_ship := true
      bbox_min_x := min_pt.x
      bbox_min_y := min_pt.y
      bbox_min_z := min_pt.z
      bbox_max_x := max_pt.x
      bbox_max_y := max_pt.y
      bbox_max_z := max_pt.z
      center_x := (min_pt.x + max_pt.x) / 2.0
      center_y := (min_pt.y + max_pt.y) / 2.0
      center_z := (min_pt.z + max_pt.z) / 2.0 }

/-- `process(raw_cloud, ship_cloud, cluster_eps, cluster_min_pts)` on a `ship_cloud` that may
hold points already: the cloud it is left with, and the pose. -/
def process (pcl : Pcl K) (self : State K) (raw_cloud : Option (Cloud K)) (ship_cloud : Cloud K)
    (cluster_eps : K) (cluster_min_pts : Int32) : Cloud K × ShipMove K :=
  let fg_cloud := extractForeground pcl self raw_cloud
  if fg_cloud.isEmpty then (ship_cloud, {})
  else
    let ship_cloud := removeSmallClusters pcl fg_cloud cluster_eps cluster_min_pts
    (ship_cloud, calculateShipPose pcl ship_cloud)

/-- `dist` in `judgeShipStatus`: from the oldest centre kept to the current one. -/
def centerDist (pcl : Pcl K) (record first : ShipCenterRecord K) : K :=
  let dx := record.cx - first.cx
  let dy := record.cy - first.cy
  let dz := record.cz - first.cz
  pcl.sqrt (dx * dx + dy * dy + dz * dz)

/-- `push_back` of the current centre, then one `erase` from the front if the history is too
long. -/
def pushCenter (self : State K) (record : ShipCenterRecord K) : List (ShipCenterRecord K) :=
  let pushed := self.center_history_ ++ [record]
  if pushed.length > toSizeT self.stable_frame_cnt_ then pushed.tail else pushed

/-- `judgeShipStatus(cur_pose, ship_pts)`. The reference `front()` of an empty history is
undefined; the model then compares the current centre with itself. -/
def judgeShipStatus (pcl : Pcl K) (self : State K) (cur_pose : ShipMove K) (ship_pts : ℤ) :
    State K × ShipMonitorStatus :=
  if !cur_pose.has_ship || ship_pts < self.min_valid_ship_pts_.toInt then
    ({ self with center_history_ := [] }, .shipLeave)
  else
    let record : ShipCenterRecord K := ⟨cur_pose.center_x, cur_pose.center_y, cur_pose.center_z⟩
    let history := pushCenter self record
    let self := { self with center_history_ := history }
    if history.length < toSizeT self.stable_frame_cnt_ then (self, .shipMoving)
    else if centerDist pcl record (history.headD record) < self.stable_dist_thresh_ then
      (self, .shipStable)
    else (self, .shipMoving)

/-- `setStableFrameCount(frame_cnt)`. The configuration's value comes here unchecked. -/
def setStableFrameCount (self : State K) (frame_cnt : Int32) : State K :=
  { self with stable_frame_cnt_ := frame_cnt }

/-- One `monitorShip` call: the raw cloud, possibly null, and the clustering parameters. -/
structure MonitorCall (K : Type) where
  raw_cloud : Option (Cloud K)
  cluster_eps : K
  cluster_min_pts : Int32

/-- `monitorShip(raw_cloud, out_ship_cloud, cluster_eps, cluster_min_pts)`: the object, the
output cloud and the result. -/
def monitorShip (pcl : Pcl K) (self : State K) (call : MonitorCall K) :
    State K × Cloud K × ShipMonitorResult K :=
  let fg_cloud := extractForeground pcl self call.raw_cloud
  if fg_cloud.isEmpty then
    (self, [], { status := .shipLeave, pose := { has_ship := false }, ship_point_count := 0 })
  else
    let out_ship_cloud := removeSmallClusters pcl fg_cloud call.cluster_eps call.cluster_min_pts
    let ship_point_count : ℤ := out_ship_cloud.length
    let pose := calculateShipPose pcl out_ship_cloud
    let (self, status) := judgeShipStatus pcl self pose ship_point_count
    (self, out_ship_cloud, { status, pose, ship_point_count })

end LidarBgDiff
end ShipMotion
