import ShipMotion.ConfigLoader
import ShipMotion.SystemStateManager

/-!
# `PointCloudFuser::fuseLoop`

One iteration takes at most one frame from each radar's queue, drops the oldest frames of a
cache that grew too long, and, once both caches hold more than `FRAME_CACHE` frames, pairs the
heads of the caches until one cache is empty. Without any pair, the first frame of the other
cache goes out alone.

Every frame leaves its cache through one of the exits of `Exit`; an iteration returns its
exits in order, and what it sends and reports is a function of them. The answers of
`queueOut_` are an input. The point cloud file of `debug_save` is left out.
-/

namespace ShipMotion
namespace PointCloudFuser

open Eigen

/-- `MATCH_NS` -/
def matchNs : UInt64 := 500

/-- `MAX_CACHE_FRAME` -/
def maxCacheFrame : ℕ := 30

/-- `FRAME_CACHE` -/
def frameCache : ℕ := 2

/-- The members the loop reads and writes. -/
structure State (K : Type) where
  debug_save : Int32
  T_B2A_ : Affine3 K
  cacheA_ : List (RawPointCloud K)
  cacheB_ : List (RawPointCloud K)

/-- What `start()` sets from the extrinsics of the two radars. -/
def startTransforms {K : Type} [Field K] (m : Libm K) (self : State K)
    (lidarA lidarB : RadarExtrinsic K) : State K :=
  let T_A2dock_ := getLidarATrans m lidarA
  let T_B2dock_ := getLidarBTrans m lidarB
  { self with T_B2A_ := T_A2dock_.inverse * T_B2dock_ }

/-- How a frame leaves its cache. -/
inductive Exit (K : Type) where
  | overflowA (a : RawPointCloud K)
  | overflowB (b : RawPointCloud K)
  | fused (a b : RawPointCloud K)
  | mismatchA (a : RawPointCloud K)
  | mismatchB (b : RawPointCloud K)
  | aloneA (a : RawPointCloud K)
  | aloneB (b : RawPointCloud K)

namespace Exit

variable {K : Type}

/-- The frame of radar A that leaves. -/
def frameA : Exit K → Option (RawPointCloud K)
  | overflowA a | fused a _ | mismatchA a | aloneA a => some a
  | _ => none

/-- The frame of radar B that leaves. -/
def frameB : Exit K → Option (RawPointCloud K)
  | overflowB b | fused _ b | mismatchB b | aloneB b => some b
  | _ => none

/-- The two frames of a pair. -/
def pair : Exit K → Option (RawPointCloud K × RawPointCloud K)
  | fused a b => some (a, b)
  | _ => none

end Exit

/-! ## Emission -/

section Emission

variable {K : Type}

/-- `std::max` -/
def maxTimestamp (a b : UInt64) : UInt64 := if a < b then b else a

/-- `fuse(lidarA, lidarB)`: both clouds, that of B in the coordinates of A. -/
def fuse [CommRing K] (T_B2A_ : Affine3 K) (lidarA lidarB : RawPointCloud K) :
    FusedPointCloud K :=
  let b_aligned_cloud := transformPointCloud T_B2A_ lidarB.cloud
  let cloud := lidarA.cloud ++ b_aligned_cloud
  { lidar_ip := lidarA.lidar_ip ++ "," ++ lidarB.lidar_ip
    lidar_id := lidarA.lidar_id
    timestamp := maxTimestamp lidarA.timestamp lidarB.timestamp
    cloud
    valid_points := cloud.length }

/-- The copy of a frame that goes out alone. -/
def single (frame : RawPointCloud K) : FusedPointCloud K :=
  { lidar_ip := frame.lidar_ip
    lidar_id := frame.lidar_id
    timestamp := frame.timestamp
    cloud := frame.cloud
    valid_points := frame.cloud.length }

/-- The frame an exit sends to `queueOut_`. -/
def Exit.output [CommRing K] (T_B2A_ : Affine3 K) : Exit K → Option (FusedPointCloud K)
  | .fused a b => some (fuse T_B2A_ a b)
  | .aloneA a => some (single a)
  | .aloneB b => some (single b)
  | _ => none

/-- What an exit reports. -/
def Exit.notices (self : State K) : Exit K → List Notice
  | .overflowA _ => [.log .warn "FUSE" "雷达A数据缓存超限，丢弃旧帧"]
  | .overflowB _ => [.log .warn "FUSE" "雷达B数据缓存超限，丢弃旧帧"]
  | .mismatchA _ =>
    [.log .warn "FUSE" "雷达A数据超时，丢弃旧帧",
      .reportError ⟨.fuser, .statusWarning, "雷达点云时间戳失配"⟩]
  | .mismatchB _ =>
    [.log .warn "FUSE" "雷达B数据超时，丢弃旧帧",
      .reportError ⟨.fuser, .statusWarning, "雷达点云时间戳失配"⟩]
  | .fused a b =>
    if self.debug_save ≠ 0 then
      [.log .info "FUSE" ("Save fused frame to: ./pcd_debug/lidar_fuse_frame_"
        ++ toString (maxTimestamp a.timestamp b.timestamp).toNat ++ ".pcd")]
    else []
  | _ => []

/-- One pass of a sending loop: the answer of `enqueue`, and `is_running_` if it is asked. -/
structure Attempt where
  enqueued : Bool
  running : Bool
  deriving DecidableEq, Repr

/-- `while (!queueOut_->enqueue(fused) && is_running_)`: whether the frame is in the queue when
the loop ends, and `none` if the answers run out before. -/
def enqueueLoop : List Attempt → Option Bool
  | [] => none
  | attempt :: rest =>
    if attempt.enqueued then some true
    else if attempt.running then enqueueLoop rest
    else some false

end Emission

/-! ## One iteration -/

section Iteration

variable {K : Type}

/-- What an iteration gets from the queues: the frames dequeued, and the answers to the
sending loop of each of its emissions. -/
structure Delivery (K : Type) where
  dataA : Option (RawPointCloud K)
  dataB : Option (RawPointCloud K)
  answers : ℕ → List Attempt

/-- `while (cache.size() > MAX_CACHE_FRAME)`: drop the oldest frame through the exit `drop`. -/
def evictLoop (drop : RawPointCloud K → Exit K) :
    List (RawPointCloud K) → List (Exit K) × List (RawPointCloud K)
  | [] => ([], [])
  | frame :: cache =>
    if (frame :: cache).length > maxCacheFrame then
      let (exits, rest) := evictLoop drop cache
      (drop frame :: exits, rest)
    else ([], frame :: cache)

/-- A dequeued frame goes to the back of its cache. -/
def intake (drop : RawPointCloud K → Exit K) (cache : List (RawPointCloud K))
    (data : Option (RawPointCloud K)) : List (Exit K) × List (RawPointCloud K) :=
  match data with
  | none => ([], cache)
  | some data => evictLoop drop (cache ++ [data])

def intakeA (self : State K) (d : Delivery K) : List (Exit K) × List (RawPointCloud K) :=
  intake .overflowA self.cacheA_ d.dataA

def intakeB (self : State K) (d : Delivery K) : List (Exit K) × List (RawPointCloud K) :=
  intake .overflowB self.cacheB_ d.dataB

/-- `diff_ns` -/
def diffNs (a b : RawPointCloud K) : UInt64 :=
  if a.timestamp > b.timestamp then a.timestamp - b.timestamp else b.timestamp - a.timestamp

/-- How the pairing loop ends. -/
structure PairResult (K : Type) where
  matched : Bool
  exits : List (Exit K)
  cacheA : List (RawPointCloud K)
  cacheB : List (RawPointCloud K)

/-- `while (!cacheA_.empty() && !cacheB_.empty())` -/
def pairLoop (cacheA cacheB : List (RawPointCloud K)) : PairResult K :=
  match cacheA, cacheB with
  | a :: as, b :: bs =>
    if diffNs a b < matchNs then
      let r := pairLoop as bs
      { r with matched := true, exits := .fused a b :: r.exits }
    else if a.timestamp < b.timestamp then
      let r := pairLoop as (b :: bs)
      { r with exits := .mismatchA a :: r.exits }
    else
      let r := pairLoop (a :: as) bs
      { r with exits := .mismatchB b :: r.exits }
  | cacheA, cacheB => { matched := false, exits := [], cacheA, cacheB }
termination_by cacheA.length + cacheB.length

/-- Only A has frames left, and nothing was paired: its first frame goes out alone. -/
def onlyA (r : PairResult K) : PairResult K :=
  if !r.matched && r.cacheB.isEmpty then
    match r.cacheA with
    | [] => r
    | a :: as => { r with matched := true, exits := r.exits ++ [.aloneA a], cacheA := as }
  else r

/-- Only B has frames left, and nothing was paired or sent. -/
def onlyB (r : PairResult K) : PairResult K :=
  if !r.matched && r.cacheA.isEmpty then
    match r.cacheB with
    | [] => r
    | b :: bs => { r with matched := true, exits := r.exits ++ [.aloneB b], cacheB := bs }
  else r

/-- Both caches hold more than `FRAME_CACHE` frames. -/
def passesGate (cacheA cacheB : List (RawPointCloud K)) : Bool :=
  !(cacheA.length ≤ frameCache || cacheB.length ≤ frameCache)

/-- The frames that exits emit, in order. -/
def emitted [CommRing K] (T_B2A_ : Affine3 K) (exits : List (Exit K)) :
    List (FusedPointCloud K) :=
  exits.filterMap (Exit.output T_B2A_)

/-- The emitted frames that get into `queueOut_`. -/
def sent (answers : ℕ → List Attempt) (frames : List (FusedPointCloud K)) :
    List (FusedPointCloud K) :=
  frames.zipIdx.filterMap fun p =>
    if enqueueLoop (answers p.2) = some true then some p.1 else none

/-- What an iteration does besides changing the object. -/
structure Pass (K : Type) where
  exits : List (Exit K)
  queued : List (FusedPointCloud K)
  notices : List Notice

/-- The exits of one iteration, and the caches it leaves. -/
def moveFrames (self : State K) (d : Delivery K) :
    List (Exit K) × List (RawPointCloud K) × List (RawPointCloud K) :=
  let (exitsA, cacheA) := intakeA self d
  let (exitsB, cacheB) := intakeB self d
  if passesGate cacheA cacheB then
    let r := onlyB (onlyA (pairLoop cacheA cacheB))
    (exitsA ++ exitsB ++ r.exits, r.cacheA, r.cacheB)
  else (exitsA ++ exitsB, cacheA, cacheB)

/-- One iteration of `fuseLoop`. -/
def fuseIteration [CommRing K] (self : State K) (d : Delivery K) : State K × Pass K :=
  let (exits, cacheA, cacheB) := moveFrames self d
  ({ self with cacheA_ := cacheA, cacheB_ := cacheB },
    { exits
      queued := sent d.answers (emitted self.T_B2A_ exits)
      notices := exits.flatMap (Exit.notices self) })

end Iteration
end PointCloudFuser
end ShipMotion
