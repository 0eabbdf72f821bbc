import ShipMotion.LidarBgDiff
import ShipMotion.Utils.TransitionSystem

/-!
# Threads on the shared voxel filter

Every radar has its own `LidarBgDiff` object and its own thread, but `g_voxel_filter` is one
object for the whole file, and no mutex is held between `setInputCloud` and `filter`. Here a
schedule decides which thread takes its next step in `extractForeground`: set the filter's
input, run the filter, search for one point. A history keeps every finished call.
-/

namespace ShipMotion
namespace LidarBgDiff
namespace SharedFilter

/-- Where a thread stands in `extractForeground`. -/
inductive Pc (K : Type) where
  | idle
  | setInputCloud (in_cloud : Cloud K)
  | filter (in_cloud : Cloud K)
  | search (in_cloud rest out_cloud : Cloud K)

/-- A finished call: the thread, the cloud it was given, and its output. -/
structure Finished (K ι : Type) where
  thread : ι
  in_cloud : Option (Cloud K)
  out_cloud : Cloud K
  deriving DecidableEq

/-- The input of `g_voxel_filter`, the threads' positions, and the finished calls. -/
structure Threads (K ι : Type) where
  filter_input : Option (Cloud K)
  pc : ι → Pc K
  finished : List (Finished K ι)

/-- What a schedule may do next: let a thread call `extractForeground`, or take its next step. -/
inductive Action (K ι : Type) where
  | call (i : ι) (in_cloud : Option (Cloud K))
  | step (i : ι)

variable {K ι : Type} [Field K] [LinearOrder K] [DecidableEq ι]

def Threads.setPc (s : Threads K ι) (i : ι) (pc : Pc K) : Threads K ι :=
  { s with pc := Function.update s.pc i pc }

/-- Thread `i` returns from the call. -/
def Threads.finish (s : Threads K ι) (i : ι) (in_cloud : Option (Cloud K)) (out_cloud : Cloud K) :
    Threads K ι :=
  { s with pc := Function.update s.pc i .idle
           finished := s.finished ++ [⟨i, in_cloud, out_cloud⟩] }

/-- The nearest background point is far away: the point is foreground. -/
def isForeground (pcl : Pcl K) (self : State K) (pt : PointXYZ K) : Bool :=
  pcl.nearestSqDist self.bg_kdtree_ pt > self.dist_thresh_ * self.dist_thresh_

/-- The tests at the head of a call; a call that passes them sets the filter's input next. -/
def callStep (self : State K) (s : Threads K ι) (i : ι) (in_cloud : Option (Cloud K)) :
    Threads K ι :=
  match in_cloud with
  | none => s.finish i none []
  | some cloud =>
    if !self.bg_ready_ || cloud.isEmpty then s.finish i (some cloud) []
    else s.setPc i (.setInputCloud cloud)

/-- The next step of thread `i`, with its own object. -/
def threadStep (pcl : Pcl K) (self : State K) (s : Threads K ι) (i : ι) : Option (Threads K ι) :=
  match s.pc i with
  | .idle => none
  | .setInputCloud cloud => some ({ s with filter_input := some cloud }.setPc i (.filter cloud))
  | .filter cloud =>
    -- the filter knows only its own input
    let down_cloud := match s.filter_input with
      | none => []
      | some input => pcl.voxelFilter input
    if down_cloud.isEmpty then some (s.finish i (some cloud) [])
    else some (s.setPc i (.search cloud down_cloud []))
  | .search cloud [] out_cloud => some (s.finish i (some cloud) out_cloud)
  | .search cloud (pt :: rest) out_cloud =>
    some (s.setPc i (.search cloud rest
      (if isForeground pcl self pt then out_cloud ++ [pt] else out_cloud)))

def step (pcl : Pcl K) (objects : ι → State K) (s : Threads K ι) :
    Action K ι → Option (Threads K ι)
  | .call i in_cloud =>
    match s.pc i with
    | .idle => some (callStep (objects i) s i in_cloud)
    | _ => none
  | .step i => threadStep pcl (objects i) s i

/-- The cloud for which a thread is about to run the filter. -/
def filtering (s : Threads K ι) (i : ι) : Option (Cloud K) :=
  match s.pc i with
  | .filter cloud => some cloud
  | _ => none

/-- Before the first call. -/
def initial : Threads K ι :=
  { filter_input := none, pc := fun _ => .idle, finished := [] }

/-- All interleavings of the threads `ι`, each with its object. -/
def system (pcl : Pcl K) (objects : ι → State K) : Utils.LTS (Threads K ι) (Action K ι) where
  init s := s = initial
  step := step pcl objects

omit [Field K] [LinearOrder K] in
/-- A position after `setPc` is the new one, or another thread's. -/
theorem setPc_pc (s : Threads K ι) (i j : ι) (pc : Pc K) :
    (s.setPc i pc).pc j = if j = i then pc else s.pc j :=
  Function.update_apply ..

omit [Field K] [LinearOrder K] in
theorem finish_pc (s : Threads K ι) (i j : ι) (in_cloud : Option (Cloud K)) (out_cloud : Cloud K) :
    (s.finish i in_cloud out_cloud).pc j = if j = i then .idle else s.pc j :=
  Function.update_apply ..

end SharedFilter
end LidarBgDiff
end ShipMotion
