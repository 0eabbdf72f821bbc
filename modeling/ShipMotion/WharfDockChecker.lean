import ShipMotion.Eigen
import Mathlib.Algebra.Order.Floor.Defs

/-!
# `WharfDockChecker`

A line is fitted to the edge of the wharf; poses are kept in a window of `WINDOW_SIZE` frames;
once the ship lies parallel to the wharf, near it and still over a whole window, the middle pose
of the window becomes the base frame for good.

Arithmetic is exact. The caller's output parameter is an argument and a result.
-/

namespace ShipMotion

structure Point3d (K : Type) where
  x : K
  y : K
  z : K
  deriving DecidableEq

structure ShipPose (K : Type) where
  tx : K
  ty : K
  tz : K
  rx : K
  ry : K
  rz : K
  timestamp : UInt64
  deriving DecidableEq

namespace WharfDockChecker

/-- The functions of `<cmath>` that the module calls. -/
structure Cmath (K : Type) extends Libm K where
  sqrt : K → K

/-- `WINDOW_SIZE` -/
def windowSize : ℕ := 50

/-- The members. `base_frame_` has no initialiser: it holds anything before it is assigned. -/
structure State (K : Type) where
  wharf_A_ : K
  wharf_B_ : K
  wharf_C_ : K
  wharf_yaw_ : K
  pose_buf_ : List (ShipPose K)
  has_found_base_frame_ : Bool
  base_frame_ : ShipPose K

variable {K : Type} [Field K] [LinearOrder K]

/-- The constructor. -/
def new (base_frame_ : ShipPose K) : State K where
  wharf_A_ := 0
  wharf_B_ := 0
  wharf_C_ := 0
  wharf_yaw_ := 0
  pose_buf_ := []
  has_found_base_frame_ := false
  base_frame_ := base_frame_

/-! ## The wharf -/

/-- The sums of `fitWharfLine`. -/
structure Sums (K : Type) where
  x_sum : K
  y_sum : K
  x2_sum : K
  y2_sum : K
  xy_sum : K

omit [LinearOrder K] in
/-- `for (auto& p : wharf_points)` -/
def sumLoop (s : Sums K) : List (Point3d K) → Sums K
  | [] => s
  | p :: rest =>
    sumLoop
      { x_sum := s.x_sum + p.x
        y_sum := s.y_sum + p.y
        x2_sum := s.x2_sum + p.x * p.x
        y2_sum := s.y2_sum + p.y * p.y
        xy_sum := s.xy_sum + p.x * p.y }
      rest

/-- `fitWharfLine(wharf_points)` -/
def fitWharfLine (m : Cmath K) (self : State K) (wharf_points : List (Point3d K)) :
    State K × Bool :=
  let n := wharf_points.length
  if n < 2 then (self, false)
  else
    let s := sumLoop ⟨0, 0, 0, 0, 0⟩ wharf_points
    let A := n * s.xy_sum - s.x_sum * s.y_sum
    let B := s.y_sum * s.y_sum - n * s.y2_sum
    let C := s.x_sum * (s.y2_sum - s.xy_sum) - s.y_sum * (s.x2_sum - s.xy_sum)
    let norm := m.sqrt (A * A + B * B)
    if norm < 1e-6 then (self, false)
    else ({ self with wharf_A_ := A / norm, wharf_B_ := B / norm, wharf_C_ := C / norm }, true)

omit [LinearOrder K] in
/-- `calcWharfYawDegree()` -/
def calcWharfYawDegree (m : Cmath K) (self : State K) : State K × K :=
  let angle_rad := m.atan2 (-self.wharf_A_) self.wharf_B_
  let wharf_yaw_ := angle_rad * 180.0 / m.pi
  ({ self with wharf_yaw_ := wharf_yaw_ }, wharf_yaw_)

/-- `fmod(x, y)`: the quotient is rounded toward zero. -/
def fmod [FloorRing K] (x y : K) : K :=
  let q := x / y
  x - y * ((if 0 ≤ q then ⌊q⌋ else ⌈q⌉ : ℤ) : K)

/-- `wrapAngle(deg)` -/
def wrapAngle [FloorRing K] (deg : K) : K :=
  let deg := fmod (deg + 180.0) 360.0
  let deg := if deg < 0 then deg + 360.0 else deg
  deg - 180.0

/-- `distanceToWharf(x, y)` -/
def distanceToWharf (self : State K) (x y : K) : K :=
  |self.wharf_A_ * x + self.wharf_B_ * y + self.wharf_C_|

/-! ## The window -/

omit [LinearOrder K] in
/-- `addPoseFrame(pose)` -/
def addPoseFrame (self : State K) (pose : ShipPose K) : State K :=
  if self.has_found_base_frame_ then self
  else
    let pose_buf_ := self.pose_buf_ ++ [pose]
    { self with pose_buf_ := if pose_buf_.length > windowSize then pose_buf_.tail else pose_buf_ }

/-- The sums and extrema of `getStableDockBaseFrame`. -/
structure Fluctuation (K : Type) where
  yaw_sum : K
  dist_sum : K
  ymin : K
  ymax : K
  dmin : K
  dmax : K

section Window

variable [FloorRing K]

/-- `for (auto& p : pose_buf_)` -/
def fluctuationLoop (self : State K) (f : Fluctuation K) : List (ShipPose K) → Fluctuation K
  | [] => f
  | p :: rest =>
    let yaw := wrapAngle p.rz
    let dist := distanceToWharf self p.tx p.ty
    fluctuationLoop self
      { yaw_sum := f.yaw_sum + yaw
        dist_sum := f.dist_sum + dist
        ymin := if yaw < f.ymin then yaw else f.ymin
        ymax := if yaw > f.ymax then yaw else f.ymax
        dmin := if dist < f.dmin then dist else f.dmin
        dmax := if dist > f.dmax then dist else f.dmax }
      rest

/-- The extrema before the first pose of the window. -/
def Fluctuation.start : Fluctuation K where
  yaw_sum := 0
  dist_sum := 0
  ymin := 1e9
  ymax := -1e9
  dmin := 1e9
  dmax := -1e9

/-- `c1 && c2 && c3 && c4` -/
def isStable (self : State K) : Bool :=
  let f := fluctuationLoop self .start self.pose_buf_
  let yaw_mean := wrapAngle (f.yaw_sum / (windowSize : K))
  let dist_mean := f.dist_sum / (windowSize : K)
  let yaw_fluct := f.ymax - f.ymin
  let dist_fluct := f.dmax - f.dmin
  let angle_err := |wrapAngle (yaw_mean - self.wharf_yaw_)|
  let c1 := angle_err < 3.0
  let c2 := dist_mean ≥ 1.0 ∧ dist_mean ≤ 8.0
  let c3 := yaw_fluct < 2.0
  let c4 := dist_fluct < 0.5
  c1 ∧ c2 ∧ c3 ∧ c4

/-- `getStableDockBaseFrame(base_frame)`: the answer, and what is then in the parameter. -/
def getStableDockBaseFrame (self : State K) (base_frame : ShipPose K) :
    State K × Bool × ShipPose K :=
  if self.has_found_base_frame_ then (self, true, self.base_frame_)
  else if self.pose_buf_.length < windowSize then (self, false, base_frame)
  else if isStable self then
    -- the window is full, so that the index is inside it
    let base_frame_ := self.pose_buf_.getD (windowSize / 2) self.base_frame_
    ({ self with base_frame_ := base_frame_, has_found_base_frame_ := true }, true, base_frame_)
  else (self, false, base_frame)

end Window

/-! ## Calls -/

/-- A call of one of the four operations. -/
inductive Call (K : Type) where
  | fitWharfLine (wharf_points : List (Point3d K))
  | calcWharfYawDegree
  | addPoseFrame (pose : ShipPose K)
  | getStableDockBaseFrame (base_frame : ShipPose K)

/-- What a call returns. -/
inductive Answer (K : Type) where
  | fitted (ok : Bool)
  | yaw (deg : K)
  | done
  | base (found : Bool) (base_frame : ShipPose K)

/-- One call. -/
def call [FloorRing K] (m : Cmath K) (self : State K) : Call K → State K × Answer K
  | .fitWharfLine wharf_points =>
    let (self, ok) := fitWharfLine m self wharf_points
    (self, .fitted ok)
  | .calcWharfYawDegree =>
    let (self, deg) := calcWharfYawDegree m self
    (self, .yaw deg)
  | .addPoseFrame pose => (addPoseFrame self pose, .done)
  | .getStableDockBaseFrame base_frame =>
    let (self, found, base_frame) := getStableDockBaseFrame self base_frame
    (self, .base found base_frame)

end WharfDockChecker
end ShipMotion
