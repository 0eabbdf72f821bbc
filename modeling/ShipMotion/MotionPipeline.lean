import ShipMotion.PointCloudFuser
import ShipMotion.SixDofCalculator
import ShipMotion.Utils.Mealy

/-!
# The fuser and the calculator in series

The frames that `fuseLoop` emits are processed in order by `calculateSixDof`. A run of the two
is a run of one machine, whose step is an iteration of the loop followed by one call for each
frame the iteration emitted; it returns the pairs of frames that were registered, the current
one and the base.
-/

namespace ShipMotion
namespace MotionPipeline

open Utils PointCloudFuser SixDofCalculator

variable {K : Type} [Field K] [LinearOrder K] [FloorRing K]

structure State (K : Type) [Field K] where
  fuser : PointCloudFuser.State K
  calculator : SixDofCalculator.State K

/-- What an iteration gets from the radars, and the clock reading of the call for each frame
it emits. -/
structure Arrival (K : Type) where
  delivery : Delivery K
  clock : ℕ → ℤ

/-- One call of `calculateSixDof`: the frames it registers, if it gets there. -/
def calculatorStep (pcl : Pcl K) (m : Libm K) (self : SixDofCalculator.State K)
    (call : FusedPointCloud K × ℤ) :
    SixDofCalculator.State K × Option (FusedPointCloud K × FusedPointCloud K) :=
  let next := (calculateSixDof pcl m self call.1 call.2).1
  (next, registeredPair next call.1)

/-- The calls for the frames of an iteration. -/
def calls (frames : List (FusedPointCloud K)) (clock : ℕ → ℤ) : List (FusedPointCloud K × ℤ) :=
  frames.zipIdx.map fun p => (p.1, clock p.2)

/-- One iteration of the loop, and the calls for the frames it emits. -/
def step (pcl : Pcl K) (m : Libm K) (s : State K) (arrival : Arrival K) :
    State K × List (FusedPointCloud K × FusedPointCloud K) :=
  let (fuser, pass) := fuseIteration s.fuser arrival.delivery
  let cs := calls (emitted s.fuser.T_B2A_ pass.exits) arrival.clock
  ({ fuser, calculator := Mealy.finalState (calculatorStep pcl m) s.calculator cs },
    (Mealy.outputs (calculatorStep pcl m) s.calculator cs).filterMap id)

end MotionPipeline
end ShipMotion
