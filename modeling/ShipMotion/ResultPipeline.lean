import ShipMotion.DataOutputter.DropOld
import ShipMotion.DataOutputter.PositionHistory
import ShipMotion.SixDofCalculator.WorkerPool

/-!
# From the worker pool to the position history

`outputLoop` takes the results off `rq_sixdof_` and offers them to `solve_task_queue_`;
`solveWorkerLoop` takes them from there, records the positions of bow and stern, and computes the
accelerations. A schedule interleaves the two threads with those of the pool. What the threads
log, and the packets they send on, are left out.
-/

namespace ShipMotion

open Eigen SixDofCalculator

instance {K : Type} [Field K] : Inhabited (SixDofResult K) :=
  ⟨{ timestamp := 0, tx := 0, ty := 0, tz := 0, rx := 0, ry := 0, rz := 0, confidence := 0 }⟩

namespace ResultPipeline

open DataOutputter WorkerPool

def SOLVE_MAX_QUEUE : ℕ := 300

/-- `solve_task_queue_` is built with the limit as its capacity. -/
def solveCapacity : Capacity := ⟨SOLVE_MAX_QUEUE, by decide, by decide⟩

/-- The pool, `pending` as what `outputLoop` has dequeued and not yet pushed, and histories of
the results the solver has taken and of the accelerations it got. -/
structure State (K : Type) [Field K] (C : Capacity) (W : ℕ) where
  pool : Pool K C W
  pending : Option (SixDofResult K)
  solve_task_queue_ : LockFreeRingQueue solveCapacity (SixDofResult K)
  pos_history_ : List (ShipPosRecord K)
  solved : List (SixDofResult K)
  accelerations : List (Vector3 K × Vector3 K)

/-- The next step of a thread; `r` is the variable it dequeues into, `unset` what an unassigned
`ship_length` reads as. -/
inductive Action (K : Type) (W : ℕ) where
  | pool (a : WorkerPool.Action K W)
  | outputLoop (fuel : ℕ) (r : SixDofResult K)
  | solveWorkerLoop (r : SixDofResult K) (unset : K)

variable {K : Type} [Field K] {C : Capacity} {W : ℕ}

/-- `pushRealTimeData(r)`, without its log line. -/
def pushRealTimeData (fuel : ℕ) (solve_task_queue_ : LockFreeRingQueue solveCapacity (SixDofResult K))
    (r : SixDofResult K) : Option (DropOldResult solveCapacity (SixDofResult K)) :=
  enqueueWithDropOld fuel solve_task_queue_ r SOLVE_MAX_QUEUE "船体解算队列" false

/-- The next step of `outputLoop`. -/
def outputStep (s : State K C W) (fuel : ℕ) (r : SixDofResult K) : Option (State K C W) :=
  match s.pending with
  | none =>
    let (_, data, ok) := s.pool.rq_sixdof_.dequeue r
    if ok then some { s with pool := s.pool.consume r, pending := some data } else some s
  | some data =>
    (pushRealTimeData fuel s.solve_task_queue_ data).map fun d =>
      { s with pending := none, solve_task_queue_ := d.queue }

/-- A pass of `solveWorkerLoop`. -/
def solveStep [LinearOrder K] (m : Libm K) (s : State K C W) (r : SixDofResult K) (unset : K) :
    State K C W :=
  let (solve_task_queue_, data, ok) := s.solve_task_queue_.dequeue r
  if ok then
    let pos_history_ := calcShipBowSternPos m s.pos_history_ data unset
    { s with
      solve_task_queue_, pos_history_
      solved := s.solved ++ [data]
      accelerations := s.accelerations ++ [getBowSternAcc pos_history_] }
  else s

def step [LinearOrder K] [FloorRing K] (pcl : Pcl K) (m : Libm K) (s : State K C W) :
    Action K W → Option (State K C W)
  | .pool (.consume _) => none -- `outputLoop` is the only consumer
  | .pool a => (WorkerPool.step pcl m s.pool a).map fun pool => { s with pool }
  | .outputLoop fuel r => outputStep s fuel r
  | .solveWorkerLoop r unset => some (solveStep m s r unset)

def initial (pool : Pool K C W)
    (solve_task_queue_ : LockFreeRingQueue solveCapacity (SixDofResult K)) : State K C W :=
  { pool, pending := none, solve_task_queue_, pos_history_ := [], solved := []
    accelerations := [] }

/-- All interleavings of the pool with the two threads of the outputter. -/
def system [LinearOrder K] [FloorRing K] (pcl : Pcl K) (m : Libm K) (C : Capacity) (W : ℕ) :
    Utils.LTS (State K C W) (Action K W) where
  init s := ∃ pool solve_task_queue_, (WorkerPool.system pcl m C W).init pool ∧
    solve_task_queue_.contents = [] ∧ s = initial pool solve_task_queue_
  step := step pcl m

end ResultPipeline
end ShipMotion
