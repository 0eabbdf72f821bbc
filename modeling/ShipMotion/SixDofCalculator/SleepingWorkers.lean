import ShipMotion.SixDofCalculator.WorkerPool

/-!
# The workers asleep in `cv_.wait`

In `WorkerPool` a worker in `wait` moves whenever its predicate holds. Here it sleeps: a worker that
finds the predicate false under `task_mtx_` blocks, and moves again only when it is woken, by the
`notify_one` of `calcLoop`, by the `notify_all` of `stop`, or for no reason. `notify_one` is called
under `task_mtx_`, in the critical section that queues the task; `notify_all` is called after the
one that clears `pool_running_`.
-/

namespace ShipMotion
namespace SixDofCalculator
namespace SleepingWorkers

open WorkerPool

/-- The pool, the workers that are blocked, and whether `stop` has `notify_all` before it. -/
structure State (K : Type) [Field K] (C : Capacity) (W : ℕ) where
  pool : Pool K C W
  asleep : Fin W → Bool
  notifying : Bool

/-- The next step of a thread; `woken` is the worker that `notify_one` wakes. -/
inductive Action (K : Type) (W : ℕ) where
  | dispatcher (answer : Option (FusedPointCloud K)) (woken : Option (Fin W))
  | worker (i : Fin W) (now : ℤ)
  | block (i : Fin W)
  | wakeUp (i : Fin W)
  | stop
  | consume (r : SixDofResult K)

variable {K : Type} [Field K] {C : Capacity} {W : ℕ}

/-- `cv_.notify_one()` wakes one of those asleep, if there is any. -/
def notifyOne (asleep : Fin W → Bool) : Option (Fin W) → Option (Fin W → Bool)
  | some i => if asleep i then some (Function.update asleep i false) else none
  | none => if ∀ i, asleep i = false then some asleep else none

/-- The next step of `calcLoop`. -/
def dispatcherStep (s : State K C W) (answer : Option (FusedPointCloud K))
    (woken : Option (Fin W)) : Option (State K C W) :=
  match s.pool.dispatcher with
  | .push _ =>
    (WorkerPool.dispatcherStep s.pool answer).bind fun pool =>
      (notifyOne s.asleep woken).map fun asleep => { s with pool, asleep }
  | _ => (WorkerPool.dispatcherStep s.pool answer).map fun pool => { s with pool }

/-- The predicate of `wait` is false. -/
def mustWait (s : Pool K C W) (i : Fin W) : Bool :=
  match s.workers i with
  | .wait => s.pool_running_ && s.tasks_.isEmpty
  | _ => false

/-- The next step of `stop`. -/
def stopStep (s : State K C W) : Option (State K C W) :=
  if s.notifying then some { s with asleep := fun _ => false, notifying := false }
  else
    (WorkerPool.stopStep s.pool).map fun pool =>
      { s with pool, notifying := s.pool.stopper = .closePool }

variable [LinearOrder K] [FloorRing K]

def step (pcl : Pcl K) (m : Libm K) (s : State K C W) : Action K W → Option (State K C W)
  | .dispatcher answer woken => dispatcherStep s answer woken
  | .worker i now =>
    if s.asleep i then none
    else (WorkerPool.workerStep pcl m s.pool i now).map fun pool => { s with pool }
  | .block i =>
    if !s.asleep i && mustWait s.pool i then
      some { s with asleep := Function.update s.asleep i true }
    else none
  | .wakeUp i =>
    if s.asleep i then some { s with asleep := Function.update s.asleep i false } else none
  | .stop => stopStep s
  | .consume r => some { s with pool := s.pool.consume r }

/-- All interleavings; nobody sleeps at first. -/
def system (pcl : Pcl K) (m : Libm K) (C : Capacity) (W : ℕ) :
    Utils.LTS (State K C W) (Action K W) where
  init s := (WorkerPool.system pcl m C W).init s.pool ∧ (∀ i, s.asleep i = false) ∧
    s.notifying = false
  step := step pcl m

end SleepingWorkers
end SixDofCalculator
end ShipMotion
