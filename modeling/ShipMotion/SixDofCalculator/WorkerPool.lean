import ShipMotion.LockFreeQueue
import ShipMotion.SixDofCalculator
import ShipMotion.Utils.TransitionSystem

/-!
# The worker pool of `SixDofCalculator`

`calcLoop` takes frames off `rq_fuse_` and queues a task for each in `tasks_`; the workers take
tasks, compute one after another under `base_mtx_`, and put the results into `rq_sixdof_`;
`stop` clears the two flags and joins the workers, then the dispatcher. A schedule decides which
thread takes its next step: a critical section of `task_mtx_`, a lock of `base_mtx_`, the
computation under it, an attempt to enqueue, a read or write of a flag, or a join. The answers
of `rq_fuse_` and the readings of the clock are part of the schedule. A worker in `wait` may
move whenever its predicate holds.

Frames are numbered in the order in which they are dequeued; histories say which of them were
popped on overflow, started, executed, and whose results were accepted and delivered.
-/

namespace ShipMotion
namespace SixDofCalculator
namespace WorkerPool

def MAX_RETRY_QUEUE : ℕ := 5
def MAX_QUEUE_SIZE : ℕ := 30

/-- A task, with the number of its frame. -/
structure Task (K : Type) where
  seq : ℕ
  c : FusedPointCloud K

/-- Where the dispatcher stands in `calcLoop`. -/
inductive DispatcherPc (K : Type) where
  | testRunning
  | dequeue
  | push (task : Task K)
  | returned

/-- Where a worker stands in `workerThread` and in the task it runs. -/
inductive WorkerPc (K : Type) where
  | wait
  | readClock (task : Task K)
  | lockBase (task : Task K) (now_tp : ℤ)
  | compute (task : Task K) (now_tp : ℤ)
  | enqueue (seq : ℕ) (res : SixDofResult K) (retry : ℕ)
  | returned

/-- Where the caller stands in `stop`; `joinWorkers k` has joined the first `k` workers. -/
inductive StopPc where
  | clearRunning
  | closePool
  | joinWorkers (k : ℕ)
  | joinDispatcher
  | returned
  deriving DecidableEq

/-- The shared members, the positions of the threads, and the histories. -/
structure Pool (K : Type) [Field K] (C : Capacity) (W : ℕ) where
  calculator : State K
  is_running_ : Bool
  pool_running_ : Bool
  tasks_ : List (Task K)
  base_mtx_ : Option (Fin W)
  rq_sixdof_ : LockFreeRingQueue C (SixDofResult K)
  dispatcher : DispatcherPc K
  workers : Fin W → WorkerPc K
  stopper : StopPc
  notices : List Notice
  dequeued : List (FusedPointCloud K)
  popped : List ℕ
  started : List (Fin W × ℕ)
  executed : List (Fin W × ℕ)
  accepted : List (ℕ × SixDofResult K)
  delivered : List (SixDofResult K)

/-- The next step of a thread, with what it gets from outside; `consume` is a `dequeue` on
`rq_sixdof_`, with the caller's variable. -/
inductive Action (K : Type) (W : ℕ) where
  | dispatcher (answer : Option (FusedPointCloud K))
  | worker (i : Fin W) (now : ℤ)
  | stop
  | consume (r : SixDofResult K)

section Steps

variable {K : Type} [Field K] {C : Capacity} {W : ℕ}

/-- What is logged when a result was not enqueued in time. -/
def enqueueFailed : Notice :=
  .log .error "SIX_DOF_CALCULATOR"
    ("六自由度结果入队失败，可能导致监测数据丢失" ++ toString MAX_RETRY_QUEUE ++ "次")

def Pool.setWorker (s : Pool K C W) (i : Fin W) (pc : WorkerPc K) : Pool K C W :=
  { s with workers := Function.update s.workers i pc }

/-- `tasks_.pop()` on overflow. -/
def Pool.popFront (s : Pool K C W) : Pool K C W :=
  { s with
    tasks_ := s.tasks_.drop 1
    popped := s.popped ++ (s.tasks_.take 1).map (·.seq) }

/-- The critical section in which `calcLoop` queues a task. -/
def Pool.pushTask (s : Pool K C W) (task : Task K) : Pool K C W :=
  let s := if s.tasks_.length ≥ MAX_QUEUE_SIZE then s.popFront else s
  { s with tasks_ := s.tasks_ ++ [task], dispatcher := .testRunning }

/-- The next step of `calcLoop`; `answer` is what `rq_fuse_` has to give. -/
def dispatcherStep (s : Pool K C W) (answer : Option (FusedPointCloud K)) :
    Option (Pool K C W) :=
  match s.dispatcher with
  | .testRunning =>
    some { s with dispatcher := if s.is_running_ then .dequeue else .returned }
  | .dequeue =>
    match answer with
    | none => some { s with dispatcher := .testRunning }
    | some c =>
      some { s with
        dispatcher := .push ⟨s.dequeued.length, c⟩
        dequeued := s.dequeued ++ [c] }
  | .push task => some (s.pushTask task)
  | .returned => none

/-- The critical section in which a worker takes a task or returns. -/
def Pool.takeTask (s : Pool K C W) (i : Fin W) : Option (Pool K C W) :=
  match s.tasks_ with
  | [] => if s.pool_running_ then none else some (s.setWorker i .returned)
  | task :: rest =>
    some { s with
      tasks_ := rest
      workers := Function.update s.workers i (.readClock task)
      started := s.started ++ [(i, task.seq)] }

/-- The task is done; `logged` are its log lines. -/
def Pool.finishTask (s : Pool K C W) (i : Fin W) (seq : ℕ) (logged : List Notice) : Pool K C W :=
  { s with
    workers := Function.update s.workers i .wait
    executed := s.executed ++ [(i, seq)]
    notices := s.notices ++ logged }

/-- `rq_sixdof_->enqueue(res)`, for the result of frame `seq`. -/
def Pool.offer (s : Pool K C W) (seq : ℕ) (res : SixDofResult K) : Pool K C W :=
  { s with
    rq_sixdof_ := (s.rq_sixdof_.enqueue res).1
    accepted := if (s.rq_sixdof_.enqueue res).2 then s.accepted ++ [(seq, res)] else s.accepted }

/-- One attempt to enqueue, then the loop test, and after the loop the test for the log. -/
def Pool.tryEnqueue (s : Pool K C W) (i : Fin W) (seq : ℕ) (res : SixDofResult K) (retry : ℕ) :
    Pool K C W :=
  if !(s.rq_sixdof_.enqueue res).2 && retry < MAX_RETRY_QUEUE then
    (s.offer seq res).setWorker i (.enqueue seq res (retry + 1))
  else
    (s.offer seq res).finishTask i seq (if retry ≥ MAX_RETRY_QUEUE then [enqueueFailed] else [])

/-- The next step of `stop`. -/
def stopStep (s : Pool K C W) : Option (Pool K C W) :=
  match s.stopper with
  | .clearRunning => some { s with is_running_ := false, stopper := .closePool }
  | .closePool => some { s with pool_running_ := false, stopper := .joinWorkers 0 }
  | .joinWorkers k =>
    if h : k < W then
      match s.workers ⟨k, h⟩ with
      | .returned => some { s with stopper := .joinWorkers (k + 1) }
      | _ => none
    else some { s with stopper := .joinDispatcher }
  | .joinDispatcher =>
    match s.dispatcher with
    | .returned => some { s with stopper := .returned }
    | _ => none
  | .returned => none

/-- A `dequeue` on `rq_sixdof_`. -/
def Pool.consume (s : Pool K C W) (r : SixDofResult K) : Pool K C W :=
  let (rq_sixdof_, r, ok) := s.rq_sixdof_.dequeue r
  { s with rq_sixdof_, delivered := if ok then s.delivered ++ [r] else s.delivered }

/-- After the constructor and `start`. -/
def initial (calculator : State K) (rq_sixdof_ : LockFreeRingQueue C (SixDofResult K)) :
    Pool K C W :=
  { calculator, rq_sixdof_, is_running_ := true, pool_running_ := true, tasks_ := []
    base_mtx_ := none, dispatcher := .testRunning, workers := fun _ => .wait
    stopper := .clearRunning, notices := [], dequeued := [], popped := [], started := []
    executed := [], accepted := [], delivered := [] }

variable [LinearOrder K] [FloorRing K]

/-- The next step of worker `i`; `now` is the reading of the clock. -/
def workerStep (pcl : Pcl K) (m : Libm K) (s : Pool K C W) (i : Fin W) (now : ℤ) :
    Option (Pool K C W) :=
  match s.workers i with
  | .wait => s.takeTask i
  | .readClock task => some (s.setWorker i (.lockBase task now))
  | .lockBase task now_tp =>
    match s.base_mtx_ with
    | none => some ({ s with base_mtx_ := some i }.setWorker i (.compute task now_tp))
    | some _ => none
  | .compute task now_tp =>
    let (calculator, res, logged) := calculateSixDof pcl m s.calculator task.c now_tp
    some ({ s with calculator, base_mtx_ := none, notices := s.notices ++ logged }.setWorker i
      (.enqueue task.seq res 0))
  | .enqueue seq res retry => some (s.tryEnqueue i seq res retry)
  | .returned => none

def step (pcl : Pcl K) (m : Libm K) (s : Pool K C W) : Action K W → Option (Pool K C W)
  | .dispatcher answer => dispatcherStep s answer
  | .worker i now => workerStep pcl m s i now
  | .stop => stopStep s
  | .consume r => some (s.consume r)

/-- All interleavings of the dispatcher, `W` workers, one call of `stop` and the consumer of
the results. -/
def system (pcl : Pcl K) (m : Libm K) (C : Capacity) (W : ℕ) :
    Utils.LTS (Pool K C W) (Action K W) where
  init s := ∃ calculator rq_sixdof_, rq_sixdof_.contents = [] ∧ s = initial calculator rq_sixdof_
  step := step pcl m

end Steps
end WorkerPool
end SixDofCalculator
end ShipMotion
