import ShipMotion.DataOutputter.ShipPackage
import ShipMotion.PointCloudFuser
import ShipMotion.ResultPipeline

/-!
# The threads of `main`

Two radar threads put frames into `rq_cloudA` and `rq_cloudB`; `fuseLoop` fuses them into
`rq_fuse_cloud`; the dispatcher and the workers of the calculator turn those into results, which
`outputLoop` and `solveWorkerLoop` take on; `mqttWorkerLoop` publishes the packages. The main thread
stops them after the signal, from the outputter back to the acquirer, and joins the threads of the
outputter last. A schedule interleaves the loop tests of all threads with their calls on the
queues, each of which is one step. The frame a radar thread sends, the clock, the answer of
`isConnected` and the values of uninitialised variables are part of the schedule.

`STATUS_FATAL` is reported nowhere, so the test for it in `outputLoop` is left out, as are the
error queue, the empty database thread, log lines, sleeps and the cameras. The MQTT client is left
out with its work thread, which `main` stops and joins after the threads here. Histories keep the
frames put into and taken out of the queues, the exits of the fuser, the packages built and those
published.
-/

namespace ShipMotion
namespace MainProgram

open Eigen PointCloudFuser SixDofCalculator DataOutputter

/-- What `main` builds its four queues with. -/
def ringLength : ℕ := 100

def ringCapacity : Capacity := ⟨ringLength, by decide, by decide⟩

def MQTT_DATA_MAX_QUEUE : ℕ := 500

/-- `mqtt_task_queue_` is built with the limit as its capacity. -/
def mqttCapacity : Capacity := ⟨MQTT_DATA_MAX_QUEUE, by decide, by decide⟩

/-- The timestamp that `acquireRadar1Loop` and `acquireRadar2Loop`, as they are compiled, give to
every frame. -/
def acquirerStamp : UInt64 := 19999999999

instance {K : Type} [Field K] : Inhabited (MqttShipData K) :=
  ⟨{ berth_id := "", lidar_ip := "", time_str := "", surge := 0, sway := 0, heave := 0, roll := 0
     pitch := 0, yaw := 0, bX := 0, bY := 0, bZ := 0, sX := 0, sY := 0, sZ := 0 }⟩

/-! ## Where the threads stand -/

/-- `acquireRadar1Loop` and `acquireRadar2Loop`; `retry` is the second half of the condition of the
sending loop. -/
inductive RadarPc (K : Type) where
  | test
  | send (frame : RawPointCloud K)
  | retry (frame : RawPointCloud K)
  | returned

/-- `fuseLoop`; `emit` has the exits of the iteration that are still to be sent or reported. -/
inductive FuserPc (K : Type) where
  | test
  | takeA
  | takeB (dataA : Option (RawPointCloud K))
  | emit (exits : List (Exit K))
  | retry (exit : Exit K) (exits : List (Exit K))
  | returned

inductive OutputPc where
  | test
  | body
  | returned
  deriving DecidableEq

/-- `solveWorkerLoop`; `push` has built a package. -/
inductive SolverPc (K : Type) where
  | test
  | body
  | push (mqtt_pkg : MqttShipData K)
  | returned

/-- `mqttWorkerLoop`; `publish` has taken a package. -/
inductive MqttPc (K : Type) where
  | test
  | body
  | publish (pkg : MqttShipData K)
  | returned

/-- `main`, up to the last join of the outputter's threads, in the destructor of the outputter. -/
inductive MainPc where
  | running
  | joinOutput
  | stopCalculator
  | stopFuser
  | joinFuser
  | stopAcquirer
  | joinRadars
  | destroyOutputter
  | joinWorkers
  | joined
  deriving DecidableEq

/-- A radar's side: its queue, where its thread stands, and the frames put into the queue and taken
out of it. -/
structure Radar (K : Type) where
  queue : LockFreeRingQueue ringCapacity (RawPointCloud K)
  pc : RadarPc K
  arrived : List (RawPointCloud K)
  taken : List (RawPointCloud K)

/-- The objects of `main` and the histories. -/
structure Program (K : Type) [Field K] (W : ℕ) where
  acquirerRunning : Bool
  radarA : Radar K
  radarB : Radar K
  fuserRunning : Bool
  fuser : PointCloudFuser.State K
  fuserPc : FuserPc K
  exits : List (Exit K)
  rq_fuse_cloud : LockFreeRingQueue ringCapacity (FusedPointCloud K)
  sent : List (Exit K × FusedPointCloud K)
  outputRunning : Bool
  outputPc : OutputPc
  results : ResultPipeline.State K ringCapacity W
  workerRunning : Bool
  solverPc : SolverPc K
  packages : List (MqttShipData K)
  mqtt_task_queue_ : LockFreeRingQueue mqttCapacity (MqttShipData K)
  mqttPc : MqttPc K
  published : List (MqttShipData K)
  mainPc : MainPc

/-- The next step of a thread, with what it gets from outside. -/
inductive Action (K : Type) (W : ℕ) where
  | radarA (frame : RawPointCloud K)
  | radarB (frame : RawPointCloud K)
  | fuser (unset : RawPointCloud K)
  | dispatcher (unset : FusedPointCloud K)
  | worker (i : Fin W) (now : ℤ)
  | output (r : SixDofResult K)
  | solver (r : SixDofResult K) (unset : K)
  | mqtt (connected : Bool)
  | main

/-! ## The steps -/

section Steps

variable {K : Type}

/-- The next step of a radar's thread; `frame` is what the pass of its loop sends. -/
def radarStep (is_running_ : Bool) (frame : RawPointCloud K) (r : Radar K) : Option (Radar K) :=
  match r.pc with
  | .test => some { r with pc := if is_running_ then .send frame else .returned }
  | .send frame =>
    let (queue, ok) := r.queue.enqueue frame
    some { r with
      queue
      pc := if ok then .test else .retry frame
      arrived := if ok then r.arrived ++ [frame] else r.arrived }
  | .retry frame => some { r with pc := if is_running_ then .send frame else .test }
  | .returned => none

/-- `queue->dequeue(data)` in `fuseLoop`; `data` is what the variable held. -/
def Radar.take (r : Radar K) (data : RawPointCloud K) : Radar K × Option (RawPointCloud K) :=
  let (queue, data, ok) := r.queue.dequeue data
  if ok then ({ r with queue, taken := r.taken ++ [data] }, some data)
  else ({ r with queue }, none)

variable [Field K] {W : ℕ}

/-- `fuseLoop` has taken what the two queues gave it. -/
def fuserPass (s : Program K W) (dataA dataB : Option (RawPointCloud K)) : Program K W :=
  let (exits, cacheA_, cacheB_) := moveFrames s.fuser ⟨dataA, dataB, fun _ => []⟩
  { s with
    fuser := { s.fuser with cacheA_, cacheB_ }
    fuserPc := .emit exits
    exits := s.exits ++ exits }

/-- `queueOut_->enqueue(fused)` for the frame of an exit. -/
def sendFused (s : Program K W) (exit : Exit K) (exits : List (Exit K))
    (fused : FusedPointCloud K) : Program K W :=
  let (rq_fuse_cloud, ok) := s.rq_fuse_cloud.enqueue fused
  { s with
    rq_fuse_cloud
    fuserPc := if ok then .emit exits else .retry exit exits
    sent := if ok then s.sent ++ [(exit, fused)] else s.sent }

/-- The next step of `fuseLoop`; `unset` is what `dataA` and `dataB` held. -/
def fuserStep (s : Program K W) (unset : RawPointCloud K) : Option (Program K W) :=
  match s.fuserPc with
  | .test => some { s with fuserPc := if s.fuserRunning then .takeA else .returned }
  | .takeA =>
    let (radarA, dataA) := s.radarA.take unset
    some { s with radarA, fuserPc := .takeB dataA }
  | .takeB dataA =>
    let (radarB, dataB) := s.radarB.take unset
    some (fuserPass { s with radarB } dataA dataB)
  | .emit [] => some { s with fuserPc := .test }
  | .emit (exit :: exits) =>
    match exit.output s.fuser.T_B2A_ with
    | none => some { s with fuserPc := .emit exits }
    | some fused => some (sendFused s exit exits fused)
  | .retry exit exits =>
    some { s with fuserPc := .emit (if s.fuserRunning then exit :: exits else exits) }
  | .returned => none

def Program.setPool (s : Program K W) (pool : WorkerPool.Pool K ringCapacity W) : Program K W :=
  { s with results := { s.results with pool } }

/-- The next step of `calcLoop`; `unset` is what its variable held. -/
def dispatchStep (s : Program K W) (unset : FusedPointCloud K) : Option (Program K W) :=
  match s.results.pool.dispatcher with
  | .dequeue =>
    let (rq_fuse_cloud, c, ok) := s.rq_fuse_cloud.dequeue unset
    (WorkerPool.dispatcherStep s.results.pool (if ok then some c else none)).map
      { s with rq_fuse_cloud }.setPool
  | _ => (WorkerPool.dispatcherStep s.results.pool none).map s.setPool

/-- The next step of `outputLoop`; `r` is its uninitialised variable. -/
def outputStep (s : Program K W) (r : SixDofResult K) : Option (Program K W) :=
  match s.outputPc with
  | .test => some { s with outputPc := if s.outputRunning then .body else .returned }
  | .body =>
    (ResultPipeline.outputStep s.results 1 r).map fun results =>
      { s with results, outputPc := if results.pending.isSome then .body else .test }
  | .returned => none

/-- The next step of `solveWorkerLoop`; `r` is its uninitialised variable, `unset` what an
unassigned `ship_length` reads as. -/
def solverStep [LinearOrder K] (m : Libm K) (put_time : UInt64 → String) (berth_id : String)
    (s : Program K W) (r : SixDofResult K) (unset : K) : Option (Program K W) :=
  match s.solverPc with
  | .test => some { s with solverPc := if s.workerRunning then .body else .returned }
  | .body =>
    let (_, data, ok) := s.results.solve_task_queue_.dequeue r
    if ok then
      let (_, mqtt_pkg) := solveResult m put_time berth_id s.results.pos_history_ data unset
      some { s with
        results := ResultPipeline.solveStep m s.results r unset
        solverPc := .push mqtt_pkg
        packages := s.packages ++ [mqtt_pkg] }
    else some { s with solverPc := .test }
  | .push mqtt_pkg =>
    (enqueueWithDropOld 1 s.mqtt_task_queue_ mqtt_pkg MQTT_DATA_MAX_QUEUE "MQTT业务数据队列" false).map
      fun d => { s with mqtt_task_queue_ := d.queue, solverPc := .test }
  | .returned => none

/-- The next step of `mqttWorkerLoop`. -/
def mqttStep (s : Program K W) (connected : Bool) : Option (Program K W) :=
  match s.mqttPc with
  | .test => some { s with mqttPc := if s.workerRunning then .body else .returned }
  | .body =>
    let (mqtt_task_queue_, pkg, ok) := s.mqtt_task_queue_.dequeue default
    if ok then some { s with mqtt_task_queue_, mqttPc := .publish pkg }
    else some { s with mqttPc := .test }
  | .publish pkg =>
    some { s with
      mqttPc := .test
      published := if connected then s.published ++ [pkg] else s.published }
  | .returned => none

/-- The next step of `main`. -/
def mainStep (s : Program K W) : Option (Program K W) :=
  match s.mainPc with
  | .running => some { s with outputRunning := false, mainPc := .joinOutput }
  | .joinOutput =>
    if s.outputPc = .returned then some { s with mainPc := .stopCalculator } else none
  | .stopCalculator =>
    if s.results.pool.stopper = .returned then some { s with mainPc := .stopFuser }
    else (WorkerPool.stopStep s.results.pool).map s.setPool
  | .stopFuser => some { s with fuserRunning := false, mainPc := .joinFuser }
  | .joinFuser =>
    match s.fuserPc with
    | .returned => some { s with mainPc := .stopAcquirer }
    | _ => none
  | .stopAcquirer => some { s with acquirerRunning := false, mainPc := .joinRadars }
  | .joinRadars =>
    match s.radarA.pc, s.radarB.pc with
    | .returned, .returned => some { s with mainPc := .destroyOutputter }
    | _, _ => none
  | .destroyOutputter => some { s with workerRunning := false, mainPc := .joinWorkers }
  | .joinWorkers =>
    match s.solverPc, s.mqttPc with
    | .returned, .returned => some { s with mainPc := .joined }
    | _, _ => none
  | .joined => none

def step [LinearOrder K] [FloorRing K] (pcl : Pcl K) (m : Libm K) (put_time : UInt64 → String)
    (berth_id : String) (s : Program K W) : Action K W → Option (Program K W)
  | .radarA frame => (radarStep s.acquirerRunning frame s.radarA).map fun radarA => { s with radarA }
  | .radarB frame => (radarStep s.acquirerRunning frame s.radarB).map fun radarB => { s with radarB }
  | .fuser unset => fuserStep s unset
  | .dispatcher unset => dispatchStep s unset
  | .worker i now => (WorkerPool.workerStep pcl m s.results.pool i now).map s.setPool
  | .output r => outputStep s r
  | .solver r unset => solverStep m put_time berth_id s r unset
  | .mqtt connected => mqttStep s connected
  | .main => mainStep s

/-- A radar before its first frame. -/
def Radar.initial {K : Type} (queue : LockFreeRingQueue ringCapacity (RawPointCloud K)) : Radar K :=
  { queue, pc := .test, arrived := [], taken := [] }

/-- After the four calls of `start`. -/
def initial (radarA radarB : LockFreeRingQueue ringCapacity (RawPointCloud K))
    (fuser : PointCloudFuser.State K)
    (rq_fuse_cloud : LockFreeRingQueue ringCapacity (FusedPointCloud K))
    (results : ResultPipeline.State K ringCapacity W)
    (mqtt_task_queue_ : LockFreeRingQueue mqttCapacity (MqttShipData K)) : Program K W :=
  { acquirerRunning := true, radarA := .initial radarA, radarB := .initial radarB
    fuserRunning := true, fuser, fuserPc := .test, exits := [], rq_fuse_cloud, sent := []
    outputRunning := true, outputPc := .test, results, workerRunning := true, solverPc := .test
    packages := [], mqtt_task_queue_, mqttPc := .test, published := [], mainPc := .running }

/-- All interleavings of the threads; the queues and caches are empty at first. -/
def program [LinearOrder K] [FloorRing K] (pcl : Pcl K) (m : Libm K) (put_time : UInt64 → String)
    (berth_id : String) (W : ℕ) : Utils.LTS (Program K W) (Action K W) where
  init s := ∃ radarA radarB fuser rq_fuse_cloud results mqtt_task_queue_,
    radarA.contents = [] ∧ radarB.contents = [] ∧ fuser.cacheA_ = [] ∧ fuser.cacheB_ = [] ∧
    rq_fuse_cloud.contents = [] ∧ (ResultPipeline.system pcl m ringCapacity W).init results ∧
    mqtt_task_queue_.contents = [] ∧
    s = initial radarA radarB fuser rq_fuse_cloud results mqtt_task_queue_
  step := step pcl m put_time berth_id

end Steps
end MainProgram
end ShipMotion
